import EMSSHD.Core.Status
import EMSSHD.Framework.Machine

namespace EMSSHD

structure GridSize where
  cols : Nat
  rows : Nat
  colsPos : 0<cols
  rowsPos : 0<rows
  colsLt : cols<2^32
  rowsLt : rows<2^32

/-- screen_esc_state -/
inductive EscState where
  | ground
  | escape
  | csi
  deriving DecidableEq

/-- The screen of an emtask_term_t. Only the cells below cellCount exist, row by row. -/
structure Screen where
  size : GridSize
  cells : Nat → UInt16
  cursorCol : Nat
  cursorRow : Nat
  savedCol : Nat
  savedRow : Nat
  scrollTop : Nat
  scrollBottom : Nat
  wrapPending : Bool
  escState : EscState
  csi : Bytes

def screenCsiSize : Nat := 64

namespace Screen

def cols (s : Screen) : Nat := s.size.cols
def rows (s : Screen) : Nat := s.size.rows
def cellCount (s : Screen) : Nat := s.cols*s.rows

def fill (s : Screen) (lo hi : Nat) : Screen :=
  {s with cells := fun i => if lo ≤ i ∧ i<hi ∧ i<s.cellCount then 32 else s.cells i}

def moveCells (s : Screen) (dst src len : Nat) : Screen :=
  {s with cells := fun i =>
    if dst ≤ i ∧ i<dst+len ∧ i<s.cellCount then s.cells (src+(i-dst)) else s.cells i}

/-- The screen of a size as emtask_screen_reset_locked leaves it. -/
def blank (size : GridSize) : Screen where
  size := size
  cells := fun _ => 32
  cursorCol := 0
  cursorRow := 0
  savedCol := 0
  savedRow := 0
  scrollTop := 0
  scrollBottom := size.rows-1
  wrapPending := false
  escState := .ground
  csi := []

def reset (s : Screen) : Screen := blank s.size

def region (s : Screen) : Nat×Nat :=
  if s.rows ≤ s.scrollBottom ∨ s.scrollBottom<s.scrollTop then (0,s.rows-1)
  else (s.scrollTop,s.scrollBottom)

def scrollUp (s : Screen) : Screen :=
  let line := s.cols
  let (top,bottom) := s.region
  let moved := if top<bottom then s.moveCells (top*line) ((top+1)*line) (line*(bottom-top)) else s
  moved.fill (bottom*line) ((bottom+1)*line)

def scrollDown (s : Screen) : Screen :=
  let line := s.cols
  let (top,bottom) := s.region
  let moved := if top<bottom then s.moveCells ((top+1)*line) (top*line) (line*(bottom-top)) else s
  moved.fill (top*line) ((top+1)*line)

def newline (s : Screen) : Screen :=
  let s := {s with wrapPending := false}
  if s.cursorRow=s.scrollBottom then s.scrollUp
  else if s.rows ≤ s.cursorRow+1 then {s with cursorRow := s.rows-1}
  else {s with cursorRow := s.cursorRow+1}

def reverseIndex (s : Screen) : Screen :=
  let s := {s with wrapPending := false}
  if s.cursorRow=s.scrollTop then s.scrollDown
  else if s.cursorRow≠0 then {s with cursorRow := s.cursorRow-1}
  else s

def setCell (s : Screen) (ch : UInt8) : Screen :=
  let pos := s.cursorRow*s.cols+s.cursorCol
  {s with cells := fun i =>
    if i=pos ∧ i<s.cellCount then (if 32 ≤ ch ∧ ch≠127 then ch.toUInt16 else 32) else s.cells i}

def wrap (s : Screen) : Screen :=
  if s.wrapPending then newline {s with cursorCol := 0} else s

def putChar (s : Screen) (ch : UInt8) : Screen :=
  let s := s.wrap.setCell ch
  if s.cols ≤ s.cursorCol+1 then {s with wrapPending := true}
  else {s with cursorCol := s.cursorCol+1}
end Screen

def wrapInt (value : Int) : Int := Int.bmod value (2^32)

def withDigit (value : Int) (ch : UInt8) : Int :=
  (if value<0 then 0 else value)*10+(ch.toNat-48 : Nat)

/-- The loop of emtask_screen_csi_param over what is left of the text, with the numbers that it
computes on its way. -/
def csiParamLoop (index : Nat) (defaultValue : Int) : Bytes → Nat → Int → Int×List Int
  | [],current,value =>
    (if current=index then (if value<0 then defaultValue else value) else defaultValue,[])
  | ch::text,current,value =>
    if isDigit ch then
      let number := withDigit value ch
      let (result,numbers) := csiParamLoop index defaultValue text current (wrapInt number)
      (result,number::numbers)
    else if ch=63 ∨ ch=62 ∨ ch=32 then csiParamLoop index defaultValue text current value
    else if ch=59 then
      if current=index then (if value<0 then defaultValue else value,[])
      else csiParamLoop index defaultValue text (current+1) (-1)
    else csiParamLoop index defaultValue text current value

def csiParam (text : Bytes) (index : Nat) (defaultValue : Int) : Int :=
  (csiParamLoop index defaultValue text 0 (-1)).1

/-- The numbers that emtask_screen_csi_param computes. -/
def csiParamNumbers (text : Bytes) (index : Nat) (defaultValue : Int) : List Int :=
  (csiParamLoop index defaultValue text 0 (-1)).2

inductive CsiFunction where
  | up
  | down
  | right
  | left
  | column
  | position
  | row
  | clearDisplay
  | clearLine
  | insertLines
  | deleteLines
  | insertChars
  | deleteChars
  | eraseChars
  | scrollUp
  | scrollDown
  | setRegion
  | saveCursor
  | restoreCursor
  | unknown
  deriving DecidableEq

/-- The cases of emtask_screen_apply_csi_locked. -/
def csiFunction (final : UInt8) : CsiFunction :=
  match Char.ofNat final.toNat with
  | 'A' => .up
  | 'B' => .down
  | 'C' => .right
  | 'D' => .left
  | 'G' => .column
  | 'H' => .position
  | 'f' => .position
  | 'd' => .row
  | 'J' => .clearDisplay
  | 'K' => .clearLine
  | 'L' => .insertLines
  | 'M' => .deleteLines
  | '@' => .insertChars
  | 'P' => .deleteChars
  | 'X' => .eraseChars
  | 'S' => .scrollUp
  | 'T' => .scrollDown
  | 'r' => .setRegion
  | 's' => .saveCursor
  | 'u' => .restoreCursor
  | _ => .unknown

namespace Screen

def clearLine (s : Screen) (startCol endCol : Nat) : Screen :=
  if s.rows ≤ s.cursorRow then s
  else
    let endCol := if s.cols ≤ endCol then s.cols-1 else endCol
    s.fill (s.cursorRow*s.cols+startCol) (s.cursorRow*s.cols+(endCol+1))

def clearDisplay (s : Screen) (mode : Int) : Screen :=
  let cell := s.cursorRow*s.cols+s.cursorCol
  if mode=2 ∨ mode=3 then s.fill 0 s.cellCount
  else if mode=0 then s.fill cell s.cellCount
  else if mode=1 then s.fill 0 (cell+1)
  else s

def insertLines (s : Screen) (count : Nat) : Screen :=
  if count=0 ∨ s.cursorRow<s.scrollTop ∨ s.scrollBottom<s.cursorRow then s
  else
    let line := s.cols
    let row := s.cursorRow
    let bottom := s.scrollBottom
    let count := min count (bottom-row+1)
    (s.moveCells ((row+count)*line) (row*line) ((bottom-row+1-count)*line)).fill
      (row*line) ((row+count)*line)

def deleteLines (s : Screen) (count : Nat) : Screen :=
  if count=0 ∨ s.cursorRow<s.scrollTop ∨ s.scrollBottom<s.cursorRow then s
  else
    let line := s.cols
    let row := s.cursorRow
    let bottom := s.scrollBottom
    let count := min count (bottom-row+1)
    (s.moveCells (row*line) ((row+count)*line) ((bottom-row+1-count)*line)).fill
      ((bottom+1-count)*line) ((bottom+1)*line)

def insertChars (s : Screen) (count : Nat) : Screen :=
  if count=0 ∨ s.cols ≤ s.cursorCol then s
  else
    let line := s.cols
    let start := s.cursorRow*line+s.cursorCol
    let count := min count (line-s.cursorCol)
    (s.moveCells (start+count) start (line-s.cursorCol-count)).fill start (start+count)

def deleteChars (s : Screen) (count : Nat) : Screen :=
  if count=0 ∨ s.cols ≤ s.cursorCol then s
  else
    let line := s.cols
    let start := s.cursorRow*line+s.cursorCol
    let count := min count (line-s.cursorCol)
    (s.moveCells start (start+count) (line-s.cursorCol-count)).fill
      (s.cursorRow*line+line-count) (s.cursorRow*line+line)

def eraseChars (s : Screen) (count : Nat) : Screen :=
  if count=0 ∨ s.cols ≤ s.cursorCol then s
  else
    let start := s.cursorRow*s.cols+s.cursorCol
    let count := min count (s.cols-s.cursorCol)
    s.fill start (start+count)

def saveCursor (s : Screen) : Screen :=
  {s with savedCol := s.cursorCol,savedRow := s.cursorRow}

def restoreCursor (s : Screen) : Screen :=
  {s with cursorCol := s.savedCol,cursorRow := s.savedRow}

def place (size : Nat) (n : Int) : Nat := min (size-1) (n-1).toNat

def back (position : Nat) (n : Int) : Nat :=
  if wrapInt position<n then 0 else (wrapInt position-n).toNat

def setRegion (s : Screen) (n m : Int) : Screen :=
  let n := if n<1 then 1 else n
  let m := if m<1 then wrapInt s.rows else m
  if n < m ∧ m ≤ wrapInt s.rows then
    {s with scrollTop := (n-1).toNat,scrollBottom := (m-1).toNat,cursorCol := 0,cursorRow := 0}
  else s

def applyFunction (s : Screen) (function : CsiFunction) : Screen :=
  let n := csiParam s.csi 0 1
  let m := csiParam s.csi 1 1
  match function with
  | .up => {s with cursorRow := back s.cursorRow n}
  | .down => {s with cursorRow := min (s.rows-1) (s.cursorRow+n.toNat)}
  | .right => {s with cursorCol := min (s.cols-1) (s.cursorCol+n.toNat)}
  | .left => {s with cursorCol := back s.cursorCol n}
  | .column => {s with cursorCol := place s.cols n}
  | .position => {s with cursorRow := place s.rows n,cursorCol := place s.cols m}
  | .row => {s with cursorRow := place s.rows n}
  | .clearDisplay => s.clearDisplay (csiParam s.csi 0 0)
  | .clearLine =>
    let n := csiParam s.csi 0 0
    if n=1 then s.clearLine 0 s.cursorCol
    else if n=2 then s.clearLine 0 (s.cols-1)
    else s.clearLine s.cursorCol (s.cols-1)
  | .insertLines => s.insertLines n.toNat
  | .deleteLines => s.deleteLines n.toNat
  | .insertChars => s.insertChars n.toNat
  | .deleteChars => s.deleteChars n.toNat
  | .eraseChars => s.eraseChars n.toNat
  | .scrollUp => Screen.scrollUp^[n.toNat] s
  | .scrollDown => Screen.scrollDown^[n.toNat] s
  | .setRegion => s.setRegion n m
  | .saveCursor => s.saveCursor
  | .restoreCursor => s.restoreCursor
  | .unknown => s

def applyCsi (s : Screen) (final : UInt8) : Screen :=
  {s.applyFunction (csiFunction final) with wrapPending := false}

def feedEscape (s : Screen) (ch : UInt8) : Screen :=
  if ch=91 then {s with escState := .csi,csi := []}
  else if ch=55 then {s.saveCursor with escState := .ground}
  else if ch=56 then {s.restoreCursor with escState := .ground}
  else if ch=99 then {s.reset with escState := .ground}
  else if ch=68 then {s.newline with escState := .ground}
  else if ch=77 then {s.reverseIndex with escState := .ground}
  else if ch=69 then {newline {s with cursorCol := 0} with escState := .ground}
  else {s with escState := .ground}

def isFinal (ch : UInt8) : Bool := 64 ≤ ch && ch ≤ 126

def feedCsi (s : Screen) (ch : UInt8) : Screen :=
  if isFinal ch then {s.applyCsi ch with escState := .ground,csi := []}
  else if s.csi.length+1<screenCsiSize then {s with csi := s.csi++[ch]}
  else s

def feedGround (s : Screen) (ch : UInt8) : Screen :=
  if ch=27 then {s with escState := .escape}
  else if ch=13 then {s with cursorCol := 0,wrapPending := false}
  else if ch=10 then s.newline
  else if ch=8 then {s with cursorCol := s.cursorCol-1,wrapPending := false}
  else if 32 ≤ ch then s.putChar ch
  else s

def feedByte (s : Screen) (ch : UInt8) : Screen :=
  match s.escState with
  | .escape => s.feedEscape ch
  | .csi => s.feedCsi ch
  | .ground => s.feedGround ch

def tabStop (s : Screen) : Nat := (s.cursorCol+8)%2^32/8*8
end Screen

/-- emtask_screen_feed_locked on its way: the screen, the bytes it has not looked at, and the
column that the loop of a tab is going to. -/
structure FeedState where
  screen : Screen
  input : Bytes
  tab : Option Nat

def feedStep (c : FeedState) : Option FeedState :=
  match c.tab with
  | some next =>
    if c.screen.cursorCol<next ∧ c.screen.cursorCol<c.screen.cols then
      some {c with screen := c.screen.putChar 32}
    else some {c with tab := none}
  | none => match c.input with
    | [] => none
    | ch::input =>
      if c.screen.escState=.ground ∧ ch=9 then some ⟨c.screen,input,some c.screen.tabStop⟩
      else some ⟨c.screen.feedByte ch,input,none⟩

def emtaskDefaultTermCols : UInt32 := 80
def emtaskDefaultTermRows : UInt32 := 24

/-- The new cells of emtask_screen_resize_locked. The flag says whether there is memory. -/
def newScreen (cols rows : UInt32) (allocated : Bool) : Except Err Screen :=
  if h : cols.toNat*rows.toNat=0 ∨ 1000000<cols.toNat*rows.toNat then .error .invalidArgument
  else if allocated=false then .error .platform
  else .ok (Screen.blank {
    cols := cols.toNat
    rows := rows.toNat
    colsPos := by grind
    rowsPos := by grind
    colsLt := cols.toNat_lt
    rowsLt := rows.toNat_lt })

/-- emtask_screen_resize_locked with the snapshot on. There is no screen before the first
call. -/
def screenResize (screen : Option Screen) (cols rows : UInt32) (allocated : Bool) :
    Except Err Screen :=
  let cols := if cols=0 then emtaskDefaultTermCols else cols
  let rows := if rows=0 then emtaskDefaultTermRows else rows
  match screen.filter (fun s => decide (s.cols=cols.toNat ∧ s.rows=rows.toNat)) with
  | some s => .ok s
  | none => newScreen cols rows allocated

/-- The states of an emulator, at any point of its feeds. It starts with a blank screen. -/
inductive EmulatorRun : FeedState → Prop where
  | fresh (size : GridSize) : EmulatorRun ⟨.blank size,[],none⟩
  | resized {s t : Screen} {cols rows : UInt32} {allocated : Bool} : EmulatorRun ⟨s,[],none⟩ →
      screenResize (some s) cols rows allocated=.ok t → EmulatorRun ⟨t,[],none⟩
  | fed {s : Screen} (bytes : Bytes) : EmulatorRun ⟨s,[],none⟩ → EmulatorRun ⟨s,bytes,none⟩
  | step {c d : FeedState} : EmulatorRun c → feedStep c=some d → EmulatorRun d

end EMSSHD
