import EMSSHD.App.Emtask.Screen

namespace EMSSHD

def InInt (value : Int) : Prop := -2^31 ≤ value ∧ value<2^31

variable {defaultValue value : Int} {ch : UInt8} {current index : Nat} {text : Bytes}
  {c d : FeedState} {cols rows : UInt32} {allocated : Bool} {t : Screen}

lemma wrapInt_of_inInt (h : InInt value) : wrapInt value=value := by
  obtain ⟨hlo,hhi⟩ := h
  simp only [wrapInt,Int.bmod,Nat.reducePow,Nat.cast_ofNat]
  split_ifs <;> omega

lemma wrapInt_le (n : Nat) : wrapInt n≤n := by
  simp only [wrapInt,Int.bmod,Nat.reducePow,Nat.cast_ofNat]
  split_ifs <;> omega

namespace Screen

/-- Every index of the screen is within its bounds. -/
structure Bounded (s : Screen) : Prop where
  col : s.cursorCol<s.cols
  row : s.cursorRow<s.rows
  savedCol : s.savedCol<s.cols
  savedRow : s.savedRow<s.rows
  region : s.scrollTop ≤ s.scrollBottom
  bottom : s.scrollBottom<s.rows
  csi : s.csi.length<screenCsiSize

def Redrawn (s t : Screen) : Prop := t={s with cells := t.cells}

variable {s t u : Screen}

/-- Only cells change, and each of them is blank then or a cell from before. -/
structure Redraws (s t : Screen) : Prop where
  frame : Redrawn s t
  copied : ∀ i,t.cells i=32 ∨ ∃ j,t.cells i=s.cells j

lemma Redraws.refl (s : Screen) : Redraws s s := ⟨Eq.refl s,fun i => .inr ⟨i,rfl⟩⟩

lemma Redraws.trans (hst : Redraws s t) (htu : Redraws t u) : Redraws s u where
  frame := by
    have hs := hst.frame
    have ht := htu.frame
    unfold Redrawn at hs ht ⊢
    rw [ht,hs]
  copied i := by
    rcases htu.copied i with hb | ⟨j,hj⟩
    · exact .inl hb
    rw [hj]
    exact hst.copied j

lemma Redrawn.bounded (h : Redrawn s t) (hs : s.Bounded) : t.Bounded := by
  rw [show t={s with cells := t.cells} from h]
  exact ⟨hs.col,hs.row,hs.savedCol,hs.savedRow,hs.region,hs.bottom,hs.csi⟩

lemma Redraws.bounded (h : Redraws s t) (hs : s.Bounded) : t.Bounded := h.frame.bounded hs

lemma fill_redrawn (s : Screen) (lo hi : Nat) : Redraws s (s.fill lo hi) where
  frame := Eq.refl _
  copied i := by
    unfold fill
    dsimp only
    split_ifs
    · exact .inl rfl
    · exact .inr ⟨i,rfl⟩

lemma moveCells_redrawn (s : Screen) (dst src len : Nat) :
    Redraws s (s.moveCells dst src len) where
  frame := Eq.refl _
  copied i := by
    unfold moveCells
    dsimp only
    split_ifs <;> exact .inr ⟨_,rfl⟩

lemma setCell_redrawn (s : Screen) (ch : UInt8) : Redrawn s (s.setCell ch) := Eq.refl _

lemma scrollUp_redrawn (s : Screen) : Redraws s s.scrollUp := by
  unfold scrollUp
  dsimp only
  split_ifs
  · exact (moveCells_redrawn s _ _ _).trans (fill_redrawn _ _ _)
  · exact fill_redrawn _ _ _

lemma scrollDown_redrawn (s : Screen) : Redraws s s.scrollDown := by
  unfold scrollDown
  dsimp only
  split_ifs
  · exact (moveCells_redrawn s _ _ _).trans (fill_redrawn _ _ _)
  · exact fill_redrawn _ _ _

lemma iterate_redrawn {f : Screen → Screen} (hf : ∀ s,Redraws s (f s)) (n : Nat) (s : Screen) :
    Redraws s (f^[n] s) := by
  induction n generalizing s with
  | zero => exact .refl s
  | succ n ih =>
    rw [Function.iterate_succ_apply]
    exact (hf s).trans (ih (f s))

lemma clearLine_redrawn (s : Screen) (startCol endCol : Nat) :
    Redraws s (s.clearLine startCol endCol) := by
  unfold clearLine
  dsimp only
  split_ifs <;> first | exact fill_redrawn _ _ _ | exact .refl s

lemma clearDisplay_redrawn (s : Screen) (mode : Int) : Redraws s (s.clearDisplay mode) := by
  unfold clearDisplay
  dsimp only
  split_ifs <;> first | exact fill_redrawn _ _ _ | exact .refl s

lemma insertLines_redrawn (s : Screen) (count : Nat) : Redraws s (s.insertLines count) := by
  unfold insertLines
  split_ifs
  · exact .refl s
  · exact (moveCells_redrawn s _ _ _).trans (fill_redrawn _ _ _)

lemma deleteLines_redrawn (s : Screen) (count : Nat) : Redraws s (s.deleteLines count) := by
  unfold deleteLines
  split_ifs
  · exact .refl s
  · exact (moveCells_redrawn s _ _ _).trans (fill_redrawn _ _ _)

lemma insertChars_redrawn (s : Screen) (count : Nat) : Redraws s (s.insertChars count) := by
  unfold insertChars
  split_ifs
  · exact .refl s
  · exact (moveCells_redrawn s _ _ _).trans (fill_redrawn _ _ _)

lemma deleteChars_redrawn (s : Screen) (count : Nat) : Redraws s (s.deleteChars count) := by
  unfold deleteChars
  split_ifs
  · exact .refl s
  · exact (moveCells_redrawn s _ _ _).trans (fill_redrawn _ _ _)

lemma eraseChars_redrawn (s : Screen) (count : Nat) : Redraws s (s.eraseChars count) := by
  unfold eraseChars
  split_ifs
  · exact .refl s
  · exact fill_redrawn _ _ _

lemma blank_bounded (size : GridSize) : (blank size).Bounded := by
  have hc := size.colsPos
  have hr := size.rowsPos
  have hl : size.rows-1<size.rows := by omega
  exact ⟨hc,hr,hc,hr,Nat.zero_le _,hl,by simp [blank,screenCsiSize]⟩

lemma Bounded.cursor (h : s.Bounded) {col row : Nat} (hc : col<s.cols) (hr : row<s.rows)
    (wrap : Bool) : Bounded {s with cursorCol := col,cursorRow := row,wrapPending := wrap} :=
  ⟨hc,hr,h.savedCol,h.savedRow,h.region,h.bottom,h.csi⟩

lemma Bounded.state (h : s.Bounded) (state : EscState) : Bounded {s with escState := state} :=
  ⟨h.col,h.row,h.savedCol,h.savedRow,h.region,h.bottom,h.csi⟩

lemma Bounded.buffer (h : s.Bounded) (state : EscState) {text : Bytes}
    (ht : text.length<screenCsiSize) : Bounded {s with escState := state,csi := text} :=
  ⟨h.col,h.row,h.savedCol,h.savedRow,h.region,h.bottom,ht⟩

lemma Bounded.saveCursor (h : s.Bounded) : s.saveCursor.Bounded :=
  ⟨h.col,h.row,h.col,h.row,h.region,h.bottom,h.csi⟩

lemma Bounded.restoreCursor (h : s.Bounded) : s.restoreCursor.Bounded :=
  ⟨h.savedCol,h.savedRow,h.savedCol,h.savedRow,h.region,h.bottom,h.csi⟩

lemma Bounded.newline (h : s.Bounded) : s.newline.Bounded := by
  have hl : s.rows-1<s.rows := by have := h.row; omega
  have hp : Bounded {s with wrapPending := false} := h.cursor h.col h.row false
  unfold Screen.newline
  dsimp only
  split_ifs with hb hr
  · exact (scrollUp_redrawn _).bounded hp
  · exact h.cursor h.col hl false
  · exact h.cursor h.col (Nat.lt_of_not_le hr) false

lemma Bounded.reverseIndex (h : s.Bounded) : s.reverseIndex.Bounded := by
  have hp : Bounded {s with wrapPending := false} := h.cursor h.col h.row false
  unfold Screen.reverseIndex
  dsimp only
  split_ifs with ht hz
  · exact (scrollDown_redrawn _).bounded hp
  · exact h.cursor h.col (Nat.lt_of_le_of_lt (Nat.sub_le _ 1) h.row) false
  · exact hp

lemma Bounded.wrap (h : s.Bounded) : s.wrap.Bounded := by
  have hz : 0<s.cols := s.size.colsPos
  unfold Screen.wrap
  split_ifs
  · exact (h.cursor hz h.row s.wrapPending).newline
  · exact h

lemma Bounded.putChar (h : s.Bounded) (ch : UInt8) : (s.putChar ch).Bounded := by
  have hs := (setCell_redrawn s.wrap ch).bounded h.wrap
  unfold Screen.putChar
  dsimp only
  split_ifs with he
  · exact hs.cursor hs.col hs.row true
  · exact hs.cursor (Nat.lt_of_not_le he) hs.row _
end Screen

lemma csiParamLoop_nonneg (index : Nat) (hd : 0≤defaultValue) (text : Bytes)
    (current : Nat) (value : Int) : 0≤(csiParamLoop index defaultValue text current value).1 := by
  induction text generalizing current value with
  | nil =>
    unfold csiParamLoop
    dsimp only
    split_ifs <;> omega
  | cons ch text ih =>
    unfold csiParamLoop
    split_ifs
    · exact ih _ _
    · exact ih _ _
    · exact hd
    · show 0≤value
      omega
    · exact ih _ _
    · exact ih _ _

namespace Screen
variable {s : Screen}

lemma place_lt {size : Nat} (hs : 0<size) (n : Int) : place size n<size := by
  unfold place
  omega

lemma back_le (position : Nat) {n : Int} (hn : 0≤n) : back position n≤position := by
  have hle := wrapInt_le position
  unfold back
  split_ifs <;> omega

lemma Bounded.setRegion (h : s.Bounded) (n m : Int) : (s.setRegion n m).Bounded := by
  have hle := wrapInt_le s.rows
  have hc : 0<s.cols := s.size.colsPos
  have hrw : 0<s.rows := s.size.rowsPos
  unfold Screen.setRegion
  dsimp only
  generalize hn : (if n<1 then 1 else n)=first
  generalize hm : (if m<1 then wrapInt s.rows else m)=last
  have hf : 1≤first := by subst hn; split_ifs <;> omega
  split_ifs with hrg
  · have hr : (first-1).toNat≤(last-1).toNat := by omega
    have hb : (last-1).toNat<s.rows := by omega
    exact ⟨hc,hrw,h.savedCol,h.savedRow,hr,hb,h.csi⟩
  · exact h

lemma Bounded.applyFunction (h : s.Bounded) (function : CsiFunction) :
    (s.applyFunction function).Bounded := by
  have hc : 0<s.cols := s.size.colsPos
  have hr : 0<s.rows := s.size.rowsPos
  have hn : 0 ≤ csiParam s.csi 0 1 := csiParamLoop_nonneg 0 (by omega) s.csi 0 (-1)
  have hb (position : Nat) := back_le position hn
  cases function with
  | up => exact h.cursor h.col (Nat.lt_of_le_of_lt (hb _) h.row) s.wrapPending
  | down => exact h.cursor h.col (Nat.lt_of_le_of_lt (Nat.min_le_left _ _) (by omega)) s.wrapPending
  | right => exact h.cursor (Nat.lt_of_le_of_lt (Nat.min_le_left _ _) (by omega)) h.row s.wrapPending
  | left => exact h.cursor (Nat.lt_of_le_of_lt (hb _) h.col) h.row s.wrapPending
  | column => exact h.cursor (place_lt hc _) h.row s.wrapPending
  | position => exact h.cursor (place_lt hc _) (place_lt hr _) s.wrapPending
  | row => exact h.cursor h.col (place_lt hr _) s.wrapPending
  | clearDisplay => exact (clearDisplay_redrawn s _).bounded h
  | clearLine =>
    unfold Screen.applyFunction
    dsimp only
    split_ifs <;> exact (clearLine_redrawn s _ _).bounded h
  | insertLines => exact (insertLines_redrawn s _).bounded h
  | deleteLines => exact (deleteLines_redrawn s _).bounded h
  | insertChars => exact (insertChars_redrawn s _).bounded h
  | deleteChars => exact (deleteChars_redrawn s _).bounded h
  | eraseChars => exact (eraseChars_redrawn s _).bounded h
  | scrollUp => exact (iterate_redrawn scrollUp_redrawn _ s).bounded h
  | scrollDown => exact (iterate_redrawn scrollDown_redrawn _ s).bounded h
  | setRegion => exact h.setRegion _ _
  | saveCursor => exact h.saveCursor
  | restoreCursor => exact h.restoreCursor
  | unknown => exact h

lemma Bounded.applyCsi (h : s.Bounded) (final : UInt8) : (s.applyCsi final).Bounded := by
  have ha := h.applyFunction (csiFunction final)
  exact ha.cursor ha.col ha.row false

lemma Bounded.feedEscape (h : s.Bounded) (ch : UInt8) : (s.feedEscape ch).Bounded := by
  have hz : 0<s.cols := s.size.colsPos
  unfold Screen.feedEscape
  split_ifs
  · exact h.buffer _ (by simp [screenCsiSize])
  · exact h.saveCursor.state _
  · exact h.restoreCursor.state _
  · exact (blank_bounded s.size).state _
  · exact h.newline.state _
  · exact h.reverseIndex.state _
  · exact (h.cursor hz h.row s.wrapPending).newline.state _
  · exact h.state _

lemma Bounded.feedCsi (h : s.Bounded) (ch : UInt8) : (s.feedCsi ch).Bounded := by
  unfold Screen.feedCsi
  split_ifs with hf hr
  · exact (h.applyCsi ch).buffer _ (by simp [screenCsiSize])
  · exact h.buffer s.escState (by rw [length_append]; exact hr)
  · exact h

lemma Bounded.feedGround (h : s.Bounded) (ch : UInt8) : (s.feedGround ch).Bounded := by
  have hz : 0<s.cols := s.size.colsPos
  unfold Screen.feedGround
  split_ifs
  · exact h.state _
  · exact h.cursor hz h.row false
  · exact h.newline
  · exact h.cursor (Nat.lt_of_le_of_lt (Nat.sub_le _ 1) h.col) h.row false
  · exact h.putChar ch
  · exact h

lemma Bounded.feedByte (h : s.Bounded) (ch : UInt8) : (s.feedByte ch).Bounded := by
  unfold Screen.feedByte
  cases s.escState with
  | ground => exact h.feedGround ch
  | escape => exact h.feedEscape ch
  | csi => exact h.feedCsi ch
end Screen

def csiField : Nat → Bytes → Bytes
  | 0,text => text.takeWhile (fun ch => decide (ch≠59))
  | index+1,text => csiField index ((text.dropWhile (fun ch => decide (ch≠59))).drop 1)

def decimalFrom (number : Nat) : Bytes → Nat
  | [] => number
  | ch::text => decimalFrom (if isDigit ch then number*10+(ch.toNat-48) else number) text

def decimal (text : Bytes) : Nat := decimalFrom 0 text

lemma le_decimalFrom (number : Nat) (text : Bytes) : number≤decimalFrom number text := by
  induction text generalizing number with
  | nil => exact Nat.le_refl number
  | cons ch text ih =>
    unfold decimalFrom
    refine Nat.le_trans ?_ (ih _)
    split_ifs <;> omega

lemma csiField_nil (index : Nat) : csiField index []=[] := by
  induction index with
  | zero => rfl
  | succ index ih => exact ih

lemma csiField_semicolon (index : Nat) (text : Bytes) :
    csiField (index+1) (59::text)=csiField index text := by
  simp [csiField]

lemma csiField_zero_cons (hch : ch≠59) (text : Bytes) :
    csiField 0 (ch::text)=ch::csiField 0 text := by
  simp [csiField,hch]

lemma csiField_succ_cons (hch : ch≠59) (index : Nat) (text : Bytes) :
    csiField (index+1) (ch::text)=csiField (index+1) text := by
  simp [csiField,hch]

/-- The numbers of the parameters left to read are small: the one behind a value read so far,
and the later ones up to index. -/
def FieldsSmall (index current : Nat) (value : Int) (text : Bytes) : Prop :=
  decimalFrom value.toNat (csiField 0 text)<2^31 ∧
  ∀ k,k < index-current → decimal (csiField (k+1) text)<2^31

lemma fieldsSmall_skip (hd : ¬isDigit ch=true) (hch : ch≠59) :
    FieldsSmall index current value (ch::text) ↔ FieldsSmall index current value text := by
  unfold FieldsSmall
  simp only [csiField_zero_cons hch,csiField_succ_cons hch,decimalFrom,if_neg hd]

lemma fieldsSmall_digit {number : Int} (hd : isDigit ch=true) (hn : withDigit value ch=number) :
    FieldsSmall index current value (ch::text) ↔ FieldsSmall index current number text := by
  have hch : ch≠59 := by
    intro hch
    rw [hch] at hd
    exact absurd hd (by decide)
  have hnt : value.toNat*10+(ch.toNat-48)=number.toNat := by
    rw [← hn]
    unfold withDigit
    split_ifs <;> omega
  unfold FieldsSmall
  simp only [csiField_zero_cons hch,csiField_succ_cons hch,decimalFrom,if_pos hd,hnt]

lemma fieldsSmall_semicolon (hc : current < index) (hv : value<2^31) :
    FieldsSmall index current value (59::text) ↔ FieldsSmall index (current+1) (-1) text := by
  have hs : index-current=index-(current+1)+1 := by omega
  have hr : decimalFrom value.toNat (csiField 0 (59::text))<2^31 := by
    show value.toNat<2^31
    omega
  unfold FieldsSmall
  simp only [csiField_semicolon,hs]
  constructor
  · intro h
    exact ⟨h.2 0 (by omega),fun k hk => h.2 (k+1) (by omega)⟩
  intro h
  refine ⟨hr,fun k hk => ?_⟩
  cases k with
  | zero => exact h.1
  | succ k => exact h.2 k (by omega)

lemma csiParamLoop_inInt_iff (index : Nat) (defaultValue : Int) (text : Bytes) (current : Nat)
    (value : Int) (hc : current ≤ index) (hv : InInt value) :
    (∀ number ∈ (csiParamLoop index defaultValue text current value).2,InInt number) ↔
      FieldsSmall index current value text := by
  induction text generalizing current value with
  | nil =>
    have hsm : FieldsSmall index current value [] := by
      refine ⟨?_,fun k _ => ?_⟩
      · have := hv.2
        show value.toNat<2^31
        omega
      rw [csiField_nil]
      show 0<2^31
      omega
    exact iff_of_true (by simp [csiParamLoop]) hsm
  | cons ch text ih =>
    by_cases hd : isDigit ch=true
    · simp only [csiParamLoop,if_pos hd,forall_mem_cons]
      rw [fieldsSmall_digit hd rfl]
      have hnn : 0≤withDigit value ch := by
        unfold withDigit
        split_ifs <;> omega
      by_cases hn : withDigit value ch<2^31
      · have hin : InInt (withDigit value ch) := ⟨by omega,hn⟩
        rw [wrapInt_of_inInt hin,ih current _ hc hin]
        exact and_iff_right hin
      refine iff_of_false (fun h => hn h.1.2) (fun h => ?_)
      have hle := le_decimalFrom (withDigit value ch).toNat (csiField 0 text)
      have hlt := h.1
      omega
    by_cases hs : ch=59
    · subst hs
      have hsp : ¬((59 : UInt8)=63 ∨ (59 : UInt8)=62 ∨ (59 : UInt8)=32) := by decide
      simp only [csiParamLoop,if_neg hd,if_neg hsp,if_true]
      by_cases hi : current=index
      · subst hi
        have hsm : FieldsSmall current current value (59::text) := by
          refine ⟨?_,fun k hk => absurd hk (by omega)⟩
          have := hv.2
          show value.toNat<2^31
          omega
        simpa using hsm
      have hlt : current < index := Nat.lt_of_le_of_ne hc hi
      rw [if_neg hi,fieldsSmall_semicolon hlt hv.2]
      exact ih (current+1) (-1) hlt ⟨by omega,by omega⟩
    rw [fieldsSmall_skip hd hs,← ih current value hc hv]
    simp only [csiParamLoop,if_neg hd,if_neg hs,ite_self]

/-- The numbers of a parameter stay in an int just when its digits, and those of the parameters
before it, spell numbers of an int. -/
theorem csiParamNumbers_inInt_iff (text : Bytes) (index : Nat) (defaultValue : Int) :
    (∀ number ∈ csiParamNumbers text index defaultValue,InInt number) ↔
      ∀ k,k ≤ index → decimal (csiField k text)<2^31 := by
  have hs : InInt (-1) := ⟨by omega,by omega⟩
  unfold csiParamNumbers
  rw [csiParamLoop_inInt_iff index defaultValue text 0 (-1) (Nat.zero_le _) hs]
  constructor
  · intro h k hk
    cases k with
    | zero => exact h.1
    | succ k => exact h.2 k (by omega)
  intro h
  exact ⟨h 0 (Nat.zero_le _),fun k hk => h (k+1) (by omega)⟩

def FeedState.csiText (c : FeedState) : Option Bytes :=
  match c.tab,c.input with
  | none,ch::_ =>
    if c.screen.escState=.csi ∧ Screen.isFinal ch=true then some c.screen.csi else none
  | _,_ => none

lemma feedStep_bounded (hs : feedStep c=some d) (h : c.screen.Bounded) : d.screen.Bounded := by
  unfold feedStep at hs
  split at hs
  · split_ifs at hs <;> cases hs
    · exact h.putChar 32
    · exact h
  split at hs
  · exact nomatch hs
  split_ifs at hs <;> cases hs
  · exact h
  · exact h.feedByte _

lemma newScreen_ok (h : newScreen cols rows allocated=.ok t) : ∃ size,t=.blank size := by
  unfold newScreen at h
  split_ifs at h
  exact ⟨_,(Except.ok.inj h).symm⟩

lemma screenResize_ok {screen : Option Screen}
    (h : screenResize screen cols rows allocated=.ok t) : screen=some t ∨ ∃ size,t=.blank size := by
  unfold screenResize at h
  dsimp only at h
  split at h
  · rename_i s hs
    cases h
    exact .inl (Option.eq_some_of_filter_eq_some hs)
  · exact .inr (newScreen_ok h)

lemma EmulatorRun.bounded (hrn : EmulatorRun c) : c.screen.Bounded := by
  induction hrn with
  | fresh size => exact Screen.blank_bounded size
  | resized _ hr ih =>
    rcases screenResize_ok hr with hs | ⟨size,hb⟩
    · cases hs
      exact ih
    rw [hb]
    exact Screen.blank_bounded size
  | fed _ _ ih => exact ih
  | step _ hst ih => exact feedStep_bounded hst ih

lemma EmulatorRun.opened {s : Screen} {cols rows : UInt32} {allocated : Bool}
    (h : screenResize none cols rows allocated=.ok s) : EmulatorRun ⟨s,[],none⟩ := by
  rcases screenResize_ok h with hs | ⟨size,hb⟩
  · exact nomatch hs
  rw [hb]
  exact .fresh size

lemma EmulatorRun.steps (hr : EmulatorRun c) (hs : Machine.Steps feedStep c d) : EmulatorRun d := by
  induction hs with
  | refl => exact hr
  | tail _ hst ih => exact ih.step hst

def defaultSize : GridSize := ⟨80,24,by decide,by decide,by decide,by decide⟩

lemma screenResize_default : screenResize none 0 0 true=.ok (.blank defaultSize) := by
  simp [screenResize,newScreen,defaultSize,emtaskDefaultTermCols,emtaskDefaultTermRows]

lemma EmulatorRun.of_default {bytes : Bytes} {n : Nat}
    (h : Machine.runFor feedStep n ⟨.blank defaultSize,bytes,none⟩=some c) : EmulatorRun c :=
  ((EmulatorRun.opened screenResize_default).fed bytes).steps (.of_runFor h)

/-- Whatever an emulator has been fed, its indices are within their bounds. The numbers of the
parameters that it reads next stay in an int just when their digits spell numbers of an int. -/
theorem emulator_bounded_iff (c : FeedState) (hrun : EmulatorRun c) :
    c.screen.Bounded ∧
    ((∀ text ∈ c.csiText,∀ index,index<2 → ∀ defaultValue,
        ∀ number ∈ csiParamNumbers text index defaultValue,InInt number) ↔
      ∀ text ∈ c.csiText,∀ index,index<2 → decimal (csiField index text)<2^31) := by
  refine ⟨hrun.bounded,?_⟩
  simp only [csiParamNumbers_inInt_iff]
  constructor
  · intro h text ht index hi
    exact h text ht index hi 0 index (Nat.le_refl _)
  intro h text ht index hi _ k hk
  exact h text ht k (by omega)

theorem emulator_bounded_iff_position : ∃ c,EmulatorRun c ∧ c.csiText=some [53,59,55] ∧
    c.screen.Bounded ∧ ∀ text ∈ c.csiText,∀ index,index<2 → ∀ defaultValue,
      ∀ number ∈ csiParamNumbers text index defaultValue,InInt number := by
  have hrd : (Machine.runFor feedStep 5 ⟨.blank defaultSize,[27,91,53,59,55,72],none⟩).bind
      FeedState.csiText=some [53,59,55] := by decide +kernel
  obtain ⟨c,hc,ht⟩ := Option.bind_eq_some_iff.mp hrd
  have hr : EmulatorRun c := .of_default hc
  obtain ⟨hb,hi⟩ := emulator_bounded_iff c hr
  refine ⟨c,hr,ht,hb,hi.mpr ?_⟩
  rw [ht]
  intro text ht
  cases ht
  decide

/-- Ten digits are enough to leave the range of an int. -/
theorem csi_number_leaves_int : ∃ c,EmulatorRun c ∧ ∃ text ∈ c.csiText,
    ∃ number ∈ csiParamNumbers text 0 1,¬InInt number := by
  have hr : (Machine.runFor feedStep 12
      ⟨.blank defaultSize,[27,91,57,57,57,57,57,57,57,57,57,57,65],none⟩).bind
      FeedState.csiText=some [57,57,57,57,57,57,57,57,57,57] := by decide +kernel
  obtain ⟨c,hc,ht⟩ := Option.bind_eq_some_iff.mp hr
  have hn : 9999999999 ∈ csiParamNumbers [57,57,57,57,57,57,57,57,57,57] 0 1 := by decide +kernel
  exact ⟨c,.of_default hc,_,ht,_,hn,by unfold InInt; omega⟩

end EMSSHD
