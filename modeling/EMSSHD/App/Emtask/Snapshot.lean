import EMSSHD.App.Emtask.Screen
import EMSSHD.Framework.Pieces

namespace EMSSHD

open Pieces

/-- screen_snapshot_phase -/
inductive SnapshotPhase where
  | head
  | cells
  | tail
  deriving DecidableEq

def SnapshotPhase.rank : SnapshotPhase → Nat
  | .head => 0
  | .cells => 1
  | .tail => 2

/-- The part of an emtask_term_attachment_t that a snapshot goes on from. -/
structure SnapshotState where
  pending : Bool
  phase : SnapshotPhase
  offset : Nat
  deriving DecidableEq

namespace SnapshotState

/-- A snapshot as emtask_term_attach asks for it. -/
def fresh : SnapshotState := ⟨true,.head,0⟩
end SnapshotState

def snapshotHead : Bytes := [27,91,63,49,48,52,57,104,27,91,72,27,91,50,74]

def decimalText (n : Nat) : Bytes :=
  if n<10 then [48+n.toUInt8] else decimalText (n/10)++[48+(n%10).toUInt8]
termination_by n

def snapshotTail (s : Screen) : Bytes :=
  [27,91]++decimalText ((s.cursorRow+1)%2^32)++[59]++decimalText ((s.cursorCol+1)%2^32)++[72]

def cellByte (s : Screen) (cell : Nat) : UInt8 :=
  (if s.cells cell≠0 then s.cells cell else 32).toUInt8

def startsRow (s : Screen) (cell : Nat) : Bool := cell≠0 && cell%s.cols=0

def snapshotCells (s : Screen) (room cell : Nat) : Bytes×SnapshotState :=
  if room=0 then ([],⟨true,.cells,cell⟩)
  else if s.cellCount ≤ cell then ([],⟨true,.tail,0⟩)
  else if startsRow s cell then
    if room=1 then ([13],⟨true,.cells,cell⟩)
    else if room=2 then ([13,10],⟨true,.cells,cell⟩)
    else
      let (out,state) := snapshotCells s (room-3) (cell+1)
      ([13,10,cellByte s cell]++out,state)
  else
    let (out,state) := snapshotCells s (room-1) (cell+1)
    ([cellByte s cell]++out,state)
termination_by s.cellCount-cell

def copyHead (room : Nat) (state : SnapshotState) : Bytes×SnapshotState :=
  if state.phase=.head then
    let out := (snapshotHead.drop state.offset).take room
    if state.offset+out.length<snapshotHead.length then
      (out,{state with offset := state.offset+out.length})
    else (out,{state with phase := .cells,offset := 0})
  else ([],state)

def copyCells (s : Screen) (room : Nat) (state : SnapshotState) : Bytes×SnapshotState :=
  if state.phase=.cells then snapshotCells s room state.offset else ([],state)

def copyTail (s : Screen) (room : Nat) (state : SnapshotState) : Bytes×SnapshotState :=
  if state.phase=.tail then
    let out := ((snapshotTail s).drop state.offset).take room
    let offset := state.offset+out.length
    if (snapshotTail s).length ≤ offset then (out,{state with pending := false,offset := offset})
    else (out,{state with offset := offset})
  else ([],state)

/-- emtask_screen_snapshot_copy_locked, for a terminal that has a screen. -/
def snapshotCopy (s : Screen) (room : Nat) (state : SnapshotState) : Bytes×SnapshotState :=
  if room=0 ∨ state.pending=false then ([],state)
  else
    let (head,state) := copyHead room state
    let (cells,state) := copyCells s (room-head.length) state
    let (tail,state) := copyTail s (room-head.length-cells.length) state
    (head++cells++tail,state)

/-- Calls with rooms of their own on a fresh attachment: all that they have written, and the
attachment behind them. -/
def snapshotCalls (s : Screen) (rooms : Nat → Nat) : Nat → Bytes×SnapshotState
  | 0 => ([],.fresh)
  | k+1 =>
    let (out,state) := snapshotCalls s rooms k
    let (more,next) := snapshotCopy s (rooms k) state
    (out++more,next)

def cellPiece (s : Screen) (cell : Nat) : Bytes :=
  if startsRow s cell then [13,10,cellByte s cell] else [cellByte s cell]

def cellPieces (s : Screen) (cell : Nat) : List Bytes :=
  (List.range' cell (s.cellCount-cell)).map (cellPiece s)

def tailPieces (s : Screen) (offset : Nat) : List Bytes :=
  ((snapshotTail s).drop offset).map ([·])

namespace SnapshotState

def pieces (s : Screen) (state : SnapshotState) : List Bytes :=
  if state.pending then
    match state.phase with
    | .head => (snapshotHead.drop state.offset).map ([·])++(cellPieces s 0++tailPieces s 0)
    | .cells => cellPieces s state.offset++tailPieces s 0
    | .tail => tailPieces s state.offset
  else []

/-- A snapshot that is pending has something left of the part that it is in. -/
def Valid (s : Screen) (state : SnapshotState) : Prop :=
  state.pending=true → match state.phase with
    | .head => state.offset<snapshotHead.length
    | .cells => True
    | .tail => state.offset<(snapshotTail s).length
end SnapshotState

lemma singles_full (text : Bytes) : ∀ piece ∈ text.map ([·]),piece≠[] := by
  intro piece hp
  obtain ⟨ch,-,rfl⟩ := mem_map.mp hp
  simp

lemma cellPieces_full (s : Screen) (cell : Nat) : ∀ piece ∈ cellPieces s cell,piece≠[] := by
  intro piece hp
  obtain ⟨i,-,rfl⟩ := mem_map.mp hp
  unfold cellPiece
  split_ifs <;> simp

lemma pieces_full (s : Screen) (state : SnapshotState) : ∀ piece ∈ state.pieces s,piece≠[] := by
  intro piece hp
  unfold SnapshotState.pieces at hp
  split_ifs at hp
  · split at hp
    · rcases mem_append.mp hp with h | h
      · exact singles_full _ piece h
      rcases mem_append.mp h with h | h
      · exact cellPieces_full s 0 piece h
      · exact singles_full _ piece h
    · rcases mem_append.mp hp with h | h
      · exact cellPieces_full s _ piece h
      · exact singles_full _ piece h
    · exact singles_full _ piece hp
  · exact absurd hp not_mem_nil

variable {s : Screen} {cell : Nat}

lemma cellPieces_cons (hcl : cell<s.cellCount) :
    cellPieces s cell=cellPiece s cell::cellPieces s (cell+1) := by
  have hc : s.cellCount-cell=s.cellCount-(cell+1)+1 := by omega
  unfold cellPieces
  rw [hc,List.range'_succ,map_cons]

lemma cellPieces_nil (hc : s.cellCount ≤ cell) : cellPieces s cell=[] := by
  unfold cellPieces
  rw [Nat.sub_eq_zero_of_le hc]
  rfl

lemma snapshotTail_pos (s : Screen) : 0<(snapshotTail s).length := by
  simp [snapshotTail]

lemma text_length (text : Bytes) (offset room : Nat) :
    ((text.drop offset).take room).length=min room (text.length-offset) := by
  rw [length_take,length_drop]

lemma text_writes (text : Bytes) (offset room : Nat) (rest : List Bytes) :
    Writes room ((text.drop offset).map ([·])++rest) ((text.drop offset).take room)
      ((text.drop (offset+((text.drop offset).take room).length)).map ([·])++rest) := by
  have hw := Writes.singles room (text.drop offset) rest
  have hl : text.drop (offset+((text.drop offset).take room).length)=
      (text.drop offset).drop room := by
    rw [drop_drop,text_length]
    rcases Nat.le_total room (text.length-offset) with hle | hle
    · rw [Nat.min_eq_left hle]
    · rw [List.drop_eq_nil_of_le (by omega),List.drop_eq_nil_of_le (by omega)]
  rw [hl]
  exact hw

/-- What a part of the copy does: it writes the first of the pieces, and it stays in its phase
only without room. -/
structure CopyStage (s : Screen) (rank room : Nat) (state : SnapshotState)
    (result : Bytes×SnapshotState) : Prop where
  writes : Writes room (state.pieces s) result.1 (result.2.pieces s)
  valid : result.2.Valid s
  ends : result.2.pending=true → result.2.phase.rank ≤ rank → room ≤ result.1.length

variable {s : Screen} {room : Nat} {state : SnapshotState}

lemma CopyStage.skip {rank : Nat} (hv : state.Valid s)
    (hs : state.phase.rank ≤ rank → room=0) : CopyStage s rank room state ([],state) where
  writes := .refl room _
  valid := hv
  ends _ hp := by
    rw [hs hp]
    exact Nat.zero_le _

lemma copyHead_pending (room : Nat) (state : SnapshotState) :
    (copyHead room state).2.pending=state.pending := by
  unfold copyHead
  dsimp only
  split_ifs <;> rfl

lemma copyHead_stage (room : Nat) (hp : state.pending=true) (hv : state.Valid s) :
    CopyStage s 0 room state (copyHead room state) := by
  obtain ⟨pending,phase,offset⟩ := state
  obtain rfl : pending=true := hp
  cases phase with
  | head =>
    have ho : offset<snapshotHead.length := hv rfl
    have hl := text_length snapshotHead offset room
    have hw := text_writes snapshotHead offset room (cellPieces s 0++tailPieces s 0)
    unfold copyHead
    dsimp only
    rw [if_pos rfl]
    split_ifs with hm
    · exact ⟨hw,fun _ => hm,fun _ _ => by dsimp only; omega⟩
    rw [List.drop_eq_nil_of_le (Nat.le_of_not_lt hm)] at hw
    exact ⟨hw,fun _ => trivial,fun _ hph => absurd hph (by simp [SnapshotPhase.rank])⟩
  | cells | tail => exact .skip hv (fun h => absurd h (by simp [SnapshotPhase.rank]))

lemma snapshotCells_pending (s : Screen) (room cell : Nat) :
    (snapshotCells s room cell).2.pending=true := by
  fun_induction snapshotCells s room cell with
  | case1 => rfl
  | case2 => rfl
  | case3 => rfl
  | case4 => rfl
  | case5 room cell _ _ _ _ _ out next hr ih => rwa [hr] at ih
  | case6 room cell _ _ _ out next hr ih => rwa [hr] at ih

lemma pieces_cells (hc : cell<s.cellCount) :
    (SnapshotState.mk true .cells cell).pieces s=
      cellPiece s cell::(SnapshotState.mk true .cells (cell+1)).pieces s := by
  simp only [SnapshotState.pieces,if_true,cellPieces_cons hc,cons_append]

lemma CopyStage.broken (hc : cell<s.cellCount) (hr : room<(cellPiece s cell).length) :
    CopyStage s 1 room ⟨true,.cells,cell⟩ ((cellPiece s cell).take room,⟨true,.cells,cell⟩) where
  writes := by
    have hf := pieces_full s ⟨true,.cells,cell⟩
    dsimp only
    rw [pieces_cells hc] at hf ⊢
    exact .cut hr hf
  valid _ := trivial
  ends _ _ := by
    dsimp only
    rw [length_take]
    omega

lemma CopyStage.nextCell {result : Bytes×SnapshotState} (hc : cell<s.cellCount)
    (hr : (cellPiece s cell).length ≤ room)
    (h : CopyStage s 1 (room-(cellPiece s cell).length) ⟨true,.cells,cell+1⟩ result) :
    CopyStage s 1 room ⟨true,.cells,cell⟩ (cellPiece s cell++result.1,result.2) where
  writes := by
    rw [pieces_cells hc]
    exact (Writes.piece hr _).trans h.writes
  valid := h.valid
  ends hp hph := by
    have he := h.ends hp hph
    dsimp only
    rw [length_append]
    omega

lemma cellPiece_row (hr : startsRow s cell=true) :
    cellPiece s cell=[13,10,cellByte s cell] := if_pos hr

lemma cellPiece_plain (hr : ¬startsRow s cell=true) :
    cellPiece s cell=[cellByte s cell] := if_neg hr

lemma snapshotCells_stage (s : Screen) (room cell : Nat) :
    CopyStage s 1 room ⟨true,.cells,cell⟩ (snapshotCells s room cell) := by
  fun_induction snapshotCells s room cell with
  | case1 cell => exact .skip (fun _ => trivial) (fun _ => rfl)
  | case2 room cell _ hc =>
    have hsm : (SnapshotState.mk true .cells cell).pieces s=
        (SnapshotState.mk true .tail 0).pieces s := by
      simp only [SnapshotState.pieces,if_true,cellPieces_nil hc,nil_append]
    refine ⟨?_,fun _ => snapshotTail_pos s,fun _ h => absurd h (by simp [SnapshotPhase.rank])⟩
    rw [hsm]
    exact .refl room _
  | case3 cell hc hr _ =>
    have hp := cellPiece_row hr
    have hs : CopyStage s 1 1 _ _ := .broken (Nat.lt_of_not_le hc) (by simp [hp])
    rwa [hp] at hs
  | case4 cell hc hr _ _ =>
    have hp := cellPiece_row hr
    have hs : CopyStage s 1 2 _ _ := .broken (Nat.lt_of_not_le hc) (by simp [hp])
    rwa [hp] at hs
  | case5 room cell hz hc hr ho ht out next hrs ih =>
    rw [hrs] at ih
    rw [← cellPiece_row hr]
    have hp : (cellPiece s cell).length=3 := by rw [cellPiece_row hr]; rfl
    have hn : CopyStage s 1 (room-(cellPiece s cell).length) ⟨true,.cells,cell+1⟩ (out,next) := by
      rw [hp]
      exact ih
    exact .nextCell (Nat.lt_of_not_le hc) (by omega) hn
  | case6 room cell hz hc hr out next hrs ih =>
    rw [hrs] at ih
    rw [← cellPiece_plain hr]
    have hp : (cellPiece s cell).length=1 := by rw [cellPiece_plain hr]; rfl
    have hn : CopyStage s 1 (room-(cellPiece s cell).length) ⟨true,.cells,cell+1⟩ (out,next) := by
      rw [hp]
      exact ih
    exact .nextCell (Nat.lt_of_not_le hc) (by omega) hn

lemma copyCells_pending (s : Screen) (room : Nat) (hp : state.pending=true) :
    (copyCells s room state).2.pending=true := by
  unfold copyCells
  split_ifs
  · exact snapshotCells_pending s room state.offset
  · exact hp

lemma copyCells_stage (hp : state.pending=true) (hv : state.Valid s)
    (hb : state.phase.rank≤0 → room=0) : CopyStage s 1 room state (copyCells s room state) := by
  obtain ⟨pending,phase,offset⟩ := state
  obtain rfl : pending=true := hp
  cases phase with
  | head => exact .skip hv (fun _ => hb (Nat.le_refl 0))
  | cells => exact snapshotCells_stage s room offset
  | tail => exact .skip hv (fun h => absurd h (by simp [SnapshotPhase.rank]))

lemma copyTail_stage (hp : state.pending=true) (hv : state.Valid s)
    (hb : state.phase.rank≤1 → room=0) : CopyStage s 2 room state (copyTail s room state) := by
  obtain ⟨pending,phase,offset⟩ := state
  obtain rfl : pending=true := hp
  cases phase with
  | head => exact .skip hv (fun _ => hb (Nat.zero_le 1))
  | cells => exact .skip hv (fun _ => hb (Nat.le_refl 1))
  | tail =>
    have ho : offset<(snapshotTail s).length := hv rfl
    have hl := text_length (snapshotTail s) offset room
    have hw := text_writes (snapshotTail s) offset room []
    rw [append_nil,append_nil] at hw
    unfold copyTail
    dsimp only
    rw [if_pos rfl]
    split_ifs with hd
    · rw [List.drop_eq_nil_of_le hd] at hw
      exact ⟨hw,(fun h => nomatch h),(fun h => nomatch h)⟩
    refine ⟨hw,fun _ => Nat.lt_of_not_le hd,fun _ _ => ?_⟩
    dsimp only
    omega

lemma snapshotCopy_emit (room : Nat) (hv : state.Valid s) :
    emit room (state.pieces s)=
      ((snapshotCopy s room state).1,(snapshotCopy s room state).2.pieces s) ∧
    (snapshotCopy s room state).2.Valid s := by
  unfold snapshotCopy
  split_ifs with hn
  · refine ⟨?_,hv⟩
    rcases hn with rfl | hd
    · exact emit_zero (pieces_full s state)
    · simp [SnapshotState.pieces,hd,emit]
  obtain ⟨-,hp⟩ := not_or.mp hn
  have hl : state.pending=true := Bool.eq_true_of_not_eq_false hp
  have hhd := copyHead_stage room hl hv
  have hh := (copyHead_pending room state).trans hl
  dsimp only
  generalize copyHead room state=head at hhd hh ⊢
  have hcl := copyCells_stage hh hhd.valid (fun h => Nat.sub_eq_zero_of_le (hhd.ends hh h))
  have hc := copyCells_pending s (room-head.1.length) hh
  generalize copyCells s (room-head.1.length) head.2=cells at hcl hc ⊢
  have ht := copyTail_stage hc hcl.valid (fun h => Nat.sub_eq_zero_of_le (hcl.ends hc h))
  generalize copyTail s (room-head.1.length-cells.1.length) cells.2=tail at ht ⊢
  rw [append_assoc]
  refine ⟨?_,ht.valid⟩
  refine (hhd.writes.trans (hcl.writes.trans ht.writes)).eq_emit (pieces_full s _) ?_
  cases he : tail.2.pending with
  | false => exact .inr (by simp [SnapshotState.pieces,he])
  | true =>
    have hr : tail.2.phase.rank≤2 := by cases tail.2.phase <;> decide
    have hrm := ht.ends he hr
    simp only [length_append]
    exact .inl (by omega)

lemma pieces_eq_nil_iff (hv : state.Valid s) : state.pieces s=[] ↔ state.pending=false := by
  have ht : tailPieces s 0≠[] := by simp [tailPieces,snapshotTail]
  unfold SnapshotState.pieces
  cases hp : state.pending with
  | false => simp
  | true =>
    refine iff_of_false ?_ (by simp)
    have hpr := hv hp
    rw [if_pos rfl]
    cases hph : state.phase with
    | head | cells => simp [ht]
    | tail =>
      rw [hph] at hpr
      intro hn
      have hl := congrArg List.length hn
      simp only [tailPieces,List.length_map,length_drop,length_nil] at hl
      dsimp only at hpr
      omega

lemma fresh_valid (s : Screen) : SnapshotState.fresh.Valid s :=
  fun _ => show 0<snapshotHead.length by decide

lemma snapshotCalls_emits (s : Screen) (rooms : Nat → Nat) (k : Nat) :
    emits rooms (SnapshotState.fresh.pieces s) k=
      ((snapshotCalls s rooms k).1,(snapshotCalls s rooms k).2.pieces s) ∧
    (snapshotCalls s rooms k).2.Valid s := by
  induction k with
  | zero => exact ⟨rfl,fresh_valid s⟩
  | succ k ih =>
    obtain ⟨ho,hv⟩ := ih
    obtain ⟨he,hn⟩ := snapshotCopy_emit (rooms k) hv
    refine ⟨?_,hn⟩
    simp only [emits,ho,he]
    rfl

lemma cellPiece_length (s : Screen) (cell : Nat) :
    (cellPiece s cell).length=if startsRow s cell then 3 else 1 := by
  unfold cellPiece
  split_ifs <;> rfl

lemma startsRow_succ (s : Screen) (cell : Nat) : startsRow s (cell+1)=true ↔ s.cols ∣ cell+1 := by
  simp [startsRow,Nat.dvd_iff_mod_eq_zero]

lemma cells_length (s : Screen) (cell : Nat) :
    ((List.range cell).map (cellPiece s)).flatten.length=cell+2*((cell-1)/s.cols) := by
  induction cell with
  | zero => simp
  | succ cell ih =>
    rw [List.range_succ,map_append,List.flatten_append,length_append,ih,List.map_singleton,
      List.flatten_singleton,cellPiece_length,Nat.add_sub_cancel]
    cases cell with
    | zero => simp [startsRow]
    | succ cell =>
      have hd : (cell+1)/s.cols=cell/s.cols+if s.cols ∣ cell+1 then 1 else 0 := Nat.succ_div
      simp only [startsRow_succ,hd,Nat.add_sub_cancel]
      split_ifs <;> omega

def breakStart (s : Screen) (row : Nat) : Nat := snapshotHead.length+s.cols+row*(s.cols+2)

lemma breakStart_eq (s : Screen) (row : Nat) : breakStart s row=
    snapshotHead.length+((row+1)*s.cols+2*(((row+1)*s.cols-1)/s.cols)) := by
  have hc : 0<s.cols := s.size.colsPos
  have hr : ((row+1)*s.cols-1)/s.cols=row :=
    Nat.div_eq_of_lt_le (by rw [Nat.succ_mul]; omega) (by rw [Nat.succ_mul]; omega)
  rw [hr,breakStart,Nat.succ_mul,Nat.mul_add]
  omega

lemma startsRow_iff (s : Screen) (cell : Nat) (hc : cell<s.cellCount) :
    startsRow s cell=true ↔ ∃ row,row+1<s.rows ∧ cell=(row+1)*s.cols := by
  have hcl : 0<s.cols := s.size.colsPos
  constructor
  · intro hs
    cases cell with
    | zero => simp [startsRow] at hs
    | succ cell =>
      obtain ⟨row,hr⟩ := (startsRow_succ s cell).mp hs
      cases row with
      | zero => simp at hr
      | succ row =>
        rw [hr,Screen.cellCount] at hc
        exact ⟨row,Nat.lt_of_mul_lt_mul_left hc,hr.trans (Nat.mul_comm _ _)⟩
  rintro ⟨row,-,rfl⟩
  simp [startsRow,Nat.ne_of_gt hcl]

lemma fresh_pieces (s : Screen) : SnapshotState.fresh.pieces s=
    snapshotHead.map ([·])++((List.range s.cellCount).map (cellPiece s)++tailPieces s 0) := by
  rw [List.range_eq_range']
  rfl

lemma snapshot_cut_iff (s : Screen) (n : Nat) :
    Cut (SnapshotState.fresh.pieces s) n ↔
      ∃ row,row+1<s.rows ∧ (n=breakStart s row+1 ∨ n=breakStart s row+2) := by
  have hh : (snapshotHead.map ([·])).flatten.length=snapshotHead.length := by decide
  rw [fresh_pieces,cut_append_iff,cut_append_iff,hh,cut_range_map_iff]
  simp only [not_cut_singles,tailPieces,and_false,or_false,false_or,cells_length,cellPiece_length]
  constructor
  · rintro ⟨hle,cell,hc,hlo,hhi⟩
    have hs : startsRow s cell=true := by
      by_contra hp
      rw [if_neg hp] at hhi
      omega
    rw [if_pos hs] at hhi
    obtain ⟨row,hr,rfl⟩ := (startsRow_iff s cell hc).mp hs
    refine ⟨row,hr,?_⟩
    rw [breakStart_eq]
    omega
  rintro ⟨row,hr,hn⟩
  have hc : (row+1)*s.cols<s.cellCount := by
    rw [Screen.cellCount,Nat.mul_comm s.cols]
    exact Nat.mul_lt_mul_of_pos_right hr s.size.colsPos
  have hs := (startsRow_iff s _ hc).mpr ⟨row,hr,rfl⟩
  rw [breakStart_eq] at hn
  refine ⟨by omega,(row+1)*s.cols,hc,by omega,?_⟩
  rw [if_pos hs]
  omega

lemma snapshotCopy_enough (hr : (SnapshotState.fresh.pieces s).flatten.length ≤ room) :
    (snapshotCopy s room .fresh).2.pending=false := by
  obtain ⟨he,hv⟩ := snapshotCopy_emit room (fresh_valid s)
  have hl := emit_enough hr
  rw [he] at hl
  exact (pieces_eq_nil_iff hv).mp hl

lemma snapshotCopy_done (hd : (snapshotCopy s room .fresh).2.pending=false) :
    (snapshotCopy s room .fresh).1=(SnapshotState.fresh.pieces s).flatten := by
  obtain ⟨he,hv⟩ := snapshotCopy_emit room (fresh_valid s)
  have hl := (pieces_eq_nil_iff hv).mpr hd
  have ho : (emit room (SnapshotState.fresh.pieces s)).2=[] → _ := emit_done
  rw [he] at ho
  exact ho hl

/-- Calls with any rooms end with what a single call with enough room writes, if and only if
none of them runs out of room in a line break. -/
theorem snapshot_calls_iff (s : Screen) (rooms : Nat → Nat) (hrooms : ∀ k,0<rooms k) :
    (∃ enough,∀ room,enough ≤ room → (snapshotCopy s room .fresh).2.pending=false) ∧
    ((∃ k,(snapshotCalls s rooms k).2.pending=false ∧
        ∀ room,(snapshotCopy s room .fresh).2.pending=false →
          (snapshotCalls s rooms k).1=(snapshotCopy s room .fresh).1) ↔
      ∀ k row,row+1<s.rows →
        roomTo rooms k≠breakStart s row+1 ∧ roomTo rooms k≠breakStart s row+2) := by
  refine ⟨⟨_,fun room hr => snapshotCopy_enough hr⟩,?_⟩
  have hc : (∃ k,(snapshotCalls s rooms k).2.pending=false ∧
        ∀ room,(snapshotCopy s room .fresh).2.pending=false →
          (snapshotCalls s rooms k).1=(snapshotCopy s room .fresh).1) ↔
      ∃ k,(emits rooms (SnapshotState.fresh.pieces s) k).2=[] ∧
        (emits rooms (SnapshotState.fresh.pieces s) k).1=
          (SnapshotState.fresh.pieces s).flatten := by
    refine exists_congr (fun k => ?_)
    obtain ⟨ho,hv⟩ := snapshotCalls_emits s rooms k
    rw [ho,pieces_eq_nil_iff hv]
    refine and_congr Iff.rfl ⟨fun h => ?_,fun h room hd => ?_⟩
    · have he := snapshotCopy_enough (s := s) (Nat.le_refl _)
      exact (h _ he).trans (snapshotCopy_done he)
    · exact h.trans (snapshotCopy_done hd).symm
  rw [hc,emits_exact_iff hrooms (pieces_full s _)]
  simp only [snapshot_cut_iff,not_exists,not_and,not_or,ne_eq]

def twoRows : GridSize := ⟨1,2,by decide,by decide,by decide,by decide⟩

theorem snapshot_calls_iff_twoRows :
    ∃ k,(snapshotCalls (.blank twoRows) (fun _ => 8) k).2.pending=false ∧
      ∀ room,(snapshotCopy (.blank twoRows) room .fresh).2.pending=false →
        (snapshotCalls (.blank twoRows) (fun _ => 8) k).1=
          (snapshotCopy (.blank twoRows) room .fresh).1 := by
  refine (snapshot_calls_iff (.blank twoRows) (fun _ => 8) (fun _ => by decide)).2.mpr ?_
  intro k row hro
  have hr : roomTo (fun _ => 8) k=k*8 := by simp [roomTo]
  have hs : breakStart (.blank twoRows) 0=16 := by decide
  obtain rfl : row=0 := by
    have hrw : (Screen.blank twoRows).rows=2 := rfl
    omega
  rw [hr,hs]
  omega

/-- A reader of single bytes gets the first byte of the line break again and again. -/
theorem snapshot_single_bytes_never_end : ∃ s rooms,(∀ k,0<rooms k) ∧
    ∀ k,(snapshotCalls s rooms k).2.pending=true := by
  refine ⟨.blank twoRows,fun _ => 1,fun _ => Nat.one_pos,fun k => ?_⟩
  have hf : ∀ k<16,(snapshotCalls (.blank twoRows) (fun _ => 1) k).2.pending=true := by
    decide +kernel
  have hr : (snapshotCalls (.blank twoRows) (fun _ => 1) 16).2=⟨true,.cells,1⟩ := by decide +kernel
  have ha : (snapshotCopy (.blank twoRows) 1 ⟨true,.cells,1⟩).2=⟨true,.cells,1⟩ := by decide +kernel
  have hs (j : Nat) : (snapshotCalls (.blank twoRows) (fun _ => 1) (16+j)).2=⟨true,.cells,1⟩ := by
    induction j with
    | zero => exact hr
    | succ j ih =>
      show (snapshotCopy _ 1 (snapshotCalls _ _ (16+j)).2).2=_
      rw [ih,ha]
  rcases Nat.lt_or_ge k 16 with hlt | hge
  · exact hf k hlt
  obtain ⟨j,rfl⟩ := Nat.exists_eq_add_of_le hge
  rw [hs j]

end EMSSHD
