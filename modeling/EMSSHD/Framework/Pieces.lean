import Mathlib.Algebra.BigOperators.Group.Finset.Basic
import Mathlib.Data.List.Basic

namespace EMSSHD.Pieces

open List

variable {α : Type} {pieces left : List (List α)} {room : Nat}

/-- Writes pieces as far as there is room. A piece that does not fit is written in part, and it
is still left as a whole. -/
def emit : Nat → List (List α) → List α×List (List α)
  | _,[] => ([],[])
  | room,piece::pieces =>
    if piece.length ≤ room then
      (piece++(emit (room-piece.length) pieces).1,(emit (room-piece.length) pieces).2)
    else (piece.take room,piece::pieces)

def Cut (pieces : List (List α)) (n : Nat) : Prop :=
  ∃ before piece after,pieces=before++piece::after ∧ before.flatten.length<n ∧
    n<before.flatten.length+piece.length

lemma not_cut_nil (n : Nat) : ¬Cut ([] : List (List α)) n := by
  rintro ⟨before,piece,after,hs,-,-⟩
  simp at hs

variable {n : Nat}

lemma Cut.lt_length (h : Cut pieces n) : n<pieces.flatten.length := by
  obtain ⟨before,piece,after,rfl,-,hlt⟩ := h
  simp only [flatten_append,flatten_cons,length_append]
  omega

lemma cut_append_iff (before left : List (List α)) (n : Nat) :
    Cut (before++left) n ↔
      Cut before n ∨ before.flatten.length≤n ∧ Cut left (n-before.flatten.length) := by
  constructor
  · rintro ⟨first,piece,after,hs,hlo,hhi⟩
    rcases append_eq_append_iff.mp hs with ⟨more,rfl,hl⟩ | ⟨more,rfl,hp⟩
    · simp only [flatten_append,length_append] at hlo hhi
      exact .inr ⟨by omega,more,piece,after,hl,by omega,by omega⟩
    cases more with
    | nil =>
      rw [append_nil]
      refine .inr ⟨by omega,[],piece,after,hp.symm,?_,?_⟩
      · rw [flatten_nil,length_nil]
        omega
      rw [flatten_nil,length_nil]
      omega
    | cons first' more =>
      simp only [cons_append,List.cons.injEq] at hp
      obtain ⟨rfl,-⟩ := hp
      exact .inl ⟨first,piece,more,rfl,hlo,hhi⟩
  rintro (⟨first,piece,after,rfl,hlo,hhi⟩ | ⟨hle,more,piece,after,rfl,hlo,hhi⟩)
  · exact ⟨first,piece,after++left,by simp,hlo,hhi⟩
  refine ⟨before++more,piece,after,by simp,?_,?_⟩
  · simp only [flatten_append,length_append]
    omega
  simp only [flatten_append,length_append]
  omega

lemma cut_append (before left : List (List α)) (n : Nat) :
    Cut (before++left) (before.flatten.length+n) ↔ Cut left n := by
  rw [cut_append_iff,Nat.add_sub_cancel_left]
  constructor
  · rintro (h | h)
    · exact absurd h.lt_length (by omega)
    · exact h.2
  · exact fun h => .inr ⟨Nat.le_add_right _ _,h⟩

lemma cut_singleton_iff (piece : List α) (n : Nat) : Cut [piece] n ↔ 0<n ∧ n<piece.length := by
  constructor
  · rintro ⟨before,piece',after,hs,hlo,hhi⟩
    rcases singleton_eq_append_iff.mp hs with ⟨rfl,hp⟩ | ⟨-,hp⟩
    · obtain ⟨rfl,-⟩ := List.cons.inj hp
      simp only [flatten_nil,length_nil] at hlo hhi
      omega
    · exact nomatch hp
  rintro ⟨hlo,hhi⟩
  exact ⟨[],piece,[],rfl,hlo,by simpa using hhi⟩

lemma not_cut_singles (text : List α) (n : Nat) : ¬Cut (text.map ([·])) n := by
  rintro ⟨before,piece,after,hs,hlo,hhi⟩
  have hm : piece ∈ text.map ([·]) := by simp [hs]
  obtain ⟨x,-,rfl⟩ := mem_map.mp hm
  simp only [length_singleton] at hhi
  omega

lemma cut_range_map_iff (f : Nat → List α) (count n : Nat) :
    Cut ((List.range count).map f) n ↔ ∃ i<count,
      ((List.range i).map f).flatten.length<n ∧
      n<((List.range i).map f).flatten.length+(f i).length := by
  induction count with
  | zero => simp [not_cut_nil]
  | succ count ih =>
    rw [range_succ,map_append,cut_append_iff,ih,map_singleton,cut_singleton_iff,
      Nat.exists_lt_succ_right]
    refine or_congr Iff.rfl ⟨fun h => ?_,fun h => ?_⟩
    · omega
    · omega

/-- Some whole pieces come to a length, or all of them to no more. -/
def WholeTo (pieces left : List (List α)) (n : Nat) : Prop :=
  ∃ before,pieces=before++left ∧
    (before.flatten.length=n ∨ left=[] ∧ before.flatten.length ≤ n)

lemma WholeTo.cut_iff (h : WholeTo pieces left n) (m : Nat) : Cut pieces (n+m) ↔ Cut left m := by
  obtain ⟨before,rfl,rfl | ⟨rfl,hle⟩⟩ := h
  · exact cut_append before left m
  refine iff_of_false (fun hc => ?_) (not_cut_nil m)
  have hlt := hc.lt_length
  rw [append_nil] at hlt
  omega

lemma WholeTo.trans {rest : List (List α)} {m : Nat} (h : WholeTo pieces left n)
    (hr : WholeTo left rest m) : WholeTo pieces rest (n+m) := by
  obtain ⟨before,rfl,he⟩ := h
  obtain ⟨more,rfl,hmr⟩ := hr
  refine ⟨before++more,(append_assoc _ _ _).symm,?_⟩
  rw [flatten_append,length_append]
  rcases he with hl | ⟨hd,hle⟩
  · rcases hmr with hml | ⟨hm,hmo⟩
    · exact .inl (by omega)
    · exact .inr ⟨hm,by omega⟩
  obtain ⟨rfl,rfl⟩ := append_eq_nil_iff.mp hd
  exact .inr ⟨rfl,by rw [flatten_nil,length_nil]; omega⟩

lemma emit_out (room : Nat) (pieces : List (List α)) :
    (emit room pieces).1=pieces.flatten.take room := by
  induction pieces generalizing room with
  | nil => simp [emit]
  | cons piece pieces ih =>
    rw [flatten_cons,take_append]
    unfold emit
    split_ifs with hf
    · rw [ih,take_of_length_le hf]
    have hz : room-piece.length=0 := by omega
    rw [hz,take_zero,append_nil]

lemma emit_left (room : Nat) (pieces : List (List α)) :
    ∃ before,pieces=before++(emit room pieces).2 ∧ before.flatten.length ≤ room ∧
      ((emit room pieces).2=[] ∨ ∃ piece after,(emit room pieces).2=piece::after ∧
        room<before.flatten.length+piece.length) := by
  induction pieces generalizing room with
  | nil => exact ⟨[],rfl,Nat.zero_le _,.inl rfl⟩
  | cons piece pieces ih =>
    unfold emit
    split_ifs with hf
    · obtain ⟨before,hs,hle,hl⟩ := ih (room-piece.length)
      refine ⟨piece::before,congrArg (piece::·) hs,?_,?_⟩
      · simp only [flatten_cons,length_append]
        omega
      rcases hl with hd | ⟨next,after,hn,hlt⟩
      · exact .inl hd
      refine .inr ⟨next,after,hn,?_⟩
      simp only [flatten_cons,length_append]
      omega
    · exact ⟨[],rfl,Nat.zero_le _,.inr ⟨piece,pieces,rfl,by simp; omega⟩⟩

lemma emit_enough (h : pieces.flatten.length ≤ room) : (emit room pieces).2=[] := by
  obtain ⟨before,hs,-,hd | ⟨piece,after,hn,hlt⟩⟩ := emit_left room pieces
  · exact hd
  rw [hn] at hs
  have hl := congrArg (fun l : List (List α) => l.flatten.length) hs
  simp only [flatten_append,flatten_cons,length_append] at hl
  omega

lemma emit_done (h : (emit room pieces).2=[]) : (emit room pieces).1=pieces.flatten := by
  obtain ⟨before,hs,hle,-⟩ := emit_left room pieces
  rw [h,append_nil] at hs
  rw [emit_out,hs]
  exact take_of_length_le hle

lemma emit_whole (h : ¬Cut pieces room) : WholeTo pieces (emit room pieces).2 room := by
  obtain ⟨before,hs,hle,hl⟩ := emit_left room pieces
  refine ⟨before,hs,?_⟩
  rcases hl with hd | ⟨piece,after,hn,hlt⟩
  · exact .inr ⟨hd,hle⟩
  rw [hn] at hs
  have hnt : ¬before.flatten.length<room := fun hlo => h ⟨before,piece,after,hs,hlo,hlt⟩
  exact .inl (by omega)

lemma emit_exact (h : ¬Cut pieces room) :
    (emit room pieces).1++(emit room pieces).2.flatten=pieces.flatten := by
  obtain ⟨before,hs,he⟩ := emit_whole h
  have hf : pieces.flatten=before.flatten++(emit room pieces).2.flatten := by
    rw [← flatten_append,← hs]
  have ho : (emit room pieces).1=before.flatten := by
    rw [emit_out,hf]
    rcases he with hl | ⟨hd,hle⟩
    · rw [← hl]
      exact take_left
    rw [hd,flatten_nil,append_nil]
    exact take_of_length_le hle
  rw [ho,hf]

lemma emit_length (room : Nat) (pieces : List (List α)) :
    pieces.flatten.length≤(emit room pieces).1.length+(emit room pieces).2.flatten.length := by
  obtain ⟨before,hs,hle,-⟩ := emit_left room pieces
  have hl : pieces.flatten.length= before.flatten.length+(emit room pieces).2.flatten.length := by
    rw [← length_append,← flatten_append,← hs]
  rw [emit_out,length_take]
  omega

lemma emit_cut (h : Cut pieces room) :
    pieces.flatten.length<(emit room pieces).1.length+(emit room pieces).2.flatten.length := by
  have hr := h.lt_length
  obtain ⟨before,hs,hle,-⟩ := emit_left room pieces
  have hl : pieces.flatten.length= before.flatten.length+(emit room pieces).2.flatten.length := by
    rw [← length_append,← flatten_append,← hs]
  have hi : before.flatten.length≠room := by
    intro he
    rw [hs,← he,← Nat.add_zero before.flatten.length,cut_append] at h
    obtain ⟨first,piece,after,-,hlo,-⟩ := h
    exact Nat.not_lt_zero _ hlo
  rw [emit_out,length_take]
  omega

lemma emit_zero (hf : ∀ piece ∈ pieces,piece≠[]) : emit 0 pieces=([],pieces) := by
  rcases pieces with _ | ⟨piece,pieces⟩
  · rfl
  have hp : ¬piece.length≤0 := by
    have := length_pos_iff.mpr (hf piece (by simp))
    omega
  simp [emit,hp]

/-- Something is written first, with some pieces left to go on with. -/
def Writes (room : Nat) (pieces : List (List α)) (out : List α) (left : List (List α)) : Prop :=
  emit room pieces=(out++(emit (room-out.length) left).1,(emit (room-out.length) left).2)

namespace Writes
variable {out more : List α} {rest : List (List α)}

lemma refl (room : Nat) (pieces : List (List α)) : Writes room pieces [] pieces :=
  Eq.refl (emit room pieces)

lemma trans (h : Writes room pieces out left) (hm : Writes (room-out.length) left more rest) :
    Writes room pieces (out++more) rest := by
  unfold Writes at h hm ⊢
  rw [h,hm,length_append,Nat.sub_add_eq,append_assoc]

lemma piece {piece : List α} (hf : piece.length ≤ room) (left : List (List α)) :
    Writes room (piece::left) piece left := by
  unfold Writes
  nth_rewrite 1 [emit]
  rw [if_pos hf]

lemma cut {piece : List α} (hc : room<piece.length) (hf : ∀ piece' ∈ piece::left,piece'≠[]) :
    Writes room (piece::left) (piece.take room) (piece::left) := by
  have hl : (piece.take room).length=room := by
    rw [length_take]
    omega
  unfold Writes
  rw [hl,Nat.sub_self,emit_zero hf]
  nth_rewrite 1 [emit]
  rw [if_neg (Nat.not_le_of_lt hc),append_nil]

lemma singles (room : Nat) (text : List α) (rest : List (List α)) :
    Writes room (text.map ([·])++rest) (text.take room) ((text.drop room).map ([·])++rest) := by
  induction text generalizing room with
  | nil =>
    simp only [take_nil,drop_nil]
    exact refl room _
  | cons x text ih =>
    cases room with
    | zero => exact refl 0 _
    | succ room => exact (piece (show [x].length ≤ room+1 by simp) _).trans (ih room)

lemma eq_emit (h : Writes room pieces out left) (hf : ∀ piece ∈ left,piece≠[])
    (he : room≤out.length ∨ left=[]) : emit room pieces=(out,left) := by
  rw [h]
  rcases he with hr | rfl
  · rw [Nat.sub_eq_zero_of_le hr,emit_zero hf,append_nil]
  · rw [emit,append_nil]
end Writes

def emits (rooms : Nat → Nat) (pieces : List (List α)) : Nat → List α×List (List α)
  | 0 => ([],pieces)
  | k+1 =>
    ((emits rooms pieces k).1++(emit (rooms k) (emits rooms pieces k).2).1,
      (emit (rooms k) (emits rooms pieces k).2).2)

variable {rooms : Nat → Nat} {k : Nat}

def roomTo (rooms : Nat → Nat) (k : Nat) : Nat := ∑ i ∈ Finset.range k,rooms i

lemma roomTo_succ (rooms : Nat → Nat) (k : Nat) : roomTo rooms (k+1)=roomTo rooms k+rooms k :=
  Finset.sum_range_succ _ _

lemma le_roomTo (hp : ∀ i,0<rooms i) (k : Nat) : k ≤ roomTo rooms k := by
  induction k with
  | zero => exact Nat.zero_le _
  | succ k ih =>
    have := hp k
    rw [roomTo_succ]
    omega

lemma emits_whole (h : ∀ i,i≤k → ¬Cut pieces (roomTo rooms i)) :
    WholeTo pieces (emits rooms pieces k).2 (roomTo rooms k) := by
  induction k with
  | zero => exact ⟨[],rfl,.inl (by simp [roomTo])⟩
  | succ k ih =>
    have hb := ih (fun i hi => h i (by omega))
    have hu := h (k+1) (Nat.le_refl _)
    rw [roomTo_succ,hb.cut_iff] at hu
    rw [roomTo_succ]
    exact hb.trans (emit_whole hu)

lemma emits_exact (h : ∀ i,i≤k → ¬Cut pieces (roomTo rooms i)) :
    (emits rooms pieces k).1++(emits rooms pieces k).2.flatten=pieces.flatten := by
  induction k with
  | zero => rfl
  | succ k ih =>
    have hb := emits_whole (fun i (hi : i≤k) => h i (by omega))
    have hu := h (k+1) (Nat.le_refl _)
    rw [roomTo_succ,hb.cut_iff] at hu
    simp only [emits]
    rw [append_assoc,emit_exact hu]
    exact ih (fun i hi => h i (by omega))

lemma emits_length (rooms : Nat → Nat) (pieces : List (List α)) (k : Nat) : pieces.flatten.length ≤
    (emits rooms pieces k).1.length+(emits rooms pieces k).2.flatten.length := by
  induction k with
  | zero => simp [emits]
  | succ k ih =>
    have hc := emit_length (rooms k) (emits rooms pieces k).2
    simp only [emits,length_append]
    omega

variable {i : Nat}

lemma emits_cut (hct : Cut (emits rooms pieces i).2 (rooms i)) (hi : i<k) :
    pieces.flatten.length<
      (emits rooms pieces k).1.length+(emits rooms pieces k).2.flatten.length := by
  induction k with
  | zero => exact absurd hi (Nat.not_lt_zero i)
  | succ k ih =>
    simp only [emits,length_append]
    rcases Nat.lt_or_eq_of_le (Nat.le_of_lt_succ hi) with hlt | rfl
    · have hc := emit_length (rooms k) (emits rooms pieces k).2
      have hb := ih hlt
      omega
    have hc := emit_cut hct
    have hb := emits_length rooms pieces i
    omega

lemma emits_done (hd : (emits rooms pieces i).2=[]) (hi : i≤k) : (emits rooms pieces k).2=[] := by
  induction k with
  | zero =>
    obtain rfl := Nat.le_zero.mp hi
    exact hd
  | succ k ih =>
    rcases Nat.lt_or_eq_of_le hi with hlt | rfl
    · simp [emits,ih (Nat.le_of_lt_succ hlt),emit]
    · exact hd

lemma uncut_of_emits_exact {j : Nat} (hd : (emits rooms pieces j).2=[])
    (ho : (emits rooms pieces j).1=pieces.flatten) (k : Nat) : ¬Cut pieces (roomTo rooms k) := by
  induction k using Nat.strong_induction_on with
  | _ k ih =>
    cases k with
    | zero =>
      rintro ⟨before,piece,after,-,hlo,-⟩
      exact Nat.not_lt_zero _ hlo
    | succ k =>
      have hb := emits_whole (fun i (hi : i≤k) => ih i (by omega))
      rw [roomTo_succ,hb.cut_iff]
      intro hc
      rcases Nat.lt_or_ge k j with hlt | hge
      · have hm := emits_cut hc hlt
        rw [hd,ho,flatten_nil,length_nil] at hm
        omega
      rw [emits_done hd hge] at hc
      exact not_cut_nil _ hc

lemma emits_exact_iff (hps : ∀ i,0<rooms i) (hf : ∀ piece ∈ pieces,piece≠[]) :
    (∃ k,(emits rooms pieces k).2=[] ∧ (emits rooms pieces k).1=pieces.flatten) ↔
      ∀ k,¬Cut pieces (roomTo rooms k) := by
  constructor
  · rintro ⟨j,hd,ho⟩ k
    exact uncut_of_emits_exact hd ho k
  intro hu
  -- as many calls as there is to write are enough
  let k := pieces.flatten.length
  have hexact := emits_exact (fun i (_ : i≤k) => hu i)
  have hd : (emits rooms pieces k).2=[] := by
    obtain ⟨before,hs,hl | ⟨hd,-⟩⟩ := emits_whole (fun i (_ : i≤k) => hu i)
    · have hk := le_roomTo hps k
      have ha : (emits rooms pieces k).2.flatten=[] := by
        have hsm := congrArg (fun l : List (List α) => l.flatten.length) hs
        simp only [flatten_append,length_append] at hsm
        exact eq_nil_of_length_eq_zero (by omega)
      refine eq_nil_iff_forall_not_mem.mpr (fun piece hp => ?_)
      have hm : piece ∈ pieces := by
        rw [hs]
        exact mem_append_right before hp
      exact hf piece hm (flatten_eq_nil_iff.mp ha piece hp)
    · exact hd
  refine ⟨k,hd,?_⟩
  rwa [hd,flatten_nil,append_nil] at hexact

end EMSSHD.Pieces
