import Mathlib.Data.List.Basic
import Mathlib.Tactic.Common

namespace EMSSHD

variable {α : Type}

/-- The language of a pattern with two signs: one stands for any letter, many for any word,
and every other letter for itself. -/
inductive WildMatch (one many : α) : List α → List α → Prop
  | nil : WildMatch one many [] []
  | one {p v : List α} {a : α} (rest : WildMatch one many p v) :
    WildMatch one many (one::p) (a::v)
  | letter {p v : List α} {a : α} (notOne : a≠one) (notMany : a≠many)
    (rest : WildMatch one many p v) : WildMatch one many (a::p) (a::v)
  | many {p v : List α} (word : List α) (rest : WildMatch one many p v) :
    WildMatch one many (many::p) (word++v)

/-- The words in which every many that meets itself stands for just this letter. -/
inductive LiteralFirst (one many : α) : List α → List α → Prop
  | nil : LiteralFirst one many [] []
  | one {p v : List α} {a : α} (rest : LiteralFirst one many p v) :
    LiteralFirst one many (one::p) (a::v)
  | letter {p v : List α} {a : α} (rest : LiteralFirst one many p v) :
    LiteralFirst one many (a::p) (a::v)
  | manyEnd {p : List α} (rest : LiteralFirst one many p []) :
    LiteralFirst one many (many::p) []
  | many {p v : List α} {a : α} (other : a≠many) (k : Nat)
    (rest : LiteralFirst one many p ((a::v).drop k)) : LiteralFirst one many (many::p) (a::v)

variable {one many c a : α} {p v p' v' : List α}

lemma LiteralFirst.wildMatch (h : LiteralFirst one many p v) : WildMatch one many p v := by
  induction h with
  | nil => exact .nil
  | one _ ih => exact .one ih
  | @letter p v a _ ih =>
    by_cases ho : a=one
    · subst ho
      exact .one ih
    by_cases hm : a=many
    · subst hm
      exact .many [a] ih
    · exact .letter ho hm ih
  | manyEnd _ ih => exact .many [] ih
  | @many p v a _ k _ ih =>
    have h : WildMatch one many (many::p) ((a::v).take k++(a::v).drop k) := .many _ ih
    rwa [List.take_append_drop] at h

/-- A letter of the pattern and a letter of the word that it takes. -/
def Takes (one c a : α) : Prop := c=one ∨ c=a

lemma literalFirst_takes (hne : one≠many) (h : Takes one c a) :
    LiteralFirst one many (c::p) (a::v) ↔ LiteralFirst one many p v := by
  constructor
  · intro hm
    cases hm with
    | one rest => exact rest
    | letter rest => exact rest
    | many other k rest =>
      rcases h with h | h
      · exact absurd h.symm hne
      · exact absurd h.symm other
  intro hm
  rcases h with rfl | rfl
  · exact .one hm
  · exact .letter hm

lemma literalFirst_many (hne : one≠many) (ha : many≠a) :
    LiteralFirst one many (many::p) (a::v) ↔ ∃ k,LiteralFirst one many p ((a::v).drop k) := by
  constructor
  · intro hm
    cases hm with
    | one rest => exact absurd rfl hne
    | letter rest => exact absurd rfl ha
    | many other k rest => exact ⟨k,rest⟩
  rintro ⟨k,hm⟩
  exact .many ha.symm k hm

lemma literalFirst_cons (hm : LiteralFirst one many (c::p) (a::v)) : Takes one c a ∨ c=many := by
  cases hm with
  | one rest => exact .inl (.inl rfl)
  | letter rest => exact .inl (.inr rfl)
  | many other k rest => exact .inr rfl

lemma literalFirst_end : LiteralFirst one many p [] ↔ ∀ c∈p,c=many := by
  induction p with
  | nil => exact iff_of_true .nil (by simp)
  | cons c p ih =>
    rw [List.forall_mem_cons,← ih]
    constructor
    · intro hm
      cases hm with
      | manyEnd rest => exact ⟨rfl,rest⟩
    rintro ⟨hc,hm⟩
    rw [hc]
    exact .manyEnd hm

/-- The pattern and the word go on letter by letter. -/
inductive Walks (one : α) : List α → List α → List α → List α → Prop
  | refl (p v : List α) : Walks one p v p v
  | step {c a : α} {p v p' v' : List α} (takes : Takes one c a) (rest : Walks one p v p' v') :
    Walks one (c::p) (a::v) p' v'

lemma Walks.snoc (h : Walks one p v (c::p') (a::v')) (ht : Takes one c a) :
    Walks one p v p' v' := by
  generalize hq : c::p'=q at h
  generalize hw : a::v'=w at h
  induction h with
  | refl p v =>
    rw [← hq,← hw]
    exact .step ht (.refl p' v')
  | step takes _ ih => exact .step takes (ih hq hw)

lemma Walks.iff (hne : one≠many) (h : Walks one p v p' v') :
    LiteralFirst one many p v ↔ LiteralFirst one many p' v' := by
  induction h with
  | refl p v => rfl
  | step takes _ ih => rw [literalFirst_takes hne takes,ih]

lemma literalFirst_tail (hm : LiteralFirst one many (c::p) v) :
    ∃ k,LiteralFirst one many p (v.drop k) := by
  cases hm with
  | one rest => exact ⟨1,rest⟩
  | letter rest => exact ⟨1,rest⟩
  | manyEnd rest => exact ⟨0,rest⟩
  | many other k rest => exact ⟨k,rest⟩

lemma Walks.later (hne : one≠many) (h : Walks one p v p' v') {k : Nat}
    (hm : LiteralFirst one many p (v.drop k)) : ∃ m,LiteralFirst one many p' (v'.drop m) := by
  induction h generalizing k with
  | refl p v => exact ⟨k,hm⟩
  | @step c a p v p' v' takes _ ih =>
    cases k with
    | zero =>
      rw [List.drop_zero,literalFirst_takes hne takes] at hm
      exact ih (k := 0) hm
    | succ k =>
      rw [List.drop_succ_cons] at hm
      obtain ⟨m,hr⟩ := literalFirst_tail hm
      rw [List.drop_drop] at hr
      exact ih hr

end EMSSHD
