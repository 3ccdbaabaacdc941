import Mathlib.Logic.Relation

namespace EMSSHD.Machine

variable {C : Type} {step : C → Option C} {c d : C}

def Next (step : C → Option C) (c d : C) : Prop := step c=some d

abbrev Steps (step : C → Option C) : C → C → Prop := Relation.ReflTransGen (Next step)

def Halts (step : C → Option C) (c : C) : Prop := ∃ d,Steps step c d ∧ step d=none

def runFor (step : C → Option C) : Nat → C → Option C
  | 0,c => some c
  | n+1,c => (step c).bind (runFor step n)

lemma Steps.of_runFor {n : Nat} (h : runFor step n c=some d) : Steps step c d := by
  induction n generalizing c with
  | zero =>
    cases h
    exact .refl
  | succ n ih =>
    obtain ⟨e,he,hr⟩ := Option.bind_eq_some_iff.mp h
    exact (ih hr).head he

def settle (step : C → Option C) : Nat → C → C
  | 0,c => c
  | n+1,c => match step c with
    | none => c
    | some d => settle step n d

lemma Halts.of_steps (hs : Steps step c d) (h : Halts step d) : Halts step c := by
  obtain ⟨e,he,hen⟩ := h
  exact ⟨e,hs.trans he,hen⟩

lemma Halts.next (h : Halts step c) (hs : step c=some d) : Halts step d := by
  obtain ⟨e,he,hen⟩ := h
  rcases Relation.ReflTransGen.cases_head he with rfl | ⟨x,hx,hr⟩
  · exact nomatch hs.symm.trans hen
  have hsm : x=d := Option.some.inj (Eq.trans (Eq.symm hx) hs)
  rw [hsm] at hr
  exact ⟨e,hr,hen⟩

lemma Halts.steps (h : Halts step c) (hs : Steps step c d) : Halts step d := by
  induction hs with
  | refl => exact h
  | tail _ hst ih => exact ih.next hst

lemma not_halts (P : C → Prop) (hs : ∀ c,P c → ∃ d,step c=some d ∧ P d) (hc : P c) :
    ¬Halts step c := by
  rintro ⟨d,hst,hen⟩
  have hd : P d := by
    clear hen
    induction hst with
    | refl => exact hc
    | tail _ hn ih =>
      obtain ⟨e,he,hpe⟩ := hs _ ih
      have hsm : e=_ := Option.some.inj (Eq.trans (Eq.symm he) hn)
      rwa [← hsm]
  obtain ⟨e,he,-⟩ := hs d hd
  exact nomatch he.symm.trans hen

lemma leaves (P Q : C → Prop) (μ : C → Nat)
    (hs : ∀ c,P c → Q c ∨ ∃ d,step c=some d ∧ P d ∧ μ d<μ c) (hc : P c) :
    ∃ d,Steps step c d ∧ P d ∧ Q d := by
  obtain ⟨n,hn⟩ : ∃ n,μ c≤n := ⟨μ c,Nat.le_refl _⟩
  induction n generalizing c with
  | zero =>
    rcases hs c hc with hq | ⟨d,-,-,hlt⟩
    · exact ⟨c,.refl,hc,hq⟩
    · exact absurd (Nat.lt_of_lt_of_le hlt hn) (Nat.not_lt_zero _)
  | succ n ih =>
    rcases hs c hc with hq | ⟨d,hd,hpd,hlt⟩
    · exact ⟨c,.refl,hc,hq⟩
    have hl : μ d≤n := Nat.le_of_lt_succ (Nat.lt_of_lt_of_le hlt hn)
    obtain ⟨e,hst,he⟩ := ih hpd hl
    exact ⟨e,hst.head hd,he⟩

end EMSSHD.Machine
