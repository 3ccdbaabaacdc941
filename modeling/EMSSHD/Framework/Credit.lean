import Mathlib.Tactic

namespace EMSSHD

variable {E : Type}

def total (f : E → Nat) (evs : List E) : Nat := (evs.map f).sum

@[simp] lemma total_append (f : E → Nat) (evs later : List E) :
    total f (evs++later)=total f evs+total f later := by
  simp [total]

lemma total_le_of_prefix (f : E → Nat) {front evs : List E} (h : front<+:evs) :
    total f front≤total f evs := by
  obtain ⟨rest,rfl⟩ := h
  rw [total_append]
  exact Nat.le_add_right _ _

/-- At every moment of the history no more has been spent than the limit and what has
been granted so far. -/
def WithinCredit (spend grant : E → Nat) (limit : Nat) (evs : List E) : Prop :=
  ∀ front,front<+:evs → total spend front≤limit+total grant front

namespace WithinCredit
variable {spend grant : E → Nat} {limit : Nat} {evs : List E}

instance : Decidable (WithinCredit spend grant limit evs) :=
  decidable_of_iff (∀ front∈evs.inits,total spend front≤limit+total grant front)
    (by simp only [List.mem_inits,WithinCredit])

lemma of_map (h : WithinCredit Prod.fst Prod.snd limit (evs.map fun e => (spend e,grant e))) :
    WithinCredit spend grant limit evs := by
  intro front hf
  have hn := h _ (hf.map _)
  simpa [total,Function.comp_def] using hn

lemma of_le (h : total spend evs≤limit) : WithinCredit spend grant limit evs := by
  intro front hf
  have hs := total_le_of_prefix spend hf
  omega

lemma trans {later : List E} {left : Nat} (h : WithinCredit spend grant limit evs)
    (hl : WithinCredit spend grant left later) (hw : left+total spend evs≤limit+total grant evs) :
    WithinCredit spend grant limit (evs++later) := by
  intro front hf
  rcases List.prefix_or_prefix_of_prefix hf (List.prefix_append evs later) with h1 | ⟨rest,rfl⟩
  · exact h front h1
  have hr := hl rest ((List.prefix_append_right_inj evs).mp hf)
  rw [total_append,total_append]
  omega
end WithinCredit

end EMSSHD
