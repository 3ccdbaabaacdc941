import EMSSHD.Framework.Call

namespace EMSSHD.Call

variable {σ τ ε α β : Type}

/-- From states that stand in R, the two calls end with the same result, and in states that
stand in R again. -/
def Tracks (R : σ → τ → Prop) (c : Call σ ε α) (d : Call τ ε α) : Prop :=
  ∀ s t,R s t → (c.run s).1=(d.run t).1 ∧ R (c.run s).2 (d.run t).2

namespace Tracks
variable {R : σ → τ → Prop}
variable {c : Call σ ε α} {d : Call τ ε α} {p : Prop}

lemma bind {f : α → Call σ ε β} {g : α → Call τ ε β} (h : Tracks R c d)
    (hf : ∀ a,Tracks R (f a) (g a)) : Tracks R (c>>=f) (d>>=g) := by
  intro s t hst
  obtain ⟨hrs,hr⟩ := h s t hst
  rcases hc : c.run s with ⟨r,s'⟩
  rcases hd : d.run t with ⟨r',t'⟩
  rw [hc,hd] at hrs hr
  obtain rfl : r=r' := hrs
  rcases r with _ | a
  · rw [run_bind_error hc,run_bind_error hd]
    exact ⟨rfl,hr⟩
  rw [run_bind_ok hc,run_bind_ok hd]
  exact hf a s' t' hr

lemma bindGet {f : σ → Call σ ε β} {g : τ → Call τ ε β}
    (h : ∀ s t,R s t → Tracks R (f s) (g t)) : Tracks R (get>>=f) (get>>=g) :=
  fun s t hst => h s t hst s t hst

lemma fail (e : ε) : Tracks R (fail e : Call σ ε α) (Call.fail e) := fun _ _ hst => ⟨rfl,hst⟩

lemma modify {f : σ → σ} {g : τ → τ} (h : ∀ s t,R s t → R (f s) (g t)) :
    Tracks R (modify f : Call σ ε Unit) (Call.modify g) := fun s t hst => ⟨rfl,h s t hst⟩

lemma require [Decidable p] (e : ε) :
    Tracks R (require p e : Call σ ε Unit) (Call.require p e) := by
  intro s t hst
  rw [run_require,run_require]
  exact ⟨rfl,hst⟩

lemma failAs (e : ε) (h : Tracks R c d) : Tracks R (c.failAs e) (d.failAs e) := by
  intro s t hst
  obtain ⟨hr,hrl⟩ := h s t hst
  exact ⟨congrArg (Except.mapError fun _ => e) hr,hrl⟩

lemma ite [Decidable p] {c' : Call σ ε α} {d' : Call τ ε α} (h : Tracks R c d)
    (h' : Tracks R c' d') : Tracks R (if p then c else c') (if p then d else d') := by
  by_cases hp : p
  · rw [if_pos hp,if_pos hp]
    exact h
  rw [if_neg hp,if_neg hp]
  exact h'
end Tracks

end EMSSHD.Call
