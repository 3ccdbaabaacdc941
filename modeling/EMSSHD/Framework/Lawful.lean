import EMSSHD.Framework.Call

namespace EMSSHD.Call

variable {σ τ ρ ε α β : Type}

lemma ext_run {c d : Call σ ε α} (h : ∀ s,c.run s=d.run s) : c=d := by
  cases c
  cases d
  exact congrArg Call.mk (funext h)

lemma bind_pure_run (c : Call σ ε α) : c >>= pure=c := by
  apply ext_run
  intro s
  rcases hc : c.run s with ⟨_ | a,t⟩
  · exact run_bind_error hc
  · exact run_bind_ok hc

lemma bind_assoc_run {γ : Type} (c : Call σ ε α) (f : α → Call σ ε β) (g : β → Call σ ε γ) :
    c >>= f >>= g=c >>= fun a => f a >>= g := by
  apply ext_run
  intro s
  rcases hc : c.run s with ⟨e | a,t⟩
  · rw [run_bind_error hc,run_bind_error (run_bind_error hc)]
  · rw [run_bind_ok hc,run_bind,run_bind_ok hc,run_bind]

instance : LawfulMonad (Call σ ε) :=
  .mk' _ bind_pure_run (fun _ _ => rfl) bind_assoc_run

lemma beside_bind (c : Call (σ×τ) ε α) (f : α → Call (σ×τ) ε β) :
    (beside (c >>= f) : Call ((σ×ρ)×τ) ε β)=beside c >>= fun a => beside (f a) := by
  apply ext_run
  intro s
  rcases hc : c.run (s.1.1,s.2) with ⟨_ | a,t⟩ <;> simp only [beside,run_bind,hc]

lemma withLocal_bind (x : ρ) (c : Call ((σ×ρ)×τ) ε α) (f : α → Call (σ×τ) ε β) :
    withLocal x (c >>= fun a => beside (f a))=withLocal x c >>= f := by
  apply ext_run
  intro s
  rcases hc : c.run ((s.1,x),s.2) with ⟨_ | a,t⟩ <;> simp only [withLocal,beside,run_bind,hc]

lemma onRight_bind (c : Call (σ×τ) ε α) (f : α → Call (σ×τ) ε β) :
    (onRight (c >>= f) : Call (σ×(ρ×τ)) ε β)=onRight c >>= fun a => onRight (f a) := by
  apply ext_run
  intro s
  rcases hc : c.run (s.1,s.2.2) with ⟨_ | a,t⟩ <;> simp only [onRight,run_bind,hc]

end EMSSHD.Call
