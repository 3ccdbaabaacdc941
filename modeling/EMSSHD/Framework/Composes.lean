import EMSSHD.Framework.Failure
import EMSSHD.Framework.Invariant

namespace EMSSHD.Call

variable {σ ε α β : Type} {A : ε → Prop} {R : (α : Type) → σ → Except ε α → σ → Prop}

/-- A relation between the states around a call, with its status, that holds of a whole
because it holds of the parts; A are the errors that a part may give on its own. -/
structure Composes (A : ε → Prop) (R : (α : Type) → σ → Except ε α → σ → Prop) : Prop where
  pure : ∀ {α : Type} (a : α) (s : σ),R α s (.ok a) s
  fail : ∀ {α : Type} {e : ε},A e → ∀ s,R α s (.error e) s
  seq : ∀ {α β : Type} {a : α} {r : Except ε β} {s t u : σ},
    R α s (.ok a) t → R β t r u → R β s r u
  error : ∀ {α β : Type} {e : ε} {s t : σ},R α s (.error e) t → R β s (.error e) t

lemma composes_of_trans {S : σ → σ → Prop} (hr : ∀ s,S s s)
    (ht : ∀ {s t u},S s t → S t u → S s u) :
    Composes A fun (α : Type) s (_ : Except ε α) t => S s t :=
  ⟨fun _ => hr,fun _ => hr,ht,id⟩

lemma composes_keeps (I : σ → Prop) : Composes A fun (α : Type) s (_ : Except ε α) t => I s → I t :=
  composes_of_trans (fun _ => id) fun h h' => h' ∘ h

lemma composes_fails : Composes A fun (α : Type) (_ : σ) (r : Except ε α) _ =>
    ∀ e,r=.error e → A e where
  pure _ _ _ h := by cases h
  fail he _ _ h := by
    cases h
    exact he
  seq _ h := h
  error h e he := by
    cases he
    exact h _ rfl

namespace Composes
variable {s : σ} {c : Call σ ε α} {p : Prop} [Decidable p] {e : ε} (h : Composes A R)

include h

lemma bind {s₀ : σ} {f : α → Call σ ε β} (hc : c.Ensures s (R α s₀))
    (hf : ∀ a t,(f a).Ensures t (R β t)) : (c >>= f).Ensures s (R β s₀) := by
  apply hc.bind
  · intro a t ha
    exact (hf a t).mono fun _ _ hb => h.seq ha hb
  intro e t he
  exact h.error he

lemma bindRequire {f : Unit → Call σ ε β} (he : A e) (hf : p → (f ()).Ensures s (R β s)) :
    (Call.require p e >>= f).Ensures s (R β s) :=
  .bindRequire hf fun _ => h.fail he s

lemma require (he : A e) : (Call.require p e : Call σ ε Unit).Ensures s (R Unit s) :=
  .require (fun _ => h.pure () s) fun _ => h.fail he s

lemma onlyIf {c : Call σ ε Unit} (hc : c.Ensures s (R Unit s)) :
    (Call.onlyIf p c).Ensures s (R Unit s) :=
  .onlyIf (fun _ => hc) fun _ => h.pure () s
end Composes

end EMSSHD.Call
