import EMSSHD.Framework.Call

namespace EMSSHD.Call

variable {σ τ ε α β : Type} {P : ε → Prop}

def Fails (P : ε → Prop) (c : Call σ ε α) : Prop := ∀ s e,(c.run s).1=.error e → P e

namespace Fails
variable {c : Call σ ε α} {e : ε} {p : Prop}

lemma bind {f : α → Call σ ε β} (h : Fails P c) (hf : ∀ a,Fails P (f a)) : Fails P (c >>= f) := by
  intro s e he
  rcases hc : c.run s with ⟨x | a,t⟩
  · rw [run_bind_error hc] at he
    have hx : x=e := Except.error.inj he
    exact h s e (by rw [hc,hx])
  rw [run_bind_ok hc] at he
  exact hf a t e he

lemma pure (a : α) : Fails P (Pure.pure a : Call σ ε α) := by
  intro s e he
  cases he

lemma fail (h : P e) : Fails P (Call.fail e : Call σ ε α) := by
  intro s x hx
  cases hx
  exact h

lemma get : Fails P (Call.get : Call σ ε σ) := by
  intro s e he
  cases he

lemma modify (f : σ → σ) : Fails P (Call.modify f : Call σ ε Unit) := by
  intro s e he
  cases he

lemma lift {r : Except ε α} (h : ∀ e,r=.error e → P e) : Fails P (Call.lift r : Call σ ε α) :=
  fun _ e he => h e he

lemma ite [Decidable p] {d : Call σ ε α} (hc : Fails P c) (hd : Fails P d) :
    Fails P (if p then c else d) := by
  by_cases hp : p
  · rw [if_pos hp]
    exact hc
  rw [if_neg hp]
  exact hd

lemma require [Decidable p] (h : P e) :
    Fails P (Call.require p e : Call σ ε Unit) := ite (pure ()) (fail h)

lemma onlyIf [Decidable p] {c : Call σ ε Unit} (h : Fails P c) :
    Fails P (Call.onlyIf p c) := ite h (pure ())

lemma failAs (h : P e) : Fails P (Call.failAs e c) := by
  intro s x hx
  have hm : ((c.run s).1.mapError fun _ => e)=.error x := hx
  cases hr : (c.run s).1 with
  | ok a =>
    rw [hr] at hm
    cases hm
  | error y =>
    rw [hr] at hm
    cases hm
    exact h

lemma onFst (h : Fails P c) : Fails P (Call.onFst c : Call (σ×τ) ε α) :=
  fun s e he => h s.1 e he

lemma bindStatus {f : Except ε α → Call σ ε β} (h : Fails P c)
    (hf : ∀ r : Except ε α,(∀ e,r=.error e → P e) → Fails P (f r)) : Fails P (c.status >>= f) :=
  fun s e he => hf _ (h s) _ e he
end Fails

end EMSSHD.Call
