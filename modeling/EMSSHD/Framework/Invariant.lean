import EMSSHD.Framework.Call

namespace EMSSHD.Call

variable {σ τ ε α β : Type} {I : σ → Prop}

/-- A call that keeps a property of the state, whatever its status. -/
def Keeps (I : σ → Prop) (c : Call σ ε α) : Prop := ∀ s,I s → I (c.run s).2

namespace Keeps
variable {c : Call σ ε α} {p : Prop}

lemma ensures (h : Keeps I c) {s : σ} (hs : I s) : c.Ensures s (fun _ t => I t) := h s hs

lemma bind {f : α → Call σ ε β} (h : Keeps I c) (hf : ∀ a,Keeps I (f a)) : Keeps I (c >>= f) := by
  intro s hs
  have ht := h s hs
  rcases hc : c.run s with ⟨a | a,t⟩
  · rw [run_bind_error hc]
    rwa [hc] at ht
  rw [run_bind_ok hc]
  rw [hc] at ht
  exact hf a t ht

lemma pure (a : α) : Keeps I (Pure.pure a : Call σ ε α) := fun _ h => h
lemma fail (e : ε) : Keeps I (Call.fail e : Call σ ε α) := fun _ h => h
lemma lift (r : Except ε α) : Keeps I (Call.lift r) := fun _ h => h
lemma get : Keeps I (Call.get : Call σ ε σ) := fun _ h => h
lemma modify {f : σ → σ} (hf : ∀ s,I s → I (f s)) : Keeps I (Call.modify f : Call σ ε Unit) := hf

lemma require (p : Prop) [Decidable p] (e : ε) : Keeps I (Call.require p e : Call σ ε Unit) := by
  unfold Call.require
  split_ifs
  · exact pure ()
  · exact fail e

lemma ite [Decidable p] {d : Call σ ε α} (hc : Keeps I c) (hd : Keeps I d) :
    Keeps I (if p then c else d) := by
  split_ifs
  · exact hc
  · exact hd

lemma onlyIf [Decidable p] {c : Call σ ε Unit} (hc : Keeps I c) :
    Keeps I (Call.onlyIf p c) := ite hc (pure ())

lemma status (hc : Keeps I c) : Keeps I c.status := hc
lemma ignore (hc : Keeps I c) : Keeps I c.ignore := hc

lemma onFst (I : τ → Prop) (c : Call σ ε α) :
    Keeps (fun s : σ×τ => I s.2) (Call.onFst c) := fun _ h => h

lemma both (h : Keeps I c) {J : τ → Prop} :
    Keeps (fun s : σ×τ => I s.1 ∧ J s.2) (Call.onFst c) := fun s hs => ⟨h s.1 hs.1,hs.2⟩
end Keeps

/-- A call that leaves a part of the state alone, whatever its status. -/
def Leaves {γ : Type} (part : σ → γ) (c : Call σ ε α) : Prop := ∀ s,part (c.run s).2=part s

namespace Leaves
variable {γ δ : Type} {part : σ → γ}
variable {c : Call σ ε α} {p : Prop}

lemma keeps (h : Leaves part c) {P : γ → Prop} : Keeps (fun s => P (part s)) c := by
  intro s hs
  show P (part (c.run s).2)
  rw [h s]
  exact hs

lemma ensures (h : Leaves part c) {s : σ} {k : γ} (hs : part s=k) :
    c.Ensures s (fun _ t => part t=k) := (h s).trans hs

lemma of_part (h : Leaves part c) (f : γ → δ) :
    Leaves (fun s => f (part s)) c := fun s => congrArg f (h s)

lemma bind {f : α → Call σ ε β} (h : Leaves part c) (hf : ∀ a,Leaves part (f a)) :
    Leaves part (c >>= f) := by
  intro s
  have hk := Keeps.bind (I := fun t => part t=part s) (fun t ht => (h t).trans ht)
    (fun a t ht => (hf a t).trans ht)
  exact hk s rfl

lemma pure (a : α) : Leaves part (Pure.pure a : Call σ ε α) := fun _ => rfl
lemma fail (e : ε) : Leaves part (Call.fail e : Call σ ε α) := fun _ => rfl
lemma lift (r : Except ε α) : Leaves part (Call.lift r) := fun _ => rfl
lemma get : Leaves part (Call.get : Call σ ε σ) := fun _ => rfl

lemma require (p : Prop) [Decidable p] (e : ε) :
    Leaves part (Call.require p e : Call σ ε Unit) := by
  unfold Call.require
  split_ifs
  · exact pure ()
  · exact fail e

lemma ite [Decidable p] {d : Call σ ε α} (hc : Leaves part c) (hd : Leaves part d) :
    Leaves part (if p then c else d) := by
  split_ifs
  · exact hc
  · exact hd

lemma onlyIf [Decidable p] {c : Call σ ε Unit} (hc : Leaves part c) :
    Leaves part (Call.onlyIf p c) := ite hc (pure ())

lemma status (hc : Leaves part c) : Leaves part c.status := hc
end Leaves

end EMSSHD.Call
