import Mathlib.Tactic

namespace EMSSHD

/-- A C function that returns a status. It may fail, and it leaves behind the
state it has reached in either case. -/
structure Call (σ ε α : Type) where
  run : σ → Except ε α×σ

namespace Call
variable {σ τ ε α β : Type}

/-- Sequencing with early return. -/
protected def bind (c : Call σ ε α) (f : α → Call σ ε β) : Call σ ε β :=
  ⟨fun s => match c.run s with
    | (.ok a,t) => (f a).run t
    | (.error e,t) => (.error e,t)⟩

instance : Monad (Call σ ε) where
  pure a := ⟨fun s => (.ok a,s)⟩
  bind := Call.bind

def fail (e : ε) : Call σ ε α := ⟨fun s => (.error e,s)⟩
def get : Call σ ε σ := ⟨fun s => (.ok s,s)⟩
def modify (f : σ → σ) : Call σ ε Unit := ⟨fun s => (.ok (),f s)⟩

def require (p : Prop) [Decidable p] (e : ε) : Call σ ε Unit :=
  if p then pure () else fail e

def onlyIf (p : Prop) [Decidable p] (c : Call σ ε Unit) : Call σ ε Unit :=
  if p then c else pure ()

def lift (r : Except ε α) : Call σ ε α := ⟨fun s => (r,s)⟩

def status (c : Call σ ε α) : Call σ ε (Except ε α) :=
  ⟨fun s => (.ok (c.run s).1,(c.run s).2)⟩

def ignore (c : Call σ ε α) : Call σ ε Unit := ⟨fun s => (.ok (),(c.run s).2)⟩

def failAs (e : ε) (c : Call σ ε α) : Call σ ε α :=
  ⟨fun s => ((c.run s).1.mapError fun _ => e,(c.run s).2)⟩

def onFst (c : Call σ ε α) : Call (σ×τ) ε α :=
  ⟨fun s => ((c.run s.1).1,((c.run s.1).2,s.2))⟩

def onSnd (c : Call τ ε α) : Call (σ×τ) ε α :=
  ⟨fun s => ((c.run s.2).1,(s.1,(c.run s.2).2))⟩

def beside {ρ : Type} (c : Call (σ×τ) ε α) : Call ((σ×ρ)×τ) ε α :=
  ⟨fun s => ((c.run (s.1.1,s.2)).1,
    (((c.run (s.1.1,s.2)).2.1,s.1.2),(c.run (s.1.1,s.2)).2.2))⟩

def withLocal {ρ : Type} (x : ρ) (c : Call ((σ×ρ)×τ) ε α) : Call (σ×τ) ε α :=
  ⟨fun s => ((c.run ((s.1,x),s.2)).1,
    ((c.run ((s.1,x),s.2)).2.1.1,(c.run ((s.1,x),s.2)).2.2))⟩

def onLeft {ρ : Type} (c : Call (σ×τ) ε α) : Call (σ×(τ×ρ)) ε α :=
  ⟨fun s => ((c.run (s.1,s.2.1)).1,
    ((c.run (s.1,s.2.1)).2.1,((c.run (s.1,s.2.1)).2.2,s.2.2)))⟩

def onRight {ρ : Type} (c : Call (σ×τ) ε α) : Call (σ×(ρ×τ)) ε α :=
  ⟨fun s => ((c.run (s.1,s.2.2)).1,
    ((c.run (s.1,s.2.2)).2.1,(s.2.1,(c.run (s.1,s.2.2)).2.2)))⟩

@[simp] lemma run_pure (a : α) (s : σ) : (pure a : Call σ ε α).run s=(.ok a,s) := rfl
@[simp] lemma run_fail (e : ε) (s : σ) : (fail e : Call σ ε α).run s=(.error e,s) := rfl
@[simp] lemma run_get (s : σ) : (get : Call σ ε σ).run s=(.ok s,s) := rfl
@[simp] lemma run_modify (f : σ → σ) (s : σ) :
    (modify f : Call σ ε Unit).run s=(.ok (),f s) := rfl
@[simp] lemma run_lift (r : Except ε α) (s : σ) : (lift r : Call σ ε α).run s=(r,s) := rfl
@[simp] lemma run_status (c : Call σ ε α) (s : σ) :
    c.status.run s=(.ok (c.run s).1,(c.run s).2) := rfl
@[simp] lemma run_onFst (c : Call σ ε α) (s : σ×τ) :
    c.onFst.run s=((c.run s.1).1,((c.run s.1).2,s.2)) := rfl
@[simp] lemma run_onSnd (c : Call τ ε α) (s : σ×τ) :
    c.onSnd.run s=((c.run s.2).1,(s.1,(c.run s.2).2)) := rfl

variable {p : Prop} {c : Call σ ε α} {f : α → Call σ ε β} {s t : σ} {a : α} {e : ε} {r : Except ε α}
  {P : Except ε α → σ → Prop} {Q : Except ε β → σ → Prop} {ρ : Type}

lemma run_require_of [Decidable p] (e : ε) (s : σ) (h : p) :
    (require p e : Call σ ε Unit).run s=(.ok (),s) := by
  rw [require,if_pos h]
  rfl

lemma run_require [Decidable p] (e : ε) (s : σ) :
    (require p e : Call σ ε Unit).run s=(if p then .ok () else .error e,s) := by
  unfold require
  split_ifs <;> rfl

lemma run_require_not [Decidable p] (e : ε) (s : σ) (h : ¬p) :
    (require p e : Call σ ε Unit).run s=(.error e,s) := by
  rw [require,if_neg h]
  rfl

lemma run_bind (c : Call σ ε α) (f : α → Call σ ε β) (s : σ) :
    (c >>= f).run s=match c.run s with
      | (.ok a,t) => (f a).run t
      | (.error e,t) => (.error e,t) := rfl

lemma run_bind_ok (h : c.run s=(.ok a,t)) : (c >>= f).run s=(f a).run t := by
  rw [run_bind,h]

lemma run_bind_error (h : c.run s=(.error e,t)) : (c >>= f).run s=(.error e,t) := by
  rw [run_bind,h]

lemma run_bind_eq_ok {u : σ} {b : β} (h : (c >>= f).run s=(.ok b,u)) :
    ∃ a t,c.run s=(.ok a,t) ∧ (f a).run t=(.ok b,u) := by
  rcases hc : c.run s with ⟨e | a,t⟩
  · rw [run_bind_error hc] at h
    cases h
  rw [run_bind_ok hc] at h
  exact ⟨a,t,rfl,h⟩

def Ensures (c : Call σ ε α) (s : σ) (Q : Except ε α → σ → Prop) : Prop :=
  Q (c.run s).1 (c.run s).2

def Outcome (P : α → σ → Prop) (E : ε → σ → Prop) : Except ε α → σ → Prop
  | .ok a,t => P a t
  | .error e,t => E e t

lemma Ensures.of_eq {Q : Except ε α → σ → Prop} (h : c.Ensures s Q) (he : c.run s=(r,t)) :
    Q r t := by
  unfold Ensures at h
  rwa [he] at h

lemma Ensures.of_run {Q : Except ε α → σ → Prop} (he : c.run s=(r,t)) (h : Q r t) :
    c.Ensures s Q := by
  unfold Ensures
  rwa [he]

lemma Ensures.run_eq {x : Except ε α×σ} (h : c.Ensures s fun r t => (r,t)=x) : c.run s=x := h

lemma Ensures.mono {Q : Except ε α → σ → Prop} (h : c.Ensures s P) (hi : ∀ r t,P r t → Q r t) :
    c.Ensures s Q := hi _ _ h

lemma Ensures.bind (h : c.Ensures s P) (hok : ∀ a t,P (.ok a) t → (f a).Ensures t Q)
    (he : ∀ e t,P (.error e) t → Q (.error e) t) : (c >>= f).Ensures s Q := by
  unfold Ensures at h ⊢
  rcases hc : c.run s with ⟨r,t⟩
  rw [hc] at h
  cases r with
  | ok a =>
    rw [run_bind_ok hc]
    exact hok a t h
  | error e =>
    rw [run_bind_error hc]
    exact he e t h

lemma Ensures.bindOk (h : c.run s=(.ok a,t)) (hf : (f a).Ensures t Q) : (c >>= f).Ensures s Q := by
  unfold Ensures
  rw [run_bind_ok h]
  exact hf

lemma Ensures.pure {Q : Except ε α → σ → Prop} (h : Q (.ok a) s) :
    (pure a : Call σ ε α).Ensures s Q := h

lemma Ensures.fail {Q : Except ε α → σ → Prop} (h : Q (.error e) s) :
    (Call.fail e : Call σ ε α).Ensures s Q := h

lemma Ensures.modify {f : σ → σ} {Q : Except ε Unit → σ → Prop} (h : Q (.ok ()) (f s)) :
    (Call.modify f).Ensures s Q := h

lemma Ensures.lift {Q : Except ε α → σ → Prop} (h : Q r s) : (Call.lift r).Ensures s Q := h

lemma Ensures.bindGet {f : σ → Call σ ε β} (h : (f s).Ensures s Q) :
    (Call.get >>= f).Ensures s Q := h

lemma Ensures.bindModify {g : σ → σ} {f : Unit → Call σ ε β} (h : (f ()).Ensures (g s) Q) :
    (Call.modify g >>= f).Ensures s Q := h

lemma Ensures.bindLift (hok : ∀ a,r=.ok a → (f a).Ensures s Q)
    (he : ∀ e,r=.error e → Q (.error e) s) : (Call.lift r >>= f).Ensures s Q := by
  cases r with
  | ok a => exact hok a rfl
  | error e => exact he e rfl

lemma Ensures.bindRequire [Decidable p] {f : Unit → Call σ ε β} (hok : p → (f ()).Ensures s Q)
    (he : ¬p → Q (.error e) s) : (Call.require p e >>= f).Ensures s Q := by
  by_cases h : p
  · unfold Ensures
    rw [run_bind_ok (run_require_of e s h)]
    exact hok h
  unfold Ensures
  rw [run_bind_error (run_require_not e s h)]
  exact he h

lemma Ensures.require [Decidable p] {Q : Except ε Unit → σ → Prop} (hok : p → Q (.ok ()) s)
    (he : ¬p → Q (.error e) s) : (Call.require p e).Ensures s Q := by
  unfold Call.require
  split_ifs with h
  · exact hok h
  · exact he h

lemma Ensures.onlyIf [Decidable p] {c : Call σ ε Unit} {Q : Except ε Unit → σ → Prop}
    (hc : p → c.Ensures s Q) (hn : ¬p → Q (.ok ()) s) : (Call.onlyIf p c).Ensures s Q := by
  unfold Call.onlyIf
  split_ifs with h
  · exact hc h
  · exact hn h

lemma Ensures.ite [Decidable p] {d : Call σ ε α} {Q : Except ε α → σ → Prop}
    (hc : p → c.Ensures s Q) (hd : ¬p → d.Ensures s Q) : (if p then c else d).Ensures s Q := by
  split_ifs with h
  · exact hc h
  · exact hd h

lemma Ensures.status {Q : Except ε (Except ε α) → σ → Prop} (h : c.Ensures s P)
    (hi : ∀ r t,P r t → Q (.ok r) t) : c.status.Ensures s Q := hi _ _ h

lemma Ensures.ignore {Q : Except ε Unit → σ → Prop} (h : c.Ensures s P)
    (hi : ∀ r t,P r t → Q (.ok ()) t) : c.ignore.Ensures s Q := hi _ _ h

lemma Ensures.andThen
    (h : c.Ensures s (Outcome (fun a t => (f a).Ensures t Q) fun e t => Q (.error e) t)) :
    (c >>= f).Ensures s Q :=
  h.bind (fun _ _ ht => ht) fun _ _ ht => ht

lemma Ensures.bindStatus {f : Except ε α → Call σ ε β}
    (h : c.Ensures s fun r t => (f r).Ensures t Q) : (c.status >>= f).Ensures s Q := h

lemma Ensures.bindIgnore {f : Unit → Call σ ε β} (h : c.Ensures s fun _ t => (f ()).Ensures t Q) :
    (c.ignore >>= f).Ensures s Q := h

lemma Ensures.onFst {s : σ×τ} (h : c.Ensures s.1 P) :
    (c.onFst : Call (σ×τ) ε α).Ensures s (fun r t => P r t.1 ∧ t.2=s.2) := ⟨h,rfl⟩

lemma Ensures.beside {c : Call (σ×τ) ε α} {s : (σ×ρ)×τ} {Q : Except ε α → σ×τ → Prop}
    (h : c.Ensures (s.1.1,s.2) Q) : (Call.beside c).Ensures s (fun r t => Q r (t.1.1,t.2)) := h

lemma Ensures.onLeft {c : Call (σ×τ) ε α} {s : σ×(τ×ρ)} {Q : Except ε α → σ×τ → Prop}
    (h : c.Ensures (s.1,s.2.1) Q) : (Call.onLeft c).Ensures s (fun r t => Q r (t.1,t.2.1)) := h

lemma Ensures.onRight {c : Call (σ×τ) ε α} {s : σ×(ρ×τ)} {Q : Except ε α → σ×τ → Prop}
    (h : c.Ensures (s.1,s.2.2) Q) : (Call.onRight c).Ensures s (fun r t => Q r (t.1,t.2.2)) := h

lemma Ensures.onSnd {c : Call τ ε α} {s : σ×τ} {Q : Except ε α → σ×τ → Prop}
    (h : c.Ensures s.2 (fun r t => Q r (s.1,t))) : c.onSnd.Ensures s Q := h

export Ensures (bindGet bindModify bindRequire bindLift bindStatus bindOk bindIgnore)
end Call

variable {α ε : Type} {p : Prop}

lemma except_bind_ok {β : Type} {r : Except ε α} {f : α → Except ε β} {b : β}
    (h : r >>= f=.ok b) : ∃ a,r=.ok a ∧ f a=.ok b := by
  cases r with
  | error e => cases h
  | ok a => exact ⟨a,rfl,h⟩

def checkThat {ε : Type} (p : Prop) [Decidable p] (e : ε) : Except ε Unit :=
  if p then .ok () else .error e

lemma checkThat_ok [Decidable p] {e : ε} {a : Unit} (h : checkThat p e=.ok a) : p := by
  unfold checkThat at h
  split_ifs at h with hp
  exact hp

@[simp] lemma checkThat_bind_eq_ok [Decidable p] {e : ε} {f : Unit → Except ε α} {a : α} :
    (checkThat p e >>= f)=.ok a ↔ p ∧ f ()=.ok a := by
  unfold checkThat
  split_ifs with hp
  · exact (and_iff_right hp).symm
  refine iff_of_false (fun h => ?_) fun h => hp h.1
  cases h

/-- The states a caller passes through when it makes the same call again and
again. The relation go says after which steps it calls once more. -/
inductive Run {σ ε α : Type} (c : Call σ ε α) (go : σ → Except ε α → σ → Prop) (s : σ) : σ → Prop
  | start : Run c go s s
  | next {t u : σ} {r : Except ε α} : Run c go s t → c.run t=(r,u) → go t r u → Run c go s u

namespace Run
variable {σ ε α : Type} {c : Call σ ε α} {go go' : σ → Except ε α → σ → Prop} {s t : σ}

/-- What holds at the start and survives every step that is followed by another
call holds in every state of the run. -/
theorem invariant (I : σ → Prop) (h0 : I s)
    (step : ∀ t r u,I t → c.run t=(r,u) → go t r u → I u) (h : Run c go s t) : I t := by
  induction h with
  | start => exact h0
  | next _ hc hg ih => exact step _ _ _ ih hc hg

lemma step (h : Run c go s t) (hg : go t (c.run t).1 (c.run t).2) : Run c go s (c.run t).2 :=
  h.next rfl hg
end Run

end EMSSHD
