import EMSSHD.Framework.Invariant

namespace EMSSHD.Call

variable {σ ε α β E : Type} {tr : σ → List E}

/-- A call that appends to a trace of events: P relates its result to what it
has appended. -/
def Emits (tr : σ → List E) (c : Call σ ε α) (P : Except ε α → List E → Prop) : Prop :=
  ∀ s,c.Ensures s (fun r t => ∃ evs,tr t=tr s++evs ∧ P r evs)

namespace Emits
variable {c : Call σ ε α} {P : Except ε α → List E → Prop} {f : α → Call σ ε β}
  {Q : Except ε β → List E → Prop} {e : ε} {r : Except ε α} {p : Prop} {ρ τ : Type}

lemma mono {Q : Except ε α → List E → Prop} (h : Emits tr c P) (hi : ∀ r evs,P r evs → Q r evs) :
    Emits tr c Q := by
  intro s
  apply (h s).mono
  rintro r t ⟨evs,ht,hp⟩
  exact ⟨evs,ht,hi r evs hp⟩

lemma bind (h : Emits tr c P)
    (hok : ∀ a evs,P (.ok a) evs → Emits tr (f a) (fun r later => Q r (evs++later)))
    (he : ∀ e evs,P (.error e) evs → Q (.error e) evs) : Emits tr (c >>= f) Q := by
  intro s
  apply Ensures.bind (h s)
  · rintro a t ⟨evs,ht,hp⟩
    apply (hok a evs hp t).mono
    rintro r u ⟨later,hu,hq⟩
    refine ⟨evs++later,?_,hq⟩
    rw [hu,ht,List.append_assoc]
  rintro e t ⟨evs,ht,hp⟩
  exact ⟨evs,ht,he e evs hp⟩

lemma pure {a : α} (h : P (.ok a) []) : Emits tr (Pure.pure a : Call σ ε α) P :=
  fun s => ⟨[],(List.append_nil (tr s)).symm,h⟩

lemma fail (h : P (.error e) []) : Emits tr (Call.fail e : Call σ ε α) P :=
  fun s => ⟨[],(List.append_nil (tr s)).symm,h⟩

lemma bindLift (hok : ∀ a,r=.ok a → Emits tr (f a) Q) (her : ∀ e,r=.error e → Q (.error e) []) :
    Emits tr (Call.lift r >>= f) Q := by
  intro s
  apply Ensures.bindLift
  · intro a ha
    exact hok a ha s
  intro e he
  exact ⟨[],(List.append_nil _).symm,her e he⟩

lemma bindRequire [Decidable p] {f : Unit → Call σ ε β} (hok : p → Emits tr (f ()) Q)
    (he : ¬p → Q (.error e) []) : Emits tr (Call.require p e >>= f) Q := by
  intro s
  apply Ensures.bindRequire
  · intro hp
    exact hok hp s
  intro hp
  exact ⟨[],(List.append_nil _).symm,he hp⟩

lemma onlyIf [Decidable p] {c : Call σ ε Unit} {Q : Except ε Unit → List E → Prop}
    (hc : p → Emits tr c Q) (hn : ¬p → Q (.ok ()) []) : Emits tr (Call.onlyIf p c) Q := by
  intro s
  apply Ensures.onlyIf
  · intro hp
    exact hc hp s
  intro hp
  exact ⟨[],(List.append_nil _).symm,hn hp⟩

lemma ite [Decidable p] {d : Call σ ε α} {Q : Except ε α → List E → Prop} (hc : p → Emits tr c Q)
    (hd : ¬p → Emits tr d Q) : Emits tr (if p then c else d) Q := by
  by_cases hp : p
  · rw [if_pos hp]
    exact hc hp
  rw [if_neg hp]
  exact hd hp

lemma onFst (h : Emits tr c P) : Emits (fun s : σ×τ => tr s.1) (Call.onFst c) P := fun s => h s.1

lemma ignore {Q : Except ε Unit → List E → Prop} (h : Emits tr c P)
    (hi : ∀ r evs,P r evs → Q (.ok ()) evs) : Emits tr c.ignore Q := by
  intro s
  obtain ⟨evs,ht,hp⟩ := h s
  exact ⟨evs,ht,hi _ _ hp⟩

lemma onLeft {c : Call (σ×τ) ε α} (h : Emits (fun s => tr s.1) c P) :
    Emits (fun s : σ×(τ×ρ) => tr s.1) (Call.onLeft c) P := fun s => h (s.1,s.2.1)

lemma onRight {c : Call (σ×τ) ε α} (h : Emits (fun s => tr s.1) c P) :
    Emits (fun s : σ×(ρ×τ) => tr s.1) (Call.onRight c) P := fun s => h (s.1,s.2.2)

lemma silent {P : List E → Prop} (hc : ∀ s,tr (c.run s).2=tr s) (h : P []) :
    Emits tr c (fun _ => P) :=
  fun s => ⟨[],by rw [hc,List.append_nil],h⟩

lemma bindQuiet {P : List E → Prop} (hc : ∀ s,tr (c.run s).2=tr s)
    (hf : ∀ a,Emits tr (f a) fun _ => P) (h : P []) : Emits tr (c >>= f) fun _ => P := by
  refine (silent (P := (·=[])) hc rfl).bind (fun a _ he => ?_) fun _ _ he => he ▸ h
  rw [he]
  exact hf a

lemma bindSilent {g : σ → σ} {f : Unit → Call σ ε β} (hg : ∀ s,tr (g s)=tr s)
    (h : Emits tr (f ()) Q) : Emits tr (Call.modify g >>= f) Q := by
  intro s
  have hs := h (g s)
  rw [hg s] at hs
  exact hs
end Emits

/-- What has happened since the trace was l has the property P. -/
def Since (tr : σ → List E) (P : List E → Prop) (l : List E) (s : σ) : Prop :=
  ∃ evs,tr s=l++evs ∧ P evs

lemma since_refl {P : List E → Prop} (h : P []) (s : σ) : Since tr P (tr s) s :=
  ⟨[],(List.append_nil _).symm,h⟩

lemma Emits.keeps {c : Call σ ε α} {P : List E → Prop} (h : Emits tr c fun _ => P)
    (ha : ∀ evs later,P evs → P later → P (evs++later)) (l : List E) :
    Keeps (Since tr P l) c := by
  rintro s ⟨evs,hs,hp⟩
  obtain ⟨later,ht,hl⟩ := h s
  exact ⟨evs++later,by rw [ht,hs,List.append_assoc],ha evs later hp hl⟩

end EMSSHD.Call
