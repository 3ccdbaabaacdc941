import Mathlib.Logic.Function.Basic
import Mathlib.Tactic.Basic

namespace EMSSHD.Monitor

/-- What a thread does at a place of its code, with one mutex and one condition variable that
all threads share. At rest it is in no call. -/
inductive Instr (W Pc σ : Type) where
  | rest
  | lock (next : Pc)
  | unlock (next : Pc)
  | wait (next : Pc)
  | broadcast (next : Pc)
  | update (f : W → σ → σ) (next : Pc)
  | test (p : W → σ → Bool) (yes no : Pc)

/-- The places of a thread before and behind an instruction hold the mutex as they should. -/
def Instr.Guarded {W Pc σ : Type} (inside : Pc → Bool) (place : Pc) : Instr W Pc σ → Prop
  | .rest => inside place=false
  | .lock next => inside place=false ∧ inside next=true
  | .unlock next => inside place=true ∧ inside next=false
  | .wait next => inside place=true ∧ inside next=true
  | .broadcast next => inside next=inside place
  | .update _ next => inside next=inside place
  | .test _ yes no => inside yes=inside place ∧ inside no=inside place

structure Code (W Pc σ : Type) where
  instr : Pc → Instr W Pc σ
  inside : Pc → Bool
  guarded : ∀ place,(instr place).Guarded inside place
  enters : Pc → Pc → Bool
  entersFrom : ∀ place entry,enters place entry=true → inside place=false
  entersOutside : ∀ place entry,enters place entry=true → inside entry=false

inductive Mode where
  | awake
  | asleep
  | woken
  deriving DecidableEq

structure Threads (W Pc σ : Type) where
  shared : σ
  holder : Option W
  place : W → Pc
  mode : W → Mode

/-- What happens next: a thread runs, enters a call, is woken for no reason, or gets the
mutex behind a wait. -/
inductive Event (W Pc : Type) where
  | run (w : W)
  | enter (w : W) (entry : Pc)
  | wake (w : W)
  | resume (w : W)

variable {W Pc σ : Type} [DecidableEq W]

namespace Threads

def goto (s : Threads W Pc σ) (w : W) (place : Pc) : Threads W Pc σ :=
  {s with place := Function.update s.place w place}

def setMode (s : Threads W Pc σ) (w : W) (mode : Mode) : Threads W Pc σ :=
  {s with mode := Function.update s.mode w mode}

def atRest (shared : σ) (place : Pc) : Threads W Pc σ where
  shared := shared
  holder := none
  place _ := place
  mode _ := .awake

def wakeAll (s : Threads W Pc σ) : Threads W Pc σ :=
  {s with mode := fun w => if s.mode w=.asleep then .woken else s.mode w}
end Threads

def execute (s : Threads W Pc σ) (w : W) : Instr W Pc σ → Option (Threads W Pc σ)
  | .rest => none
  | .lock next => if s.holder=none then some ({s with holder := some w}.goto w next) else none
  | .unlock next => some ({s with holder := none}.goto w next)
  | .wait _ => some ({s with holder := none}.setMode w .asleep)
  | .broadcast next => some (s.wakeAll.goto w next)
  | .update f next => some ({s with shared := f w s.shared}.goto w next)
  | .test p yes no => some (s.goto w (if p w s.shared then yes else no))

def resume (s : Threads W Pc σ) (w : W) : Instr W Pc σ → Option (Threads W Pc σ)
  | .wait next =>
    if s.mode w=.woken ∧ s.holder=none then
      some (({s with holder := some w}.setMode w .awake).goto w next)
    else none
  | _ => none

def fire (code : Code W Pc σ) (s : Threads W Pc σ) : Event W Pc → Option (Threads W Pc σ)
  | .run w => if s.mode w=.awake then execute s w (code.instr (s.place w)) else none
  | .enter w entry =>
    if s.mode w=.awake ∧ code.enters (s.place w) entry=true then some (s.goto w entry) else none
  | .wake w => if s.mode w=.asleep then some (s.setMode w .woken) else none
  | .resume w => resume s w (code.instr (s.place w))

/-- The states that the threads come to when every event is one of those allowed. -/
inductive Reaches (code : Code W Pc σ) (allowed : Threads W Pc σ → Event W Pc → Prop)
    (s : Threads W Pc σ) : Threads W Pc σ → Prop where
  | start : Reaches code allowed s s
  | next {t u : Threads W Pc σ} (e : Event W Pc) : Reaches code allowed s t → allowed t e →
      fire code t e=some u → Reaches code allowed s u

def anyEvent (_ : Threads W Pc σ) (_ : Event W Pc) : Prop := True

instance (s : Threads W Pc σ) (e : Event W Pc) : Decidable (anyEvent s e) :=
  inferInstanceAs (Decidable True)

variable {code : Code W Pc σ} {allowed : Threads W Pc σ → Event W Pc → Prop} {s t : Threads W Pc σ}

lemma Reaches.invariant (I : Threads W Pc σ → Prop) (hs : I s)
    (hst : ∀ t u e,I t → fire code t e=some u → I u) (h : Reaches code allowed s t) : I t := by
  induction h with
  | start => exact hs
  | next e _ _ hf ih => exact hst _ _ e ih hf

def runEvents (code : Code W Pc σ) (allowed : Threads W Pc σ → Event W Pc → Prop)
    [∀ s e,Decidable (allowed s e)] : Threads W Pc σ → List (Event W Pc) → Option (Threads W Pc σ)
  | s,[] => some s
  | s,e :: es =>
    if allowed s e then (fire code s e).bind fun t => runEvents code allowed t es else none

lemma Reaches.of_runEvents [∀ s e,Decidable (allowed s e)] {u : Threads W Pc σ}
    {es : List (Event W Pc)} (hrc : Reaches code allowed s t)
    (hr : runEvents code allowed t es=some u) : Reaches code allowed s u := by
  induction es generalizing t with
  | nil =>
    have htu : t=u := Option.some.inj hr
    exact htu ▸ hrc
  | cons e es ih =>
    simp only [runEvents,Option.ite_none_right_eq_some] at hr
    obtain ⟨v,hf,hrs⟩ := Option.bind_eq_some_iff.mp hr.2
    exact ih (.next e hrc hr.1 hf) hrs

/-- The places that an instruction leads to without an update of the shared state. -/
def Instr.Leads (w : W) (shared : σ) (place : Pc) : Instr W Pc σ → Prop
  | .lock next | .unlock next | .wait next | .broadcast next => place=next
  | .test p yes no => place=if p w shared then yes else no
  | .rest | .update _ _ => False

/-- An event updates the shared state, or it only moves one thread. -/
lemma fire_moves {e : Event W Pc} (hf : fire code s e=some t) :
    (∃ w f next,e=.run w ∧ s.mode w=.awake ∧ code.instr (s.place w)=.update f next ∧
      t={s with shared := f w s.shared}.goto w next) ∨
    (∀ w f next,e=.run w → code.instr (s.place w)≠.update f next) ∧ t.shared=s.shared ∧
      ∃ w next,t.place=Function.update s.place w next ∧
        (next=s.place w ∨ code.enters (s.place w) next=true ∨
          (code.instr (s.place w)).Leads w s.shared next) := by
  have hstay (w : W) : s.place=Function.update s.place w (s.place w) :=
    (Function.update_eq_self w _).symm
  cases e with
  | run w =>
    simp only [fire,Option.ite_none_right_eq_some] at hf
    obtain ⟨ha,hf⟩ := hf
    cases hi : code.instr (s.place w) with
    | rest => simp [hi,execute] at hf
    | update f next =>
      rw [hi] at hf
      exact .inl ⟨w,f,next,rfl,ha,hi,(Option.some.inj hf).symm⟩
    | lock next =>
      simp only [hi,execute,Option.ite_none_right_eq_some,Option.some.injEq] at hf
      obtain ⟨-,rfl⟩ := hf
      exact .inr ⟨by rintro _ _ _ ⟨⟩; simp [hi],rfl,w,next,rfl,.inr (.inr (by rw [hi]; rfl))⟩
    | wait next =>
      rw [hi] at hf
      obtain rfl := Option.some.inj hf
      exact .inr ⟨by rintro _ _ _ ⟨⟩; simp [hi],rfl,w,_,hstay w,.inl rfl⟩
    | _ =>
      rw [hi] at hf
      obtain rfl := Option.some.inj hf
      exact .inr ⟨by rintro _ _ _ ⟨⟩; simp [hi],rfl,w,_,rfl,.inr (.inr (by rw [hi]; rfl))⟩
  | enter w entry =>
    simp only [fire,Option.ite_none_right_eq_some,Option.some.injEq] at hf
    obtain ⟨⟨-,he⟩,rfl⟩ := hf
    exact .inr ⟨nofun,rfl,w,entry,rfl,.inr (.inl he)⟩
  | wake w =>
    simp only [fire,Option.ite_none_right_eq_some,Option.some.injEq] at hf
    obtain ⟨-,rfl⟩ := hf
    exact .inr ⟨nofun,rfl,w,_,hstay w,.inl rfl⟩
  | resume w =>
    cases hi : code.instr (s.place w) with
    | wait next =>
      simp only [fire,hi,resume,Option.ite_none_right_eq_some,Option.some.injEq] at hf
      obtain ⟨-,rfl⟩ := hf
      exact .inr ⟨nofun,rfl,w,next,rfl,.inr (.inr (by rw [hi]; rfl))⟩
    | _ => simp [fire,hi,resume] at hf

/-- The thread that holds the mutex is the one that runs inside of it, and a thread that
does not run waits. -/
structure Exclusive (code : Code W Pc σ) (s : Threads W Pc σ) : Prop where
  holds : ∀ w,s.holder=some w ↔ s.mode w=.awake ∧ code.inside (s.place w)=true
  waits : ∀ w,s.mode w≠.awake → ∃ next,code.instr (s.place w)=.wait next

namespace Exclusive
variable {code : Code W Pc σ} {s : Threads W Pc σ}
variable {w : W} {place : Pc} {t : Threads W Pc σ}

/-- Only one thread has changed, and it waits if it does not run. -/
lemma changed (h : Exclusive code s) {mode : Mode} (hp : t.place=Function.update s.place w place)
    (hm : t.mode=Function.update s.mode w mode)
    (hw : t.holder=some w ↔ mode=.awake ∧ code.inside place=true)
    (ho : ∀ v,v≠w → (t.holder=some v ↔ s.holder=some v))
    (hn : mode≠.awake → ∃ next,code.instr place=.wait next) : Exclusive code t := by
  constructor
  · intro v
    rw [hp,hm]
    by_cases hv : v=w
    · subst hv
      simpa using hw
    rw [Function.update_of_ne hv,Function.update_of_ne hv,ho v hv]
    exact h.holds v
  intro v hv
  rw [hm] at hv
  rw [hp]
  by_cases hvw : v=w
  · subst hvw
    rw [Function.update_self] at hv ⊢
    exact hn hv
  rw [Function.update_of_ne hvw] at hv ⊢
  exact h.waits v hv

lemma goto (h : Exclusive code s) (ha : s.mode w=.awake)
    (hs : code.inside place=code.inside (s.place w)) : Exclusive code (s.goto w place) :=
  h.changed rfl (Function.update_eq_self w _).symm (hs ▸ h.holds w) (fun _ _ => .rfl)
    fun hn => absurd ha hn

lemma lock (h : Exclusive code s) (ha : s.mode w=.awake) (hf : s.holder=none)
    (hs : code.inside place=true) : Exclusive code ({s with holder := some w}.goto w place) :=
  h.changed rfl (Function.update_eq_self w _).symm (by simp [Threads.goto,ha,hs])
    (fun v hv => by simp [Threads.goto,hf,Ne.symm hv]) fun hn => absurd ha hn

lemma unlock (h : Exclusive code s) (ha : s.mode w=.awake) (hin : code.inside (s.place w)=true)
    (hs : code.inside place=false) : Exclusive code ({s with holder := none}.goto w place) := by
  have hh := (h.holds w).mpr ⟨ha,hin⟩
  exact h.changed rfl (Function.update_eq_self w _).symm (by simp [Threads.goto,hs])
    (fun v hv => by simp [Threads.goto,hh,Ne.symm hv]) fun hn => absurd ha hn

lemma sleep (h : Exclusive code s) {next : Pc} (ha : s.mode w=.awake)
    (hin : code.inside (s.place w)=true) (hw : code.instr (s.place w)=.wait next) :
    Exclusive code ({s with holder := none}.setMode w .asleep) := by
  have hh := (h.holds w).mpr ⟨ha,hin⟩
  exact h.changed (Function.update_eq_self w _).symm rfl (by simp [Threads.setMode])
    (fun v hv => by simp [Threads.setMode,hh,Ne.symm hv]) fun _ => ⟨next,hw⟩

lemma resume (h : Exclusive code s) {w : W} {next : Pc} (hf : s.holder=none)
    (hs : code.inside next=true) :
    Exclusive code (({s with holder := some w}.setMode w .awake).goto w next) :=
  h.changed rfl rfl (by simp [Threads.goto,Threads.setMode,hs])
    (fun v hv => by simp [Threads.goto,Threads.setMode,hf,Ne.symm hv]) fun hn => absurd rfl hn

omit [DecidableEq W] in
lemma others (h : Exclusive code s) {v : W} (hhl : s.holder=some w) (hv : v≠w)
    (ha : s.mode v=.awake) : code.inside (s.place v)=false := by
  by_contra hin
  have hh := (h.holds v).mpr ⟨ha,by simpa using hin⟩
  rw [hhl] at hh
  exact hv (Option.some.inj hh).symm

omit [DecidableEq W] in
lemma wakened (h : Exclusive code s) {mode : W → Mode}
    (hm : ∀ v,mode v=.awake ↔ s.mode v=.awake) : Exclusive code {s with mode := mode} := by
  constructor
  · intro v
    simpa [hm v] using h.holds v
  intro v hv
  exact h.waits v (mt (hm v).mpr hv)

lemma execute (h : Exclusive code s) (ha : s.mode w=.awake)
    (hf : Monitor.execute s w (code.instr (s.place w))=some t) : Exclusive code t := by
  have hg := code.guarded (s.place w)
  revert hg hf
  cases hi : code.instr (s.place w) with
  | rest => simp [Monitor.execute]
  | lock next =>
    intro hf hg
    simp only [Monitor.execute,Option.ite_none_right_eq_some,Option.some.injEq] at hf
    exact hf.2 ▸ h.lock ha hf.1 hg.2
  | unlock next =>
    intro hf hg
    exact Option.some.inj hf ▸ h.unlock ha hg.1 hg.2
  | wait next =>
    intro hf hg
    exact Option.some.inj hf ▸ h.sleep ha hg.1 hi
  | broadcast next =>
    intro hf hg
    have hw : Exclusive code s.wakeAll := by
      refine h.wakened fun v => ?_
      by_cases hv : s.mode v=.asleep <;> simp [hv]
    refine Option.some.inj hf ▸ hw.goto ?_ hg
    simp [Threads.wakeAll,ha]
  | update f next =>
    intro hf hg
    have hs : Exclusive code {s with shared := f w s.shared} := ⟨h.holds,h.waits⟩
    exact Option.some.inj hf ▸ hs.goto ha hg
  | test p yes no =>
    intro hf hg
    refine Option.some.inj hf ▸ h.goto ha ?_
    by_cases hp : p w s.shared=true
    · simpa [hp] using hg.1
    · simpa [hp] using hg.2

lemma fire (h : Exclusive code s) (e : Event W Pc) (hf : Monitor.fire code s e=some t) :
    Exclusive code t := by
  cases e with
  | run w =>
    simp only [Monitor.fire,Option.ite_none_right_eq_some] at hf
    exact h.execute hf.1 hf.2
  | enter w entry =>
    simp only [Monitor.fire,Option.ite_none_right_eq_some,Option.some.injEq] at hf
    obtain ⟨⟨ha,he⟩,rfl⟩ := hf
    refine h.goto ha ?_
    rw [code.entersOutside _ _ he,code.entersFrom _ _ he]
  | wake w =>
    simp only [Monitor.fire,Option.ite_none_right_eq_some,Option.some.injEq] at hf
    obtain ⟨hasleep,rfl⟩ := hf
    refine h.wakened fun v => ?_
    by_cases hv : v=w
    · subst hv
      simp [hasleep]
    · simp [hv]
  | resume w =>
    have hg := code.guarded (s.place w)
    simp only [Monitor.fire] at hf
    revert hg hf
    cases code.instr (s.place w) with
    | wait next =>
      intro hf hg
      simp only [Monitor.resume,Option.ite_none_right_eq_some,Option.some.injEq] at hf
      exact hf.2 ▸ h.resume hf.1.2 hg.2
    | _ => simp [Monitor.resume]
end Exclusive

omit [DecidableEq W] in
lemma Exclusive.atRest (shared : σ) (place : Pc) (ho : code.inside place=false) :
    Exclusive code (Threads.atRest shared place : Threads W Pc σ) := by
  constructor
  · simp [Threads.atRest,ho]
  · simp [Threads.atRest]

end EMSSHD.Monitor
