import EMSSHD.App.Emtask.TermSteps
import EMSSHD.Math.Window

namespace EMSSHD.Emtask

open Call

def TermLog.restartTimes (log : TermLog) : List Nat :=
  (log.spawns.filter (·.counted)).map (·.time)

/-- The limit holds: no interval of the window has more restarts than the limit allows, and
once it has refused one the terminal is faulted and has not been spawned again. -/
structure RestartLimitHolds (limit window : Nat) (s : Terminal σ) : Prop where
  paced : Paced limit window s.log.restartTimes
  refused : ∀ n,s.log.refused=some n → s.term.faulted=true ∧ s.log.spawns.length=n

structure RestartsPaced (p : TermPlatform σ) (limit window : Nat) (s : Terminal σ) : Prop extends
    RestartLimitHolds limit window s where
  limit_eq : s.term.restartLimit=limit
  window_eq : s.term.restartWindowMs=window
  history : ∀ now,p.monotonicMs s.world ≤ now →
    recent window now s.term.restartHistory=recent window now s.log.restartTimes

section
variable {σ : Type} {p : TermPlatform σ} {limit window : Nat} {s t : Terminal σ}

/-- Nothing happens that the limit looks at. -/
structure Quiet (p : TermPlatform σ) (s t : Terminal σ) : Prop where
  limit : t.term.restartLimit=s.term.restartLimit
  window : t.term.restartWindowMs=s.term.restartWindowMs
  history : t.term.restartHistory=s.term.restartHistory
  spawns : t.log.spawns=s.log.spawns
  refused : t.log.refused=s.log.refused
  faulted : s.log.refused≠none → s.term.faulted=true → t.term.faulted=true
  later : p.monotonicMs s.world ≤ p.monotonicMs t.world

lemma RestartsPaced.quiet (h : RestartsPaced p limit window s) (hq : Quiet p s t) :
    RestartsPaced p limit window t := by
  have ht : t.log.restartTimes=s.log.restartTimes := by simp [TermLog.restartTimes,hq.spawns]
  constructor
  · constructor
    · exact ht ▸ h.paced
    intro n hn
    rw [hq.refused] at hn
    obtain ⟨hf,hs⟩ := h.refused n hn
    exact ⟨hq.faulted (by simp [hn]) hf,hq.spawns ▸ hs⟩
  · exact hq.limit.trans h.limit_eq
  · exact hq.window.trans h.window_eq
  intro now hnw
  rw [hq.history,ht]
  exact h.history now (hq.later.trans hnw)

/-- What a restart that is not refused leaves behind. -/
structure Noted (p : TermPlatform σ) (window : Nat) (s t : Terminal σ) : Prop where
  term : t.term={s.term with restartHistory := t.term.restartHistory}
  log : t.log=s.log
  world : t.world=s.world
  history : ∀ now,p.monotonicMs s.world ≤ now → recent window now t.term.restartHistory=
    recent window now (s.log.restartTimes ++ [p.monotonicMs s.world])

lemma pruneRestart_history {term : Term} (hwindow : 0<term.restartWindowMs) (now : Nat) :
    (term.pruneRestart now).restartHistory=recent term.restartWindowMs now term.restartHistory := by
  show term.restartHistory.filter _=term.restartHistory.filter _
  congr 1
  funext ts
  have hz : term.restartWindowMs≠0 := by omega
  by_cases hr : now-ts<term.restartWindowMs
  · simp [hr]
  have hp : ¬now<ts := by omega
  simp [hz,hr,hp]

lemma noteRestart_spec (hlimit : 0<limit) (hmax : limit≤emtaskMaxRestartHistory)
    (hwindow : 0<window) (h : RestartsPaced p limit window s) :
    (noteRestart p).Ensures s (Outcome
      (fun _ t => Noted p window s t ∧
        (recent window (p.monotonicMs s.world) s.log.restartTimes).length<limit)
      (fun _ t => RestartsPaced p limit window t)) := by
  have hp : (s.term.pruneRestart (p.monotonicMs s.world)).restartHistory=
      recent window (p.monotonicMs s.world) s.term.restartHistory := by
    rw [pruneRestart_history (by rw [h.window_eq]; exact hwindow),h.window_eq]
  have hl := congrArg List.length (h.history _ (Nat.le_refl _))
  have hlt : ∀ now,p.monotonicMs s.world≤now →
      recent window now (recent window (p.monotonicMs s.world) s.term.restartHistory)=
        recent window now s.log.restartTimes := by
    intro now hnw
    rw [recent_recent hnw]
    exact h.history now hnw
  refine bindGet (Ensures.onlyIf (fun _ => ?_) fun hnn => ?_)
  · refine bindModify (bindGet (Ensures.ite (fun hf => ?_) fun hr => ?_))
    · refine bindModify (bindModify (Ensures.fail ?_))
      refine ⟨⟨h.paced,?_⟩,h.limit_eq,h.window_eq,?_⟩
      · intro n hn
        exact ⟨rfl,Option.some.inj hn⟩
      intro now hnw
      exact (congrArg _ hp).trans (hlt now hnw)
    -- the history is shorter than the limit, so it has a place for the restart
    have hs : (recent window (p.monotonicMs s.world) s.log.restartTimes).length<limit := by
      rw [← hl,← hp,← h.limit_eq]
      exact Nat.lt_of_not_le hr
    refine Ensures.onlyIf (fun _ => Ensures.modify ⟨?_,hs⟩) fun hpl => ?_
    · refine ⟨rfl,rfl,rfl,fun now hnw => ?_⟩
      have hold := (congrArg (recent window now) hp).trans (hlt now hnw)
      rw [recent_append,recent_append,hold]
    refine absurd ?_ hpl
    refine Nat.lt_of_lt_of_le ?_ hmax
    rw [hp,hl]
    exact hs
  refine absurd ⟨?_,?_⟩ hnn
  · rw [h.limit_eq]
    omega
  rw [h.window_eq]
  omega

lemma platformSpawn_quiet (hr : s.log.refused=none) :
    (platformSpawn p).Ensures s fun _ t => Quiet p s t := by
  have hl := p.later (.spawn s.term.withDefaultSize.winSize) s.world
  refine bindModify (bindGet (ensures_bindAsk ?_))
  refine bindRequire (fun _ => bindModify (Ensures.modify ?_)) fun _ => ?_
  · exact ⟨rfl,rfl,rfl,rfl,rfl,fun h => absurd hr h,hl⟩
  · exact ⟨rfl,rfl,rfl,rfl,rfl,fun _ => id,hl⟩

lemma restartTimes_spawned (log : TermLog) (time : Nat) (counted : Bool) :
    {log with spawns := log.spawns++[Spawn.mk time counted]}.restartTimes=
      log.restartTimes++if counted=true then [time] else [] := by
  cases counted <;> simp [TermLog.restartTimes,List.filter_append]

lemma RestartsPaced.spawned (h : RestartsPaced p limit window s) (hnt : Noted p window s t)
    (hrm : (recent window (p.monotonicMs s.world) s.log.restartTimes).length<limit)
    (hr : s.log.refused=none) : RestartsPaced p limit window {t with log := {t.log with
      spawns := t.log.spawns++[Spawn.mk (p.monotonicMs t.world) true]}} := by
  have ht := restartTimes_spawned t.log (p.monotonicMs t.world) true
  rw [hnt.log,hnt.world] at ht
  constructor
  · constructor
    · simp only [hnt.log,hnt.world]
      exact ht ▸ h.paced.append hrm
    intro n hn
    simp [hnt.log,hr] at hn
  · show t.term.restartLimit=limit
    rw [hnt.term]
    exact h.limit_eq
  · show t.term.restartWindowMs=window
    rw [hnt.term]
    exact h.window_eq
  intro now hnw
  have hnw : p.monotonicMs s.world≤now := hnt.world ▸ hnw
  simp only [hnt.log,hnt.world]
  exact (hnt.history now hnw).trans (congrArg (recent window now) ht.symm)

lemma RestartsPaced.spawnedFirst (h : RestartsPaced p limit window s)
    (hr : s.log.refused=none) : RestartsPaced p limit window {s with log := {s.log with
      spawns := s.log.spawns++[Spawn.mk (p.monotonicMs s.world) false]}} := by
  have ht := restartTimes_spawned s.log (p.monotonicMs s.world) false
  simp only [Bool.false_eq_true,if_false,append_nil] at ht
  constructor
  · constructor
    · exact ht ▸ h.paced
    intro n hn
    simp [hr] at hn
  · exact h.limit_eq
  · exact h.window_eq
  intro now hnw
  exact (h.history now hnw).trans (congrArg (recent window now) ht.symm)

lemma spawnChild_paced (hr : s.log.refused=none) (h : RestartsPaced p limit window s) :
    (spawnChild p).Ensures s fun _ t => RestartsPaced p limit window t := by
  refine bindStatus ((platformSpawn_quiet hr).mono fun r t hq => ?_)
  have ht := h.quiet hq
  cases r with
  | ok _ => exact ht.quiet ⟨rfl,rfl,rfl,rfl,rfl,fun _ => id,Nat.le_refl _⟩
  | error _ => exact ht.quiet ⟨rfl,rfl,rfl,rfl,rfl,fun _ _ => rfl,Nat.le_refl _⟩

variable (hlimit : 0 < limit) (hmax : limit ≤ emtaskMaxRestartHistory) (hwindow : 0 < window)
include hlimit hmax hwindow

lemma keeps_spawnLocked (counted : Bool) :
    Keeps (RestartsPaced p limit window) (spawnLocked p counted) := by
  intro s h
  refine bindGet (Q := fun _ t => RestartsPaced p limit window t) ?_
  refine bindRequire (fun hf => ?_) fun _ => h
  refine bindRequire (fun _ => ?_) fun _ => h
  have hr : s.log.refused=none := by
    by_contra hs
    obtain ⟨n,hn⟩ := Option.ne_none_iff_exists'.mp hs
    rw [(h.refused n hn).1] at hf
    cases hf
  cases counted with
  | false =>
    refine Ensures.bind (P := fun _ t => t=s) rfl (fun _ t ht => ?_) fun _ t ht => ht ▸ h
    subst ht
    exact bindModify (spawnChild_paced hr (h.spawnedFirst hr))
  | true =>
    refine (noteRestart_spec hlimit hmax hwindow h).bind (fun _ t ht => ?_) fun _ _ ht => ht
    have hnn : t.log.refused=none := by rw [ht.1.log,hr]
    exact bindModify (spawnChild_paced hnn (h.spawned ht.1 ht.2 hr))

lemma RestartsPaced.step (h : RestartsPaced p limit window s) (hs : TermStep p true s t) :
    RestartsPaced p limit window t := by
  cases hs with
  | spawn counted => exact keeps_spawnLocked hlimit hmax hwindow counted s h
  | clear => exact ⟨⟨paced_nil limit window,fun n hn => by cases hn⟩,h.limit_eq,h.window_eq,
      fun _ _ => rfl⟩
  | elapse world hl => exact h.quiet ⟨rfl,rfl,rfl,rfl,rfl,fun _ => id,hl⟩
  | minor u hu hf =>
    rw [hu]
    exact h.quiet ⟨rfl,rfl,rfl,rfl,rfl,fun _ => hf,Nat.le_refl _⟩
  | _ => exact h.quiet ⟨rfl,rfl,rfl,rfl,rfl,fun _ => id,Nat.le_refl _⟩
end

section
/-- A terminal whose child has been restarted a number of times at one moment and runs, or has
ended again. Its limit is beyond the places of the history. -/
structure Crashing (n : Nat) (running : Bool) (s : Terminal Bytes) : Prop where
  running_eq : s.term.running=running
  exited : running=false → s.term.exited=true
  attached : s.term.attached=false
  faulted : s.term.faulted=false
  startedOnce : s.term.startedOnce=true
  stopMonitor : s.term.stopMonitor=false
  command : s.term.command≠[]
  limit : emtaskMaxRestartHistory < s.term.restartLimit
  history : s.term.restartHistory.length ≤ emtaskMaxRestartHistory
  output : s.world=[]
  restarts : s.log.restartTimes=List.replicate n 0

lemma noteRestart_unlimited {s : Terminal σ} {p : TermPlatform σ}
    (hlimit : emtaskMaxRestartHistory < s.term.restartLimit)
    (hh : s.term.restartHistory.length≤emtaskMaxRestartHistory) :
    (noteRestart p).Ensures s (Outcome
      (fun _ t => t={s with term := {s.term with restartHistory := t.term.restartHistory}} ∧
        t.term.restartHistory.length≤emtaskMaxRestartHistory) fun _ _ => False) := by
  have hpr : (s.term.pruneRestart (p.monotonicMs s.world)).restartHistory.length ≤
      s.term.restartHistory.length := List.length_filter_le _ _
  refine bindGet (Ensures.onlyIf (fun _ => ?_) fun _ => ⟨rfl,hh⟩)
  refine bindModify (bindGet (Ensures.ite (fun hf => ?_) fun _ => ?_))
  · have hf : s.term.restartLimit ≤
        (s.term.pruneRestart (p.monotonicMs s.world)).restartHistory.length := hf
    omega
  refine Ensures.onlyIf (fun hp => Ensures.modify ⟨rfl,?_⟩) fun _ => ⟨rfl,?_⟩
  · have hp : (s.term.pruneRestart (p.monotonicMs s.world)).restartHistory.length <
        emtaskMaxRestartHistory := hp
    simp only [length_append,length_singleton]
    exact hp
  · exact hpr.trans hh

variable {n : Nat} {s : Terminal Bytes}

lemma Crashing.pollExit (h : Crashing n true s) :
    (pollExit (simplePlatform (some 1))).Ensures s fun _ t => Crashing n false t := by
  refine bindGet (Ensures.ite (fun hs => ?_) fun _ => ?_)
  · rw [h.running_eq] at hs
    cases hs
  · exact {h with running_eq := rfl, exited := fun _ => rfl}

lemma Crashing.capture (h : Crashing n true s) :
    (captureOutput (simplePlatform (some 1)) 4096).Ensures s fun r t =>
      r=.ok [] ∧ Crashing n false t := by
  have hr : (simplePlatform (some 1)).answer (.read 4096) s.world=(.ok [],[]) := by
    simp [simplePlatform,simpleAnswer,h.output]
  refine bindGet (Ensures.ite (fun hs => ?_) fun _ => ensures_bindAsk ?_)
  · simp [h.running_eq] at hs
  rw [hr]
  have hsm : Crashing n true {s with world := ([] : Bytes)} := {h with output := rfl}
  refine bindLift (fun bytes hb => ?_) fun _ he => by cases he
  have hn : [] =bytes := Except.ok.inj hb
  refine Ensures.ite (fun _ => ?_) fun hnt => absurd hn.symm hnt
  refine bindIgnore (hsm.pollExit.mono fun _ _ ht => Ensures.pure ?_)
  exact ⟨rfl,ht⟩

lemma Crashing.captureDetached (h : Crashing n true s) :
    (captureDetached (simplePlatform (some 1))).Ensures s fun r t =>
      r=.ok false ∧ Crashing n false t := by
  refine bindGet (Ensures.ite (fun _ => ?_) fun hn => ?_)
  · refine bindStatus (h.capture.mono fun r t ht => ?_)
    rw [ht.1]
    exact ⟨rfl,ht.2⟩
  · exact absurd ⟨h.running_eq,h.attached⟩ hn

lemma Crashing.spawnLocked (h : Crashing n false s) :
    (spawnLocked (simplePlatform (some 1)) true).Ensures s fun r t =>
      r=.ok () ∧ Crashing (n+1) true t := by
  refine bindGet (bindRequire (fun _ => ?_) fun hn => absurd h.faulted hn)
  refine bindRequire (fun _ => ?_) fun hn => absurd h.command hn
  refine (noteRestart_unlimited h.limit h.history).bind (fun _ t ht => ?_) fun _ _ ht => ht.elim
  obtain ⟨hs,hh⟩ := ht
  have htm := restartTimes_spawned s.log 0 true
  rw [h.restarts,if_pos rfl,← List.replicate_succ'] at htm
  rw [hs]
  exact ⟨rfl,{h with
    running_eq := rfl
    exited := by simp
    faulted := rfl
    startedOnce := rfl
    history := hh
    restarts := htm}⟩

lemma Crashing.watchdogStep (h : Crashing n false s) :
    (watchdogStep (simplePlatform (some 1))).Ensures s fun _ t => Crashing (n+1) true t := by
  have hp : (Emtask.pollExit (simplePlatform (some 1))).run s=
      (.ok (true,s.term.lastExitStatus),s) := by
    simp [Emtask.pollExit,run_bind,h.running_eq,h.exited]
  refine bindOk hp (bindGet (Ensures.onlyIf (fun _ => ?_) fun hn => ?_))
  · refine bindStatus (h.spawnLocked.mono fun r t ht => ?_)
    rw [ht.1]
    exact ht.2
  · exact absurd ⟨rfl,h.faulted,h.attached⟩ hn

lemma Crashing.monitorStep (h : Crashing n true s) :
    Crashing (n+1) true (TermOp.monitorStep.apply (simplePlatform (some 1)) s) := by
  refine bindGet (Q := fun _ t => Crashing (n+1) true t) (Ensures.ite (fun hs => ?_) fun _ => ?_)
  · rw [h.stopMonitor] at hs
    cases hs
  refine Ensures.bind (P := fun _ t => Crashing (n+1) true t)
    (Ensures.onlyIf (fun _ => ?_) fun hn => ?_) (fun _ _ ht => ht) fun _ _ ht => ht
  · refine h.captureDetached.bind (fun full t ht => ?_) fun _ _ ht => ?_
    · have hf : full=false := Except.ok.inj ht.1
      refine Ensures.onlyIf (fun _ => ?_) fun hn => absurd hf hn
      exact ht.2.watchdogStep.ignore fun _ _ hu => hu
    · cases ht.1
  · exact absurd h.startedOnce hn

lemma Crashing.startInitial {config : TermConfig} {screen : Option Screen}
    (hc : config.command≠[]) (hlimit : emtaskMaxRestartHistory < config.restartLimit) :
    Crashing 0 true (TermOp.startInitial.apply (simplePlatform (some 1))
      (freshTerminal (newTerm config screen) [])) := by
  refine bindOk (Q := fun _ t => Crashing 0 true t) (a := (false,0)) rfl ?_
  refine bindGet (Ensures.onlyIf (fun _ => ?_) fun hn => absurd rfl hn)
  refine bindRequire (fun _ => ?_) fun hn => absurd rfl hn
  refine bindGet (bindRequire (fun _ => ?_) fun hn => absurd rfl hn)
  refine bindRequire (fun _ => ?_) fun hn => absurd hc hn
  exact {
    running_eq := rfl
    exited := by simp
    attached := rfl
    faulted := rfl
    startedOnce := rfl
    stopMonitor := rfl
    command := hc
    limit := hlimit
    history := Nat.zero_le _
    output := rfl
    restarts := rfl }

lemma crashing_run (config : TermConfig) (screen : Option Screen) (hc : config.command≠[])
    (hlimit : emtaskMaxRestartHistory < config.restartLimit) (n : Nat) :
    ∃ s,TermRun (simplePlatform (some 1)) (fun _ => True)
      (freshTerminal (newTerm config screen) []) s ∧ Crashing n true s := by
  induction n with
  | zero => exact ⟨_,.op .startInitial .start trivial,.startInitial hc hlimit⟩
  | succ n ih =>
    obtain ⟨s,hr,hs⟩ := ih
    exact ⟨_,.op .monitorStep hr trivial,hs.monitorStep⟩
end

/-- The limit of a configuration holds in every run of its terminal, on every platform. -/
def LimitsRestarts (config : TermConfig) : Prop :=
  ∀ (σ : Type) (p : TermPlatform σ) (replayAllocated screenAllocated : Bool) (term : Term)
      (world : σ) (s : Terminal σ),
    termInit config replayAllocated screenAllocated=.ok term →
    TermRun p (fun _ => True) (freshTerminal term world) s →
    RestartLimitHolds config.restartLimit (config.restartWindowSec*1000) s

/-- The limit holds exactly when the history has a place for each restart that it allows. -/
theorem restart_limit_iff (config : TermConfig) (hcommand : config.command≠[])
    (hlimit : 0 < config.restartLimit) (hwindow : 0 < config.restartWindowSec) :
    LimitsRestarts config ↔ config.restartLimit ≤ emtaskMaxRestartHistory := by
  constructor
  · intro hh
    by_contra hb
    obtain ⟨term,ht⟩ := termInit_allocated config
    obtain ⟨screen,rfl,-⟩ := termInit_ok ht
    obtain ⟨s,hr,hs⟩ := crashing_run config screen hcommand (Nat.lt_of_not_le hb)
      (config.restartLimit+1)
    have hp := (hh Bytes _ true true _ [] s ht hr).paced
    rw [hs.restarts] at hp
    exact not_paced_replicate (by omega) (by omega) hp
  intro hmax σ p replayAllocated screenAllocated term world s ht hr
  obtain ⟨screen,rfl,-⟩ := termInit_ok ht
  have hp : RestartsPaced p config.restartLimit (config.restartWindowSec*1000)
      (freshTerminal (newTerm config screen) world) :=
    ⟨⟨paced_nil _ _,nofun⟩,rfl,rfl,fun _ _ => rfl⟩
  have h := hr.invariant _ (fun _ => rfl) hp fun _ _ h => h.step hlimit hmax (by omega)
  exact h.toRestartLimitHolds

/-- The default limit. -/
theorem restart_limit_iff_eight :
    LimitsRestarts (shellConfig 8) ∧ 8 ≤ emtaskMaxRestartHistory :=
  ⟨(restart_limit_iff (shellConfig 8) (by decide) (by decide) (by decide)).mpr (by decide),
    by decide⟩

/-- With a limit of 65 a child that ends at once is restarted 66 times at one moment. -/
theorem restart_limit_exceeded : ∃ s,
    TermRun (simplePlatform (some 1)) (fun _ => True)
      (freshTerminal (newTerm (shellConfig 65) none) []) s ∧
    s.log.restartTimes=List.replicate 66 0 ∧ s.term.faulted=false ∧
    ¬Paced 65 60000 s.log.restartTimes := by
  obtain ⟨s,hr,hs⟩ := crashing_run (shellConfig 65) none (by decide) (by decide) 66
  refine ⟨s,hr,hs.restarts,hs.faulted,?_⟩
  rw [hs.restarts]
  exact not_paced_replicate (by decide) (by decide)

end EMSSHD.Emtask
