import EMSSHD.App.Emtask.Term
import EMSSHD.Framework.Invariant

namespace EMSSHD.Emtask

open Call

variable {σ : Type}

namespace Terminal

def captured (p : TermPlatform σ) (s : Terminal σ) (bytes : Bytes) : Terminal σ :=
  {s with
    term := {s.term with
      screen := s.term.screen.map (feedScreen p · bytes)
      replay := s.term.replay.push bytes}
    log := {s.log with delivered := s.log.delivered ++ bytes}}

def received (s : Terminal σ) (bytes : Bytes) : Terminal σ :=
  {s with log := {s.log with received := s.log.received ++ bytes}}

@[simp] lemma received_nil (s : Terminal σ) : s.received []=s := by
  simp [received]

def attachedNow (s : Terminal σ) : Terminal σ :=
  {s with
    term := {s.term with attached := true}
    attachment := some s.term.newAttachment
    log := {s.log with attachedAt := s.log.delivered.length, received := []}}

def detached (s : Terminal σ) : Terminal σ :=
  {s with term := {s.term with attached := false}, attachment := none}

def cleared (s : Terminal σ) : Terminal σ :=
  {s with
    term := {s.term with faulted := false, restartHistory := []}
    log := {s.log with spawns := [], refused := none}}
end Terminal

/-- The changes that all operations are made of. The flag says whether a close is among them. -/
inductive TermStep (p : TermPlatform σ) (closes : Bool) : Terminal σ → Terminal σ → Prop where
  | elapse {s : Terminal σ} (world : σ) : p.monotonicMs s.world ≤ p.monotonicMs world →
      TermStep p closes s {s with world := world}
  | minor {s : Terminal σ} (u : Term) : u={s.term with
        termType := u.termType
        cols := u.cols
        rows := u.rows
        widthPx := u.widthPx
        heightPx := u.heightPx
        lastExitStatus := u.lastExitStatus
        interruptRestartDeadlineMs := u.interruptRestartDeadlineMs
        exited := u.exited
        running := u.running
        faulted := u.faulted
        stopMonitor := u.stopMonitor} →
      (s.term.faulted=true → u.faulted=true) → TermStep p closes s {s with term := u}
  | spawn {s : Terminal σ} (counted : Bool) : TermStep p closes s ((spawnLocked p counted).run s).2
  | clear {s : Terminal σ} : TermStep p closes s s.cleared
  | childSize {s : Terminal σ} (size : WinSize) :
      TermStep p closes s {s with log := {s.log with childSize := some size}}
  | screen {s : Terminal σ} (screen : Screen) : s.term.screen.isSome=true →
      TermStep p closes s {s with term := {s.term with screen := some screen}}
  | capture {s : Terminal σ} (bytes : Bytes) : s.term.attached=false →
      TermStep p closes s (s.captured p bytes)
  | attach {s : Terminal σ} : s.term.attached=false → TermStep p closes s s.attachedNow
  | readReady {s : Terminal σ} {a : Attachment} (len : Nat) : s.attachment=some a → len≠0 →
      TermStep p closes s
        ({s with attachment := some (s.term.ready a len).2}.received (s.term.ready a len).1)
  | readCapture {s : Terminal σ} {a : Attachment} {len : Nat} (bytes : Bytes) :
      s.attachment=some (s.term.ready a len).2 → len≠0 → (s.term.ready a len).1=[] →
      TermStep p closes s ((s.captured p bytes).received bytes)
  | close {s : Terminal σ} : closes=true → TermStep p closes s s.detached

abbrev TermSteps (p : TermPlatform σ) (closes : Bool) : Terminal σ → Terminal σ → Prop :=
  Relation.ReflTransGen (TermStep p closes)

section
variable {p : TermPlatform σ}

structure OutputSide where
  attached : Bool
  replay : Ring UInt8
  replayOnAttach : Bool
  screen : Option Screen
  attachment : Option Attachment
  delivered : Bytes
  attachedAt : Nat
  received : Bytes

def Terminal.outputSide (s : Terminal σ) : OutputSide :=
  ⟨s.term.attached,s.term.replay,s.term.replayOnAttach,s.term.screen,s.attachment,
    s.log.delivered,s.log.attachedAt,s.log.received⟩

lemma leaves_ask {α : Type} (call : PlatformCall α) :
    Leaves Terminal.outputSide (ask p call) := fun _ => rfl

lemma leaves_noteRestart : Leaves Terminal.outputSide (noteRestart p) := by
  refine Leaves.get.bind fun s => .onlyIf (.bind (fun _ => rfl) fun _ => Leaves.get.bind fun t => ?_)
  refine .ite (.bind (fun _ => rfl) fun _ => .bind (fun _ => rfl) fun _ => .fail _) ?_
  exact .onlyIf fun _ => rfl

lemma leaves_platformSpawn : Leaves Terminal.outputSide (platformSpawn p) := by
  refine .bind (fun _ => rfl) fun _ => Leaves.get.bind fun s => (leaves_ask _).bind fun _ => ?_
  exact (Leaves.require _ _).bind fun _ => .bind (fun _ => rfl) fun _ => fun _ => rfl

lemma leaves_spawnLocked (counted : Bool) : Leaves Terminal.outputSide (spawnLocked p counted) := by
  refine Leaves.get.bind fun s => (Leaves.require _ _).bind fun _ => ?_
  refine (Leaves.require _ _).bind fun _ => leaves_noteRestart.onlyIf.bind fun _ => ?_
  refine .bind (fun _ => rfl) fun _ => leaves_platformSpawn.status.bind fun r => ?_
  cases r with
  | ok _ => exact fun _ => rfl
  | error _ => exact .bind (fun _ => rfl) fun _ => .fail _

lemma leaves_pollExit : Leaves Terminal.outputSide (pollExit p) := by
  refine Leaves.get.bind fun s => .ite (.pure _) (.bind (leaves_ask _) fun r => ?_)
  refine (Leaves.lift r).bind fun code => ?_
  cases code with
  | none => exact .pure _
  | some code => exact .bind (fun _ => rfl) fun _ => .pure _

lemma leaves_ensureRunning : Leaves Terminal.outputSide (ensureRunning p) := by
  refine leaves_pollExit.bind fun _ => Leaves.get.bind fun s => .onlyIf ?_
  exact (Leaves.require _ _).bind fun _ => leaves_spawnLocked _

lemma leaves_prepareAttach (termType : Bytes) (cols rows widthPx heightPx : UInt32) :
    Leaves Terminal.outputSide (prepareAttach p termType cols rows widthPx heightPx) := by
  refine .bind (.onlyIf ((Leaves.require _ _).bind fun _ => fun _ => rfl)) fun _ => ?_
  refine .bind (fun _ => rfl) fun _ => leaves_ensureRunning.bind fun _ => ?_
  refine (leaves_ask _).bind fun _ => (Leaves.require _ _).bind fun _ => Leaves.get.bind fun s => ?_
  exact .onlyIf (.bind (leaves_ask _) fun _ => .pure _)

lemma attachCommon_ok {s t : Terminal σ} {termType : Bytes} {cols rows widthPx heightPx : UInt32}
    (h : (attachCommon p termType cols rows widthPx heightPx).run s=(.ok (),t)) :
    ∃ u : Terminal σ,u.outputSide=s.outputSide ∧ t=u.attachedNow := by
  have hs : (attachCommon p termType cols rows widthPx heightPx).Ensures s (Outcome
      (fun _ t => ∃ u : Terminal σ,u.outputSide=s.outputSide ∧ t=u.attachedNow) fun _ _ => True) := by
    refine bindGet (bindRequire (fun _ => ?_) fun _ => trivial)
    have hp : (prepareAttach p termType cols rows widthPx heightPx).Ensures s fun _ u =>
        u.outputSide=s.outputSide := leaves_prepareAttach termType cols rows widthPx heightPx s
    exact hp.bind (fun _ u hu => ⟨u,hu,rfl⟩) fun _ _ _ => trivial
  exact hs.of_eq h
end

variable {p : TermPlatform σ} {closes : Bool} {s₀ : Terminal σ}
variable {α : Type} {s t : Terminal σ} {cols rows : UInt32} {allowed : TermOp → Prop}

lemma steps_ask (call : PlatformCall α) : Keeps (TermSteps p closes s₀) (ask p call) :=
  fun s h => h.tail (.elapse _ (p.later call s.world))

lemma steps_spawn (counted : Bool) : Keeps (TermSteps p closes s₀) (spawnLocked p counted) :=
  fun _ h => h.tail (.spawn counted)

lemma steps_pollExit : Keeps (TermSteps p closes s₀) (pollExit p) := by
  refine Keeps.get.bind fun s => .ite (.pure _) (.bind (steps_ask _) fun r => ?_)
  refine (Keeps.lift r).bind fun code => ?_
  cases code with
  | none => exact .pure _
  | some code => exact .bind (.modify fun s h => h.tail (.minor _ rfl id)) fun _ => .pure _

lemma steps_ensureRunning : Keeps (TermSteps p closes s₀) (ensureRunning p) := by
  refine steps_pollExit.bind fun _ => Keeps.get.bind fun s => .onlyIf ?_
  exact (Keeps.require _ _).bind fun _ => steps_spawn _

lemma steps_restartManual : Keeps (TermSteps p closes s₀) (restartManual p) := by
  intro s h
  have hc : TermSteps p closes s₀ {s.cleared with term := {s.cleared.term with
      exited := false, interruptRestartDeadlineMs := 0}} :=
    (h.tail .clear).tail (.minor _ rfl id)
  have hr : Keeps (TermSteps p closes s₀) (do
      ask p .closeHandles
      modifyTerm ({· with running := false})
      spawnLocked p false) := by
    refine (steps_ask _).bind fun _ => .bind (.modify fun s h => ?_) fun _ => steps_spawn _
    exact h.tail (.minor _ rfl id)
  exact hr _ hc

lemma steps_watchdogStep : Keeps (TermSteps p closes s₀) (watchdogStep p) := by
  refine steps_pollExit.bind fun exit => Keeps.get.bind fun s => .onlyIf ?_
  refine (steps_spawn _).status.bind fun r => ?_
  cases r with
  | ok _ => exact .pure _
  | error _ => exact .modify fun s h => h.tail (.minor _ rfl fun _ => rfl)

lemma steps_detached {c : TermCall σ α} (hs : Keeps (TermSteps p closes s₀) c)
    (hl : Leaves Terminal.outputSide c) :
    Keeps (fun t => TermSteps p closes s₀ t ∧ t.term.attached=false) c := by
  intro s h
  have ha : (c.run s).2.term.attached=s.term.attached := congrArg OutputSide.attached (hl s)
  exact ⟨hs s h.1,ha.trans h.2⟩

lemma captureOutput_spec (closes : Bool) (len : Nat) (s : Terminal σ) :
    (captureOutput p len).Ensures s fun r t =>
      (∃ bytes world,r=.ok bytes ∧ p.monotonicMs s.world≤p.monotonicMs world ∧
        t={s with world := world}.captured p bytes) ∨
      ((r=.ok [] ∨ ∃ e,r=.error e) ∧ t.outputSide=s.outputSide ∧ TermSteps p closes s t) := by
  have hl := p.later (.read len) s.world
  refine bindGet (Ensures.ite (fun _ => ?_) fun _ => ensures_bindAsk ?_)
  · exact .inr ⟨.inl rfl,rfl,.refl⟩
  refine bindLift (fun bytes _ => ?_) fun e _ => ?_
  · refine Ensures.ite (fun _ => bindIgnore ?_) fun _ => ?_
    · have hp : ∀ t : Terminal σ,TermSteps p closes s t → (pollExit p).Ensures t fun _ u =>
          u.outputSide=t.outputSide ∧ TermSteps p closes s u := fun t ht => ⟨leaves_pollExit t,steps_pollExit t ht⟩
      refine (hp _ (.single (.elapse _ hl))).mono fun r t ht => ?_
      exact .inr ⟨.inl rfl,ht⟩
    · exact .inl ⟨bytes,_,rfl,hl,rfl⟩
  · exact .inr ⟨.inr ⟨e,rfl⟩,rfl,.single (.elapse _ hl)⟩

lemma steps_captureOutput (len : Nat) :
    Keeps (fun t => TermSteps p closes s₀ t ∧ t.term.attached=false) (captureOutput p len) := by
  intro s h
  rcases captureOutput_spec closes len s with ⟨bytes,world,-,hl,ht⟩ | ⟨-,hsm,hs⟩
  · rw [ht]
    exact ⟨(h.1.tail (.elapse world hl)).tail (.capture bytes h.2),h.2⟩
  · exact ⟨h.1.trans hs,(congrArg OutputSide.attached hsm).trans h.2⟩

lemma steps_captureLoop (n : Nat) :
    Keeps (fun t => TermSteps p closes s₀ t ∧ t.term.attached=false) (captureLoop p n) := by
  induction n with
  | zero => exact .pure _
  | succ n ih =>
    refine (steps_captureOutput 4096).status.bind fun r => ?_
    cases r with
    | ok bytes => exact .ite (.pure _) ih
    | error _ => exact .pure _

lemma steps_captureDetached : Keeps (TermSteps p closes s₀) (captureDetached p) := by
  intro s h
  refine bindGet (Q := fun _ t => TermSteps p closes s₀ t) (Ensures.ite (fun hf => ?_) fun _ => h)
  exact (steps_captureLoop 64 s ⟨h,hf.2⟩).1

lemma steps_monitorStep : Keeps (TermSteps p closes s₀) (monitorStep p) := by
  refine Keeps.get.bind fun s => .ite (.pure _) (.bind (.onlyIf ?_) fun _ => .pure _)
  exact steps_captureDetached.bind fun full => .onlyIf steps_watchdogStep.ignore

lemma steps_withSize (cols rows widthPx heightPx : UInt32) : Keeps (TermSteps p closes s₀)
    (modifyTerm (·.withSize cols rows widthPx heightPx) : TermCall σ Unit) :=
  .modify fun _ h => h.tail (.minor _ rfl id)

lemma steps_prepareAttach (termType : Bytes) (cols rows widthPx heightPx : UInt32) :
    Keeps (fun t => TermSteps p closes s₀ t ∧ t.term.attached=false)
      (prepareAttach p termType cols rows widthPx heightPx) := by
  refine .bind (.onlyIf ((Keeps.require _ _).bind fun _ => ?_)) fun _ => .bind ?_ fun _ => ?_
  · exact steps_detached (.modify fun _ h => h.tail (.minor _ rfl id)) fun _ => rfl
  · exact steps_detached (steps_withSize cols rows widthPx heightPx) fun _ => rfl
  refine (steps_detached steps_ensureRunning leaves_ensureRunning).bind fun _ => ?_
  refine (steps_detached (steps_ask _) (leaves_ask _)).bind fun _ => ?_
  refine (Keeps.require _ _).bind fun _ => Keeps.get.bind fun s => .onlyIf ?_
  exact (steps_detached (steps_ask _) (leaves_ask _)).bind fun _ => .pure _

lemma steps_attachCommon (termType : Bytes) (cols rows widthPx heightPx : UInt32) :
    Keeps (TermSteps p closes s₀) (attachCommon p termType cols rows widthPx heightPx) := by
  intro s h
  refine bindGet (Q := fun _ t => TermSteps p closes s₀ t) (bindRequire (fun hf => ?_) fun _ => h)
  have hr := steps_prepareAttach termType cols rows widthPx heightPx s ⟨h,hf⟩
  refine Ensures.bind (P := fun _ t => TermSteps p closes s₀ t ∧ t.term.attached=false) hr ?_ ?_
  · exact fun _ t ht => ht.1.tail (.attach ht.2)
  · exact fun _ t ht => ht.1

lemma steps_deadline (nowMs : Terminal σ → Nat) : Keeps (TermSteps p closes s₀)
    (modify fun s => {s with term := {s.term with interruptRestartDeadlineMs := nowMs s}} :
      TermCall σ Unit) := .modify fun _ h => h.tail (.minor _ rfl id)

lemma steps_termWrite (bytes : Bytes) : Keeps (TermSteps p closes s₀) (termWrite p bytes) := by
  refine Keeps.get.bind fun s => (Keeps.require _ _).bind fun _ => .ite (.pure _) ?_
  refine (Keeps.onlyIf (steps_deadline _)).bind fun _ => steps_pollExit.ignore.bind fun _ => ?_
  exact Keeps.get.bind fun s => .ite (.pure _) (.bind (steps_ask _) fun r => .lift r)

lemma steps_readCapture {a : Attachment} {len : Nat} (hln : len≠0) (h : TermSteps p closes s₀ s)
    (ha : s.attachment=some (s.term.ready a len).2) (hn : (s.term.ready a len).1=[]) :
    (captureOutput p len).Ensures s (Outcome
      (fun bytes t => TermSteps p closes s₀ (t.received bytes)) fun _ t => TermSteps p closes s₀ t) := by
  refine (captureOutput_spec closes len s).mono fun r t ht => ?_
  rcases ht with ⟨bytes,world,rfl,hl,rfl⟩ | ⟨hr,-,hs⟩
  · exact (h.tail (.elapse world hl)).tail (.readCapture bytes ha hln hn)
  rcases hr with rfl | ⟨e,rfl⟩
  · show TermSteps p closes s₀ (t.received [])
    rw [Terminal.received_nil]
    exact h.trans hs
  · exact h.trans hs

lemma steps_termRead (len : Nat) : Keeps (TermSteps p closes s₀) (termRead p len) := by
  intro s h
  refine bindGet (Q := fun _ t => TermSteps p closes s₀ t) ?_
  rcases ha : s.attachment with _ | a
  · exact h
  refine Ensures.ite (fun _ => h) fun hgo => bindModify ?_
  have hl : len≠0 := fun hz => hgo (.inl hz)
  have hs := h.tail (.readReady len ha hl)
  refine Ensures.andThen ?_
  by_cases hr : (s.term.ready a len).1=[]
  · rw [hr,Terminal.received_nil] at hs
    rw [orCapture,if_neg (not_not.mpr hr)]
    exact steps_readCapture hl hs rfl hr
  rw [orCapture,if_pos hr]
  exact hs

lemma newScreen_memory (h : newScreen cols rows false=.error .platform) :
    ∃ t,newScreen cols rows true=.ok t ∧ t.cols=cols.toNat ∧ t.rows=rows.toNat := by
  unfold newScreen at h ⊢
  by_cases hc : cols.toNat*rows.toNat=0 ∨ 1000000 < cols.toNat*rows.toNat
  · rw [dif_pos hc] at h
    cases h
  · exact ⟨_,by rw [dif_neg hc,if_neg (by simp)],rfl,rfl⟩

lemma screenResize_memory {screen : Option Screen}
    (h : screenResize screen cols rows false=.error .platform) :
    ∃ t,screenResize screen cols rows true=.ok t ∧
      t.cols=(if cols=0 then emtaskDefaultTermCols else cols).toNat ∧
      t.rows=(if rows=0 then emtaskDefaultTermRows else rows).toNat := by
  simp only [screenResize] at h ⊢
  generalize Option.filter _ screen=same at h ⊢
  cases same with
  | some t => cases h
  | none => exact newScreen_memory h

lemma needsMemory_iff {r : Except Err Screen} :
    (r matches .error .platform)=true ↔ r=.error .platform := by
  cases r with
  | ok s => simp
  | error e => cases e <;> simp

lemma steps_resizeScreen : Keeps (TermSteps p closes s₀) (resizeScreen p) := by
  intro s h
  refine bindGet (Q := fun _ t => TermSteps p closes s₀ t) (Ensures.onlyIf (fun hgo => ?_) fun _ => h)
  have hasked := h.tail (.elapse _ (p.later .calloc s.world))
  refine ensures_bindAsk (Ensures.onlyIf (fun _ => Ensures.modify ?_) fun _ => hasked)
  have hm := needsMemory_iff.mp hgo.2
  obtain ⟨screen,hs,-⟩ := screenResize_memory hm
  simp only [hs]
  exact hasked.tail (.screen screen hgo.1)

lemma steps_termResize (cols rows widthPx heightPx : UInt32) :
    Keeps (TermSteps p closes s₀) (termResize p cols rows widthPx heightPx) := by
  refine Keeps.get.bind fun s => (Keeps.require _ _).bind fun _ => ?_
  refine (steps_withSize cols rows widthPx heightPx).bind fun _ => Keeps.get.bind fun s => ?_
  refine steps_resizeScreen.bind fun _ => .onlyIf (.bind (steps_ask _) fun resized => ?_)
  exact (Keeps.require _ _).bind fun _ => .modify fun _ h => h.tail (.childSize _)

lemma steps_termSignal (name : Bytes) : Keeps (TermSteps p closes s₀) (termSignal p name) := by
  refine Keeps.get.bind fun s => (Keeps.require _ _).bind fun _ => .onlyIf ?_
  refine (Keeps.onlyIf (steps_deadline _)).bind fun _ => .bind (steps_ask _) fun r => ?_
  refine (Keeps.lift r).bind fun _ => .onlyIf (steps_pollExit.status.bind fun polled => ?_)
  rcases polled with _ | exit
  · exact .pure _
  refine Keeps.get.bind fun s => .onlyIf ((steps_spawn _).status.bind fun restarted => ?_)
  exact .bind (steps_deadline _) fun _ => .lift restarted

lemma steps_termWaitExit : Keeps (TermSteps p closes s₀) (termWaitExit p) := by
  refine Keeps.get.bind fun s => (Keeps.require _ _).bind fun _ => steps_pollExit.bind fun exit => ?_
  refine Keeps.get.bind fun s => .ite ((steps_spawn _).status.bind fun restarted => ?_) (.pure _)
  refine .bind (steps_deadline _) fun _ => ?_
  cases restarted with
  | ok | error => exact .pure _

lemma steps_termClose (hc : closes=true) :
    Keeps (TermSteps p closes s₀) (termClose : TermCall σ Unit) := by
  refine Keeps.get.bind fun _ => (Keeps.require _ _).bind fun _ => .modify fun _ h => ?_
  exact h.tail (.close hc)

lemma TermOp.apply_steps (o : TermOp) (hc : o=.close → closes=true) (s : Terminal σ) :
    TermSteps p closes s (o.apply p s) := by
  cases o with
  | startInitial => exact steps_ensureRunning s .refl
  | restartManual => exact steps_restartManual s .refl
  | monitorStep => exact steps_monitorStep s .refl
  | attach termType cols rows widthPx heightPx =>
    exact steps_attachCommon termType cols rows widthPx heightPx s .refl
  | write bytes => exact steps_termWrite bytes s .refl
  | read len => exact steps_termRead len s .refl
  | resize cols rows widthPx heightPx => exact steps_termResize cols rows widthPx heightPx s .refl
  | signal name => exact steps_termSignal name s .refl
  | waitExit => exact steps_termWaitExit s .refl
  | close => exact steps_termClose (hc rfl) s .refl
  | stopMonitor => exact .single (.minor _ rfl id)

lemma TermRun.steps (hc : allowed .close → closes=true) (h : TermRun p allowed s t) :
    TermSteps p closes s t := by
  induction h with
  | start => exact .refl
  | op o _ ha ih => exact ih.trans (o.apply_steps (fun heq => hc (heq ▸ ha)) _)
  | elapse world _ hl ih => exact ih.tail (.elapse world hl)

lemma TermRun.invariant (I : Terminal σ → Prop) (hc : allowed .close → closes=true) (hs : I s)
    (hsp : ∀ t u,I t → TermStep p closes t u → I u) (h : TermRun p allowed s t) : I t := by
  have hst := h.steps hc
  clear h
  induction hst with
  | refl => exact hs
  | tail _ hl ih => exact hsp _ _ ih hl

end EMSSHD.Emtask
