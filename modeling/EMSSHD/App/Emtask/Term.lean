import EMSSHD.App.Emtask.Config
import EMSSHD.App.Emtask.Snapshot
import EMSSHD.Framework.Call
import EMSSHD.Math.Ring

namespace EMSSHD.Emtask

open Call

def emtaskMaxRestartHistory : Nat := 64
def emtaskTerminalRestartGraceMs : Nat := 5000

structure WinSize where
  cols : UInt16
  rows : UInt16
  xPixel : UInt16
  yPixel : UInt16
  deriving DecidableEq

/-- What the terminal asks of its platform, with the type of the answers. A poll gives the
exit status of a child that has ended. -/
inductive PlatformCall : Type → Type where
  | spawn (size : WinSize) : PlatformCall Bool
  | pollExit : PlatformCall (Except Err (Option UInt32))
  | read (len : Nat) : PlatformCall (Except Err Bytes)
  | write (bytes : Bytes) : PlatformCall (Except Err Nat)
  | resize (size : WinSize) : PlatformCall Bool
  | signal (name : Bytes) : PlatformCall (Except Err Unit)
  | closeHandles : PlatformCall Unit
  | calloc : PlatformCall Bool

/-- A platform on a world of its own, with a clock that does not go back. A feed of the screen
gets a number of turns. -/
structure TermPlatform (σ : Type) where
  answer : {α : Type} → PlatformCall α → σ → α×σ
  monotonicMs : σ → Nat
  feedTurns : Nat
  later : ∀ {α : Type} (call : PlatformCall α) (world : σ),
    monotonicMs world ≤ monotonicMs (answer call world).2

/-- emtask_term_t. A terminal has a screen when its snapshot is on. -/
structure Term where
  command : Bytes
  termType : Bytes
  restartHistory : List Nat
  cols : UInt32
  rows : UInt32
  widthPx : UInt32
  heightPx : UInt32
  lastExitStatus : UInt32
  restartLimit : Nat
  restartWindowMs : Nat
  interruptRestartDeadlineMs : Nat
  replay : Ring UInt8
  screen : Option Screen
  replayOnAttach : Bool
  repaintOnAttach : Bool
  attached : Bool
  exited : Bool
  startedOnce : Bool
  running : Bool
  faulted : Bool
  stopMonitor : Bool

/-- emtask_term_attachment_t, from the attach to the close. -/
structure Attachment where
  replayOffset : Nat
  replayRemaining : Nat
  snapshot : SnapshotState

structure Spawn where
  time : Nat
  counted : Bool
  deriving DecidableEq

/-- What has happened: the spawns since the last manual restart, how many there were when the
limit refused one, the size that the child was given, the output that the platform has
delivered, how much of it there was at the attach, and what the reads of the attachment have
returned. -/
structure TermLog where
  spawns : List Spawn
  refused : Option Nat
  childSize : Option WinSize
  delivered : Bytes
  attachedAt : Nat
  received : Bytes

structure Terminal (σ : Type) where
  term : Term
  attachment : Option Attachment
  world : σ
  log : TermLog

variable {σ : Type}

abbrev TermCall (σ α : Type) := Call (Terminal σ) Err α

def ask (p : TermPlatform σ) {α : Type} (call : PlatformCall α) : TermCall σ α :=
  ⟨fun s => (.ok (p.answer call s.world).1,{s with world := (p.answer call s.world).2})⟩

lemma ensures_bindAsk {p : TermPlatform σ} {α β : Type} {call : PlatformCall α}
    {f : α → TermCall σ β} {s : Terminal σ} {Q : Except Err β → Terminal σ → Prop}
    (h : (f (p.answer call s.world).1).Ensures {s with world := (p.answer call s.world).2} Q) :
    (ask p call >>= f).Ensures s Q := h

def modifyTerm (f : Term → Term) : TermCall σ Unit := modify fun s => {s with term := f s.term}
def modifyLog (f : TermLog → TermLog) : TermCall σ Unit := modify fun s => {s with log := f s.log}

namespace Term

/-- emtask_term_default_size -/
def withDefaultSize (t : Term) : Term :=
  {t with
    cols := if t.cols=0 then emtaskDefaultTermCols else t.cols
    rows := if t.rows=0 then emtaskDefaultTermRows else t.rows}

def winSize (t : Term) : WinSize :=
  ⟨t.withDefaultSize.cols.toUInt16,t.withDefaultSize.rows.toUInt16,t.widthPx.toUInt16,
    t.heightPx.toUInt16⟩

def withSize (t : Term) (cols rows widthPx heightPx : UInt32) : Term :=
  {t with
    cols := if cols≠0 then cols else t.cols
    rows := if rows≠0 then rows else t.rows
    widthPx := widthPx
    heightPx := heightPx}

/-- emtask_term_prune_restart_locked -/
def pruneRestart (t : Term) (nowMs : Nat) : Term :=
  {t with restartHistory := t.restartHistory.filter fun ts =>
    t.restartWindowMs=0 ∨ nowMs < ts ∨ nowMs-ts < t.restartWindowMs}
end Term

section
variable (p : TermPlatform σ)

/-- emtask_term_note_restart_locked -/
def noteRestart : TermCall σ Unit := do
  let s ← get
  onlyIf (s.term.restartLimit≠0 ∧ s.term.restartWindowMs≠0) do
    let nowMs := p.monotonicMs s.world
    modifyTerm (·.pruneRestart nowMs)
    let s ← get
    if s.term.restartLimit ≤ s.term.restartHistory.length then
      modifyTerm ({· with faulted := true})
      modifyLog ({· with refused := some s.log.spawns.length})
      fail .unsupported
    else
      onlyIf (s.term.restartHistory.length < emtaskMaxRestartHistory)
        (modifyTerm fun t => {t with restartHistory := t.restartHistory ++ [nowMs]})

/-- emtask_platform_term_spawn_locked -/
def platformSpawn : TermCall σ Unit := do
  modifyTerm (·.withDefaultSize)
  let s ← get
  let spawned ← ask p (.spawn s.term.winSize)
  require (spawned=true) .platform
  modifyTerm ({· with running := true, faulted := false, startedOnce := true})
  modifyLog ({· with childSize := some s.term.winSize})

/-- emtask_term_spawn_locked behind its checks -/
def spawnChild : TermCall σ Unit := do
  match ← status (platformSpawn p) with
  | .ok _ => modifyTerm ({· with exited := false, interruptRestartDeadlineMs := 0})
  | .error e => do
    modifyTerm ({· with faulted := true})
    fail e

def logSpawn (counted : Bool) : TermCall σ Unit := modify fun s => {s with log := {s.log with
  spawns := s.log.spawns ++ [Spawn.mk (p.monotonicMs s.world) counted]}}

/-- emtask_term_spawn_locked -/
def spawnLocked (countAsRestart : Bool) : TermCall σ Unit := do
  let s ← get
  require (s.term.faulted=false) .unsupported
  require (s.term.command≠[]) .invalidArgument
  onlyIf (countAsRestart=true) (noteRestart p)
  logSpawn p countAsRestart
  spawnChild p

/-- emtask_term_poll_exit_locked, with what it stores in exited and exit_status -/
def pollExit : TermCall σ (Bool×UInt32) := do
  let s ← get
  if s.term.running=false then return (s.term.exited,s.term.lastExitStatus)
  else
    match ← lift (← ask p .pollExit) with
    | none => return (false,s.term.lastExitStatus)
    | some code => do
      modifyTerm ({· with lastExitStatus := code, running := false, exited := true})
      return (true,code)

/-- emtask_term_ensure_running_locked -/
def ensureRunning : TermCall σ Unit := do
  let _ ← pollExit p
  let s ← get
  onlyIf (s.term.running=false) do
    require (s.term.faulted=false) .unsupported
    spawnLocked p s.term.startedOnce

/-- emtask_term_start_initial -/
def startInitial : TermCall σ Unit := ensureRunning p

/-- emtask_term_restart_manual -/
def restartManual : TermCall σ Unit := do
  modifyTerm ({· with
    faulted := false, exited := false, interruptRestartDeadlineMs := 0, restartHistory := []})
  modifyLog ({· with spawns := [], refused := none})
  ask p .closeHandles
  modifyTerm ({· with running := false})
  spawnLocked p false

/-- emtask_term_watchdog_step_locked -/
def watchdogStep : TermCall σ Unit := do
  let (exited,_) ← pollExit p
  let s ← get
  onlyIf (exited=true ∧ s.term.faulted=false ∧ s.term.attached=false) do
    match ← status (spawnLocked p true) with
    | .ok _ => return ()
    | .error _ => modifyTerm ({· with faulted := true})
end

section
variable (p : TermPlatform σ)

/-- emtask_screen_feed_locked, in the turns that it gets -/
def feedScreen (screen : Screen) (bytes : Bytes) : Screen :=
  (Machine.settle feedStep p.feedTurns ⟨screen,bytes,none⟩).screen

/-- emtask_term_capture_output_locked -/
def captureOutput (len : Nat) : TermCall σ Bytes := do
  let s ← get
  if s.term.running=false ∨ len=0 then return []
  else
    let bytes ← lift (← ask p (.read len))
    if bytes=[] then
      ignore (pollExit p)
      return []
    else
      modifyTerm fun t => {t with
        screen := t.screen.map (feedScreen p · bytes)
        replay := t.replay.push bytes}
      modifyLog fun log => {log with delivered := log.delivered ++ bytes}
      return bytes

/-- The loop of emtask_term_monitor_step. It says whether all captures had output. -/
def captureLoop : Nat → TermCall σ Bool
  | 0 => return true
  | n+1 => do
    match ← status (captureOutput p 4096) with
    | .ok bytes => if bytes=[] then return false else captureLoop n
    | .error _ => return false

/-- The captures of emtask_term_monitor_step, while nobody is attached. -/
def captureDetached : TermCall σ Bool := do
  let s ← get
  if s.term.running=true ∧ s.term.attached=false then captureLoop p 64 else return false

/-- emtask_term_monitor_step -/
def monitorStep : TermCall σ Bool := do
  let s ← get
  if s.term.stopMonitor=true then return true
  else
    onlyIf (s.term.startedOnce=true) do
      let full ← captureDetached p
      onlyIf (full=false) (ignore (watchdogStep p))
    return false
end

section
variable (p : TermPlatform σ)

/-- emtask_term_replay_copy_locked -/
def replayCopy (replay : Ring UInt8) (a : Attachment) (len : Nat) : Bytes×Attachment :=
  if len=0 ∨ replay.capacity=0 ∨ a.replayRemaining=0 then ([],a)
  else if replay.len ≤ a.replayOffset then ([],{a with replayRemaining := 0})
  else
    let bytes := replay.copyFrom a.replayOffset (min len a.replayRemaining)
    (bytes,{a with
      replayOffset := a.replayOffset+bytes.length
      replayRemaining := a.replayRemaining-bytes.length})

def Term.newAttachment (t : Term) : Attachment where
  replayOffset := 0
  replayRemaining := if t.replayOnAttach=true ∧ t.screen.isNone=true then t.replay.len else 0
  snapshot := {SnapshotState.fresh with pending := t.screen.isSome}

/-- emtask_term_attach_common, behind its first check and up to the flag that it sets -/
def prepareAttach (termType : Bytes) (cols rows widthPx heightPx : UInt32) : TermCall σ Unit := do
  onlyIf (termType≠[]) do
    require (termType.length < 64) .bufferTooSmall
    modifyTerm ({· with termType := termType})
  modifyTerm (·.withSize cols rows widthPx heightPx)
  ensureRunning p
  let allocated ← ask p .calloc
  require (allocated=true) .platform
  let s ← get
  onlyIf (s.term.repaintOnAttach=true ∧ s.term.running=true) do
    let _ ← ask p (.write [12])

/-- emtask_term_attach_common -/
def attachCommon (termType : Bytes) (cols rows widthPx heightPx : UInt32) : TermCall σ Unit := do
  let s ← get
  require (s.term.attached=false) .alreadyExists
  prepareAttach p termType cols rows widthPx heightPx
  modify fun s => {s with
    term := {s.term with attached := true}
    attachment := some s.term.newAttachment
    log := {s.log with attachedAt := s.log.delivered.length, received := []}}

/-- emtask_term_write -/
def termWrite (bytes : Bytes) : TermCall σ Nat := do
  let s ← get
  require (s.attachment.isSome=true) .invalidArgument
  if bytes=[] then return 0
  else
    onlyIf (3 ∈ bytes) (modify fun s => {s with term := {s.term with
      interruptRestartDeadlineMs := p.monotonicMs s.world+emtaskTerminalRestartGraceMs}})
    ignore (pollExit p)
    let s ← get
    if s.term.running=false then return 0
    else lift (← ask p (.write bytes))

def Term.ready (t : Term) (a : Attachment) (len : Nat) : Bytes×Attachment :=
  let (shot,snapshot) := match t.screen with
    | some screen => snapshotCopy screen len a.snapshot
    | none => ([],a.snapshot)
  if shot≠[] then (shot,{a with snapshot := snapshot})
  else replayCopy t.replay {a with snapshot := snapshot} len

def orCapture (ready : Bytes) (len : Nat) : TermCall σ Bytes :=
  if ready≠[] then return ready else captureOutput p len

/-- emtask_term_read -/
def termRead (len : Nat) : TermCall σ Bytes := do
  let s ← get
  match s.attachment with
  | none => fail .invalidArgument
  | some a =>
    if len=0 ∨ s.term.running=false then return []
    else
      modify ({· with attachment := some (s.term.ready a len).2})
      let bytes ← orCapture p (s.term.ready a len).1 len
      modifyLog fun log => {log with received := log.received ++ bytes}
      return bytes

/-- emtask_screen_resize_locked with its status dropped. It asks for memory when it fails for
want of it. -/
def resizeScreen : TermCall σ Unit := do
  let s ← get
  onlyIf (s.term.screen.isSome=true ∧
      screenResize s.term.screen s.term.cols s.term.rows false matches .error .platform) do
    let allocated ← ask p .calloc
    onlyIf (allocated=true) (modifyTerm fun t =>
      {t with screen := (screenResize t.screen t.cols t.rows true).toOption})

/-- emtask_term_resize -/
def termResize (cols rows widthPx heightPx : UInt32) : TermCall σ Unit := do
  let s ← get
  require (s.attachment.isSome=true) .invalidArgument
  modifyTerm (·.withSize cols rows widthPx heightPx)
  let s ← get
  resizeScreen p
  onlyIf (s.term.running=true) do
    let resized ← ask p (.resize s.term.winSize)
    require (resized=true) .platform
    modifyLog ({· with childSize := some s.term.winSize})

/-- emtask_term_signal_requests_restart -/
def signalRequestsRestart (name : Bytes) : Bool :=
  name≠[] ∧ (keyEquals name (cstr "TERM") ∨ keyEquals name (cstr "INT") ∨
    keyEquals name (cstr "KILL"))

/-- emtask_term_signal -/
def termSignal (name : Bytes) : TermCall σ Unit := do
  let s ← get
  require (s.attachment.isSome=true) .invalidArgument
  onlyIf (s.term.running=true) do
    onlyIf (signalRequestsRestart name=true) (modify fun s => {s with term := {s.term with
      interruptRestartDeadlineMs := p.monotonicMs s.world+emtaskTerminalRestartGraceMs}})
    lift (← ask p (.signal name))
    onlyIf (signalRequestsRestart name=true) do
      match ← status (pollExit p) with
      | .error _ => return ()
      | .ok (exited,_) => do
        let s ← get
        onlyIf (exited=true ∧ s.term.faulted=false) do
          let restarted ← status (spawnLocked p true)
          modifyTerm ({· with interruptRestartDeadlineMs := 0})
          lift restarted

/-- emtask_term_wait_exit, with what it stores in exited and exit_status -/
def termWaitExit : TermCall σ (Bool×UInt32) := do
  let s ← get
  require (s.attachment.isSome=true) .invalidArgument
  let (exited,exitStatus) ← pollExit p
  let s ← get
  if exited=true ∧ (exitStatus≠0 ∨ (s.term.interruptRestartDeadlineMs≠0 ∧
      p.monotonicMs s.world ≤ s.term.interruptRestartDeadlineMs)) ∧ s.term.faulted=false then do
    let restarted ← status (spawnLocked p true)
    modifyTerm ({· with interruptRestartDeadlineMs := 0})
    match restarted with
    | .ok _ => return (false,0)
    | .error _ => return (exited,exitStatus)
  else return (exited,exitStatus)

/-- emtask_term_close -/
def termClose : TermCall σ Unit := do
  let s ← get
  require (s.attachment.isSome=true) .invalidArgument
  modify fun s => {s with term := {s.term with attached := false}, attachment := none}
end

/-- The part of emtask_task_config_t that a terminal is made from. -/
structure TermConfig where
  command : Bytes
  restartLimit : Nat
  restartWindowSec : Nat
  replayBufferBytes : Nat
  replayOnAttach : Bool
  repaintOnAttach : Bool
  screenSnapshot : Bool

/-- The terminal that emtask_term_init sets up. -/
def newTerm (config : TermConfig) (screen : Option Screen) : Term where
  command := config.command
  termType := []
  restartHistory := []
  cols := emtaskDefaultTermCols
  rows := emtaskDefaultTermRows
  widthPx := 0
  heightPx := 0
  lastExitStatus := 0
  restartLimit := config.restartLimit
  restartWindowMs := config.restartWindowSec*1000
  interruptRestartDeadlineMs := 0
  replay := .empty config.replayBufferBytes 0
  screen := screen
  replayOnAttach := config.replayOnAttach
  repaintOnAttach := config.repaintOnAttach
  attached := false
  exited := false
  startedOnce := false
  running := false
  faulted := false
  stopMonitor := false

/-- emtask_term_init. The flags say whether there is memory for the replay and the screen. -/
def termInit (config : TermConfig) (replayAllocated screenAllocated : Bool) : Except Err Term :=
  if config.replayBufferBytes≠0 ∧ replayAllocated=false then .error .platform
  else if config.screenSnapshot=true then
    (screenResize none emtaskDefaultTermCols emtaskDefaultTermRows screenAllocated).map
      fun screen => newTerm config (some screen)
  else .ok (newTerm config none)

lemma termInit_ok {config : TermConfig} {replayAllocated screenAllocated : Bool} {term : Term}
    (h : termInit config replayAllocated screenAllocated=.ok term) :
    ∃ screen,term=newTerm config screen ∧ screen.isSome=config.screenSnapshot := by
  unfold termInit at h
  by_cases hm : config.replayBufferBytes≠0 ∧ replayAllocated=false
  · simp [hm] at h
  rw [if_neg hm] at h
  by_cases hs : config.screenSnapshot=true
  · rw [if_pos hs] at h
    cases hr : screenResize none emtaskDefaultTermCols emtaskDefaultTermRows screenAllocated with
    | error e => simp [hr,Except.map] at h
    | ok screen =>
      rw [hr] at h
      exact ⟨some screen,(Except.ok.inj h).symm,by simp [hs]⟩
  rw [if_neg hs] at h
  exact ⟨none,(Except.ok.inj h).symm,by simp [hs]⟩

lemma termInit_allocated (config : TermConfig) : ∃ term,termInit config true true=.ok term := by
  by_cases hs : config.screenSnapshot=true
  · obtain ⟨screen,hsc⟩ : ∃ screen,screenResize none emtaskDefaultTermCols
        emtaskDefaultTermRows true=.ok screen := ⟨_,rfl⟩
    exact ⟨newTerm config (some screen),by simp [termInit,hs,hsc,Except.map]⟩
  · exact ⟨newTerm config none,by simp [termInit,hs]⟩

inductive TermOp where
  | startInitial
  | restartManual
  | monitorStep
  | attach (termType : Bytes) (cols rows widthPx heightPx : UInt32)
  | write (bytes : Bytes)
  | read (len : Nat)
  | resize (cols rows widthPx heightPx : UInt32)
  | signal (name : Bytes)
  | waitExit
  | close
  | stopMonitor
  deriving DecidableEq

def TermOp.apply (p : TermPlatform σ) (s : Terminal σ) : TermOp → Terminal σ
  | .startInitial => ((Emtask.startInitial p).run s).2
  | .restartManual => ((Emtask.restartManual p).run s).2
  | .monitorStep => ((Emtask.monitorStep p).run s).2
  | .attach termType cols rows widthPx heightPx =>
    ((attachCommon p termType cols rows widthPx heightPx).run s).2
  | .write bytes => ((termWrite p bytes).run s).2
  | .read len => ((termRead p len).run s).2
  | .resize cols rows widthPx heightPx => ((termResize p cols rows widthPx heightPx).run s).2
  | .signal name => ((termSignal p name).run s).2
  | .waitExit => ((termWaitExit p).run s).2
  | .close => (termClose.run s).2
  | .stopMonitor => {s with term := {s.term with stopMonitor := true}}

def freshTerminal (term : Term) (world : σ) : Terminal σ where
  term := term
  attachment := none
  world := world
  log := ⟨[],none,none,[],0,[]⟩

/-- The terminals that operations out of a set lead to. Between them the world goes on as it
likes, but its clock does not go back. -/
inductive TermRun (p : TermPlatform σ) (allowed : TermOp → Prop) (s : Terminal σ) :
    Terminal σ → Prop where
  | start : TermRun p allowed s s
  | op {t : Terminal σ} (o : TermOp) : TermRun p allowed s t → allowed o →
      TermRun p allowed s (o.apply p t)
  | elapse {t : Terminal σ} (world : σ) : TermRun p allowed s t →
      p.monotonicMs t.world ≤ p.monotonicMs world → TermRun p allowed s {t with world := world}

def shellConfig (limit : Nat) : TermConfig where
  command := cstr "sh"
  restartLimit := limit
  restartWindowSec := 60
  replayBufferBytes := 0
  replayOnAttach := false
  repaintOnAttach := false
  screenSnapshot := false

def simpleAnswer (exit : Option UInt32) {α : Type} : PlatformCall α → Bytes → α×Bytes
  | .spawn _,output => (true,output)
  | .pollExit,output => (.ok exit,output)
  | .read len,output => (.ok (output.take len),output.drop len)
  | .write bytes,output => (.ok bytes.length,output)
  | .resize _,output => (true,output)
  | .signal _,output => (.ok (),output)
  | .closeHandles,output => ((),output)
  | .calloc,output => (true,output)

def simplePlatform (exit : Option UInt32) : TermPlatform Bytes where
  answer := simpleAnswer exit
  monotonicMs _ := 0
  feedTurns := 0
  later _ _ := Nat.le_refl _

end EMSSHD.Emtask
