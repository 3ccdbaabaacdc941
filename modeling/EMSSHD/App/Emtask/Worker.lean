import EMSSHD.App.Emtask.TermSteps
import EMSSHD.Server.Session
import EMSSHD.Server.Terminal.Handle

namespace EMSSHD.Emtask

open Call

inductive OtherStep (σ : Type) where
  | op (o : TermOp)
  | elapse (world : σ)

def TermOp.onAttachment : TermOp → Bool
  | .write _ | .read _ | .resize .. | .signal _ | .waitExit | .close => true
  | _ => false

/-- The terminal of a task as one worker sees it: the handle of its attachment while that is
open, the handles it has got and those it has passed to the close function, and what the other
threads are still going to do, before each of its calls. -/
structure TaskDesk (σ : Type) where
  terminal : Terminal σ
  mine : Option Nat
  next : Nat
  spawned : List Nat
  closed : List Nat
  others : List (List (OtherStep σ))

section
variable {σ α : Type} (p : TermPlatform σ)

def TaskDesk.other (d : TaskDesk σ) : OtherStep σ → TaskDesk σ
  | .op o =>
    if d.mine.isSome=true ∧ o.onAttachment=true then d
    else {d with terminal := o.apply p d.terminal}
  | .elapse world => {d with terminal := {d.terminal with world := world}}

def TaskDesk.turn (d : TaskDesk σ) : TaskDesk σ :=
  {(d.others.headD []).foldl (TaskDesk.other p) d with others := d.others.tail}

def onTerminal (c : TermCall σ α) : Call (TaskDesk σ) Err α :=
  ⟨fun d => ((c.run (d.turn p).terminal).1,
    {d.turn p with terminal := (c.run (d.turn p).terminal).2})⟩

/-- emtask_term_spawn_shell -/
def termSpawnShell (settings : TermSettings) : Call (TaskDesk σ×Option Nat) Err Unit :=
  ⟨fun s =>
    let d := s.1.turn p
    match (attachCommon p (settings.termType.getD []) (.ofNat settings.cols) (.ofNat settings.rows)
        (.ofNat settings.widthPx) (.ofNat settings.heightPx)).run d.terminal with
    | (.ok _,t) => (.ok (),({d with
        terminal := t
        mine := some d.next
        next := d.next+1
        spawned := d.spawned ++ [d.next]},some d.next))
    | (.error e,t) => (.error e,({d with terminal := t},s.2))⟩

/-- emtask_term_close -/
def termCloseHandle (handle : Nat) : Call (TaskDesk σ) Err Unit :=
  ⟨fun d => ((termClose.run (d.turn p).terminal).1,{d.turn p with
    terminal := (termClose.run (d.turn p).terminal).2
    mine := none
    closed := (d.turn p).closed ++ [handle]})⟩

/-- emtask_term_api -/
def termApi : TermApi Nat (TaskDesk σ) where
  spawnShell := some (termSpawnShell p)
  spawnExec := some fun _ _ => fail .unsupported
  write := some fun _ buf => onTerminal p (termWrite p buf)
  read := some fun _ len => onTerminal p (termRead p len)
  resize := some fun _ cols rows widthPx heightPx =>
    onTerminal p (termResize p (.ofNat cols) (.ofNat rows) (.ofNat widthPx) (.ofNat heightPx))
  signal := some fun _ name => onTerminal p (termSignal p name)
  waitExit := some fun _ => do
    let exit ← onTerminal p (termWaitExit p)
    pure (if exit.1=true then some exit.2.toNat else none)
end

section
variable {σ α : Type} {p : TermPlatform σ}

/-- A client is attached. -/
structure Terminal.Attached (t : Terminal σ) : Prop where
  attached : t.term.attached=true
  attachment : t.attachment.isSome=true

lemma Terminal.Attached.step {s t : Terminal σ} (h : s.Attached) (hst : TermStep p false s t) :
    t.Attached := by
  cases hst with
  | minor u heq =>
    refine ⟨?_,h.attachment⟩
    show u.attached=true
    rw [heq]
    exact h.attached
  | spawn counted =>
    have hs := leaves_spawnLocked (p := p) counted s
    have hac := congrArg OutputSide.attached hs
    have hat := congrArg OutputSide.attachment hs
    exact ⟨hac.trans h.attached,(congrArg Option.isSome hat).trans h.attachment⟩
  | capture bytes hd => exact ⟨h.attached,h.attachment⟩
  | attach hd => exact ⟨rfl,rfl⟩
  | readReady len ha => exact ⟨h.attached,rfl⟩
  | close hc => cases hc
  | _ => exact ⟨h.attached,h.attachment⟩

variable {s : Terminal σ} {d : TaskDesk σ} {handle : Nat} {P : TaskDesk σ → Prop}

lemma Terminal.Attached.steps {t : Terminal σ} (h : s.Attached) (hs : TermSteps p false s t) :
    t.Attached := by
  induction hs with
  | refl => exact h
  | tail _ hl ih => exact ih.step hl

lemma Terminal.Attached.apply (h : s.Attached) {o : TermOp} (ho : o.onAttachment=false) :
    (o.apply p s).Attached := by
  have hc : o=.close → false=true := by
    intro heq
    subst heq
    exact ho.symm
  exact h.steps (o.apply_steps hc s)

/-- The worker has got no handle. -/
structure TaskDesk.Idle (d : TaskDesk σ) : Prop where
  mine : d.mine=none
  spawned : d.spawned=[]
  closed : d.closed=[]

/-- The worker has got one handle and has not closed it. -/
structure TaskDesk.Holds (handle : Nat) (d : TaskDesk σ) : Prop where
  mine : d.mine=some handle
  spawned : d.spawned=[handle]
  closed : d.closed=[]
  attached : d.terminal.Attached

lemma TaskDesk.Idle.other (h : d.Idle) (step : OtherStep σ) : (d.other p step).Idle := by
  cases step with
  | op o =>
    rw [TaskDesk.other]
    split_ifs
    · exact h
    · exact ⟨h.mine,h.spawned,h.closed⟩
  | elapse world => exact ⟨h.mine,h.spawned,h.closed⟩

lemma TaskDesk.Holds.other (h : d.Holds handle) (step : OtherStep σ) :
    (d.other p step).Holds handle := by
  cases step with
  | op o =>
    rw [TaskDesk.other]
    split_ifs with hr
    · exact h
    have ho : o.onAttachment=false := by
      cases ho : o.onAttachment with
      | false => rfl
      | true => exact absurd ⟨by rw [h.mine]; rfl,ho⟩ hr
    exact ⟨h.mine,h.spawned,h.closed,h.attached.apply ho⟩
  | elapse world => exact ⟨h.mine,h.spawned,h.closed,h.attached.attached,h.attached.attachment⟩

lemma TaskDesk.turn_keeps (ho : ∀ d rest,P d → P {d with others := rest})
    (hot : ∀ d step,P d → P (d.other p step)) (h : P d) : P (d.turn p) := by
  have hf : ∀ (steps : List (OtherStep σ)) (d : TaskDesk σ),P d →
      P (steps.foldl (TaskDesk.other p) d) := by
    intro steps
    induction steps with
    | nil => exact fun _ hd => hd
    | cons step steps ih => exact fun d hd => ih _ (hot d step hd)
  exact ho _ _ (hf _ _ h)

lemma TaskDesk.Idle.turn (h : d.Idle) : (d.turn p).Idle :=
  TaskDesk.turn_keeps (fun _ _ h => ⟨h.mine,h.spawned,h.closed⟩) (fun _ step h => h.other step) h

lemma TaskDesk.Holds.turn (h : d.Holds handle) : (d.turn p).Holds handle :=
  TaskDesk.turn_keeps (fun _ _ h => ⟨h.mine,h.spawned,h.closed,h.attached⟩)
    (fun _ step h => h.other step) h

lemma keeps_onTerminal_idle (c : TermCall σ α) : Keeps TaskDesk.Idle (onTerminal p c) := by
  intro d h
  have ht := h.turn (p := p)
  exact ⟨ht.mine,ht.spawned,ht.closed⟩

lemma keeps_onTerminal_holds {c : TermCall σ α} (hc : ∀ s,Keeps (TermSteps p false s) c) :
    Keeps (TaskDesk.Holds handle) (onTerminal p c) := by
  intro d h
  have ht := h.turn (p := p)
  exact ⟨ht.mine,ht.spawned,ht.closed,ht.attached.steps (hc _ _ .refl)⟩

lemma keptBy_termApi (hP : ∀ (α : Type) (c : TermCall σ α),(∀ s,Keeps (TermSteps p false s) c) →
      Keeps P (onTerminal p c)) : KeptBy (some (termApi p)) P := by
  constructor
  · intro f hf handle buf
    cases hf
    exact hP _ _ fun s => steps_termWrite buf
  · intro f hf handle len
    cases hf
    exact hP _ _ fun s => steps_termRead len
  · intro f hf handle cols rows widthPx heightPx
    cases hf
    exact hP _ _ fun s => steps_termResize _ _ _ _
  · intro f hf handle name
    cases hf
    exact hP _ _ fun s => steps_termSignal name
  intro f hf handle
  cases hf
  exact .bind (hP _ _ fun s => steps_termWaitExit) fun exit => .pure _

lemma termSpawnShell_spawns (settings : TermSettings) :
    Spawns TaskDesk.Idle TaskDesk.Holds (termSpawnShell p settings) := by
  intro s h
  have ht := h.turn (p := p)
  unfold Ensures termSpawnShell
  rcases ha : (attachCommon p (settings.termType.getD []) (.ofNat settings.cols)
    (.ofNat settings.rows) (.ofNat settings.widthPx) (.ofNat settings.heightPx)).run
    (s.1.turn p).terminal with ⟨e | _,t⟩
  · simp only [ha]
    exact ⟨ht.mine,ht.spawned,ht.closed⟩
  simp only [ha]
  obtain ⟨u,-,rfl⟩ := attachCommon_ok ha
  refine ⟨_,rfl,rfl,?_,ht.closed,rfl,rfl⟩
  simp [ht.spawned]

lemma termApi_tracksHandle :
    TracksHandle (some (termApi p)) TaskDesk.Idle TaskDesk.Holds where
  idle_kept := keptBy_termApi fun _ c _ => keeps_onTerminal_idle c
  holds_kept _ := keptBy_termApi fun _ _ hc => keeps_onTerminal_holds hc
  spawnShell f hf settings := by
    cases hf
    exact termSpawnShell_spawns settings
  spawnExec f hf command settings := by
    cases hf
    exact fun _ h => h

lemma termCloseHandle_closes (h : d.Holds handle) :
    (termCloseHandle p handle).Ensures d (fun _ e =>
      e.spawned=[handle] ∧ e.closed=[handle] ∧ e.terminal.term.attached=false) := by
  have ht := h.turn (p := p)
  have hc : (termClose : TermCall σ Unit).run (d.turn p).terminal=
      (.ok (),(d.turn p).terminal.detached) := by
    refine (run_bind_ok (run_require_of _ _ ?_))
    exact ht.attached.attachment
  unfold Ensures termCloseHandle
  simp only [hc]
  refine ⟨ht.spawned,?_,rfl⟩
  simp [ht.closed]
end

variable {κ ς σ : Type} (L : LinkApi κ) (S : SftpServer ς) (p : TermPlatform σ)

abbrev WorkerState (κ ς σ : Type) := ServerState κ ς Nat (TaskDesk σ)

/-- How a worker is set up: everything before the channel, which ends with the name of the
user; whether the task has SFTP; what its call of emtask_session_manager_takeover returns; and
the options of its session. -/
structure WorkerSetup (κ : Type) where
  prepare : Call (Conn κ) Err Bytes
  useSftp : Bool
  takeover : Except Err Unit
  options : Option SessionOptions

variable (w : WorkerSetup κ)

/-- emtask_before_auto_channel_accept -/
def beforeAutoChannelAccept (takeover : Except Err Unit) : ChannelKind → Except Err Unit
  | .terminal => takeover
  | .sftp => .ok ()

def acceptWorkerChannel (username : Bytes) : Call (WorkerState κ ς σ) Err ChannelKind :=
  if w.useSftp=true then
    acceptChannel L S (some (termApi p)) username
      (.auto (some (beforeAutoChannelAccept w.takeover))) w.options
  else do
    lift w.takeover
    acceptChannel L S (some (termApi p)) username .terminal w.options

def deinitWorkerChannel : ChannelKind → Call (WorkerState κ ς σ) Err Unit
  -- the session of the SFTP server is another component's
  | .sftp => onLeft (modify fun s => (s.1,SftpChannel.zeroed S))
  | .terminal => onRight (sshServerTerminalChannelDeinit (some (termCloseHandle p)))

/-- The runs of emtask_run_worker_session that return. -/
inductive WorkerSession (s : WorkerState κ ς σ) : WorkerState κ ς σ → Prop where
  | unprepared {e : Err} {t : WorkerState κ ς σ} (hprepare : (onFst w.prepare).run s=(.error e,t)) :
      WorkerSession s t
  | refused {username : Bytes} {e : Err} {t u : WorkerState κ ς σ}
      (hprepare : (onFst w.prepare).run s=(.ok username,t))
      (haccept : (acceptWorkerChannel L S p w username).run t=(.error e,u)) : WorkerSession s u
  | served {username : Bytes} {kind : ChannelKind} {t a u v : WorkerState κ ς σ}
      {r : Except Err Unit} (hprepare : (onFst w.prepare).run s=(.ok username,t))
      (haccept : (acceptWorkerChannel L S p w username).run t=(.ok kind,a))
      (hrun : ServerRun L S (some (termApi p)) kind a u)
      (hlast : (processChannelData L S (some (termApi p)) kind).run u=(r,v))
      (hends : ¬Continues r) : WorkerSession s ((deinitWorkerChannel S p kind).run v).2

def workerUntilSpawn (username : Bytes) :
    Call (WorkerState κ ς σ) Err (Option (Nat×ChannelRequest)) :=
  if w.useSftp=true then
    acceptUntilSpawn L S (some (termApi p)) username
      (.auto (some (beforeAutoChannelAccept w.takeover))) w.options
  else do
    lift w.takeover
    acceptUntilSpawn L S (some (termApi p)) username .terminal w.options

lemma acceptWorkerChannel_eq (username : Bytes) :
    (acceptWorkerChannel L S p w username : Call (WorkerState κ ς σ) Err ChannelKind)=
      workerUntilSpawn L S p w username >>= finishAccept L := by
  unfold acceptWorkerChannel workerUntilSpawn
  split_ifs
  · exact acceptChannel_eq ..
  · rw [bind_assoc,acceptChannel_eq]

/-- The spawn succeeds, and the reply to its request cannot be sent. -/
def ReplyFails (s : WorkerState κ ς σ) : Prop :=
  ∃ username clientChannel request,∃ t u : WorkerState κ ς σ,
    (onFst w.prepare).run s=(.ok username,t) ∧
    (workerUntilSpawn L S p w username).run t=(.ok (some (clientChannel,request)),u) ∧
    request.wantReply=true ∧
    ((sshTransportSendChannelSuccess L clientChannel).run u.1).1≠.ok ()

/-- Each handle that the worker has got has been closed once, and then nobody is attached. -/
structure TaskDesk.ClosesAll (d : TaskDesk σ) : Prop where
  closed : d.closed=d.spawned
  detached : d.spawned≠[] → d.terminal.term.attached=false

variable {d : TaskDesk σ}

lemma TaskDesk.Idle.closesAll (h : d.Idle) : d.ClosesAll :=
  ⟨h.closed.trans h.spawned.symm,fun hs => absurd h.spawned hs⟩

lemma TaskDesk.Holds.not_closesAll {handle : Nat} (h : d.Holds handle) : ¬d.ClosesAll := by
  intro ha
  have hc := ha.closed
  rw [h.closed,h.spawned] at hc
  cases hc

variable {L S p w}
variable {a s t u v : WorkerState κ ς σ} {username : Bytes} {kind : ChannelKind}
  {r : Except Err Unit}

lemma workerUntilSpawn_outcome (username : Bytes) (h : s.2.2.platform.Idle) :
    (workerUntilSpawn L S p w username).Ensures s (fun r t =>
      Outcome (fun spawned c => spawned.elim c.platform.Idle fun _ =>
        ∃ handle,SpawnedWith TaskDesk.Holds handle c) (fun _ c => c.platform.Idle) r t.2.2) := by
  refine Ensures.ite (fun _ => ?_) fun _ => bindLift (fun _ _ => ?_) fun _ _ => h
  · exact acceptUntilSpawn_outcome L S username termApi_tracksHandle _ w.options s h
  · exact acceptUntilSpawn_outcome L S username termApi_tracksHandle _ w.options s h

lemma finishAccept_outcome (client : Nat) (request : ChannelRequest)
    (s : WorkerState κ ς σ) : (finishAccept L (some (client,request))).Ensures s (Outcome
      (fun kind t => kind=.terminal ∧ t.2=s.2 ∧ ¬(request.wantReply=true ∧
        ((sshTransportSendChannelSuccess L client).run s.1).1≠.ok ()))
      fun _ t => t.2=s.2 ∧ request.wantReply=true ∧
        ((sshTransportSendChannelSuccess L client).run s.1).1≠.ok ()) := by
  have hr : (onRight (replySuccess L client request) :
      Call (WorkerState κ ς σ) Err Unit).Ensures s (fun r t => t.2=s.2 ∧ (r=.ok () ↔
        ¬(request.wantReply=true ∧
          ((sshTransportSendChannelSuccess L client).run s.1).1≠.ok ()))) := by
    unfold replySuccess onlyIf
    split_ifs with hw
    · refine ⟨rfl,?_⟩
      rw [hw,not_and,not_not]
      exact ⟨fun h _ => h,fun h => h rfl⟩
    · exact ⟨rfl,fun _ h => hw h.1,fun _ => rfl⟩
  refine hr.bind (fun _ t ht => ⟨rfl,ht.1,ht.2.mp rfl⟩) fun e t ht => ⟨ht.1,?_⟩
  by_contra hn
  cases ht.2.mpr hn

lemma replyFails_iff {r : Except Err (Option (Nat×ChannelRequest))}
    (hpr : (onFst w.prepare).run s=(.ok username,t))
    (hsp : (workerUntilSpawn L S p w username).run t=(r,u)) :
    ReplyFails L S p w s ↔ ∃ client request,r=.ok (some (client,request)) ∧
      request.wantReply=true ∧ ((sshTransportSendChannelSuccess L client).run u.1).1≠.ok () := by
  constructor
  · rintro ⟨_,client,request,_,_,hp,hs,hr⟩
    rw [hpr] at hp
    cases hp
    rw [hsp] at hs
    cases hs
    exact ⟨client,request,rfl,hr⟩
  · rintro ⟨client,request,rfl,hr⟩
    exact ⟨username,client,request,t,u,hpr,hsp,hr⟩

lemma acceptWorkerChannel_outcome (hi : t.2.2.platform.Idle)
    (hp : (onFst w.prepare).run s=(.ok username,t)) :
    (acceptWorkerChannel L S p w username).Ensures t (Outcome
      (fun kind u => ¬ReplyFails L S p w s ∧ (kind=.sftp ∧ u.2.2.platform.Idle ∨
        kind=.terminal ∧ ∃ handle,SpawnedWith TaskDesk.Holds handle u.2.2))
      fun _ u => u.2.2.platform.ClosesAll ↔ ¬ReplyFails L S p w s) := by
  rw [acceptWorkerChannel_eq]
  have hsp := workerUntilSpawn_outcome (L := L) (S := S) (p := p) (w := w) username hi
  rcases hs : (workerUntilSpawn L S p w username).run t with ⟨r,v⟩
  have hst := hsp.of_eq hs
  have hf := replyFails_iff hp hs
  rcases r with e | _ | ⟨client,request⟩
  · refine .of_run (run_bind_error hs) (iff_of_true (TaskDesk.Idle.closesAll hst) ?_)
    simp [hf]
  · exact bindOk hs ⟨by simp [hf],.inl ⟨rfl,hst⟩⟩
  refine bindOk hs ((finishAccept_outcome client request v).mono fun r u hu => ?_)
  obtain ⟨handle,hh⟩ := hst
  have hr : ReplyFails L S p w s ↔ request.wantReply=true ∧
      ((sshTransportSendChannelSuccess L client).run v.1).1≠.ok () := by simp [hf]
  cases r with
  | ok kind =>
    obtain ⟨rfl,hc,hn⟩ := hu
    rw [← hc] at hh
    exact ⟨mt hr.mp hn,.inr ⟨rfl,handle,hh⟩⟩
  | error e =>
    rw [← hu.1] at hh
    exact iff_of_false hh.platform.not_closesAll (not_not.mpr (hr.mpr hu.2))

lemma ServerRun.keeps {T : Option (TermApi Nat (TaskDesk σ))} {K : Bool → Option Nat → Prop}
    {I : TaskDesk σ → Prop} (hT : KeptBy T I) (hr : ServerRun L S T kind a u)
    (hl : (processChannelData L S T kind).run u=(r,v)) (h : Holding K I a.2.2) :
    Holding K I v.2.2 := by
  have hk := keeps_processChannelData (K := K) L S hT kind
  have hu : Holding K I u.2.2 := by
    refine Run.invariant (fun t => Holding K I t.2.2) h (fun t r v ht hs _ => ?_) hr
    exact (hk.ensures ht).of_eq hs
  exact (hk.ensures hu).of_eq hl

lemma served_closesAll (h : kind=.sftp ∧ a.2.2.platform.Idle ∨
      kind=.terminal ∧ ∃ handle,SpawnedWith TaskDesk.Holds handle a.2.2)
    (hr : ServerRun L S (some (termApi p)) kind a u)
    (hls : (processChannelData L S (some (termApi p)) kind).run u=(r,v)) :
    ((deinitWorkerChannel S p kind).run v).2.2.2.platform.ClosesAll := by
  rcases h with ⟨rfl,hi⟩ | ⟨rfl,handle,hh⟩
  · have hl := ServerRun.keeps termApi_tracksHandle.idle_kept hr hls
      (⟨trivial,hi⟩ : Holding (fun _ _ => True) TaskDesk.Idle a.2.2)
    exact hl.platform.closesAll
  have hl := ServerRun.keeps (termApi_tracksHandle.holds_kept handle) hr hls hh
  have hdn := terminalChannelDeinit_closes (κ := κ) (s := (v.1,v.2.2)) (termCloseHandle p) hl
  have hpl : ((deinitWorkerChannel S p .terminal).run v).2.2.2.platform=
    ((termCloseHandle p handle).run v.2.2.platform).2 := hdn
  obtain ⟨hg,hcl,hd⟩ := termCloseHandle_closes (p := p) hl.platform
  rw [hpl]
  exact ⟨hcl.trans hg.symm,fun _ => hd⟩

/-- A session closes each handle that it has got, exactly when the reply to its spawn can be
sent. -/
theorem worker_session_closes_iff {s t : WorkerState κ ς σ} (hidle : s.2.2.platform.Idle)
    (hsession : WorkerSession L S p w s t) :
    t.2.2.platform.ClosesAll ↔ ¬ReplyFails L S p w s := by
  cases hsession with
  | unprepared hp =>
    have hc : t.2=s.2 := (congrArg (fun run => run.2.2) hp).symm
    rw [hc]
    refine iff_of_true hidle.closesAll fun hf => ?_
    obtain ⟨_,_,_,_,_,hpr,-⟩ := hf
    rw [hp] at hpr
    cases hpr
  | refused hp ha =>
    have hc := congrArg (fun run => run.2.2) hp
    exact (acceptWorkerChannel_outcome (hc ▸ hidle) hp).of_eq ha
  | served hp ha hr hl he =>
    have hc := congrArg (fun run => run.2.2) hp
    obtain ⟨hn,hs⟩ := (acceptWorkerChannel_outcome (hc ▸ hidle) hp).of_eq ha
    exact iff_of_true (served_closesAll hs hr hl) hn

def breakingLink : LinkApi (List (Except Err Bytes)×Nat) where
  recv _ := ⟨fun k => match k.1 with
    | [] => (.error .notFound,k)
    | r::rest => (r,(rest,k.2))⟩
  send _ := ⟨fun k => if k.2=0 then (.error .closed,k) else (.ok (),(k.1,k.2-1))⟩
  rekey _ := pure ()
  send_error payload k e k' h := by
    dsimp only at h
    split_ifs at h
    · cases h
      decide
    · cases h

def shellSetup : WorkerSetup (List (Except Err Bytes)×Nat) where
  prepare := pure []
  useSftp := false
  takeover := .ok ()
  options := none

def shellClient (sends : Nat) : WorkerState (List (Except Err Bytes)×Nat) Unit Bytes :=
  (⟨([openPayload 7 100 1000,requestPayload 0 sshChannelRequestShell [],
      sshMsgChannelClose::beBytes 4 0].map .ok,sends),[],none⟩,
    (SftpChannel.zeroed sampleSftp,TerminalChannel.zeroed
      ⟨freshTerminal (newTerm (shellConfig 8) none) [],none,0,[],[],[]⟩))

lemma shellClient_idle (sends : Nat) : (shellClient sends).2.2.platform.Idle := ⟨rfl,rfl,rfl⟩

def shellAccepted : WorkerState (List (Except Err Bytes)×Nat) Unit Bytes :=
  ((acceptWorkerChannel breakingLink sampleSftp (simplePlatform none) shellSetup []).run
    (shellClient 5)).2

/-- The session of the client on a connection that takes all messages. -/
theorem worker_session_closes_iff_shell : ∃ t,
    WorkerSession breakingLink sampleSftp (simplePlatform none) shellSetup (shellClient 5) t ∧
    t.2.2.platform.spawned=[0] ∧ t.2.2.platform.closed=[0] ∧
    t.2.2.platform.terminal.term.attached=false ∧
    ¬ReplyFails breakingLink sampleSftp (simplePlatform none) shellSetup (shellClient 5) := by
  have ha : (acceptWorkerChannel breakingLink sampleSftp (simplePlatform none) shellSetup
      []).run (shellClient 5)=(.ok .terminal,shellAccepted) := rfl
  have hl : (processChannelData breakingLink sampleSftp (some (termApi (simplePlatform none)))
      .terminal).run shellAccepted=(.error .closed,_) := rfl
  have hs := WorkerSession.served (w := shellSetup) (s := shellClient 5) rfl ha Run.start
    hl (by simp [Continues])
  have hi := worker_session_closes_iff (shellClient_idle 5) hs
  exact ⟨_,hs,rfl,rfl,rfl,hi.mp ⟨rfl,fun _ => rfl⟩⟩

/-- The connection breaks with the reply to the shell request: the session is over, and the
terminal stays attached. -/
theorem reply_failure_leaves_attached : ∃ t,
    WorkerSession breakingLink sampleSftp (simplePlatform none) shellSetup (shellClient 1) t ∧
    t.2.2.platform.spawned=[0] ∧ t.2.2.platform.closed=[] ∧
    t.2.2.platform.terminal.term.attached=true ∧ ¬t.2.2.platform.ClosesAll := by
  have ha : (acceptWorkerChannel breakingLink sampleSftp (simplePlatform none) shellSetup
      []).run (shellClient 1)=(.error .closed,_) := rfl
  have hs := WorkerSession.refused (w := shellSetup) (s := shellClient 1) rfl ha
  refine ⟨_,hs,rfl,rfl,rfl,fun hal => ?_⟩
  cases hal.closed

end EMSSHD.Emtask
