import EMSSHD.Framework.Lawful
import EMSSHD.Server.Opening

namespace EMSSHD

open Call

variable {κ σ η τ C α β : Type}

section
def thenFinish (finish : α → Call (Conn κ×C) Err β) : Option α → Call (Conn κ×C) Err (Option β)
  | none => pure none
  | some a => do
    let b ← finish a
    pure (some b)

lemma requestLoop_thenFinish (L : LinkApi κ) (serverChannel : Nat)
    (answer : Except Err Unit → ChannelRequest → Call (Conn κ×C) Err (Option α))
    (finish : α → Call (Conn κ×C) Err β) (attempts : Nat) (req : Option ChannelRequest) :
    requestLoop L serverChannel (fun status request => answer status request >>= thenFinish finish)
      attempts req=
    requestLoop L serverChannel answer attempts req >>= fun a => beside (finish a) := by
  induction attempts generalizing req with
  | zero => rfl
  | succ attempts ih =>
    simp only [requestLoop,bind_assoc]
    congr 1
    funext status
    congr 1
    funext s
    cases requestFailure? status with
    | some e =>
      dsimp only
      rw [ih]
      split_ifs
      · rfl
      · rfl
    | none =>
      dsimp only
      rw [bind_assoc]
      congr 1
      funext _
      rw [beside_bind,bind_assoc,bind_assoc]
      congr 1
      funext accepted
      rcases accepted with _ | a
      · exact ih none
      show (beside (finish a >>= fun b => pure (some b)) >>= _)=_
      rw [beside_bind,bind_assoc]
      exact bind_pure_run _

variable (L : LinkApi κ) (S : SftpServer σ) (T : Option (TermApi η τ))
  (authenticatedUsername : Bytes)

def asksForSpawn (request : ChannelRequest) : Bool :=
  viewEqualsCstr request.requestType sshChannelRequestShell ||
    viewEqualsCstr request.requestType sshChannelRequestExec

def decideUntilSpawn (clientChannel : Nat) (status : Except Err Unit) (request : ChannelRequest) :
    Call (TermState κ η τ) Err (Option ChannelRequest) :=
  if status=.ok () ∧ asksForSpawn request=true then do
    let spawned ← Call.status (spawnTerminal T authenticatedUsername request)
    if spawned=.ok () then do
      Call.modify fun t => (t.1,{t.2 with
        running := true
        state := .running})
      pure (some request)
    else do
      replyFailure L clientChannel request
      pure none
  else do
    let _ ← decideTerminalRequest L T authenticatedUsername clientChannel status request
    pure none

variable {request : ChannelRequest}

lemma asksForSpawn_only (h : asksForSpawn request=true) :
    ∀ name∈[sshChannelRequestPtyReq,sshChannelRequestEnv,sshChannelRequestWindowChange,
      sshChannelRequestSignal],viewEqualsCstr request.requestType name=false := by
  intro name hn
  rcases Bool.or_eq_true_iff.mp h with hs | hexec
  · rw [of_decide_eq_true hs]
    revert name
    decide
  rw [of_decide_eq_true hexec]
  revert name
  decide

lemma decideTerminalRequest_passes {client : Nat} {status : Except Err Unit}
    (h : ¬(status=.ok () ∧ asksForSpawn request=true)) :
    ((do
      let _ ← decideTerminalRequest L T authenticatedUsername client status request
      pure none) : Call (TermState κ η τ) Err (Option Unit))=
    decideTerminalRequest L T authenticatedUsername client status request := by
  unfold decideTerminalRequest
  split_ifs with hs _ _ _ _ hsp
  all_goals try simp only [bind_assoc,pure_bind]
  exact absurd ⟨not_not.mp hs,hsp⟩ h

lemma decideTerminalRequest_eq (client : Nat) (status : Except Err Unit)
    (request : ChannelRequest) :
    (decideTerminalRequest L T authenticatedUsername client status request :
      Call (TermState κ η τ) Err (Option Unit))=
    decideUntilSpawn L T authenticatedUsername client status request >>=
      thenFinish (replySuccess L client) := by
  unfold decideUntilSpawn
  split_ifs with hs
  · obtain ⟨rfl,hasks⟩ := hs
    have ho := asksForSpawn_only hasks
    rw [decideTerminalRequest,if_neg (not_not.mpr rfl)]
    rw [ho _ (by simp),ho _ (by simp),ho _ (by simp),ho _ (by simp)]
    rw [asksForSpawn] at hasks
    simp only [Bool.false_eq_true,if_false,hasks,if_true,bind_assoc]
    congr 1
    funext spawned
    split_ifs
    · rfl
    simp only [bind_assoc]
    rfl
  rw [bind_assoc]
  exact (decideTerminalRequest_passes L T authenticatedUsername hs).symm

def terminalUntilSpawn (options : SessionOptions) (channelOpen : ChannelOpen)
    (firstRequest : Option ChannelRequest) :
    Call (TermState κ η τ) Err (Nat×ChannelRequest) := do
  Call.require ((T.bind TermApi.spawnShell).isSome=true ∨ (T.bind TermApi.spawnExec).isSome=true)
    .unsupported
  let effective := effectiveSessionOptions (some options)
  Call.modify fun s => (s.1,s.2.opened effective channelOpen)
  let request ← Call.withLocal {} (requestLoop L effective.serverChannel
    (decideUntilSpawn L T authenticatedUsername channelOpen.senderChannel) 16 firstRequest)
  pure (channelOpen.senderChannel,request)

lemma terminalAcceptAfterOpen_eq (options : SessionOptions) (opn : ChannelOpen)
    (req : Option ChannelRequest) :
    (terminalAcceptAfterOpen L T authenticatedUsername options opn req :
      Call (TermState κ η τ) Err Unit)=
    terminalUntilSpawn L T authenticatedUsername options opn req >>= fun spawned =>
      replySuccess L spawned.1 spawned.2 := by
  have hd := funext₂ (decideTerminalRequest_eq (κ := κ) L T authenticatedUsername opn.senderChannel)
  simp only [terminalAcceptAfterOpen,terminalUntilSpawn,hd,requestLoop_thenFinish,withLocal_bind,
    bind_assoc,pure_bind]

def decideAutoUntilSpawn (beforeAccept : AcceptHook) (effective : SessionOptions)
    (channelOpen : ChannelOpen) (status : Except Err Unit) (request : ChannelRequest) :
    Call (ServerState κ σ η τ) Err (Option (Option (Nat×ChannelRequest))) :=
  if status=.ok () ∧ channelRequestIsSubsystemName request
      (effective.sftpSubsystemName.getD sshSubsystemSftp)=true then do
    Call.lift (runHook beforeAccept .sftp)
    Call.onLeft (sftpAcceptAfterOpen L S effective channelOpen (some request))
    pure (some none)
  else if status=.ok () ∧ sshChannelRequestIsTerminal request=true then do
    Call.lift (runHook beforeAccept .terminal)
    let spawned ← Call.onRight (terminalUntilSpawn L T authenticatedUsername effective channelOpen
      (some request))
    pure (some (some spawned))
  else do
    refuseRequest L channelOpen.senderChannel request
    pure none

def finishAccept : Option (Nat×ChannelRequest) → Call (ServerState κ σ η τ) Err ChannelKind
  | none => pure .sftp
  | some (clientChannel,request) => do
    Call.onRight (replySuccess L clientChannel request)
    pure .terminal

lemma decideAutoRequest_eq (hook : AcceptHook) (eff : SessionOptions)
    (opn : ChannelOpen) (status : Except Err Unit) (request : ChannelRequest) :
    (decideAutoRequest L S T authenticatedUsername hook eff opn status
      request : Call (ServerState κ σ η τ) Err (Option ChannelKind))=
    decideAutoUntilSpawn L S T authenticatedUsername hook eff opn status
      request >>= thenFinish (finishAccept L) := by
  unfold decideAutoRequest decideAutoUntilSpawn
  split_ifs
  · simp only [bind_assoc,pure_bind]
    rfl
  · simp only [terminalAcceptAfterOpen_eq,onRight_bind,bind_assoc,pure_bind,thenFinish,finishAccept]
  simp only [bind_assoc,pure_bind]
  rfl

def acceptUntilSpawn (entry : Entry) (options : Option SessionOptions) :
    Call (ServerState κ σ η τ) Err (Option (Nat×ChannelRequest)) :=
  let effective := effectiveSessionOptions options
  match entry with
  | .sftp => do
    Call.onLeft (sshServerAcceptSftpChannel L S options)
    pure none
  | .terminal => do
    let spawned ← Call.onRight (do
      Call.modify fun s => (s.1,TerminalChannel.zeroed s.2.platform)
      let channelOpen ← Call.onFst (receiveSessionOpen L effective)
      terminalUntilSpawn L T authenticatedUsername effective channelOpen none)
    pure (some spawned)
  | .auto beforeAccept => do
    Call.modify fun s => (s.1,(SftpChannel.zeroed S,TerminalChannel.zeroed s.2.2.platform))
    let channelOpen ← Call.onFst (receiveSessionOpen L effective)
    Call.withLocal {} (requestLoop L effective.serverChannel
      (decideAutoUntilSpawn L S T authenticatedUsername beforeAccept effective channelOpen) 16 none)

lemma acceptChannel_eq (entry : Entry) (options : Option SessionOptions) :
    (acceptChannel L S T authenticatedUsername entry options :
      Call (ServerState κ σ η τ) Err ChannelKind)=
    acceptUntilSpawn L S T authenticatedUsername entry options >>= finishAccept L := by
  cases entry with
  | sftp => simp only [acceptChannel,acceptUntilSpawn,bind_assoc,pure_bind,finishAccept]
  | terminal =>
    simp only [acceptChannel,acceptUntilSpawn,sshServerAcceptTerminalChannel,
      terminalAcceptAfterOpen_eq,onRight_bind,bind_assoc,pure_bind,finishAccept]
  | auto beforeAccept =>
    have hd := fun effective channelOpen => funext₂ (decideAutoRequest_eq (κ := κ) L S T
      authenticatedUsername beforeAccept effective channelOpen)
    simp only [acceptChannel,acceptUntilSpawn,sshServerAcceptAutoChannel,hd,requestLoop_thenFinish,
      withLocal_bind,bind_assoc]
end

section
/-- A property that the functions of the terminal on a handle keep. -/
structure KeptBy (T : Option (TermApi η τ)) (I : τ → Prop) : Prop where
  write : ∀ f,T.bind TermApi.write=some f → ∀ handle buf,Keeps I (f handle buf)
  read : ∀ f,T.bind TermApi.read=some f → ∀ handle len,Keeps I (f handle len)
  resize : ∀ f,T.bind TermApi.resize=some f → ∀ handle cols rows widthPx heightPx,
    Keeps I (f handle cols rows widthPx heightPx)
  signal : ∀ f,T.bind TermApi.signal=some f → ∀ handle name,Keeps I (f handle name)
  waitExit : ∀ f,T.bind TermApi.waitExit=some f → ∀ handle,Keeps I (f handle)

/-- A property of what the deinit function looks at, and one of the platform. -/
structure Holding (K : Bool → Option η → Prop) (I : τ → Prop) (c : TerminalChannel η τ) : Prop where
  flags : K c.initialized c.termHandle
  platform : I c.platform

variable (L : LinkApi κ) {T : Option (TermApi η τ)} {K : Bool → Option η → Prop} {I : τ → Prop}

lemma Holding.change {c d : TerminalChannel η τ} (hc : c.fixed=d.fixed) (h : Holding K I d) :
    Holding K I c := by
  have hd : Holding K I d.fixed := ⟨h.flags,h.platform⟩
  rw [← hc] at hd
  exact ⟨hd.flags,hd.platform⟩

lemma holdingLocal (hT : KeptBy T I) :
    LocalSteps T fun _ (s : TermState κ η τ) _ t => Holding K I s.2 → Holding K I t.2 where
  toComposes := composes_keeps _
  change := Holding.change
  platform hc s h := by
    refine ⟨h.flags,?_⟩
    cases hc with
    | resize hf => exact hT.resize _ hf _ _ _ _ _ _ h.platform
    | signal hf => exact hT.signal _ hf _ _ _ h.platform
    | waitExit hf => exact hT.waitExit _ hf _ _ h.platform

lemma holdingSteps (hT : KeptBy T I) :
    ServeSteps L T fun _ (s : TermState κ η τ) _ t => Holding K I s.2 → Holding K I t.2 := by
  have hl := holdingLocal (κ := κ) (K := K) hT
  apply serveSteps_of ⟨hl.toComposes,hl.change,fun _ _ _ h => h⟩ hl.platform
  · intro s h
    exact h
  · intro read hr handle len s h
    exact ⟨h.flags,hT.read read hr handle len _ h.platform⟩
  · intro client bytes s
    exact Keeps.onFst (Holding K I) _ s
  intro n s h
  exact ⟨h.flags,h.platform⟩

lemma keeps_processTerminal (hT : KeptBy T I) :
    Keeps (fun s : TermState κ η τ => Holding K I s.2)
      (sshServerProcessTerminalChannelData L T) := by
  have h := holdingSteps (K := K) L hT
  intro s
  show (sshServerProcessTerminalChannelData L T).Ensures s
    (fun _ t => Holding K I s.2 → Holding K I t.2)
  refine .bindGet (h.bindRequire (by decide) fun _ => h.bind (h.pump s) fun _ t => ?_)
  refine h.bind (α := Except Err ChannelMessage) id fun received u => ?_
  cases received with
  | ok m =>
    refine h.processTerminalMessage m u (fun _ hu => ⟨hu.flags,hu.platform⟩) fun _ _ => ?_
    refine h.processTerminalData _ (fun _ hv => ⟨hv.flags,hv.platform⟩) (fun v => ?_) ?_ u
    · refine .bindGet (h.bindRequire (by decide) fun _ => .ite (fun _ => id) fun _ => ?_)
      exact h.bind (α := Unit) id fun _ _ => fun hw => ⟨hw.flags,hw.platform⟩
    intro write hwr handle v hv
    exact ⟨hv.flags,hT.write write hwr handle _ _ hv.platform⟩
  | error e => exact .ite (fun _ => h.bind (h.pump u) fun _ _ => id) fun _ => id

lemma keeps_processChannelData (S : SftpServer σ) (hT : KeptBy T I) (kind : ChannelKind) :
    Keeps (fun s : ServerState κ σ η τ => Holding K I s.2.2) (processChannelData L S T kind) := by
  intro s h
  cases kind with
  | sftp => exact h
  | terminal => exact keeps_processTerminal L hT (s.1,s.2.2) h
end

section
/-- A spawn from an idle platform. When it succeeds, the platform holds the new handle. -/
def Spawns (idle : τ → Prop) (holds : η → τ → Prop) (c : Call (τ×Option η) Err Unit) : Prop :=
  ∀ s,idle s.1 → c.Ensures s
    (Outcome (fun _ t => ∃ handle,t.2=some handle ∧ holds handle t.1) fun _ t => idle t.1)

/-- A terminal that is idle, or that holds one handle. -/
structure TracksHandle (T : Option (TermApi η τ)) (idle : τ → Prop) (holds : η → τ → Prop) :
    Prop where
  idle_kept : KeptBy T idle
  holds_kept : ∀ handle,KeptBy T (holds handle)
  spawnShell : ∀ f,T.bind TermApi.spawnShell=some f → ∀ settings,Spawns idle holds (f settings)
  spawnExec : ∀ f,T.bind TermApi.spawnExec=some f → ∀ command settings,
    Spawns idle holds (f command settings)

abbrev Unspawned (idle : τ → Prop) (c : TerminalChannel η τ) : Prop :=
  Holding (fun initialized _ => initialized=true) idle c

abbrev SpawnedWith (holds : η → τ → Prop) (handle : η) (c : TerminalChannel η τ) : Prop :=
  Holding (fun initialized termHandle => initialized=true ∧ termHandle=some handle) (holds handle) c

variable (L : LinkApi κ) (S : SftpServer σ) {T : Option (TermApi η τ)}
  (authenticatedUsername : Bytes) {idle : τ → Prop} {holds : η → τ → Prop}

variable {s : TermState κ η τ}

lemma onSpawn_outcome {c : Call (τ×Option η) Err Unit} (hc : Spawns idle holds c)
    (h : Unspawned idle s.2) : (onSpawn c).Ensures s (fun r t =>
      Outcome (fun _ c => ∃ handle,SpawnedWith holds handle c) (fun _ c => Unspawned idle c) r t.2) := by
  have hs := hc (s.2.platform,s.2.termHandle) h.platform
  unfold Ensures onSpawn at *
  rcases hr : c.run (s.2.platform,s.2.termHandle) with ⟨e | _,t⟩
  · rw [hr] at hs
    simp only [hr]
    exact ⟨h.flags,hs⟩
  rw [hr] at hs
  simp only [hr]
  obtain ⟨handle,hh,hhl⟩ := hs
  exact ⟨handle,⟨h.flags,hh⟩,hhl⟩

lemma spawnTerminal_outcome (hT : TracksHandle T idle holds) (request : ChannelRequest)
    (h : Unspawned idle s.2) :
    (spawnTerminal T authenticatedUsername request).Ensures s (fun r t =>
      Outcome (fun _ c => ∃ handle,SpawnedWith holds handle c) (fun _ c => Unspawned idle c) r t.2) := by
  apply bindGet
  refine bindRequire (fun _ => Ensures.ite (fun _ => ?_) fun _ => ?_) fun _ => h
  · cases hs : T.bind TermApi.spawnShell with
    | none => exact h
    | some spawnShell => exact onSpawn_outcome (hT.spawnShell _ hs _) h
  rcases hs : T.bind TermApi.spawnExec with _ | spawnExec
  · exact h
  refine bindLift (fun command _ => ?_) fun _ _ => h
  exact onSpawn_outcome (hT.spawnExec _ hs command _) h

lemma decideUntilSpawn_outcome (hT : TracksHandle T idle holds) (client : Nat)
    (status : Except Err Unit) (request : ChannelRequest) (s : TermState κ η τ)
    (h : Unspawned idle s.2) :
    (decideUntilSpawn L T authenticatedUsername client status request).Ensures s (Outcome
      (fun a t => a.elim (Unspawned idle t.2) fun _ => ∃ handle,SpawnedWith holds handle t.2)
      fun _ t => Unspawned idle t.2) := by
  refine Ensures.ite (fun _ => ?_) fun hp => ?_
  · refine bindStatus ((spawnTerminal_outcome authenticatedUsername hT request h).mono ?_)
    intro spawned t ht
    refine Ensures.ite (fun hok => ?_) fun hn => ?_
    · subst hok
      obtain ⟨handle,hs⟩ := ht
      exact ⟨handle,hs.flags,hs.platform⟩
    have hi : Unspawned idle t.2 := by
      cases spawned with
      | error e => exact ht
      | ok _ => exact absurd rfl hn
    have hr : Keeps (fun s : TermState κ η τ => Unspawned idle s.2)
      (replyFailure L client request) := .onlyIf (.ignore (.onFst _ _))
    exact (hr.ensures hi).bind (fun _ _ hu => hu) fun _ _ hu => hu
  have hk : Keeps (fun s : TermState κ η τ => Unspawned idle s.2)
      (decideTerminalRequest L T authenticatedUsername client status request) :=
    (holdingLocal hT.idle_kept).decideTerminalRequest (fun _ _ _ => id) fun hs hsp =>
      absurd ⟨hs,hsp⟩ hp
  exact (hk.ensures h).bind (fun _ _ hu => hu) fun _ _ hu => hu

lemma terminalUntilSpawn_outcome (hT : TracksHandle T idle holds) (options : SessionOptions)
    (opn : ChannelOpen) (req : Option ChannelRequest) (s : TermState κ η τ)
    (h : idle s.2.platform) :
    (terminalUntilSpawn L T authenticatedUsername options opn req).Ensures s
      (fun r t => Outcome (fun _ c => ∃ handle,SpawnedWith holds handle c)
        (fun _ c => idle c.platform) r t.2) := by
  refine bindRequire (fun _ => bindModify ?_) fun _ => h
  have ho : Unspawned idle (s.2.opened (effectiveSessionOptions (some options)) opn) := ⟨rfl,h⟩
  refine Ensures.bind (requestLoop_outcome L (fun _ hc => hc) (fun _ _ => id)
    (decideUntilSpawn_outcome L authenticatedUsername hT opn.senderChannel) 16 req
    _ ho) (fun request t ht => ht) fun e t ht => ?_
  exact ht.platform

lemma decideAutoUntilSpawn_outcome (hT : TracksHandle T idle holds) (hook : AcceptHook)
    (eff : SessionOptions) (opn : ChannelOpen) (status : Except Err Unit)
    (request : ChannelRequest) (s : ServerState κ σ η τ) (h : idle s.2.2.platform) :
    (decideAutoUntilSpawn L S T authenticatedUsername hook eff opn status
      request).Ensures s (Outcome (fun a t => a.elim (idle t.2.2.platform) fun spawned =>
        spawned.elim (idle t.2.2.platform) fun _ => ∃ handle,SpawnedWith holds handle t.2.2)
      fun _ t => idle t.2.2.platform) := by
  refine Ensures.ite (fun _ => ?_) fun _ => Ensures.ite (fun _ => ?_) fun _ => ?_
  · refine bindLift (fun _ _ => ?_) fun _ _ => h
    have hl : (Call.onLeft (sftpAcceptAfterOpen L S eff opn (some request)) :
        Call (ServerState κ σ η τ) Err Unit).Ensures s (fun _ t => idle t.2.2.platform) := h
    exact hl.bind (fun _ _ ht => ht) fun _ _ ht => ht
  · refine bindLift (fun _ _ => ?_) fun _ _ => h
    have hrg := Ensures.onRight (ρ := SftpChannel σ) (s := s) (terminalUntilSpawn_outcome L
      authenticatedUsername hT eff opn (some request) _ h)
    exact hrg.bind (fun _ _ ht => ht) fun _ _ ht => ht
  have hr : Keeps (fun s : ServerState κ σ η τ => idle s.2.2.platform)
      (refuseRequest L opn.senderChannel request) :=
    .onlyIf (.ignore fun _ hs => hs)
  exact (hr.ensures h).bind (fun _ _ ht => ht) fun _ _ ht => ht

/-- An accept function that has come to its spawn has the handle; if it does not come there,
nothing has been spawned. -/
theorem acceptUntilSpawn_outcome (hT : TracksHandle T idle holds) (entry : Entry)
    (options : Option SessionOptions) (s : ServerState κ σ η τ) (h : idle s.2.2.platform) :
    (acceptUntilSpawn L S T authenticatedUsername entry options).Ensures s (fun r t =>
      Outcome (fun spawned c => spawned.elim (idle c.platform) fun _ =>
        ∃ handle,SpawnedWith holds handle c) (fun _ c => idle c.platform) r t.2.2) := by
  cases entry with
  | sftp =>
    have hl : (Call.onLeft (sshServerAcceptSftpChannel L S options) :
        Call (ServerState κ σ η τ) Err Unit).Ensures s (fun _ t => idle t.2.2.platform) := h
    exact hl.bind (fun _ _ ht => ht) fun _ _ ht => ht
  | terminal =>
    have hr : (Call.onFst (receiveSessionOpen L (effectiveSessionOptions options)) :
        Call (TermState κ η τ) Err ChannelOpen).Ensures
        (s.1,TerminalChannel.zeroed s.2.2.platform) (fun _ t => idle t.2.platform) := h
    refine Ensures.bind (Ensures.onRight (bindModify (hr.bind (fun channelOpen t ht =>
      terminalUntilSpawn_outcome L authenticatedUsername hT _ channelOpen none t ht)
      fun _ _ ht => ht))) (fun _ _ ht => ht) fun _ _ ht => ht
  | auto beforeAccept =>
    have hr : (Call.onFst (receiveSessionOpen L (effectiveSessionOptions options)) :
        Call (ServerState κ σ η τ) Err ChannelOpen).Ensures
        (s.1,(SftpChannel.zeroed S,TerminalChannel.zeroed s.2.2.platform))
        (fun _ t => idle t.2.2.platform) := h
    refine bindModify (hr.bind (fun channelOpen t ht => ?_) fun _ _ ht => ht)
    have ha := decideAutoUntilSpawn_outcome (κ := κ) L S authenticatedUsername hT beforeAccept
      (effectiveSessionOptions options) channelOpen
    exact (requestLoop_outcome L (I := fun t => idle t.2.2.platform) (fun _ hc => hc)
      (fun _ _ => id) ha 16 none t ht).mono fun r u hu => by cases r <;> exact hu
end

def sshServerTerminalChannelDeinit (close : Option (η → Call τ Err Unit)) :
    Call (TermState κ η τ) Err Unit := do
  let s ← Call.get
  Call.onlyIf (s.2.initialized=true) do
    match s.2.termHandle,close with
    | some handle,some close => Call.ignore (onPlatform (close handle))
    | _,_ => pure ()
    Call.modify fun t => (t.1,TerminalChannel.zeroed t.2.platform)

lemma terminalChannelDeinit_closes {holds : η → τ → Prop} {handle : η}
    (close : η → Call τ Err Unit) {s : TermState κ η τ} (h : SpawnedWith holds handle s.2) :
    (sshServerTerminalChannelDeinit (some close)).Ensures s (fun _ t =>
      t.2.platform=((close handle).run s.2.platform).2) := by
  apply bindGet
  refine Ensures.onlyIf (fun _ => ?_) fun hn => absurd h.flags.1 hn
  rw [h.flags.2]
  rfl

end EMSSHD
