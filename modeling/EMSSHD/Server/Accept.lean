import EMSSHD.Core.Transport.Request
import EMSSHD.Server.Sftp.Channel
import EMSSHD.Server.Terminal.Channel

namespace EMSSHD

variable {κ σ η τ : Type}

def SftpChannel.zeroed (S : SftpServer σ) : SftpChannel σ where
  clientChannel := 0
  serverChannel := 0
  windowSize := 0
  windowMaxSize := 0
  peerWindowSize := 0
  peerMaxPacketSize := 0
  initialized := false
  eofSent := false
  closeSent := false
  sftpRx := .empty
  sftpTxPending := .empty
  sftp := S.zeroed

def TerminalChannel.zeroed (platform : τ) : TerminalChannel η τ where
  clientChannel := 0
  serverChannel := 0
  windowSize := 0
  windowMaxSize := 0
  peerWindowSize := 0
  peerMaxPacketSize := 0
  cols := 0
  rows := 0
  widthPx := 0
  heightPx := 0
  termType := []
  initialized := false
  ptyRequested := false
  running := false
  eofSent := false
  closeSent := false
  exitStatusSent := false
  state := .init
  termHandle := none
  platform := platform

section
variable {C α : Type} (L : LinkApi κ)

def nextRequest : Option ChannelRequest → Call (Conn κ×ChannelRequest) Err (Except Err Unit)
  | some firstRequest => do
    Call.modify fun s => (s.1,firstRequest)
    pure (.ok ())
  | none => Call.status (sshTransportReceiveChannelRequest L)

def requestFailure? : Except Err Unit → Option Err
  | .ok _ => none
  | .error e => if e=.unsupported then none else some e

/-- The loop of the accept functions. A request that answer has no result for is followed
by the next one; so is a malformed message behind channel data. -/
def requestLoop (serverChannel : Nat)
    (answer : Except Err Unit → ChannelRequest → Call (Conn κ×C) Err (Option α)) :
    Nat → Option ChannelRequest → Call ((Conn κ×ChannelRequest)×C) Err α
  | 0,_ => Call.fail .unsupported
  | attempts+1,firstRequest => do
    let status ← Call.onFst (nextRequest L firstRequest)
    let s ← Call.get
    match requestFailure? status with
    | some e =>
      if shouldToleratePreRequestMalformed s.1.1 e then
        requestLoop serverChannel answer attempts none
      else Call.fail e
    | none => do
      Call.require (status=.ok () → s.1.2.recipientChannel=serverChannel) .security
      let accepted ← Call.beside (answer status s.1.2)
      match accepted with
      | some a => pure a
      | none => requestLoop serverChannel answer attempts none

def refuseRequest (clientChannel : Nat) (request : ChannelRequest) : Call (Conn κ×C) Err Unit :=
  Call.onlyIf (shouldReplyFailureForNonSftpRequest request=true)
    (Call.ignore (Call.onFst (sshTransportSendChannelFailure L clientChannel)))
end

section
variable (L : LinkApi κ) (S : SftpServer σ)

def decideSftpRequest (effective : SessionOptions) (channelOpen : ChannelOpen)
    (status : Except Err Unit) (request : ChannelRequest) :
    Call (SftpState κ σ) Err (Option ChannelRequest) :=
  if status=.ok () ∧ channelRequestIsSubsystemName request
      (effective.sftpSubsystemName.getD sshSubsystemSftp)=true then pure (some request)
  else do
    refuseRequest L channelOpen.senderChannel request
    pure none

def SftpChannel.accepted (effective : SessionOptions) (channelOpen : ChannelOpen) (session : σ)
    (c : SftpChannel σ) : SftpChannel σ :=
  {c with
    clientChannel := channelOpen.senderChannel
    serverChannel := effective.serverChannel
    windowSize := effective.channelWindowSize
    windowMaxSize := effective.channelWindowSize
    peerWindowSize := channelOpen.initialWindowSize
    peerMaxPacketSize := channelOpen.maximumPacketSize
    initialized := true
    sftp := session}

def sftpAcceptAfterOpen (options : SessionOptions) (channelOpen : ChannelOpen)
    (firstRequest : Option ChannelRequest) : Call (SftpState κ σ) Err Unit := do
  Call.require (S.hasFs=true) .platform
  let effective := effectiveSessionOptions (some options)
  let request ← Call.withLocal {} (requestLoop L effective.serverChannel
    (decideSftpRequest L effective channelOpen) 8 firstRequest)
  Call.onlyIf (request.wantReply=true)
    (Call.onFst (sshTransportSendChannelSuccess L channelOpen.senderChannel))
  let session ← Call.lift S.sessionInit
  let session ← Call.lift (match S.setPolicy with
    | none => .ok session
    | some setPolicy => setPolicy session)
  Call.modify fun s => (s.1,s.2.accepted effective channelOpen session)
end

section
variable (L : LinkApi κ) (T : Option (TermApi η τ)) (authenticatedUsername : Bytes)

def onSpawn (c : Call (τ×Option η) Err Unit) : Call (TermState κ η τ) Err Unit :=
  ⟨fun s => ((c.run (s.2.platform,s.2.termHandle)).1,(s.1,{s.2 with
    platform := (c.run (s.2.platform,s.2.termHandle)).2.1
    termHandle := (c.run (s.2.platform,s.2.termHandle)).2.2}))⟩

def termSettings (c : TerminalChannel η τ) : TermSettings where
  username := if authenticatedUsername.length≠0 then some authenticatedUsername else none
  termType := if c.ptyRequested then some c.termType else none
  cols := c.cols
  rows := c.rows
  widthPx := c.widthPx
  heightPx := c.heightPx

def spawnTerminal (request : ChannelRequest) : Call (TermState κ η τ) Err Unit := do
  let s ← Call.get
  Call.require (s.2.running=false) .unsupported
  if viewEqualsCstr request.requestType sshChannelRequestShell then
    match T.bind TermApi.spawnShell with
    | none => Call.fail .unsupported
    | some spawnShell => onSpawn (spawnShell (termSettings authenticatedUsername s.2))
  else
    match T.bind TermApi.spawnExec with
    | none => Call.fail .unsupported
    | some spawnExec => do
      let command ← Call.lift (viewToCstring request.command 256)
      onSpawn (spawnExec command (termSettings authenticatedUsername s.2))

def replySuccess (clientChannel : Nat) (request : ChannelRequest) :
    Call (TermState κ η τ) Err Unit :=
  Call.onlyIf (request.wantReply=true)
    (Call.onFst (sshTransportSendChannelSuccess L clientChannel))

def replyFailure (clientChannel : Nat) (request : ChannelRequest) :
    Call (TermState κ η τ) Err Unit :=
  Call.onlyIf (request.wantReply=true)
    (Call.ignore (Call.onFst (sshTransportSendChannelFailure L clientChannel)))

def replyStatus (clientChannel : Nat) (request : ChannelRequest) (status : Except Err Unit) :
    Call (TermState κ η τ) Err Unit :=
  if status≠.ok () ∧ request.wantReply=true then replyFailure L clientChannel request
  else replySuccess L clientChannel request

def acceptPtyRequest (request : ChannelRequest) : Call (TermState κ η τ) Err Unit := do
  let termType ← Call.lift (viewToCstring request.termType 64)
  Call.modify fun t => (t.1,{resizeTo request t.2 with
    termType := termType
    ptyRequested := true
    state := .ptyConfigured})

def acceptSignalRequest (request : ChannelRequest) :
    Call (TermState κ η τ) Err (Except Err Unit) := do
  let s ← Call.get
  match runningWith T TermApi.signal s.2 with
  | none => pure (.ok ())
  | some (signal,handle) => do
    let signalName ← Call.lift (viewToCstring request.signalName 64)
    Call.status (onPlatform (signal handle signalName))

def decideTerminalRequest (clientChannel : Nat) (status : Except Err Unit)
    (request : ChannelRequest) : Call (TermState κ η τ) Err (Option Unit) :=
  if status≠.ok () then do
    refuseRequest L clientChannel request
    pure none
  else if viewEqualsCstr request.requestType sshChannelRequestPtyReq then do
    acceptPtyRequest request
    replySuccess L clientChannel request
    pure none
  else if viewEqualsCstr request.requestType sshChannelRequestEnv then do
    replySuccess L clientChannel request
    pure none
  else if viewEqualsCstr request.requestType sshChannelRequestWindowChange then do
    let resized ← Call.status (terminalWindowChange T request)
    replyStatus L clientChannel request resized
    pure none
  else if viewEqualsCstr request.requestType sshChannelRequestSignal then do
    let signalled ← acceptSignalRequest T request
    replyStatus L clientChannel request signalled
    pure none
  else if viewEqualsCstr request.requestType sshChannelRequestShell ||
      viewEqualsCstr request.requestType sshChannelRequestExec then do
    let spawned ← Call.status (spawnTerminal T authenticatedUsername request)
    if spawned=.ok () then do
      Call.modify fun t => (t.1,{t.2 with
        running := true
        state := .running})
      replySuccess L clientChannel request
      pure (some ())
    else do
      replyFailure L clientChannel request
      pure none
  else do
    refuseRequest L clientChannel request
    pure none

def TerminalChannel.opened (effective : SessionOptions) (channelOpen : ChannelOpen)
    (c : TerminalChannel η τ) : TerminalChannel η τ :=
  {c with
    clientChannel := channelOpen.senderChannel
    serverChannel := effective.serverChannel
    windowSize := effective.channelWindowSize
    windowMaxSize := effective.channelWindowSize
    peerWindowSize := channelOpen.initialWindowSize
    peerMaxPacketSize := channelOpen.maximumPacketSize
    initialized := true
    state := .sessionOpen}

def terminalAcceptAfterOpen (options : SessionOptions) (channelOpen : ChannelOpen)
    (firstRequest : Option ChannelRequest) : Call (TermState κ η τ) Err Unit := do
  Call.require ((T.bind TermApi.spawnShell).isSome=true ∨ (T.bind TermApi.spawnExec).isSome=true)
    .unsupported
  let effective := effectiveSessionOptions (some options)
  Call.modify fun s => (s.1,s.2.opened effective channelOpen)
  Call.withLocal {} (requestLoop L effective.serverChannel
    (decideTerminalRequest L T authenticatedUsername channelOpen.senderChannel) 16 firstRequest)
end

variable (L : LinkApi κ) (S : SftpServer σ) (T : Option (TermApi η τ))
  (authenticatedUsername : Bytes)

def receiveSessionOpen (effective : SessionOptions) : Call (Conn κ) Err ChannelOpen := do
  let channelOpen ← sshTransportReceiveChannelOpenSkipGlobalRequests L
  if sshChannelTypeIsSession channelOpen.channelType=false then do
    Call.ignore (sshTransportSendChannelOpenFailure L channelOpen.senderChannel
      sshOpenUnknownChannelType (cstr "unsupported channel type"))
    Call.fail .unsupported
  else do
    sshTransportSendChannelOpenConfirmation L channelOpen.senderChannel effective.serverChannel
      effective.channelWindowSize effective.channelMaxPacketSize
    pure channelOpen

def sshServerAcceptSftpChannel (options : Option SessionOptions) :
    Call (SftpState κ σ) Err Unit := do
  Call.require (S.hasFs=true) .platform
  let effective := effectiveSessionOptions options
  Call.modify fun s => (s.1,SftpChannel.zeroed S)
  let channelOpen ← Call.onFst (receiveSessionOpen L effective)
  sftpAcceptAfterOpen L S effective channelOpen none

def sshServerAcceptTerminalChannel (options : Option SessionOptions) :
    Call (TermState κ η τ) Err Unit := do
  let effective := effectiveSessionOptions options
  Call.modify fun s => (s.1,TerminalChannel.zeroed s.2.platform)
  let channelOpen ← Call.onFst (receiveSessionOpen L effective)
  terminalAcceptAfterOpen L T authenticatedUsername effective channelOpen none

/-- ssh_server_channel_kind_t without the value for no channel. -/
inductive ChannelKind where
  | sftp
  | terminal
  deriving DecidableEq

abbrev ServerState (κ σ η τ : Type) := Conn κ×(SftpChannel σ×TerminalChannel η τ)

/-- The hook of the caller before a channel is accepted. The one hook there is leaves the
session alone. -/
abbrev AcceptHook := Option (ChannelKind → Except Err Unit)

def runHook (beforeAccept : AcceptHook) (kind : ChannelKind) : Except Err Unit :=
  match beforeAccept with
  | none => .ok ()
  | some hook => hook kind

def decideAutoRequest (beforeAccept : AcceptHook) (effective : SessionOptions)
    (channelOpen : ChannelOpen) (status : Except Err Unit) (request : ChannelRequest) :
    Call (ServerState κ σ η τ) Err (Option ChannelKind) :=
  if status=.ok () ∧ channelRequestIsSubsystemName request
      (effective.sftpSubsystemName.getD sshSubsystemSftp)=true then do
    Call.lift (runHook beforeAccept .sftp)
    Call.onLeft (sftpAcceptAfterOpen L S effective channelOpen (some request))
    pure (some .sftp)
  else if status=.ok () ∧ sshChannelRequestIsTerminal request=true then do
    Call.lift (runHook beforeAccept .terminal)
    Call.onRight (terminalAcceptAfterOpen L T authenticatedUsername effective channelOpen
      (some request))
    pure (some .terminal)
  else do
    refuseRequest L channelOpen.senderChannel request
    pure none

/-- The result is kind_out. -/
def sshServerAcceptAutoChannel (beforeAccept : AcceptHook) (options : Option SessionOptions) :
    Call (ServerState κ σ η τ) Err ChannelKind := do
  let effective := effectiveSessionOptions options
  Call.modify fun s => (s.1,(SftpChannel.zeroed S,TerminalChannel.zeroed s.2.2.platform))
  let channelOpen ← Call.onFst (receiveSessionOpen L effective)
  Call.withLocal {} (requestLoop L effective.serverChannel
    (decideAutoRequest L S T authenticatedUsername beforeAccept effective channelOpen) 16 none)

inductive Entry where
  | sftp
  | terminal
  | auto (beforeAccept : AcceptHook)

def acceptChannel (entry : Entry) (options : Option SessionOptions) :
    Call (ServerState κ σ η τ) Err ChannelKind :=
  match entry with
  | .sftp => do
    Call.onLeft (sshServerAcceptSftpChannel L S options)
    pure .sftp
  | .terminal => do
    Call.onRight (sshServerAcceptTerminalChannel L T authenticatedUsername options)
    pure .terminal
  | .auto beforeAccept =>
    sshServerAcceptAutoChannel L S T authenticatedUsername beforeAccept options

def processChannelData (kind : ChannelKind) : Call (ServerState κ σ η τ) Err Unit :=
  match kind with
  | .sftp => Call.onLeft (sshServerProcessSftpChannelData L S)
  | .terminal => Call.onRight (sshServerProcessTerminalChannelData L T)

end EMSSHD
