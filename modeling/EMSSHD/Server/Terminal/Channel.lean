import EMSSHD.Server.Channel

namespace EMSSHD

structure TermSettings where
  username : Option Bytes
  termType : Option Bytes
  cols : Nat
  rows : Nat
  widthPx : Nat
  heightPx : Nat

/-- ssh_term_api_t; each function pointer may be NULL. Handles have type η, and τ is
whatever the platform keeps behind ctx. -/
structure TermApi (η τ : Type) where
  spawnShell : Option (TermSettings → Call (τ×Option η) Err Unit)
  spawnExec : Option ((command : Bytes) → TermSettings → Call (τ×Option η) Err Unit)
  write : Option (η → (buf : Bytes) → Call τ Err Nat)
  read : Option (η → (len : Nat) → Call τ Err Bytes)
  resize : Option (η → (cols rows widthPx heightPx : Nat) → Call τ Err Unit)
  signal : Option (η → (signalName : Bytes) → Call τ Err Unit)
  waitExit : Option (η → Call τ Err (Option Nat))

inductive TerminalState where
  | init
  | sessionOpen
  | ptyConfigured
  | running
  | closed
  deriving DecidableEq

/-- ssh_server_terminal_channel_t, with the platform's own state beside it. -/
structure TerminalChannel (η τ : Type) where
  clientChannel : Nat
  serverChannel : Nat
  windowSize : Nat
  windowMaxSize : Nat
  peerWindowSize : Nat
  peerMaxPacketSize : Nat
  cols : Nat
  rows : Nat
  widthPx : Nat
  heightPx : Nat
  termType : Bytes
  initialized : Bool
  ptyRequested : Bool
  running : Bool
  eofSent : Bool
  closeSent : Bool
  exitStatusSent : Bool
  state : TerminalState
  termHandle : Option η
  platform : τ

abbrev TermState (κ η τ : Type) := Conn κ×TerminalChannel η τ

def viewToCstring (view : StringView) (outCapacity : Nat) : Except Err Bytes :=
  match view with
  | none => .ok []
  | some bytes => if outCapacity<bytes.length+1 then .error .bufferTooSmall else .ok bytes

variable {κ η τ α : Type} (L : LinkApi κ) (T : Option (TermApi η τ))

def onPlatform (c : Call τ Err α) : Call (TermState κ η τ) Err α :=
  ⟨fun s => ((c.run s.2.platform).1,(s.1,{s.2 with platform := (c.run s.2.platform).2}))⟩

def terminalReceiveWindow : ReceiveWindow (TerminalChannel η τ) where
  clientChannel := TerminalChannel.clientChannel
  windowSize := TerminalChannel.windowSize
  windowMaxSize := TerminalChannel.windowMaxSize
  grow bytesToAdd c := {c with windowSize := c.windowSize+bytesToAdd}

def maybeReplenishTerminalReceiveWindow : Call (TermState κ η τ) Err Unit :=
  replenishReceiveWindow L terminalReceiveWindow

/-- A function of the platform on the handle of a running terminal; nothing when the
terminal is not running or the platform has no such function. -/
def runningWith {φ : Type} (f : TermApi η τ → Option φ) (c : TerminalChannel η τ) :
    Option (φ×η) :=
  match c.running,c.termHandle,T.bind f with
  | true,some handle,some f => some (f,handle)
  | _,_,_ => none

def sendExitStatusOnce (exitStatus : Nat) : Call (TermState κ η τ) Err Unit :=
  sendOnce (fun c => sshTransportSendChannelExitStatus L c.clientChannel exitStatus)
    TerminalChannel.exitStatusSent (fun c => {c with exitStatusSent := true})

def sendTerminalEofOnce : Call (TermState κ η τ) Err Unit :=
  sendOnce (fun c => sshTransportSendChannelEof L c.clientChannel)
    TerminalChannel.eofSent (fun c => {c with eofSent := true})

def sendTerminalCloseOnce : Call (TermState κ η τ) Err Unit :=
  sendOnce (fun c => sshTransportSendChannelClose L c.clientChannel)
    TerminalChannel.closeSent (fun c => {c with closeSent := true})

/-- The result is closed_now. -/
def maybeSendTerminalExitAndClose : Call (TermState κ η τ) Err Bool := do
  let s ← Call.get
  match runningWith T TermApi.waitExit s.2 with
  | none => pure false
  | some (waitExit,handle) => do
    let exited ← onPlatform (waitExit handle)
    match exited with
    | none => pure false
    | some exitStatus => do
      sendExitStatusOnce L exitStatus
      sendTerminalEofOnce L
      sendTerminalCloseOnce L
      Call.modify fun t => (t.1,{t.2 with
        state := .closed
        running := false})
      pure true

/-- The size of outbuf in maybe_pump_terminal_output. -/
def terminalOutbufSize : Nat := 2048

def pumpLen (c : TerminalChannel η τ) : Nat :=
  min (if c.peerMaxPacketSize≠0 then min c.peerWindowSize c.peerMaxPacketSize
    else c.peerWindowSize) terminalOutbufSize

def sendTerminalOutput (bytes : Bytes) : Call (TermState κ η τ) Err Unit := do
  let s ← Call.get
  Call.onFst (sshTransportSendChannelData L s.2.clientChannel bytes)
  Call.require (bytes.length ≤ s.2.peerWindowSize) .security
  Call.modify fun t => (t.1,{t.2 with peerWindowSize := t.2.peerWindowSize-bytes.length})

def pumpLoop (read : η → (len : Nat) → Call τ Err Bytes) (handle : η) :
    Nat → Call (TermState κ η τ) Err Unit
  | 0 => pure ()
  | rounds+1 => do
    let s ← Call.get
    if s.2.peerWindowSize=0 ∨ pumpLen s.2=0 then pure ()
    else do
      let status ← Call.status (onPlatform (read handle (pumpLen s.2)))
      match status with
      | .error e => if e=.notFound ∨ e=.unsupported then pure () else Call.fail e
      | .ok bytes =>
        if bytes.length=0 then pure ()
        else do
          sendTerminalOutput L bytes
          pumpLoop read handle rounds

def maybePumpTerminalOutput : Call (TermState κ η τ) Err Unit := do
  let s ← Call.get
  match runningWith T TermApi.read s.2 with
  | none => pure ()
  -- every round takes at least one byte off the window
  | some (read,handle) => pumpLoop L read handle s.2.peerWindowSize

def pumpAndFinish : Call (TermState κ η τ) Err Unit := do
  maybePumpTerminalOutput L T
  let closedNow ← maybeSendTerminalExitAndClose L T
  Call.require (closedNow=false) .closed

def resizeTo (request : ChannelRequest) (c : TerminalChannel η τ) : TerminalChannel η τ :=
  {c with
    cols := request.cols
    rows := request.rows
    widthPx := request.widthPx
    heightPx := request.heightPx}

def terminalWindowChange (request : ChannelRequest) : Call (TermState κ η τ) Err Unit := do
  Call.modify fun t => (t.1,resizeTo request t.2)
  let s ← Call.get
  match runningWith T TermApi.resize s.2 with
  | none => pure ()
  | some (resize,handle) => onPlatform (resize handle s.2.cols s.2.rows s.2.widthPx s.2.heightPx)

/-- request_status of a CHANNEL_REQUEST on an open terminal. -/
def terminalRequestStatus (request : ChannelRequest) : Call (TermState κ η τ) Err Unit :=
  if viewEqualsCstr request.requestType sshChannelRequestWindowChange then
    terminalWindowChange T request
  else if viewEqualsCstr request.requestType sshChannelRequestSignal then do
    let s ← Call.get
    match runningWith T TermApi.signal s.2 with
    | none => pure ()
    | some (signal,handle) => do
      let signalName ← Call.lift (viewToCstring request.signalName 64)
      onPlatform (signal handle signalName)
  else if viewEqualsCstr request.requestType sshChannelRequestEnv then pure ()
  else Call.fail .unsupported

def processTerminalRequest (request : ChannelRequest) : Call (TermState κ η τ) Err Unit := do
  let requestStatus ← Call.status (terminalRequestStatus T request)
  let s ← Call.get
  Call.onlyIf (request.wantReply=true)
    (if requestStatus=.ok () then
      Call.onFst (sshTransportSendChannelSuccess L s.2.clientChannel)
    else Call.onFst (sshTransportSendChannelFailure L s.2.clientChannel))
  Call.onlyIf (requestStatus=.ok ()) (pumpAndFinish L T)

def processTerminalData (data : Bytes) : Call (TermState κ η τ) Err Unit := do
  let s ← Call.get
  Call.require (data.length ≤ s.2.windowSize) .security
  Call.modify fun t => (t.1,{t.2 with windowSize := t.2.windowSize-data.length})
  maybeReplenishTerminalReceiveWindow L
  let t ← Call.get
  match runningWith T TermApi.write t.2 with
  | none => Call.fail .unsupported
  | some (write,handle) => do
    let writtenLen ← onPlatform (write handle data)
    Call.require (writtenLen≤data.length) .platform
    pumpAndFinish L T

def processTerminalMessage (message : ChannelMessage) : Call (TermState κ η τ) Err Unit := do
  let s ← Call.get
  Call.require (message.recipientChannel=s.2.serverChannel) .security
  if message.messageId=sshMsgChannelWindowAdjust then do
    Call.modify fun t => (t.1,{t.2 with
      peerWindowSize := addU32Saturating t.2.peerWindowSize message.windowBytes})
    pumpAndFinish L T
  else if message.messageId=sshMsgChannelRequest then
    processTerminalRequest L T message.channelRequest
  else if message.messageId=sshMsgChannelEof then pumpAndFinish L T
  else if message.messageId=sshMsgChannelClose then do
    sendTerminalCloseOnce L
    Call.modify fun t => (t.1,{t.2 with state := .closed})
    Call.fail .closed
  else if message.messageId=sshMsgChannelData then
    processTerminalData L T (message.data.getD [])
  else Call.fail .unsupported

def sshServerProcessTerminalChannelData : Call (TermState κ η τ) Err Unit := do
  let s ← Call.get
  Call.require (s.2.initialized=true) .invalidArgument
  pumpAndFinish L T
  let received ← Call.status
    (Call.onFst (sshTransportReceiveChannelMessage L emsshMaxPacketSize))
  match received with
  | .ok message => processTerminalMessage L T message
  | .error e =>
    if e=.notFound then do
      pumpAndFinish L T
      Call.fail .notFound
    else Call.fail e

end EMSSHD
