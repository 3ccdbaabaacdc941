import EMSSHD.Server.Channel

namespace EMSSHD

/-- The SFTP server under a channel: whether the platform has a file system for it, and
its session functions. Its failures are those of its buffers and arguments; what a file
operation reports goes into the response. -/
structure SftpServer (σ : Type) where
  hasFs : Bool
  zeroed : σ
  sessionInit : Except Err σ
  setPolicy : Option (σ → Except Err σ)
  handlePacket : (packet : Bytes) → Call σ Err Bytes
  handle_error : ∀ packet s e t,(handlePacket packet).run s=(.error e,t) → e≠.notFound

/-- ssh_server_sftp_channel_t; the two arrays with their lengths are bounded byte
strings. -/
structure SftpChannel (σ : Type) where
  clientChannel : Nat
  serverChannel : Nat
  windowSize : Nat
  windowMaxSize : Nat
  peerWindowSize : Nat
  peerMaxPacketSize : Nat
  initialized : Bool
  eofSent : Bool
  closeSent : Bool
  sftpRx : Bounded emsshSftpMaxPacketSize
  sftpTxPending : Bounded emsshSftpMaxPacketSize
  sftp : σ

abbrev SftpState (κ σ : Type) := Conn κ×SftpChannel σ

variable {κ σ : Type} (L : LinkApi κ) (S : SftpServer σ)

def sftpReceiveWindow : ReceiveWindow (SftpChannel σ) where
  clientChannel := SftpChannel.clientChannel
  windowSize := SftpChannel.windowSize
  windowMaxSize := SftpChannel.windowMaxSize
  grow bytesToAdd c := {c with windowSize := c.windowSize+bytesToAdd}

def maybeReplenishReceiveWindow : Call (SftpState κ σ) Err Unit :=
  replenishReceiveWindow L sftpReceiveWindow

def flushLen (c : SftpChannel σ) : Nat :=
  let sendLen := if c.peerWindowSize<c.sftpTxPending.bytes.length then c.peerWindowSize
    else c.sftpTxPending.bytes.length
  if c.peerMaxPacketSize≠0 ∧ c.peerMaxPacketSize<sendLen then c.peerMaxPacketSize else sendLen

def flushLoop : Nat → Call (SftpState κ σ) Err Unit
  | 0 => pure ()
  | rounds+1 => do
    let s ← Call.get
    if s.2.sftpTxPending.bytes.length≠0 ∧ s.2.peerWindowSize≠0 ∧ flushLen s.2≠0 then do
      Call.onFst (sshTransportSendChannelData L s.2.clientChannel
        (s.2.sftpTxPending.bytes.take (flushLen s.2)))
      Call.modify fun t => (t.1,{t.2 with
        peerWindowSize := t.2.peerWindowSize-flushLen s.2
        sftpTxPending := t.2.sftpTxPending.drop (flushLen s.2)})
      flushLoop rounds
    else pure ()

def maybeFlushPendingSftpResponse : Call (SftpState κ σ) Err Unit := do
  let s ← Call.get
  -- every round sends at least one byte
  flushLoop L s.2.sftpTxPending.bytes.length
  let t ← Call.get
  Call.require (t.2.sftpTxPending.bytes.length=0) .notFound

/-- sftp_server_handle_packet on the channel's own SFTP session. -/
def handleSftpPacket (packet : Bytes) : Call (SftpState κ σ) Err Bytes :=
  ⟨fun s => match (S.handlePacket packet).run s.2.sftp with
    | (.ok response,t) =>
      (.ok response,({s.1 with trace := s.1.trace++[.handled packet response]},
        {s.2 with sftp := t}))
    | (.error e,t) => (.error e,(s.1,{s.2 with sftp := t}))⟩

def storePending (response : Bytes) : Call (SftpState κ σ) Err Unit :=
  if h : response.length≤emsshSftpMaxPacketSize then
    Call.modify fun s => (s.1,{s.2 with sftpTxPending := ⟨response,h⟩})
  else Call.fail .bufferTooSmall

def appendRx (data : Bytes) : Call (SftpState κ σ) Err Unit :=
  ⟨fun s =>
    if h : data.length≤emsshSftpMaxPacketSize-s.2.sftpRx.bytes.length then
      (.ok (),(s.1,{s.2 with sftpRx := s.2.sftpRx.append data h}))
    else (.error .bufferTooSmall,({s.1 with trace := s.1.trace++[.refused data]},s.2))⟩

def sendResponseLoop (clientChannel peerMaxPacketSize : Nat) : Nat → Bytes → Call (Conn κ) Err Unit
  | 0,_ => pure ()
  | rounds+1,rest =>
    if rest.length=0 then pure ()
    else do
      let chunkLen := if peerMaxPacketSize≠0 ∧ peerMaxPacketSize < rest.length
        then peerMaxPacketSize else rest.length
      Call.require (chunkLen≠0) .bufferTooSmall
      sshTransportSendChannelData L clientChannel (rest.take chunkLen)
      sendResponseLoop clientChannel peerMaxPacketSize rounds (rest.drop chunkLen)

def serveLoop : Nat → Call (SftpState κ σ) Err Unit
  | 0 => pure ()
  | rounds+1 => do
    let s ← Call.get
    let rx := s.2.sftpRx.bytes
    if rx.length<4 then pure ()
    else do
      let sftpPacketLength := beValue (rx.take 4)
      Call.require (sftpPacketLength≠0 ∧ sftpPacketLength≤emsshSftpMaxPacketSize-4) .malformedPacket
      let sftpWireLen := sftpPacketLength+4
      if rx.length<sftpWireLen then pure ()
      else do
        let response ← handleSftpPacket S (rx.take sftpWireLen)
        Call.modify fun t => (t.1,{t.2 with sftpRx := t.2.sftpRx.drop sftpWireLen})
        if s.2.peerWindowSize < response.length then do
          storePending response
          maybeFlushPendingSftpResponse L
        else do
          Call.onFst (sendResponseLoop L s.2.clientChannel s.2.peerMaxPacketSize
            response.length response)
          Call.modify fun t => (t.1,{t.2 with
            peerWindowSize := t.2.peerWindowSize-response.length})
          serveLoop rounds

def serveSftp : Call (SftpState κ σ) Err Unit := do
  maybeFlushPendingSftpResponse L
  let s ← Call.get
  -- a packet takes at least five bytes off the buffer
  serveLoop L S s.2.sftpRx.bytes.length

def SftpChannel.withEof (c : SftpChannel σ) : SftpChannel σ := {c with eofSent := true}
def SftpChannel.withClose (c : SftpChannel σ) : SftpChannel σ := {c with closeSent := true}

def sendEofOnce : Call (SftpState κ σ) Err Unit :=
  sendOnce (fun c => sshTransportSendChannelEof L c.clientChannel) SftpChannel.eofSent
    SftpChannel.withEof

def sendCloseOnce : Call (SftpState κ σ) Err Unit :=
  sendOnce (fun c => sshTransportSendChannelClose L c.clientChannel) SftpChannel.closeSent
    SftpChannel.withClose

def processSftpData (data : Bytes) : Call (SftpState κ σ) Err Unit := do
  let s ← Call.get
  Call.require (data.length ≤ s.2.windowSize) .security
  Call.modify fun t => (t.1,{t.2 with windowSize := t.2.windowSize-data.length})
  maybeReplenishReceiveWindow L
  appendRx data
  serveSftp L S

def processSftpMessage (message : ChannelMessage) : Call (SftpState κ σ) Err Unit := do
  let s ← Call.get
  Call.require (message.recipientChannel=s.2.serverChannel) .security
  if message.messageId=sshMsgChannelWindowAdjust then do
    Call.modify fun t => (t.1,{t.2 with
      peerWindowSize := addU32Saturating t.2.peerWindowSize message.windowBytes})
    -- with nothing in the receive buffer the pending response is not looked at
    Call.onlyIf (s.2.sftpRx.bytes.length≠0) (serveSftp L S)
  else if message.messageId=sshMsgChannelRequest then
    Call.onlyIf (shouldReplyFailureForNonSftpRequest message.channelRequest=true)
      (Call.onFst (sshTransportSendChannelFailure L s.2.clientChannel))
  else if message.messageId=sshMsgChannelEof then do
    sendEofOnce L
    sendCloseOnce L
  else if message.messageId=sshMsgChannelClose then do
    sendCloseOnce L
    Call.fail .closed
  else if message.messageId=sshMsgChannelData then
    processSftpData L S (message.data.getD [])
  else Call.fail .unsupported

def processSftpTimeout : Call (SftpState κ σ) Err Unit := do
  let s ← Call.get
  if s.2.sftpRx.bytes.length≠0 then serveSftp L S
  else if s.2.closeSent then Call.fail .closed
  else Call.fail .notFound

def sshServerProcessSftpChannelData : Call (SftpState κ σ) Err Unit := do
  let s ← Call.get
  Call.require (s.2.initialized=true) .invalidArgument
  let received ← Call.status
    (Call.onFst (sshTransportReceiveChannelMessage L emsshMaxPacketSize))
  match received with
  | .ok message => processSftpMessage L S message
  | .error e => if e=.notFound then processSftpTimeout L S else Call.fail e

end EMSSHD
