import EMSSHD.Core.Connection.Encode

namespace EMSSHD

def sshMsgDisconnect : UInt8 := 1
def sshMsgIgnore : UInt8 := 2
def sshMsgUnimplemented : UInt8 := 3
def sshMsgDebug : UInt8 := 4
def sshMsgKexinit : UInt8 := 20

def emsshMaxKexinitPayload : Nat := 2048
def emsshMaxChannelOpenPayload : Nat := 512
def emsshMaxChannelRequestPayload : Nat := 512
def emsshMaxChannelMessagePayload : Nat := emsshMaxPayloadSize+16

/-- What the channel layer uses of a transport session: the two protected payload
functions and the key re-exchange that a KEXINIT of the peer sets off. -/
structure LinkApi (κ : Type) where
  recv : (capacity : Nat) → Call κ Err Bytes
  send : (payload : Bytes) → Call κ Err Unit
  rekey : (kexinit : Bytes) → Call κ Err Unit
  send_error : ∀ payload k e t,(send payload).run k=(.error e,t) → e≠.notFound

/-- What happens on a channel, in order: payloads received, messages sent, SFTP
packets handled with their responses, and data refused for lack of room. -/
inductive Event where
  | received (payload : Bytes)
  | sent (message : ServerMessage)
  | handled (packet response : Bytes)
  | refused (data : Bytes)
  deriving DecidableEq

/-- A session as the channel layer sees it. The trace is not in the source; no
function reads it. -/
structure Conn (κ : Type) where
  link : κ
  trace : List Event
  lastReceivedMessageId : Option UInt8

section
variable {κ : Type} (L : LinkApi κ)

def onLink {α : Type} (c : Call κ Err α) : Call (Conn κ) Err α :=
  ⟨fun s => ((c.run s.link).1,{s with link := (c.run s.link).2})⟩

def note (e : Event) : Call (Conn κ) Err Unit :=
  Call.modify fun s => {s with trace := s.trace++[e]}

def receivePayload (capacity : Nat) : Call (Conn κ) Err Bytes := do
  let payload ← onLink (L.recv capacity)
  note (.received payload)
  pure payload

def sendMessage (m : ServerMessage) : Call (Conn κ) Err Unit := do
  let payload ← Call.lift m.payload
  onLink (L.send payload)
  note (.sent m)

def transportPayloadIsIgnorable (payload : Bytes) : Bool :=
  payload.head?=some sshMsgIgnore ∨ payload.head?=some sshMsgDebug ∨
  payload.head?=some sshMsgUnimplemented

def transportPayloadIsDisconnect (payload : Bytes) : Bool := payload.head?=some sshMsgDisconnect
def transportPayloadIsKexinit (payload : Bytes) : Bool := payload.head?=some sshMsgKexinit

def skipIgnorableLoop (payloadCapacity : Nat) : Nat → Call (Conn κ) Err Bytes
  | 0 => Call.fail .malformedPacket
  | tries+1 => do
    -- small payloads are received into the larger KEXINIT buffer first
    let payload ← receivePayload L (if payloadCapacity<emsshMaxKexinitPayload
      then emsshMaxKexinitPayload else payloadCapacity)
    Call.modify fun s => {s with
      lastReceivedMessageId := payload.head?.or s.lastReceivedMessageId}
    if transportPayloadIsDisconnect payload then Call.fail .closed
    else if transportPayloadIsKexinit payload then do
      onLink (L.rekey payload)
      skipIgnorableLoop payloadCapacity tries
    else if ¬transportPayloadIsIgnorable payload then do
      Call.require (payloadCapacity<emsshMaxKexinitPayload → payload.length≤payloadCapacity)
        .bufferTooSmall
      pure payload
    else skipIgnorableLoop payloadCapacity tries

def receiveProtectedPayloadSkipIgnorable (payloadCapacity : Nat) : Call (Conn κ) Err Bytes :=
  skipIgnorableLoop L payloadCapacity 8

def sshTransportSendGlobalRequestFailure : Call (Conn κ) Err Unit :=
  sendMessage L .requestFailure

def sshTransportSendChannelOpenConfirmation (recipientChannel senderChannel initialWindowSize
    maximumPacketSize : Nat) : Call (Conn κ) Err Unit :=
  sendMessage L (.openConfirmation recipientChannel senderChannel initialWindowSize
    maximumPacketSize)

def sshTransportSendChannelOpenFailure (recipientChannel reasonCode : Nat)
    (description : Bytes) : Call (Conn κ) Err Unit :=
  sendMessage L (.openFailure recipientChannel reasonCode description)

def sshTransportSendChannelSuccess (recipientChannel : Nat) : Call (Conn κ) Err Unit :=
  sendMessage L (.success recipientChannel)

def sshTransportSendChannelFailure (recipientChannel : Nat) : Call (Conn κ) Err Unit :=
  sendMessage L (.failure recipientChannel)

def sshTransportSendChannelWindowAdjust (recipientChannel bytesToAdd : Nat) :
    Call (Conn κ) Err Unit := do
  Call.require (bytesToAdd≠0) .invalidArgument
  sendMessage L (.windowAdjust recipientChannel bytesToAdd)

def sshTransportSendChannelEof (recipientChannel : Nat) : Call (Conn κ) Err Unit :=
  sendMessage L (.eof recipientChannel)

def sshTransportSendChannelClose (recipientChannel : Nat) : Call (Conn κ) Err Unit :=
  sendMessage L (.close recipientChannel)

def sshTransportSendChannelExitStatus (recipientChannel exitStatus : Nat) :
    Call (Conn κ) Err Unit :=
  sendMessage L (.exitStatus recipientChannel exitStatus)

def maxDataLen : Nat := emsshMaxPayloadSize-9

/-- The do loop of ssh_transport_send_channel_data; it runs once for empty data. -/
def sendChannelDataLoop (recipientChannel : Nat) : Nat → Bytes → Call (Conn κ) Err Unit
  | 0,_ => pure ()
  | rounds+1,rest => do
    sendMessage L (.data recipientChannel (rest.take maxDataLen))
    Call.onlyIf (maxDataLen < rest.length)
      (sendChannelDataLoop recipientChannel rounds (rest.drop maxDataLen))

def sshTransportSendChannelData (recipientChannel : Nat) (data : Bytes) :
    Call (Conn κ) Err Unit :=
  -- every round but the last takes bytes off, so these are rounds enough
  sendChannelDataLoop L recipientChannel (data.length+1) data

/-- Answer to a GLOBAL_REQUEST in a receive loop. -/
def answerGlobalRequest (payload : Bytes) : Call (Conn κ) Err Unit :=
  match decodePayload sshGlobalRequestDecode {} payload with
  | (.error e,_) => Call.fail e
  | (.ok _,request) => Call.onlyIf (request.wantReply=true) (sshTransportSendGlobalRequestFailure L)

/-- Answer to a second CHANNEL_OPEN in a receive loop. -/
def refuseChannelOpen (payload : Bytes) : Call (Conn κ) Err Unit :=
  match decodePayload sshChannelOpenDecode {} payload with
  | (.error e,_) => Call.fail e
  | (.ok _,channelOpen) =>
    sshTransportSendChannelOpenFailure L channelOpen.senderChannel sshOpenResourceShortage
      (cstr "additional channels are not supported in this session")
end

def channelRequestIsPuttyExtension (request : ChannelRequest) : Bool :=
  viewEqualsCstr request.requestType (cstr "simple@putty.projects.tartarus.org") ||
  viewEqualsCstr request.requestType (cstr "winadj@putty.projects.tartarus.org")

/-- The ids that ssh_transport_receive_channel_message passes over. -/
def isSkippedMessageId (messageId : UInt8) : Prop :=
  messageId=sshMsgChannelSuccess ∨ messageId=sshMsgChannelFailure ∨
  messageId=sshMsgRequestSuccess ∨ messageId=sshMsgRequestFailure ∨
  messageId=sshMsgChannelOpenConfirmation ∨ messageId=sshMsgChannelOpenFailure ∨
  messageId=sshMsgChannelExtendedData

instance (messageId : UInt8) : Decidable (isSkippedMessageId messageId) :=
  inferInstanceAs (Decidable (_ ∨ _ ∨ _ ∨ _ ∨ _ ∨ _ ∨ _))

def requestDiag (payload : Bytes) : ChannelRequest :=
  (decodePayload sshChannelRequestDecode {} payload).2

variable {κ : Type} (L : LinkApi κ)

/-- A request of unknown type: a failure is sent to the channel number the request
itself carries. Other messages that do not decode end the call with their status. -/
def handleUndecoded (payload : Bytes) (e : Err) : Call (Conn κ) Err Unit :=
  if e=.unsupported ∧ payload.headD 0=sshMsgChannelRequest ∧
      (requestDiag payload).requestType≠none then
    Call.onlyIf ((requestDiag payload).wantReply=true ∧
        ¬channelRequestIsPuttyExtension (requestDiag payload))
      (sshTransportSendChannelFailure L (requestDiag payload).recipientChannel)
  else Call.fail e

def receiveChannelMessageLoop : Nat → Call (Conn κ) Err ChannelMessage
  | 0 => Call.fail .unsupported
  | tries+1 => do
    let payload ← receiveProtectedPayloadSkipIgnorable L emsshMaxChannelMessagePayload
    Call.require (payload.length≠0) .malformedPacket
    if isSkippedMessageId (payload.headD 0) then receiveChannelMessageLoop tries
    else if payload.headD 0=sshMsgGlobalRequest then do
      answerGlobalRequest L payload
      receiveChannelMessageLoop tries
    else if payload.headD 0=sshMsgChannelOpen then do
      refuseChannelOpen L payload
      receiveChannelMessageLoop tries
    else match channelMessageOf payload with
      | (.ok _,message) => pure message
      | (.error e,_) => do
        handleUndecoded L payload e
        receiveChannelMessageLoop tries

def sshTransportReceiveChannelMessage (dataCapacity : Nat) : Call (Conn κ) Err ChannelMessage := do
  let message ← receiveChannelMessageLoop L 16
  Call.require (message.messageId=sshMsgChannelData → (message.data.getD []).length≤dataCapacity)
    .bufferTooSmall
  pure message

def receiveChannelOpenLoop : Nat → Call (Conn κ) Err ChannelOpen
  | 0 => Call.fail .unsupported
  | tries+1 => do
    let payload ← receiveProtectedPayloadSkipIgnorable L emsshMaxChannelOpenPayload
    Call.require (payload.length≠0) .malformedPacket
    if payload.headD 0=sshMsgChannelOpen then
      match decodePayload sshChannelOpenDecode {} payload with
      | (.ok _,channelOpen) => pure channelOpen
      | (.error e,_) => Call.fail e
    else if payload.headD 0=sshMsgGlobalRequest then do
      answerGlobalRequest L payload
      receiveChannelOpenLoop tries
    else Call.fail .malformedPacket

def sshTransportReceiveChannelOpenSkipGlobalRequests : Call (Conn κ) Err ChannelOpen :=
  receiveChannelOpenLoop L 8

def checkSimpleMessage (payload : Bytes) : Except Err Unit :=
  ((Call.failAs Err.malformedPacket (do
    let _ ← sshBufferGetU8
    let _ ← sshBufferGetU32
    let buf ← Call.get
    Call.require (sshBufferRemainingRead buf=0) .malformedPacket)).run (sshBufferWrap payload)).1

/-- The ids that ssh_transport_receive_channel_request passes over unread. -/
def isDroppedMessageId (messageId : UInt8) : Prop :=
  messageId=sshMsgChannelWindowAdjust ∨ messageId=sshMsgChannelData ∨
  messageId=sshMsgChannelExtendedData ∨ messageId=sshMsgRequestSuccess ∨
  messageId=sshMsgRequestFailure ∨ messageId=sshMsgChannelOpenConfirmation ∨
  messageId=sshMsgChannelOpenFailure

instance (messageId : UInt8) : Decidable (isDroppedMessageId messageId) :=
  inferInstanceAs (Decidable (_ ∨ _ ∨ _ ∨ _ ∨ _ ∨ _ ∨ _))

/-- The strings of a decoded request are views into channel_request_payload, which the next
payload overwrites from the front. Of an old request only the request type is looked at again;
it stands nine bytes into the buffer. -/
def ChannelRequest.overwritten (payload : Bytes) (request : ChannelRequest) : ChannelRequest :=
  {request with requestType := request.requestType.map fun name =>
    (payload.drop 9).take name.length++name.drop (payload.length-9)}

/-- The request record is the caller's: until a CHANNEL_REQUEST is decoded into it, it keeps its
old contents but for the bytes that its views show. -/
def receiveChannelRequestLoop : Nat → Call (Conn κ×ChannelRequest) Err Unit
  | 0 => Call.fail .unsupported
  | tries+1 => do
    let payload ← Call.onFst
      (receiveProtectedPayloadSkipIgnorable L emsshMaxChannelRequestPayload)
    Call.modify fun s => (s.1,s.2.overwritten payload)
    Call.require (payload.length≠0) .malformedPacket
    if payload.headD 0=sshMsgChannelRequest then do
      Call.modify fun s => (s.1,requestDiag payload)
      Call.lift (decodePayload sshChannelRequestDecode {} payload).1
    else if payload.headD 0=sshMsgChannelClose ∨ payload.headD 0=sshMsgChannelEof then do
      Call.lift (checkSimpleMessage payload)
      Call.fail .closed
    else if payload.headD 0=sshMsgGlobalRequest then do
      Call.onFst (answerGlobalRequest L payload)
      receiveChannelRequestLoop tries
    else if payload.headD 0=sshMsgChannelOpen then do
      Call.onFst (refuseChannelOpen L payload)
      receiveChannelRequestLoop tries
    else if payload.headD 0=sshMsgChannelSuccess ∨ payload.headD 0=sshMsgChannelFailure then do
      Call.lift (checkSimpleMessage payload)
      receiveChannelRequestLoop tries
    else if isDroppedMessageId (payload.headD 0) then receiveChannelRequestLoop tries
    else Call.fail .unsupported

def sshTransportReceiveChannelRequest : Call (Conn κ×ChannelRequest) Err Unit :=
  receiveChannelRequestLoop L 16

end EMSSHD
