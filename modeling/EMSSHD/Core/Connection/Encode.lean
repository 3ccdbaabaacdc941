import EMSSHD.Core.Connection.Decode
import EMSSHD.Core.Encoder
import EMSSHD.Framework.Failure

namespace EMSSHD

open Call

def sshOpenUnknownChannelType : Nat := 3
def sshOpenResourceShortage : Nat := 4
def sshGlobalRequestFailureEncode : Encoder := sshBufferPutU8 sshMsgRequestFailure

def sshChannelOpenConfirmationEncode (recipientChannel senderChannel initialWindowSize
    maximumPacketSize : Nat) : Encoder := do
  sshBufferPutU8 sshMsgChannelOpenConfirmation
  sshBufferPutU32 recipientChannel
  sshBufferPutU32 senderChannel
  sshBufferPutU32 initialWindowSize
  sshBufferPutU32 maximumPacketSize

def sshChannelOpenFailureEncode (recipientChannel reasonCode : Nat)
    (description languageTag : Bytes) : Encoder := do
  sshBufferPutU8 sshMsgChannelOpenFailure
  sshBufferPutU32 recipientChannel
  sshBufferPutU32 reasonCode
  sshBufferPutCstring description
  sshBufferPutCstring languageTag

def sshChannelRequestExitStatusEncode (recipientChannel : Nat) (wantReply : Bool)
    (exitStatus : Nat) : Encoder := do
  sshBufferPutU8 sshMsgChannelRequest
  sshBufferPutU32 recipientChannel
  sshBufferPutCstring (cstr "exit-status")
  sshBufferPutBool wantReply
  sshBufferPutU32 exitStatus

def sshChannelSimpleEncode (messageId : UInt8) (recipientChannel : Nat) : Encoder := do
  sshBufferPutU8 messageId
  sshBufferPutU32 recipientChannel

def sshChannelSuccessEncode (recipientChannel : Nat) : Encoder :=
  sshChannelSimpleEncode sshMsgChannelSuccess recipientChannel

def sshChannelFailureEncode (recipientChannel : Nat) : Encoder :=
  sshChannelSimpleEncode sshMsgChannelFailure recipientChannel

def sshChannelEofEncode (recipientChannel : Nat) : Encoder :=
  sshChannelSimpleEncode sshMsgChannelEof recipientChannel

def sshChannelCloseEncode (recipientChannel : Nat) : Encoder :=
  sshChannelSimpleEncode sshMsgChannelClose recipientChannel

def sshChannelWindowAdjustEncode (recipientChannel bytesToAdd : Nat) : Encoder := do
  Call.require (bytesToAdd≠0) .invalidArgument
  sshBufferPutU8 sshMsgChannelWindowAdjust
  sshBufferPutU32 recipientChannel
  sshBufferPutU32 bytesToAdd

def sshChannelDataEncode (recipientChannel : Nat) (data : Bytes) : Encoder := do
  sshBufferPutU8 sshMsgChannelData
  sshBufferPutU32 recipientChannel
  sshBufferPutString data

inductive ServerMessage where
  | requestFailure
  | openConfirmation (recipientChannel senderChannel initialWindowSize maximumPacketSize : Nat)
  | openFailure (recipientChannel reasonCode : Nat) (description : Bytes)
  | success (recipientChannel : Nat)
  | failure (recipientChannel : Nat)
  | windowAdjust (recipientChannel bytesToAdd : Nat)
  | data (recipientChannel : Nat) (bytes : Bytes)
  | eof (recipientChannel : Nat)
  | close (recipientChannel : Nat)
  | exitStatus (recipientChannel exitStatus : Nat)
  deriving DecidableEq

namespace ServerMessage

def encoder : ServerMessage → Encoder
  | requestFailure => sshGlobalRequestFailureEncode
  | openConfirmation recipient sender window packet =>
    sshChannelOpenConfirmationEncode recipient sender window packet
  | openFailure recipient reason description =>
    sshChannelOpenFailureEncode recipient reason description []
  | success recipient => sshChannelSuccessEncode recipient
  | failure recipient => sshChannelFailureEncode recipient
  | windowAdjust recipient bytesToAdd => sshChannelWindowAdjustEncode recipient bytesToAdd
  | data recipient bytes => sshChannelDataEncode recipient bytes
  | eof recipient => sshChannelEofEncode recipient
  | close recipient => sshChannelCloseEncode recipient
  | exitStatus recipient status => sshChannelRequestExitStatusEncode recipient false status

def capacity : ServerMessage → Nat
  | requestFailure => 8
  | openConfirmation .. => 64
  | openFailure .. => 256
  | success _ | failure _ | windowAdjust .. | eof _ | close _ => 16
  | data .. => emsshMaxPayloadSize+16
  | exitStatus .. => 32

def payload (m : ServerMessage) : Except Err Bytes :=
  match m.encoder.run (sshBufferInit (List.replicate m.capacity 0)) with
  | (.ok _,buffer) => .ok buffer.contents
  | (.error e,_) => .error e

def recipient? : ServerMessage → Option Nat
  | requestFailure | openConfirmation .. | openFailure .. => none
  | success recipient | failure recipient | windowAdjust recipient _ | data recipient _ |
    eof recipient | close recipient | exitStatus recipient _ => some recipient

variable {m : ServerMessage} {e : Err}

def EncodingError (e : Err) : Prop := e=.bufferOverflow ∨ e=.invalidArgument

lemma putRaw_fails (src : Bytes) : Fails EncodingError (putRaw src) :=
  .bind .get fun _ => .bind (.require (.inl rfl)) fun _ => .modify _

lemma putString_fails (data : Bytes) : Fails EncodingError (sshBufferPutString data) :=
  .bind (.require (.inr rfl)) fun _ => .bind (putRaw_fails _) fun _ => putRaw_fails _

lemma encoder_fails (m : ServerMessage) : Fails EncodingError m.encoder := by
  have hs (messageId : UInt8) (recipient : Nat) :
      Fails EncodingError (sshChannelSimpleEncode messageId recipient) :=
    .bind (putRaw_fails _) fun _ => putRaw_fails _
  cases m with
  | requestFailure => exact putRaw_fails _
  | openConfirmation recipient sender window packet =>
    exact .bind (putRaw_fails _) fun _ => .bind (putRaw_fails _) fun _ =>
      .bind (putRaw_fails _) fun _ => .bind (putRaw_fails _) fun _ => putRaw_fails _
  | openFailure recipient reason description =>
    exact .bind (putRaw_fails _) fun _ => .bind (putRaw_fails _) fun _ =>
      .bind (putRaw_fails _) fun _ => .bind (putString_fails _) fun _ => putString_fails _
  | success | failure | eof | close => exact hs _ _
  | windowAdjust recipient bytesToAdd =>
    exact .bind (.require (.inr rfl)) fun _ => .bind (putRaw_fails _) fun _ =>
      .bind (putRaw_fails _) fun _ => putRaw_fails _
  | data recipient bytes =>
    exact .bind (putRaw_fails _) fun _ => .bind (putRaw_fails _) fun _ => putString_fails _
  | exitStatus recipient status =>
    exact .bind (putRaw_fails _) fun _ => .bind (putRaw_fails _) fun _ =>
      .bind (putString_fails _) fun _ => .bind (putRaw_fails _) fun _ => putRaw_fails _

lemma payload_fails (h : m.payload=.error e) : EncodingError e := by
  have hf := encoder_fails m (sshBufferInit (List.replicate m.capacity 0))
  unfold payload at h
  rcases hr : m.encoder.run (sshBufferInit (List.replicate m.capacity 0)) with ⟨r,b⟩
  rw [hr] at h hf
  cases r with
  | ok _ => cases h
  | error x => exact hf e (by rw [← Except.error.inj h])

lemma payload_error (h : m.payload=.error e) : e≠.notFound := by
  rcases payload_fails h with rfl | rfl <;> decide
end ServerMessage

end EMSSHD
