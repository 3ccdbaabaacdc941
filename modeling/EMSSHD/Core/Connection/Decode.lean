import EMSSHD.Core.Buffer

namespace EMSSHD

open Call

def sshMsgGlobalRequest : UInt8 := 80
def sshMsgRequestSuccess : UInt8 := 81
def sshMsgRequestFailure : UInt8 := 82
def sshMsgChannelOpen : UInt8 := 90
def sshMsgChannelOpenConfirmation : UInt8 := 91
def sshMsgChannelOpenFailure : UInt8 := 92
def sshMsgChannelWindowAdjust : UInt8 := 93
def sshMsgChannelData : UInt8 := 94
def sshMsgChannelExtendedData : UInt8 := 95
def sshMsgChannelEof : UInt8 := 96
def sshMsgChannelClose : UInt8 := 97
def sshMsgChannelRequest : UInt8 := 98
def sshMsgChannelSuccess : UInt8 := 99
def sshMsgChannelFailure : UInt8 := 100

def sshChannelTypeSession : Bytes := cstr "session"
def sshChannelRequestSubsystem : Bytes := cstr "subsystem"
def sshChannelRequestPtyReq : Bytes := cstr "pty-req"
def sshChannelRequestShell : Bytes := cstr "shell"
def sshChannelRequestExec : Bytes := cstr "exec"
def sshChannelRequestEnv : Bytes := cstr "env"
def sshChannelRequestWindowChange : Bytes := cstr "window-change"
def sshChannelRequestSignal : Bytes := cstr "signal"
def sshSubsystemSftp : Bytes := cstr "sftp"

structure ChannelOpen where
  channelType : StringView := none
  senderChannel : Nat := 0
  initialWindowSize : Nat := 0
  maximumPacketSize : Nat := 0
  deriving DecidableEq

structure ChannelRequest where
  recipientChannel : Nat := 0
  requestType : StringView := none
  wantReply : Bool := false
  subsystemName : StringView := none
  termType : StringView := none
  command : StringView := none
  envName : StringView := none
  envValue : StringView := none
  signalName : StringView := none
  ptyModes : StringView := none
  cols : Nat := 0
  rows : Nat := 0
  widthPx : Nat := 0
  heightPx : Nat := 0
  deriving DecidableEq

structure GlobalRequest where
  requestName : StringView := none
  wantReply : Bool := false
  deriving DecidableEq

structure ChannelMessage where
  messageId : UInt8 := 0
  recipientChannel : Nat := 0
  windowBytes : Nat := 0
  data : StringView := none
  channelRequest : ChannelRequest := {}
  deriving DecidableEq

/-- A decoder reads from a buffer and fills in a record. What it has filled in
stays there when it fails. -/
abbrev Decoder (ρ : Type) := Call (SshBuffer×ρ) Err

section
variable {ρ α : Type}

def readInto (get : Call SshBuffer Err α) (set : α → ρ → ρ) : Decoder ρ Unit := do
  let a ← Call.onFst get
  Call.modify fun s => (s.1,set a s.2)

def expectEnd (e : Err) : Decoder ρ Unit := do
  let s ← Call.get
  Call.require (sshBufferRemainingRead s.1=0) e

def decodePayload (d : Decoder ρ Unit) (zero : ρ) (payload : Bytes) : Except Err Unit×ρ :=
  let r := d.run (sshBufferWrap payload,zero)
  (r.1,r.2.2)

def decodedBy (d : Decoder ρ Unit) (zero : ρ) (payload : Bytes) : Except Err ρ :=
  (decodePayload d zero payload).1.map fun _ => (decodePayload d zero payload).2
end

variable {α ρ : Type} {b c : SshBuffer}

lemma decodedBy_ensures {d : Decoder ρ Unit} {zero a : ρ} {payload : Bytes} {P : ρ → Prop}
    (h : decodedBy d zero payload=.ok a)
    (hd : d.Ensures (sshBufferWrap payload,zero) (fun r t => r=.ok () → P t.2)) : P a := by
  unfold decodedBy decodePayload at h
  rcases hr : d.run (sshBufferWrap payload,zero) with ⟨e | u,t⟩
  · rw [hr] at h
    cases h
  rw [hr] at h
  rw [← Except.ok.inj h]
  exact hd.of_eq hr rfl

lemma onFst_run {get : Call SshBuffer Err α} {a : α} {r : ρ} (h : get.run b=(.ok a,c)) :
    (Call.onFst get).run (b,r)=(.ok a,(c,r)) := by
  rw [run_onFst,h]

lemma readInto_run {get : Call SshBuffer Err α} {set : α → ρ → ρ} {a : α} {r : ρ}
    (h : get.run b=(.ok a,c)) : (readInto get set).run (b,r)=(.ok (),(c,set a r)) := by
  rw [readInto,run_bind_ok (onFst_run h)]
  rfl

lemma expectEnd_run {r : ρ} (e : Err) (h : b.Unread []) :
    (expectEnd e : Decoder ρ Unit).run (b,r)=(.ok (),(b,r)) := by
  have hr : sshBufferRemainingRead (b,r).1=0 := h.remaining
  rw [expectEnd,run_bind_ok (run_get _)]
  exact run_require_of e (b,r) hr

def sshChannelOpenDecode : Decoder ChannelOpen Unit := do
  let messageId ← Call.onFst sshBufferGetU8
  Call.require (messageId=sshMsgChannelOpen) .malformedPacket
  readInto sshBufferGetStringView fun v o => {o with channelType := v}
  readInto sshBufferGetU32 fun v o => {o with senderChannel := v}
  readInto sshBufferGetU32 fun v o => {o with initialWindowSize := v}
  readInto sshBufferGetU32 fun v o => {o with maximumPacketSize := v}
  expectEnd .malformedPacket

def sshGlobalRequestDecode : Decoder GlobalRequest Unit := do
  let messageId ← Call.onFst sshBufferGetU8
  Call.require (messageId=sshMsgGlobalRequest) .malformedPacket
  readInto sshBufferGetStringView fun v r => {r with requestName := v}
  readInto sshBufferGetBool fun v r => {r with wantReply := v}

def channelRequestDecodeFields : Decoder ChannelRequest Unit := do
  readInto sshBufferGetU32 fun v r => {r with recipientChannel := v}
  readInto sshBufferGetStringView fun v r => {r with requestType := v}
  readInto sshBufferGetBool fun v r => {r with wantReply := v}
  let s ← Call.get
  let requestType := s.2.requestType
  if viewEqualsCstr requestType sshChannelRequestSubsystem then do
    readInto sshBufferGetStringView fun v r => {r with subsystemName := v}
    expectEnd .malformedPacket
  else if viewEqualsCstr requestType sshChannelRequestPtyReq then do
    Call.failAs .unsupported do
      readInto sshBufferGetStringView fun v r => {r with termType := v}
      readInto sshBufferGetU32 fun v r => {r with cols := v}
      readInto sshBufferGetU32 fun v r => {r with rows := v}
      readInto sshBufferGetU32 fun v r => {r with widthPx := v}
      readInto sshBufferGetU32 fun v r => {r with heightPx := v}
      readInto sshBufferGetStringView fun v r => {r with ptyModes := v}
    expectEnd .unsupported
  else if viewEqualsCstr requestType sshChannelRequestShell then
    expectEnd .unsupported
  else if viewEqualsCstr requestType sshChannelRequestExec then do
    Call.failAs .unsupported (readInto sshBufferGetStringView fun v r => {r with command := v})
    expectEnd .unsupported
  else if viewEqualsCstr requestType sshChannelRequestEnv then do
    Call.failAs .unsupported do
      readInto sshBufferGetStringView fun v r => {r with envName := v}
      readInto sshBufferGetStringView fun v r => {r with envValue := v}
    expectEnd .unsupported
  else if viewEqualsCstr requestType sshChannelRequestWindowChange then do
    Call.failAs .unsupported do
      readInto sshBufferGetU32 fun v r => {r with cols := v}
      readInto sshBufferGetU32 fun v r => {r with rows := v}
      readInto sshBufferGetU32 fun v r => {r with widthPx := v}
      readInto sshBufferGetU32 fun v r => {r with heightPx := v}
    expectEnd .unsupported
  else if viewEqualsCstr requestType sshChannelRequestSignal then do
    Call.failAs .unsupported (readInto sshBufferGetStringView fun v r => {r with signalName := v})
    expectEnd .unsupported
  else Call.fail .unsupported

def sshChannelRequestDecode : Decoder ChannelRequest Unit := do
  let messageId ← Call.onFst sshBufferGetU8
  Call.require (messageId=sshMsgChannelRequest) .malformedPacket
  channelRequestDecodeFields

/-- The CHANNEL_REQUEST branch of ssh_channel_message_decode, which parses the
request a second time instead of calling channel_request_decode_fields. -/
def channelMessageRequestFields : Decoder ChannelMessage Unit := do
  let set (f : ChannelRequest → ChannelRequest) (m : ChannelMessage) : ChannelMessage :=
    {m with channelRequest := f m.channelRequest}
  Call.modify fun s => (s.1,set (fun r => {r with recipientChannel := s.2.recipientChannel}) s.2)
  readInto sshBufferGetStringView fun v => set fun r => {r with requestType := v}
  readInto sshBufferGetBool fun v => set fun r => {r with wantReply := v}
  let s ← Call.get
  let requestType := s.2.channelRequest.requestType
  if viewEqualsCstr requestType sshChannelRequestSubsystem then do
    readInto sshBufferGetStringView fun v => set fun r => {r with subsystemName := v}
    expectEnd .malformedPacket
  else if viewEqualsCstr requestType sshChannelRequestPtyReq then do
    Call.failAs .unsupported do
      readInto sshBufferGetStringView fun v => set fun r => {r with termType := v}
      readInto sshBufferGetU32 fun v => set fun r => {r with cols := v}
      readInto sshBufferGetU32 fun v => set fun r => {r with rows := v}
      readInto sshBufferGetU32 fun v => set fun r => {r with widthPx := v}
      readInto sshBufferGetU32 fun v => set fun r => {r with heightPx := v}
      readInto sshBufferGetStringView fun v => set fun r => {r with ptyModes := v}
    expectEnd .unsupported
  else if viewEqualsCstr requestType sshChannelRequestShell then
    expectEnd .unsupported
  else if viewEqualsCstr requestType sshChannelRequestExec then do
    Call.failAs .unsupported
      (readInto sshBufferGetStringView fun v => set fun r => {r with command := v})
    expectEnd .unsupported
  else if viewEqualsCstr requestType sshChannelRequestEnv then do
    Call.failAs .unsupported do
      readInto sshBufferGetStringView fun v => set fun r => {r with envName := v}
      readInto sshBufferGetStringView fun v => set fun r => {r with envValue := v}
    expectEnd .unsupported
  else if viewEqualsCstr requestType sshChannelRequestWindowChange then do
    Call.failAs .unsupported do
      readInto sshBufferGetU32 fun v => set fun r => {r with cols := v}
      readInto sshBufferGetU32 fun v => set fun r => {r with rows := v}
      readInto sshBufferGetU32 fun v => set fun r => {r with widthPx := v}
      readInto sshBufferGetU32 fun v => set fun r => {r with heightPx := v}
    expectEnd .unsupported
  else if viewEqualsCstr requestType sshChannelRequestSignal then do
    Call.failAs .unsupported
      (readInto sshBufferGetStringView fun v => set fun r => {r with signalName := v})
    expectEnd .unsupported
  else Call.fail .unsupported

/-- The five message ids that ssh_channel_message_decode knows. -/
def isChannelMessageId (messageId : UInt8) : Prop :=
  messageId=sshMsgChannelWindowAdjust ∨ messageId=sshMsgChannelData ∨
  messageId=sshMsgChannelRequest ∨ messageId=sshMsgChannelEof ∨ messageId=sshMsgChannelClose

instance (messageId : UInt8) : Decidable (isChannelMessageId messageId) :=
  inferInstanceAs (Decidable (_ ∨ _ ∨ _ ∨ _ ∨ _))

def sshChannelMessageDecode : Decoder ChannelMessage Unit := do
  let messageId ← Call.onFst sshBufferGetU8
  Call.require (isChannelMessageId messageId) .unsupported
  Call.modify fun s => (s.1,{s.2 with messageId := messageId})
  readInto sshBufferGetU32 fun v m => {m with recipientChannel := v}
  if messageId=sshMsgChannelWindowAdjust then do
    readInto sshBufferGetU32 fun v m => {m with windowBytes := v}
    let s ← Call.get
    Call.require (s.2.windowBytes≠0) .malformedPacket
    expectEnd .malformedPacket
  else if messageId=sshMsgChannelRequest then
    channelMessageRequestFields
  else if messageId=sshMsgChannelData then do
    readInto sshBufferGetStringView fun v m => {m with data := v}
    expectEnd .malformedPacket
  else expectEnd .malformedPacket

def sshChannelTypeIsSession (channelType : StringView) : Bool :=
  viewEqualsCstr channelType sshChannelTypeSession

def sshChannelRequestIsTerminal (request : ChannelRequest) : Bool :=
  viewEqualsCstr request.requestType sshChannelRequestPtyReq ||
  viewEqualsCstr request.requestType sshChannelRequestShell ||
  viewEqualsCstr request.requestType sshChannelRequestExec ||
  viewEqualsCstr request.requestType sshChannelRequestEnv ||
  viewEqualsCstr request.requestType sshChannelRequestWindowChange ||
  viewEqualsCstr request.requestType sshChannelRequestSignal

/-- The status of ssh_channel_message_decode on a payload and the record it leaves. -/
def channelMessageOf (payload : Bytes) : Except Err Unit×ChannelMessage :=
  decodePayload sshChannelMessageDecode {} payload

lemma channelMessageOf_other {messageId : UInt8} {rest : Bytes}
    (h : ¬isChannelMessageId messageId) :
    (channelMessageOf (messageId::rest)).1=.error .unsupported := by
  obtain ⟨b,hb,_⟩ := getU8_unread (wrap_unread (messageId::rest))
  have hr : sshChannelMessageDecode.run (sshBufferWrap (messageId::rest),{})=
      (.error .unsupported,(b,{})) := by
    rw [sshChannelMessageDecode,run_bind_ok (onFst_run hb),run_bind_error (run_require_not _ _ h)]
  rw [channelMessageOf,decodePayload,hr]

lemma channelMessageOf_nil : (channelMessageOf []).1=.error .bufferUnderflow := rfl

/-- A CHANNEL_DATA payload as RFC 4254 lays it out. -/
def channelDataPayload (recipientChannel : Nat) (data : Bytes) : Bytes :=
  sshMsgChannelData::(beBytes 4 recipientChannel++(beBytes 4 data.length++data))

lemma channelMessageOf_data {recipientChannel : Nat} {data : Bytes}
    (hr : recipientChannel<2^32) (hd : data.length<2^32) :
    channelMessageOf (channelDataPayload recipientChannel data)=
      (.ok (),{messageId := sshMsgChannelData
               recipientChannel := recipientChannel
               data := some data}) := by
  have h0 := wrap_unread (channelDataPayload recipientChannel data)
  obtain ⟨b1,h1,hb1⟩ := getU8_unread h0
  obtain ⟨b2,h2,hb2⟩ := getU32_unread (beBytes_length 4 recipientChannel) hb1
  rw [beValue_beBytes_of_lt 4 _ hr] at h2
  rw [← append_nil data] at hb2
  have hl : (data++[]).length=data.length := by simp
  rw [hl] at hb2
  obtain ⟨b3,h3,hb3⟩ := getStringView_unread hd hb2
  have hid : isChannelMessageId sshMsgChannelData := by decide
  have hrn : sshChannelMessageDecode.run
      (sshBufferWrap (channelDataPayload recipientChannel data),{})=
      (.ok (),(b3,{messageId := sshMsgChannelData
                   recipientChannel := recipientChannel
                   data := some data})) := by
    rw [sshChannelMessageDecode,run_bind_ok (onFst_run h1),run_bind_ok (run_require_of _ _ hid),
      run_bind_ok (run_modify _ _),
      run_bind_ok (readInto_run h2),if_neg (by decide),if_neg (by decide),if_pos rfl,
      run_bind_ok (readInto_run h3)]
    exact expectEnd_run _ hb3
  rw [channelMessageOf,decodePayload,hrn]

end EMSSHD
