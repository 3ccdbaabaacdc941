import EMSSHD.Core.Transport.Receive

namespace EMSSHD

def emsshDefaultChannelWindowSize : Nat := 65536
def emsshDefaultChannelMaxPacketSize : Nat := 32768

structure SessionOptions where
  serverChannel : Nat := 0
  channelWindowSize : Nat := emsshDefaultChannelWindowSize
  channelMaxPacketSize : Nat := emsshDefaultChannelMaxPacketSize
  sftpSubsystemName : StringView := some sshSubsystemSftp
  deriving DecidableEq

def effectiveSessionOptions (options : Option SessionOptions) : SessionOptions :=
  match options with
  | none => {}
  | some options => {
      serverChannel := options.serverChannel
      channelWindowSize := if options.channelWindowSize≠0 then options.channelWindowSize
        else emsshDefaultChannelWindowSize
      channelMaxPacketSize := if options.channelMaxPacketSize≠0
        then options.channelMaxPacketSize else emsshDefaultChannelMaxPacketSize
      sftpSubsystemName := options.sftpSubsystemName.or (some sshSubsystemSftp) }

def addU32Saturating (lhs rhs : Nat) : Nat := if uint32Max-lhs < rhs then uint32Max else lhs+rhs

lemma addU32Saturating_le (lhs rhs : Nat) : addU32Saturating lhs rhs≤lhs+rhs := by
  unfold addU32Saturating
  split_ifs <;> omega

lemma addU32Saturating_zero (lhs : Nat) : addU32Saturating lhs 0=lhs := by
  unfold addU32Saturating
  rw [if_neg (Nat.not_lt_zero _)]
  rfl

lemma addU32Saturating_of_le {lhs rhs : Nat} (h : lhs+rhs≤uint32Max) :
    addU32Saturating lhs rhs=lhs+rhs := by
  unfold addU32Saturating
  split_ifs <;> omega

def channelRequestIsSubsystemName (request : ChannelRequest) (subsystemName : Bytes) : Bool :=
  viewEqualsCstr request.requestType sshChannelRequestSubsystem &&
  viewEqualsCstr request.subsystemName subsystemName

def shouldReplyFailureForNonSftpRequest (request : ChannelRequest) : Bool :=
  request.wantReply && !channelRequestIsPuttyExtension request

/-- A malformed message before the first request is let pass when the last
payload was channel data. -/
def shouldToleratePreRequestMalformed {κ : Type} (transport : Conn κ) (status : Err) : Prop :=
  status=.malformedPacket ∧ (transport.lastReceivedMessageId=some sshMsgChannelData ∨
    transport.lastReceivedMessageId=some sshMsgChannelExtendedData)

instance {κ : Type} (transport : Conn κ) (status : Err) :
    Decidable (shouldToleratePreRequestMalformed transport status) :=
  inferInstanceAs (Decidable (_ ∧ (_ ∨ _)))

/-- The statuses after which the session loops of the server call again. -/
def Continues (r : Except Err Unit) : Prop := r=.ok () ∨ r=.error .notFound

section
def Event.message? : Event → Option ChannelMessage
  | .received payload =>
    match channelMessageOf payload with
    | (.ok _,message) => some message
    | (.error _,_) => none
  | _ => none

def messagesIn (evs : List Event) : List ChannelMessage := evs.filterMap Event.message?

def ChannelMessage.dataBytes (m : ChannelMessage) : Bytes :=
  if m.messageId=sshMsgChannelData then m.data.getD [] else []

def ChannelMessage.adjustBytes (channel : Nat) (m : ChannelMessage) : Nat :=
  if m.messageId=sshMsgChannelWindowAdjust ∧ m.recipientChannel=channel then m.windowBytes else 0

/-- All CHANNEL_DATA bytes received, in order. -/
def dataReceived (evs : List Event) : Bytes := (messagesIn evs).flatMap ChannelMessage.dataBytes

def adjustReceived (channel : Nat) (evs : List Event) : Nat :=
  ((messagesIn evs).map (ChannelMessage.adjustBytes channel)).sum

def Event.dataOut : Event → Bytes
  | .sent (.data _ bytes) => bytes
  | _ => []

/-- All CHANNEL_DATA bytes sent, in order. -/
def dataSent (evs : List Event) : Bytes := evs.flatMap Event.dataOut

def Event.packetIn : Event → Bytes
  | .handled packet _ => packet
  | _ => []

def Event.responseOut : Event → Bytes
  | .handled _ response => response
  | _ => []

def packetsHandled (evs : List Event) : Bytes := evs.flatMap Event.packetIn
def responsesMade (evs : List Event) : Bytes := evs.flatMap Event.responseOut

@[simp] lemma messagesIn_append (a b : List Event) :
    messagesIn (a++b)=messagesIn a++messagesIn b := filterMap_append

@[simp] lemma dataReceived_append (a b : List Event) :
    dataReceived (a++b)=dataReceived a++dataReceived b := by
  simp [dataReceived]

@[simp] lemma adjustReceived_append (channel : Nat) (a b : List Event) :
    adjustReceived channel (a++b)=adjustReceived channel a+adjustReceived channel b := by
  simp [adjustReceived]

@[simp] lemma dataSent_append (a b : List Event) :
    dataSent (a++b)=dataSent a++dataSent b := flatMap_append

@[simp] lemma packetsHandled_append (a b : List Event) :
    packetsHandled (a++b)=packetsHandled a++packetsHandled b := flatMap_append

@[simp] lemma responsesMade_append (a b : List Event) :
    responsesMade (a++b)=responsesMade a++responsesMade b := flatMap_append

lemma messagesIn_received {payload : Bytes} {m : ChannelMessage}
    (h : channelMessageOf payload=(.ok (),m)) : messagesIn [.received payload]=[m] := by
  simp [messagesIn,Event.message?,h]

variable {evs : List Event}

lemma Skimmed.messagesIn (h : Skimmed evs) : messagesIn evs=[] := by
  apply filterMap_eq_nil_iff.mpr
  intro e he
  rcases h e he with ⟨payload,rfl,hu⟩ | ⟨m,rfl,_⟩
  · rcases hd : channelMessageOf payload with ⟨e | u,m⟩
    · simp only [Event.message?,hd]
    · exact absurd (by rw [hd]) hu
  · rfl

def Quiet (evs : List Event) : Prop :=
  ∀ e∈evs,e.dataOut=[] ∧ ∀ packet response,e≠.handled packet response

lemma Quiet.append {later : List Event} (h : Quiet evs) (hl : Quiet later) :
    Quiet (evs++later) := forall_mem_append.mpr ⟨h,hl⟩

lemma Quiet.sent (h : Quiet evs) : dataSent evs=[] :=
  flatMap_eq_nil_iff.mpr fun e he => (h e he).1

lemma Quiet.handled (h : Quiet evs) : packetsHandled evs=[] := by
  apply flatMap_eq_nil_iff.mpr
  intro e he
  cases e with
  | handled packet response => exact absurd rfl ((h _ he).2 packet response)
  | _ => rfl

lemma Quiet.made (h : Quiet evs) : responsesMade evs=[] := by
  apply flatMap_eq_nil_iff.mpr
  intro e he
  cases e with
  | handled packet response => exact absurd rfl ((h _ he).2 packet response)
  | _ => rfl

lemma quiet_received (payload : Bytes) : Quiet [.received payload] := by
  intro e he
  rw [mem_singleton.mp he]
  exact ⟨rfl,nofun⟩

lemma Skimmed.quiet (h : Skimmed evs) : Quiet evs := by
  intro e he
  rcases h e he with ⟨payload,rfl,_⟩ | ⟨m,rfl,hm⟩
  · exact ⟨rfl,nofun⟩
  rcases hm with rfl | ⟨_,_,_,rfl⟩ | ⟨_,_,_,_,rfl⟩
  all_goals exact ⟨rfl,nofun⟩

def newEvents {κ : Type} (s t : Conn κ) : List Event := t.trace.drop s.trace.length

lemma newEvents_eq {κ : Type} {s t : Conn κ} (h : t.trace=s.trace++evs) : newEvents s t=evs := by
  rw [newEvents,h,drop_left]

lemma dataSent_dataEvents (recipient : Nat) (chunks : List Bytes) :
    dataSent (dataEvents recipient chunks)=chunks.flatten := by
  induction chunks with
  | nil => rfl
  | cons chunk chunks ih =>
    rw [flatten_cons,← ih]
    rfl
end

/-- Data that went out to the client in messages of at most maxPacket bytes, without
limit when that is 0: all of the data, or a first part of it when the call has failed. -/
structure DataOut (client maxPacket : Nat) (data : Bytes) (r : Except Err Unit)
    (evs : List Event) : Prop where
  sends : ∀ e∈evs,∃ bytes,e=.sent (.data client bytes) ∧ (maxPacket≠0 → bytes.length ≤ maxPacket)
  front : dataSent evs<+:data
  whole : r=.ok () → dataSent evs=data
  status : r≠.error .notFound

variable {client maxPacket : Nat} {data : Bytes} {r : Except Err Unit}

lemma DataOut.of_chunks {left : Bytes} {chunks : List Bytes} (hs : chunks.flatten++left=data)
    (hm : maxPacket≠0 → ∀ chunk∈chunks,chunk.length ≤ maxPacket) (hok : r=.ok () → left=[])
    (hn : r≠.error .notFound) : DataOut client maxPacket data r (dataEvents client chunks) := by
  constructor
  · intro e he
    obtain ⟨chunk,hc,rfl⟩ := mem_map.mp he
    exact ⟨chunk,rfl,fun h => hm h chunk hc⟩
  · rw [dataSent_dataEvents]
    exact ⟨left,hs⟩
  · intro hr
    rw [dataSent_dataEvents,← hs,hok hr,append_nil]
  · exact hn

lemma sendChannelData_out {κ : Type} (L : LinkApi κ) (client maxPacket : Nat)
    (data : Bytes) (h : maxPacket≠0 → data.length ≤ maxPacket) :
    Call.Emits Conn.trace (sshTransportSendChannelData L client data)
      (DataOut client maxPacket data) := by
  apply (sendChannelDataLoop_emits L client _ data (Nat.lt_succ_self _)).mono
  rintro r evs ⟨chunks,left,rfl,hs,hok,hn⟩
  apply DataOut.of_chunks hs ?_ hok hn
  intro hm chunk hc
  have hle : chunk.length ≤ chunks.flatten.length := (List.sublist_flatten_of_mem hc).length_le
  have hl := congrArg List.length hs
  have hd := h hm
  rw [length_append] at hl
  omega

lemma DataOut.quiet {evs : List Event} (h : DataOut client maxPacket data r evs) :
    packetsHandled evs=[] ∧ responsesMade evs=[] ∧ messagesIn evs=[] := by
  refine ⟨flatMap_eq_nil_iff.mpr ?_,flatMap_eq_nil_iff.mpr ?_,filterMap_eq_nil_iff.mpr ?_⟩
  all_goals
    intro e he
    obtain ⟨bytes,rfl,_⟩ := h.sends e he
    rfl

/-- A session that plays back a list of receive results and then times out, and that
takes everything it is given to send. -/
def scriptLink : LinkApi (List (Except Err Bytes)) where
  recv _ := ⟨fun script => match script with
    | [] => (.error .notFound,[])
    | r::rest => (r,rest)⟩
  send _ := pure ()
  rekey _ := pure ()
  send_error _ _ _ _ h := by cases h

def Conn.start (script : List (Except Err Bytes)) : Conn (List (Except Err Bytes)) :=
  ⟨script,[],none⟩

end EMSSHD
