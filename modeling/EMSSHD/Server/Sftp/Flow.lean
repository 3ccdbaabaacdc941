import EMSSHD.Server.Sftp.Step
import EMSSHD.Server.Window

namespace EMSSHD

variable {κ σ : Type}

structure ChannelFlow where
  clientChannel : Nat
  serverChannel : Nat
  peerMaxPacketSize : Nat
  peerWindowSize : Nat
  sftpRx : Bytes
  sftpTxPending : Bytes

def SftpChannel.flow (c : SftpChannel σ) : ChannelFlow :=
  ⟨c.clientChannel,c.serverChannel,c.peerMaxPacketSize,c.peerWindowSize,c.sftpRx.bytes,
    c.sftpTxPending.bytes⟩

/-- Answers that leave the streams alone: messages to the client other than data. -/
structure Answers (s u : SftpState κ σ) (evs : List Event) : Prop where
  trace : u.1.trace=s.1.trace++evs
  flow : u.2.flow=s.2.flow
  sends : ∀ e∈evs,∃ m,e=.sent m ∧ m.recipient?=some s.2.clientChannel ∧ e.dataOut=[]

lemma Answers.refl (s : SftpState κ σ) : Answers s s [] :=
  ⟨(append_nil _).symm,rfl,forall_mem_nil _⟩

variable {s t u : SftpState κ σ} {evs front later : List Event} {r : Except Err Unit}
  {m : ChannelMessage}

lemma Answers.trans (h : Answers s t evs) (hl : Answers t u later) : Answers s u (evs++later) := by
  constructor
  · rw [hl.trace,h.trace,append_assoc]
  · rw [hl.flow,h.flow]
  have hc : t.2.clientChannel=s.2.clientChannel := congrArg ChannelFlow.clientChannel h.flow
  intro e he
  rcases mem_append.mp he with he | he
  · exact h.sends e he
  have hs := hl.sends e he
  rwa [hc] at hs

lemma Answers.quiet (h : Answers s u evs) : Quiet evs := by
  intro e he
  obtain ⟨m,rfl,_,hd⟩ := h.sends e he
  exact ⟨hd,nofun⟩

lemma Answers.messagesIn (h : Answers s u evs) : messagesIn evs=[] := by
  apply filterMap_eq_nil_iff.mpr
  intro e he
  obtain ⟨m,rfl,_,_⟩ := h.sends e he
  rfl

lemma answers_sent {m : ServerMessage} (hm : m.recipient?=some s.2.clientChannel)
    (hd : (Event.sent m).dataOut=[]) (ht : u.1.trace=s.1.trace++[.sent m])
    (hf : u.2.flow=s.2.flow) : Answers s u [.sent m] := by
  refine ⟨ht,hf,?_⟩
  intro e he
  rw [mem_singleton.mp he]
  exact ⟨m,rfl,hm,hd⟩

lemma Grown.answers (h : Grown s u []) : Answers s u [] :=
  ⟨h.trace,by rw [h.channel],forall_mem_nil _⟩

lemma Replied.answers (h : Replied (.failure s.2.clientChannel) s r u) : ∃ evs,Answers s u evs := by
  cases h with
  | sent h => exact ⟨_,answers_sent rfl rfl h.trace (by rw [h.channel])⟩
  | failed he h => exact ⟨[],h.answers⟩

lemma Once.answers {m : ServerMessage} {flag : Bool} {set : SftpChannel σ → SftpChannel σ}
    (h : Once m flag set s r u) (hm : m.recipient?=some s.2.clientChannel)
    (hd : (Event.sent m).dataOut=[]) (hs : ∀ c : SftpChannel σ,(set c).flow=c.flow) :
    ∃ evs,Answers s u evs := by
  cases h with
  | already _ => exact ⟨[],Answers.refl s⟩
  | sent _ ht hc => exact ⟨_,answers_sent hm hd ht (by rw [hc,hs])⟩
  | failed _ _ hg => exact ⟨[],hg.answers⟩

lemma Replenish.answers (h : Replenish sftpReceiveWindow s r u) : ∃ evs,Answers s u evs := by
  cases h with
  | enough _ => exact ⟨[],Answers.refl s⟩
  | granted _ ht hc => exact ⟨_,answers_sent rfl rfl ht (by rw [hc]; rfl)⟩
  | failed _ hg => exact ⟨[],hg.answers⟩

lemma Answers.undebited {n : Nat} (h : Answers (s.debited n) t evs) :
    Answers s t evs := ⟨h.trace,h.flow,h.sends⟩

lemma not_continues {e : Err} (he : e≠.notFound) : ¬Continues (.error e) := by
  rintro (h | h)
  · cases h
  cases h
  exact he rfl

def SftpState.refused (s : SftpState κ σ) (data : Bytes) : SftpState κ σ :=
  ({s.1 with trace := s.1.trace++[.refused data]},s.2)

/-- The effect of a message on the streams: answers alone, credit, or data. -/
inductive MessageEffect (s : SftpState κ σ) (m : ChannelMessage) :
    Except Err Unit → SftpState κ σ → Prop
  | answered {r : Except Err Unit} {u : SftpState κ σ} {evs : List Event} (ha : Answers s u evs)
    (hid : Continues r →
      m.messageId≠sshMsgChannelData ∧ m.messageId≠sshMsgChannelWindowAdjust) :
    MessageEffect s m r u
  | credited (hid : m.messageId=sshMsgChannelWindowAdjust) (hrx : s.2.sftpRx.bytes=[]) :
    MessageEffect s m (.ok ()) (s.adjusted m.windowBytes)
  | creditServed {r : Except Err Unit} {u : SftpState κ σ}
    (hid : m.messageId=sshMsgChannelWindowAdjust) (hrx : s.2.sftpRx.bytes≠[])
    (ho : ServeOutcome (s.adjusted m.windowBytes) r u) : MessageEffect s m r u
  | dataRefused {t : SftpState κ σ} {evs : List Event} (hid : m.messageId=sshMsgChannelData)
    (hw : (m.data.getD []).length ≤ s.2.windowSize) (ha : Answers s t evs)
    (hroom : ¬(m.data.getD []).length≤emsshSftpMaxPacketSize-t.2.sftpRx.bytes.length) :
    MessageEffect s m (.error .bufferTooSmall) (t.refused (m.data.getD []))
  | dataServed {r : Except Err Unit} {t u : SftpState κ σ} {evs : List Event}
    (hid : m.messageId=sshMsgChannelData) (ha : Answers s t evs)
    (hroom : (m.data.getD []).length≤emsshSftpMaxPacketSize-t.2.sftpRx.bytes.length)
    (ho : ServeOutcome (t.buffered (m.data.getD []) hroom) r u) : MessageEffect s m r u

lemma OnMessage.effect (h : OnMessage s m r u) : MessageEffect s m r u := by
  cases h with
  | adjust hid hrx => exact .credited hid hrx
  | adjustServe hid hrx ho => exact .creditServed hid hrx ho
  | request hid hq =>
    apply MessageEffect.answered (Answers.refl s)
    intro _
    rw [hid]
    decide
  | requestRefused hid hq ho =>
    obtain ⟨evs,ha⟩ := ho.answers
    apply MessageEffect.answered ha
    intro _
    rw [hid]
    decide
  | eof hid he hc =>
    obtain ⟨first,ha⟩ := he.answers rfl rfl fun _ => rfl
    obtain ⟨second,hb⟩ := hc.answers rfl rfl fun _ => rfl
    apply MessageEffect.answered (ha.trans hb)
    intro _
    rw [hid]
    decide
  | eofFailed hid he =>
    obtain ⟨evs,ha⟩ := he.answers rfl rfl fun _ => rfl
    apply MessageEffect.answered ha
    intro _
    rw [hid]
    decide
  | close hid hc he =>
    obtain ⟨evs,ha⟩ := hc.answers rfl rfl fun _ => rfl
    apply MessageEffect.answered ha
    intro _
    rw [hid]
    decide
  | dataBeyond hid hw =>
    exact .answered (Answers.refl s) fun hr => absurd hr (not_continues (by decide))
  | dataFailed hid hw hr =>
    obtain ⟨evs,ha⟩ := hr.answers
    cases hr with
    | failed he _ => exact .answered ha.undebited fun hr => absurd hr (not_continues he)
  | dataRefused hid hw hr hrm =>
    obtain ⟨evs,ha⟩ := hr.answers
    exact .dataRefused hid hw ha.undebited hrm
  | dataServed hid hw hr hrm ho =>
    obtain ⟨evs,ha⟩ := hr.answers
    exact .dataServed hid ha.undebited hrm ho
  | other => exact .answered (Answers.refl s) fun hr => absurd hr (not_continues (by decide))

/-- The part of a call before it serves requests. -/
structure Approach (s t : SftpState κ σ) (front : List Event) : Prop where
  trace : t.1.trace=s.1.trace++front
  quiet : Quiet front
  client : t.2.clientChannel=s.2.clientChannel
  server : t.2.serverChannel=s.2.serverChannel
  maxPacket : t.2.peerMaxPacketSize=s.2.peerMaxPacketSize
  sends : ∀ m,.sent m∈front → SentAside front m ∨ m.recipient?=some s.2.clientChannel
  window : t.2.peerWindowSize ≤ s.2.peerWindowSize+adjustReceived s.2.serverChannel front

/-- What has come in has gone into the channel: data behind the receive buffer, credit
into the window. -/
structure Absorbed (s t : SftpState κ σ) (front : List Event) : Prop where
  received : t.2.sftpRx.bytes=s.2.sftpRx.bytes++dataReceived front
  pending : t.2.sftpTxPending.bytes=s.2.sftpTxPending.bytes
  window : t.2.peerWindowSize=
    addU32Saturating s.2.peerWindowSize (adjustReceived s.2.serverChannel front)

lemma Arrives.approach {m : Option ChannelMessage} (h : Arrives s t m evs)
    (ha : Answers t u later) : Approach s u (evs++later) := by
  have hc : t.2=s.2 := h.grown.channel
  have hf : u.2.flow=s.2.flow := by rw [ha.flow,hc]
  constructor
  · rw [ha.trace,h.grown.trace,append_assoc]
  · exact h.quiet.append ha.quiet
  · exact congrArg ChannelFlow.clientChannel hf
  · exact congrArg ChannelFlow.serverChannel hf
  · exact congrArg ChannelFlow.peerMaxPacketSize hf
  · intro reply hr
    rcases mem_append.mp hr with hr | hr
    · exact .inl ((h.sends reply hr).mono fun e he => mem_append_left _ he)
    obtain ⟨_,he,hrc,_⟩ := ha.sends _ hr
    cases he
    rw [hc] at hrc
    exact .inr hrc
  have hw : u.2.peerWindowSize=s.2.peerWindowSize := congrArg ChannelFlow.peerWindowSize hf
  omega

lemma Approach.refused (h : Approach s t front) (data : Bytes) :
    Approach s (t.refused data) (front++[.refused data]) := by
  refine ⟨?_,?_,h.client,h.server,h.maxPacket,?_,?_⟩
  · rw [SftpState.refused,h.trace,append_assoc]
  · apply h.quiet.append
    intro e he
    rw [mem_singleton.mp he]
    exact ⟨rfl,nofun⟩
  · intro m hm
    rcases mem_append.mp hm with hm | hm
    · rcases h.sends m hm with ha | hr
      · exact .inl (ha.mono fun e he => mem_append_left _ he)
      · exact .inr hr
    · cases mem_singleton.mp hm
  rw [adjustReceived_append]
  exact Nat.le_trans h.window (Nat.add_le_add_left (Nat.le_add_right _ _) _)

lemma Arrives.absorbed {m : Option ChannelMessage} (h : Arrives s t m evs)
    (ha : Answers t u later) (hd : ∀ x∈m,x.messageId≠sshMsgChannelData)
    (hw : ∀ x∈m,x.messageId≠sshMsgChannelWindowAdjust) : Absorbed s u (evs++later) := by
  have hf : u.2.flow=s.2.flow := by rw [ha.flow,h.grown.channel]
  have hin : messagesIn (evs++later)=m.toList := by
    rw [messagesIn_append,h.message,ha.messagesIn,append_nil]
  have hdt : dataReceived (evs++later)=[] := by
    rw [dataReceived,hin]
    apply flatMap_eq_nil_iff.mpr
    intro x hx
    exact if_neg (hd x (Option.mem_toList.mp hx))
  have had : adjustReceived s.2.serverChannel (evs++later)=0 := by
    rw [adjustReceived,hin]
    apply List.sum_eq_zero
    intro n hn
    obtain ⟨x,hx,rfl⟩ := mem_map.mp hn
    exact if_neg fun h => hw x (Option.mem_toList.mp hx) h.1
  constructor
  · rw [hdt,append_nil]
    exact congrArg ChannelFlow.sftpRx hf
  · exact congrArg ChannelFlow.sftpTxPending hf
  rw [had,addU32Saturating_zero]
  exact congrArg ChannelFlow.peerWindowSize hf

lemma Arrives.adjusted (h : Arrives s t (some m) evs)
    (hid : m.messageId=sshMsgChannelWindowAdjust) (hm : m.recipientChannel=s.2.serverChannel) :
    Approach s (t.adjusted m.windowBytes) evs ∧ Absorbed s (t.adjusted m.windowBytes) evs := by
  have hc : t.2=s.2 := h.grown.channel
  have ha : adjustReceived s.2.serverChannel evs=m.windowBytes := by
    simp [adjustReceived,h.message,ChannelMessage.adjustBytes,hid,hm]
  have hd : dataReceived evs=[] := by
    have hne : sshMsgChannelWindowAdjust≠sshMsgChannelData := by decide
    simp [dataReceived,h.message,ChannelMessage.dataBytes,hid,hne]
  have hw : (t.adjusted m.windowBytes).2.peerWindowSize=
      addU32Saturating s.2.peerWindowSize m.windowBytes := by
    rw [← hc]
    rfl
  refine ⟨⟨h.grown.trace,h.quiet,?_,?_,?_,fun reply hr => .inl (h.sends reply hr),?_⟩,?_,?_,?_⟩
  · simp only [SftpState.adjusted,hc]
  · simp only [SftpState.adjusted,hc]
  · simp only [SftpState.adjusted,hc]
  · rw [hw,ha]
    exact addU32Saturating_le _ _
  · rw [hd,append_nil,← hc]
    rfl
  · rw [← hc]
    rfl
  · rw [hw,ha]

lemma Arrives.buffered (h : Arrives s t (some m) evs) (hid : m.messageId=sshMsgChannelData)
    (ha : Answers t u later)
    (hr : (m.data.getD []).length≤emsshSftpMaxPacketSize-u.2.sftpRx.bytes.length) :
    Approach s (u.buffered (m.data.getD []) hr) (evs++later) ∧
    Absorbed s (u.buffered (m.data.getD []) hr) (evs++later) := by
  have hf : u.2.flow=s.2.flow := by rw [ha.flow,h.grown.channel]
  have hap := h.approach ha
  have hin : messagesIn (evs++later)=[m] := by
    rw [messagesIn_append,h.message,ha.messagesIn,append_nil]
    rfl
  have hd : dataReceived (evs++later)=m.data.getD [] := by
    simp [dataReceived,hin,ChannelMessage.dataBytes,hid]
  have had : adjustReceived s.2.serverChannel (evs++later)=0 := by
    have hne : sshMsgChannelData≠sshMsgChannelWindowAdjust := by decide
    simp [adjustReceived,hin,ChannelMessage.adjustBytes,hid,hne]
  have hrx : u.2.sftpRx.bytes=s.2.sftpRx.bytes := congrArg ChannelFlow.sftpRx hf
  have hp : u.2.sftpTxPending.bytes=s.2.sftpTxPending.bytes := congrArg ChannelFlow.sftpTxPending hf
  have hw : u.2.peerWindowSize=s.2.peerWindowSize := congrArg ChannelFlow.peerWindowSize hf
  refine ⟨⟨hap.trace,hap.quiet,hap.client,hap.server,hap.maxPacket,hap.sends,hap.window⟩,?_,?_,?_⟩
  · rw [hd,← hrx]
    rfl
  · exact hp
  rw [had,addU32Saturating_zero]
  exact hw

/-- One call: first what comes in and its answers, then serving. Unless the call has
failed, everything that came in has been absorbed and served. -/
def StepFlow (s : SftpState κ σ) (r : Except Err Unit) (u : SftpState κ σ) : Prop :=
  ∃ front t evs,Approach s t front ∧ Serving t u evs ∧
    (Continues r → Absorbed s t front ∧ Served t u evs)

lemma ServeOutcome.stepFlow (h : Approach s t front) (ha : Absorbed s t front)
    (ho : ServeOutcome t r u) : StepFlow s r u := by
  obtain ⟨evs,hs,hok,hw⟩ := ho.progress
  refine ⟨front,t,evs,h,hs,?_⟩
  rintro (hr | hr)
  · exact ⟨ha,(hok hr).1⟩
  · exact ⟨ha,(hw hr).1⟩

lemma Approach.stepFlow (h : Approach s u front) (ha : Continues r → Absorbed s u front) :
    StepFlow s r u :=
  ⟨front,u,[],h,Serving.refl u,fun hr => ⟨ha hr,Served.refl u⟩⟩

lemma MessageEffect.stepFlow (hg : Gets s m t) (hm : m.recipientChannel=s.2.serverChannel)
    (h : MessageEffect t m r u) : StepFlow s r u := by
  obtain ⟨evs,har⟩ := hg.arrives
  cases h with
  | answered ha hid =>
    apply (har.approach ha).stepFlow
    intro hr
    apply har.absorbed ha
    · intro x hx
      cases hx
      exact (hid hr).1
    intro x hx
    cases hx
    exact (hid hr).2
  | credited hid hrx =>
    obtain ⟨ha,hb⟩ := har.adjusted hid hm
    exact ha.stepFlow fun _ => hb
  | creditServed hid hrx ho =>
    obtain ⟨ha,hb⟩ := har.adjusted hid hm
    exact ho.stepFlow ha hb
  | dataRefused hid hw ha hrm =>
    exact ((har.approach ha).refused _).stepFlow fun hr =>
      absurd hr (not_continues (by decide))
  | dataServed hid ha hrm ho =>
    obtain ⟨hb,hc⟩ := har.buffered hid ha hrm
    exact ho.stepFlow hb hc

lemma SftpStep.stepFlow (h : SftpStep s r u) : StepFlow s r u := by
  cases h with
  | uninitialized h =>
    have ha := arrives_skim skimmed_nil (Grown.refl s)
    exact (ha.approach (Answers.refl s)).stepFlow fun hr =>
      absurd hr (not_continues (by decide))
  | lost he hs hg =>
    rcases hs with hs | ⟨m,hs⟩
    · exact ((arrives_skim hs hg).approach (Answers.refl u)).stepFlow fun hr =>
        absurd hr (not_continues he)
    exact ((arrives_message hs hg).approach (Answers.refl u)).stepFlow fun hr =>
      absurd hr (not_continues he)
  | idle hs hg hrx hr =>
    have ha := arrives_skim hs hg
    exact (ha.approach (Answers.refl u)).stepFlow fun _ =>
      ha.absorbed (Answers.refl u) (by simp) (by simp)
  | resume hs hg hrx ho =>
    have ha := arrives_skim hs hg
    exact ho.stepFlow (ha.approach (Answers.refl _))
      (ha.absorbed (Answers.refl _) (by simp) (by simp))
  | misdirected hg hm =>
    obtain ⟨evs,ha⟩ := hg.arrives
    exact (ha.approach (Answers.refl u)).stepFlow fun hr =>
      absurd hr (not_continues (by decide))
  | message hg hm ho => exact ho.effect.stepFlow hg hm

section
variable (L : LinkApi κ) (S : SftpServer σ)

/-- Calls of ssh_server_process_sftp_channel_data as the session loops make them: again
after a success and after a timeout. -/
def SftpRun : SftpState κ σ → SftpState κ σ → Prop :=
  Run (sshServerProcessSftpChannelData L S) (fun _ r _ => Continues r)

/-- The two byte streams of a channel between two of its states. -/
structure StreamsKept (s t : SftpState κ σ) (evs : List Event) : Prop where
  trace : t.1.trace=s.1.trace++evs
  whole : ∀ packet response,.handled packet response∈evs → WholePacket packet
  requests : packetsHandled evs++t.2.sftpRx.bytes=s.2.sftpRx.bytes++dataReceived evs
  responses : dataSent evs++t.2.sftpTxPending.bytes=s.2.sftpTxPending.bytes++responsesMade evs

lemma StreamsKept.refl (s : SftpState κ σ) : StreamsKept s s [] :=
  ⟨(append_nil _).symm,nofun,(append_nil _).symm,(append_nil _).symm⟩

variable {s t u : SftpState κ σ} {evs : List Event}

lemma StreamsKept.trans {later : List Event} (h : StreamsKept s t evs)
    (hl : StreamsKept t u later) : StreamsKept s u (evs++later) := by
  constructor
  · rw [hl.trace,h.trace,append_assoc]
  · intro packet response he
    rcases mem_append.mp he with he | he
    · exact h.whole packet response he
    · exact hl.whole packet response he
  · rw [packetsHandled_append,dataReceived_append,append_assoc,hl.requests,← append_assoc,
      h.requests,append_assoc]
  rw [dataSent_append,responsesMade_append,append_assoc,hl.responses,← append_assoc,h.responses,
    append_assoc]

lemma Approach.streamsKept {front : List Event} (h : Approach s t front) (ha : Absorbed s t front)
    (hs : Served t u evs) : StreamsKept s u (front++evs) := by
  have hin : dataReceived evs=[] := by
    rw [dataReceived,hs.messagesIn]
    rfl
  constructor
  · rw [hs.trace,h.trace,append_assoc]
  · intro packet response he
    rcases mem_append.mp he with he | he
    · exact absurd rfl ((h.quiet _ he).2 packet response)
    rcases hs.sends _ he with ⟨bytes,hb,_⟩ | ⟨p,q,hp,hw⟩
    · cases hb
    cases hp
    exact hw
  · rw [packetsHandled_append,h.quiet.handled,nil_append,hs.packets,ha.received,dataReceived_append,
      hin,append_nil]
  rw [dataSent_append,h.quiet.sent,nil_append,hs.responses,ha.pending,responsesMade_append,
    h.quiet.made,nil_append]

lemma StepFlow.streamsKept {r : Except Err Unit} (h : StepFlow s r u) (hr : Continues r) :
    ∃ evs,StreamsKept s u evs := by
  obtain ⟨front,t,evs,ha,_,hk⟩ := h
  obtain ⟨hab,hs⟩ := hk hr
  exact ⟨front++evs,ha.streamsKept hab hs⟩

lemma sftpRun_kept {L : LinkApi κ} {S : SftpServer σ} {s t : SftpState κ σ}
    (h : SftpRun L S s t) : ∃ evs,StreamsKept s t evs := by
  induction h with
  | start => exact ⟨[],StreamsKept.refl s⟩
  | next _ hc hr ih =>
    obtain ⟨evs,hk⟩ := ih
    have hs := (processSftpChannelData_step L S _).of_eq hc
    obtain ⟨later,hl⟩ := hs.stepFlow.streamsKept hr
    exact ⟨evs++later,hk.trans hl⟩

/-- Nothing is lost, duplicated, reordered or overwritten on a channel, however the
client cuts its stream: the packets handled and the bytes still buffered are the data
received, and the data sent and the bytes still pending are the responses. -/
theorem sftpRun_streams_kept {s t : SftpState κ σ} (h : SftpRun L S s t) :
    ∃ evs,StreamsKept s t evs := sftpRun_kept h
end

section
def SftpChannel.view (c : SftpChannel σ) : ChannelView :=
  ⟨c.clientChannel,c.serverChannel,c.peerMaxPacketSize,c.peerWindowSize⟩

variable {s t : SftpState κ σ} {evs front : List Event}

lemma Approach.flows (h : Approach s t front) : Flows s.2.view t.2.view front := by
  refine ⟨h.client,h.server,h.maxPacket,?_⟩
  rw [h.quiet.sent]
  exact h.window

lemma Absorbed.kept (ha : Absorbed s t front) (h : Approach s t front) :
    Kept s.2.view t.2.view front := by
  refine ⟨h.flows,?_⟩
  intro hm
  have hw : t.2.view.peerWindowSize=_ := ha.window
  rw [h.quiet.sent,hw]
  exact addU32Saturating_of_le hm

lemma Serving.addressed (h : Serving s t evs) : Addressed s.2.view evs := by
  intro m hm
  rcases h.sends _ hm with ⟨bytes,he,_⟩ | ⟨_,_,he,_⟩
  · cases he
    exact .inr rfl
  · cases he

lemma Serving.limited (h : Serving s t evs) : Limited s.2.view evs := by
  constructor
  · intro recipient bytes hm
    rcases h.sends _ hm with ⟨_,he,hl⟩ | ⟨_,_,he,_⟩
    · cases he
      exact hl
    · cases he
  apply WithinCredit.of_le
  rw [total_spent]
  exact h.credit

lemma Served.kept (h : Served s t evs) : Kept s.2.view t.2.view evs := by
  have hin : adjustReceived s.2.view.serverChannel evs=0 := by
    rw [adjustReceived,h.messagesIn]
    rfl
  have hw : t.2.view.peerWindowSize+(dataSent evs).length=
      s.2.view.peerWindowSize+adjustReceived s.2.view.serverChannel evs := by
    rw [hin]
    exact h.window
  exact ⟨⟨congrArg ChannelEnds.clientChannel h.ends,congrArg ChannelEnds.serverChannel h.ends,
    congrArg ChannelEnds.peerMaxPacketSize h.ends,hw.le⟩,fun _ => hw⟩

lemma StepFlow.step {R : Prop} {s u : SftpState κ σ} {r : Except Err Unit}
    (h : StepFlow s r u) : ChannelStep R SftpChannel.view s r u := by
  obtain ⟨front,t,evs,ha,hs,hk⟩ := h
  have hf := ha.flows
  refine ⟨front++evs,?_,hf.addressed_trans ha.sends hs.addressed,
    fun _ => hf.limited_trans (ha.quiet.limited _) hs.limited,?_⟩
  · rw [hs.trace,ha.trace,append_assoc]
  intro hr
  have hg : Continues r := by
    cases r with
    | ok u => exact .inl rfl
    | error e => exact .inr (by rw [hr e rfl])
  obtain ⟨hab,hsr⟩ := hk hg
  exact (hab.kept ha).trans hsr.kept
end

/-- An SFTP server that knows only the SSH_FXP_INIT of a version 3 client. -/
def sampleSftp : SftpServer Unit where
  hasFs := true
  zeroed := ()
  sessionInit := .ok ()
  setPolicy := none
  handlePacket packet :=
    if packet=[0,0,0,5,1,0,0,0,3] then pure [0,0,0,5,2,0,0,0,3] else Call.fail .unsupported
  handle_error packet s e t h := by
    split_ifs at h
    · cases h
    cases h
    decide

def sampleChannel (peerWindowSize : Nat) : SftpChannel Unit where
  clientChannel := 7
  serverChannel := 0
  windowSize := emsshDefaultChannelWindowSize
  windowMaxSize := emsshDefaultChannelWindowSize
  peerWindowSize := peerWindowSize
  peerMaxPacketSize := 32768
  initialized := true
  eofSent := false
  closeSent := false
  sftpRx := .empty
  sftpTxPending := .empty
  sftp := ()

abbrev SampleState := SftpState (List (Except Err Bytes)) Unit

def splitInit : SampleState :=
  (Conn.start [.ok (channelDataPayload 0 [0,0,0,5]),.error .notFound,
    .ok (channelDataPayload 0 [1,0,0,0,3])],sampleChannel 0)

theorem sftpRun_streams_kept_splitInit :
    ∃ t,SftpRun scriptLink sampleSftp splitInit t ∧
      t.2.sftpTxPending.bytes=[0,0,0,5,2,0,0,0,3] ∧ ∃ evs,StreamsKept splitInit t evs := by
  have h0 : SftpRun scriptLink sampleSftp splitInit splitInit := Run.start
  have h3 := ((h0.step (.inl rfl)).step (.inl rfl)).step (.inr rfl)
  exact ⟨_,h3,rfl,sftpRun_streams_kept scriptLink sampleSftp h3⟩

end EMSSHD
