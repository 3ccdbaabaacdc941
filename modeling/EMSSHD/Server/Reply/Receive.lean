import EMSSHD.Core.Transport.Request
import EMSSHD.Server.Common

namespace EMSSHD

open Call

/-- A CHANNEL_REQUEST that the client waits for an answer to. -/
def wantsReply (payload : Bytes) : Bool :=
  decide (payload.headD 0=sshMsgChannelRequest) &&
    shouldReplyFailureForNonSftpRequest (requestDiag payload)

/-- A CHANNEL_REQUEST with want_reply set, of whatever type. -/
def asksReply (payload : Bytes) : Prop :=
  payload.headD 0=sshMsgChannelRequest ∧ (requestDiag payload).wantReply=true

variable {payload : Bytes} {evs later : List Event}

lemma wantsReply_of_ne (h : payload.headD 0≠sshMsgChannelRequest) : wantsReply payload=false := by
  rw [wantsReply,decide_eq_false h,Bool.false_and]

lemma wantsReply_of_eq (h : payload.headD 0=sshMsgChannelRequest) :
    wantsReply payload=shouldReplyFailureForNonSftpRequest (requestDiag payload) := by
  rw [wantsReply,decide_eq_true h,Bool.true_and]

/-- The conversation about a channel, one event on. The flag says whether the request
received last still waits for its answer: it must be answered before the next message is
received, and nothing else may be answered. -/
def replyStep (awaiting : Bool) : Event → Option Bool
  | .received payload => if awaiting then none else some (wantsReply payload)
  | .sent (.success _) => if awaiting then some false else none
  | .sent (.failure _) => if awaiting then some false else none
  | _ => some awaiting

/-- A conversation in order, from one state of waiting to another. -/
def Replies (awaiting : Bool) (evs : List Event) (after : Bool) : Prop :=
  evs.foldlM replyStep awaiting=some after

lemma replies_nil (awaiting : Bool) : Replies awaiting [] awaiting := rfl

lemma Replies.append {awaiting mid after : Bool} (h : Replies awaiting evs mid)
    (hl : Replies mid later after) : Replies awaiting (evs++later) after := by
  have hf : (evs++later).foldlM replyStep awaiting=
      (evs.foldlM replyStep awaiting).bind fun b => later.foldlM replyStep b :=
    List.foldlM_append
  rw [Replies,hf,h]
  exact hl

lemma replies_received (payload : Bytes) :
    Replies false [.received payload] (wantsReply payload) := rfl

/-- No CHANNEL_REQUEST is among the payloads. -/
def Requestless (evs : List Event) : Prop :=
  ∀ payload,.received payload∈evs → payload.headD 0≠sshMsgChannelRequest

lemma requestless_nil : Requestless [] := by
  intro payload hp
  cases hp

lemma Requestless.append (h : Requestless evs) (hl : Requestless later) :
    Requestless (evs++later) := by
  intro payload hp
  rcases mem_append.mp hp with hp | hp
  · exact h payload hp
  · exact hl payload hp

lemma requestless_received (h : payload.headD 0≠sshMsgChannelRequest) :
    Requestless [.received payload] := by
  intro p hp
  have he : p=payload := Event.received.inj (mem_singleton.mp hp)
  rw [he]
  exact h

lemma requestless_sent (m : ServerMessage) : Requestless [.sent m] := by
  intro payload hp
  cases mem_singleton.mp hp

lemma AnswersAside.requestless (h : AnswersAside evs) : Requestless evs := by
  intro payload hp
  rcases h _ hp with he | ⟨_,_,_,he⟩
  · cases he
  · cases he

lemma Heard.replies (h : Heard evs) (hr : Requestless evs) : Replies false evs false := by
  induction evs with
  | nil => rfl
  | cons e evs ih =>
    have hs : replyStep false e=some false := by
      rcases h e (by simp) with ⟨payload,rfl⟩ | rfl | ⟨_,_,_,rfl⟩
      · have hid := hr payload (by simp)
        simp [replyStep,wantsReply_of_ne hid]
      · rfl
      · rfl
    have hrs : Replies false evs false := by
      apply ih
      · intro x hx
        exact h x (by simp [hx])
      intro payload hp
      exact hr payload (by simp [hp])
    rw [Replies,foldlM_cons,hs]
    exact hrs

/-- The messages that ssh_transport_receive_channel_request answers itself or drops. -/
def isPassedOver (payload : Bytes) : Bool :=
  decide (payload.headD 0=sshMsgGlobalRequest ∨ payload.headD 0=sshMsgChannelOpen ∨
    payload.headD 0=sshMsgChannelSuccess ∨ payload.headD 0=sshMsgChannelFailure ∨
    isDroppedMessageId (payload.headD 0))

def Event.passedOver : Event → Bool
  | .received payload => isPassedOver payload
  | _ => false

variable {κ : Type} (L : LinkApi κ)

/-- A message that makes ssh_transport_receive_channel_request fail with UNSUPPORTED: one
with a number that it does not know, or a KEXINIT that a key exchange can refuse so. -/
def GivesUp (payload : Bytes) : Prop :=
  (payload.length≠0 ∧ payload.length≤emsshMaxChannelRequestPayload ∧
    payload.headD 0≠sshMsgChannelRequest ∧ payload.headD 0≠sshMsgChannelClose ∧
    payload.headD 0≠sshMsgChannelEof ∧ isPassedOver payload=false) ∨
  transportPayloadIsKexinit payload=true ∧ ∃ k,((L.rekey payload).run k).1=.error .unsupported

/-- Somewhere behind a request with want_reply set, and before the next request, comes a
message that makes the receive function give up, or sixteen that it passes over. The request may
be one of the two that are never answered: the accept loop then tells it by a name that the
messages behind it have overwritten. -/
def MeetsStaleRequest (evs : List Event) : Prop :=
  ∃ front payload mid rest,evs=front++(.received payload::(mid++rest)) ∧
    asksReply payload ∧ Requestless mid ∧
    ((∃ stray,.received stray∈mid ∧ GivesUp L stray) ∨ 16 ≤ mid.countP Event.passedOver)

variable {evs : List Event}

lemma MeetsStaleRequest.append (h : MeetsStaleRequest L evs) (later : List Event) :
    MeetsStaleRequest L (evs++later) := by
  obtain ⟨front,payload,mid,rest,rfl,hw,hn,hs⟩ := h
  refine ⟨front,payload,mid,rest++later,?_,hw,hn,hs⟩
  simp

/-- How the loop over ignorable payloads ends. A payload that it returns is none of those
that it deals with itself, and its number is the last one on record. -/
def SkippedBy (payloadCapacity : Nat) (r : Except Err Bytes) (last : Option UInt8)
    (evs : List Event) : Prop :=
  match r with
  | .ok payload => ∃ skipped,evs=skipped++[.received payload] ∧ Inbound skipped ∧
    Requestless skipped ∧ (payload.length≠0 → last=some (payload.headD 0)) ∧
    (payloadCapacity < emsshMaxKexinitPayload → payload.length≤payloadCapacity)
  | .error e => Inbound evs ∧
    (Requestless evs ∧ (e=.unsupported → ∃ stray,.received stray∈evs ∧ GivesUp L stray) ∨
      e=.bufferTooSmall ∧ ∃ skipped payload,evs=skipped++[.received payload] ∧
        Inbound skipped ∧ Requestless skipped)

lemma SkippedBy.cons {cap : Nat} {r : Except Err Bytes} {last : Option UInt8}
    {evs : List Event} {payload : Bytes} (hid : payload.headD 0≠sshMsgChannelRequest)
    (h : SkippedBy L cap r last evs) :
    SkippedBy L cap r last ([.received payload]++evs) := by
  have ho := requestless_received hid
  cases r with
  | ok p =>
    obtain ⟨skipped,rfl,hi,hn,hl,hc⟩ := h
    exact ⟨[.received payload]++skipped,by simp,hi.cons payload,ho.append hn,hl,hc⟩
  | error e =>
    obtain ⟨hi,h⟩ := h
    refine ⟨hi.cons payload,?_⟩
    rcases h with ⟨hn,hu⟩ | ⟨he,skipped,p,rfl,hj,hn⟩
    · refine .inl ⟨ho.append hn,fun he => ?_⟩
      obtain ⟨stray,hs,hg⟩ := hu he
      exact ⟨stray,mem_append_right _ hs,hg⟩
    · exact .inr ⟨he,[.received payload]++skipped,p,by simp,hj.cons payload,ho.append hn⟩

/-- The protected payload functions never fail with UNSUPPORTED. -/
structure LinkApi.Supported : Prop where
  recv : ∀ capacity k,((L.recv capacity).run k).1≠.error .unsupported
  send : ∀ payload k,((L.send payload).run k).1≠.error .unsupported

variable (hlink : L.Supported)
variable {payload : Bytes}

lemma IsTransport.head (h : IsTransport payload) : payload.headD 0≠sshMsgChannelRequest := by
  rcases payload with _ | ⟨messageId,rest⟩
  · decide
  intro hid
  obtain rfl : messageId=sshMsgChannelRequest := hid
  rcases h with h | h | h
  all_goals exact absurd h Bool.false_ne_true

lemma skippedBy_ended {cap : Nat} {e : Err} (last : Option UInt8)
    (h : IsTransport payload) (he : e=.unsupported → GivesUp L payload) :
    SkippedBy L cap (.error e) last [.received payload] :=
  ⟨inbound_nil.cons payload,
    .inl ⟨requestless_received h.head,fun hu => ⟨payload,mem_singleton_self _,he hu⟩⟩⟩

include hlink in
lemma receivePayload_received (capacity : Nat) (s : Conn κ) :
    (receivePayload L capacity).Ensures s (Outcome
      (fun payload t => t.trace=s.trace++[.received payload])
      (fun e t => t.trace=s.trace ∧ e≠.unsupported)) := by
  have hf : Fails (·≠.unsupported) (receivePayload L capacity) := by
    refine .bind ?_ fun _ => .bind (.modify _) fun _ => .pure _
    intro t e he hu
    exact hlink.recv capacity t.link (hu ▸ he)
  obtain ⟨evs,ht,hev⟩ := receivePayload_emits L capacity s
  rcases hr : (receivePayload L capacity).run s with ⟨r,t⟩
  rw [hr] at ht hev
  apply Ensures.of_run hr
  cases r with
  | ok payload =>
    obtain rfl : evs=[.received payload] := hev
    exact ht
  | error e =>
    obtain rfl : evs=[] := hev
    exact ⟨ht.trans (append_nil _),hf s e (by rw [hr])⟩

include hlink in
lemma skipIgnorable_skippedBy (cap : Nat) (s : Conn κ) :
    (receiveProtectedPayloadSkipIgnorable L cap).Ensures s (fun r t =>
      ∃ evs,t.trace=s.trace++evs ∧ SkippedBy L cap r t.lastReceivedMessageId evs) := by
  unfold receiveProtectedPayloadSkipIgnorable
  generalize 8=tries
  induction tries generalizing s with
  | zero => exact ⟨[],(append_nil _).symm,inbound_nil,.inl ⟨requestless_nil,by simp⟩⟩
  | succ tries ih =>
    apply (receivePayload_received L hlink _ s).bind
    · intro payload t ht
      have ha (u : Conn κ) (hu : u.trace=t.trace) (h : IsTransport payload) :
          (skipIgnorableLoop L cap tries).Ensures u (fun r v =>
            ∃ evs,v.trace=s.trace++evs ∧
              SkippedBy L cap r v.lastReceivedMessageId evs) := by
        apply (ih u).mono
        intro r v h'
        obtain ⟨evs,hv,hs⟩ := h'
        refine ⟨[.received payload]++evs,?_,hs.cons L h.head⟩
        rw [hv,hu,ht,append_assoc]
      apply bindModify
      apply Ensures.ite
      · intro hd
        exact ⟨_,ht,skippedBy_ended L _ (.inl hd) (by simp)⟩
      intro _
      apply Ensures.ite
      · intro hk
        have hr (u : Conn κ) (hu : u.trace=t.trace) :
            (onLink (L.rekey payload)).Ensures u (fun r v =>
              v.trace=t.trace ∧ ∃ k,r=((L.rekey payload).run k).1) :=
          ⟨hu,u.link,rfl⟩
        refine .bind (hr _ ?_) ?_ ?_
        · rfl
        · intro _ u h
          exact ha u h.1 (.inr (.inl hk))
        intro e u h
        obtain ⟨hu,k,he⟩ := h
        refine ⟨_,hu.trans ht,skippedBy_ended L _ (.inr (.inl hk)) fun heq => ?_⟩
        exact .inr ⟨hk,k,by rw [← he,heq]⟩
      intro _
      apply Ensures.ite
      · intro _
        apply bindRequire
        · intro hc
          refine ⟨[.received payload],ht,[],rfl,inbound_nil,requestless_nil,?_,hc⟩
          intro hne
          cases payload with
          | nil => exact absurd rfl hne
          | cons x rest => rfl
        intro _
        exact ⟨[.received payload],ht,inbound_nil.cons payload,
          .inr ⟨rfl,[],payload,rfl,inbound_nil,requestless_nil⟩⟩
      intro hi
      exact ha _ rfl (.inr (.inr (not_not.mp hi)))
    intro e t h
    exact ⟨[],h.1.trans (append_nil _).symm,inbound_nil,
      .inl ⟨requestless_nil,fun hu => absurd hu h.2⟩⟩

section
lemma getRaw_fails (n : Nat) : Fails (·≠.unsupported) (getRaw n) :=
  .bind .get fun _ => .bind (.require nofun) fun _ => .bind (.modify _) fun _ => .pure _

lemma getU32_fails : Fails (·≠.unsupported) sshBufferGetU32 :=
  .bind (getRaw_fails 4) fun _ => .pure _

lemma getStringView_fails : Fails (·≠.unsupported) sshBufferGetStringView :=
  .bind getU32_fails fun _ => .bind (getRaw_fails _) fun _ => .pure _

variable {ρ : Type}

lemma readInto_fails {α : Type} {get : Call SshBuffer Err α} {set : α → ρ → ρ}
    (h : Fails (·≠.unsupported) get) : Fails (·≠.unsupported) (readInto get set) :=
  .bind h.onFst fun _ => .modify _

lemma messageId_fails (messageId : UInt8) {d : Decoder ρ Unit} (h : Fails (·≠.unsupported) d) :
    Fails (·≠.unsupported) (do
      let id ← Call.onFst sshBufferGetU8
      Call.require (id=messageId) .malformedPacket
      d : Decoder ρ Unit) :=
  .bind (.onFst (.bind (getRaw_fails 1) fun _ => .pure _)) fun _ =>
    .bind (.require nofun) fun _ => h

lemma globalRequestDecode_fails : Fails (·≠.unsupported) sshGlobalRequestDecode := by
  apply messageId_fails
  refine .bind (readInto_fails getStringView_fails) fun _ => readInto_fails ?_
  refine .bind (.bind (getRaw_fails 1) fun _ => .pure _) fun _ => ?_
  exact .bind (.require nofun) fun _ => .pure _

lemma openDecode_fails : Fails (·≠.unsupported) sshChannelOpenDecode := by
  have hu {set : Nat → ChannelOpen → ChannelOpen} :
      Fails (·≠.unsupported) (readInto sshBufferGetU32 set) :=
    readInto_fails getU32_fails
  apply messageId_fails
  refine .bind (readInto_fails getStringView_fails) fun _ => ?_
  refine .bind hu fun _ => .bind hu fun _ => .bind hu fun _ => ?_
  exact .bind .get fun _ => .require nofun

include hlink in
lemma sendMessage_fails (m : ServerMessage) : Fails (·≠.unsupported) (sendMessage L m) := by
  refine sendMessage_failsAs L ?_ ?_ m
  · intro e he
    rcases he with rfl | rfl <;> decide
  intro payload k e he hu
  rw [hu] at he
  exact hlink.send payload k he

include hlink in
lemma answerGlobalRequest_fails (payload : Bytes) :
    Fails (·≠.unsupported) (answerGlobalRequest L payload) := by
  have hd := globalRequestDecode_fails (sshBufferWrap payload,{})
  unfold answerGlobalRequest decodePayload
  rcases h : sshGlobalRequestDecode.run (sshBufferWrap payload,{}) with ⟨e | u,b,request⟩
  · rw [h] at hd
    exact .fail (hd e rfl)
  · exact .onlyIf (sendMessage_fails L hlink _)

include hlink in
lemma refuseChannelOpen_fails (payload : Bytes) :
    Fails (·≠.unsupported) (refuseChannelOpen L payload) := by
  have hd := openDecode_fails (sshBufferWrap payload,{})
  unfold refuseChannelOpen decodePayload
  rcases h : sshChannelOpenDecode.run (sshBufferWrap payload,{}) with ⟨e | u,b,channelOpen⟩
  · rw [h] at hd
    exact .fail (hd e rfl)
  · exact sendMessage_fails L hlink _

lemma checkSimpleMessage_fails {payload : Bytes} {e : Err}
    (h : checkSimpleMessage payload=.error e) : e≠.unsupported := by
  have hne : Err.malformedPacket≠.unsupported := by decide
  exact Fails.failAs (P := (·≠.unsupported)) hne _ e h
end

/-- What ssh_transport_receive_channel_request leaves in the caller's request record, and
what it has received for it. An old request is left with its want_reply. -/
inductive Receipt (tries : Nat) (old : ChannelRequest) (last : Option UInt8) :
    Except Err Unit → ChannelRequest → List Event → Prop
  | decoded {skim : List Event} {payload : Bytes} (hheard : Heard skim) (hnone : Requestless skim)
    (hid : payload.headD 0=sshMsgChannelRequest) (hlast : last=some sshMsgChannelRequest) :
    Receipt tries old last (decodePayload sshChannelRequestDecode {} payload).1
      (requestDiag payload) (skim++[.received payload])
  | tooLong {skim : List Event} {payload : Bytes} (hheard : Heard skim)
    (hnone : Requestless skim) {request : ChannelRequest} :
    Receipt tries old last (.error .bufferTooSmall) request (skim++[.received payload])
  | nothing {e : Err} {evs : List Event} (hheard : Heard evs) (hnone : Requestless evs)
    {request : ChannelRequest} (hrecord : request.wantReply=old.wantReply)
    (he : e=.unsupported → (∃ stray,.received stray∈evs ∧ GivesUp L stray) ∨
      tries≤evs.countP Event.passedOver) :
    Receipt tries old last (.error e) request evs

lemma Receipt.skimmed {tries : Nat} {old older request : ChannelRequest} {last : Option UInt8}
    {r : Except Err Unit} {front : List Event} (ho : old.wantReply=older.wantReply) (hf : Heard front) (hn : Requestless front)
    (hp : 1≤front.countP Event.passedOver) (h : Receipt L tries old last r request evs) :
    Receipt L (tries+1) older last r request (front++evs) := by
  cases h with
  | decoded hh hnn hid hl =>
    rw [← append_assoc]
    exact .decoded (hf.append hh) (hn.append hnn) hid hl
  | tooLong hh hnn =>
    rw [← append_assoc]
    exact .tooLong (hf.append hh) (hn.append hnn)
  | nothing hh hnn hr he =>
    apply Receipt.nothing (hf.append hh) (hn.append hnn) (hr.trans ho)
    intro hu
    rcases he hu with ⟨stray,hs,hg⟩ | hc
    · exact .inl ⟨stray,mem_append_right _ hs,hg⟩
    right
    rw [countP_append]
    omega

def ReceivesRequest (tries : Nat) (s : Conn κ×ChannelRequest) (r : Except Err Unit)
    (t : Conn κ×ChannelRequest) : Prop :=
  ∃ evs,t.1.trace=s.1.trace++evs ∧ Receipt L tries s.2 t.1.lastReceivedMessageId r t.2 evs

/-- A message has come in behind others that were skipped, and nothing has been decoded. -/
structure Arrival (s t : Conn κ×ChannelRequest) (skipped : List Event) (payload : Bytes) : Prop where
  trace : t.1.trace=s.1.trace++(skipped++[.received payload])
  record : t.2.wantReply=s.2.wantReply
  heard : Heard skipped
  requestless : Requestless skipped

namespace Arrival
variable {s t u : Conn κ×ChannelRequest} {skipped answers : List Event} {payload : Bytes} {tries : Nat}

lemma heardAll (h : Arrival s t skipped payload) : Heard (skipped++[.received payload]) :=
  h.heard.append (heard_received payload)

lemma requestlessAll (h : Arrival s t skipped payload)
    (hid : payload.headD 0≠sshMsgChannelRequest) : Requestless (skipped++[.received payload]) :=
  h.requestless.append (requestless_received hid)

lemma stops (h : Arrival s t skipped payload) (e : Err)
    (hid : payload.headD 0≠sshMsgChannelRequest) (he : e=.unsupported → GivesUp L payload) :
    ReceivesRequest L tries s (.error e) t := by
  refine ⟨_,h.trace,?_⟩
  exact .nothing h.heardAll (h.requestlessAll hid) h.record fun hu => .inl ⟨payload,by simp,he hu⟩

variable {c : Call (Conn κ×ChannelRequest) Err Unit}

lemma goesOn (h : Arrival s t skipped payload) (hid : payload.headD 0≠sshMsgChannelRequest)
    (hp : isPassedOver payload=true) (hu : u.1.trace=t.1.trace++answers) (hrc : u.2=t.2)
    (ha : AnswersAside answers) (hc : c.Ensures u (ReceivesRequest L tries u)) :
    c.Ensures u (ReceivesRequest L (tries+1) s) := by
  have ho : 1≤(skipped++[Event.received payload]++answers).countP Event.passedOver := by
    have hcn : [Event.received payload].countP Event.passedOver=1 := by simp [Event.passedOver,hp]
    rw [countP_append,countP_append,hcn]
    omega
  apply hc.mono
  rintro r v ⟨evs,hv,hr⟩
  rw [hrc] at hr
  refine ⟨(skipped++[.received payload]++answers)++evs,?_,hr.skimmed L h.record
    (h.heardAll.append ha.heard) ((h.requestlessAll hid).append ha.requestless) ho⟩
  rw [hv,hu,h.trace]
  simp only [append_assoc]

lemma answered (h : Arrival s t skipped payload) (hid : payload.headD 0≠sshMsgChannelRequest)
    (hp : isPassedOver payload=true) {answer : Call (Conn κ) Err Unit}
    (hem : Emits Conn.trace answer (fun _ evs => AnswersAside evs))
    (hf : Fails (·≠.unsupported) answer) (hc : ∀ u,c.Ensures u (ReceivesRequest L tries u)) :
    (Call.onFst answer >>= fun _ => c).Ensures t (ReceivesRequest L (tries+1) s) := by
  have han : (Call.onFst answer).Ensures t (fun r u => (∃ answers,
      u.1.trace=t.1.trace++answers ∧ AnswersAside answers) ∧ u.2=t.2 ∧
      ∀ e,r=.error e → e≠.unsupported) := ⟨hem t.1,rfl,hf t.1⟩
  apply han.bind
  · rintro _ u ⟨⟨answers,hu,ha⟩,hr,_⟩
    exact h.goesOn L hid hp hu hr ha (hc u)
  rintro e u ⟨⟨answers,hu,ha⟩,hr,he⟩
  refine ⟨(skipped++[.received payload])++answers,?_,?_⟩
  · rw [hu,h.trace,append_assoc]
  rw [hr]
  exact .nothing (h.heardAll.append ha.heard) ((h.requestlessAll hid).append ha.requestless)
    h.record fun hx => absurd hx (he e rfl)

lemma dropped (h : Arrival s t skipped payload) (hid : payload.headD 0≠sshMsgChannelRequest)
    (hp : isPassedOver payload=true) (hc : ∀ u,c.Ensures u (ReceivesRequest L tries u)) :
    c.Ensures t (ReceivesRequest L (tries+1) s) :=
  h.goesOn L hid hp (append_nil _).symm rfl (forall_mem_nil _) (hc t)
end Arrival

include hlink in
lemma receiveChannelRequestLoop_receipt (tries : Nat) (s : Conn κ×ChannelRequest) :
    (receiveChannelRequestLoop L tries).Ensures s (ReceivesRequest L tries s) := by
  induction tries generalizing s with
  | zero =>
    exact ⟨[],(append_nil _).symm,
      .nothing heard_nil requestless_nil rfl fun _ => .inr (Nat.zero_le _)⟩
  | succ tries ih =>
    apply (Ensures.onFst (skipIgnorable_skippedBy L hlink emsshMaxChannelRequestPayload s.1)).bind
    · rintro payload t ⟨⟨_,ht,skipped,rfl,hin,hnn,hls,hcp⟩,hold⟩
      have ha : Arrival s (t.1,t.2.overwritten payload) skipped payload :=
        ⟨ht,hold ▸ rfl,hin.heard,hnn⟩
      apply bindModify
      apply bindRequire
      · intro hl
        apply Ensures.ite
        · intro hid
          apply bindModify
          have hnm : t.1.lastReceivedMessageId=some sshMsgChannelRequest := by rw [hls hl,hid]
          exact ⟨_,ht,.decoded hin.heard hnn hid hnm⟩
        intro hid
        apply Ensures.ite
        · intro _
          apply bindLift
          · intro _ _
            exact ha.stops L .closed hid nofun
          intro e he
          exact ha.stops L e hid fun hu => absurd hu (checkSimpleMessage_fails he)
        intro hen
        apply Ensures.ite
        · intro hg
          have hp : isPassedOver payload=true := decide_eq_true (.inl hg)
          exact ha.answered L hid hp (answerGlobalRequest_emits L payload)
            (answerGlobalRequest_fails L hlink payload) ih
        intro hg
        apply Ensures.ite
        · intro ho
          have hp : isPassedOver payload=true := decide_eq_true (.inr (.inl ho))
          exact ha.answered L hid hp (refuseChannelOpen_emits L payload)
            (refuseChannelOpen_fails L hlink payload) ih
        intro ho
        apply Ensures.ite
        · intro hr
          have hp : isPassedOver payload=true := decide_eq_true (.inr (.inr (hr.imp_right .inl)))
          apply bindLift
          · intro _ _
            exact ha.dropped L hid hp ih
          intro e he
          exact ha.stops L e hid fun hu => absurd hu (checkSimpleMessage_fails he)
        intro hr
        apply Ensures.ite
        · intro hd
          have hp : isPassedOver payload=true := decide_eq_true (.inr (.inr (.inr (.inr hd))))
          exact ha.dropped L hid hp ih
        intro hd
        apply ha.stops L .unsupported hid
        intro _
        have hc : payload.length≤emsshMaxChannelRequestPayload := hcp (by decide)
        have hp : isPassedOver payload=false := by
          apply decide_eq_false
          tauto
        exact .inl ⟨hl,hc,hid,fun h => hen (.inl h),fun h => hen (.inr h),hp⟩
      intro hl
      apply ha.stops L .malformedPacket _ nofun
      have hnl : payload=[] := length_eq_zero_iff.mp (not_not.mp hl)
      rw [hnl]
      decide
    rintro e t ⟨⟨evs,ht,hin,h⟩,hold⟩
    rw [ReceivesRequest,hold]
    rcases h with ⟨hn,hu⟩ | ⟨rfl,skipped,payload,rfl,hj,hn⟩
    · exact ⟨evs,ht,.nothing hin.heard hn rfl fun he => .inl (hu he)⟩
    · exact ⟨_,ht,.tooLong hj.heard hn⟩

end EMSSHD
