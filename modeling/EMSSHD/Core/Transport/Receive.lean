import EMSSHD.Core.Transport.Channel
import EMSSHD.Framework.Trace

namespace EMSSHD

open Call

variable {κ : Type} (L : LinkApi κ)

/-- The payload is no channel message that ssh_channel_message_decode accepts. -/
def Undecoded (payload : Bytes) : Prop := (channelMessageOf payload).1≠.ok ()

def unknownRequestReply (payload : Bytes) : Option Nat :=
  if (channelMessageOf payload).1=.error .unsupported ∧
      payload.headD 0=sshMsgChannelRequest ∧ (requestDiag payload).requestType≠none ∧
      (requestDiag payload).wantReply=true ∧ ¬channelRequestIsPuttyExtension (requestDiag payload)
  then some (requestDiag payload).recipientChannel else none

/-- What the receive loop may send by itself, given what else has happened in it. -/
def SentAside (evs : List Event) (m : ServerMessage) : Prop :=
  m=.requestFailure ∨ (∃ recipient reason text,m=.openFailure recipient reason text) ∨
  ∃ payload recipient,.received payload∈evs ∧ unknownRequestReply payload=some recipient ∧
    m=.failure recipient

/-- Events of a receive loop that has not come to a channel message: payloads that
do not decode, and answers the loop gives by itself. -/
def Skimmed (evs : List Event) : Prop :=
  ∀ e∈evs,(∃ payload,e=.received payload ∧ Undecoded payload) ∨
    ∃ m,e=.sent m ∧ SentAside evs m

lemma skimmed_nil : Skimmed [] := by
  intro e he
  cases he

variable {evs : List Event} {payload : Bytes}

lemma SentAside.mono {evs' : List Event} {m : ServerMessage} (h : SentAside evs m)
    (hs : ∀ e∈evs,e∈evs') : SentAside evs' m := by
  rcases h with h | h | ⟨payload,recipient,hp,hr,hm⟩
  · exact .inl h
  · exact .inr (.inl h)
  · exact .inr (.inr ⟨payload,recipient,hs _ hp,hr,hm⟩)

lemma Skimmed.append {later : List Event} (h : Skimmed evs) (hl : Skimmed later) :
    Skimmed (evs++later) := by
  intro e he
  rcases mem_append.mp he with he | he
  · rcases h e he with h | ⟨m,hm,ha⟩
    · exact .inl h
    · exact .inr ⟨m,hm,ha.mono fun x hx => mem_append_left _ hx⟩
  rcases hl e he with h | ⟨m,hm,ha⟩
  · exact .inl h
  · exact .inr ⟨m,hm,ha.mono fun x hx => mem_append_right _ hx⟩

lemma skimmed_received (h : Undecoded payload) : Skimmed [.received payload] := by
  intro e he
  exact .inl ⟨payload,mem_singleton.mp he,h⟩

lemma undecoded_of_head {messageId : UInt8} (hh : payload.head?=some messageId)
    (h : ¬isChannelMessageId messageId) : Undecoded payload := by
  rcases payload with _ | ⟨x,rest⟩
  · cases hh
  have hx : x=messageId := by simpa using hh
  rw [Undecoded,hx,channelMessageOf_other h]
  exact nofun

lemma receivePayload_emits (capacity : Nat) :
    Emits Conn.trace (receivePayload L capacity) (fun r evs =>
      match r with
      | .ok payload => evs=[.received payload]
      | .error _ => evs=[]) := by
  intro s
  rcases h : (L.recv capacity).run s.link with ⟨r,k⟩
  cases r with
  | ok payload =>
    have hl : (onLink (L.recv capacity)).run s=(.ok payload,{s with link := k}) := by
      simp only [onLink,h]
    refine .of_run (run_bind_ok hl) ⟨[.received payload],rfl,rfl⟩
  | error e =>
    have hl : (onLink (L.recv capacity)).run s=(.error e,{s with link := k}) := by
      simp only [onLink,h]
    refine .of_run (run_bind_error hl) ⟨[],?_,rfl⟩
    simp

lemma onLink_emits {α : Type} (c : Call κ Err α) {P : Except Err α → Prop}
    (hc : ∀ k,P (c.run k).1) : Emits Conn.trace (onLink c) (fun r evs => evs=[] ∧ P r) := by
  intro s
  exact ⟨[],by simp [onLink],rfl,hc s.link⟩

lemma sendMessage_emits (m : ServerMessage) :
    Emits Conn.trace (sendMessage L m) (fun r evs =>
      match r with
      | .ok _ => evs=[.sent m]
      | .error e => evs=[] ∧ e≠.notFound) := by
  apply Emits.bindLift
  · intro payload _
    apply Emits.bind (onLink_emits (L.send payload) (P := fun r => ∀ e,r=.error e → e≠.notFound) ?_)
    · rintro _ evs ⟨rfl,_⟩ s
      exact ⟨[.sent m],rfl,rfl⟩
    · rintro e evs ⟨rfl,he⟩
      exact ⟨rfl,he e rfl⟩
    intro k e he
    rcases h : (L.send payload).run k with ⟨r,t⟩
    rw [h] at he
    subst he
    exact L.send_error payload k e t h
  intro e he
  exact ⟨rfl,ServerMessage.payload_error he⟩

lemma sendMessage_failsAs {P : Err → Prop} (hen : ∀ e,ServerMessage.EncodingError e → P e)
    (hs : ∀ payload,Fails P (L.send payload)) (m : ServerMessage) : Fails P (sendMessage L m) := by
  refine .bind (.lift ?_) fun payload => .bind ?_ fun _ => .modify _
  · intro e he
    exact hen e (ServerMessage.payload_fails he)
  intro s e he
  exact hs payload s.link e he

/-- The CHANNEL_DATA messages that carry the given chunks. -/
def dataEvents (recipientChannel : Nat) (chunks : List Bytes) : List Event :=
  chunks.map fun chunk => .sent (.data recipientChannel chunk)

lemma sendChannelDataLoop_emits (chan rounds : Nat) (rest : Bytes)
    (h : rest.length < rounds) :
    Emits Conn.trace (sendChannelDataLoop L chan rounds rest) (fun r evs =>
      ∃ chunks left,evs=dataEvents chan chunks ∧ chunks.flatten++left=rest ∧
        (r=.ok () → left=[]) ∧ r≠.error .notFound) := by
  induction rounds generalizing rest with
  | zero => omega
  | succ rounds ih =>
    apply Emits.bind (sendMessage_emits L _)
    · rintro _ evs rfl
      apply Emits.onlyIf
      · intro hln
        have hl : (rest.drop maxDataLen).length < rounds := by
          have hm : 0 < maxDataLen := by decide
          rw [length_drop]
          omega
        apply (ih (rest.drop maxDataLen) hl).mono
        rintro r evs ⟨chunks,left,rfl,hs,hok,hn⟩
        refine ⟨rest.take maxDataLen::chunks,left,rfl,?_,hok,hn⟩
        rw [flatten_cons,append_assoc,hs,take_append_drop]
      intro hsh
      refine ⟨[rest.take maxDataLen],[],rfl,?_,fun _ => rfl,nofun⟩
      rw [take_of_length_le (by omega)]
      simp
    rintro e evs ⟨rfl,he⟩
    refine ⟨[],rest,rfl,rfl,nofun,?_⟩
    simpa using he

def Inbound (evs : List Event) : Prop := ∀ e∈evs,∃ payload,e=.received payload

lemma Inbound.cons {evs : List Event} (h : Inbound evs) (payload : Bytes) :
    Inbound ([.received payload]++evs) := by
  intro e he
  rcases mem_append.mp he with he | he
  · exact ⟨payload,mem_singleton.mp he⟩
  · exact h e he

lemma inbound_nil : Inbound [] := forall_mem_nil _

def IsTransport (payload : Bytes) : Prop :=
  transportPayloadIsDisconnect payload=true ∨ transportPayloadIsKexinit payload=true ∨
  transportPayloadIsIgnorable payload=true

/-- Payloads that the receive loop has dealt with itself, and nothing else. -/
def Passed (evs : List Event) : Prop := ∀ e∈evs,∃ payload,e=.received payload ∧ IsTransport payload

lemma passed_nil : Passed [] := forall_mem_nil _

lemma Passed.cons {evs : List Event} {payload : Bytes} (hp : IsTransport payload)
    (h : Passed evs) : Passed ([.received payload]++evs) := by
  intro e he
  rcases mem_append.mp he with he | he
  · exact ⟨payload,mem_singleton.mp he,hp⟩
  · exact h e he

/-- The loop has dealt with payloads up to the one it returns. A payload too large for
the caller is the last one of a loop that fails. -/
def PassedTo (payloadCapacity : Nat) : Except Err Bytes → List Event → Prop
  | .ok payload,evs => ∃ skipped,evs=skipped++[.received payload] ∧ Passed skipped
  | .error _,evs => ∃ skipped last,evs=skipped++last ∧ Passed skipped ∧
    (last=[] ∨ payloadCapacity<emsshMaxKexinitPayload ∧ ∃ payload,last=[.received payload])

lemma PassedTo.cons {cap : Nat} {r : Except Err Bytes} {evs : List Event}
    {payload : Bytes} (hp : IsTransport payload) (h : PassedTo cap r evs) :
    PassedTo cap r ([.received payload]++evs) := by
  rcases r with _ | p
  · obtain ⟨skipped,last,rfl,hs,hl⟩ := h
    exact ⟨[.received payload]++skipped,last,by simp,hs.cons hp,hl⟩
  obtain ⟨skipped,rfl,hs⟩ := h
  exact ⟨[.received payload]++skipped,by simp,hs.cons hp⟩

lemma passedTo_error_nil (cap : Nat) (e : Err) :
    PassedTo cap (.error e) [] := ⟨[],[],rfl,passed_nil,.inl rfl⟩

lemma skipIgnorable_passedTo (cap : Nat) :
    Emits Conn.trace (receiveProtectedPayloadSkipIgnorable L cap) (PassedTo cap) := by
  unfold receiveProtectedPayloadSkipIgnorable
  generalize 8=tries
  induction tries with
  | zero =>
    apply Emits.fail
    exact passedTo_error_nil cap _
  | succ tries ih =>
    apply Emits.bind (receivePayload_emits L _)
    · rintro payload evs rfl
      refine Emits.bindSilent (fun _ => rfl) ?_
      apply Emits.ite
      · intro hd
        apply Emits.fail
        exact (passedTo_error_nil cap _).cons (.inl hd)
      intro _
      apply Emits.ite
      · intro hk
        apply Emits.bind (onLink_emits (L.rekey payload) (P := fun _ => True) (fun _ => trivial))
        · rintro _ evs ⟨rfl,_⟩
          exact ih.mono fun r later h => h.cons (.inr (.inl hk))
        rintro e evs ⟨rfl,_⟩
        exact (passedTo_error_nil cap _).cons (.inr (.inl hk))
      intro _
      apply Emits.ite
      · intro _
        apply Emits.bindRequire
        · intro _
          apply Emits.pure
          exact ⟨[],rfl,passed_nil⟩
        intro hs
        have hcp : cap<emsshMaxKexinitPayload := by
          by_contra hc
          exact hs fun hlt => absurd hlt hc
        exact ⟨[],[.received payload],rfl,passed_nil,.inr ⟨hcp,payload,rfl⟩⟩
      intro hi
      exact ih.mono fun r later h => h.cons (.inr (.inr (not_not.mp hi)))
    rintro e evs rfl
    exact passedTo_error_nil cap e

lemma IsTransport.undecoded (h : IsTransport payload) : Undecoded payload := by
  rcases h with h | h | h
  · exact undecoded_of_head (of_decide_eq_true h) (by decide)
  · exact undecoded_of_head (of_decide_eq_true h) (by decide)
  rcases of_decide_eq_true h with hh | hh | hh
  all_goals exact undecoded_of_head hh (by decide)

lemma Passed.inbound (h : Passed evs) : Inbound evs := by
  intro e he
  obtain ⟨payload,hp,_⟩ := h e he
  exact ⟨payload,hp⟩

lemma Passed.skimmed (h : Passed evs) : Skimmed evs := by
  intro e he
  obtain ⟨payload,hp,ht⟩ := h e he
  exact .inl ⟨payload,hp,ht.undecoded⟩

/-- The loop has passed over payloads of no interest, up to the one it returns. -/
def SkippedTo (payloadCapacity : Nat) : Except Err Bytes → List Event → Prop
  | .ok payload,evs => ∃ skipped,evs=skipped++[.received payload] ∧ Skimmed skipped ∧
    Inbound skipped
  | .error _,evs => Inbound evs ∧ (emsshMaxKexinitPayload≤payloadCapacity → Skimmed evs)

lemma skipIgnorable_emits (cap : Nat) :
    Emits Conn.trace (receiveProtectedPayloadSkipIgnorable L cap) (SkippedTo cap) := by
  apply (skipIgnorable_passedTo L cap).mono
  intro r evs h
  cases r with
  | ok payload =>
    obtain ⟨skipped,rfl,hs⟩ := h
    exact ⟨skipped,rfl,hs.skimmed,hs.inbound⟩
  | error e =>
    obtain ⟨skipped,last,rfl,hs,hl | ⟨hcp,payload,hl⟩⟩ := h
    · rw [hl,append_nil]
      exact ⟨hs.inbound,fun _ => hs.skimmed⟩
    rw [hl]
    refine ⟨fun x hx => ?_,fun hc => absurd hc (by omega)⟩
    rcases mem_append.mp hx with hx | hx
    · exact hs.inbound x hx
    · exact ⟨payload,mem_singleton.mp hx⟩

def AnswersAside (evs : List Event) : Prop :=
  ∀ e∈evs,e=.sent .requestFailure ∨
    ∃ recipient reason text,e=.sent (.openFailure recipient reason text)

lemma AnswersAside.skimmed (h : AnswersAside evs) : Skimmed evs := by
  intro e he
  right
  rcases h e he with rfl | ⟨recipient,reason,text,rfl⟩
  · exact ⟨_,rfl,.inl rfl⟩
  · exact ⟨_,rfl,.inr (.inl ⟨recipient,reason,text,rfl⟩)⟩

lemma answerGlobalRequest_emits (payload : Bytes) :
    Emits Conn.trace (answerGlobalRequest L payload) (fun _ evs => AnswersAside evs) := by
  unfold answerGlobalRequest
  rcases decodePayload sshGlobalRequestDecode {} payload with ⟨e | u,request⟩
  · apply Emits.fail
    exact forall_mem_nil _
  apply Emits.onlyIf
  · intro _
    apply (sendMessage_emits L .requestFailure).mono
    rintro (e | u) evs h
    · rw [h.1]
      exact forall_mem_nil _
    subst h
    intro e he
    exact .inl (mem_singleton.mp he)
  intro _
  exact forall_mem_nil _

lemma refuseChannelOpen_emits (payload : Bytes) :
    Emits Conn.trace (refuseChannelOpen L payload) (fun _ evs => AnswersAside evs) := by
  unfold refuseChannelOpen
  rcases decodePayload sshChannelOpenDecode {} payload with ⟨e | u,request⟩
  · apply Emits.fail
    exact forall_mem_nil _
  apply (sendMessage_emits L _).mono
  rintro (e | u) evs h
  · rw [h.1]
    exact forall_mem_nil _
  subst h
  intro e he
  exact .inr ⟨_,_,_,mem_singleton.mp he⟩

lemma handleUndecoded_emits {e : Err} (hd : (channelMessageOf payload).1=.error e) :
    Emits Conn.trace (handleUndecoded L payload e)
      (fun _ evs => Skimmed ([.received payload]++evs)) := by
  have hu : Undecoded payload := by
    rw [Undecoded,hd]
    exact nofun
  have hn : Skimmed ([.received payload]++[]) := skimmed_received hu
  apply Emits.ite
  · rintro ⟨rfl,hid,ht⟩
    apply Emits.onlyIf
    · rintro ⟨hw,hp⟩
      apply (sendMessage_emits L _).mono
      rintro (e | u) evs h
      · rw [h.1]
        exact hn
      subst h
      have hr : unknownRequestReply payload=some (requestDiag payload).recipientChannel := by
        rw [unknownRequestReply,if_pos ⟨hd,hid,ht,hw,hp⟩]
      intro e he
      rcases mem_append.mp he with he | he
      · exact .inl ⟨payload,mem_singleton.mp he,hu⟩
      refine .inr ⟨_,mem_singleton.mp he,.inr (.inr ⟨payload,_,?_,hr,rfl⟩)⟩
      simp
    intro _
    exact hn
  intro _
  apply Emits.fail
  exact hn

def SkimsTo : Except Err ChannelMessage → List Event → Prop
  | .ok m,evs => ∃ skim payload,evs=skim++[.received payload] ∧ Skimmed skim ∧
    channelMessageOf payload=(.ok (),m)
  | .error _,evs => Skimmed evs

lemma SkimsTo.prepend {r : Except Err ChannelMessage} {skim : List Event} (hs : Skimmed skim)
    (h : SkimsTo r evs) : SkimsTo r (skim++evs) := by
  rcases r with _ | m
  · exact hs.append h
  obtain ⟨more,payload,rfl,hm,hd⟩ := h
  exact ⟨skim++more,payload,by rw [append_assoc],hs.append hm,hd⟩

lemma receiveChannelMessageLoop_emits (tries : Nat) :
    Emits Conn.trace (receiveChannelMessageLoop L tries) SkimsTo := by
  induction tries with
  | zero =>
    apply Emits.fail
    exact skimmed_nil
  | succ tries ih =>
    apply Emits.bind (skipIgnorable_emits L emsshMaxChannelMessagePayload)
    · rintro payload evs ⟨skipped,rfl,hsk,_⟩
      -- every branch below appends to the payloads that were skipped
      suffices h : Emits Conn.trace _
          (fun r later => SkimsTo r ([.received payload]++later)) by
        apply h.mono
        intro r later hr
        rw [append_assoc]
        exact hr.prepend hsk
      have hag (answers : List Event) (hs : Skimmed ([.received payload]++answers)) :
          Emits Conn.trace (receiveChannelMessageLoop L tries)
            (fun r later => SkimsTo r ([.received payload]++(answers++later))) := by
        apply ih.mono
        intro r later hr
        rw [← append_assoc]
        exact hr.prepend hs
      apply Emits.bindRequire
      · intro hne
        have hh : payload.head?=some (payload.headD 0) := by
          cases payload with
          | nil => exact absurd rfl hne
          | cons x rest => rfl
        have ho (h : ¬isChannelMessageId (payload.headD 0)) : Skimmed [.received payload] :=
          skimmed_received (undecoded_of_head hh h)
        apply Emits.ite
        · intro hid
          apply hag []
          apply ho
          rcases hid with h | h | h | h | h | h | h
          all_goals
            rw [h]
            decide
        intro _
        apply Emits.ite
        · intro hid
          apply Emits.bind (answerGlobalRequest_emits L payload)
          · intro _ evs ha
            exact hag evs ((ho (by rw [hid]; decide)).append ha.skimmed)
          intro e evs ha
          exact (ho (by rw [hid]; decide)).append ha.skimmed
        intro _
        apply Emits.ite
        · intro hid
          apply Emits.bind (refuseChannelOpen_emits L payload)
          · intro _ evs ha
            exact hag evs ((ho (by rw [hid]; decide)).append ha.skimmed)
          intro e evs ha
          exact (ho (by rw [hid]; decide)).append ha.skimmed
        intro _
        rcases hd : channelMessageOf payload with ⟨e | u,message⟩
        · have he : (channelMessageOf payload).1=.error e := by rw [hd]
          apply Emits.bind (handleUndecoded_emits L he)
          · intro _ evs hs
            exact hag evs hs
          intro e evs hs
          exact hs
        apply Emits.pure
        exact ⟨[],payload,rfl,skimmed_nil,hd⟩
      intro hn
      have h0 : payload=[] := length_eq_zero_iff.mp (not_not.mp hn)
      rw [h0]
      exact skimmed_received (by rw [Undecoded,channelMessageOf_nil]; exact nofun)
    · intro e evs h
      exact h.2 (by decide)

/-- The whole receive function: it may still refuse the data of the message it has
received, but that is not the retryable status. -/
def Receives : Except Err ChannelMessage → List Event → Prop
  | .ok m,evs => SkimsTo (.ok m) evs
  | .error e,evs => Skimmed evs ∨ e≠.notFound ∧ ∃ m,SkimsTo (.ok m) evs

lemma receiveChannelMessage_emits (cap : Nat) :
    Emits Conn.trace (sshTransportReceiveChannelMessage L cap) Receives := by
  apply Emits.bind (receiveChannelMessageLoop_emits L 16)
  · intro m evs h
    apply Emits.bindRequire
    · intro _
      apply Emits.pure
      rw [append_nil]
      exact h
    intro _
    rw [append_nil]
    exact .inr ⟨by decide,m,h⟩
  intro e evs h
  exact .inl h

end EMSSHD
