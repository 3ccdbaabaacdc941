import EMSSHD.Core.Transport.Receive

namespace EMSSHD

open Call

variable {κ : Type} (L : LinkApi κ)

/-- What the receive functions do before a channel has its purpose: payloads of any kind
come in, and answers go to no open channel. -/
def Heard (evs : List Event) : Prop :=
  ∀ e∈evs,(∃ payload,e=.received payload) ∨ e=.sent .requestFailure ∨
    ∃ recipient reason text,e=.sent (.openFailure recipient reason text)

lemma heard_nil : Heard [] := forall_mem_nil _

variable {evs : List Event}

lemma Heard.append {later : List Event} (h : Heard evs) (hl : Heard later) :
    Heard (evs++later) := forall_mem_append.mpr ⟨h,hl⟩

lemma Inbound.heard (h : Inbound evs) : Heard evs :=
  fun e he => .inl (h e he)

lemma AnswersAside.heard (h : AnswersAside evs) : Heard evs :=
  fun e he => .inr (h e he)

lemma heard_received (payload : Bytes) : Heard [.received payload] :=
  (inbound_nil.cons payload).heard

/-- The function has come back with the CHANNEL_OPEN it has received last. -/
def HeardOpen : Except Err ChannelOpen → List Event → Prop
  | .ok channelOpen,evs => ∃ front payload,evs=front++[.received payload] ∧ Heard front ∧
    decodePayload sshChannelOpenDecode {} payload=(.ok (),channelOpen)
  | .error _,evs => Heard evs

lemma HeardOpen.prepend {r : Except Err ChannelOpen} {front : List Event} (hf : Heard front)
    (h : HeardOpen r evs) : HeardOpen r (front++evs) := by
  rcases r with _ | channelOpen
  · exact hf.append h
  obtain ⟨more,payload,rfl,hm,hd⟩ := h
  exact ⟨front++more,payload,by rw [append_assoc],hf.append hm,hd⟩

lemma SkippedTo.heard {capacity : Nat} {r : Except Err Bytes} (h : SkippedTo capacity r evs) :
    Heard evs := by
  cases r with
  | error e => exact h.1.heard
  | ok payload =>
    obtain ⟨skipped,rfl,_,hs⟩ := h
    exact hs.heard.append (heard_received payload)

lemma receiveChannelOpenSkipGlobalRequests_emits :
    Emits Conn.trace (sshTransportReceiveChannelOpenSkipGlobalRequests L) HeardOpen := by
  unfold sshTransportReceiveChannelOpenSkipGlobalRequests
  generalize 8=tries
  induction tries with
  | zero =>
    apply Emits.fail
    exact heard_nil
  | succ tries ih =>
    apply Emits.bind (skipIgnorable_emits L emsshMaxChannelOpenPayload)
    · rintro payload evs ⟨skipped,rfl,_,hs⟩
      suffices h : Emits Conn.trace _
          (fun r later => HeardOpen r ([.received payload]++later)) by
        apply h.mono
        intro r later hr
        rw [append_assoc]
        exact hr.prepend hs.heard
      have hf (e : Err) : HeardOpen (.error e) ([.received payload]++[]) := heard_received payload
      apply Emits.bindRequire
      · intro _
        apply Emits.ite
        · intro _
          rcases hd : decodePayload sshChannelOpenDecode {} payload with ⟨e | u,channelOpen⟩
          · exact Emits.fail (hf e)
          apply Emits.pure
          exact ⟨[],payload,rfl,heard_nil,hd⟩
        intro _
        apply Emits.ite
        · intro _
          apply Emits.bind (answerGlobalRequest_emits L payload)
          · intro _ answers ha
            apply ih.mono
            intro r later hr
            rw [← append_assoc]
            exact hr.prepend ((heard_received payload).append ha.heard)
          intro e answers ha
          exact (heard_received payload).append ha.heard
        intro _
        exact Emits.fail (hf _)
      intro _
      exact hf _
    intro e evs h
    exact h.1.heard

/-- What the client has said since the trace was l is no more than is heard. -/
abbrev HeardSince (l : List Event) (conn : Conn κ) : Prop := Since Conn.trace Heard l conn

lemma receiveChannelRequest_heard (l : List Event) :
    Keeps (fun s : Conn κ×ChannelRequest => HeardSince l s.1)
      (sshTransportReceiveChannelRequest L) := by
  have hr {α : Type} {c : Call (Conn κ) Err α} (h : Emits Conn.trace c fun _ => Heard) :
      Keeps (fun s : Conn κ×ChannelRequest => HeardSince l s.1) (Call.onFst c) :=
    fun s => h.keeps (fun _ _ => Heard.append) l s.1
  have ha (payload : Bytes) := hr ((answerGlobalRequest_emits L payload).mono fun _ _ => (·.heard))
  have ho (payload : Bytes) := hr ((refuseChannelOpen_emits L payload).mono fun _ _ => (·.heard))
  have hs := hr ((skipIgnorable_emits L emsshMaxChannelRequestPayload).mono fun _ _ => (·.heard))
  unfold sshTransportReceiveChannelRequest
  generalize 16=tries
  induction tries with
  | zero => exact .fail _
  | succ tries ih =>
    refine .bind hs fun payload => .bind (.modify fun _ => id) fun _ => .bind (.require _ _) fun _ =>
      .ite (.bind (.modify fun _ => id) fun _ => .lift _) (.ite ?_ (.ite ?_ (.ite ?_ (.ite ?_ ?_))))
    · exact .bind (.lift _) fun _ => .fail _
    · exact .bind (ha payload) fun _ => ih
    · exact .bind (ho payload) fun _ => ih
    · exact .bind (.lift _) fun _ => ih
    · exact .ite ih (.fail _)

end EMSSHD
