import EMSSHD.Server.Common

namespace EMSSHD

open Call

variable {κ C : Type}

section
variable (L : LinkApi κ)

structure ReceiveWindow (C : Type) where
  clientChannel : C → Nat
  windowSize : C → Nat
  windowMaxSize : C → Nat
  grow : (bytesToAdd : Nat) → C → C

def replenishReceiveWindow (W : ReceiveWindow C) : Call (Conn κ×C) Err Unit := do
  let s ← Call.get
  Call.require (W.windowMaxSize s.2≠0) .invalidArgument
  let bytesToAdd := W.windowMaxSize s.2-W.windowSize s.2
  if W.windowMaxSize s.2/2<W.windowSize s.2 ∨ bytesToAdd=0 then pure ()
  else do
    Call.onFst (sshTransportSendChannelWindowAdjust L (W.clientChannel s.2) bytesToAdd)
    Call.modify fun t => (t.1,W.grow bytesToAdd t.2)

def sendOnce (send : C → Call (Conn κ) Err Unit) (flag : C → Bool) (set : C → C) :
    Call (Conn κ×C) Err Unit := do
  let s ← Call.get
  Call.onlyIf (flag s.2=false) do
    Call.onFst (send s.2)
    Call.modify fun t => (t.1,set t.2)
end

/-- The session has gone on by the given events, and the channel is as it was. -/
structure Grown (s u : Conn κ×C) (evs : List Event) : Prop where
  trace : u.1.trace=s.1.trace++evs
  channel : u.2=s.2

lemma Grown.refl (s : Conn κ×C) : Grown s s [] := ⟨(append_nil _).symm,rfl⟩

/-- A message sent in answer, or a failure to send it. -/
inductive Replied (m : ServerMessage) (s : Conn κ×C) : Except Err Unit → Conn κ×C → Prop
  | sent {u : Conn κ×C} (h : Grown s u [.sent m]) : Replied m s (.ok ()) u
  | failed {u : Conn κ×C} {e : Err} (he : e≠.notFound) (h : Grown s u []) :
    Replied m s (.error e) u

/-- What sendOnce does, for the flag it looks at. -/
inductive Once (m : ServerMessage) (flag : Bool) (set : C → C) (s : Conn κ×C) :
    Except Err Unit → Conn κ×C → Prop
  | already (h : flag=true) : Once m flag set s (.ok ()) s
  | sent {u : Conn κ×C} (h : flag=false) (ht : u.1.trace=s.1.trace++[.sent m])
    (hc : u.2=set s.2) : Once m flag set s (.ok ()) u
  | failed {u : Conn κ×C} {e : Err} (h : flag=false) (he : e≠.notFound) (hg : Grown s u []) :
    Once m flag set s (.error e) u

/-- What replenishReceiveWindow does. -/
inductive Replenish (W : ReceiveWindow C) (s : Conn κ×C) : Except Err Unit → Conn κ×C → Prop
  | enough (h : W.windowMaxSize s.2/2<W.windowSize s.2) : Replenish W s (.ok ()) s
  | granted {u : Conn κ×C} (h : W.windowSize s.2≤W.windowMaxSize s.2/2)
    (ht : u.1.trace=s.1.trace++[.sent (.windowAdjust (W.clientChannel s.2)
      (W.windowMaxSize s.2-W.windowSize s.2))])
    (hc : u.2=W.grow (W.windowMaxSize s.2-W.windowSize s.2) s.2) : Replenish W s (.ok ()) u
  | failed {u : Conn κ×C} {e : Err} (he : e≠.notFound) (hg : Grown s u []) :
    Replenish W s (.error e) u

section
variable (L : LinkApi κ)

lemma reply_spec (m : ServerMessage) (s : Conn κ×C) :
    (Call.onFst (sendMessage L m)).Ensures s (Replied m s) := by
  apply (Ensures.onFst (sendMessage_emits L m s.1)).mono
  rintro (e | _) ⟨conn,c⟩ ⟨⟨evs,ht,hr⟩,rfl⟩
  · obtain ⟨rfl,he⟩ := hr
    exact .failed he ⟨ht,rfl⟩
  obtain rfl := hr
  exact .sent ⟨ht,rfl⟩

lemma sendOnce_spec {send : C → Call (Conn κ) Err Unit} {flag : C → Bool} {set : C → C}
    {m : ServerMessage} (s : Conn κ×C) (hs : send s.2=sendMessage L m) :
    (sendOnce send flag set).Ensures s (Once m (flag s.2) set s) := by
  apply bindGet
  apply Ensures.onlyIf
  · intro hf
    rw [hs]
    apply Ensures.bind (reply_spec L m s)
    · rintro _ t (h | _)
      apply Ensures.modify
      exact .sent hf h.trace (by rw [h.channel])
    rintro e t (_ | ⟨he,h⟩)
    exact .failed hf he h
  intro hf
  exact .already (by simpa using hf)

lemma replenishReceiveWindow_spec (W : ReceiveWindow C) (s : Conn κ×C) :
    (replenishReceiveWindow L W).Ensures s (Replenish W s) := by
  apply bindGet
  apply bindRequire
  · intro hm
    apply Ensures.ite
    · intro hen
      apply Ensures.pure
      exact .enough (by omega)
    intro hl
    have ha : W.windowMaxSize s.2-W.windowSize s.2≠0 := by omega
    have hr : (Call.onFst (sshTransportSendChannelWindowAdjust L (W.clientChannel s.2)
        (W.windowMaxSize s.2-W.windowSize s.2))).Ensures s
        (Replied (.windowAdjust (W.clientChannel s.2)
          (W.windowMaxSize s.2-W.windowSize s.2)) s) := by
      rw [sshTransportSendChannelWindowAdjust,Call.require,if_pos ha]
      exact reply_spec L _ s
    apply Ensures.bind hr
    · rintro _ t (h | _)
      apply Ensures.modify
      exact .granted (by omega) h.trace (by rw [h.channel])
    rintro e t (_ | ⟨he,h⟩)
    exact .failed he h
  intro _
  exact .failed (by decide) (Grown.refl s)

lemma receiveStatus_spec (cap : Nat) (s : Conn κ×C) :
    (Call.status (Call.onFst (sshTransportReceiveChannelMessage L cap))).Ensures s
      (fun r t => ∃ q,r=.ok q ∧ ∃ evs,Receives q evs ∧ Grown s t evs) := by
  apply Ensures.status (Ensures.onFst (receiveChannelMessage_emits L cap s.1))
  rintro q ⟨conn,_⟩ ⟨⟨evs,ht,hq⟩,rfl⟩
  exact ⟨q,rfl,evs,hq,ht,rfl⟩
end

def Gets (s : Conn κ×C) (m : ChannelMessage) (t : Conn κ×C) : Prop :=
  ∃ skim payload,Skimmed skim ∧ channelMessageOf payload=(.ok (),m) ∧
    Grown s t (skim++[.received payload])

/-- What the receive function has taken in: payloads passed over, and at the end the
message it returns, if any. -/
structure Arrives (s t : Conn κ×C) (m : Option ChannelMessage) (evs : List Event) : Prop where
  grown : Grown s t evs
  quiet : Quiet evs
  message : messagesIn evs=m.toList
  sends : ∀ reply,.sent reply∈evs → SentAside evs reply

variable {s t : Conn κ×C} {evs : List Event} {m : ChannelMessage}

lemma arrives_skim (hs : Skimmed evs) (hg : Grown s t evs) : Arrives s t none evs := by
  refine ⟨hg,hs.quiet,hs.messagesIn,?_⟩
  intro reply hr
  rcases hs _ hr with ⟨payload,h,_⟩ | ⟨m,h,ha⟩
  · cases h
  cases h
  exact ha

lemma arrives_message (hs : SkimsTo (.ok m) evs) (hg : Grown s t evs) :
    Arrives s t (some m) evs := by
  obtain ⟨skim,payload,rfl,hsk,hd⟩ := hs
  refine ⟨hg,hsk.quiet.append (quiet_received payload),?_,?_⟩
  · rw [messagesIn_append,hsk.messagesIn,messagesIn_received hd]
    rfl
  intro reply hr
  rcases mem_append.mp hr with hr | hr
  · rcases hsk _ hr with ⟨payload,h,_⟩ | ⟨m,h,ha⟩
    · cases h
    cases h
    exact ha.mono fun e he => mem_append_left _ he
  · cases mem_singleton.mp hr

lemma Gets.arrives (h : Gets s m t) : ∃ evs,Arrives s t (some m) evs := by
  obtain ⟨skim,payload,hs,hd,hg⟩ := h
  exact ⟨_,arrives_message ⟨skim,payload,rfl,hs,hd⟩ hg⟩

end EMSSHD
