import EMSSHD.Framework.Credit
import EMSSHD.Server.Channel

namespace EMSSHD

structure ChannelView where
  clientChannel : Nat
  serverChannel : Nat
  peerMaxPacketSize : Nat
  peerWindowSize : Nat
  deriving DecidableEq

def ChannelView.credited (v : ChannelView) (n : Nat) : ChannelView :=
  {v with peerWindowSize := addU32Saturating v.peerWindowSize n}

def Event.spent (e : Event) : Nat := e.dataOut.length
def Event.granted (channel : Nat) (e : Event) : Nat := adjustReceived channel [e]

lemma total_spent (evs : List Event) : total Event.spent evs=(dataSent evs).length := by
  rw [dataSent,List.length_flatMap]
  rfl

lemma total_granted (channel : Nat) (evs : List Event) :
    total (Event.granted channel) evs=adjustReceived channel evs := by
  induction evs with
  | nil => rfl
  | cons e evs ih =>
    rw [← singleton_append,adjustReceived_append,total_append,ih]
    simp [total,Event.granted]

/-- Messages that go where they should: answers of the receive loop by itself, and
messages to the client. -/
def Addressed (v : ChannelView) (evs : List Event) : Prop :=
  ∀ m,.sent m∈evs → SentAside evs m ∨ m.recipient?=some v.clientChannel

/-- A history that leads from v to w, with a window that is not larger than what the
client has left. -/
structure Flows (v w : ChannelView) (evs : List Event) : Prop where
  client : w.clientChannel=v.clientChannel
  server : w.serverChannel=v.serverChannel
  maxPacket : w.peerMaxPacketSize=v.peerMaxPacketSize
  window : w.peerWindowSize+(dataSent evs).length≤
    v.peerWindowSize+adjustReceived v.serverChannel evs

/-- A history after which the window is all that the client has left, as long as the
window field does not saturate. -/
structure Kept (v w : ChannelView) (evs : List Event) : Prop extends Flows v w evs where
  exact : v.peerWindowSize+adjustReceived v.serverChannel evs≤uint32Max →
    w.peerWindowSize+(dataSent evs).length=v.peerWindowSize+adjustReceived v.serverChannel evs

/-- A history that keeps to the limits of the client: no more data than it takes at once,
and at no moment more than its window. -/
structure Limited (v : ChannelView) (evs : List Event) : Prop where
  sizes : ∀ recipient bytes,.sent (.data recipient bytes)∈evs → v.peerMaxPacketSize≠0 →
    bytes.length≤v.peerMaxPacketSize
  credit : WithinCredit Event.spent (Event.granted v.serverChannel) v.peerWindowSize evs

variable {v w x : ChannelView} {evs later : List Event} {maxPacket : Nat} {data : Bytes}
  {r : Except Err Unit}

lemma Flows.addressed_trans (h : Flows v w evs) (hv : Addressed v evs) (hl : Addressed w later) :
    Addressed v (evs++later) := by
  intro m hm
  rcases mem_append.mp hm with hm | hm
  · exact (hv m hm).imp_left fun ha => ha.mono fun e he => mem_append_left _ he
  have ha := (hl m hm).imp_left fun ha => ha.mono fun e he => mem_append_right evs he
  rwa [h.client] at ha

lemma Flows.limited_trans (h : Flows v w evs) (hv : Limited v evs) (hl : Limited w later) :
    Limited v (evs++later) := by
  constructor
  · intro recipient bytes hm
    rcases mem_append.mp hm with hm | hm
    · exact hv.sizes recipient bytes hm
    have hs := hl.sizes recipient bytes hm
    rwa [h.maxPacket] at hs
  have hc := hl.credit
  rw [h.server] at hc
  apply hv.credit.trans hc
  rw [total_spent,total_granted]
  exact h.window

lemma Flows.trans (h : Flows v w evs) (hl : Flows w x later) : Flows v x (evs++later) := by
  refine ⟨hl.client.trans h.client,hl.server.trans h.server,hl.maxPacket.trans h.maxPacket,?_⟩
  have hw := h.window
  have hx := hl.window
  rw [h.server] at hx
  rw [dataSent_append,adjustReceived_append,length_append]
  omega

lemma Kept.trans (h : Kept v w evs) (hl : Kept w x later) : Kept v x (evs++later) := by
  refine ⟨h.toFlows.trans hl.toFlows,?_⟩
  intro hm
  have he := h.exact
  have hx := hl.exact
  rw [h.server] at hx
  rw [adjustReceived_append] at hm
  rw [dataSent_append,adjustReceived_append,length_append]
  omega

lemma Kept.refl (v : ChannelView) : Kept v v [] :=
  ⟨⟨rfl,rfl,rfl,Nat.le_refl _⟩,fun _ => rfl⟩

lemma addressed_nil (v : ChannelView) : Addressed v [] := nofun

lemma Quiet.limited (h : Quiet evs) (v : ChannelView) : Limited v evs := by
  constructor
  · intro recipient bytes hm _
    have hb : bytes=[] := (h _ hm).1
    rw [hb]
    exact Nat.zero_le _
  apply WithinCredit.of_le
  rw [total_spent,h.sent]
  exact Nat.zero_le _

lemma DataOut.addressed (h : DataOut v.clientChannel maxPacket data r evs) : Addressed v evs := by
  intro m hm
  obtain ⟨bytes,he,_⟩ := h.sends _ hm
  cases he
  exact .inr rfl

lemma DataOut.limited (h : DataOut v.clientChannel v.peerMaxPacketSize data r evs)
    (hw : data.length≤v.peerWindowSize) : Limited v evs := by
  constructor
  · intro recipient bytes hm
    obtain ⟨_,he,hl⟩ := h.sends _ hm
    cases he
    exact hl
  apply WithinCredit.of_le
  rw [total_spent]
  exact le_trans h.front.length_le hw

lemma DataOut.kept (h : DataOut v.clientChannel maxPacket data (.ok ()) evs)
    (hw : data.length≤v.peerWindowSize)
    (hv : w={v with peerWindowSize := v.peerWindowSize-data.length}) : Kept v w evs := by
  subst hv
  have hin : adjustReceived v.serverChannel evs=0 := by
    rw [adjustReceived,h.quiet.2.2]
    rfl
  have hl : v.peerWindowSize-data.length+(dataSent evs).length=
      v.peerWindowSize+adjustReceived v.serverChannel evs := by
    rw [h.whole rfl,hin]
    omega
  exact ⟨⟨rfl,rfl,rfl,hl.le⟩,fun _ => hl⟩

variable {κ C α β : Type} (R : Prop) (view : C → ChannelView)

/-- One call on a channel, as flow control sees it. Whatever its status, its messages go
to the client, and under the assumption R they keep to the limits of the client. Unless
the call has failed, the window is kept. -/
def ChannelStep (s : Conn κ×C) (r : Except Err α) (u : Conn κ×C) : Prop :=
  ∃ evs,u.1.trace=s.1.trace++evs ∧ Addressed (view s.2) evs ∧ (R → Limited (view s.2) evs) ∧
    ((∀ e,r=.error e → e=.notFound) → Kept (view s.2) (view u.2) evs)

variable {R} {view}

lemma Kept.step {s u : Conn κ×C} {evs : List Event} (r : Except Err α)
    (h : Kept (view s.2) (view u.2) evs) (ht : u.1.trace=s.1.trace++evs) (hq : Quiet evs)
    (ha : Addressed (view s.2) evs) : ChannelStep R view s r u :=
  ⟨evs,ht,ha,fun _ => hq.limited _,fun _ => h⟩

variable {s t u : Conn κ×C} {a : α} {e : Err} {m : Option ChannelMessage} {evs : List Event}

lemma channelStep_same (r : Except Err α) (ht : u.1.trace=s.1.trace) (hv : view u.2=view s.2) :
    ChannelStep R view s r u := by
  have hk : Kept (view s.2) (view u.2) [] := by
    rw [hv]
    exact Kept.refl _
  exact hk.step r (by rw [ht,append_nil]) (forall_mem_nil _) (addressed_nil _)

lemma Grown.step {s u : Conn κ×C} (r : Except Err α) (h : Grown s u []) :
    ChannelStep R view s r u :=
  channelStep_same r (by rw [h.trace,append_nil]) (by rw [h.channel])

lemma ChannelStep.trans {r : Except Err β} (h : ChannelStep R view s (.ok a) t)
    (hl : ChannelStep R view t r u) : ChannelStep R view s r u := by
  obtain ⟨evs,ht,had,hli,hkt⟩ := h
  obtain ⟨later,hu,ha,hlm,hkp⟩ := hl
  have hk := hkt nofun
  refine ⟨evs++later,by rw [hu,ht,append_assoc],hk.addressed_trans had ha,?_,?_⟩
  · intro hR
    exact hk.limited_trans (hli hR) (hlm hR)
  intro hr
  exact hk.trans (hkp hr)

lemma ChannelStep.error (h : ChannelStep R view s (.error e : Except Err α) u) :
    ChannelStep R view s (.error e : Except Err β) u := by
  obtain ⟨evs,ht,ha,hl,hk⟩ := h
  exact ⟨evs,ht,ha,hl,fun hr => hk fun x hx => hr x (by cases hx; rfl)⟩

lemma ChannelStep.then {c : Call (Conn κ×C) Err β} (h : ChannelStep R view s (.ok a) t)
    (hc : c.Ensures t (ChannelStep R view t)) :
    c.Ensures t (ChannelStep R view s) := hc.mono fun _ _ hl => h.trans hl

lemma Replied.step {s u : Conn κ×C} {m : ServerMessage} {r : Except Err Unit}
    (h : Replied m s r u) (hm : m.recipient?=some (view s.2).clientChannel)
    (hd : (Event.sent m).dataOut=[]) : ChannelStep R view s r u := by
  cases h with
  | sent h =>
    have hq : Quiet [.sent m] := by
      intro e he
      rw [mem_singleton.mp he]
      exact ⟨hd,nofun⟩
    have hk : Kept (view s.2) (view u.2) [.sent m] := by
      have hl : (dataSent [.sent m]).length=0 := by rw [hq.sent]; rfl
      rw [h.channel]
      exact ⟨⟨rfl,rfl,rfl,by rw [hl]; exact Nat.le_add_right _ _⟩,fun _ => by rw [hl]; rfl⟩
    apply hk.step _ h.trace hq
    intro x hx
    cases mem_singleton.mp hx
    exact .inr hm
  | failed he h => exact h.step _

lemma Replenish.step {W : ReceiveWindow C} {s u : Conn κ×C} {r : Except Err Unit}
    (h : Replenish W s r u) (hm : W.clientChannel s.2=(view s.2).clientChannel)
    (hgr : ∀ n c,view (W.grow n c)=view c) : ChannelStep R view s r u := by
  cases h with
  | enough _ => exact channelStep_same _ rfl rfl
  | granted _ ht hc =>
    have hr : Replied (.windowAdjust (W.clientChannel s.2)
        (W.windowMaxSize s.2-W.windowSize s.2)) s (.ok ()) (u.1,s.2) := .sent ⟨ht,rfl⟩
    exact (hr.step (congrArg some hm) rfl).trans (channelStep_same _ rfl (by rw [hc,hgr]))
  | failed _ hg => exact hg.step _

lemma Arrives.addressed (h : Arrives s t m evs) (v : ChannelView) : Addressed v evs :=
  fun reply hr => .inl (h.sends reply hr)

lemma Arrives.granted (h : Arrives s t m evs) (channel : Nat) :
    adjustReceived channel evs=(m.map (ChannelMessage.adjustBytes channel)).getD 0 := by
  rw [adjustReceived,h.message]
  cases m with
  | none => rfl
  | some m => simp

lemma Arrives.step {s t u : Conn κ×C} {m : Option ChannelMessage} {evs : List Event}
    (r : Except Err α) (h : Arrives s t m evs) (ht : u.1=t.1)
    (hw : view u.2=(view s.2).credited
      ((m.map (ChannelMessage.adjustBytes (view s.2).serverChannel)).getD 0)) :
    ChannelStep R view s r u := by
  have hk : Kept (view s.2) (view u.2) evs := by
    rw [hw,← h.granted]
    refine ⟨⟨rfl,rfl,rfl,?_⟩,?_⟩
    · rw [h.quiet.sent]
      exact addU32Saturating_le _ _
    intro hm
    rw [h.quiet.sent]
    exact addU32Saturating_of_le hm
  exact hk.step r (by rw [ht,h.grown.trace]) h.quiet (h.addressed _)

lemma Arrives.uncredited (r : Except Err α) (h : Arrives s t m evs)
    (hm : ∀ x∈m,x.messageId≠sshMsgChannelWindowAdjust) : ChannelStep R view s r t := by
  apply h.step r rfl
  have hz : (m.map (ChannelMessage.adjustBytes (view s.2).serverChannel)).getD 0=0 := by
    cases m with
    | none => rfl
    | some m => exact if_neg fun ha => hm m rfl ha.1
  rw [hz,ChannelView.credited,addU32Saturating_zero,h.grown.channel]

lemma Arrives.failed (h : Arrives s u m evs) (he : e≠.notFound) :
    ChannelStep R view s (.error e : Except Err α) u :=
  ⟨evs,h.grown.trace,h.addressed _,fun _ => h.quiet.limited _,fun hr => absurd (hr e rfl) he⟩

variable {proc : Call (Conn κ×C) Err Unit}

/-- A session loop: calls that go on after a success or a timeout. -/
structure SessionHistory (R : Prop) (view : C → ChannelView) (s t : Conn κ×C)
    (evs : List Event) : Prop where
  trace : t.1.trace=s.1.trace++evs
  addressed : Addressed (view s.2) evs
  limited : R → Limited (view s.2) evs

variable {s t : Conn κ×C}

lemma kept_of_run (hp : ∀ s,proc.Ensures s (ChannelStep R view s))
    (h : Run proc (fun _ r _ => Continues r) s t) :
    ∃ evs,SessionHistory R view s t evs ∧ Kept (view s.2) (view t.2) evs := by
  induction h with
  | start =>
    exact ⟨[],⟨(append_nil _).symm,addressed_nil _,fun _ =>
      Quiet.limited (forall_mem_nil _) _⟩,Kept.refl _⟩
  | next _ hc hr ih =>
    obtain ⟨evs,hi,hk⟩ := ih
    obtain ⟨later,hu,ha,hlm,hl⟩ := (hp _).of_eq hc
    refine ⟨evs++later,⟨by rw [hu,hi.trace,append_assoc],hk.addressed_trans hi.addressed ha,
      fun hR => hk.limited_trans (hi.limited hR) (hlm hR)⟩,hk.trans (hl ?_)⟩
    rintro e rfl
    rcases hr with hr | hr
    · cases hr
    · exact Except.error.inj hr

lemma history_of_run {u : Conn κ×C} {r : Except Err Unit}
    (hp : ∀ s,proc.Ensures s (ChannelStep R view s)) (h : Run proc (fun _ r _ => Continues r) s t)
    (hc : proc.run t=(r,u)) : ∃ evs,SessionHistory R view s u evs := by
  obtain ⟨evs,hi,hk⟩ := kept_of_run hp h
  obtain ⟨later,hu,ha,hl,_⟩ := (hp t).of_eq hc
  exact ⟨evs++later,by rw [hu,hi.trace,append_assoc],hk.addressed_trans hi.addressed ha,
    fun hR => hk.limited_trans (hi.limited hR) (hl hR)⟩

end EMSSHD
