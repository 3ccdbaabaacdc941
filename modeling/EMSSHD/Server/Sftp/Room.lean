import EMSSHD.Server.Accounting
import EMSSHD.Server.Sftp.Pending

namespace EMSSHD

open Call

variable {κ σ : Type}

def Unrefused (s u : SftpState κ σ) : Prop :=
  ∃ evs,u.1.trace=s.1.trace++evs ∧ ∀ data,.refused data∉evs

lemma Unrefused.refl (s : SftpState κ σ) : Unrefused s s :=
  ⟨[],(append_nil _).symm,nofun⟩

variable {s t u : SftpState κ σ} {evs : List Event} {m : ChannelMessage} {r : Except Err Unit}

lemma Unrefused.trans (h : Unrefused s t) (hl : Unrefused t u) : Unrefused s u := by
  obtain ⟨evs,ht,hn⟩ := h
  obtain ⟨later,hu,hm⟩ := hl
  refine ⟨evs++later,by rw [hu,ht,append_assoc],?_⟩
  intro data hd
  rcases mem_append.mp hd with hd | hd
  · exact hn data hd
  · exact hm data hd

lemma Grown.unrefused (hg : Grown s t evs) (hs : Skimmed evs) : Unrefused s t := by
  refine ⟨evs,hg.trace,?_⟩
  intro data hd
  rcases hs _ hd with ⟨_,h,_⟩ | ⟨_,h,_⟩
  · cases h
  · cases h

lemma Gets.unrefused (hg : Gets s m t) : Unrefused s t := by
  obtain ⟨skim,payload,hs,_,hgr⟩ := hg
  refine ⟨_,hgr.trace,?_⟩
  intro data hd
  rcases mem_append.mp hd with hd | hd
  · rcases hs _ hd with ⟨_,h,_⟩ | ⟨_,h,_⟩
    · cases h
    · cases h
  · cases mem_singleton.mp hd

lemma Answers.unrefused (h : Answers s u evs) : Unrefused s u := by
  refine ⟨evs,h.trace,?_⟩
  intro data hd
  obtain ⟨_,h,_⟩ := h.sends _ hd
  cases h

lemma ServeOutcome.unrefused (h : ServeOutcome s r u) : Unrefused s u := by
  obtain ⟨evs,hs,_⟩ := h.progress
  refine ⟨evs,hs.trace,?_⟩
  intro data hd
  rcases hs.sends _ hd with ⟨_,h,_⟩ | ⟨_,_,h,_⟩
  · cases h
  · cases h

lemma MessageEffect.unrefused (h : MessageEffect s m r u) :
    Unrefused s u ∨ m.dataBytes.length ≤ s.2.windowSize ∧
      emsshSftpMaxPacketSize<s.2.sftpRx.bytes.length+m.dataBytes.length := by
  cases h with
  | answered ha hid => exact .inl ha.unrefused
  | credited hid hrx => exact .inl (Unrefused.refl s)
  | creditServed hid hrx ho => exact .inl ho.unrefused
  | @dataRefused t evs hid hw ha hr =>
    have hrx : t.2.sftpRx.bytes=s.2.sftpRx.bytes := congrArg ChannelFlow.sftpRx ha.flow
    have hb : m.dataBytes=m.data.getD [] := if_pos hid
    rw [hrx] at hr
    rw [hb]
    exact .inr ⟨hw,by omega⟩
  | dataServed hid ha hr ho => exact .inl (ha.unrefused.trans ho.unrefused)

/-- A call refuses data only if the window admits the message and the buffer has no room. -/
lemma SftpStep.unrefused (h : SftpStep s r u) :
    Unrefused s u ∨ (dataReceived (newEvents s.1 u.1)).length ≤ s.2.windowSize ∧
      emsshSftpMaxPacketSize<
        s.2.sftpRx.bytes.length+(dataReceived (newEvents s.1 u.1)).length := by
  cases h with
  | uninitialized h => exact .inl (Unrefused.refl s)
  | lost he hs hg =>
    rcases hs with hs | ⟨m,skim,payload,rfl,hs,hd⟩
    · exact .inl (hg.unrefused hs)
    have hgt : Gets s m u := ⟨skim,payload,hs,hd,hg⟩
    exact .inl hgt.unrefused
  | idle hs hg hrx hr => exact .inl (hg.unrefused hs)
  | resume hs hg hrx ho => exact .inl ((hg.unrefused hs).trans ho.unrefused)
  | misdirected hg hm => exact .inl hg.unrefused
  | @message m _ t _ hg hm ho =>
    rcases ho.effect.unrefused with h | h
    · exact .inl (hg.unrefused.trans h)
    have hdt : dataReceived (newEvents s.1 u.1)=m.dataBytes := by
      rw [dataReceived,hg.messagesIn ho.effect]
      exact append_nil _
    obtain ⟨_,_,_,_,hgr⟩ := hg
    rw [hdt,← hgr.channel]
    exact .inr h

/-- The wire bytes of the requests that are answered: their responses are complete among the
first n bytes of data sent to the client. -/
def answered : (n : Nat) → List Event → Nat
  | _,[] => 0
  | n,.handled packet response::evs =>
    if response.length≤n then packet.length+answered (n-response.length) evs else 0
  | n,_::evs => answered n evs

/-- A request is handled before it is answered. -/
lemma answered_le (n : Nat) (evs : List Event) : answered n evs≤(packetsHandled evs).length := by
  induction evs generalizing n with
  | nil => exact Nat.zero_le _
  | cons e evs ih =>
    have hc : packetsHandled (e::evs)=e.packetIn++packetsHandled evs := rfl
    rw [hc,length_append]
    cases e with
    | handled packet response =>
      rw [answered,Event.packetIn]
      split_ifs
      · exact Nat.add_le_add_left (ih _) _
      · exact Nat.zero_le _
    | _ => exact (ih n).trans (Nat.le_add_left _ _)

/-- What the client has sent behind its last answered request. -/
def unanswered (evs : List Event) : Bytes :=
  (dataReceived evs).drop (answered (dataSent evs).length evs)

/-- At most one packet, of a size the protocol allows. -/
def WithinPacket (rx : Bytes) : Prop :=
  rx.length<4 ∨ ValidLength rx ∧ rx.length≤beValue (rx.take 4)+4

lemma WithinPacket.length_le {rx : Bytes} (h : WithinPacket rx) :
    rx.length≤emsshSftpMaxPacketSize := by
  have hm : 4≤emsshSftpMaxPacketSize := by decide
  rcases h with h | ⟨⟨_,hv⟩,hl⟩
  · omega
  · omega

/-- The client sends data in the call from t to u only when the unanswered part of its
requests leaves room for a whole window, or when all that is unanswered then is within a
single packet. -/
def KeepsPace (s t u : SftpState κ σ) : Prop :=
  dataReceived (newEvents t.1 u.1)=[] ∨
  (unanswered (newEvents s.1 t.1)).length≤emsshSftpMaxPacketSize-emsshDefaultChannelWindowSize ∨
  WithinPacket (unanswered (newEvents s.1 t.1)++dataReceived (newEvents t.1 u.1))

/-- What is received and not handled is in the buffer, so it is part of what is unanswered. -/
lemma StreamsKept.rx_le (hk : StreamsKept s t evs) (hs : s.2.sftpRx.bytes=[]) :
    t.2.sftpRx.bytes.length≤(unanswered evs).length := by
  have hr := congrArg List.length hk.requests
  have ha := answered_le (dataSent evs).length evs
  rw [hs,nil_append,length_append] at hr
  rw [unanswered,length_drop]
  omega

/-- A call in which the client keeps its pace refuses nothing: the window does not admit more
than fits behind the unanswered requests. -/
lemma SftpStep.unrefused_of_pace (h : SftpStep t r u) (hs : s.2.sftpRx.bytes=[])
    (hk : StreamsKept s t evs) (hw : t.2.windowSize≤emsshDefaultChannelWindowSize)
    (hp : KeepsPace s t u) : Unrefused t u := by
  rcases h.unrefused with hn | ⟨hd,ho⟩
  · exact hn
  have hrx := hk.rx_le hs
  have hm : emsshDefaultChannelWindowSize≤emsshSftpMaxPacketSize := by decide
  have hb := t.2.sftpRx.fits
  rw [KeepsPace,newEvents_eq hk.trace] at hp
  rcases hp with hp | hp | hp
  · rw [hp,length_nil] at ho
    omega
  · omega
  have hl := hp.length_le
  rw [length_append] at hl
  omega

section
variable (L : LinkApi κ) (S : SftpServer σ)

/-- The state of a run in which nothing has been refused. -/
structure RoomKept (s t : SftpState κ σ) : Prop where
  streams : ∃ evs,StreamsKept s t evs
  unrefused : Unrefused s t
  window : t.2.receiveView.Open
  windowMax : t.2.windowMaxSize=emsshDefaultChannelWindowSize

variable {L S}

lemma RoomKept.call (h : RoomKept s t) (hs : s.2.sftpRx.bytes=[])
    (hc : (sshServerProcessSftpChannelData L S).run t=(r,u)) (hp : KeepsPace s t u) :
    Unrefused s u := by
  obtain ⟨evs,hk⟩ := h.streams
  have hst := (processSftpChannelData_step L S t).of_eq hc
  have hw : t.2.windowSize≤emsshDefaultChannelWindowSize := h.windowMax ▸ h.window.size
  exact h.unrefused.trans (hst.unrefused_of_pace hs hk hw hp)

lemma RoomKept.step (h : RoomKept s t) (hs : s.2.sftpRx.bytes=[])
    (hc : (sshServerProcessSftpChannelData L S).run t=(r,u)) (hr : Continues r)
    (hp : KeepsPace s t u) : RoomKept s u := by
  obtain ⟨evs,hk⟩ := h.streams
  obtain ⟨later,hl⟩ := ((processSftpChannelData_step L S t).of_eq hc).stepFlow.streamsKept hr
  have hw := ((processSftpChannelData_moves L S t).of_eq hc).windowHolds h.window
  have hm : u.2.windowMaxSize=t.2.windowMaxSize := hw.maxSize
  refine ⟨⟨evs++later,hk.trans hl⟩,h.call hs hc hp,⟨?_,hw.bounded⟩,hm.trans h.windowMax⟩
  rw [hw.maxSize]
  exact h.window.maxSize

variable (L S)

/-- With the default window, a client that keeps its pace is never refused for lack of room,
however it cuts its packets. Data beyond the credit is not admitted, so the credit bounds
what comes behind the unanswered requests; and a single packet of the largest size fits. -/
theorem sftpRx_has_room {s t u : SftpState κ σ} {r : Except Err Unit}
    (hs : s.2.sftpRx.bytes=[]) (hw : s.2.windowSize=emsshDefaultChannelWindowSize)
    (hm : s.2.windowMaxSize=emsshDefaultChannelWindowSize)
    (h : Run (sshServerProcessSftpChannelData L S)
      (fun t r u => Continues r ∧ KeepsPace s t u) s t)
    (hc : (sshServerProcessSftpChannelData L S).run t=(r,u)) (hu : KeepsPace s t u) :
    ∀ data,.refused data∉newEvents s.1 u.1 := by
  have ho : s.2.receiveView.Open :=
    ⟨fun h0 => absurd (hm.symm.trans h0) (by decide),hw.trans hm.symm |>.le⟩
  have hrn : RoomKept s t := by
    apply h.invariant (RoomKept s)
    · exact ⟨⟨[],StreamsKept.refl s⟩,Unrefused.refl s,ho,hm⟩
    intro t r u ht hc hp
    exact ht.step hs hc hp.1 hp.2
  obtain ⟨all,ha,hn⟩ := hrn.call hs hc hu
  rw [newEvents_eq ha]
  exact hn
end

theorem sftpRx_has_room_splitInit :
    ∃ t u,Run (sshServerProcessSftpChannelData scriptLink sampleSftp)
        (fun t r u => Continues r ∧ KeepsPace splitInit t u) splitInit t ∧
      (sshServerProcessSftpChannelData scriptLink sampleSftp).run t=(.error .notFound,u) ∧
      dataReceived (newEvents splitInit.1 u.1)=[0,0,0,5,1,0,0,0,3] ∧
      ∀ data,.refused data∉newEvents splitInit.1 u.1 := by
  have h0 : Run (sshServerProcessSftpChannelData scriptLink sampleSftp)
      (fun t r u => Continues r ∧ KeepsPace splitInit t u) splitInit splitInit := Run.start
  have h1 := h0.step ⟨.inl rfl,.inr (.inl (Nat.le_of_ble_eq_true rfl))⟩
  have h2 := h1.step ⟨.inl rfl,.inl rfl⟩
  exact ⟨_,_,h2,rfl,rfl,sftpRx_has_room scriptLink sampleSftp rfl rfl rfl h2 rfl
    (.inr (.inl (Nat.le_of_ble_eq_true rfl)))⟩

def Event.clientData (e : Event) : Nat := ((e.message?.map ChannelMessage.dataBytes).getD []).length

/-- A request of 32768 bytes on the wire. -/
@[irreducible] def writePacket : Bytes := beBytes 4 32764++List.replicate 32764 0

lemma writePacket_length : writePacket.length=32768 := by
  rw [writePacket,length_append,beBytes_length,length_replicate]

lemma writePacket_whole : WholePacket writePacket := by
  rw [WholePacket,writePacket_length,writePacket,take_left' (beBytes_length 4 32764),
    beValue_beBytes_of_lt 4 _ (by decide)]

/-- The channel of the example: the response to the SSH_FXP_INIT waits, for the client has
opened the channel with a window of 0. -/
def blockedChannel (windowSize : Nat) (sftpRx : Bounded emsshSftpMaxPacketSize) :
    SftpChannel Unit :=
  {sampleChannel 0 with
    windowSize := windowSize
    sftpRx := sftpRx
    sftpTxPending := ⟨[0,0,0,5,2,0,0,0,3],by decide⟩}

def writeMessage : ChannelMessage := {messageId := sshMsgChannelData,data := some writePacket}
def writeReceived : Event := .received (channelDataPayload 0 writePacket)
def writeAdjust (left : Nat) : Event := .sent (.windowAdjust 7 (65536-left))

variable {left n : Nat} {rx : Bounded emsshSftpMaxPacketSize} {script : List (Except Err Bytes)}
  {trace : List Event} {last : Option UInt8} {conn conn' : Conn (List (Except Err Bytes))}

lemma replenish_low {C : Type} {W : ReceiveWindow C} {c : C} (hp : W.windowMaxSize c≠0)
    (h : W.windowSize c≤W.windowMaxSize c/2)
    (hs : (sendMessage scriptLink (.windowAdjust (W.clientChannel c)
      (W.windowMaxSize c-W.windowSize c))).run conn=(.ok (),conn')) :
    (replenishReceiveWindow scriptLink W).run (conn,c)=
      (.ok (),(conn',W.grow (W.windowMaxSize c-W.windowSize c) c)) := by
  have hn : ¬W.windowMaxSize c-W.windowSize c=0 := by omega
  have hl : ¬W.windowMaxSize c/2<W.windowSize c := by omega
  simp [replenishReceiveWindow,sshTransportSendChannelWindowAdjust,run_bind,run_require_of,hp,hn,
    hl,hs]

/-- What is left of the window is half of it or less: the rest is given back. -/
lemma replenish_blocked (h : left≤32768)
    (hs : (sendMessage scriptLink (.windowAdjust 7 (65536-left))).run conn=(.ok (),conn')) :
    (maybeReplenishReceiveWindow scriptLink).run (conn,blockedChannel left rx)=
      (.ok (),(conn',blockedChannel 65536 rx)) := by
  have hg : sftpReceiveWindow.grow (65536-left) (blockedChannel left rx)=blockedChannel 65536 rx :=
    congrArg (fun n => blockedChannel n rx) (by omega : left+(65536-left)=65536)
  have hm : sftpReceiveWindow.windowMaxSize (blockedChannel left rx)=65536 := rfl
  rw [← hg]
  apply replenish_low
  · rw [hm]
    decide
  · rw [hm]
    exact h
  · exact hs

lemma channelMessageOf_writePacket :
    channelMessageOf (channelDataPayload 0 writePacket)=(.ok (),writeMessage) := by
  apply channelMessageOf_data (Nat.two_pow_pos 32)
  rw [writePacket_length]
  decide

/-- One such request, with the bytes it leaves of the window: half of it or more is given back
at once. -/
lemma process_writePacket (h : left≤32768)
    (hs : ∀ conn,(sendMessage scriptLink (.windowAdjust 7 (65536-left))).run conn=
      (.ok (),{conn with trace := conn.trace++[writeAdjust left]})) :
    (sshServerProcessSftpChannelData scriptLink sampleSftp).run
      (⟨.ok (channelDataPayload 0 writePacket)::script,trace,last⟩,blockedChannel (left+32768) rx)=
    (do
      appendRx writePacket
      serveSftp scriptLink sampleSftp).run
      (⟨script,trace++[writeReceived]++[writeAdjust left],some sshMsgChannelData⟩,
        blockedChannel 65536 rx) := by
  have hl := writePacket_length
  have hrc : (sshTransportReceiveChannelMessage scriptLink emsshMaxPacketSize).run
      ⟨.ok (channelDataPayload 0 writePacket)::script,trace,last⟩=
      (.ok writeMessage,⟨script,trace++[writeReceived],some sshMsgChannelData⟩) := by
    apply Ensures.run_eq
    apply bindOk (a := writeMessage)
    · apply Ensures.run_eq
      apply bindOk rfl
      refine .bindRequire (fun _ => ?_) fun h => absurd (by simp [channelDataPayload]) h
      rw [channelMessageOf_writePacket]
      rfl
    refine .bindRequire (fun _ => rfl) fun h => absurd (fun _ => ?_) h
    show writePacket.length≤_
    rw [hl]
    decide
  apply Ensures.run_eq
  apply bindGet
  refine .bindRequire (fun _ => ?_) fun h => absurd rfl h
  apply bindStatus
  apply Ensures.of_run ((run_onFst _ _).trans (by rw [hrc]))
  apply bindGet
  refine .bindRequire (fun _ => ?_) fun h => absurd rfl h
  show (processSftpData scriptLink sampleSftp writePacket).Ensures _ _
  apply bindGet
  refine .bindRequire (fun _ => ?_) fun h => absurd ?_ h
  · apply bindModify
    have hw : blockedChannel (left+32768-writePacket.length) rx=blockedChannel left rx := by
      rw [hl,Nat.add_sub_cancel]
    show Ensures _ (_,blockedChannel (left+32768-writePacket.length) rx) _
    rw [hw]
    apply bindOk (replenish_blocked h (hs _))
    rfl
  show writePacket.length≤left+32768
  rw [hl]
  exact Nat.le_add_left _ _

lemma keep_writePacket (hrm : writePacket.length≤emsshSftpMaxPacketSize-rx.bytes.length)
    (conn : Conn (List (Except Err Bytes))) :
    (do
      appendRx writePacket
      serveSftp scriptLink sampleSftp).run (conn,blockedChannel 65536 rx)=
      (.error .notFound,(conn,blockedChannel 65536 (rx.append writePacket hrm))) := by
  have ha : (appendRx writePacket).run (conn,blockedChannel 65536 rx)=
      (.ok (),(conn,blockedChannel 65536 (rx.append writePacket hrm))) := dif_pos hrm
  rw [run_bind_ok ha]
  exact run_bind_error (flush_of_closed scriptLink (List.cons_ne_nil _ _) rfl)

def initPacket : Bytes := [0,0,0,5,1,0,0,0,3]

/-- An SSH_FXP_INIT and five requests, with the default window. -/
def pipelined : SampleState :=
  (Conn.start (.ok (channelDataPayload 0 initPacket)::
    List.replicate 5 (.ok (channelDataPayload 0 writePacket))),sampleChannel 0)

def initEvents : List Event :=
  [.received (channelDataPayload 0 initPacket),.handled initPacket [0,0,0,5,2,0,0,0,3]]

/-- The example with n of its requests received. -/
structure Filling (n left : Nat) (rx : Bounded emsshSftpMaxPacketSize) (trace : List Event) :
    Prop where
  run : SftpRun scriptLink sampleSftp pipelined
    (⟨List.replicate (5-n) (.ok (channelDataPayload 0 writePacket)),trace,
      some sshMsgChannelData⟩,blockedChannel (left+32768) rx)
  length : rx.bytes.length=32768*n

/-- One more request arrives, and the window is given back for it. -/
lemma Filling.next (h : Filling n left rx trace) (hn : n<4) (hl : left≤32768)
    (hs : ∀ conn,(sendMessage scriptLink (.windowAdjust 7 (65536-left))).run conn=
      (.ok (),{conn with trace := conn.trace++[writeAdjust left]})) :
    ∃ more,Filling (n+1) 32768 more (trace++[writeReceived]++[writeAdjust left]) := by
  have hrm : writePacket.length≤emsshSftpMaxPacketSize-rx.bytes.length := by
    rw [writePacket_length,h.length]
    show 32768≤131072-32768*n
    omega
  have hfive : 5-n=5-(n+1)+1 := by omega
  have hrn := h.run
  rw [hfive,List.replicate_succ] at hrn
  refine ⟨rx.append writePacket hrm,?_,?_⟩
  · exact hrn.next ((process_writePacket hl hs).trans (keep_writePacket hrm _)) (.inr rfl)
  · refine length_append.trans ?_
    rw [writePacket_length,h.length,Nat.mul_succ]

/-- The client of the example keeps to its credit at every moment, with the default window and
requests of no more than the largest size, and yet the last of them is refused. -/
theorem pipelined_packet_refused :
    pipelined.2.windowSize=emsshDefaultChannelWindowSize ∧
    ∃ t u packets,SftpRun scriptLink sampleSftp pipelined t ∧
      (sshServerProcessSftpChannelData scriptLink sampleSftp).run t=(.error .bufferTooSmall,u) ∧
      .refused writePacket∈newEvents pipelined.1 u.1 ∧
      WithinCredit Event.clientData Event.adjustOut emsshDefaultChannelWindowSize
        (newEvents pipelined.1 u.1) ∧
      dataReceived (newEvents pipelined.1 u.1)=List.flatten packets ∧
      ∀ packet∈packets,WholePacket packet ∧ packet.length≤emsshSftpMaxPacketSize := by
  have h0 : Filling 0 32759 .empty initEvents := ⟨Run.start.next rfl (.inr rfl),rfl⟩
  obtain ⟨_,h1⟩ := h0.next (by decide) (by decide) fun _ => rfl
  obtain ⟨_,h2⟩ := h1.next (by decide) le_rfl fun _ => rfl
  obtain ⟨_,h3⟩ := h2.next (by decide) le_rfl fun _ => rfl
  obtain ⟨rx,h4⟩ := h3.next (by decide) le_rfl fun _ => rfl
  have hf : ¬writePacket.length≤emsshSftpMaxPacketSize-rx.bytes.length := by
    rw [writePacket_length,h4.length]
    decide
  have hc : writeReceived.clientData=32768 := by
    simp [writeReceived,Event.clientData,Event.message?,channelMessageOf_writePacket,
      ChannelMessage.dataBytes,writeMessage,writePacket_length]
  have hd : dataReceived [writeReceived]=writePacket := by
    simp [dataReceived,writeReceived,messagesIn_received channelMessageOf_writePacket,
      ChannelMessage.dataBytes,writeMessage]
  have hi : dataReceived initEvents=initPacket := rfl
  have ha (left : Nat) : dataReceived [writeAdjust left]=[] := rfl
  have hr : dataReceived [.refused writePacket]=[] := rfl
  have hn (evs : List Event) : evs.drop pipelined.1.trace.length=evs := rfl
  refine ⟨rfl,_,_,initPacket::List.replicate 5 writePacket,h4.run,
    (process_writePacket le_rfl fun _ => rfl).trans (run_bind_error (dif_neg hf)),?_,?_,?_,?_⟩
  · exact mem_append_right _ (mem_singleton_self _)
  · apply WithinCredit.of_map
    simp only [newEvents,hn,List.map_append,map_cons,List.map_nil,hc]
    decide +kernel
  · simp only [newEvents,hn,dataReceived_append,hi,hd,ha,hr]
    simp
  intro packet hp
  rcases mem_cons.mp hp with rfl | hp
  · exact ⟨rfl,by decide⟩
  rw [List.eq_of_mem_replicate hp]
  exact ⟨writePacket_whole,by rw [writePacket_length]; decide⟩

end EMSSHD
