import EMSSHD.Server.Sftp.Channel

namespace EMSSHD

open Call

variable {κ σ : Type}

structure ChannelEnds where
  clientChannel : Nat
  serverChannel : Nat
  windowSize : Nat
  windowMaxSize : Nat
  peerMaxPacketSize : Nat
  initialized : Bool
  eofSent : Bool
  closeSent : Bool

def SftpChannel.ends (c : SftpChannel σ) : ChannelEnds :=
  ⟨c.clientChannel,c.serverChannel,c.windowSize,c.windowMaxSize,c.peerMaxPacketSize,
    c.initialized,c.eofSent,c.closeSent⟩

def WholePacket (packet : Bytes) : Prop := packet.length=beValue (packet.take 4)+4

/-- What serving requests may do: data to the client in messages of admitted size, and
complete packets handled. -/
def ServeEvent (ends : ChannelEnds) (e : Event) : Prop :=
  (∃ bytes,e=.sent (.data ends.clientChannel bytes) ∧
    (ends.peerMaxPacketSize≠0 → bytes.length≤ends.peerMaxPacketSize)) ∨
  ∃ packet response,e=.handled packet response ∧ WholePacket packet

/-- Serving, whatever its status: it stays within the window of the client. -/
structure Serving (s t : SftpState κ σ) (evs : List Event) : Prop where
  trace : t.1.trace=s.1.trace++evs
  ends : t.2.ends=s.2.ends
  sends : ∀ e∈evs,ServeEvent s.2.ends e
  credit : (dataSent evs).length ≤ s.2.peerWindowSize

/-- Serving that has not failed: requests leave the receive buffer from the front, and
responses pass through the pending buffer to the client. -/
structure Served (s t : SftpState κ σ) (evs : List Event) : Prop extends Serving s t evs where
  packets : packetsHandled evs++t.2.sftpRx.bytes=s.2.sftpRx.bytes
  responses : dataSent evs++t.2.sftpTxPending.bytes=s.2.sftpTxPending.bytes++responsesMade evs
  window : t.2.peerWindowSize+(dataSent evs).length=s.2.peerWindowSize

lemma ServeEvent.message? {ends : ChannelEnds} {e : Event} (h : ServeEvent ends e) :
    e.message?=none := by
  rcases h with ⟨bytes,rfl,_⟩ | ⟨packet,response,rfl,_⟩
  · rfl
  · rfl

variable {s t u : SftpState κ σ} {evs later : List Event}

lemma Serving.messagesIn (h : Serving s t evs) : messagesIn evs=[] := by
  apply filterMap_eq_nil_iff.mpr
  intro e he
  exact (h.sends e he).message?

lemma Serving.refl (s : SftpState κ σ) : Serving s s [] :=
  ⟨(append_nil _).symm,rfl,forall_mem_nil _,Nat.zero_le _⟩

lemma Served.refl (s : SftpState κ σ) : Served s s [] :=
  ⟨Serving.refl s,rfl,(append_nil _).symm,rfl⟩

lemma Served.serving_trans (h : Served s t evs) (hl : Serving t u later) :
    Serving s u (evs++later) := by
  constructor
  · rw [hl.trace,h.trace,append_assoc]
  · rw [hl.ends,h.ends]
  · intro e he
    rcases mem_append.mp he with he | he
    · exact h.sends e he
    have hs := hl.sends e he
    rwa [h.ends] at hs
  have hw := h.window
  have hc := hl.credit
  rw [dataSent_append,length_append]
  omega

lemma Served.trans (h : Served s t evs) (hl : Served t u later) : Served s u (evs++later) := by
  constructor
  · exact h.serving_trans hl.toServing
  · rw [packetsHandled_append,append_assoc,hl.packets,h.packets]
  · rw [dataSent_append,responsesMade_append,append_assoc,hl.responses,← append_assoc,h.responses,
      append_assoc]
  have hw := h.window
  have hv := hl.window
  rw [dataSent_append,length_append]
  omega

lemma DataOut.serving {conn : Conn κ} {data : Bytes} {r : Except Err Unit}
    (h : DataOut s.2.clientChannel s.2.peerMaxPacketSize data r evs)
    (ht : conn.trace=s.1.trace++evs) (hw : data.length ≤ s.2.peerWindowSize) :
    Serving s (conn,s.2) evs := by
  constructor
  · exact ht
  · rfl
  · intro e he
    exact .inl (h.sends e he)
  · exact le_trans h.front.length_le hw

section
variable (L : LinkApi κ)

lemma flushLen_le (c : SftpChannel σ) :
    flushLen c ≤ c.peerWindowSize ∧ flushLen c ≤ c.sftpTxPending.bytes.length ∧
    (c.peerMaxPacketSize≠0 → flushLen c ≤ c.peerMaxPacketSize) := by
  unfold flushLen
  dsimp only
  split_ifs <;> omega

lemma flushLen_pos {c : SftpChannel σ} (hp : c.sftpTxPending.bytes.length≠0)
    (hw : c.peerWindowSize≠0) : flushLen c≠0 := by
  unfold flushLen
  dsimp only
  split_ifs <;> omega

lemma served_flushRound {s : SftpState κ σ} {conn : Conn κ} {evs : List Event}
    (h : DataOut s.2.clientChannel s.2.peerMaxPacketSize
      (s.2.sftpTxPending.bytes.take (flushLen s.2)) (.ok ()) evs) (ht : conn.trace=s.1.trace++evs) :
    Served s (conn,{s.2 with
      peerWindowSize := s.2.peerWindowSize-flushLen s.2
      sftpTxPending := s.2.sftpTxPending.drop (flushLen s.2)}) evs := by
  obtain ⟨hlw,hlp,_⟩ := flushLen_le s.2
  have hl : (s.2.sftpTxPending.bytes.take (flushLen s.2)).length=flushLen s.2 := by
    rw [length_take]
    omega
  obtain ⟨hph,hrm,_⟩ := h.quiet
  have hs := h.serving ht (by rw [hl]; exact hlw)
  refine ⟨⟨ht,rfl,hs.sends,hs.credit⟩,?_,?_,?_⟩
  · rw [hph]
    rfl
  · rw [h.whole rfl,hrm,append_nil]
    exact take_append_drop _ _
  rw [h.whole rfl,hl]
  exact Nat.sub_add_cancel hlw

lemma flushLoop_spec (rounds : Nat) (s : SftpState κ σ)
    (hr : s.2.sftpTxPending.bytes.length ≤ rounds) :
    (flushLoop L rounds).Ensures s (fun r t => ∃ evs,Serving s t evs ∧ r≠.error .notFound ∧
      (r=.ok () → Served s t evs ∧ t.2.sftpRx=s.2.sftpRx ∧
        (t.2.sftpTxPending.bytes=[] ∨ t.2.peerWindowSize=0))) := by
  induction rounds generalizing s with
  | zero =>
    have hnl : s.2.sftpTxPending.bytes=[] := length_eq_zero_iff.mp (by omega)
    exact ⟨[],Serving.refl s,nofun,fun _ => ⟨Served.refl s,rfl,.inl hnl⟩⟩
  | succ rounds ih =>
    unfold flushLoop
    apply bindGet
    apply Ensures.ite
    · rintro ⟨hp,hw,hn⟩
      obtain ⟨hlw,hlp,hlm⟩ := flushLen_le s.2
      have hmx : s.2.peerMaxPacketSize≠0 →
          (s.2.sftpTxPending.bytes.take (flushLen s.2)).length ≤ s.2.peerMaxPacketSize := by
        intro hm
        have := hlm hm
        rw [length_take]
        omega
      apply Ensures.bind (Ensures.onFst
        (sendChannelData_out L s.2.clientChannel s.2.peerMaxPacketSize _ hmx s.1))
      · rintro _ ⟨conn,_⟩ ⟨⟨evs,ht,ho⟩,rfl⟩
        apply bindModify
        have hrn := served_flushRound ho ht
        apply (ih _ ?_).mono
        · rintro r u ⟨later,hs,hne,hok⟩
          refine ⟨evs++later,hrn.serving_trans hs,hne,fun hr => ?_⟩
          obtain ⟨hsr,hrx,hd⟩ := hok hr
          exact ⟨hrn.trans hsr,hrx,hd⟩
        show (s.2.sftpTxPending.drop (flushLen s.2)).bytes.length ≤ rounds
        rw [Bounded.drop_bytes,length_drop]
        omega
      rintro e ⟨conn,_⟩ ⟨⟨evs,ht,ho⟩,rfl⟩
      refine ⟨evs,ho.serving ht ?_,ho.status,nofun⟩
      rw [length_take]
      omega
    intro hst
    refine ⟨[],Serving.refl s,nofun,fun _ => ⟨Served.refl s,rfl,?_⟩⟩
    by_cases hp : s.2.sftpTxPending.bytes.length=0
    · exact .inl (length_eq_zero_iff.mp hp)
    by_cases hw : s.2.peerWindowSize=0
    · exact .inr hw
    · exact absurd ⟨hp,hw,flushLen_pos hp hw⟩ hst

/-- The flush reports success with nothing left pending, and the retryable status with
a response left over and the window closed. -/
theorem maybeFlushPendingSftpResponse_spec (s : SftpState κ σ) :
    (maybeFlushPendingSftpResponse L).Ensures s (fun r t => ∃ evs,Serving s t evs ∧
      (r=.ok () → Served s t evs ∧ t.2.sftpRx=s.2.sftpRx ∧ t.2.sftpTxPending.bytes=[]) ∧
      (r=.error .notFound → Served s t evs ∧ t.2.sftpTxPending.bytes≠[] ∧
        t.2.peerWindowSize=0)) := by
  apply bindGet
  apply Ensures.bind (flushLoop_spec L _ s le_rfl)
  · rintro _ t ⟨evs,hs,_,hok⟩
    obtain ⟨hsr,hrx,hd⟩ := hok rfl
    apply bindGet
    apply Ensures.require
    · intro hl
      exact ⟨evs,hs,fun _ => ⟨hsr,hrx,length_eq_zero_iff.mp hl⟩,nofun⟩
    intro hl
    have hne : t.2.sftpTxPending.bytes≠[] := by
      intro hn
      rw [hn] at hl
      exact hl rfl
    exact ⟨evs,hs,nofun,fun _ => ⟨hsr,hne,hd.resolve_left hne⟩⟩
  rintro e t ⟨evs,hs,hne,_⟩
  exact ⟨evs,hs,nofun,fun h => absurd h hne⟩
end

variable (L : LinkApi κ) (S : SftpServer σ)

/-- The receive buffer does not hold the whole of its first packet. -/
def Incomplete (rx : Bytes) : Prop := rx.length<4 ∨ rx.length<beValue (rx.take 4)+4

/-- How serving ends: all responses out and no whole packet left, or a response
pending behind a closed window, or a failure. -/
def ServeProgress (s : SftpState κ σ) (r : Except Err Unit) (t : SftpState κ σ) : Prop :=
  ∃ evs,Serving s t evs ∧
    (r=.ok () → Served s t evs ∧ t.2.sftpTxPending.bytes=[] ∧ Incomplete t.2.sftpRx.bytes) ∧
    (r=.error .notFound → Served s t evs ∧ t.2.sftpTxPending.bytes≠[] ∧ t.2.peerWindowSize=0)

variable {s t : SftpState κ σ} {evs : List Event} {r : Except Err Unit} {sftp : σ} {n : Nat}
  {response : Bytes} {conn : Conn κ}

lemma ServeProgress.after {u : SftpState κ σ} (h : Served s t evs) (ho : ServeProgress t r u) :
    ServeProgress s r u := by
  obtain ⟨later,hsr,hok,hw⟩ := ho
  refine ⟨evs++later,h.serving_trans hsr,fun hr => ?_,fun hr => ?_⟩
  · obtain ⟨hs,hrs⟩ := hok hr
    exact ⟨h.trans hs,hrs⟩
  obtain ⟨hs,hrs⟩ := hw hr
  exact ⟨h.trans hs,hrs⟩

lemma ServeProgress.failed {e : Err} (h : Serving s t evs) (he : e≠.notFound) :
    ServeProgress s (.error e) t :=
  ⟨evs,h,nofun,fun hr => absurd (Except.error.inj hr) he⟩

lemma sendResponseLoop_out (client maxPacket rounds : Nat) (rest : Bytes)
    (hr : rest.length ≤ rounds) :
    Emits Conn.trace (sendResponseLoop L client maxPacket rounds rest)
      (DataOut client maxPacket rest) := by
  induction rounds generalizing rest with
  | zero =>
    have hnl : rest=[] := length_eq_zero_iff.mp (by omega)
    apply Emits.pure
    subst hnl
    exact ⟨forall_mem_nil _,List.nil_prefix,fun _ => rfl,nofun⟩
  | succ rounds ih =>
    unfold sendResponseLoop
    apply Emits.ite
    · intro h0
      have hnl : rest=[] := length_eq_zero_iff.mp h0
      apply Emits.pure
      subst hnl
      exact ⟨forall_mem_nil _,List.nil_prefix,fun _ => rfl,nofun⟩
    intro h0
    generalize hn : (if maxPacket≠0 ∧ maxPacket < rest.length then maxPacket
      else rest.length)=chunkLen
    have hle : chunkLen ≤ rest.length ∧ 0<chunkLen ∧ (maxPacket≠0 → chunkLen ≤ maxPacket) := by
      split_ifs at hn <;> omega
    apply Emits.bindRequire
    · intro _
      have ht : (rest.take chunkLen).length=chunkLen := List.length_take_of_le hle.1
      apply Emits.bind (sendChannelData_out L client maxPacket
        (rest.take chunkLen) (by rw [ht]; exact hle.2.2))
      · intro _ evs ho
        apply (ih (rest.drop chunkLen) (by rw [length_drop]; omega)).mono
        intro r later hl
        have hf : dataSent evs=rest.take chunkLen := ho.whole rfl
        refine ⟨?_,?_,fun hok => ?_,hl.status⟩
        · intro e he
          rcases mem_append.mp he with he | he
          · exact ho.sends e he
          · exact hl.sends e he
        · rw [dataSent_append,hf]
          conv_rhs => rw [← take_append_drop chunkLen rest]
          exact List.prefix_append_right_inj _ |>.mpr hl.front
        · rw [dataSent_append,hf,hl.whole hok,take_append_drop]
      intro e evs ho
      refine ⟨ho.sends,ho.front.trans (List.take_prefix _ _),nofun,ho.status⟩
    intro hz
    omega

lemma handleSftpPacket_spec (packet : Bytes) (s : SftpState κ σ) :
    (handleSftpPacket S packet).Ensures s (Outcome
      (fun response t => ∃ sftp,t=({s.1 with trace := s.1.trace++[.handled packet response]},
        {s.2 with sftp := sftp}))
      (fun e t => e≠.notFound ∧ ∃ sftp,t=(s.1,{s.2 with sftp := sftp}))) := by
  rcases h : (S.handlePacket packet).run s.2.sftp with ⟨e | response,sftp⟩
  · apply Ensures.of_run
    · simp only [handleSftpPacket,h]
      rfl
    · exact ⟨S.handle_error packet _ e sftp h,sftp,rfl⟩
  apply Ensures.of_run
  · simp only [handleSftpPacket,h]
    rfl
  · exact ⟨sftp,rfl⟩

lemma handled_serveEvent (ends : ChannelEnds) {packet : Bytes} (response : Bytes)
    (h : WholePacket packet) : ∀ e∈[Event.handled packet response],ServeEvent ends e := by
  intro e he
  exact .inr ⟨packet,response,mem_singleton.mp he,h⟩

lemma wholePacket_take {rx : Bytes} (h : ¬rx.length<beValue (rx.take 4)+4) :
    WholePacket (rx.take (beValue (rx.take 4)+4)) := by
  have ht : (rx.take (beValue (rx.take 4)+4)).take 4=rx.take 4 := by
    rw [take_take,Nat.min_eq_left (Nat.le_add_left 4 _)]
  rw [WholePacket,ht,length_take]
  omega

lemma served_stored (hw : WholePacket (s.2.sftpRx.bytes.take n))
    (hf : response.length≤emsshSftpMaxPacketSize) (hp : s.2.sftpTxPending.bytes=[]) :
    Served s ({s.1 with trace := s.1.trace++[.handled (s.2.sftpRx.bytes.take n) response]},
      {s.2 with sftp := sftp,sftpRx := s.2.sftpRx.drop n,sftpTxPending := ⟨response,hf⟩})
      [.handled (s.2.sftpRx.bytes.take n) response] := by
  refine ⟨⟨rfl,rfl,handled_serveEvent _ _ hw,Nat.zero_le _⟩,?_,?_,rfl⟩
  · simp [packetsHandled,Event.packetIn]
  · simp [dataSent,responsesMade,Event.dataOut,Event.responseOut,hp]

lemma serving_answered (sftp : σ) (hwh : WholePacket (s.2.sftpRx.bytes.take n))
    (h : DataOut s.2.clientChannel s.2.peerMaxPacketSize response r evs)
    (ht : conn.trace=s.1.trace++[.handled (s.2.sftpRx.bytes.take n) response]++evs)
    (hw : response.length ≤ s.2.peerWindowSize) :
    Serving s (conn,{s.2 with sftp := sftp,sftpRx := s.2.sftpRx.drop n})
      (.handled (s.2.sftpRx.bytes.take n) response::evs) := by
  constructor
  · rw [ht,append_assoc]
    rfl
  · rfl
  · intro e he
    rcases mem_cons.mp he with rfl | he
    · exact .inr ⟨_,_,rfl,hwh⟩
    · exact .inl (h.sends e he)
  · exact le_trans h.front.length_le hw

lemma served_answered (sftp : σ) (hwh : WholePacket (s.2.sftpRx.bytes.take n))
    (h : DataOut s.2.clientChannel s.2.peerMaxPacketSize response (.ok ()) evs)
    (ht : conn.trace=s.1.trace++[.handled (s.2.sftpRx.bytes.take n) response]++evs)
    (hw : response.length ≤ s.2.peerWindowSize) (hp : s.2.sftpTxPending.bytes=[]) :
    Served s (conn,{s.2 with
      sftp := sftp
      sftpRx := s.2.sftpRx.drop n
      peerWindowSize := s.2.peerWindowSize-response.length})
      (.handled (s.2.sftpRx.bytes.take n) response::evs) := by
  obtain ⟨hph,hrm,_⟩ := h.quiet
  obtain ⟨htr,_,hsn,hc⟩ := serving_answered sftp hwh h ht hw
  have hs : dataSent (.handled (s.2.sftpRx.bytes.take n) response::evs)=response := h.whole rfl
  have hpc : packetsHandled (.handled (s.2.sftpRx.bytes.take n) response::evs)=
      s.2.sftpRx.bytes.take n++packetsHandled evs := rfl
  have hm : responsesMade (.handled (s.2.sftpRx.bytes.take n) response::evs)=
      response++responsesMade evs := rfl
  refine ⟨⟨htr,rfl,hsn,hc⟩,?_,?_,?_⟩
  · rw [hpc,hph,append_nil]
    exact take_append_drop _ _
  · rw [hs,hm,hrm,hp]
    simp
  rw [hs]
  exact Nat.sub_add_cancel hw

lemma storeAndFlush_spec (hw : WholePacket (s.2.sftpRx.bytes.take n))
    (hb : s.2.peerWindowSize < response.length) (hp : s.2.sftpTxPending.bytes=[]) :
    (do
      storePending response
      maybeFlushPendingSftpResponse L : Call (SftpState κ σ) Err Unit).Ensures
      ({s.1 with trace := s.1.trace++[.handled (s.2.sftpRx.bytes.take n) response]},
        {s.2 with sftp := sftp,sftpRx := s.2.sftpRx.drop n}) (ServeProgress s) := by
  unfold storePending
  split_ifs with hf
  · apply bindModify
    apply (maybeFlushPendingSftpResponse_spec L _).mono
    intro r t h
    obtain ⟨evs,hs,hok,hwt⟩ := h
    apply ServeProgress.after (served_stored hw hf hp)
    refine ⟨evs,hs,fun h => ?_,hwt⟩
    obtain ⟨hsr,_,hn⟩ := hok h
    have hr : dataSent evs++t.2.sftpTxPending.bytes=response++responsesMade evs := hsr.responses
    have hc : (dataSent evs).length ≤ s.2.peerWindowSize := hs.credit
    have hl := congrArg List.length hr
    rw [hn,append_nil,length_append] at hl
    omega
  · exact ServeProgress.failed ⟨rfl,rfl,handled_serveEvent _ _ hw,Nat.zero_le _⟩ (by decide)

lemma serveLoop_spec (rounds : Nat) (s : SftpState κ σ) (hr : s.2.sftpRx.bytes.length ≤ rounds)
    (hp : s.2.sftpTxPending.bytes=[]) : (serveLoop L S rounds).Ensures s (ServeProgress s) := by
  induction rounds generalizing s with
  | zero =>
    have hs : Incomplete s.2.sftpRx.bytes := .inl (by omega)
    exact ⟨[],Serving.refl s,fun _ => ⟨Served.refl s,hp,hs⟩,nofun⟩
  | succ rounds ih =>
    apply bindGet
    apply Ensures.ite
    · intro hs
      exact ⟨[],Serving.refl s,fun _ => ⟨Served.refl s,hp,.inl hs⟩,nofun⟩
    intro hl
    apply bindRequire
    · intro _
      apply Ensures.ite
      · intro hpr
        exact ⟨[],Serving.refl s,fun _ => ⟨Served.refl s,hp,.inr hpr⟩,nofun⟩
      intro hw
      have hpc := wholePacket_take hw
      apply Ensures.bind (handleSftpPacket_spec S _ s)
      · rintro response _ ⟨sftp,rfl⟩
        apply bindModify
        apply Ensures.ite
        · intro hb
          exact storeAndFlush_spec L hpc hb hp
        intro hrm
        apply Ensures.bind (Ensures.onFst (sendResponseLoop_out L
          s.2.clientChannel s.2.peerMaxPacketSize response.length response le_rfl _))
        · rintro _ ⟨conn,_⟩ ⟨⟨evs,ht,hot⟩,rfl⟩
          apply bindModify
          have hsh : (s.2.sftpRx.drop (beValue (s.2.sftpRx.bytes.take 4)+4)).bytes.length
              ≤ rounds := by
            rw [Bounded.drop_bytes,length_drop]
            omega
          apply (ih (conn,{s.2 with
            sftp := sftp
            sftpRx := s.2.sftpRx.drop (beValue (s.2.sftpRx.bytes.take 4)+4)
            peerWindowSize := s.2.peerWindowSize-response.length}) hsh hp).mono
          intro r t ho
          exact ho.after (served_answered sftp hpc hot ht (by omega) hp)
        rintro e ⟨conn,_⟩ ⟨⟨evs,ht,hot⟩,rfl⟩
        apply ServeProgress.failed (serving_answered sftp hpc hot ht (by omega))
        intro he
        exact hot.status (congrArg Except.error he)
      rintro e _ ⟨he,sftp,rfl⟩
      exact ServeProgress.failed ⟨(append_nil _).symm,rfl,forall_mem_nil _,Nat.zero_le _⟩ he
    intro _
    exact ServeProgress.failed (Serving.refl s) (by decide)

lemma flush_of_empty (hp : s.2.sftpTxPending.bytes=[]) :
    (maybeFlushPendingSftpResponse L).run s=(.ok (),s) := by
  have hl : (flushLoop L s.2.sftpTxPending.bytes.length).run s=(.ok (),s) := by
    rw [hp]
    rfl
  have hln : s.2.sftpTxPending.bytes.length=0 := length_eq_zero_iff.mpr hp
  rw [maybeFlushPendingSftpResponse,run_bind_ok (run_get _),run_bind_ok hl,run_bind_ok (run_get _),
    run_require_of _ _ hln]

lemma flush_of_closed (hp : s.2.sftpTxPending.bytes≠[]) (hw : s.2.peerWindowSize=0) :
    (maybeFlushPendingSftpResponse L).run s=(.error .notFound,s) := by
  have hl (n : Nat) : (flushLoop L n).run s=(.ok (),s) := by
    cases n with
    | zero => rfl
    | succ n =>
      rw [flushLoop,run_bind_ok (run_get _),if_neg fun h => h.2.1 hw]
      rfl
  have hln : ¬s.2.sftpTxPending.bytes.length=0 := fun h => hp (length_eq_zero_iff.mp h)
  rw [maybeFlushPendingSftpResponse,run_bind_ok (run_get _),run_bind_ok (hl _),
    run_bind_ok (run_get _),run_require_not _ _ hln]

def ValidLength (rx : Bytes) : Prop :=
  beValue (rx.take 4)≠0 ∧ beValue (rx.take 4)≤emsshSftpMaxPacketSize-4

instance (rx : Bytes) : Decidable (ValidLength rx) := inferInstanceAs (Decidable (_ ∧ _))

def HasPacket (rx : Bytes) : Prop := ¬Incomplete rx ∧ ValidLength rx

/-- There is something to serve: a pending response that the window has room for, or a
packet and nothing pending. -/
def Servable (pending rx : Bytes) (window : Nat) : Prop :=
  pending≠[] ∧ window≠0 ∨ pending=[] ∧ HasPacket rx

lemma serveLoop_of_noPacket (rounds : Nat) (h : ¬HasPacket s.2.sftpRx.bytes) :
    ∃ r,(serveLoop L S rounds).run s=(r,s) ∧
      (r=.ok () ∨ ¬ValidLength s.2.sftpRx.bytes ∧ r=.error .malformedPacket) := by
  cases rounds with
  | zero => exact ⟨.ok (),rfl,.inl rfl⟩
  | succ rounds =>
    rw [serveLoop,run_bind_ok (run_get _)]
    dsimp only
    by_cases h4 : s.2.sftpRx.bytes.length<4
    · rw [if_pos h4]
      exact ⟨.ok (),rfl,.inl rfl⟩
    rw [if_neg h4]
    by_cases hv : ValidLength s.2.sftpRx.bytes
    · have hp : Incomplete s.2.sftpRx.bytes := not_not.mp fun hn => h ⟨hn,hv⟩
      refine ⟨.ok (),?_,.inl rfl⟩
      apply (run_bind_ok (run_require_of _ _ hv)).trans
      rw [if_pos (hp.resolve_left h4)]
      rfl
    refine ⟨.error .malformedPacket,?_,.inr ⟨hv,rfl⟩⟩
    exact run_bind_error (run_require_not _ _ hv)

lemma serveSftp_silent
    (h : ¬Servable s.2.sftpTxPending.bytes s.2.sftpRx.bytes s.2.peerWindowSize) :
    ((serveSftp L S).run s).2=s := by
  unfold serveSftp
  by_cases hp : s.2.sftpTxPending.bytes=[]
  · have hno : ¬HasPacket s.2.sftpRx.bytes := fun hh => h (.inr ⟨hp,hh⟩)
    obtain ⟨r,hr,_⟩ := serveLoop_of_noPacket L S s.2.sftpRx.bytes.length hno
    rw [run_bind_ok (flush_of_empty L hp),run_bind_ok (run_get _),hr]
  have hw : s.2.peerWindowSize=0 := not_not.mp fun hw => h (.inl ⟨hp,hw⟩)
  rw [run_bind_error (flush_of_closed L hp hw)]

/-- What serving from s does. -/
structure ServeOutcome (s : SftpState κ σ) (r : Except Err Unit) (t : SftpState κ σ) : Prop where
  progress : ServeProgress s r t
  silent : ¬Servable s.2.sftpTxPending.bytes s.2.sftpRx.bytes s.2.peerWindowSize → t=s

lemma serveSftp_spec (s : SftpState κ σ) : (serveSftp L S).Ensures s (ServeOutcome s) := by
  refine ⟨?_,serveSftp_silent L S⟩
  have h : (serveSftp L S).Ensures s (ServeProgress s) := by
    apply Ensures.bind (maybeFlushPendingSftpResponse_spec L s)
    · rintro _ t ⟨evs,_,hok,_⟩
      obtain ⟨hsr,_,hn⟩ := hok rfl
      apply bindGet
      apply (serveLoop_spec L S _ t le_rfl hn).mono
      intro r u ho
      exact ho.after hsr
    rintro e t ⟨evs,hs,_,hw⟩
    exact ⟨evs,hs,nofun,hw⟩
  exact h

end EMSSHD
