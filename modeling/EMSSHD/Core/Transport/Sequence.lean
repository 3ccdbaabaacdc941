import EMSSHD.Core.Transport.ExchangeWalk

namespace EMSSHD

open Call

section
variable (C : CryptoApi)

lemma encodeOutbound_spec (cap : Nat) (payload : Bytes) (rng : Option RngFill) (t : Endpoint) :
    (encodeOutbound C cap payload rng).Ensures t
      (Outcome
        (fun _ u => ∃ len,u=({t.1 with outbound := t.1.outbound.advance len},t.2))
        (fun e u => u=t ∧ e≠.notFound)) := by
  have h := encodeProtected_spec C cap payload rng t.1.outbound
  rcases hrn : (sshPacketEncodeProtected C cap payload rng).run t.1.outbound with ⟨r,q⟩
  have hr := h.of_eq hrn
  refine .of_run (r := r) (t := ({t.1 with outbound := q},t.2)) ?_ ?_
  · simp only [encodeOutbound,hrn]
  cases r with
  | ok packet =>
    obtain ⟨_,plain,_,_,hq⟩ := hr
    exact ⟨plain.length,by rw [hq]⟩
  | error e => exact ⟨by rw [hr.1],hr.2⟩

/-- A packet that is sent is recorded with its length on the wire. One that the network does not
take has changed the protection, and any other failure nothing. -/
lemma sendProtectedPayload_spec (payload : Bytes) (s : Endpoint) :
    (sshTransportSendProtectedPayload C payload).Ensures s (Outcome
      (fun _ t => s.1.outbound.active=true ∧ ∃ len,t.1=recordRekeyPacket true
        (t.2.outgoing.length-s.2.outgoing.length) {s.1 with
          outbound := s.1.outbound.advance len
          outboundSequence := (s.1.outbound.advance len).sequence})
      (fun e t => e≠.notFound ∧ (t.1=s.1 ∨ writeFails C payload s=true ∧
        ∃ len,t.1={s.1 with outbound := s.1.outbound.advance len}))) := by
  obtain ⟨rng,w,hf,hout⟩ := nextFill_run s
  refine .bindGet (.bindRequire (fun ha => .bindOk hf ?_) fun _ => ⟨by decide,.inl rfl⟩)
  have hsp := encodeOutbound_spec C (emsshMaxPacketSize+4+emsshMaxMac) payload rng (s.1,w)
  rcases hr : (encodeOutbound C (emsshMaxPacketSize+4+emsshMaxMac) payload rng).run (s.1,w)
    with ⟨e | packet,t⟩
  · obtain ⟨rfl,he⟩ := hsp.of_eq hr
    exact .of_run (run_bind_error hr) ⟨he,.inl rfl⟩
  obtain ⟨len,rfl⟩ := hsp.of_eq hr
  apply bindOk hr
  rcases hw : (netWriteAll packet).run w with ⟨e | u,w'⟩
  · refine .of_run (run_bind_error ((run_onSnd _ _).trans (by rw [hw])))
      ⟨netWriteAll_error hw,.inr ⟨?_,len,rfl⟩⟩
    rw [writeFails,run_bind_ok hf,hr]
    simp [hw]
  refine .bindOk ((run_onSnd _ _).trans (by rw [hw])) (.bindModify (.modify ⟨ha,len,?_⟩))
  have hl : w'.outgoing.length-s.2.outgoing.length=packet.length := by
    rw [(netWriteAll_ok hw).1,hout,length_append,Nat.add_sub_cancel_left]
  rw [hl]

/-- What a protected send does to the counters. -/
structure SendCounted (payload : Bytes) (s : Endpoint) (r : Except Err Unit) (t : Endpoint) :
    Prop where
  inbound : t.1.inbound=s.1.inbound
  inboundSequence : t.1.inboundSequence=s.1.inboundSequence
  sent : r=.ok () → (∃ len,t.1.outbound=s.1.outbound.advance len) ∧ s.1.outbound.active=true ∧
    t.1.outboundSequence=t.1.outbound.sequence
  unsent : r≠.ok () → t.1.outboundSequence=s.1.outboundSequence ∧
    (writeFails C payload s=false → t.1.outbound=s.1.outbound)

lemma sendProtectedPayload_counted (payload : Bytes) (s : Endpoint) :
    (sshTransportSendProtectedPayload C payload).Ensures s (SendCounted C payload s) := by
  refine (sendProtectedPayload_spec C payload s).mono fun r t h => ?_
  cases r with
  | ok _ =>
    obtain ⟨ha,len,ht⟩ := h
    obtain ⟨hin,hot,hi,ho⟩ := recordRekeyPacket_keeps true
      (t.2.outgoing.length-s.2.outgoing.length) {s.1 with
        outbound := s.1.outbound.advance len
        outboundSequence := (s.1.outbound.advance len).sequence}
    rw [← ht] at hin hot hi ho
    exact ⟨hin,hi,fun _ => ⟨⟨len,hot⟩,ha,ho.trans (by rw [hot])⟩,fun h => absurd rfl h⟩
  | error e =>
    rcases h.2 with ht | ⟨hw,len,ht⟩
    · exact ⟨by rw [ht],by rw [ht],nofun,fun _ => ⟨by rw [ht],fun _ => by rw [ht]⟩⟩
    · refine ⟨by rw [ht],by rw [ht],nofun,fun _ => ⟨by rw [ht],fun hf => ?_⟩⟩
      exact absurd (hw.symm.trans hf) (by decide)

lemma readExact_spec {σ : Type} (n : Nat) (s : σ×PlatformState) :
    (Call.onSnd (netReadExact n)).Ensures s (Outcome
      (fun _ t => t.1=s.1 ∧ s.2.incoming.length=t.2.incoming.length+n)
      (fun e t => t.1=s.1 ∧ e≠.bufferTooSmall)) := by
  refine .onSnd ((netReadExact_taken n s.2).mono fun r w h => ?_)
  cases r with
  | ok | error => exact ⟨rfl,h⟩

/-- A packet that is received is recorded with its length on the wire. One whose payload has no room
has changed the protection, and any other failure nothing. -/
lemma receiveProtectedPayload_spec (cap : Nat) (s : Endpoint) :
    (sshTransportReceiveProtectedPayload C cap).Ensures s (Outcome
      (fun _ t => s.1.inbound.active=true ∧ ∃ len,t.1=recordRekeyPacket false
        (s.2.incoming.length-t.2.incoming.length) {s.1 with
          inbound := s.1.inbound.advance len
          inboundSequence := (s.1.inbound.advance len).sequence})
      (fun e t => t.1=s.1 ∧ e≠.bufferTooSmall ∨ e=.bufferTooSmall ∧ s.1.inbound.active=true ∧
        ∃ len,t.1={s.1 with inbound := s.1.inbound.advance len})) := by
  refine .bindGet (.bindRequire (fun ha => ?_) fun _ => .inl ⟨rfl,by decide⟩)
  refine .bindRequire (fun _ => ?_) fun _ => .inl ⟨rfl,by decide⟩
  refine .bind (readExact_spec s.1.inbound.blockSize s) (fun head t ht => ?_) fun _ _ ht => .inl ht
  refine .bindLift (fun _ _ => ?_) fun e he => .inl ⟨ht.1,by rw [err_of_orPlatform he]; decide⟩
  refine .bindRequire (fun hl => ?_) fun _ => .inl ⟨ht.1,by decide⟩
  generalize beValue ((C.cryptFront s.1.inbound .decrypt s.1.inbound.blockSize
    head).2.take 4)=packetLength at hl ⊢
  refine .bind (readExact_spec _ t) (fun tail u hu => ?_) fun _ u hu =>
    .inl ⟨hu.1.trans ht.1,hu.2⟩
  have hs : u.1=s.1 := hu.1.trans ht.1
  refine .bind (decodeInbound_spec C _ u) (fun payload v hv => ?_) fun e v hv =>
    .inl ⟨by rw [hv.1,hs],hv.2.2⟩
  obtain ⟨len,rfl⟩ := hv
  rw [hs]
  refine .bindRequire (fun _ => ?_) fun _ => .inr ⟨rfl,ha,len,rfl⟩
  have hm : (s.1.inbound.advance len).macLen=s.1.inbound.macLen :=
    (s.1.inbound.advance_fixed len).2.2.1
  have hw : s.2.incoming.length-u.2.incoming.length=
      packetLength+4+(s.1.inbound.advance len).macLen := by
    have hb := hl.2.1
    have hh := ht.2
    have htl := hu.2
    omega
  refine .bindModify (.bindModify (.pure ⟨ha,len,?_⟩))
  rw [hw]

/-- What a protected receive does to the counters. -/
structure ReceiveCounted (s : Endpoint) (r : Except Err Bytes) (t : Endpoint) : Prop where
  outbound : t.1.outbound=s.1.outbound
  outboundSequence : t.1.outboundSequence=s.1.outboundSequence
  taken : packetTaken r → (∃ len,t.1.inbound=s.1.inbound.advance len) ∧ s.1.inbound.active=true
  left : ¬packetTaken r → t.1=s.1
  synced : (∃ payload,r=.ok payload) → t.1.inboundSequence=t.1.inbound.sequence

lemma receiveProtectedPayload_counted (cap : Nat) (s : Endpoint) :
    (sshTransportReceiveProtectedPayload C cap).Ensures s (ReceiveCounted s) := by
  refine (receiveProtectedPayload_spec C cap s).mono fun r t h => ?_
  cases r with
  | ok payload =>
    obtain ⟨ha,len,ht⟩ := h
    obtain ⟨hin,hot,hi,ho⟩ := recordRekeyPacket_keeps false
      (s.2.incoming.length-t.2.incoming.length) {s.1 with
        inbound := s.1.inbound.advance len
        inboundSequence := (s.1.inbound.advance len).sequence}
    rw [← ht] at hin hot hi ho
    exact ⟨hot,ho,fun _ => ⟨⟨len,hin⟩,ha⟩,fun h => absurd (.inl ⟨payload,rfl⟩) h,
      fun _ => hi.trans (by rw [hin])⟩
  | error e =>
    rcases h with ⟨ht,he⟩ | ⟨rfl,ha,len,ht⟩
    · exact ⟨by rw [ht],by rw [ht],fun h => by simp [packetTaken,he] at h,fun _ => ht,by simp⟩
    · exact ⟨by rw [ht],by rw [ht],fun _ => ⟨⟨len,by rw [ht]⟩,ha⟩,fun h => absurd (.inr rfl) h,
        by simp⟩
end

/-- Every sequence number that a packet is given for its MAC is the number of packets that
have gone before in its direction, and the counters are set for the next packets. -/
structure InStep (s : KexSession) : Prop where
  macs : ∀ m∈s.packets.macs,m.sequence=UInt32.ofNat m.before
  outboundSequence : s.transport.outboundSequence=UInt32.ofNat s.packets.sent
  outbound : s.transport.outbound.active=true →
    s.transport.outbound.sequence=UInt32.ofNat s.packets.sent
  inbound : s.transport.inbound.active=true →
    s.transport.inbound.sequence=UInt32.ofNat s.packets.received
  inboundSequence : s.transport.inbound.active=false →
    s.transport.inboundSequence=UInt32.ofNat s.packets.received

/-- The session is in step unless the network has failed to take a packet; with rekeying,
the inbound direction is protected as well. -/
structure Steady (rekeying : Bool) (s : Peer) : Prop where
  inStep : s.1.packets.writeFailed=false → InStep s.1
  active : rekeying=true → s.1.transport.inbound.active=true

def counts (s : Peer) : TransportSession×PacketLog := (s.1.transport,s.1.packets)

section
variable {rekeying : Bool}

lemma Steady.of_counts {s t : Peer} (h : Steady rekeying s) (ht : counts t=counts s) :
    Steady rekeying t := by
  obtain ⟨htr,hp⟩ := Prod.mk.inj ht
  refine ⟨fun hw => ?_,fun hr => ?_⟩
  · rw [hp] at hw
    have hs := h.inStep hw
    refine ⟨?_,?_,?_,?_,?_⟩
    · rw [hp]
      exact hs.macs
    · rw [htr,hp]
      exact hs.outboundSequence
    · rw [htr,hp]
      exact hs.outbound
    · rw [htr,hp]
      exact hs.inbound
    rw [htr,hp]
    exact hs.inboundSequence
  rw [htr]
  exact h.active hr

variable {f : KexSession → KexSession}

lemma counts_nextFill : (onEndpoint nextFill).Leaves counts := by
  intro s
  obtain ⟨rng,w,hr⟩ := fill_run s
  rw [hr]
  rfl
end

section
variable (C : CryptoApi) {rekeying : Bool}

lemma ofNat_succ (n : Nat) : UInt32.ofNat (n+1)=UInt32.ofNat n+1 := UInt32.ofNat_add n 1

variable {p q : Protection} {α : Type}

lemma advanced_sequence {n : Nat} (h : ∃ len,q=p.advance len) (hp : p.sequence=UInt32.ofNat n) :
    q.sequence=UInt32.ofNat (n+1) := by
  obtain ⟨len,rfl⟩ := h
  rw [p.advance_sequence,hp,ofNat_succ]

lemma advanced_active (h : ∃ len,q=p.advance len) : q.active=p.active := by
  obtain ⟨len,rfl⟩ := h
  exact (p.advance_fixed len).1

lemma noteMac_run (outbound : Bool) (s : Peer) :
    ∃ entries,(noteMac outbound).run s=(.ok (),
        ({s.1 with packets := {s.1.packets with macs := s.1.packets.macs++entries}},s.2)) ∧
      (InStep s.1 → ∀ m∈entries,m.sequence=UInt32.ofNat m.before) := by
  have hn : (.ok (),s)=((.ok (),({s.1 with packets := {s.1.packets with
      macs := s.1.packets.macs++[]}},s.2)) : Except Err Unit×Peer) := by
    rw [append_nil]
  simp only [noteMac,onSession,run_modify]
  split_ifs with ho ha ha
  · exact ⟨[_],rfl,fun h => List.forall_mem_singleton.mpr (h.outbound ha)⟩
  · exact ⟨[],hn,fun _ => forall_mem_nil _⟩
  · exact ⟨[_],rfl,fun h => List.forall_mem_singleton.mpr (h.inbound ha)⟩
  · exact ⟨[],hn,fun _ => forall_mem_nil _⟩

lemma noteMac_steady (outbound : Bool) (s : Peer) (h : Steady rekeying s) :
    (noteMac outbound).Ensures s (fun _ t => Steady rekeying t ∧ t.1.transport=s.1.transport) := by
  obtain ⟨entries,hr,he⟩ := noteMac_run outbound s
  refine .of_run hr ⟨⟨fun hw => ?_,h.active⟩,rfl⟩
  have hs := h.inStep hw
  exact ⟨forall_mem_append.mpr ⟨hs.macs,he hs⟩,hs.outboundSequence,hs.outbound,
    hs.inbound,hs.inboundSequence⟩

lemma Call.Ensures.onEndpoint {c : Call Endpoint Err α} {s : Peer}
    {P : Except Err α → Endpoint → Prop} {Q : Except Err α → Peer → Prop}
    (h : c.Ensures (s.1.transport,s.2) P)
    (hi : ∀ r u,P r u → Q r ({s.1 with transport := u.1},u.2)) : (EMSSHD.onEndpoint c).Ensures s Q :=
  hi _ _ h

lemma sendProtected_steady (payload : Bytes) : Keeps (Steady rekeying)
    (sendProtected C payload) := by
  intro s h
  show (sendProtected C payload).Ensures s (fun _ t => Steady rekeying t)
  refine .bind (noteMac_steady true s h) (fun _ s1 h1 => ?_) (fun _ _ h1 => h1.1)
  refine .bindGet (.bindStatus
    (.onEndpoint (sendProtectedPayload_counted C payload _) fun r u hc => ?_))
  apply bindModify
  apply Ensures.lift
  refine ⟨fun hw => ?_,fun hr => ?_⟩
  · obtain ⟨hold,hwr⟩ := Bool.or_eq_false_iff.mp hw
    have hs := h1.1.inStep hold
    have hin : u.1.inbound=s1.1.transport.inbound := hc.inbound
    have hi : u.1.inboundSequence=s1.1.transport.inboundSequence := hc.inboundSequence
    by_cases hr : r=.ok ()
    · obtain ⟨ha,hac,hsy⟩ := hc.sent hr
      have hn := advanced_sequence ha (hs.outbound hac)
      refine ⟨hs.macs,?_,?_,?_,?_⟩
      · simpa [onPackets,hr] using hsy.trans hn
      · simpa [onPackets,hr] using fun _ => hn
      · simpa [hin] using hs.inbound
      · simpa [hin,hi] using hs.inboundSequence
    obtain ⟨ho,hot⟩ := hc.unsent hr
    have hsm := hot hwr
    refine ⟨hs.macs,?_,?_,?_,?_⟩
    · simpa [hr,ho] using hs.outboundSequence
    · simpa [hr,hsm] using hs.outbound
    · simpa [hin] using hs.inbound
    · simpa [hin,hi] using hs.inboundSequence
  show u.1.inbound.active=true
  rw [hc.inbound]
  exact h1.1.active hr

lemma counts_onSnd (c : Call PlatformState Err α) : (Call.onSnd c).Leaves counts :=
  fun _ => rfl

lemma sendPlainPacket_steady (payload : Bytes) (s : Peer) (h : Steady rekeying s)
    (hp : s.1.transport.outbound.active=false) :
    (sendPlainPacket payload).Ensures s (fun _ t => Steady rekeying t) := by
  refine .bind (counts_nextFill.ensures (s := s) rfl) (fun rng t ht => ?_)
    (fun _ _ ht => h.of_counts ht)
  refine .bindLift (fun packet _ => ?_) (fun _ _ => h.of_counts ht)
  refine .bind ((counts_onSnd _).ensures ht) (fun _ u hu => ?_) (fun _ _ hu => h.of_counts hu)
  apply bindModify
  apply Ensures.modify
  have hn := h.of_counts hu
  have hp : u.1.transport.outbound.active=false := by
    rw [show u.1.transport=s.1.transport from (Prod.mk.inj hu).1]
    exact hp
  refine ⟨fun hw => ?_,hn.active⟩
  have hs := hn.inStep hw
  refine ⟨hs.macs,?_,fun ha => ?_,hs.inbound,hs.inboundSequence⟩
  · show u.1.transport.outboundSequence+1=UInt32.ofNat (u.1.packets.sent+1)
    rw [hs.outboundSequence,ofNat_succ]
  · exact absurd (hp.symm.trans ha) (by decide)

lemma sendTransportPayload_steady (payload : Bytes) : Keeps (Steady rekeying)
    (sendTransportPayload C payload) := by
  intro s h
  show (sendTransportPayload C payload).Ensures s (fun _ t => Steady rekeying t)
  refine .bindGet (.ite (fun _ => sendProtected_steady C payload s h) (fun hp => ?_))
  exact sendPlainPacket_steady payload s h (Bool.not_eq_true _ ▸ hp)

def Synced (s : Peer) : Prop :=
  s.1.packets.writeFailed=false →
    s.1.transport.inboundSequence=UInt32.ofNat s.1.packets.received

/-- What a receive leaves behind: all is in step, and after a payload the session's own counter
has followed. -/
def Followed (rekeying : Bool) (r : Except Err Bytes) (t : Peer) : Prop :=
  Steady rekeying t ∧ ∀ payload,r=.ok payload → Synced t

lemma receiveProtected_followed (capacity : Nat) (s : Peer) (h : Steady rekeying s) :
    (receiveProtected C capacity).Ensures s (Followed rekeying) := by
  refine .bind (noteMac_steady false s h) (fun _ s1 h1 => ?_) (fun _ _ h1 => ⟨h1.1,nofun⟩)
  refine .bindStatus
    (.onEndpoint (receiveProtectedPayload_counted C capacity _) fun r u hc => ?_)
  apply bindModify
  apply Ensures.lift
  have hot : u.1.outbound=s1.1.transport.outbound := hc.outbound
  have ho : u.1.outboundSequence=s1.1.transport.outboundSequence := hc.outboundSequence
  by_cases ht : packetTaken r
  · obtain ⟨ha,hac⟩ := hc.taken ht
    have hst : u.1.inbound.active=true := (advanced_active ha).trans hac
    refine ⟨⟨fun hw => ?_,fun _ => hst⟩,fun payload hr hw => ?_⟩
    · have hs := h1.1.inStep hw
      have hn := advanced_sequence ha (hs.inbound hac)
      refine ⟨hs.macs,?_,?_,?_,fun hp => ?_⟩
      · simpa [ho] using hs.outboundSequence
      · simpa [hot] using hs.outbound
      · simpa [ht] using fun _ => hn
      · exact absurd (hp.symm.trans hst) (by decide)
    have hn := advanced_sequence ha ((h1.1.inStep hw).inbound hac)
    simpa [ht] using (hc.synced ⟨payload,hr⟩).trans hn
  have hsm : u.1=s1.1.transport := hc.left ht
  refine ⟨h1.1.of_counts (Prod.ext hsm ?_),fun payload hr => absurd (.inl ⟨payload,hr⟩) ht⟩
  simp [counts,ht]

lemma counts_takePlainPacket : takePlainPacket.Leaves counts :=
  .bind (counts_onSnd _) fun _ => .bind (.require _ _) fun _ =>
    .bind (counts_onSnd _) fun _ => .lift _

/-- Where packets still come in plain, the payload of the next one fits into capacity bytes. -/
def PlainFits (capacity : Nat) (s : Peer) : Prop :=
  s.1.transport.inbound.active=false →
    ∀ payload,(takePlainPacket.run s).1=.ok payload → payload.length ≤ capacity

instance (capacity : Nat) (s : Peer) : Decidable (PlainFits capacity s) :=
  match h : (takePlainPacket.run s).1 with
  | .ok payload => decidable_of_iff
    (s.1.transport.inbound.active=false → payload.length ≤ capacity)
    (by simp [PlainFits,h])
  | .error _ => isTrue fun _ payload hp => by simp [h] at hp

lemma receivePlainPacket_followed (capacity : Nat) (s : Peer) (h : Steady rekeying s)
    (hp : s.1.transport.inbound.active=false) (hf : PlainFits capacity s) :
    (receivePlainPacket capacity).Ensures s (Followed rekeying) := by
  rcases htk : takePlainPacket.run s with ⟨e | payload,t⟩
  · have ht : counts t=counts s := (counts_takePlainPacket.ensures rfl).of_eq htk
    exact .of_run (run_bind_error htk) ⟨h.of_counts ht,nofun⟩
  have ht : counts t=counts s := (counts_takePlainPacket.ensures rfl).of_eq htk
  have hr : payload.length ≤ capacity := hf hp payload (by rw [htk])
  have hn := h.of_counts ht
  have hp : t.1.transport.inbound.active=false := by
    rw [show t.1.transport=s.1.transport from (Prod.mk.inj ht).1]
    exact hp
  apply bindOk htk
  apply bindModify
  refine .bindRequire (fun _ => ?_) (fun hl => absurd hr hl)
  apply bindModify
  apply Ensures.pure
  have hnx (hw : t.1.packets.writeFailed=false) :
      t.1.transport.inboundSequence+1=UInt32.ofNat (t.1.packets.received+1) := by
    rw [(hn.inStep hw).inboundSequence hp,ofNat_succ]
  refine ⟨⟨fun hw => ?_,hn.active⟩,fun _ _ => hnx⟩
  have hs := hn.inStep hw
  refine ⟨hs.macs,hs.outboundSequence,hs.outbound,fun ha => ?_,fun _ => hnx hw⟩
  exact absurd (hp.symm.trans ha) (by decide)

lemma receiveTransportPayload_followed (capacity : Nat) (s : Peer) (h : Steady rekeying s)
    (hf : PlainFits capacity s) :
    (receiveTransportPayload C capacity).Ensures s (Followed rekeying) := by
  refine .bindGet (.ite (fun _ => receiveProtected_followed C capacity s h) (fun hp => ?_))
  exact receivePlainPacket_followed capacity s h (Bool.not_eq_true _ ▸ hp) hf
end

structure Protection.HasSizes (p : Protection) (sizes : PacketSizes) : Prop where
  cipherKey : p.cipherKey.bytes.length=sizes.cipherKeyLen
  cipherIv : p.cipherIv.bytes.length=sizes.cipherIvLen
  blockSize : p.blockSize=sizes.blockSize
  macKey : p.macKey.bytes.length=sizes.macKeyLen
  macLen : p.macLen=sizes.macLen

section
variable (K : KexCrypto) {rekeying : Bool} {s t : Peer}

lemma protectionSet_ok {p : Protection} {cipher mac : StringView}
    {cipherKey cipherIv macKey : Bytes} {blockSize macLen : Nat}
    (h : sshPacketProtectionSet cipher mac cipherKey cipherIv macKey blockSize macLen=.ok p) :
    p.active=true ∧ p.HasSizes ⟨cipherKey.length,cipherIv.length,normalizedBlockSize blockSize,
      macKey.length,macLen⟩ := by
  unfold sshPacketProtectionSet at h
  split_ifs at h
  rw [← Except.ok.inj h]
  exact ⟨rfl,rfl,rfl,rfl,rfl,rfl⟩

lemma deriveMaterial_spec (keyId : UInt8) (outLen : Nat) (ht : counts t=counts s) :
    (deriveMaterial K keyId outLen).Ensures t (Outcome
      (fun out u => counts u=counts s ∧ out.length=outLen)
      (fun e u => counts u=counts s ∧ e≠.unsupported)) := by
  refine .bindGet (.bindModify (.bindLift (fun out _ => ?_) fun e he => ⟨ht,?_⟩))
  · exact .bindRequire (fun hl => ⟨ht,hl⟩) fun _ => ⟨ht,by decide⟩
  · rw [err_of_orPlatform he]
    decide

/-- An activation without sizes fails as the sizes do. Otherwise only the protection of its direction
is touched, and a protection of the sizes is put there. -/
lemma activatePacketProtection_spec (outbound : Bool) (s : Peer) :
    (activatePacketProtection K outbound).Ensures s (Outcome
      (fun _ t => ∃ (sizes : PacketSizes) (p : Protection) (u : Peer),
        negotiatedPacketSizes s.1.negotiation=.ok sizes ∧ p.active=true ∧
        p.HasSizes {sizes with blockSize := normalizedBlockSize sizes.blockSize} ∧
        counts u=counts s ∧
        t=({u.1 with transport := installProtection outbound p u.1.transport},u.2))
      (fun e t => counts t=counts s ∧
        (negotiatedPacketSizes s.1.negotiation=.error e ∨ e≠.unsupported))) := by
  have hf (e : Err) (t : Peer) (ht : counts t=counts s ∧ e≠.unsupported) : counts t=counts s ∧
    (negotiatedPacketSizes s.1.negotiation=.error e ∨ e≠.unsupported) := ⟨ht.1,.inr ht.2⟩
  have hs : settleSessionId.Ensures s (Outcome (fun _ t => counts t=counts s)
      fun e t => counts t=counts s ∧ e≠.unsupported) :=
    .bindGet (.onlyIf (fun _ => .bindRequire (fun _ => rfl) fun _ => ⟨rfl,by decide⟩) fun _ => rfl)
  refine .bindGet (.bindLift (fun sizes hsz => .bind hs (fun _ t ht => ?_) hf)
    fun e he => ⟨rfl,.inl he⟩)
  refine .bind (deriveMaterial_spec K _ _ ht) (fun cipherIv t hiv => ?_) hf
  refine .bind (deriveMaterial_spec K _ _ hiv.1) (fun cipherKey t hk => ?_) hf
  refine .bind (deriveMaterial_spec K _ _ hk.1) (fun macKey t hmac => ?_) hf
  refine .bindLift (fun p hp => .modify ?_) fun e he => ⟨hmac.1,.inr ?_⟩
  · obtain ⟨ha,hst⟩ := protectionSet_ok hp
    rw [hiv.2,hk.2,hmac.2] at hst
    exact ⟨sizes,p,t,hsz,ha,hst,hmac.1,rfl⟩
  · unfold sshPacketProtectionSet at he
    split_ifs at he
    cases he
    decide

lemma activatePacketProtection_steady (outbound : Bool) (s : Peer) (h : Steady rekeying s)
    (hsy : outbound=false → Synced s) :
    (activatePacketProtection K outbound).Ensures s (fun _ t => Steady rekeying t) := by
  refine (activatePacketProtection_spec K outbound s).mono fun r t ht => ?_
  cases r with
  | error e => exact h.of_counts ht.1
  | ok _ =>
    obtain ⟨_,p,u,_,ha,_,hu,rfl⟩ := ht
    have hn := h.of_counts hu
    cases outbound with
    | true =>
      exact ⟨fun hw => {hn.inStep hw with outbound := fun _ => (hn.inStep hw).outboundSequence},
        hn.active⟩
    | false =>
      have hs : Synced u := by
        unfold Synced
        rw [show u.1.transport=s.1.transport from (Prod.mk.inj hu).1,
          show u.1.packets=s.1.packets from (Prod.mk.inj hu).2]
        exact hsy rfl
      exact ⟨fun hw => {hn.inStep hw with
        inbound := fun _ => hs hw
        inboundSequence := fun hp => absurd (hp.symm.trans ha) (by decide)},fun _ => ha⟩
end

section
variable (C : CryptoApi) (K : KexCrypto) {rekeying : Bool}
variable {s : Peer}

lemma Steady.weaken (h : Steady true s) : Steady false s := ⟨h.inStep,nofun⟩

lemma Steady.plainFits (h : Steady true s) (capacity : Nat) : PlainFits capacity s :=
  fun hp => absurd (hp.symm.trans (h.active rfl)) (by decide)

lemma kexSteps_steady : KexSteps C (Steady rekeying) where
  change ht h := h.of_counts (congrArg (fun k => (k.1,k.2.1)) ht)
  note _ _ h := h.of_counts rfl
  send := sendTransportPayload_steady C

lemma receiveThen_steady {α : Type} {capacity : Nat} {f : Bytes → Call Peer Err α}
    (h : Steady rekeying s) (hft : PlainFits capacity s)
    (hf : ∀ payload,Keeps (Steady rekeying) (f payload)) :
    (receiveTransportPayload C capacity >>= f).Ensures s (fun _ t => Steady rekeying t) :=
  .bind (receiveTransportPayload_followed C capacity s h hft)
    (fun payload t ht => hf payload t ht.1) (fun _ _ ht => ht.1)

lemma receiveKexinit_steady (h : Steady rekeying s) (hf : PlainFits emsshMaxKexinitPayload s) :
    (sshTransportReceiveKexinit C).Ensures s (fun _ t => Steady rekeying t) :=
  receiveThen_steady C h hf fun payload =>
    .bind (fun _ h => h.of_counts rfl) fun _ => (kexSteps_steady C).processKexinitPayload payload

lemma receiveKexEcdhInit_steady (h : Steady rekeying s)
    (hf : PlainFits (emsshMaxKexPublicKey+16) s) :
    (sshTransportReceiveKexEcdhInit C).Ensures s (fun _ t => Steady rekeying t) :=
  receiveThen_steady C h hf fun _ => .bind (.lift _) fun _ _ h => h.of_counts rfl

lemma signExchange_steady : Keeps (Steady rekeying) (signExchange K) := by
  have hi : Keeps (Steady rekeying) (buildExchangeHashInput 4096) :=
    .bind .get fun _ => .bind (fun _ h => h.of_counts rfl) fun _ => .lift _
  refine .bind hi fun _ => .bind .get fun _ => .bind (.lift _) fun _ => ?_
  refine .bind (fun _ h => h.of_counts rfl) fun _ => .bind (fun _ h => h.of_counts rfl) fun _ => ?_
  exact .bind (.lift _) fun _ _ h => h.of_counts rfl

lemma receiveNewkeys_steady (h : Steady rekeying s) (hf : PlainFits 8 s) :
    (sshTransportReceiveNewkeys C K).Ensures s (fun _ t => Steady rekeying t) := by
  refine .bind (receiveTransportPayload_followed C 8 s h hf) (fun payload t ht => ?_)
    (fun _ _ ht => ht.1)
  refine .bindLift (fun _ _ => ?_) (fun _ _ => ht.1)
  exact activatePacketProtection_steady K false t ht.1 fun _ => ht.2 payload rfl

lemma handlePeerRekey_steady (payload : Bytes) : Keeps (Steady false)
    (sshTransportHandlePeerRekey C K payload) := by
  intro s h
  by_cases hr : readyToRekey s.1
  · have hk := (kexSteps_steady C).handlePeerRekey
      (fun _ h => receiveKexEcdhInit_steady C h (h.plainFits _)) (signExchange_steady K)
      (fun s h => activatePacketProtection_steady K true s h nofun)
      (fun _ h => receiveNewkeys_steady C K h (h.plainFits _)) payload
    exact (hk s ⟨h.inStep,fun _ => hr.1⟩).weaken
  · rw [sshTransportHandlePeerRekey,run_bind_ok (run_get s),run_bind_error (run_require_not _ _ hr)]
    exact h

lemma receiveScratch_steady (capacity : Nat) : Keeps (Steady rekeying)
    (receiveScratch C capacity) := by
  have hr : Keeps (Steady rekeying) (receiveProtected C (max capacity emsshMaxKexinitPayload)) :=
    fun s h => (receiveProtected_followed C _ s h).1
  refine hr.bind fun _ => ?_
  exact .bind (fun _ h => h.of_counts rfl) fun _ => .pure _

lemma receiveSkipping_steady (capacity : Nat) : Keeps (Steady false)
    (receiveSkippingIgnorable C K capacity) :=
  receiveSkippingLoop_keeps C K (receiveScratch_steady C capacity) (handlePeerRekey_steady C K) 8
end

inductive TransportOp where
  | identify (client server : Bytes)
  | setRekeyLimits (packets bytes : Nat)
  | sendKexinit
  | receiveKexinit
  | receiveKexEcdhInit
  | sendKexEcdhReply
  | sendNewkeys
  | receiveNewkeys
  | sendProtected (payload : Bytes)
  | receiveProtected (capacity : Nat)
  | receiveSkipping (capacity : Nat)

namespace TransportOp
variable (C : CryptoApi) (K : KexCrypto)

def call : TransportOp → Call Peer Err Unit
  | identify client server => onSession fun s =>
    {s with clientIdentification := client,serverIdentification := server}
  | setRekeyLimits packets bytes => sshTransportSetRekeyLimits packets bytes
  | sendKexinit => sshTransportSendKexinit C
  | receiveKexinit => sshTransportReceiveKexinit C
  | receiveKexEcdhInit => sshTransportReceiveKexEcdhInit C
  | sendKexEcdhReply => sshTransportSendKexEcdhReply C K
  | sendNewkeys => sshTransportSendNewkeys C K
  | receiveNewkeys => sshTransportReceiveNewkeys C K
  | sendProtected payload => EMSSHD.sendProtected C payload
  | receiveProtected capacity => (EMSSHD.receiveProtected C capacity).ignore
  | receiveSkipping capacity => (receiveSkippingIgnorable C K capacity).ignore

def plainRoom : TransportOp → Option Nat
  | receiveKexinit => some emsshMaxKexinitPayload
  | receiveKexEcdhInit => some (emsshMaxKexPublicKey+16)
  | receiveNewkeys => some 8
  | _ => none

/-- A plain packet that an operation receives is not too large for it. -/
def Fits (op : TransportOp) (s : Peer) : Prop := ∀ room∈op.plainRoom,PlainFits room s

instance (op : TransportOp) (s : Peer) : Decidable (op.Fits s) :=
  match h : op.plainRoom with
  | some room => decidable_of_iff (PlainFits room s) (by simp [Fits,h])
  | none => isTrue fun room hroom => by simp [h] at hroom

def runAll : List TransportOp → Peer → Peer
  | [],s => s
  | op::ops,s => runAll ops ((op.call C K).run s).2

def AllFit : List TransportOp → Peer → Prop
  | [],_ => True
  | op::ops,s => op.Fits s ∧ AllFit ops ((op.call C K).run s).2

instance decidableAllFit : (ops : List TransportOp) → (s : Peer) → Decidable (AllFit C K ops s)
  | [],_ => isTrue trivial
  | op::ops,s =>
    have := decidableAllFit ops ((op.call C K).run s).2
    inferInstanceAs (Decidable (op.Fits s ∧ AllFit C K ops ((op.call C K).run s).2))

lemma call_steady (op : TransportOp) (s : Peer) (h : Steady false s) (hf : op.Fits s) :
    Steady false ((op.call C K).run s).2 := by
  cases op with
  | identify client server => exact h.of_counts rfl
  | setRekeyLimits packets bytes => exact ⟨fun hw => { h.inStep hw with },nofun⟩
  | sendKexinit => exact (kexSteps_steady C).sendKexinit s h
  | receiveKexinit => exact receiveKexinit_steady C h (hf _ rfl)
  | receiveKexEcdhInit => exact receiveKexEcdhInit_steady C h (hf _ rfl)
  | sendKexEcdhReply => exact (kexSteps_steady C).sendKexEcdhReply (signExchange_steady K) s h
  | sendNewkeys => exact Keeps.bind (sendTransportPayload_steady C _) (fun _ s h =>
      activatePacketProtection_steady K true s h nofun) s h
  | receiveNewkeys => exact receiveNewkeys_steady C K h (hf _ rfl)
  | sendProtected payload => exact sendProtected_steady C payload s h
  | receiveProtected capacity => exact (receiveProtected_followed C capacity s h).1
  | receiveSkipping capacity => exact receiveSkipping_steady C K capacity s h

lemma runAll_steady (ops : List TransportOp) (s : Peer) (h : Steady false s)
    (hf : AllFit C K ops s) : Steady false (runAll C K ops s) := by
  induction ops generalizing s with
  | nil => exact h
  | cons op ops ih => exact ih _ (call_steady C K op s h hf.1) hf.2
end TransportOp

lemma sessionInit_steady (algs : AlgorithmSet)
    (keypairs : List (Except Err (Bytes×Bytes))) (w : PlatformState) :
    Steady false (sshTransportSessionInit algs keypairs,w) where
  inStep _ := by
    refine ⟨?_,rfl,?_,?_,fun _ => rfl⟩
    · intro m hm
      cases hm
    · intro ha
      cases ha
    intro ha
    cases ha
  active := nofun

/-- In every run from a fresh session, rekeys and failed calls included, each packet is given
the number of packets before it in its direction: as long as the network takes what it is
given, and no plain packet is too large for the call that receives it. -/
theorem macs_count_packets (C : CryptoApi) (K : KexCrypto) (serverAlgorithms : AlgorithmSet)
    (keypairs : List (Except Err (Bytes×Bytes))) (w : PlatformState) (ops : List TransportOp)
    (hfits : TransportOp.AllFit C K ops (sshTransportSessionInit serverAlgorithms keypairs,w))
    (hwrites : (TransportOp.runAll C K ops
      (sshTransportSessionInit serverAlgorithms keypairs,w)).1.packets.writeFailed=false) :
    ∀ m∈(TransportOp.runAll C K ops
        (sshTransportSessionInit serverAlgorithms keypairs,w)).1.packets.macs,
      m.sequence=UInt32.ofNat m.before := by
  have hs := sessionInit_steady serverAlgorithms keypairs w
  have he := TransportOp.runAll_steady C K ops _ hs hfits
  exact (he.inStep hwrites).macs

def numberingCrypto : CryptoApi where
  cipherCrypt _ _ _ _ _ data := (.ok (),data)
  macCompute _ _ sequence _ _ := .ok (List.replicate 32 sequence.toUInt8)
  crypt_length _ _ _ _ _ _ := rfl

def constantKexCrypto : KexCrypto where
  kexComputeSharedSecret _ _ _ := .ok [1]
  hostkeyPublic _ := .ok [2]
  hashExchange _ _ := .ok [3]
  hostkeySign _ _ := .ok [4]
  deriveKey _ _ _ _ _ outLen := .ok (List.replicate outLen 5)

def clientSends (payloads : List Bytes) (number : UInt8) : PlatformState where
  incoming := payloads.flatMap (fun payload => plainFrame payload
      (List.replicate (sshPacketPaddingLen payload.length sshPacketMinBlockSize) 0))++
    plainFrame [2,0,0,0,0] (List.replicate 6 0)++List.replicate 32 number
  reads := List.replicate 16 4096
  outgoing := []
  writes := List.replicate 8 4096
  fills := some (List.replicate 8 fun n => .ok (Vector.replicate n 0))

def sampleKexSession : KexSession := sshTransportSessionInit defaultNameLists [.ok ([6],[7])]
def clientKexPayloads : List Bytes := [kexinitPayload (cstr "curve25519-sha256"),[30,0,0,0,1,9]]

def serverKexOps : List TransportOp :=
  [.sendKexinit,.receiveKexinit,.receiveKexEcdhInit,.sendKexEcdhReply,.sendNewkeys,.receiveNewkeys]

def unsignedKexCrypto : KexCrypto :=
  {constantKexCrypto with hostkeySign := fun _ _ => .error .platform}

def unsignedOps : List TransportOp :=
  [.receiveKexinit,.receiveKexEcdhInit,.sendKexEcdhReply,.receiveNewkeys,.receiveProtected 8]

def afterUnsignedReply : Peer :=
  TransportOp.runAll numberingCrypto unsignedKexCrypto unsignedOps
    (sshTransportSessionInit defaultNameLists [.ok ([6],[7])],
      clientSends (clientKexPayloads++[[21]]) 3)

/-- The keys of a client are taken over even when the reply fails for want of a signature. -/
theorem macs_count_packets_unsigned :
    (afterUnsignedReply.1.packets.received=4 ∧ afterUnsignedReply.1.packets.macs≠[]) ∧
      ∀ m∈afterUnsignedReply.1.packets.macs,m.sequence=UInt32.ofNat m.before := by
  have hr : TransportOp.AllFit numberingCrypto unsignedKexCrypto unsignedOps
        (sshTransportSessionInit defaultNameLists [.ok ([6],[7])],
          clientSends (clientKexPayloads++[[21]]) 3) ∧
      afterUnsignedReply.1.packets=
        {sent := 0,received := 4,macs := [⟨false,3,3⟩],writeFailed := false} := by
    decide +kernel
  have hw : afterUnsignedReply.1.packets.writeFailed=false := by rw [hr.2]
  refine ⟨⟨by rw [hr.2],by rw [hr.2]; exact cons_ne_nil _ _⟩,?_⟩
  exact macs_count_packets numberingCrypto unsignedKexCrypto defaultNameLists [.ok ([6],[7])]
    (clientSends (clientKexPayloads++[[21]]) 3) unsignedOps hr.1 hw

/-- A message that is too large for the call that waits for NEWKEYS is taken off the stream
and not counted: the first protected packet of the client, its fifth, is then refused. -/
theorem large_plain_packet_shifts_sequence :
    (TransportOp.runAll numberingCrypto constantKexCrypto
        (serverKexOps++[.receiveNewkeys,.receiveProtected 8])
        (sampleKexSession,
          clientSends (clientKexPayloads++[[2,0,0,0,5,1,2,3,4,5],[21]]) 4)).1.packets=
      {sent := 3,received := 4,macs := [⟨false,3,4⟩],writeFailed := false} := by
  decide +kernel

end EMSSHD
