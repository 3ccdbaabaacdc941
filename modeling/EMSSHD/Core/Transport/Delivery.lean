import EMSSHD.Core.Transport.Session

namespace EMSSHD

open Call

/-- Under the keys of p, the first block decrypts alone as it does at the front of a packet. -/
def CryptoApi.PrefixCompatible (C : CryptoApi) (p : Protection) : Prop :=
  ∀ iv sequence data,p.blockSize ≤ data.length →
    (C.cipherCrypt p.cipherAlgorithm p.cipherKey.bytes iv sequence .decrypt
        (data.take p.blockSize)).2=
      (C.cipherCrypt p.cipherAlgorithm p.cipherKey.bytes iv sequence .decrypt data).2.take p.blockSize

lemma CryptoApi.PrefixCompatible.advance {C : CryptoApi} {p : Protection}
    (h : C.PrefixCompatible p) (n : Nat) : C.PrefixCompatible (p.advance n) := by
  obtain ⟨_,hb,_,hca,_,hck,_⟩ := p.advance_fixed n
  unfold CryptoApi.PrefixCompatible
  rw [hca,hck,hb]
  exact h

def wireLen (p : Protection) (payload : Bytes) : Nat :=
  sshPacketEncodedLen payload.length p.blockSize+p.macLen

section
variable {C : CryptoApi} {p q : Protection} {payload wire : Bytes} {cap : Nat}
  {rng : Option RngFill}

lemma encode_length (h : (sshPacketEncodeProtected C cap payload rng).run p=(.ok wire,q)) :
    wire.length=wireLen p payload := by
  obtain ⟨_,plain,hpl,⟨tag,_,htl,rfl⟩,_⟩ := (encodeProtected_spec C cap payload rng p).of_eq h
  obtain ⟨_,_,pad,hpd,hp⟩ := encodePlain_ok_iff.mp hpl
  rw [length_append,C.crypt_length,htl,hp,plainFrame_length,paddingBytes_length hpd]
  rfl

lemma firstBlock_of_encode (hr : C.Reliable p) (hcm : C.PrefixCompatible p) (hb : p.blockSize≤252)
    (h : (sshPacketEncodeProtected C cap payload rng).run p=(.ok wire,q)) :
    (C.cryptFront p .decrypt p.blockSize (wire.take p.blockSize)).1=.ok () ∧
      beValue ((C.cryptFront p .decrypt p.blockSize (wire.take p.blockSize)).2.take 4)+4=
        sshPacketEncodedLen payload.length p.blockSize := by
  obtain ⟨_,plain,hpl,⟨tag,_,_,rfl⟩,_⟩ := (encodeProtected_spec C cap payload rng p).of_eq h
  obtain ⟨hl,_,pad,hpd,hp⟩ := encodePlain_ok_iff.mp hpl
  have hpn := paddingBytes_length hpd
  have hmn := p.block_min
  obtain ⟨hge,_,hm⟩ := encodedLen_limits p payload hb hl
  have hs : plain.length=sshPacketEncodedLen payload.length p.blockSize := by
    rw [hp,plainFrame_length,hpn]
    rfl
  set cipher := (C.cipherCrypt p.cipherAlgorithm p.cipherKey.bytes p.cipherIv.bytes p.sequence
    .encrypt plain).2 with hc
  have hcl : cipher.length=plain.length := C.crypt_length _ _ _ _ _ _
  have hd : (C.cipherCrypt p.cipherAlgorithm p.cipherKey.bytes p.cipherIv.bytes p.sequence
      .decrypt (cipher.take p.blockSize)).2=plain.take p.blockSize := by
    rw [hcm _ _ _ (by omega),hc,hr.decrypt_encrypt]
  have hh : (cipher++tag).take p.blockSize=cipher.take p.blockSize :=
    List.take_append_of_le_length (by omega)
  have hw : (C.cryptFront p .decrypt p.blockSize ((cipher++tag).take p.blockSize)).2.take 4=
      beBytes 4 (1+payload.length+pad.length) := by
    rw [CryptoApi.cryptFront,hh,take_take,Nat.min_self,hd]
    rw [List.take_append_of_le_length (by rw [length_take]; omega),take_take,
      Nat.min_eq_left (by omega),hp,plainFrame,take_left' (beBytes_length 4 _)]
  refine ⟨hr.crypt_ok _ _ _ _,?_⟩
  rw [hw,beValue_beBytes_of_lt 4]
  · unfold sshPacketEncodedLen
    omega
  unfold sshPacketEncodedLen emsshMaxPacketSize at hm
  omega

variable {s : Endpoint}

lemma decodeInbound_run {packet buffer : Bytes}
    (h : (sshPacketDecodeProtected C).run (s.1.inbound,packet)=(.ok payload,(q,buffer))) :
    (decodeInbound C packet).run s=(.ok payload,({s.1 with inbound := q},s.2)) := by
  simp only [decodeInbound,h]

def received (capacity : Nat) (payload : Bytes) : Except Err Bytes :=
  if payload.length ≤ capacity then .ok payload else .error .bufferTooSmall

/-- A packet that has been encoded in the state of the receiver is received, however the
network cuts it, and no byte behind it is touched. One that has no room is taken off the
network all the same. -/
theorem receive_of_encode {rest : Bytes} {capacity : Nat} (hrl : C.Reliable s.1.inbound)
    (hc : C.PrefixCompatible s.1.inbound) (hb : s.1.inbound.blockSize≤emsshMaxCipherIv)
    (h : (sshPacketEncodeProtected C cap payload rng).run s.1.inbound=(.ok wire,q))
    (hi : s.2.incoming=wire++rest) (hpo : ∀ n∈s.2.reads,0<n)
    (hcu : wire.length ≤ s.2.reads.length) :
    (sshTransportReceiveProtectedPayload C capacity).Ensures s (fun r t =>
      r=received capacity payload ∧ t.1.inbound=q ∧ t.2.incoming=rest ∧ (∀ n∈t.2.reads,0<n) ∧
        s.2.reads.length≤t.2.reads.length+wire.length) := by
  have hm := s.1.inbound.block_min
  have hs : s.1.inbound.blockSize≤252 := by
    unfold emsshMaxCipherIv at hb
    omega
  obtain ⟨ha,plain,hpl,_,_⟩ := (encodeProtected_spec C _ _ _ _).of_eq h
  obtain ⟨hl,_⟩ := encodePlain_ok_iff.mp hpl
  obtain ⟨hge,hmd,hmx⟩ := encodedLen_limits s.1.inbound payload hs hl
  obtain ⟨hcr,hw⟩ := firstBlock_of_encode hrl hc hs h
  have hwr := encode_length h
  unfold wireLen at hwr
  have hf : (wire.take s.1.inbound.blockSize).length=s.1.inbound.blockSize := by
    rw [length_take]
    omega
  have hct : s.2.incoming=
      wire.take s.1.inbound.blockSize++(wire.drop s.1.inbound.blockSize++rest) := by
    rw [hi,← append_assoc,take_append_drop]
  refine .bindGet (.bindRequire (fun _ => ?_) (fun hno => absurd ha hno))
  refine .bindRequire (fun _ => ?_) (fun hno => absurd ⟨hm,hb⟩ hno)
  obtain ⟨reads1,hrd,hps,hco⟩ := netReadExact_front hf hct hpo (by omega)
  apply bindOk ((run_onSnd _ s).trans (by rw [hrd]))
  refine .bindLift (fun _ _ => ?_) (fun e he => ?_)
  swap
  · rw [hcr] at he
    cases he
  generalize beValue ((C.cryptFront s.1.inbound .decrypt s.1.inbound.blockSize
    (wire.take s.1.inbound.blockSize)).2.take 4)=packetLength at hw ⊢
  have hac : acceptableLength s.1.inbound.blockSize packetLength := by
    refine ⟨⟨by omega,by omega⟩,by omega,by omega,?_⟩
    rw [hw]
    exact hmd
  refine .bindRequire (fun _ => ?_) (fun hno => absurd hac hno)
  have hrs : (wire.drop s.1.inbound.blockSize).length=
      packetLength+4-s.1.inbound.blockSize+s.1.inbound.macLen := by
    rw [length_drop]
    omega
  set w : PlatformState := {s.2 with
    incoming := wire.drop s.1.inbound.blockSize++rest,reads := reads1}
  obtain ⟨reads2,hre,hp,hcn⟩ := netReadExact_front (w := w) hrs rfl hps
    (show _ ≤ reads1.length by omega)
  apply bindOk ((run_onSnd _ (s.1,w)).trans (by rw [hre]))
  obtain ⟨buffer,hdc⟩ := decode_of_encode hrl hs h
  have hd := decodeInbound_run (s := (s.1,{w with incoming := rest,reads := reads2})) hdc
  rw [← take_append_drop s.1.inbound.blockSize wire] at hd
  apply bindOk hd
  have hu : s.2.reads.length ≤ reads2.length+wire.length := by
    change reads1.length ≤ _ at hcn
    omega
  refine .bindRequire (fun hr => ?_) (fun hr => ?_)
  · apply bindModify
    apply bindModify
    apply Ensures.pure
    exact ⟨(if_pos hr).symm,(recordRekeyPacket_keeps false _ _).1,rfl,hp,hu⟩
  · exact ⟨(if_neg hr).symm,rfl,rfl,hp,hu⟩

/-- The generator has an output for so many packets, where there is a generator. -/
def FillsPackets (count : Nat) (fills : Option (List RngFill)) : Prop :=
  ∀ outputs,fills=some outputs →
    count ≤ outputs.length ∧ ∀ fill∈outputs,∀ n,∃ padding,fill n=.ok padding

lemma nextFill_of_fills {count : Nat} (h : FillsPackets (count+1) s.2.fills) :
    ∃ rng fills,nextFill.run s=(.ok rng,(s.1,{s.2 with fills := fills})) ∧
      (∀ n,∃ pad,paddingBytes rng n=.ok pad) ∧ FillsPackets count fills := by
  unfold nextFill
  rcases hf : s.2.fills with _ | _ | ⟨fill,fills⟩
  · refine ⟨none,none,by simp only [hf]; rw [← hf],fun n => ⟨_,rfl⟩,nofun⟩
  · exact absurd (h [] hf).1 (by simp)
  obtain ⟨hc,hg⟩ := h _ hf
  rw [length_cons] at hc
  obtain ⟨hfr,hg⟩ := forall_mem_cons.mp hg
  refine ⟨some fill,some fills,by simp only [hf],fun n => ?_,?_⟩
  · obtain ⟨padding,hp⟩ := hfr n
    exact ⟨padding.toList,by simp only [paddingBytes,hp]⟩
  intro outputs ho
  rw [← Option.some.inj ho]
  exact ⟨by omega,hg⟩

/-- A platform on which so many packets can be sent, of so many bytes in all. -/
structure CanSend (packets bytes : Nat) (w : PlatformState) : Prop where
  fills : FillsPackets packets w.fills
  writes : ∀ n∈w.writes,0<n
  count : bytes ≤ w.writes.length

lemma send_of_canSend {s : Endpoint} {packets bytes : Nat} (hr : C.Reliable s.1.outbound)
    (ha : s.1.outbound.active=true) (hb : s.1.outbound.blockSize≤252)
    (hl : payload.length≤emsshMaxPayloadSize)
    (hc : CanSend (packets+1) (wireLen s.1.outbound payload+bytes) s.2) :
    (sshTransportSendProtectedPayload C payload).Ensures s (fun r t =>
      r=.ok () ∧ CanSend packets bytes t.2 ∧ ∃ rng wire n,
        (sshPacketEncodeProtected C (emsshMaxPacketSize+4+emsshMaxMac) payload rng).run
          s.1.outbound=(.ok wire,s.1.outbound.advance n) ∧
        t.1.outbound=s.1.outbound.advance n ∧ t.2.outgoing=s.2.outgoing++wire ∧
        wire.length=wireLen s.1.outbound payload) := by
  obtain ⟨rng,fills,hfl,hrn,hf⟩ := nextFill_of_fills hc.fills
  have hlm := encodedLen_limits s.1.outbound payload hb hl
  have hmac := s.1.outbound.mac_max
  obtain ⟨wire,n,_,he,_⟩ : ∃ wire n buffer,
      (sshPacketEncodeProtected C (emsshMaxPacketSize+4+emsshMaxMac) payload rng).run
        s.1.outbound=(.ok wire,s.1.outbound.advance n) ∧
      (sshPacketDecodeProtected C).run (s.1.outbound,wire)=
        (.ok payload,(s.1.outbound.advance n,buffer)) :=
    packet_roundTrip hr ha hb hl hrn (by omega)
  have hwr := encode_length he
  have hcn := hc.count
  refine .bindGet (.bindRequire (fun _ => ?_) (fun hno => absurd ha hno))
  apply bindOk hfl
  refine .bindOk (t := ({s.1 with outbound := s.1.outbound.advance n},{s.2 with fills := fills}))
    (a := wire) ?_ ?_
  · simp only [encodeOutbound,he]
  obtain ⟨writes,hw,hp,hlf⟩ := netWriteAll_positive
    (w := {s.2 with fills := fills}) hc.writes (show wire.length ≤ s.2.writes.length by omega)
  apply bindOk ((run_onSnd _ _).trans (by rw [hw]))
  apply bindModify
  apply Ensures.modify
  refine ⟨rfl,⟨hf,hp,?_⟩,rng,wire,n,he,(recordRekeyPacket_keeps true _ _).2.1,rfl,hwr⟩
  change s.2.writes.length ≤ _ at hlf
  show bytes≤writes.length
  omega
end

section
variable (C : CryptoApi)

def sendEach : List Bytes → Endpoint → List (Except Err Unit×Bytes)
  | [],_ => []
  | payload::payloads,s =>
    let r := (sshTransportSendProtectedPayload C payload).run s
    (r.1,r.2.2.outgoing.drop s.2.outgoing.length)::sendEach payloads r.2

def receiveEach : List Nat → Endpoint → List (Except Err Bytes×Bytes)
  | [],_ => []
  | capacity::capacities,s =>
    let r := (sshTransportReceiveProtectedPayload C capacity).run s
    (r.1,s.2.incoming.take (s.2.incoming.length-r.2.2.incoming.length))::
      receiveEach capacities r.2

def streamLen (p : Protection) (payloads : List Bytes) : Nat := (payloads.map (wireLen p)).sum

lemma streamLen_advance (p : Protection) (n : Nat) (payloads : List Bytes) :
    streamLen (p.advance n) payloads=streamLen p payloads := by
  obtain ⟨_,hb,hmac,_⟩ := p.advance_fixed n
  have hw : wireLen (p.advance n)=wireLen p := by
    funext payload
    rw [wireLen,wireLen,hb,hmac]
  rw [streamLen,streamLen,hw]

/-- What a sender puts on the wire, a receiver in the mirrored state gets: payload for
payload and packet for packet, however the network cuts the stream. Every read takes a
byte at least, so that one result in store for each byte is enough. -/
theorem transport_delivers (items : List (Bytes×Nat)) (sender receiver : Endpoint)
    (later : Bytes) (hrel : C.Reliable sender.1.outbound)
    (hcompat : C.PrefixCompatible sender.1.outbound) (hactive : sender.1.outbound.active=true)
    (hblock : sender.1.outbound.blockSize≤32) (hmirror : receiver.1.inbound=sender.1.outbound)
    (hlen : ∀ item∈items,item.1.length≤emsshMaxPayloadSize ∧ item.1.length ≤ item.2)
    (hcan : CanSend items.length (streamLen sender.1.outbound (items.map Prod.fst)) sender.2)
    (hincoming : receiver.2.incoming=
      ((sendEach C (items.map Prod.fst) sender).map Prod.snd).flatten++later)
    (hpos : ∀ n∈receiver.2.reads,0<n)
    (hcount : streamLen sender.1.outbound (items.map Prod.fst) ≤ receiver.2.reads.length) :
    (sendEach C (items.map Prod.fst) sender).map Prod.fst=items.map (fun _ => .ok ()) ∧
      receiveEach C (items.map Prod.snd) receiver=
        List.zipWith (fun item sent => (.ok item.1,sent.2)) items
          (sendEach C (items.map Prod.fst) sender) := by
  -- the two sides stand in the same state before every packet
  induction items generalizing sender receiver with
  | nil => exact ⟨rfl,rfl⟩
  | cons item items ih =>
    obtain ⟨⟨hsz,hrm⟩,hlen⟩ := forall_mem_cons.mp hlen
    rw [map_cons,streamLen,map_cons,sum_cons] at hcan hcount
    have hsn := send_of_canSend hrel hactive (by omega) hsz hcan
    rcases hru : (sshTransportSendProtectedPayload C item.1).run sender with ⟨r,t⟩
    obtain ⟨rfl,hc,rng,wire,n,he,ho,hot,hw⟩ := hsn.of_eq hru
    have hs : sendEach C ((item::items).map Prod.fst) sender=
        (.ok (),wire)::sendEach C (items.map Prod.fst) t := by
      rw [map_cons,sendEach,hru,hot,drop_left' rfl]
    rw [hs,map_cons,flatten_cons,append_assoc] at hincoming
    rw [← hmirror] at he hrel hcompat hblock
    have hr : (sshTransportReceiveProtectedPayload C item.2).Ensures receiver _ :=
      receive_of_encode hrel hcompat hblock he hincoming hpos (by omega)
    rw [received,if_pos hrm] at hr
    rcases hrn : (sshTransportReceiveProtectedPayload C item.2).run receiver with ⟨r2,u⟩
    obtain ⟨rfl,hin,hlf,hp,hcn⟩ := hr.of_eq hrn
    have ht : receiver.2.incoming.take (receiver.2.incoming.length-u.2.incoming.length)=wire := by
      rw [hlf,hincoming,length_append,Nat.add_sub_cancel,take_left' rfl]
    have hg : receiveEach C ((item::items).map Prod.snd) receiver=
        (.ok item.1,wire)::receiveEach C (items.map Prod.snd) u := by
      rw [map_cons,receiveEach,hrn,ht]
    rw [hmirror] at hrel hcompat hblock
    have hl : streamLen t.1.outbound (items.map Prod.fst)=
        streamLen sender.1.outbound (items.map Prod.fst) := by
      rw [ho,streamLen_advance]
    obtain ⟨hok,ha⟩ := ih t u (ho ▸ hrel.advance n) (ho ▸ hcompat.advance n)
      (by rw [ho,(sender.1.outbound.advance_fixed n).1]; exact hactive)
      (by rw [ho,(sender.1.outbound.advance_fixed n).2.1]; exact hblock)
      (by rw [hin,ho,hmirror]) hlen (by rw [hl]; exact hc) hlf hp
      (by rw [hl,streamLen]; omega)
    rw [hs,hg]
    refine ⟨?_,?_⟩
    · rw [map_cons,map_cons,hok]
    · rw [List.zipWith_cons_cons,ha]
end

lemma xorCrypto_prefixCompatible (p : Protection) : xorCrypto.PrefixCompatible p := by
  intro iv sequence data _
  exact List.map_take

def sampleSender : Endpoint :=
  (sampleSession,
    {incoming := [],reads := [],outgoing := [],writes := List.replicate 60 7,fills := none})

def sampleReceiver (stream : Bytes) : Endpoint :=
  (sampleSession,
    {incoming := stream,reads := List.replicate 60 3,outgoing := [],writes := [],fills := none})

lemma sampleReceiver_incoming (stream : Bytes) : (sampleReceiver stream).2.incoming=stream := rfl

def sampleItems : List (Bytes×Nat) := [([7,8],2),([],0)]

theorem transport_delivers_two :
    (sendEach xorCrypto (sampleItems.map Prod.fst) sampleSender).map Prod.fst=
        sampleItems.map (fun _ => .ok ()) ∧
      receiveEach xorCrypto (sampleItems.map Prod.snd) (sampleReceiver
          ((sendEach xorCrypto (sampleItems.map Prod.fst) sampleSender).map Prod.snd).flatten)=
        List.zipWith (fun item sent => (.ok item.1,sent.2)) sampleItems
          (sendEach xorCrypto (sampleItems.map Prod.fst) sampleSender) :=
  transport_delivers xorCrypto sampleItems sampleSender (sampleReceiver
      ((sendEach xorCrypto (sampleItems.map Prod.fst) sampleSender).map Prod.snd).flatten) []
    (xorCrypto_reliable _ rfl) (xorCrypto_prefixCompatible _) rfl (by decide) rfl (by decide)
    ⟨nofun,fun n hn => by rw [eq_of_mem_replicate hn]; decide,by decide +kernel⟩
    (by rw [sampleReceiver_incoming,append_nil]) (fun n hn => by rw [eq_of_mem_replicate hn]; decide)
    (by decide +kernel)

end EMSSHD
