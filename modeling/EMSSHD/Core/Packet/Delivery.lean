import EMSSHD.Core.Packet.Stream

namespace EMSSHD

/-- A packet the sender let go: its sequence number, the bytes its tag was
computed over, its payload and what went on the wire. -/
structure SentPacket where
  sequence : UInt32
  plain : Bytes
  payload : Bytes
  wire : Bytes

/-- What mac_compute was given when item was encoded in state p. -/
def macInput (outCapacity : Nat) (p : Protection) (item : Bytes×Option RngFill) : Bytes :=
  match sshPacketEncodePlain outCapacity item.1 p.blockSize item.2 with
  | .ok plain => plain
  | .error _ => []

def sentPackets (C : CryptoApi) (outCapacity : Nat) :
    Protection → List (Bytes×Option RngFill) → List SentPacket
  | _,[] => []
  | p,item::items =>
    match (sshPacketEncodeProtected C outCapacity item.1 item.2).run p with
    | (.ok wire,q) =>
      ⟨p.sequence,macInput outCapacity p item,item.1,wire⟩::sentPackets C outCapacity q items
    | (.error _,q) => sentPackets C outCapacity q items

def acceptedPayloads (C : CryptoApi) : Protection → List Bytes → List Bytes
  | _,[] => []
  | r,packet::packets =>
    match (sshPacketDecodeProtected C).run (r,packet) with
    | (.ok payload,(r',_)) => payload::acceptedPayloads C r' packets
    | (.error _,(r',_)) => acceptedPayloads C r' packets

def decodeCalls (C : CryptoApi) : Protection → List Bytes → List (Protection×Bytes)
  | _,[] => []
  | r,packet::packets =>
    (r,packet)::decodeCalls C ((sshPacketDecodeProtected C).run (r,packet)).2.1 packets

/-- No forgery: a tag the receiver accepts, for a sequence number and data, is one
that the sender made for that sequence number and data. -/
def Unforged (C : CryptoApi) (sent : List SentPacket) (calls : List (Protection×Bytes)) : Prop :=
  ∀ call∈calls,∀ plain,C.AcceptsTag call.1 call.2 plain →
    ∃ x∈sent,x.sequence=call.1.sequence ∧ x.plain=plain

/-- Packets that a sender in state p produces, in terms of the frames they hold. -/
def SentFrom : Protection → List SentPacket → Prop
  | _,[] => True
  | p,x::xs => x.sequence=p.sequence ∧
    (∃ pad,x.plain=plainFrame x.payload pad ∧
      pad.length=sshPacketPaddingLen x.payload.length p.blockSize) ∧
    SentFrom (p.advance x.plain.length) xs

lemma sentPackets_sentFrom (C : CryptoApi) (cap : Nat) (items : List (Bytes×Option RngFill))
    (p : Protection) : SentFrom p (sentPackets C cap p items) := by
  induction items generalizing p with
  | nil => trivial
  | cons item items ih =>
    have hs := encodeProtected_spec C cap item.1 item.2 p
    rw [sentPackets]
    rcases hr : (sshPacketEncodeProtected C cap item.1 item.2).run p with ⟨r,q⟩
    have hq := hs.of_eq hr
    rcases r with _ | wire
    · rw [hq.1]
      exact ih p
    obtain ⟨_,plain,hp,_,rfl⟩ := hq
    obtain ⟨_,_,pad,hpd,hf⟩ := encodePlain_ok_iff.mp hp
    have hin : macInput cap p item=plain := by rw [macInput,hp]
    refine ⟨rfl,⟨pad,hin.trans hf,paddingBytes_length hpd⟩,?_⟩
    simp only [hin]
    exact ih _

lemma sentFrom_sequence {p : Protection} {sent : List SentPacket} (h : SentFrom p sent)
    {x : SentPacket} (hx : x∈sent) : ∃ i<sent.length,x.sequence=p.sequence+UInt32.ofNat i := by
  induction sent generalizing p with
  | nil => cases hx
  | cons y ys ih =>
    obtain ⟨hy,_,hys⟩ := h
    rcases mem_cons.mp hx with rfl | hx
    · exact ⟨0,by simp,by simp [hy]⟩
    obtain ⟨i,hi,he⟩ := ih hys hx
    refine ⟨i+1,by simp; omega,?_⟩
    rw [he,p.advance_sequence,UInt32.ofNat_add,UInt32.add_assoc,UInt32.add_comm 1]
    rfl

lemma sequence_add_ne {s : UInt32} {k : Nat} (h0 : 0<k) (hk : k<2^32) : s+UInt32.ofNat k≠s := by
  intro h
  have hn := congrArg UInt32.toNat h
  have hs := s.toNat_lt
  rw [UInt32.toNat_add,UInt32.toNat_ofNat'] at hn
  omega

def SentBefore (r : Protection) (limit : Nat) (x : SentPacket) : Prop :=
  ∃ k,0<k ∧ k≤limit ∧ x.sequence+UInt32.ofNat k=r.sequence

variable {r : Protection} {past : List SentPacket}

private lemma accepted_is_next {C : CryptoApi} {packet plain : Bytes} {next : List SentPacket}
    (hps : ∀ x∈past,SentBefore r past.length x) (hn : SentFrom r next)
    (hc : past.length+next.length<2^32)
    (hmac : C.AcceptsTag r packet plain → ∃ x∈past++next,x.sequence=r.sequence ∧ x.plain=plain)
    (ht : C.AcceptsTag r packet plain) : ∃ y ys,next=y::ys ∧ y.plain=plain := by
  obtain ⟨x,hx,hs,hp⟩ := hmac ht
  rcases mem_append.mp hx with hx | hx
  · obtain ⟨k,h0,hk,he⟩ := hps x hx
    rw [← hs] at he
    exact absurd he (sequence_add_ne h0 (by omega))
  rcases next with _ | ⟨y,ys⟩
  · cases hx
  rcases mem_cons.mp hx with rfl | hx
  · exact ⟨x,ys,rfl,hp⟩
  obtain ⟨hy,_,hys⟩ := hn
  obtain ⟨i,hi,he⟩ := sentFrom_sequence hys hx
  rw [r.advance_sequence,UInt32.add_assoc,UInt32.add_comm 1] at he
  have hne : r.sequence+UInt32.ofNat (i+1)≠r.sequence := by
    refine sequence_add_ne (by omega) ?_
    rw [length_cons] at hc
    omega
  rw [UInt32.ofNat_add] at hne
  exact absurd (he.symm.trans hs) hne

private lemma sentBefore_advance {y : SentPacket} {n : Nat}
    (hp : ∀ x∈past,SentBefore r past.length x) (hy : y.sequence=r.sequence) :
    ∀ x∈past++[y],SentBefore (r.advance n) (past++[y]).length x := by
  intro x hx
  rw [length_append,length_singleton]
  rcases mem_append.mp hx with hx | hx
  · obtain ⟨k,h0,hk,he⟩ := hp x hx
    refine ⟨k+1,by omega,by omega,?_⟩
    rw [UInt32.ofNat_add,← UInt32.add_assoc,he,r.advance_sequence]
    rfl
  rw [mem_singleton.mp hx]
  refine ⟨1,by omega,by omega,?_⟩
  rw [hy,r.advance_sequence]
  rfl

private lemma accepted_prefix (C : CryptoApi) (blockSize : Nat) (packets : List Bytes)
    (r : Protection) (past next : List SentPacket) (hp : ∀ x∈past,SentBefore r past.length x)
    (hn : SentFrom r next) (hc : past.length+next.length<2^32)
    (hmac : Unforged C (past++next) (decodeCalls C r packets)) (hb : r.blockSize=blockSize)
    (hpd : ∀ x∈next,PaddingSurvives x.payload.length blockSize) :
    acceptedPayloads C r packets <+: next.map SentPacket.payload := by
  -- the receiver's state is always that of the sender before its packet next
  induction packets generalizing r past next with
  | nil => exact List.nil_prefix
  | cons packet packets ih =>
    have hs := decodeProtected_spec C r packet
    rw [decodeCalls] at hmac
    obtain ⟨hh,hl⟩ := forall_mem_cons.mp hmac
    rw [acceptedPayloads]
    rcases hr : (sshPacketDecodeProtected C).run (r,packet) with ⟨res,r',buffer⟩
    have hrs := hs.of_eq hr
    rw [hr] at hl
    rcases res with _ | payload
    · obtain ⟨rfl,_⟩ := hrs
      exact ih r' past next hp hn hc hl hb hpd
    obtain ⟨plain,ht,hpl,hr'⟩ := hrs
    obtain ⟨y,ys,rfl,rfl⟩ := accepted_is_next hp hn hc (hh plain) ht
    obtain ⟨hy,⟨pad,hf,hln⟩,hys⟩ := hn
    have hpy : payload=y.payload := by
      rw [hf] at hpl
      rw [hb] at hln
      exact decodePlain_survives (hpd y (by simp)) hln hpl
    rw [show r'=r.advance y.plain.length from hr'] at hl ⊢
    have hrt := ih (r.advance y.plain.length) (past++[y]) ys
      (sentBefore_advance hp hy) hys (by simp at hc ⊢; omega)
      (by rwa [append_assoc]) ((r.advance_fixed _).2.1.trans hb)
      (fun x hx => hpd x (mem_cons_of_mem y hx))
    rw [map_cons,hpy]
    exact (List.prefix_cons_inj _).mpr hrt

/-- Whatever is presented to the receiver, what it accepts is a prefix of what
was sent, as long as no sent padding is cut by the cast of its length. -/
theorem acceptedPayloads_prefix (C : CryptoApi) (outCapacity : Nat) (p : Protection)
    (items : List (Bytes×Option RngFill)) (packets : List Bytes)
    (hcount : (sentPackets C outCapacity p items).length<2^32)
    (hmac : Unforged C (sentPackets C outCapacity p items) (decodeCalls C p packets))
    (hpad : ∀ x∈sentPackets C outCapacity p items,PaddingSurvives x.payload.length p.blockSize) :
    acceptedPayloads C p packets <+:
      (sentPackets C outCapacity p items).map SentPacket.payload :=
  accepted_prefix C p.blockSize packets p [] _ (by simp) (sentPackets_sentFrom C outCapacity items p)
    (by simpa using hcount) hmac rfl hpad

def openedBytes (C : CryptoApi) (p : Protection) (packet : Bytes) : Bytes :=
  (C.cipherCrypt p.cipherAlgorithm p.cipherKey.bytes p.cipherIv.bytes p.sequence .decrypt
    (packet.take (packet.length-p.macLen))).2

lemma unforged_iff (C : CryptoApi) (sent : List SentPacket) (calls : List (Protection×Bytes)) :
    Unforged C sent calls ↔ ∀ call∈calls,
      C.mac call.1 (openedBytes C call.1 call.2)=
        .ok (call.2.drop (call.2.length-call.1.macLen)) →
      ∃ x∈sent,x.sequence=call.1.sequence ∧ x.plain=openedBytes C call.1 call.2 := by
  constructor
  · intro h call hc ht
    exact h call hc _ ⟨rfl,ht⟩
  intro h call hc plain htg
  obtain ⟨rfl,ht⟩ := htg
  exact h call hc ht

instance (C : CryptoApi) (sent : List SentPacket) (calls : List (Protection×Bytes)) :
    Decidable (Unforged C sent calls) :=
  decidable_of_iff _ (unforged_iff C sent calls).symm

/-- A replayed and an invented packet between two honest ones. -/
theorem acceptedPayloads_prefix_replay :
    let sent := sentPackets xorCrypto 100 (sampleProtection 16) [([7,8],none),([9],none)]
    let packets := sent.map SentPacket.wire
    acceptedPayloads xorCrypto (sampleProtection 16)
      (packets.take 1++packets.take 1++[List.replicate 20 5]++packets.drop 1)
        <+: sent.map SentPacket.payload :=
  acceptedPayloads_prefix xorCrypto 100 (sampleProtection 16) [([7,8],none),([9],none)] _
    (by decide +kernel) (by decide +kernel) (by decide +kernel)

/-- With blocks of 512 bytes the padding of a one-byte payload is 506 bytes long,
its length byte says 250, and the receiver takes 256 padding bytes for payload. -/
theorem acceptedPayloads_long_padding :
    let p := sampleProtection 512
    let sent := sentPackets xorCrypto 600 p [([1],none)]
    sshPacketProtectionSet none none [1] [] [3] 512 4=.ok p ∧ xorCrypto.Reliable p ∧
    sent.length<2^32 ∧
    Unforged xorCrypto sent (decodeCalls xorCrypto p (sent.map SentPacket.wire)) ∧
    acceptedPayloads xorCrypto p (sent.map SentPacket.wire)=[1::List.replicate 256 0] ∧
    ¬acceptedPayloads xorCrypto p (sent.map SentPacket.wire) <+:
      sent.map SentPacket.payload := by
  refine ⟨rfl,xorCrypto_reliable _ rfl,?_,?_,?_,?_⟩
  · decide +kernel
  · decide +kernel
  · decide +kernel
  · decide +kernel

end EMSSHD
