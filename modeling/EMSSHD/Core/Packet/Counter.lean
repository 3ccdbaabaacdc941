import EMSSHD.Core.Packet.Stream
import EMSSHD.Math.Der

namespace EMSSHD

variable {C : CryptoApi} {p q : Protection} {len : Nat}

-- the bytes stand in the order of the loop, the lowest one first
lemma beValue_carryLoop (bs : Bytes) :
    beValue (carryLoop bs).reverse=(beValue bs.reverse+1)%256^bs.length := by
  induction bs with
  | nil => rfl
  | cons b bs ih =>
    have hv := beValue_lt bs.reverse
    have hb := b.toNat_lt
    rw [List.length_reverse] at hv
    have hs : (b+1).toNat=(b.toNat+1)%256 := UInt8.toNat_add b 1
    rw [carryLoop,length_cons,pow_succ,Nat.mul_comm (256^bs.length)]
    split_ifs with hc
    · have hn : b.toNat+1<256 := by
        refine Nat.lt_of_le_of_ne hb fun he => hc (UInt8.toNat.inj ?_)
        rw [hs,he]
        rfl
      rw [reverse_cons,reverse_cons,Der.beValue_snoc,Der.beValue_snoc,hs,Nat.mod_eq_of_lt hn,
        Nat.mod_eq_of_lt (by omega)]
      rfl
    have hz : (b+1).toNat=0 := by rw [not_not.mp hc]; rfl
    have he : 256*beValue bs.reverse+b.toNat+1=256*(beValue bs.reverse+1) := by omega
    rw [reverse_cons,reverse_cons,Der.beValue_snoc,Der.beValue_snoc,ih,hz,he,Nat.mul_mod_mul_left]
    rfl

lemma beValue_advanceCounterBe (counter : Bytes) (blocks : Nat) :
    beValue (advanceCounterBe counter blocks)=(beValue counter+blocks)%256^counter.length := by
  induction blocks generalizing counter with
  | zero => exact (Nat.mod_eq_of_lt (beValue_lt counter)).symm
  | succ blocks ih =>
    have hl : (incrementCounterBe counter).length=counter.length := by
      simp [incrementCounterBe,carryLoop_length]
    have hv := beValue_carryLoop counter.reverse
    rw [List.reverse_reverse,List.length_reverse] at hv
    rw [advanceCounterBe,ih,hl,incrementCounterBe,hv,Nat.mod_add_mod,Nat.add_assoc,Nat.add_comm 1]

/-- The number of blocks that a packet takes, the last one perhaps in part. -/
def cipherBlocks (blockLen dataLen : Nat) : Nat := (dataLen+blockLen-1)/blockLen

lemma advance_counter (p : Protection) (len : Nat) :
    (p.advance len).cipherIv.bytes=advanceCounterBe p.cipherIv.bytes
      (cipherBlocks p.cipherIv.bytes.length len) := by
  unfold Protection.advance advanceStreamPosition cipherBlocks
  split_ifs with h
  · rcases h with hi | hl
    · rw [length_eq_zero_iff.mp hi]
      exact (List.eq_nil_of_length_eq_zero (advanceCounterBe_length [] _)).symm
    rw [hl,Nat.zero_add,Nat.div_eq_zero_iff.mpr (by omega)]
    rfl
  · rfl

variable (C) in
/-- A packet is encoded, and so much of it is encrypted. -/
def SendsOut (p : Protection) (len : Nat) (q : Protection) : Prop :=
  ∃ capacity payload rng wire,
    (sshPacketEncodeProtected C capacity payload rng).run p=(.ok wire,q) ∧
      len=wire.length-p.macLen

variable (C) in
/-- A packet is accepted, and so much of it was encrypted. -/
def TakesIn (p : Protection) (len : Nat) (q : Protection) : Prop :=
  ∃ packet payload buffer,
    (sshPacketDecodeProtected C).run (p,packet)=(.ok payload,(q,buffer)) ∧
      len=packet.length-p.macLen

lemma SendsOut.advance (h : SendsOut C p len q) : q=p.advance len := by
  obtain ⟨capacity,payload,rng,wire,hr,rfl⟩ := h
  obtain ⟨-,plain,-,⟨tag,-,ht,rfl⟩,rfl⟩ := (encodeProtected_spec C capacity payload rng p).of_eq hr
  rw [length_append,C.crypt_length,ht,Nat.add_sub_cancel]

lemma TakesIn.advance (h : TakesIn C p len q) : q=p.advance len := by
  obtain ⟨packet,payload,buffer,hr,rfl⟩ := h
  obtain ⟨plain,⟨hp,-⟩,-,hq⟩ := (decodeProtected_spec C p packet).of_eq hr
  have hl : plain.length=packet.length-p.macLen := by
    rw [hp,C.crypt_length,length_take,Nat.min_eq_left (Nat.sub_le _ _)]
  rw [← hl]
  exact hq

/-- One packet after the other, with these lengths. -/
def Chained (step : Protection → Nat → Protection → Prop) :
    Protection → List Nat → Protection → Prop
  | p,[],q => q=p
  | p,len::lens,q => ∃ next,step p len next ∧ Chained step next lens q

lemma Chained.counter {step : Protection → Nat → Protection → Prop} {lens : List Nat}
    (hs : ∀ p len q,step p len q → q=p.advance len) (h : Chained step p lens q) :
    beValue q.cipherIv.bytes=(beValue p.cipherIv.bytes+
      (lens.map (cipherBlocks p.cipherIv.bytes.length)).sum)%256^p.cipherIv.bytes.length := by
  induction lens generalizing p with
  | nil =>
    obtain rfl : q=p := h
    exact (Nat.mod_eq_of_lt (beValue_lt _)).symm
  | cons len lens ih =>
    obtain ⟨next,hn,h⟩ := h
    have hc := advance_counter p len
    rw [← hs p len next hn] at hc
    rw [ih h,hc,advanceCounterBe_length,beValue_advanceCounterBe,Nat.mod_add_mod,map_cons,sum_cons,
      Nat.add_assoc]

/-- After any packets, encoded or decoded, the IV is the initial one and one more for every
block that they have taken, in the arithmetic of its own width. -/
theorem counter_position {cipherAlgorithm macAlgorithm : StringView} {key iv macKey : Bytes}
    {blockSize macLen : Nat} {lens : List Nat}
    (hset : sshPacketProtectionSet cipherAlgorithm macAlgorithm key iv macKey blockSize macLen=.ok p)
    (hrun : Chained (SendsOut C) p lens q ∨ Chained (TakesIn C) p lens q) :
    beValue q.cipherIv.bytes=
      (beValue iv+(lens.map (cipherBlocks iv.length)).sum)%2^(8*iv.length) := by
  have hp : p.cipherIv.bytes=iv := by
    unfold sshPacketProtectionSet at hset
    split_ifs at hset
    rw [← Except.ok.inj hset]
  have hc := hrun.elim (Chained.counter fun _ _ _ => SendsOut.advance)
    (Chained.counter fun _ _ _ => TakesIn.advance)
  rw [hc,hp,pow_mul]
  rfl

/-- A counter of two bytes at its top. -/
def topCounter : Protection := {sampleProtection 8 with cipherIv := ⟨[255,255],by decide⟩}

theorem counter_position_wraps :
    ∃ q,Chained (SendsOut xorCrypto) topCounter [16] q ∧ beValue q.cipherIv.bytes=7 := by
  have hs : Chained (SendsOut xorCrypto) topCounter [16]
      ((sshPacketEncodeProtected xorCrypto 64 [5] none).run topCounter).2 :=
    ⟨_,⟨64,[5],none,_,rfl,rfl⟩,rfl⟩
  have hp : sshPacketProtectionSet none none [1] [255,255] [3] 8 4=.ok topCounter := rfl
  exact ⟨_,hs,counter_position hp (.inl hs)⟩

end EMSSHD
