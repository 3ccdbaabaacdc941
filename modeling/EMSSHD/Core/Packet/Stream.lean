import EMSSHD.Core.Packet.Protected

namespace EMSSHD

/-- What the stream theorems ask of the platform, for the keys of p: the
functions do not fail, decryption undoes encryption, a MAC has the agreed length. -/
structure CryptoApi.Reliable (C : CryptoApi) (p : Protection) : Prop where
  crypt_ok : ∀ iv sequence direction data,
    (C.cipherCrypt p.cipherAlgorithm p.cipherKey.bytes iv sequence direction data).1=.ok ()
  decrypt_encrypt : ∀ iv sequence data,
    (C.cipherCrypt p.cipherAlgorithm p.cipherKey.bytes iv sequence .decrypt
      (C.cipherCrypt p.cipherAlgorithm p.cipherKey.bytes iv sequence .encrypt data).2).2=data
  mac_ok : ∀ sequence data,∃ tag,
    C.macCompute p.macAlgorithm p.macKey.bytes sequence data emsshMaxMac=.ok tag ∧
      tag.length=p.macLen

lemma CryptoApi.Reliable.advance {C : CryptoApi} {p : Protection} (h : C.Reliable p) (n : Nat) :
    C.Reliable (p.advance n) := by
  obtain ⟨_,_,hl,hca,hma,hck,hmk⟩ := p.advance_fixed n
  refine ⟨?_,?_,?_⟩
  · rw [hca,hck]
    exact h.crypt_ok
  · rw [hca,hck]
    exact h.decrypt_encrypt
  rw [hma,hmk,hl]
  exact h.mac_ok

def sendAll (C : CryptoApi) (outCapacity : Nat) :
    Protection → List (Bytes×Option RngFill) → Except Err (List (Bytes×Protection))
  | _,[] => .ok []
  | p,item::items =>
    match (sshPacketEncodeProtected C outCapacity item.1 item.2).run p with
    | (.ok wire,q) => (sendAll C outCapacity q items).map ((wire,q)::·)
    | (.error e,_) => .error e

def receiveAll (C : CryptoApi) :
    Protection → List Bytes → Except Err (List (Bytes×Protection))
  | _,[] => .ok []
  | p,packet::packets =>
    match (sshPacketDecodeProtected C).run (p,packet) with
    | (.ok payload,(q,_)) => (receiveAll C q packets).map ((payload,q)::·)
    | (.error e,_) => .error e

section
variable {C : CryptoApi} {p : Protection} {outCapacity : Nat} {payload : Bytes}
  {rng : Option RngFill}

lemma encodedLen_limits (p : Protection) (payload : Bytes) (hb : p.blockSize≤252)
    (hl : payload.length≤emsshMaxPayloadSize) :
    p.blockSize ≤ sshPacketEncodedLen payload.length p.blockSize ∧
    sshPacketEncodedLen payload.length p.blockSize%p.blockSize=0 ∧
    sshPacketEncodedLen payload.length p.blockSize≤emsshMaxPacketSize+4 := by
  obtain ⟨hp,_,hm⟩ := paddingLen_spec payload.length p.blockSize
  have hf := paddingLen_fits payload.length p.blockSize hb
  have hn : ¬p.blockSize<sshPacketMinBlockSize := Nat.not_lt.mpr p.block_min
  rw [normalizedBlockSize,if_neg hn] at hm
  refine ⟨?_,hm,?_⟩
  · apply Nat.le_of_dvd
    · unfold sshPacketEncodedLen
      omega
    · exact Nat.dvd_of_mod_eq_zero hm
  unfold sshPacketEncodedLen emsshMaxPacketSize
  unfold emsshMaxPayloadSize at hl
  omega

lemma decode_of_encode {wire : Bytes} {q : Protection} (hr : C.Reliable p) (hb : p.blockSize≤252)
    (h : (sshPacketEncodeProtected C outCapacity payload rng).run p=(.ok wire,q)) :
    ∃ buffer,(sshPacketDecodeProtected C).run (p,wire)=(.ok payload,(q,buffer)) := by
  obtain ⟨ha,plain,hpl,⟨tag,ht,htl,rfl⟩,rfl⟩ :=
    (encodeProtected_spec C outCapacity payload rng p).of_eq h
  obtain ⟨hl,_,pad,hpd,hp⟩ := encodePlain_ok_iff.mp hpl
  have hpn := paddingBytes_length hpd
  obtain ⟨hmn,_,_⟩ := paddingLen_spec payload.length p.blockSize
  have hf := paddingLen_fits payload.length p.blockSize hb
  obtain ⟨hge,hm,hmx⟩ := encodedLen_limits p payload hb hl
  have hs : plain.length=sshPacketEncodedLen payload.length p.blockSize := by
    rw [hp,plainFrame_length,hpn]
    rfl
  set cipher := (C.cipherCrypt p.cipherAlgorithm p.cipherKey.bytes p.cipherIv.bytes p.sequence
    .encrypt plain).2 with hc
  have hcl : cipher.length=plain.length := C.crypt_length _ _ _ _ _ _
  have hn : (cipher++tag).length-p.macLen=cipher.length := by
    rw [length_append]
    omega
  have hac : C.AcceptsTag p (cipher++tag) plain := by
    rw [CryptoApi.AcceptsTag,hn,take_left' rfl,drop_left' rfl,hc,hr.decrypt_encrypt]
    exact ⟨rfl,ht⟩
  have hd : sshPacketDecodePlain plain=.ok payload := by
    rw [hp]
    exact decodePlain_frame (by omega) (by omega) (by rw [← plainFrame_length,← hp]; omega)
  exact decodeProtected_run ha (by rw [length_append]; omega)
    (by rw [hs]; exact ⟨hge,hm⟩) (by omega) (hr.crypt_ok _ _ _ _) hac hd

lemma packet_roundTrip (hr : C.Reliable p) (ha : p.active=true) (hb : p.blockSize≤252)
    (hl : payload.length≤emsshMaxPayloadSize) (hrn : ∀ n,∃ pad,paddingBytes rng n=.ok pad)
    (hc : sshPacketEncodedLen payload.length p.blockSize+p.macLen≤outCapacity) :
    ∃ wire n buffer,
      (sshPacketEncodeProtected C outCapacity payload rng).run p=(.ok wire,p.advance n) ∧
      (sshPacketDecodeProtected C).run (p,wire)=(.ok payload,(p.advance n,buffer)) := by
  obtain ⟨pad,hp⟩ := hrn (sshPacketPaddingLen payload.length p.blockSize)
  have hpl : sshPacketEncodePlain outCapacity payload p.blockSize rng=
      .ok (plainFrame payload pad) :=
    encodePlain_ok_iff.mpr ⟨hl,by omega,pad,hp,rfl⟩
  have hs : (plainFrame payload pad).length=sshPacketEncodedLen payload.length p.blockSize := by
    rw [plainFrame_length,paddingBytes_length hp]
    rfl
  obtain ⟨tag,ht,htl⟩ := hr.mac_ok p.sequence (plainFrame payload pad)
  have he := encodeProtected_run ha hpl (by omega) ht htl (hr.crypt_ok _ _ _ _)
  obtain ⟨buffer,hd⟩ := decode_of_encode hr hb he
  exact ⟨_,_,buffer,he,hd⟩

private lemma stream_roundTrip (items : List (Bytes×Option RngFill)) (p : Protection)
    (hrl : C.Reliable p) (hac : p.active=true) (hbl : p.blockSize≤252)
    (hl : ∀ i∈items,i.1.length≤emsshMaxPayloadSize)
    (hr : ∀ i∈items,∀ n,∃ pad,paddingBytes i.2 n=.ok pad)
    (hc : ∀ i∈items,sshPacketEncodedLen i.1.length p.blockSize+p.macLen≤outCapacity) :
    ∃ sent got,sendAll C outCapacity p items=.ok sent ∧
      receiveAll C p (sent.map Prod.fst)=.ok got ∧
      got.map Prod.fst=items.map Prod.fst ∧ got.map Prod.snd=sent.map Prod.snd := by
  -- both sides stand in the same state p before every packet
  induction items generalizing p with
  | nil => exact ⟨[],[],rfl,rfl,rfl,rfl⟩
  | cons item items ih =>
    simp only [forall_mem_cons] at hl hr hc
    obtain ⟨wire,n,buffer,he,hd⟩ := packet_roundTrip hrl hac hbl hl.1 hr.1 hc.1
    obtain ⟨ha,hb,hm,_⟩ := p.advance_fixed n
    obtain ⟨sent,got,hs,hg,hp,hst⟩ := ih (p.advance n) (hrl.advance n) (ha.trans hac)
      (by omega) hl.2 hr.2 (by rw [hb,hm]; exact hc.2)
    refine ⟨(wire,p.advance n)::sent,(item.1,p.advance n)::got,?_,?_,?_,?_⟩
    · rw [sendAll,he]
      simp only [hs]
      rfl
    · rw [map_cons,receiveAll,hd]
      simp only [hg]
      rfl
    · rw [map_cons,map_cons,hp]
    · rw [map_cons,map_cons,hst]
end

/-- Two sides that start in one protection state exchange any list of payloads:
every call succeeds, the payloads arrive in order, and the states agree after
every packet. -/
theorem protectedStream_roundTrip (C : CryptoApi) {cipherAlgorithm macAlgorithm : StringView}
    {cipherKey cipherIv macKey : Bytes} {blockSize macLen : Nat} {p : Protection}
    (hset : sshPacketProtectionSet cipherAlgorithm macAlgorithm cipherKey cipherIv macKey
      blockSize macLen=.ok p)
    (hblock : blockSize≤252) (hrel : C.Reliable p) (sequence : UInt32) (outCapacity : Nat)
    (items : List (Bytes×Option RngFill)) (hlen : ∀ i∈items,i.1.length≤emsshMaxPayloadSize)
    (hrng : ∀ i∈items,∀ n,∃ pad,paddingBytes i.2 n=.ok pad)
    (hcap : ∀ i∈items,sshPacketEncodedLen i.1.length p.blockSize+p.macLen≤outCapacity) :
    ∃ sent got,sendAll C outCapacity {p with sequence := sequence} items=.ok sent ∧
      receiveAll C {p with sequence := sequence} (sent.map Prod.fst)=.ok got ∧
      got.map Prod.fst=items.map Prod.fst ∧ got.map Prod.snd=sent.map Prod.snd := by
  rw [sshPacketProtectionSet] at hset
  split_ifs at hset with h
  have hp := Except.ok.inj hset
  have ha : p.active=true := by rw [← hp]
  have hb : p.blockSize≤252 := by
    rw [← hp]
    change normalizedBlockSize blockSize≤252
    unfold normalizedBlockSize sshPacketMinBlockSize
    split_ifs <;> omega
  exact stream_roundTrip items {p with sequence := sequence}
    ⟨hrel.crypt_ok,hrel.decrypt_encrypt,hrel.mac_ok⟩ ha hb hlen hrng hcap

def xorCrypto : CryptoApi where
  cipherCrypt _ key iv sequence _ data :=
    (.ok (),data.map (· ^^^ (key.headD 0+iv.getLastD 0+sequence.toUInt8)))
  macCompute _ key sequence data _ :=
    .ok (List.replicate 4 (data.foldl (·+·) (key.headD 0+sequence.toUInt8)))
  crypt_length _ _ _ _ _ _ := List.length_map _

lemma map_xor_xor (key : UInt8) (data : Bytes) : (data.map (· ^^^ key)).map (· ^^^ key)=data := by
  simp only [map_map,Function.comp_def,UInt8.xor_assoc,UInt8.xor_self,UInt8.xor_zero,List.map_id']

lemma xorCrypto_reliable (p : Protection) (h : p.macLen=4) : xorCrypto.Reliable p where
  crypt_ok _ _ _ _ := rfl
  decrypt_encrypt _ _ data := map_xor_xor _ data
  mac_ok _ _ := ⟨_,rfl,length_replicate.trans h.symm⟩

/-- The protection state that ssh_packet_protection_set gives for one-byte keys
and no IV, used in examples with xorCrypto. -/
def sampleProtection (blockSize : Nat) : Protection where
  cipherAlgorithm := none
  macAlgorithm := none
  cipherKey := ⟨[1],by decide⟩
  cipherIv := .empty
  macKey := ⟨[3],by decide⟩
  blockSize := normalizedBlockSize blockSize
  macLen := 4
  sequence := 0
  active := true
  block_min := normalizedBlockSize_ge blockSize
  mac_max := by decide

theorem protectedStream_two_payloads :
    ∃ p sent got,sshPacketProtectionSet none none [1] [2,255] [3] 16 4=.ok p ∧
      sendAll xorCrypto 100 {p with sequence := 4294967295}
        [([7,8],none),([],some fun n => .ok (Vector.replicate n 9))]=.ok sent ∧
      receiveAll xorCrypto {p with sequence := 4294967295} (sent.map Prod.fst)=.ok got ∧
      got.map Prod.fst=[[7,8],[]] ∧ got.map Prod.snd=sent.map Prod.snd := by
  obtain ⟨p,hp⟩ : ∃ p,sshPacketProtectionSet none none [1] [2,255] [3] 16 4=.ok p := ⟨_,rfl⟩
  have hm : p.macLen=4 ∧ p.blockSize=16 := by
    cases hp
    exact ⟨rfl,rfl⟩
  obtain ⟨sent,got,h⟩ := protectedStream_roundTrip xorCrypto hp (by decide)
    (xorCrypto_reliable p hm.1) 4294967295 100
    [([7,8],none),([],some fun n => .ok (Vector.replicate n 9))] (by decide)
    (by
      simp only [mem_cons,not_mem_nil,or_false]
      rintro i (rfl | rfl) n
      · exact ⟨_,rfl⟩
      · exact ⟨_,rfl⟩)
    (by
      rw [hm.1,hm.2]
      simp only [mem_cons,not_mem_nil,or_false]
      rintro i (rfl | rfl) <;> decide)
  exact ⟨p,sent,got,hp,h⟩

end EMSSHD
