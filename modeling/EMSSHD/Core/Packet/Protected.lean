import EMSSHD.Core.Packet.Plain

namespace EMSSHD

open Call

inductive CipherDirection where
  | encrypt
  | decrypt
  deriving DecidableEq

/-- The part of ssh_crypto_api_t that packet protection calls. The cipher works
in place: it returns its status and the buffer as it leaves it, whatever the status. -/
structure CryptoApi where
  cipherCrypt : (algorithm : StringView) → (key iv : Bytes) → (sequence : UInt32) →
    CipherDirection → (data : Bytes) → Except Err Unit×Bytes
  macCompute : (algorithm : StringView) → (key : Bytes) → (sequence : UInt32) →
    (data : Bytes) → (macCapacity : Nat) → Except Err Bytes
  crypt_length : ∀ algorithm key iv sequence direction data,
    (cipherCrypt algorithm key iv sequence direction data).2.length=data.length

/-- ssh_packet_protection_t without its pointer to the crypto functions. -/
structure Protection where
  cipherAlgorithm : StringView
  macAlgorithm : StringView
  cipherKey : Bounded emsshMaxCipherKey
  cipherIv : Bounded emsshMaxCipherIv
  macKey : Bounded emsshMaxMacKey
  blockSize : Nat
  macLen : Nat
  sequence : UInt32
  active : Bool
  block_min : 8≤blockSize
  mac_max : macLen≤emsshMaxMac
  deriving DecidableEq

def sshPacketProtectionInit : Protection where
  cipherAlgorithm := none
  macAlgorithm := none
  cipherKey := .empty
  cipherIv := .empty
  macKey := .empty
  blockSize := sshPacketMinBlockSize
  macLen := 0
  sequence := 0
  active := false
  block_min := Nat.le_refl _
  mac_max := Nat.zero_le _

def sshPacketProtectionSet (cipherAlgorithm macAlgorithm : StringView)
    (cipherKey cipherIv macKey : Bytes) (blockSize macLen : Nat) : Except Err Protection :=
  if h : (cipherKey.length≠0 ∧ cipherKey.length≤emsshMaxCipherKey) ∧
      cipherIv.length≤emsshMaxCipherIv ∧
      (macKey.length≠0 ∧ macKey.length≤emsshMaxMacKey) ∧ (macLen≠0 ∧ macLen≤emsshMaxMac) then
    .ok {
      cipherAlgorithm := cipherAlgorithm
      macAlgorithm := macAlgorithm
      cipherKey := ⟨cipherKey,h.1.2⟩
      cipherIv := ⟨cipherIv,h.2.1⟩
      macKey := ⟨macKey,h.2.2.1.2⟩
      blockSize := normalizedBlockSize blockSize
      macLen := macLen
      sequence := 0
      active := true
      block_min := normalizedBlockSize_ge blockSize
      mac_max := h.2.2.2.2 }
  else .error .invalidArgument

def macMatches (a b : Bytes) (len : Nat) : Bool :=
  ((a.take len).zip (b.take len)).foldl (fun diff ab => diff ||| (ab.1 ^^^ ab.2)) (0 : UInt8)=0

def carryLoop : Bytes → Bytes
  | [] => []
  | b::bs => if b+1≠0 then (b+1)::bs else (b+1)::carryLoop bs

def incrementCounterBe (counter : Bytes) : Bytes := (carryLoop counter.reverse).reverse

def advanceCounterBe (counter : Bytes) : Nat → Bytes
  | 0 => counter
  | blocks+1 => advanceCounterBe (incrementCounterBe counter) blocks

lemma carryLoop_length (bs : Bytes) : (carryLoop bs).length=bs.length := by
  induction bs with
  | nil => rfl
  | cons b bs ih =>
    rw [carryLoop]
    split_ifs
    · rfl
    · simp [ih]

lemma advanceCounterBe_length (counter : Bytes) (blocks : Nat) :
    (advanceCounterBe counter blocks).length=counter.length := by
  induction blocks generalizing counter with
  | zero => rfl
  | succ blocks ih =>
    rw [advanceCounterBe,ih]
    simp [incrementCounterBe,carryLoop_length]

namespace Protection

def advanceIv (p : Protection) (blocks : Nat) : Bounded emsshMaxCipherIv :=
  ⟨advanceCounterBe p.cipherIv.bytes blocks,
    (advanceCounterBe_length p.cipherIv.bytes blocks).trans_le p.cipherIv.fits⟩
end Protection

def advanceStreamPosition (p : Protection) (dataLen : Nat) : Protection :=
  if p.cipherIv.bytes.length=0 ∨ dataLen=0 then p
  else
    let blockLen := p.cipherIv.bytes.length
    {p with cipherIv := p.advanceIv ((dataLen+blockLen-1)/blockLen)}

namespace CryptoApi

/-- cipher_crypt with the key, IV and sequence of p, on the first len bytes of a buffer. -/
def cryptFront (C : CryptoApi) (p : Protection) (direction : CipherDirection) (len : Nat)
    (buffer : Bytes) : Except Err Unit×Bytes :=
  let done := C.cipherCrypt p.cipherAlgorithm p.cipherKey.bytes p.cipherIv.bytes p.sequence
    direction (buffer.take len)
  (done.1,done.2++buffer.drop len)

def mac (C : CryptoApi) (p : Protection) (data : Bytes) : Except Err Bytes :=
  C.macCompute p.macAlgorithm p.macKey.bytes p.sequence data emsshMaxMac
end CryptoApi

/-- Any failure of a platform function is reported as SSH_ERR_PLATFORM. -/
def orPlatform {σ α : Type} (r : Except Err α) : Call σ Err α :=
  Call.lift (r.mapError fun _ => .platform)

def sshPacketEncodeProtected (C : CryptoApi) (outCapacity : Nat) (payload : Bytes)
    (rng : Option RngFill) : Call Protection Err Bytes := do
  let p ← Call.get
  Call.require (p.active=true) .invalidArgument
  let packet ← Call.lift (sshPacketEncodePlain outCapacity payload p.blockSize rng)
  Call.require (packet.length+p.macLen≤outCapacity) .bufferTooSmall
  let mac ← orPlatform (C.mac p packet)
  Call.require (mac.length=p.macLen) .platform
  let out := C.cryptFront p .encrypt packet.length packet
  orPlatform out.1
  Call.modify fun p => advanceStreamPosition p packet.length
  Call.modify fun p => {p with sequence := p.sequence+1}
  pure (out.2++mac)

def restoreAndFail {α : Type} (C : CryptoApi) (encryptedLen : Nat) (e : Err) :
    Call (Protection×Bytes) Err α := do
  Call.modify fun s => (s.1,(C.cryptFront s.1 .encrypt encryptedLen s.2).2)
  Call.fail e

def checkDecrypted (C : CryptoApi) (p : Protection) (encryptedLen : Nat)
    (plain receivedMac : Bytes) : Call (Protection×Bytes) Err Bytes :=
  match C.mac p plain with
  | .error _ => restoreAndFail C encryptedLen .platform
  | .ok expectedMac =>
    if expectedMac.length≠p.macLen then restoreAndFail C encryptedLen .platform
    else if ¬macMatches expectedMac receivedMac p.macLen then
      restoreAndFail C encryptedLen .security
    else if beValue (plain.take 4)+4≠encryptedLen then
      restoreAndFail C encryptedLen .malformedPacket
    else match sshPacketDecodePlain plain with
      | .error e => restoreAndFail C encryptedLen e
      | .ok payload => pure payload

def sshPacketDecodeProtected (C : CryptoApi) : Call (Protection×Bytes) Err Bytes := do
  let (p,packet) ← Call.get
  Call.require (p.active=true) .invalidArgument
  Call.require (p.macLen<packet.length ∧ p.macLen≤emsshMaxMac) .malformedPacket
  let encryptedLen := packet.length-p.macLen
  Call.require (p.blockSize≤encryptedLen ∧ encryptedLen%p.blockSize=0) .malformedPacket
  Call.require (encryptedLen≤emsshMaxPacketSize+4) .malformedPacket
  let receivedMac := packet.drop encryptedLen
  let decrypted := C.cryptFront p .decrypt encryptedLen packet
  Call.modify fun s => (s.1,decrypted.2)
  orPlatform decrypted.1
  -- the IV that follows this packet is worked out apart and only committed at the end
  let ivLen := p.cipherIv.bytes.length
  let nextIv := if ivLen≠0 then p.advanceIv ((encryptedLen+ivLen-1)/ivLen) else p.cipherIv
  let payload ← checkDecrypted C p encryptedLen (decrypted.2.take encryptedLen) receivedMac
  Call.modify fun s => ({s.1 with cipherIv := nextIv,sequence := s.1.sequence+1},s.2)
  pure payload

private lemma fold_or_eq_zero (pairs : List (UInt8×UInt8)) (diff : UInt8) :
    pairs.foldl (fun diff ab => diff ||| (ab.1 ^^^ ab.2)) diff=0 ↔
      diff=0 ∧ ∀ ab∈pairs,ab.1=ab.2 := by
  induction pairs generalizing diff with
  | nil => simp
  | cons ab pairs ih =>
    rw [foldl_cons,ih]
    simp [and_assoc]

private lemma zip_all_eq (a b : Bytes) (h : a.length=b.length) :
    (∀ ab∈a.zip b,ab.1=ab.2) ↔ a=b := by
  induction a generalizing b with
  | nil =>
    cases b with
    | nil => simp
    | cons y b => simp at h
  | cons x a ih =>
    rcases b with _ | ⟨y,b⟩
    · simp at h
    have hl : a.length=b.length := by simpa using h
    rw [List.zip_cons_cons,forall_mem_cons,ih b hl,List.cons.injEq]

lemma macMatches_iff (a b : Bytes) (len : Nat) (ha : a.length=len) (hb : b.length=len) :
    macMatches a b len=true ↔ a=b := by
  have hta : a.take len=a := take_of_length_le ha.le
  have htb : b.take len=b := take_of_length_le hb.le
  rw [macMatches,hta,htb,decide_eq_true_eq,fold_or_eq_zero,zip_all_eq a b (ha.trans hb.symm)]
  simp

namespace Protection

def advance (p : Protection) (len : Nat) : Protection :=
  let q := advanceStreamPosition p len
  {q with sequence := q.sequence+1}

lemma advance_sequence (p : Protection) (len : Nat) : (p.advance len).sequence=p.sequence+1 := by
  unfold advance advanceStreamPosition
  split_ifs <;> rfl

lemma advance_fixed (p : Protection) (len : Nat) :
    (p.advance len).active=p.active ∧ (p.advance len).blockSize=p.blockSize ∧
    (p.advance len).macLen=p.macLen ∧ (p.advance len).cipherAlgorithm=p.cipherAlgorithm ∧
    (p.advance len).macAlgorithm=p.macAlgorithm ∧ (p.advance len).cipherKey=p.cipherKey ∧
    (p.advance len).macKey=p.macKey := by
  unfold advance advanceStreamPosition
  split_ifs <;> exact ⟨rfl,rfl,rfl,rfl,rfl,rfl,rfl⟩

lemma advance_eq_next (p : Protection) (len : Nat) (h : len≠0) :
    p.advance len={p with
      cipherIv := if p.cipherIv.bytes.length≠0
        then p.advanceIv ((len+p.cipherIv.bytes.length-1)/p.cipherIv.bytes.length) else p.cipherIv
      sequence := p.sequence+1} := by
  unfold advance advanceStreamPosition
  by_cases hi : p.cipherIv.bytes.length=0
  · simp [hi]
  · simp [hi,h]
end Protection

namespace CryptoApi

/-- The plain bytes of packet under p carry the tag at its end. This is the only
test of authenticity that the decoder makes. -/
def AcceptsTag (C : CryptoApi) (p : Protection) (packet plain : Bytes) : Prop :=
  plain=(C.cipherCrypt p.cipherAlgorithm p.cipherKey.bytes p.cipherIv.bytes p.sequence .decrypt
    (packet.take (packet.length-p.macLen))).2 ∧
  C.mac p plain=.ok (packet.drop (packet.length-p.macLen))

def Seals (C : CryptoApi) (p : Protection) (plain wire : Bytes) : Prop :=
  ∃ tag,C.mac p plain=.ok tag ∧ tag.length=p.macLen ∧
    wire=(C.cipherCrypt p.cipherAlgorithm p.cipherKey.bytes p.cipherIv.bytes p.sequence
      .encrypt plain).2++tag

lemma cryptFront_take (C : CryptoApi) (p : Protection) (dir : CipherDirection)
    (len : Nat) (buffer : Bytes) (h : len≤buffer.length) :
    (C.cryptFront p dir len buffer).2.take len=
      (C.cipherCrypt p.cipherAlgorithm p.cipherKey.bytes p.cipherIv.bytes p.sequence dir
        (buffer.take len)).2 := by
  rw [cryptFront,take_left']
  rw [C.crypt_length,length_take,Nat.min_eq_left h]
end CryptoApi

variable {α : Type}

lemma ok_of_orPlatform {r : Except Err α} {a : α} (h : (r.mapError fun _ => Err.platform)=.ok a) :
    r=.ok a := by
  cases r with
  | ok b => exact h
  | error e => cases h

lemma err_of_orPlatform {r : Except Err α} {e : Err}
    (h : (r.mapError fun _ => Err.platform)=.error e) : e=.platform := by
  cases r with
  | ok b => cases h
  | error e => exact (Except.error.inj h).symm

section
variable (C : CryptoApi) (outCapacity : Nat) (payload : Bytes) (rng : Option RngFill)
  (p : Protection)

lemma encodeProtected_spec :
    (sshPacketEncodeProtected C outCapacity payload rng).Ensures p
      (Outcome
        (fun wire q => p.active=true ∧ ∃ plain,
          sshPacketEncodePlain outCapacity payload p.blockSize rng=.ok plain ∧
          C.Seals p plain wire ∧ q=p.advance plain.length)
        (fun e q => q=p ∧ e≠.notFound)) := by
  have hp {e : Err} (he : e=.platform) : p=p ∧ e≠.notFound := ⟨rfl,by rw [he]; decide⟩
  refine .bindGet (.bindRequire (fun ha => ?_) (fun _ => ⟨rfl,by decide⟩))
  refine .bindLift (fun plain hpl => ?_) (fun _ he => ⟨rfl,encodePlain_error he⟩)
  refine .bindRequire (fun _ => ?_) (fun _ => ⟨rfl,by decide⟩)
  refine .bindLift (fun tag ht => ?_) (fun _ he => hp (err_of_orPlatform he))
  refine .bindRequire (fun hl => ?_) (fun _ => ⟨rfl,by decide⟩)
  refine .bindLift (fun _ _ => ?_) (fun _ he => hp (err_of_orPlatform he))
  refine ⟨ha,plain,hpl,⟨tag,ok_of_orPlatform ht,hl,?_⟩,rfl⟩
  rw [CryptoApi.cryptFront,take_length,drop_length,append_nil]

variable {C outCapacity payload rng p}

lemma encodeProtected_run {plain tag : Bytes} (ha : p.active=true)
    (hp : sshPacketEncodePlain outCapacity payload p.blockSize rng=.ok plain)
    (hcp : plain.length+p.macLen≤outCapacity) (ht : C.mac p plain=.ok tag)
    (hl : tag.length=p.macLen) (hc : (C.cryptFront p .encrypt plain.length plain).1=.ok ()) :
    (sshPacketEncodeProtected C outCapacity payload rng).run p=
      (.ok ((C.cryptFront p .encrypt plain.length plain).2++tag),p.advance plain.length) := by
  rw [sshPacketEncodeProtected,run_bind_ok (run_get p),run_bind_ok (run_require_of _ p ha),hp,
    run_bind_ok (run_lift _ p),run_bind_ok (run_require_of _ p hcp),ht]
  change (Call.require _ _ >>= _).run p=_
  rw [run_bind_ok (run_require_of _ p hl)]
  change (Call.lift ((C.cryptFront p .encrypt plain.length plain).1.mapError _) >>= _).run p=_
  rw [hc]
  rfl
end

variable (C : CryptoApi) (p : Protection)

private lemma checkDecrypted_spec (n : Nat) (plain received buffer : Bytes)
    (hr : received.length=p.macLen) :
    (checkDecrypted C p n plain received).Ensures (p,buffer)
      (Outcome
        (fun payload t => C.mac p plain=.ok received ∧ sshPacketDecodePlain plain=.ok payload ∧
          t=(p,buffer))
        (fun e t => t.1=p ∧ e≠.notFound ∧ e≠.bufferTooSmall)) := by
  have hf (e : Err) (he : e≠.notFound ∧ e≠.bufferTooSmall) (P : Bytes → Protection×Bytes → Prop) :
      (restoreAndFail C n e : Call (Protection×Bytes) Err Bytes).Ensures (p,buffer)
        (Outcome P (fun e t => t.1=p ∧ e≠.notFound ∧ e≠.bufferTooSmall)) := ⟨rfl,he⟩
  unfold checkDecrypted
  rcases hm : C.mac p plain with _ | expected
  · exact hf _ (by decide) _
  refine .ite (fun _ => hf _ (by decide) _) (fun hl => ?_)
  refine .ite (fun _ => hf _ (by decide) _) (fun hx => ?_)
  refine .ite (fun _ => hf _ (by decide) _) (fun _ => ?_)
  rcases hd : sshPacketDecodePlain plain with e | payload
  · exact hf e (by rw [decodePlain_error hd]; decide) _
  have he : expected=received :=
    (macMatches_iff expected received p.macLen (not_not.mp hl) hr).mp (not_not.mp hx)
  exact ⟨by rw [he],rfl,rfl⟩

/-- An accepted packet carries an accepted tag, its plain bytes decode, and the
state moves on by one packet. A rejected packet leaves the state alone. -/
theorem decodeProtected_spec (packet : Bytes) :
    (sshPacketDecodeProtected C).Ensures (p,packet)
      (Outcome
        (fun payload t => ∃ plain,C.AcceptsTag p packet plain ∧
          sshPacketDecodePlain plain=.ok payload ∧ t.1=p.advance plain.length)
        (fun e t => t.1=p ∧ e≠.notFound ∧ e≠.bufferTooSmall)) := by
  refine .bindGet (.bindRequire (fun _ => ?_) (fun _ => ⟨rfl,by decide⟩))
  refine .bindRequire (fun hmac => ?_) (fun _ => ⟨rfl,by decide⟩)
  refine .bindRequire (fun hb => ?_) (fun _ => ⟨rfl,by decide⟩)
  refine .bindRequire (fun _ => ?_) (fun _ => ⟨rfl,by decide⟩)
  refine .bindModify (.bindLift (fun _ _ => ?_) (fun e he => ?_))
  · have hr : (packet.drop (packet.length-p.macLen)).length=p.macLen := by
      rw [length_drop]
      omega
    refine .bind (checkDecrypted_spec C p _ _ _ _ hr) ?_ (fun _ _ h => h)
    rintro payload t ⟨hm,hd,rfl⟩
    rw [C.cryptFront_take p .decrypt _ packet (by omega)] at hm hd
    refine ⟨_,⟨rfl,hm⟩,hd,?_⟩
    have hne : packet.length-p.macLen≠0 := by omega
    rw [C.crypt_length,length_take,Nat.min_eq_left (by omega),p.advance_eq_next _ hne]
    rfl
  refine ⟨rfl,?_⟩
  rw [err_of_orPlatform he]
  decide

variable {C p}

lemma decodeProtected_run {packet plain payload : Bytes} (ha : p.active=true)
    (hln : packet.length=plain.length+p.macLen)
    (hb : p.blockSize≤plain.length ∧ plain.length%p.blockSize=0)
    (hm : plain.length≤emsshMaxPacketSize+4)
    (hc : (C.cryptFront p .decrypt plain.length packet).1=.ok ())
    (htg : C.AcceptsTag p packet plain) (hp : sshPacketDecodePlain plain=.ok payload) :
    ∃ buffer,(sshPacketDecodeProtected C).run (p,packet)=
      (.ok payload,(p.advance plain.length,buffer)) := by
  have hn : packet.length-p.macLen=plain.length := by omega
  have hps := p.block_min
  obtain ⟨hdc,hmac⟩ := htg
  rw [hn] at hdc hmac
  set decrypted := (C.cryptFront p .decrypt plain.length packet).2 with hd
  have ht : decrypted.take plain.length=plain := by
    rw [hd,C.cryptFront_take p .decrypt _ packet (by omega),← hdc]
  have hw : beValue (plain.take 4)+4=plain.length := by
    obtain ⟨_,pad,hf,hmn,hpd⟩ := decodePlain_ok hp
    have hfl := plainFrame_length payload pad
    rw [← hf] at hfl
    have h4 : plain.take 4=beBytes 4 (1+payload.length+pad.length) := by
      rw [hf,plainFrame,take_left' (beBytes_length 4 _)]
    rw [h4,beValue_beBytes_of_lt 4 _ (by unfold emsshMaxPacketSize at hm; omega)]
    omega
  have hmt : macMatches (packet.drop plain.length) (packet.drop plain.length) p.macLen=true := by
    have hl : (packet.drop plain.length).length=p.macLen := by
      rw [length_drop]
      omega
    exact (macMatches_iff _ _ _ hl hl).mpr rfl
  have hch : (checkDecrypted C p plain.length plain (packet.drop plain.length)).run
      (p,decrypted)=(.ok payload,(p,decrypted)) := by
    rw [checkDecrypted,hmac]
    simp only
    rw [if_neg (by rw [length_drop]; omega),if_neg (by rw [hmt]; decide),if_neg (by omega),hp]
    rfl
  refine ⟨decrypted,?_⟩
  have hmn : p.macLen<packet.length ∧ p.macLen≤emsshMaxMac := ⟨by omega,p.mac_max⟩
  rw [sshPacketDecodeProtected,run_bind_ok (run_get _)]
  simp only
  rw [run_bind_ok (run_require_of _ _ ha),run_bind_ok (run_require_of _ _ hmn),hn,
    run_bind_ok (run_require_of _ _ hb),
    run_bind_ok (run_require_of _ _ hm),run_bind_ok (run_modify _ _),
    orPlatform,hc]
  change (checkDecrypted C p plain.length (decrypted.take plain.length)
    (packet.drop plain.length) >>= _).run (p,decrypted)=_
  rw [ht,run_bind_ok hch,p.advance_eq_next _ (by omega)]
  rfl

end EMSSHD
