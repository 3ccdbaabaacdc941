import EMSSHD.Core.Transport.HashInput
import EMSSHD.Math.Feedback

namespace EMSSHD

abbrev Round := {digest : Bytes // digest.length=32}

/-- psa_hash_compute with PSA_ALG_SHA_256: the digest it stores when it succeeds. -/
abbrev PsaHash := Bytes → Option Bytes

def emsshMaxKexSharedSecret : Nat := 512
def kdfInputMax : Nat := emsshMaxKexSharedSecret+emsshMaxExchangeHash*2+1+256

def kdfInputEncode (sharedSecret exchangeHash sessionId : Bytes) (keyId : UInt8)
    (previous : Option Bytes) : Encoder := do
  sshBufferPutMpintPositive sharedSecret
  sshBufferPutBytes exchangeHash
  match previous with
  | none => do
    sshBufferPutU8 keyId
    sshBufferPutBytes sessionId
  | some previous => sshBufferPutBytes previous

def sshKdfHashRound (psa : PsaHash) (sharedSecret exchangeHash sessionId : Bytes) (keyId : UInt8)
    (previous : Option Bytes) : Except Err Round := do
  let input ← encodedBy (kdfInputEncode sharedSecret exchangeHash sessionId keyId previous)
    kdfInputMax
  match psa input with
  | none => .error .platform
  | some digest => if h : digest.length=32 then .ok ⟨digest,h⟩ else .error .platform

/-- The loop of mbedtls_derive_key. What has been written is the input of the next round. -/
def deriveLoop (nextRound : Bytes → Except Err Round) (outCapacity : Nat) (written : Bytes)
    (round : Round) : Except Err Bytes :=
  if written.length<outCapacity then
    let out := written++round.1.take (outCapacity-written.length)
    if out.length<outCapacity then do
      let next ← nextRound out
      deriveLoop nextRound outCapacity out next
    else .ok out
  else .ok written
termination_by outCapacity-written.length
decreasing_by
  rw [List.length_append,List.length_take,round.2]
  omega

def mbedtlsDeriveKey (psa : PsaHash) (hashAlgorithm sharedSecret exchangeHash sessionId : StringView)
    (keyId : UInt8) (outCapacity : Nat) : Except Err Bytes :=
  match sharedSecret,exchangeHash,sessionId with
  | some sharedSecret,some exchangeHash,some sessionId => do
    checkThat (viewEqualsCstr hashAlgorithm (cstr "curve25519-sha256")=true ∧ outCapacity≠0)
      .invalidArgument
    let nextRound := sshKdfHashRound psa sharedSecret exchangeHash sessionId keyId
    let round ← nextRound none
    deriveLoop (fun out => nextRound (some out)) outCapacity [] round
  | _,_,_ => .error .invalidArgument

section
variable {nextRound : Bytes → Except Err Round} {f : Bytes → Bytes}
variable {outCapacity : Nat} {round : Round} {out : Bytes}

/-- The loop has written some rounds and has the next one at hand: it ends with the beginning of
the stream of all rounds. -/
theorem deriveLoop_ok (hf : ∀ l,(f l).length=32)
    (hnt : ∀ out round,out≠[] → nextRound out=.ok round → round.1=f out) {m : Nat}
    (hm : m*32<outCapacity) (hr : round.1=Feedback.block f m)
    (h : deriveLoop nextRound outCapacity (Feedback.stream f m) round=.ok out) {n : Nat}
    (hn : outCapacity≤n*32) : out=(Feedback.stream f n).take outCapacity := by
  induction hl : outCapacity-m*32 using Nat.strong_induction_on generalizing m round with
  | _ left ih =>
    have hwr := Feedback.stream_length hf m
    have hk : (Feedback.stream f m).take outCapacity=Feedback.stream f m :=
      take_of_length_le (by omega)
    have hs : Feedback.stream f m++round.1.take (outCapacity-(Feedback.stream f m).length)=
        (Feedback.stream f (m+1)).take outCapacity := by
      rw [Feedback.stream,List.take_append,hk,hr]
      rfl
    rw [deriveLoop,if_pos (by omega)] at h
    dsimp only at h
    rw [hs,length_take,Feedback.stream_length hf] at h
    split_ifs at h with hmr
    · have hw : (Feedback.stream f (m+1)).take outCapacity=Feedback.stream f (m+1) :=
        take_of_length_le (by rw [Feedback.stream_length hf]; omega)
      rw [hw] at h
      obtain ⟨next,hnx,hrs⟩ := except_bind_ok h
      have hne : Feedback.stream f (m+1)≠[] := by
        refine List.ne_nil_of_length_pos ?_
        rw [Feedback.stream_length hf]
        omega
      exact ih (outCapacity-(m+1)*32) (by omega) (by omega) (hnt _ _ hne hnx) hrs rfl
    rw [← Except.ok.inj h]
    exact Feedback.stream_take hf (by omega) hn

lemma deriveLoop_shorter {shorter : Nat} (hle : shorter≤outCapacity) {written : Bytes}
    (h : deriveLoop nextRound outCapacity written round=.ok out) :
    ∃ out',deriveLoop nextRound shorter written round=.ok out' := by
  induction hl : shorter-written.length using Nat.strong_induction_on
    generalizing written round with
  | _ left ih =>
    rw [deriveLoop]
    by_cases hm : written.length<shorter
    · rw [if_pos hm]
      rw [deriveLoop,if_pos (by omega)] at h
      dsimp only at h ⊢
      have hr := round.2
      by_cases hls : shorter-written.length≤32
      · refine ⟨_,if_neg ?_⟩
        rw [length_append,length_take]
        omega
      rw [take_of_length_le (by omega)] at h ⊢
      have hln : (written++round.1).length=written.length+32 := by rw [length_append,hr]
      rw [if_pos (by omega)] at h ⊢
      obtain ⟨next,hn,hrs⟩ := except_bind_ok h
      rw [hn]
      exact ih (shorter-(written++round.1).length) (by omega) hrs rfl
    · exact ⟨written,if_neg hm⟩
end

structure HashFunction (size : Nat) where
  digest : Bytes → Bytes
  length_digest : ∀ input,(digest input).length=size

variable (hash : HashFunction 32) (sharedSecret exchangeHash sessionId : Bytes) (keyId : UInt8)

def derivedFrom (derived : Bytes) : Bytes :=
  hash.digest (stringField (mpintOf sharedSecret)++exchangeHash++
    (if derived=[] then keyId::sessionId else derived))

def derivedBlock (n : Nat) : Bytes :=
  Feedback.block (derivedFrom hash sharedSecret exchangeHash sessionId keyId) n

variable {hash sharedSecret exchangeHash sessionId keyId} {psa : PsaHash}

lemma derivedFrom_of_ne {derived : Bytes} (hne : derived≠[]) :
    derivedFrom hash sharedSecret exchangeHash sessionId keyId derived=
      hash.digest (stringField (mpintOf sharedSecret)++exchangeHash++derived) := by
  rw [derivedFrom,if_neg hne]

variable {capacity : Nat} {input : Bytes}

lemma kdfInput_first
    (h : encodedBy (kdfInputEncode sharedSecret exchangeHash sessionId keyId none) capacity=
      .ok input) : input=stringField (mpintOf sharedSecret)++exchangeHash++(keyId::sessionId) := by
  have ha := (appendsWhen_putMpint sharedSecret).bind ((appends_putRaw exchangeHash).bind
    ((appends_putRaw [keyId]).bind (appends_putRaw sessionId))).when
  rw [(ha.encodedBy h).2,append_assoc]
  rfl

lemma kdfInput_next {previous : Bytes}
    (h : encodedBy (kdfInputEncode sharedSecret exchangeHash sessionId keyId (some previous))
      capacity=.ok input) : input=stringField (mpintOf sharedSecret)++exchangeHash++previous := by
  have ha := (appendsWhen_putMpint sharedSecret).bind
    ((appends_putRaw exchangeHash).bind (appends_putRaw previous)).when
  rw [(ha.encodedBy h).2,append_assoc]

lemma kdfHashRound_ok (hp : ∀ input digest,psa input=some digest → digest=hash.digest input)
    {previous : Option Bytes} {round : Round}
    (h : sshKdfHashRound psa sharedSecret exchangeHash sessionId keyId previous=.ok round) :
    ∃ input,encodedBy (kdfInputEncode sharedSecret exchangeHash sessionId keyId previous)
      kdfInputMax=.ok input ∧ round.1=hash.digest input := by
  obtain ⟨input,hi,h⟩ := except_bind_ok h
  refine ⟨input,hi,?_⟩
  rcases hd : psa input with _ | digest
  · rw [hd] at h
    cases h
  rw [hd] at h
  dsimp only at h
  split_ifs at h with hl
  rw [← Except.ok.inj h]
  exact hp input digest hd

lemma deriveKey_ok (hp : ∀ input digest,psa input=some digest → digest=hash.digest input)
    {alg : StringView} {outCapacity : Nat} {out : Bytes}
    (h : mbedtlsDeriveKey psa alg (some sharedSecret) (some exchangeHash) (some sessionId)
      keyId outCapacity=.ok out) {n : Nat} (hn : outCapacity≤n*32) :
    out=((List.range n).flatMap
      (derivedBlock hash sharedSecret exchangeHash sessionId keyId)).take outCapacity := by
  obtain ⟨⟨-,hps⟩,h⟩ := checkThat_bind_eq_ok.mp h
  obtain ⟨round,hf,hl⟩ := except_bind_ok h
  have hr : round.1=Feedback.block
      (derivedFrom hash sharedSecret exchangeHash sessionId keyId) 0 := by
    obtain ⟨input,hi,hd⟩ := kdfHashRound_ok hp hf
    rw [hd,kdfInput_first hi]
    rfl
  have hnx : ∀ previous next,previous≠[] →
      sshKdfHashRound psa sharedSecret exchangeHash sessionId keyId (some previous)=.ok next →
      next.1=derivedFrom hash sharedSecret exchangeHash sessionId keyId previous := by
    intro previous next hne hnx
    obtain ⟨input,hi,hd⟩ := kdfHashRound_ok hp hnx
    rw [hd,kdfInput_next hi,derivedFrom_of_ne hne]
  have hs := deriveLoop_ok (fun _ => hash.length_digest _) hnx (by omega) hr hl hn
  rwa [Feedback.stream_eq] at hs

/-- The keys are derived as RFC 4253 section 7.2 says, and a shorter request gives the beginning of
a longer one. -/
theorem mbedtlsDeriveKey_stream (hash : HashFunction 32) (psa : PsaHash)
    (hpsa : ∀ input digest,psa input=some digest → digest=hash.digest input)
    (hashAlgorithm : StringView) (sharedSecret exchangeHash sessionId : Bytes) (keyId : UInt8)
    (outCapacity : Nat) (out : Bytes)
    (h : mbedtlsDeriveKey psa hashAlgorithm (some sharedSecret) (some exchangeHash) (some sessionId)
      keyId outCapacity=.ok out) :
    ∃ K : Nat → Bytes,
      K 1=hash.digest (stringField (mpintOf sharedSecret)++exchangeHash++(keyId::sessionId)) ∧
      (∀ n,1≤n → K (n+1)=hash.digest (stringField (mpintOf sharedSecret)++exchangeHash++
        (List.range n).flatMap fun i => K (i+1))) ∧
      (∀ n,outCapacity≤n*32 → out=((List.range n).flatMap fun i => K (i+1)).take outCapacity) ∧
      out.length=outCapacity ∧
      ∀ shorter,0<shorter → shorter≤outCapacity →
        mbedtlsDeriveKey psa hashAlgorithm (some sharedSecret) (some exchangeHash) (some sessionId)
          keyId shorter=.ok (out.take shorter) := by
  have hb : ∀ n,(List.range n).flatMap
      (derivedBlock hash sharedSecret exchangeHash sessionId keyId)=
        Feedback.stream (derivedFrom hash sharedSecret exchangeHash sessionId keyId) n := fun n =>
    (Feedback.stream_eq _ n).symm
  have hl : ∀ n,(Feedback.stream
      (derivedFrom hash sharedSecret exchangeHash sessionId keyId) n).length=n*32 :=
    Feedback.stream_length fun _ => hash.length_digest _
  refine ⟨fun n => derivedBlock hash sharedSecret exchangeHash sessionId keyId (n-1),rfl,
    fun n hn => ?_,fun n hn => deriveKey_ok hpsa h hn,?_,fun shorter hp hle => ?_⟩
  · have hne : Feedback.stream (derivedFrom hash sharedSecret exchangeHash sessionId keyId) n≠[] := by
      refine List.ne_nil_of_length_pos ?_
      rw [hl]
      omega
    change Feedback.block _ n=_
    rw [Feedback.block,derivedFrom_of_ne hne,← hb]
    rfl
  · rw [deriveKey_ok hpsa h (n := outCapacity) (by omega),hb,length_take,hl]
    omega
  have hs : ∃ out',mbedtlsDeriveKey psa hashAlgorithm (some sharedSecret) (some exchangeHash)
      (some sessionId) keyId shorter=.ok out' := by
    obtain ⟨⟨ha,-⟩,hr⟩ := checkThat_bind_eq_ok.mp h
    obtain ⟨round,hf,hlp⟩ := except_bind_ok hr
    obtain ⟨out',ho⟩ := deriveLoop_shorter hle hlp
    refine ⟨out',checkThat_bind_eq_ok.mpr ⟨⟨ha,by omega⟩,?_⟩⟩
    dsimp only
    rw [hf]
    exact ho
  obtain ⟨out',ho⟩ := hs
  rw [ho,deriveKey_ok hpsa ho (n := outCapacity) (by omega),
    deriveKey_ok hpsa h (n := outCapacity) (by omega),take_take,Nat.min_eq_left hle]

/-- Forty bytes take two rounds. -/
theorem mbedtlsDeriveKey_two_rounds :
    ∃ (psa : PsaHash) (out : Bytes) (K : Nat → Bytes),
      mbedtlsDeriveKey psa (some (cstr "curve25519-sha256")) (some [5]) (some [6]) (some [7]) 65 40=
        .ok out ∧ out=((List.range 2).flatMap fun i => K (i+1)).take 40 := by
  let hash : HashFunction 32 :=
    ⟨fun input => List.replicate 32 (UInt8.ofNat input.length),fun _ => length_replicate⟩
  have hok : mbedtlsDeriveKey (fun input => some (hash.digest input))
      (some (cstr "curve25519-sha256")) (some [5]) (some [6]) (some [7]) 65 40=
        .ok (List.replicate 32 8++List.replicate 8 38) := by
    decide +kernel
  obtain ⟨K,-,-,hs,-,-⟩ := mbedtlsDeriveKey_stream hash _
    (fun _ _ h => (Option.some.inj h).symm) _ _ _ _ _ _ _ hok
  exact ⟨_,_,K,hok,hs 2 (by decide)⟩

end EMSSHD
