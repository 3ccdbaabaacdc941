import EMSSHD.Core.Packet.Stream
import EMSSHD.Core.Transport.Net

namespace EMSSHD

open Call

def uint64Max : Nat := 2^64-1

/-- What protected traffic reads and writes of ssh_transport_session_t. -/
structure TransportSession where
  inbound : Protection
  outbound : Protection
  inboundSequence : UInt32
  outboundSequence : UInt32
  rekeyAfterPackets : Nat
  rekeyAfterBytes : Nat
  inboundRekeyPackets : Nat
  outboundRekeyPackets : Nat
  inboundRekeyBytes : Nat
  outboundRekeyBytes : Nat
  rekeyNeeded : Bool
  deriving DecidableEq

def addU64Saturating (lhs rhs : Nat) : Nat := if uint64Max-lhs < rhs then uint64Max else lhs+rhs

def updateRekeyNeeded (s : TransportSession) : TransportSession :=
  {s with rekeyNeeded :=
    (s.rekeyAfterPackets≠0 ∧ (s.rekeyAfterPackets ≤ s.inboundRekeyPackets ∨
      s.rekeyAfterPackets ≤ s.outboundRekeyPackets)) ∨
    (s.rekeyAfterBytes≠0 ∧ (s.rekeyAfterBytes ≤ s.inboundRekeyBytes ∨
      s.rekeyAfterBytes ≤ s.outboundRekeyBytes))}

def recordRekeyPacket (outbound : Bool) (wireLen : Nat) (s : TransportSession) :
    TransportSession :=
  updateRekeyNeeded (if outbound then
    {s with
      outboundRekeyPackets := addU64Saturating s.outboundRekeyPackets 1
      outboundRekeyBytes := addU64Saturating s.outboundRekeyBytes wireLen}
  else
    {s with
      inboundRekeyPackets := addU64Saturating s.inboundRekeyPackets 1
      inboundRekeyBytes := addU64Saturating s.inboundRekeyBytes wireLen})

lemma recordRekeyPacket_keeps (outbound : Bool) (wireLen : Nat) (s : TransportSession) :
    (recordRekeyPacket outbound wireLen s).inbound=s.inbound ∧
    (recordRekeyPacket outbound wireLen s).outbound=s.outbound ∧
    (recordRekeyPacket outbound wireLen s).inboundSequence=s.inboundSequence ∧
    (recordRekeyPacket outbound wireLen s).outboundSequence=s.outboundSequence := by
  cases outbound <;> exact ⟨rfl,rfl,rfl,rfl⟩

abbrev Endpoint := TransportSession×PlatformState

def nextFill : Call Endpoint Err (Option RngFill) :=
  ⟨fun s => match s.2.fills with
    | none => (.ok none,s)
    | some [] => (.ok (some fun _ => .error .platform),s)
    | some (fill::fills) => (.ok (some fill),(s.1,{s.2 with fills := some fills}))⟩

lemma nextFill_run (s : Endpoint) :
    ∃ rng w,nextFill.run s=(.ok rng,(s.1,w)) ∧ w.outgoing=s.2.outgoing := by
  unfold nextFill
  rcases hf : s.2.fills with _ | _ | ⟨fill,fills⟩
  · exact ⟨none,s.2,by simp [hf],rfl⟩
  · exact ⟨_,s.2,by simp [hf]; rfl,rfl⟩
  · exact ⟨some fill,{s.2 with fills := some fills},by simp [hf],rfl⟩

def encodeOutbound (C : CryptoApi) (outCapacity : Nat) (payload : Bytes)
    (rng : Option RngFill) : Call Endpoint Err Bytes :=
  ⟨fun s =>
    let r := (sshPacketEncodeProtected C outCapacity payload rng).run s.1.outbound
    (r.1,({s.1 with outbound := r.2},s.2))⟩

def decodeInbound (C : CryptoApi) (packet : Bytes) : Call Endpoint Err Bytes :=
  ⟨fun s =>
    let r := (sshPacketDecodeProtected C).run (s.1.inbound,packet)
    (r.1,({s.1 with inbound := r.2.1},s.2))⟩

def sshTransportSendProtectedPayload (C : CryptoApi) (payload : Bytes) :
    Call Endpoint Err Unit := do
  let s ← Call.get
  Call.require (s.1.outbound.active=true) .invalidArgument
  let rng ← nextFill
  let packet ← encodeOutbound C (emsshMaxPacketSize+4+emsshMaxMac) payload rng
  Call.onSnd (netWriteAll packet)
  Call.modify fun s => ({s.1 with outboundSequence := s.1.outbound.sequence},s.2)
  Call.modify fun s => (recordRekeyPacket true packet.length s.1,s.2)

def acceptableLength (blockSize packetLength : Nat) : Prop :=
  (packetLength≠0 ∧ packetLength≤emsshMaxPacketSize) ∧
  blockSize≤packetLength+4 ∧ packetLength+4≤emsshMaxPacketSize+4 ∧ (packetLength+4)%blockSize=0

instance (blockSize packetLength : Nat) : Decidable (acceptableLength blockSize packetLength) :=
  inferInstanceAs (Decidable (_ ∧ _ ∧ _ ∧ _))

def sshTransportReceiveProtectedPayload (C : CryptoApi) (payloadCapacity : Nat) :
    Call Endpoint Err Bytes := do
  let s ← Call.get
  Call.require (s.1.inbound.active=true) .invalidArgument
  let blockSize := s.1.inbound.blockSize
  Call.require (sshPacketMinBlockSize≤blockSize ∧ blockSize≤emsshMaxCipherIv) .invalidArgument
  let head ← Call.onSnd (netReadExact blockSize)
  let firstBlock := C.cryptFront s.1.inbound .decrypt blockSize head
  orPlatform firstBlock.1
  let packetLength := beValue (firstBlock.2.take 4)
  Call.require (acceptableLength blockSize packetLength) .malformedPacket
  let encryptedLen := packetLength+4
  let tail ← Call.onSnd (netReadExact (encryptedLen-blockSize+s.1.inbound.macLen))
  let payload ← decodeInbound C (head++tail)
  Call.require (payload.length≤payloadCapacity) .bufferTooSmall
  Call.modify fun s => ({s.1 with inboundSequence := s.1.inbound.sequence},s.2)
  Call.modify fun s => (recordRekeyPacket false (encryptedLen+s.1.inbound.macLen) s.1,s.2)
  pure payload

section
variable (C : CryptoApi) (s : Endpoint)

def nextPacketLength : Nat :=
  beValue ((C.cryptFront s.1.inbound .decrypt s.1.inbound.blockSize
    (s.2.incoming.take s.1.inbound.blockSize)).2.take 4)

/-- A timeout falls exactly between the first block of a packet and the rest of
it: the reads before it complete the first block, that block decrypts to an
acceptable length, and there is more to read. -/
structure TimeoutAfterFirstBlock : Prop where
  blockSize : sshPacketMinBlockSize ≤ s.1.inbound.blockSize ∧ s.1.inbound.blockSize≤emsshMaxCipherIv
  arrived : s.1.inbound.blockSize ≤ s.2.incoming.length
  decrypts : (C.cryptFront s.1.inbound .decrypt s.1.inbound.blockSize
    (s.2.incoming.take s.1.inbound.blockSize)).1=.ok ()
  acceptable : acceptableLength s.1.inbound.blockSize (nextPacketLength C s)
  more : 0<nextPacketLength C s+4-s.1.inbound.blockSize+s.1.inbound.macLen
  schedule : ∃ used later,s.2.reads=used++emsshNetIoTimeout::later ∧
    used.head?≠some emsshNetIoTimeout ∧ CompletesRead s.1.inbound.blockSize used

/-- A call that reports nothing has arrived yet leaves everything in place: the
session and the stream are as before, and the next call does what this one would
have done without the timeout. -/
def RetryLosesNothing (payloadCapacity : Nat) : Prop :=
  ∀ t,(sshTransportReceiveProtectedPayload C payloadCapacity).run s=(.error .notFound,t) →
    t.1=s.1 ∧ t.2.incoming=s.2.incoming ∧ ∃ later,s.2.reads=emsshNetIoTimeout::later ∧
      ∀ capacity,(sshTransportReceiveProtectedPayload C capacity).run t=
        (sshTransportReceiveProtectedPayload C capacity).run (s.1,{s.2 with reads := later})

lemma decodeInbound_spec (packet : Bytes) (t : Endpoint) :
    (decodeInbound C packet).Ensures t
      (Outcome
        (fun _ u => ∃ len,u=({t.1 with inbound := t.1.inbound.advance len},t.2))
        (fun e u => u=t ∧ e≠.notFound ∧ e≠.bufferTooSmall)) := by
  have h := decodeProtected_spec C t.1.inbound packet
  rcases hrn : (sshPacketDecodeProtected C).run (t.1.inbound,packet) with ⟨r,u⟩
  have hr := h.of_eq hrn
  refine .of_run (r := r) (t := ({t.1 with inbound := u.1},t.2)) ?_ ?_
  · simp only [decodeInbound,hrn]
  cases r with
  | ok payload =>
    obtain ⟨plain,_,_,hu⟩ := hr
    exact ⟨plain.length,by rw [hu]⟩
  | error e =>
    refine ⟨?_,hr.2⟩
    rw [hr.1]

private lemma receive_notFound (cap : Nat) :
    (sshTransportReceiveProtectedPayload C cap).Ensures s (fun r t =>
      r=.error .notFound → (∃ later,s.2.reads=emsshNetIoTimeout::later ∧
        t=(s.1,{s.2 with reads := later})) ∨ TimeoutAfterFirstBlock C s) := by
  refine .bindGet (.bindRequire (fun _ => ?_) (fun _ => nofun))
  refine .bindRequire (fun hb => ?_) (fun _ => nofun)
  have hp : 0<s.1.inbound.blockSize := by have := s.1.inbound.block_min; omega
  refine .bind (P := Outcome
      (fun head t => t.1=s.1 ∧ s.1.inbound.blockSize ≤ s.2.incoming.length ∧
        head=s.2.incoming.take s.1.inbound.blockSize ∧ ∃ used,s.2.reads=used++t.2.reads ∧
          used.head?≠some emsshNetIoTimeout ∧ CompletesRead s.1.inbound.blockSize used)
      (fun e t => e=.notFound → ∃ later,s.2.reads=emsshNetIoTimeout::later ∧
        t=(s.1,{s.2 with reads := later}))) ?_ ?_ ?_
  · refine .onSnd ((netReadExact_spec _ hp s.2).mono ?_)
    rintro (e | head) w h
    · rintro rfl
      rcases h with h | h | ⟨_,later,hl,rfl⟩
      · cases h
      · cases h
      · exact ⟨later,hl,rfl⟩
    obtain ⟨hl,rfl,used,later,hu,hs,hc,rfl⟩ := h
    exact ⟨rfl,hl,rfl,used,hu,hs,hc⟩
  · rintro head ⟨s1,w⟩ ⟨hs1,ha,rfl,used,hu,hs,hc⟩
    obtain rfl : s1=s.1 := hs1
    refine .bindLift (fun _ hd => ?_) (fun e he h => ?_)
    · refine .bindRequire (fun hac => ?_) (fun _ => nofun)
      refine .bind (P := fun r _ => r=.error .notFound → TimeoutAfterFirstBlock C s) ?_ ?_ ?_
      · refine .onSnd ?_
        change (netReadExact (nextPacketLength C s+4-_+_)).Ensures w _
        by_cases hm : 0<nextPacketLength C s+4-s.1.inbound.blockSize+s.1.inbound.macLen
        · refine (netReadExact_spec _ hm w).mono ?_
          rintro (e | tail) t h he
          · cases he
            rcases h with h | h | ⟨_,later,hl,_⟩
            · cases h
            · cases h
            rw [show (s.1,w).2.reads=w.reads from rfl,hl] at hu
            exact ⟨hb,ha,ok_of_orPlatform hd,hac,hm,used,later,hu,hs,hc⟩
          · cases he
        obtain h0 : nextPacketLength C s+4-s.1.inbound.blockSize+s.1.inbound.macLen=0 := by omega
        rw [h0]
        refine .of_run (netReadExact_zero w) nofun
      · intro tail t _
        refine .bind (decodeInbound_spec C (_++tail) t) ?_ ?_
        · intro payload u _
          exact .bindRequire (fun _ => nofun) (fun _ => nofun)
        intro e u he h
        exact absurd (Except.error.inj h) he.2.1
      intro e t h he
      exact .inr (h he)
    rw [err_of_orPlatform he] at h
    cases h
  intro e t h he
  exact .inl (h (Except.error.inj he))

private lemma receive_timeout (cap : Nat) (hac : s.1.inbound.active=true)
    (h : TimeoutAfterFirstBlock C s) :
    ∃ t,(sshTransportReceiveProtectedPayload C cap).run s=(.error .notFound,t) ∧
      t.2.incoming.length<s.2.incoming.length := by
  obtain ⟨hb,ha,hd,hap,hm,used,later,hr,hs,hc⟩ := h
  have hp := s.1.inbound.block_min
  set w : PlatformState := {s.2 with
    incoming := s.2.incoming.drop s.1.inbound.blockSize,reads := emsshNetIoTimeout::later} with hw
  have h1 : (Call.onSnd (netReadExact s.1.inbound.blockSize)).run s=
      (.ok (s.2.incoming.take s.1.inbound.blockSize),(s.1,w)) :=
    (run_onSnd _ s).trans (by rw [netReadExact_completes hc hs ha hr])
  have h2 : (Call.onSnd (netReadExact (nextPacketLength C s+4-s.1.inbound.blockSize+
      s.1.inbound.macLen))).run (s.1,w)=(.error .notFound,(s.1,{w with reads := later})) :=
    (run_onSnd _ (s.1,w)).trans (by rw [netReadExact_timeout hm rfl])
  refine ⟨(s.1,{w with reads := later}),?_,?_⟩
  · rw [sshTransportReceiveProtectedPayload,run_bind_ok (run_get s),
      run_bind_ok (run_require_of _ s hac)]
    simp only
    rw [run_bind_ok (run_require_of _ s hb),run_bind_ok h1]
    simp only [orPlatform,hd]
    change (Call.require (acceptableLength s.1.inbound.blockSize (nextPacketLength C s)) _ >>=
      _).run (s.1,w)=_
    rw [run_bind_ok (run_require_of _ (s.1,w) hap)]
    exact run_bind_error h2
  change (s.2.incoming.drop s.1.inbound.blockSize).length<s.2.incoming.length
  rw [length_drop]
  omega

/-- A reported timeout has consumed nothing, except when it falls exactly between
the first block of a packet and the rest; then the first block is lost. -/
theorem retry_loses_nothing_iff (payloadCapacity : Nat) (hactive : s.1.inbound.active=true) :
    RetryLosesNothing C s payloadCapacity ↔ ¬TimeoutAfterFirstBlock C s := by
  constructor
  · intro hrt ht
    obtain ⟨t,hr,hls⟩ := receive_timeout C s payloadCapacity hactive ht
    obtain ⟨_,hs,_⟩ := hrt t hr
    rw [hs] at hls
    exact Nat.lt_irrefl _ hls
  intro hno t hr
  rcases (receive_notFound C s payloadCapacity).of_eq hr rfl with ⟨later,hl,rfl⟩ | h
  · exact ⟨rfl,rfl,later,hl,fun _ => rfl⟩
  · exact absurd h hno
end

def sampleSession : TransportSession where
  inbound := sampleProtection 16
  outbound := sampleProtection 16
  inboundSequence := 0
  outboundSequence := 0
  rekeyAfterPackets := 0
  rekeyAfterBytes := 0
  inboundRekeyPackets := 0
  outboundRekeyPackets := 0
  inboundRekeyBytes := 0
  outboundRekeyBytes := 0
  rekeyNeeded := false

def samplePacketAt (reads : List Int) : Endpoint :=
  (sampleSession,{
    incoming := [1,1,1,13,8,6,9,1,1,1,1,1,1,1,1,1,39,39,39,39]
    reads := reads
    outgoing := []
    writes := []
    fills := none})

/-- A timeout before the packet has begun to arrive. -/
theorem retry_loses_nothing_sample :
    (samplePacketAt [emsshNetIoTimeout,100,100]).1.inbound.active=true ∧
    RetryLosesNothing xorCrypto (samplePacketAt [emsshNetIoTimeout,100,100]) 100 := by
  refine ⟨rfl,(retry_loses_nothing_iff xorCrypto _ 100 rfl).mpr ?_⟩
  intro h
  obtain ⟨used,later,hr,hs,hc⟩ := h.schedule
  rcases used with _ | ⟨n,used⟩
  · exact absurd hc.full (by decide)
  have hn : emsshNetIoTimeout=n := (List.cons.inj hr).1
  exact hs (by rw [hn]; rfl)

/-- The timeout between block and tag is reported as retryable although the block
is gone: the next call fails, where without the timeout it has the payload. -/
theorem retry_after_first_block_fails :
    let s := samplePacketAt [16,emsshNetIoTimeout,100]
    let receive := sshTransportReceiveProtectedPayload xorCrypto emsshMaxPayloadSize
    s.1.inbound.active=true ∧ (receive.run s).1=.error .notFound ∧
    (receive.run s).2.2.incoming=[39,39,39,39] ∧
    (receive.run (receive.run s).2).1=.error .closed ∧
    (receive.run (samplePacketAt [16,100])).1=.ok [7,8] ∧
    ¬RetryLosesNothing xorCrypto s emsshMaxPayloadSize := by
  refine ⟨rfl,rfl,rfl,rfl,rfl,?_⟩
  intro h
  obtain ⟨_,hs,_⟩ := h _ rfl
  revert hs
  decide

end EMSSHD
