import EMSSHD.Core.Transport.Delivery
import EMSSHD.Core.Transport.Sequence

namespace EMSSHD

open Call

section
/-- The bytes are packets that a peer has encoded one after the other, the first of them in the
state p. -/
inductive PacketStream (C : CryptoApi) : Protection → List Bytes → Bytes → Prop
  | nil (p : Protection) : PacketStream C p [] []
  | cons {p q : Protection} {payload wire rest : Bytes} {payloads : List Bytes}
      {outCapacity : Nat} {rng : Option RngFill}
      (hpacket : (sshPacketEncodeProtected C outCapacity payload rng).run p=(.ok wire,q))
      (hrest : PacketStream C q payloads rest) : PacketStream C p (payload::payloads) (wire++rest)

/-- The network has such packets in store and delivers them, a byte at least with each read. -/
def Carries (C : CryptoApi) (p : Protection) (payloads : List Bytes) (w : PlatformState) : Prop :=
  (∀ n∈w.reads,0<n) ∧ ∃ wire later,PacketStream C p payloads wire ∧
    w.incoming=wire++later ∧ wire.length ≤ w.reads.length

/-- What it takes to open packets with the keys of p. -/
structure CryptoApi.Opens (C : CryptoApi) (p : Protection) : Prop where
  reliable : C.Reliable p
  compatible : C.PrefixCompatible p
  block : p.blockSize≤emsshMaxCipherIv

variable {C : CryptoApi} {p : Protection} {payload : Bytes} {payloads : List Bytes}

lemma CryptoApi.Opens.advance (h : C.Opens p) (n : Nat) : C.Opens (p.advance n) where
  reliable := h.reliable.advance n
  compatible := h.compatible.advance n
  block := by
    rw [(p.advance_fixed n).2.1]
    exact h.block

lemma packetStream_exists (ho : C.Opens p) (ha : p.active=true)
    (hl : ∀ payload∈payloads,payload.length≤emsshMaxPayloadSize) :
    ∃ wire,PacketStream C p payloads wire := by
  induction payloads generalizing p with
  | nil => exact ⟨[],.nil p⟩
  | cons payload payloads ih =>
    obtain ⟨hf,hl⟩ := forall_mem_cons.mp hl
    have hb : p.blockSize≤252 := ho.block.trans (by decide)
    obtain ⟨wire,n,_,hp,_⟩ := packet_roundTrip ho.reliable ha hb hf
      (fun n => (⟨_,rfl⟩ : ∃ pad,paddingBytes none n=.ok pad)) le_rfl
    obtain ⟨rest,hr⟩ := ih (ho.advance n) (by rw [(p.advance_fixed n).1]; exact ha) hl
    exact ⟨wire++rest,.cons hp hr⟩

def bytewise (stream : Bytes) : PlatformState where
  incoming := stream
  reads := List.replicate stream.length 1
  outgoing := []
  writes := []
  fills := none

lemma carries_exists (ho : C.Opens p) (ha : p.active=true)
    (hl : ∀ payload∈payloads,payload.length≤emsshMaxPayloadSize) : ∃ w,Carries C p payloads w := by
  obtain ⟨wire,hw⟩ := packetStream_exists ho ha hl
  have hr : ∀ n∈(bytewise wire).reads,0<n := by
    intro n hn
    rw [eq_of_mem_replicate hn]
    exact Int.one_pos
  exact ⟨bytewise wire,hr,wire,[],hw,(append_nil wire).symm,length_replicate.ge⟩

lemma received_ok {capacity : Nat} {a : Bytes} (h : received capacity payload=.ok a) :
    payload=a ∧ payload.length ≤ capacity := by
  unfold received at h
  split_ifs at h with hr
  exact ⟨Except.ok.inj h,hr⟩

lemma received_error {capacity : Nat} {e : Err} (h : received capacity payload=.error e) :
    .bufferTooSmall=e ∧ capacity<payload.length := by
  unfold received at h
  split_ifs at h with hr
  exact ⟨Except.error.inj h,Nat.lt_of_not_le hr⟩

lemma receive_carried {s : Endpoint} (capacity : Nat) (ho : C.Opens s.1.inbound)
    (h : Carries C s.1.inbound (payload::payloads) s.2) :
    (sshTransportReceiveProtectedPayload C capacity).Ensures s (fun r t =>
      r=received capacity payload ∧ C.Opens t.1.inbound ∧ Carries C t.1.inbound payloads t.2) := by
  obtain ⟨hpo,wire,later,hs,hi,hc⟩ := h
  cases hs with
  | cons hp hrs =>
    rename_i q first rest outCapacity rng
    rw [append_assoc] at hi
    rw [length_append] at hc
    obtain ⟨_,plain,_,_,hq⟩ := (encodeProtected_spec C _ _ _ _).of_eq hp
    apply (receive_of_encode ho.reliable ho.compatible ho.block hp hi hpo (by omega)).mono
    intro r t ht
    obtain ⟨hr,hin,hl,hps,hu⟩ := ht
    refine ⟨hr,?_,hps,rest,later,?_,hl,by omega⟩
    · rw [hin,hq]
      exact ho.advance _
    rw [hin]
    exact hrs
end

section
variable (C : CryptoApi) (K : KexCrypto) {s : Peer} {payload : Bytes} {payloads : List Bytes}
  {capacity : Nat}

lemma receiveScratch_carried (ho : C.Opens s.1.transport.inbound)
    (h : Carries C s.1.transport.inbound (payload::payloads) s.2) :
    (receiveScratch C capacity).Ensures s (fun r t =>
      r=received (max capacity emsshMaxKexinitPayload) payload ∧
        C.Opens t.1.transport.inbound ∧ Carries C t.1.transport.inbound payloads t.2) := by
  obtain ⟨_,hn,_⟩ := noteMac_run false s
  have hp : (receiveProtected C (max capacity emsshMaxKexinitPayload)).Ensures s (fun r t =>
      r=received (max capacity emsshMaxKexinitPayload) payload ∧
        C.Opens t.1.transport.inbound ∧ Carries C t.1.transport.inbound payloads t.2) :=
    .bindOk hn (.bindStatus (.onEndpoint (receive_carried _ ho h) fun _ _ hu => hu))
  exact hp.bind (fun _ _ ht => ht) fun _ _ ht => ht

/-- What the loop returns for m behind other messages: each of them has to fit the buffer that
the loop receives into, which is not smaller than that of a KEXINIT. -/
def skipping (capacity : Nat) (m : Bytes) : List Bytes → Except Err Bytes
  | [] => received capacity m
  | payload::payloads => do
    let _ ← received (max capacity emsshMaxKexinitPayload) payload
    skipping capacity m payloads

def Ordinary (m : Bytes) : Prop :=
  transportPayloadIsIgnorable m=false ∧ transportPayloadIsKexinit m=false ∧
    transportPayloadIsDisconnect m=false

instance (m : Bytes) : Decidable (Ordinary m) := inferInstanceAs (Decidable (_ ∧ _ ∧ _))

lemma ignorable_only {payload : Bytes} (h : transportPayloadIsIgnorable payload=true) :
    transportPayloadIsKexinit payload=false ∧ transportPayloadIsDisconnect payload=false := by
  simp only [transportPayloadIsIgnorable,decide_eq_true_eq] at h
  unfold transportPayloadIsKexinit transportPayloadIsDisconnect
  rcases h with h | h | h <;> rw [h] <;> decide

lemma receiveSkippingLoop_carried {m : Bytes} {ignorables : List Bytes} {tries : Nat}
    (ho : C.Opens s.1.transport.inbound)
    (h : Carries C s.1.transport.inbound (ignorables++[m]) s.2) (htr : ignorables.length<tries)
    (hi : ∀ payload∈ignorables,transportPayloadIsIgnorable payload=true) (hm : Ordinary m) :
    (receiveSkippingLoop C K capacity tries).Ensures s
      (fun r _ => r=skipping capacity m ignorables) := by
  induction ignorables generalizing s tries with
  | nil =>
    obtain ⟨hig,hk,hd⟩ := hm
    obtain ⟨tries,rfl⟩ := Nat.exists_eq_succ_of_ne_zero (Nat.ne_zero_of_lt htr)
    apply (receiveScratch_carried C ho h).bind
    · intro first t ht
      obtain ⟨rfl,hft⟩ := received_ok ht.1.symm
      rw [if_neg (by simp [hd]),if_neg (by simp [hk]),if_pos (by simp [hig])]
      refine .bindRequire (fun hrm => .pure ?_) (fun hrm => ?_)
      · rw [skipping,received,if_pos (by omega)]
      · rw [skipping,received,if_neg (by omega)]
    intro e t ht
    obtain ⟨rfl,hl⟩ := received_error ht.1.symm
    rw [skipping,received,if_neg (by omega)]
  | cons payload ignorables ih =>
    obtain ⟨hf,hi⟩ := forall_mem_cons.mp hi
    obtain ⟨hk,hd⟩ := ignorable_only hf
    obtain ⟨tries,rfl⟩ := Nat.exists_eq_succ_of_ne_zero (Nat.ne_zero_of_lt htr)
    apply (receiveScratch_carried C ho h).bind
    · intro first t ht
      obtain ⟨hr,ho,hrs⟩ := ht
      obtain ⟨rfl,_⟩ := received_ok hr.symm
      rw [if_neg (by simp [hd]),if_neg (by simp [hk]),if_neg (by simp [hf]),skipping,← hr]
      exact ih ho hrs (Nat.lt_of_succ_lt_succ htr) hi
    intro e t ht
    rw [skipping,← ht.1]
    rfl

lemma skipping_eq_iff (m : Bytes) :
    skipping capacity m payloads=received capacity m ↔
      (capacity < m.length ∨ ∀ payload∈payloads,
        payload.length ≤ max capacity emsshMaxKexinitPayload) := by
  induction payloads with
  | nil => simp [skipping]
  | cons payload payloads ih =>
    by_cases hf : payload.length ≤ max capacity emsshMaxKexinitPayload
    · have hn : skipping capacity m (payload::payloads)=skipping capacity m payloads := by
        rw [skipping,received,if_pos hf]
        rfl
      rw [hn,ih,forall_mem_cons]
      simp only [hf,true_and]
    have hs : skipping capacity m (payload::payloads)=.error .bufferTooSmall := by
      rw [skipping,received,if_neg hf]
      rfl
    rw [hs,received]
    split_ifs with hr
    · simp only [Nat.not_lt.mpr hr,forall_mem_cons,hf,false_and,or_false]
    · simp only [Nat.lt_of_not_le hr,true_or]

/-- Up to seven ignorable messages in front of a message do not change what is returned for it
exactly when each of them fits the buffer that is received into, unless the message itself has
no room. -/
theorem ignorable_in_front_iff {session : KexSession} {w v : PlatformState} {m : Bytes}
    {ignorables : List Bytes} (hopens : C.Opens session.transport.inbound)
    (hw : Carries C session.transport.inbound [m] w)
    (hv : Carries C session.transport.inbound (ignorables++[m]) v)
    (hcount : ignorables.length≤7)
    (hignorable : ∀ payload∈ignorables,transportPayloadIsIgnorable payload=true)
    (hm : Ordinary m) :
    ((receiveSkippingIgnorable C K capacity).run (session,v)).1=
        ((receiveSkippingIgnorable C K capacity).run (session,w)).1 ↔
      (capacity < m.length ∨ ∀ payload∈ignorables,
        payload.length ≤ max capacity emsshMaxKexinitPayload) := by
  have hp : ((receiveSkippingIgnorable C K capacity).run (session,w)).1=received capacity m :=
    receiveSkippingLoop_carried C K hopens hw (by decide) (forall_mem_nil _) hm
  have hb : ((receiveSkippingIgnorable C K capacity).run (session,v)).1=
      skipping capacity m ignorables :=
    receiveSkippingLoop_carried C K hopens hv (Nat.lt_succ_of_le hcount) hignorable hm
  rw [hp,hb]
  exact skipping_eq_iff m
end

def keyedSession : KexSession :=
  {sshTransportSessionInit defaultNameLists [] with transport := sampleSession}

lemma keyedSession_opens : xorCrypto.Opens keyedSession.transport.inbound where
  reliable := xorCrypto_reliable _ rfl
  compatible := xorCrypto_prefixCompatible _
  block := by decide

/-- SSH_MSG_IGNORE with so many bytes behind its number. -/
def ignoreMessage (n : Nat) : Bytes := sshMsgIgnore::List.replicate n 0

lemma carries_short (payloads : List Bytes)
    (h : ∀ payload∈payloads,payload.length≤emsshMaxPayloadSize) :
    ∃ w,Carries xorCrypto keyedSession.transport.inbound payloads w :=
  carries_exists keyedSession_opens rfl h

/-- A short message in front of another one is skipped. -/
theorem ignorable_in_front_short : ∃ w v,
    Carries xorCrypto keyedSession.transport.inbound [[5]] w ∧
      Carries xorCrypto keyedSession.transport.inbound [ignoreMessage 3,[5]] v ∧
      ((receiveSkippingIgnorable xorCrypto constantKexCrypto 64).run (keyedSession,v)).1=
        ((receiveSkippingIgnorable xorCrypto constantKexCrypto 64).run (keyedSession,w)).1 := by
  obtain ⟨w,hw⟩ := carries_short [[5]] (by decide)
  obtain ⟨v,hv⟩ := carries_short ([ignoreMessage 3]++[[5]]) (by decide)
  refine ⟨w,v,hw,hv,?_⟩
  apply (ignorable_in_front_iff xorCrypto constantKexCrypto keyedSession_opens hw hv
    (by decide) (by decide) (by decide)).mpr
  right
  decide

/-- One that is longer than a KEXINIT may be ends the session of a caller with little room. -/
theorem long_ignorable_ends_session : ∃ w v,
    Carries xorCrypto keyedSession.transport.inbound [[5]] w ∧
      Carries xorCrypto keyedSession.transport.inbound [ignoreMessage 2048,[5]] v ∧
      ((receiveSkippingIgnorable xorCrypto constantKexCrypto 64).run (keyedSession,w)).1=.ok [5] ∧
      ((receiveSkippingIgnorable xorCrypto constantKexCrypto 64).run (keyedSession,v)).1=
        .error .bufferTooSmall := by
  obtain ⟨w,hw⟩ := carries_short [[5]] (by decide)
  obtain ⟨v,hv⟩ := carries_short ([ignoreMessage 2048]++[[5]]) (by decide +kernel)
  have hp : (receiveSkippingIgnorable xorCrypto constantKexCrypto 64).Ensures (keyedSession,w)
      (fun r _ => r=skipping 64 [5] []) :=
    receiveSkippingLoop_carried _ _ keyedSession_opens hw (by decide) (by decide) (by decide)
  have hb : (receiveSkippingIgnorable xorCrypto constantKexCrypto 64).Ensures (keyedSession,v)
      (fun r _ => r=skipping 64 [5] [ignoreMessage 2048]) :=
    receiveSkippingLoop_carried _ _ keyedSession_opens hv (by decide) (by decide) (by decide)
  have hs : skipping 64 [5] [ignoreMessage 2048]=.error .bufferTooSmall := by decide +kernel
  rw [hs] at hb
  exact ⟨w,v,hw,hv,hp,hb⟩

end EMSSHD
