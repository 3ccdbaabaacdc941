import EMSSHD.Core.Transport.Sequence

namespace EMSSHD

open Call

def cipherSizes (cipher : StringView) : Option (Nat×Nat×Nat) :=
  if cipher=some (cstr "aes128-ctr") then some (16,16,16) else none

def macSizes (mac : StringView) : Option (Nat×Nat) :=
  if mac=some (cstr "hmac-sha2-256") then some (32,32) else none

def cipherIndex (outbound : Bool) : NameListIndex :=
  if outbound then .encryptionServerToClient else .encryptionClientToServer

def macIndex (outbound : Bool) : NameListIndex :=
  if outbound then .macServerToClient else .macClientToServer

def directionSizes (negotiation : Negotiation) (outbound : Bool) : Option PacketSizes :=
  match cipherSizes (negotiation (cipherIndex outbound)),
      macSizes (negotiation (macIndex outbound)) with
  | some (cipherKeyLen,cipherIvLen,blockSize),some (macKeyLen,macLen) =>
    some ⟨cipherKeyLen,cipherIvLen,blockSize,macKeyLen,macLen⟩
  | _,_ => none

def TransportSession.protection (s : TransportSession) (outbound : Bool) : Protection :=
  if outbound then s.outbound else s.inbound

lemma directionSizes_some {neg : Negotiation} {outbound : Bool} {sizes : PacketSizes}
    (h : directionSizes neg outbound=some sizes) : sizes=⟨16,16,16,32,32⟩ := by
  unfold directionSizes cipherSizes macSizes at h
  by_cases hc : neg (cipherIndex outbound)=some (cstr "aes128-ctr")
  · by_cases hmac : neg (macIndex outbound)=some (cstr "hmac-sha2-256")
    · rw [if_pos hc,if_pos hmac] at h
      exact (Option.some.inj h).symm
    rw [if_pos hc,if_neg hmac] at h
    cases h
  rw [if_neg hc] at h
  cases h

lemma negotiatedPacketSizes_eq (neg : Negotiation) :
    negotiatedPacketSizes neg= (directionSizes neg false).elim (.error .unsupported) .ok := by
  have hcp : cipherIndex false=.encryptionClientToServer := rfl
  have hmac : macIndex false=.macClientToServer := rfl
  unfold negotiatedPacketSizes directionSizes cipherSizes macSizes viewAlgorithmSize
  rw [hcp,hmac]
  by_cases hc : neg .encryptionClientToServer=some (cstr "aes128-ctr")
  · by_cases hm : neg .macClientToServer=some (cstr "hmac-sha2-256")
    · simp [hc,hm]
    · simp [hc,hm]
  · simp [hc]

section
variable (K : KexCrypto) {s : Peer} {sizes : PacketSizes}

/-- With sizes for the inbound direction, keys of these sizes are installed in the direction
that is activated, or the failure is another one than UNSUPPORTED. -/
theorem activatePacketProtection_sizes (outbound : Bool)
    (hs : directionSizes s.1.negotiation false=some sizes) :
    (activatePacketProtection K outbound).Ensures s
      (Outcome (fun _ t => (t.1.transport.protection outbound).HasSizes sizes)
        fun e _ => e≠.unsupported) := by
  have hb : normalizedBlockSize sizes.blockSize=sizes.blockSize := by
    rw [directionSizes_some hs]
    rfl
  have hl : negotiatedPacketSizes s.1.negotiation=.ok sizes := by
    rw [negotiatedPacketSizes_eq,hs]
    rfl
  refine (activatePacketProtection_spec K outbound s).mono fun r t ht => ?_
  cases r with
  | error e => exact ht.2.resolve_left (by rw [hl]; nofun)
  | ok _ =>
    obtain ⟨_,p,u,hz,_,hp,_,rfl⟩ := ht
    obtain rfl := Except.ok.inj (hl.symm.trans hz)
    rw [hb] at hp
    cases outbound with
    | false | true => exact { hp with }

lemma activatePacketProtection_unsupported (outbound : Bool)
    (hs : directionSizes s.1.negotiation false=none) :
    ((activatePacketProtection K outbound).run s).1=.error .unsupported := by
  have hl : negotiatedPacketSizes s.1.negotiation=.error .unsupported := by
    rw [negotiatedPacketSizes_eq,hs]
    rfl
  rw [activatePacketProtection,run_bind_ok (run_get s),hl,run_bind_error (run_lift _ s)]
end

/-- What an activation has to do: install the sizes of the direction's own algorithms, and
fail with UNSUPPORTED where these are not known. -/
def OwnSizes (K : KexCrypto) (outbound : Bool) (s : Peer) : Prop :=
  match directionSizes s.1.negotiation outbound with
  | some sizes => ((activatePacketProtection K outbound).run s).1=.ok () →
      (((activatePacketProtection K outbound).run s).2.1.transport.protection
        outbound).HasSizes sizes
  | none => ((activatePacketProtection K outbound).run s).1=.error .unsupported

/-- Only the inbound direction gets its own sizes. The outbound one does where its algorithms
are known too, or the activation fails because the inbound ones are not. -/
theorem ownSizes_iff (K : KexCrypto) (outbound : Bool) (s : Peer) :
    OwnSizes K outbound s ↔
      (outbound=true → (directionSizes s.1.negotiation false).isSome →
        (directionSizes s.1.negotiation true).isSome) := by
  unfold OwnSizes
  constructor
  · intro ho hot hi
    obtain ⟨sizes,hsz⟩ := Option.isSome_iff_exists.mp hi
    have ha := activatePacketProtection_sizes K outbound hsz
    by_contra hu
    rw [hot,Option.not_isSome_iff_eq_none.mp hu] at ho
    rcases hr : (activatePacketProtection K true).run s with ⟨r,t⟩
    rw [hr] at ho
    rw [hot] at ha
    obtain rfl : r=.error .unsupported := ho
    exact ha.of_eq hr rfl
  intro hk
  cases hi : directionSizes s.1.negotiation false with
  | none =>
    have hf := activatePacketProtection_unsupported K outbound hi
    rw [hf]
    rcases directionSizes s.1.negotiation outbound with _ | sizes
    · rfl
    intro hok
    cases hok
  | some sizes =>
    have ha := activatePacketProtection_sizes K outbound hi
    have hsm : directionSizes s.1.negotiation outbound=some sizes := by
      cases outbound with
      | false => exact hi
      | true =>
        have hso := hk rfl (by rw [hi]; rfl)
        obtain ⟨sizes',hs⟩ := Option.isSome_iff_exists.mp hso
        rw [hs,directionSizes_some hs,directionSizes_some hi]
    rw [hsm]
    intro hok
    rcases hr : (activatePacketProtection K outbound).run s with ⟨r,t⟩
    rw [hr] at hok
    obtain rfl : r=.ok () := hok
    exact ha.of_eq hr

def mixedNameLists : AlgorithmSet :=
  Function.update defaultNameLists .encryptionServerToClient (some (cstr "aes256-ctr"))

def mixedPeer : Peer :=
  ({sshTransportSessionInit mixedNameLists [] with
      exchangeHash := [3]
      negotiation := negotiationLeft {nameLists := mixedNameLists} mixedNameLists
        NameListIndex.all fun _ => none},
    {incoming := [],reads := [],outgoing := [],writes := [],fills := none})

/-- The negotiation gives aes256-ctr to the outbound direction, and the activation installs a
key of 16 bytes for it. -/
theorem outbound_cipher_short_key :
    (sshKexNegotiate {nameLists := mixedNameLists} (some mixedNameLists)).isOk=true ∧
    mixedPeer.1.negotiation .encryptionServerToClient=some (cstr "aes256-ctr") ∧
    ((activatePacketProtection constantKexCrypto true).run mixedPeer).1=.ok () ∧
    ((activatePacketProtection constantKexCrypto true).run
      mixedPeer).2.1.transport.outbound.cipherAlgorithm=some (cstr "aes256-ctr") ∧
    ((activatePacketProtection constantKexCrypto true).run
      mixedPeer).2.1.transport.outbound.cipherKey.bytes.length=16 ∧
    ¬OwnSizes constantKexCrypto true mixedPeer := by
  have ha : ((activatePacketProtection constantKexCrypto true).run mixedPeer).1=.ok () := by
    decide +kernel
  have hu : directionSizes mixedPeer.1.negotiation true=none := by decide +kernel
  refine ⟨by decide +kernel,by decide +kernel,ha,by decide +kernel,by decide +kernel,?_⟩
  intro ho
  rw [OwnSizes,hu,ha] at ho
  cases ho

end EMSSHD
