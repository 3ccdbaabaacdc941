import EMSSHD.Core.Transport.Delivery
import EMSSHD.Core.Transport.Sequence

namespace EMSSHD

open Call

structure RekeyAccount where
  afterPackets : Nat
  afterBytes : Nat
  packets : Bool → Nat
  bytes : Bool → Nat
  needed : Bool

namespace RekeyAccount

def Reached (a : RekeyAccount) : Prop :=
  ∃ outbound,(a.afterPackets≠0 ∧ a.afterPackets ≤ a.packets outbound) ∨
    (a.afterBytes≠0 ∧ a.afterBytes ≤ a.bytes outbound)
end RekeyAccount

namespace TransportSession

def account (s : TransportSession) : RekeyAccount where
  afterPackets := s.rekeyAfterPackets
  afterBytes := s.rekeyAfterBytes
  packets outbound := if outbound then s.outboundRekeyPackets else s.inboundRekeyPackets
  bytes outbound := if outbound then s.outboundRekeyBytes else s.inboundRekeyBytes
  needed := s.rekeyNeeded
end TransportSession

def sshTransportRekeyNeeded (s : KexSession) : Bool := s.transport.rekeyNeeded

/-- What rekey accounting is about: limits that are set, keys that are taken into use, and
packets with their length on the wire. -/
inductive RekeyEvent where
  | limits (packets bytes : Nat)
  | activated (outbound : Bool)
  | packet (outbound : Bool) (wireLen : Nat)

namespace RekeyEvent

def Restarts (outbound : Bool) : RekeyEvent → Bool
  | limits _ _ => true
  | activated direction => direction=outbound
  | packet _ _ => false

def packetsIn (outbound : Bool) : RekeyEvent → Nat
  | limits _ _ => 0
  | activated _ => 0
  | packet direction _ => if direction=outbound then 1 else 0

def bytesIn (outbound : Bool) : RekeyEvent → Nat
  | limits _ _ => 0
  | activated _ => 0
  | packet direction wireLen => if direction=outbound then wireLen else 0

def since (outbound : Bool) (events : List RekeyEvent) : List RekeyEvent :=
  events.takeWhile fun e => !e.Restarts outbound

def packetsSince (outbound : Bool) (events : List RekeyEvent) : Nat :=
  ((since outbound events).map (packetsIn outbound)).sum

def bytesSince (outbound : Bool) (events : List RekeyEvent) : Nat :=
  ((since outbound events).map (bytesIn outbound)).sum

def lastLimits : List RekeyEvent → Nat×Nat
  | [] => (0,0)
  | limits packets bytes::_ => (packets,bytes)
  | activated _::events => lastLimits events
  | packet _ _::events => lastLimits events

variable (outbound : Bool) (events : List RekeyEvent)

lemma since_cons (e : RekeyEvent) :
    since outbound (e::events)= if e.Restarts outbound then [] else e::since outbound events := by
  rw [since,List.takeWhile_cons]
  cases e.Restarts outbound <;> rfl

lemma packetsSince_cons (e : RekeyEvent) :
    packetsSince outbound (e::events)=
      if e.Restarts outbound then 0 else e.packetsIn outbound+packetsSince outbound events := by
  rw [packetsSince,since_cons]
  cases e.Restarts outbound <;> rfl

lemma bytesSince_cons (e : RekeyEvent) :
    bytesSince outbound (e::events)=
      if e.Restarts outbound then 0 else e.bytesIn outbound+bytesSince outbound events := by
  rw [bytesSince,since_cons]
  cases e.Restarts outbound <;> rfl
end RekeyEvent

open RekeyEvent

lemma addU64Saturating_min (count more : Nat) :
    addU64Saturating (min uint64Max count) more=min uint64Max (more+count) := by
  unfold addU64Saturating
  split_ifs <;> omega

/-- The account is what the events come to. -/
structure RekeyAccount.Of (events : List RekeyEvent) (a : RekeyAccount) : Prop where
  limits : (a.afterPackets,a.afterBytes)=lastLimits events
  packets : ∀ outbound,a.packets outbound=min uint64Max (packetsSince outbound events)
  bytes : ∀ outbound,a.bytes outbound=min uint64Max (bytesSince outbound events)
  needed : a.needed=true ↔ a.Reached

section
variable {events : List RekeyEvent} {s : TransportSession}

lemma updateRekeyNeeded_needed (s : TransportSession) :
    (updateRekeyNeeded s).account.needed=true ↔ (updateRekeyNeeded s).account.Reached := by
  have hf : (updateRekeyNeeded s).account.needed=true ↔
      (s.rekeyAfterPackets≠0 ∧ (s.rekeyAfterPackets ≤ s.inboundRekeyPackets ∨
        s.rekeyAfterPackets ≤ s.outboundRekeyPackets)) ∨
      (s.rekeyAfterBytes≠0 ∧ (s.rekeyAfterBytes ≤ s.inboundRekeyBytes ∨
        s.rekeyAfterBytes ≤ s.outboundRekeyBytes)) := decide_eq_true_iff
  have hr : (updateRekeyNeeded s).account.Reached ↔
      ((s.rekeyAfterPackets≠0 ∧ s.rekeyAfterPackets ≤ s.inboundRekeyPackets) ∨
        (s.rekeyAfterBytes≠0 ∧ s.rekeyAfterBytes ≤ s.inboundRekeyBytes)) ∨
      ((s.rekeyAfterPackets≠0 ∧ s.rekeyAfterPackets ≤ s.outboundRekeyPackets) ∨
        (s.rekeyAfterBytes≠0 ∧ s.rekeyAfterBytes ≤ s.outboundRekeyBytes)) := Bool.exists_bool
  rw [hf,hr,and_or_left,and_or_left]
  exact or_or_or_comm

/-- An event adds to a counter of its direction, or sets it back. -/
lemma RekeyAccount.Of.event {a b : RekeyAccount} (h : a.Of events) (e : RekeyEvent)
    (hl : (b.afterPackets,b.afterBytes)=lastLimits (e::events))
    (hp : ∀ outbound,b.packets outbound=if e.Restarts outbound then 0
      else addU64Saturating (a.packets outbound) (e.packetsIn outbound))
    (hb : ∀ outbound,b.bytes outbound=if e.Restarts outbound then 0
      else addU64Saturating (a.bytes outbound) (e.bytesIn outbound))
    (hn : b.needed=true ↔ b.Reached) : b.Of (e::events) where
  limits := hl
  packets outbound := by
    rw [hp,h.packets,addU64Saturating_min,packetsSince_cons]
    split_ifs <;> simp
  bytes outbound := by
    rw [hb,h.bytes,addU64Saturating_min,bytesSince_cons]
    split_ifs <;> simp
  needed := hn

lemma recordRekeyPacket_of (outbound : Bool) (wireLen : Nat) (h : s.account.Of events) :
    (recordRekeyPacket outbound wireLen s).account.Of (.packet outbound wireLen::events) := by
  refine h.event _ ?_ (fun direction => ?_) (fun direction => ?_) (updateRekeyNeeded_needed _)
  · rw [lastLimits,← h.limits]
    cases outbound <;> rfl
  all_goals cases outbound <;> cases direction <;> rfl

lemma resetRekeyDirection_of (outbound : Bool) (h : s.account.Of events) :
    (resetRekeyDirection outbound s).account.Of (.activated outbound::events) := by
  refine h.event _ ?_ (fun direction => ?_) (fun direction => ?_) (updateRekeyNeeded_needed _)
  · rw [lastLimits,← h.limits]
    cases outbound <;> rfl
  all_goals cases outbound <;> cases direction <;> rfl

lemma fresh_of (hz : ∀ outbound,s.account.packets outbound=0 ∧ s.account.bytes outbound=0)
    (hl : (s.account.afterPackets,s.account.afterBytes)=lastLimits events)
    (hn : s.account.needed=false)
    (hs : ∀ outbound,since outbound events=[]) : s.account.Of events where
  limits := hl
  packets outbound := by simp [(hz outbound).1,packetsSince,hs]
  bytes outbound := by simp [(hz outbound).2,bytesSince,hs]
  needed := by
    have hnt : ¬s.account.Reached := by
      intro hr
      obtain ⟨outbound,hp | hb⟩ := hr
      · rw [(hz outbound).1] at hp
        omega
      rw [(hz outbound).2] at hb
      omega
    simp [hn,hnt]
end

section
variable (C : CryptoApi) (K : KexCrypto)

lemma sendProtected_recorded (payload : Bytes) (s : Peer) :
    (sendProtected C payload).Ensures s
      (Outcome
        (fun _ t => t.1.transport.account=(recordRekeyPacket true
          (t.2.outgoing.length-s.2.outgoing.length) s.1.transport).account)
        fun _ t => t.1.transport.account=s.1.transport.account) := by
  obtain ⟨_,hn,_⟩ := noteMac_run true s
  refine .bindOk hn (.bindGet (.bindStatus
    (.onEndpoint (sendProtectedPayload_spec C payload _) fun r u h => ?_)))
  cases r with
  | ok _ =>
    obtain ⟨_,_,h⟩ := h
    have ha := congrArg TransportSession.account h
    exact ha
  | error e =>
    have ha : u.1.account=s.1.transport.account := by
      rcases h.2 with h | ⟨_,_,h⟩
      · rw [h]
      · rw [h]; rfl
    exact ha

lemma receiveProtected_recorded (cap : Nat) (s : Peer) :
    (receiveProtected C cap).Ensures s
      (Outcome
        (fun _ t => t.1.transport.account=(recordRekeyPacket false
          (s.2.incoming.length-t.2.incoming.length) s.1.transport).account)
        fun _ t => t.1.transport.account=s.1.transport.account) := by
  obtain ⟨_,hn,_⟩ := noteMac_run false s
  refine .bindOk hn (.bindStatus
    (.onEndpoint (receiveProtectedPayload_spec C cap _) fun r u h => ?_))
  cases r with
  | ok _ =>
    obtain ⟨_,_,h⟩ := h
    have ha := congrArg TransportSession.account h
    exact ha
  | error e =>
    have ha : u.1.account=s.1.transport.account := by
      rcases h with ⟨h,_⟩ | ⟨_,_,_,h⟩
      · rw [h]
      · rw [h]; rfl
    exact ha

lemma activatePacketProtection_restarts (outbound : Bool) (s : Peer) :
    (activatePacketProtection K outbound).Ensures s
      (Outcome
        (fun _ t => t.1.transport.account=(resetRekeyDirection outbound s.1.transport).account)
        fun _ t => t.1.transport.account=s.1.transport.account) := by
  refine (activatePacketProtection_spec K outbound s).mono fun r t ht => ?_
  cases r with
  | error e => rw [Outcome,(Prod.mk.inj ht.1).1]
  | ok _ =>
    obtain ⟨_,p,u,_,_,_,hu,rfl⟩ := ht
    change (installProtection outbound p u.1.transport).account=_
    rw [(Prod.mk.inj hu).1]
    cases outbound with
    | false | true => rfl
end

/-- A run of a session, as far as rekeying is concerned, with what has happened in it, the
newest event first. Whatever else happens to the session and its platform, key exchanges and
failed calls included, does not touch the account. -/
inductive RekeyRun (C : CryptoApi) (K : KexCrypto) : List RekeyEvent → Peer → Prop
  | start (serverAlgorithms : AlgorithmSet) (keypairs : List (Except Err (Bytes×Bytes)))
      (w : PlatformState) : RekeyRun C K [] (sshTransportSessionInit serverAlgorithms keypairs,w)
  | limits {events : List RekeyEvent} {s : Peer} (packets bytes : Nat)
      (h : RekeyRun C K events s) :
      RekeyRun C K (.limits packets bytes::events)
        ((sshTransportSetRekeyLimits packets bytes).run s).2
  | sent {events : List RekeyEvent} {s t : Peer} {payload : Bytes} (h : RekeyRun C K events s)
      (hsend : (sendProtected C payload).run s=(.ok (),t)) :
      RekeyRun C K (.packet true (t.2.outgoing.length-s.2.outgoing.length)::events) t
  | received {events : List RekeyEvent} {s t : Peer} {payloadCapacity : Nat} {payload : Bytes}
      (h : RekeyRun C K events s)
      (hreceive : (receiveProtected C payloadCapacity).run s=(.ok payload,t)) :
      RekeyRun C K (.packet false (s.2.incoming.length-t.2.incoming.length)::events) t
  | activated {events : List RekeyEvent} {s t : Peer} {outbound : Bool}
      (h : RekeyRun C K events s)
      (hactivate : (activatePacketProtection K outbound).run s=(.ok (),t)) :
      RekeyRun C K (.activated outbound::events) t
  | other {events : List RekeyEvent} {s t : Peer} (h : RekeyRun C K events s)
      (hsame : t.1.transport.account=s.1.transport.account) : RekeyRun C K events t

lemma RekeyRun.account_of {C : CryptoApi} {K : KexCrypto} {events : List RekeyEvent} {s : Peer}
    (h : RekeyRun C K events s) : s.1.transport.account.Of events := by
  induction h with
  | start | limits =>
    apply fresh_of
    · intro outbound
      cases outbound <;> exact ⟨rfl,rfl⟩
    · rfl
    · rfl
    intro _
    rfl
  | sent h hs ih =>
    have hr := (sendProtected_recorded C _ _).of_eq hs
    rw [Outcome] at hr
    rw [hr]
    exact recordRekeyPacket_of true _ ih
  | received h hrc ih =>
    have hr := (receiveProtected_recorded C _ _).of_eq hrc
    rw [Outcome] at hr
    rw [hr]
    exact recordRekeyPacket_of false _ ih
  | activated h ha ih =>
    have hrs := (activatePacketProtection_restarts K _ _).of_eq ha
    rw [Outcome] at hrs
    rw [hrs]
    exact resetRekeyDirection_of _ ih
  | other h hsm ih =>
    rw [hsm]
    exact ih

/-- In every run, the four counters are what has gone over the wire in their direction since
the keys of the direction and the limits were last set, up to the top of 64 bits, and a rekey
is needed exactly when one of them has reached its limit. -/
theorem rekey_accounting (C : CryptoApi) (K : KexCrypto) {events : List RekeyEvent} {s : Peer}
    (h : RekeyRun C K events s) :
    (s.1.transport.inboundRekeyPackets=min (2^64-1) (packetsSince false events) ∧
      s.1.transport.outboundRekeyPackets=min (2^64-1) (packetsSince true events) ∧
      s.1.transport.inboundRekeyBytes=min (2^64-1) (bytesSince false events) ∧
      s.1.transport.outboundRekeyBytes=min (2^64-1) (bytesSince true events)) ∧
    (s.1.transport.rekeyAfterPackets,s.1.transport.rekeyAfterBytes)=lastLimits events ∧
    (sshTransportRekeyNeeded s.1=true ↔ s.1.transport.account.Reached) := by
  have ha := h.account_of
  exact ⟨⟨ha.packets false,ha.packets true,ha.bytes false,ha.bytes true⟩,ha.limits,ha.needed⟩

def keyedPeer : Peer :=
  ({sshTransportSessionInit defaultNameLists [] with transport := sampleSender.1},sampleSender.2)

def limitedPeer : Peer := ((sshTransportSetRekeyLimits 1 0).run keyedPeer).2
def afterOnePacket : Peer := ((sendProtected xorCrypto [7,8]).run limitedPeer).2

/-- With a limit of one packet, the first packet calls for a rekey. -/
theorem rekey_accounting_one_packet :
    afterOnePacket.1.transport.outboundRekeyPackets=1 ∧
      sshTransportRekeyNeeded afterOnePacket.1=true := by
  have hsd : (sendProtected xorCrypto [7,8]).run limitedPeer=(.ok (),afterOnePacket) :=
    Prod.ext (by decide +kernel) rfl
  have hs : RekeyRun xorCrypto constantKexCrypto [] keyedPeer :=
    .other (.start defaultNameLists [] keyedPeer.2) rfl
  have hl : RekeyRun xorCrypto constantKexCrypto [.limits 1 0] limitedPeer := .limits 1 0 hs
  have hr := RekeyRun.sent hl hsd
  obtain ⟨⟨_,hp,_⟩,_,hn⟩ := rekey_accounting xorCrypto constantKexCrypto hr
  refine ⟨hp.trans ?_,hn.mpr ⟨true,.inl ⟨by decide +kernel,by decide +kernel⟩⟩⟩
  simp [packetsSince_cons,Restarts,packetsIn]

end EMSSHD
