import EMSSHD.Core.Transport.Sequence

namespace EMSSHD

open Call

namespace KexEvent

def received : KexEvent → Option Bytes
  | kexinitReceived payload => some payload
  | _ => none

def sent : KexEvent → Option Bytes
  | kexinitSent payload => some payload
  | _ => none

def hash : KexEvent → Option Bytes
  | exchangeHash hash => some hash
  | _ => none

def derivedWith : KexEvent → Option Bytes
  | derived sessionId => some sessionId
  | _ => none
end KexEvent

def currentExchange (history : List KexEvent) : List KexEvent :=
  (history.reverse.takeWhile (·≠.begun)).reverse

def kexinitsReceived (history : List KexEvent) : List Bytes :=
  (currentExchange history).filterMap KexEvent.received

def kexinitsSent (history : List KexEvent) : List Bytes :=
  (currentExchange history).filterMap KexEvent.sent

/-- Whenever a transcript is built, its two KEXINIT are the one that has been received and
the one that has been sent since the key exchange began. -/
def TranscriptsBound (history : List KexEvent) : Prop :=
  ∀ front clientKexinit serverKexinit rest,
    history=front++.hashInput clientKexinit serverKexinit::rest →
      kexinitsReceived front=[clientKexinit] ∧ kexinitsSent front=[serverKexinit]

section
variable (history : List KexEvent)
variable {e : KexEvent}

lemma currentExchange_snoc (he : e≠.begun) :
    currentExchange (history++[e])=currentExchange history++[e] := by
  unfold currentExchange
  simp [he]

lemma currentExchange_begun : currentExchange (history++[.begun])=[] := by
  unfold currentExchange
  simp

lemma kexinitsReceived_snoc (he : e≠.begun) :
    kexinitsReceived (history++[e])=kexinitsReceived history++e.received.toList := by
  unfold kexinitsReceived
  rw [currentExchange_snoc history he,filterMap_append]
  cases h : e.received <;> simp [h]

lemma kexinitsSent_snoc (he : e≠.begun) :
    kexinitsSent (history++[e])=kexinitsSent history++e.sent.toList := by
  unfold kexinitsSent
  rw [currentExchange_snoc history he,filterMap_append]
  cases h : e.sent <;> simp [h]

variable {history}

lemma transcriptsBound_snoc (h : TranscriptsBound history) (e : KexEvent)
    (he : ∀ clientKexinit serverKexinit,e=.hashInput clientKexinit serverKexinit →
      kexinitsReceived history=[clientKexinit] ∧ kexinitsSent history=[serverKexinit]) :
    TranscriptsBound (history++[e]) := by
  intro front clientKexinit serverKexinit rest hs
  rcases List.eq_nil_or_concat rest with rfl | ⟨rest',last,rfl⟩
  · obtain ⟨rfl,hl⟩ := append_inj' hs rfl
    exact he _ _ (List.singleton_inj.mp hl)
  rw [List.concat_eq_append,← cons_append,← append_assoc] at hs
  obtain ⟨hf,_⟩ := append_inj' hs rfl
  exact h _ _ _ _ hf

lemma transcriptsBound_other (h : TranscriptsBound history)
    (he : ∀ clientKexinit serverKexinit,e≠.hashInput clientKexinit serverKexinit) :
    TranscriptsBound (history++[e]) :=
  transcriptsBound_snoc h e fun c s heq => absurd heq (he c s)
end

structure KexRecord where
  history : List KexEvent
  clientKexinit : Bytes
  serverKexinit : Bytes
  sessionId : Bytes
  exchangeHash : Bytes
  inboundActive : Bool

def record (s : Peer) : KexRecord where
  history := s.1.history
  clientKexinit := s.1.clientKexinitPayload.take s.1.clientKexinitPayloadLen
  serverKexinit := s.1.serverKexinitPayload.take s.1.serverKexinitPayloadLen
  sessionId := s.1.sessionId
  exchangeHash := s.1.exchangeHash
  inboundActive := s.1.transport.inbound.active

section
variable (C : CryptoApi) (K : KexCrypto)

lemma record_nextFill : (onEndpoint nextFill).Leaves record := by
  intro s
  obtain ⟨rng,w,hr⟩ := fill_run s
  rw [hr]
  rfl

lemma record_onEndpoint {α : Type} {c : Call Endpoint Err α}
    (h : ∀ e,(c.run e).2.1.inbound.active=e.1.inbound.active) : (onEndpoint c).Leaves record := by
  intro s
  simp only [record,onEndpoint,h]

lemma record_noteMac (outbound : Bool) : (noteMac outbound).Leaves record := by
  intro s
  simp only [noteMac,onSession,run_modify]
  split_ifs <;> rfl

lemma record_sendProtected (payload : Bytes) : (sendProtected C payload).Leaves record := by
  refine .bind (record_noteMac true) fun _ => .bind .get fun _ => ?_
  have hs : (onEndpoint (sshTransportSendProtectedPayload C payload)).Leaves record :=
    record_onEndpoint fun e => by rw [(sendProtectedPayload_counted C payload e).inbound]
  exact .bind hs.status fun _ => .bind (fun _ => rfl) fun _ => .lift _

lemma receiveProtectedPayload_active (capacity : Nat) (e : Endpoint) :
    ((sshTransportReceiveProtectedPayload C capacity).run e).2.1.inbound.active=
      e.1.inbound.active := by
  have h := receiveProtectedPayload_counted C capacity e
  by_cases ht : packetTaken ((sshTransportReceiveProtectedPayload C capacity).run e).1
  · exact advanced_active (h.taken ht).1
  · rw [h.left ht]

lemma record_receiveProtected (capacity : Nat) : (receiveProtected C capacity).Leaves record := by
  have hr : (onEndpoint (sshTransportReceiveProtectedPayload C capacity)).Leaves record :=
    record_onEndpoint (receiveProtectedPayload_active C capacity)
  refine .bind (record_noteMac false) fun _ => .bind hr.status fun _ => ?_
  exact .bind (fun _ => rfl) fun _ => .lift _

lemma record_takePlainPacket : takePlainPacket.Leaves record :=
  .bind (fun _ => rfl) fun _ => .bind (.require _ _) fun _ => .bind (fun _ => rfl) fun _ => .lift _

lemma record_receiveTransportPayload (capacity : Nat) :
    (receiveTransportPayload C capacity).Leaves record := by
  refine .bind .get fun _ => .ite (record_receiveProtected C capacity) ?_
  refine .bind record_takePlainPacket fun _ => .bind (fun _ => rfl) fun _ => ?_
  exact .bind (.require _ _) fun _ => .bind (fun _ => rfl) fun _ => .pure _

lemma record_sendTransportPayload (payload : Bytes) :
    (sendTransportPayload C payload).Leaves record := by
  refine .bind .get fun _ => .ite (record_sendProtected C payload) ?_
  refine .bind record_nextFill fun _ => .bind (.lift _) fun _ => ?_
  exact .bind (fun _ => rfl) fun _ => .bind (fun _ => rfl) fun _ _ => rfl

lemma record_receiveKexEcdhInit : (sshTransportReceiveKexEcdhInit C).Leaves record :=
  .bind (record_receiveTransportPayload C _) fun _ => .bind (.lift _) fun _ _ => rfl

lemma record_computeSecret : (computeSecret K).Leaves record := by
  have hk : kexGenerateKeypair.Leaves record := by
    intro s
    obtain ⟨r,keypairs,hr⟩ := kexGenerateKeypair_run s
    rw [hr]
    rfl
  refine .bind hk fun _ => .bind (fun _ => rfl) fun _ => .bind .get fun _ => ?_
  refine .bind (.lift _) fun _ => .bind (fun _ => rfl) fun _ => ?_
  exact .bind (.lift _) fun _ _ => rfl

lemma record_sendExtInfo (sigAlgs : Bytes) : (sshTransportSendExtInfo C sigAlgs).Leaves record := by
  refine .bind .get fun _ => .onlyIf (.bind (.require _ _) fun _ => ?_)
  exact .bind (.lift _) fun _ => record_sendProtected C _
end

/-- A key exchange under way has received and sent these KEXINIT, and it has them in store. -/
structure KexExchanged (theirs ours : List Bytes) (k : KexRecord) : Prop where
  bound : TranscriptsBound k.history
  received : kexinitsReceived k.history=theirs
  sent : kexinitsSent k.history=ours
  client : ∀ payload∈theirs,k.clientKexinit=payload
  server : ∀ payload∈ours,k.serverKexinit=payload

section
variable (C : CryptoApi) (K : KexCrypto) {s : Peer} {k : KexRecord} {theirs ours : List Bytes}

lemma exchanged_begun (h : TranscriptsBound k.history) :
    KexExchanged [] [] {k with history := k.history++[.begun]} where
  bound := transcriptsBound_other h nofun
  received := by rw [kexinitsReceived,currentExchange_begun,filterMap_nil]
  sent := by rw [kexinitsSent,currentExchange_begun,filterMap_nil]
  client := nofun
  server := nofun

lemma KexExchanged.sends (h : KexExchanged theirs [] k) :
    KexExchanged theirs [k.serverKexinit]
      {k with history := k.history++[.kexinitSent k.serverKexinit]} where
  bound := transcriptsBound_other h.bound nofun
  received := by
    have hs := kexinitsReceived_snoc k.history (e := .kexinitSent k.serverKexinit) nofun
    rw [hs,h.received]
    exact append_nil _
  sent := by
    have hs := kexinitsSent_snoc k.history (e := .kexinitSent k.serverKexinit) nofun
    rw [hs,h.sent]
    rfl
  client := h.client
  server payload hp := (mem_singleton.mp hp).symm

lemma KexExchanged.receives (h : KexExchanged [] ours k) (payload : Bytes) :
    KexExchanged [payload] ours
      {k with history := k.history++[.kexinitReceived payload],clientKexinit := payload} where
  bound := transcriptsBound_other h.bound nofun
  received := by
    have hs := kexinitsReceived_snoc k.history (e := .kexinitReceived payload) nofun
    rw [hs,h.received]
    rfl
  sent := by
    have hs := kexinitsSent_snoc k.history (e := .kexinitReceived payload) nofun
    rw [hs,h.sent]
    exact append_nil _
  client p hp := (mem_singleton.mp hp).symm
  server := h.server

variable {clientKexinit serverKexinit : Bytes}

lemma KexExchanged.hashes (h : KexExchanged [clientKexinit] [serverKexinit] k) :
    TranscriptsBound (k.history++[.hashInput k.clientKexinit k.serverKexinit]) := by
  refine transcriptsBound_snoc h.bound _ fun c s heq => ?_
  obtain ⟨rfl,rfl⟩ := KexEvent.hashInput.inj heq
  rw [h.received,h.sent,h.client _ (mem_singleton_self _),h.server _ (mem_singleton_self _)]
  exact ⟨rfl,rfl⟩

def Bound (s : Peer) : Prop := TranscriptsBound s.1.history

lemma KexExchanged.bound_of {t : Peer} (h : KexExchanged theirs ours k) (ht : record t=k) :
    Bound t := by
  have hh : t.1.history=k.history := congrArg KexRecord.history ht
  unfold Bound
  rw [hh]
  exact h.bound

lemma sendKexinit_exchanged (h : KexExchanged theirs [] (record s)) :
    (sshTransportSendKexinit C).Ensures s
      (Outcome (fun _ t => ∃ payload,KexExchanged theirs [payload] (record t))
        (fun _ t => Bound t)) := by
  refine .bind (record_nextFill.ensures rfl) (fun _ t ht => ?_) (fun _ _ ht => h.bound_of ht)
  rw [← ht] at h
  refine .bindLift (fun _ _ => ?_) (fun _ _ => h.bound)
  refine .bindLift (fun cookie _ => ?_) (fun _ _ => h.bound)
  apply bindGet
  generalize (sshKexinitEncode cookie.toList t.1.serverAlgorithms false).run
    (sshBufferInit t.1.serverKexinitPayload)=encoded
  apply bindModify
  refine .bindLift (fun _ _ => ?_) (fun _ _ => h.bound)
  apply bindModify
  have hs : KexExchanged theirs [] {record t with serverKexinit := encoded.2.contents} :=
    ⟨h.bound,h.received,h.sent,h.client,nofun⟩
  refine .bind ((record_sendTransportPayload C _).ensures rfl) (fun _ u hu => ?_)
    (fun _ _ hu => hs.bound_of hu)
  have hsn : KexExchanged theirs [(record u).serverKexinit] {record u with
      history := (record u).history++[.kexinitSent (record u).serverKexinit]} := by
    apply KexExchanged.sends
    rw [hu]
    exact hs
  have hp : (record u).serverKexinit=encoded.2.contents := by
    rw [hu]
    rfl
  rw [hp] at hsn
  exact ⟨_,hsn⟩

lemma blit_taken (dst src : Bytes) : (blit dst 0 src).take src.length=src := by
  simp [blit]

lemma processKexinitPayload_exchanged (payload : Bytes) (h : KexExchanged [] ours (record s)) :
    (processKexinitPayload payload).Ensures s
      (Outcome (fun _ t => KexExchanged [payload] ours (record t)) (fun _ t => Bound t)) := by
  refine .bindRequire (fun _ => .bindRequire (fun _ => ?_) (fun _ => h.bound)) (fun _ => h.bound)
  have hs : KexExchanged [payload] ours (record ({s.1 with
      history := s.1.history++[.kexinitReceived payload]
      clientKexinitPayload := blit s.1.clientKexinitPayload 0 payload
      clientKexinitPayloadLen := payload.length},s.2)) := by
    simpa only [record,blit_taken] using h.receives payload
  refine .bindModify (.bindModify (.bindGet (.bindLift (fun _ _ => .bindModify ?_) ?_)))
  · exact .bindLift (fun _ _ => .modify hs) fun _ _ => hs.bound
  exact fun _ _ => hs.bound

lemma receiveKexinit_exchanged (h : KexExchanged [] ours (record s)) :
    (sshTransportReceiveKexinit C).Ensures s
      (Outcome (fun _ t => ∃ payload,KexExchanged [payload] ours (record t))
        (fun _ t => Bound t)) := by
  refine .bind ((record_receiveTransportPayload C _).ensures rfl) (fun payload t ht => ?_)
    (fun _ _ ht => h.bound_of ht)
  rw [← ht] at h
  apply bindModify
  have hc : KexExchanged [] ours {record t with
      clientKexinit := (blit t.1.clientKexinitPayload 0 payload).take payload.length} :=
    ⟨h.bound,h.received,h.sent,nofun,h.server⟩
  refine (processKexinitPayload_exchanged payload hc).mono fun r t ht => ?_
  cases r with
  | ok _ => exact ⟨payload,ht⟩
  | error _ => exact ht

lemma bound_of_record {α : Type} {c : Call Peer Err α} (h : c.Leaves record) :
    Keeps Bound c := (h.of_part KexRecord.history).keeps (P := TranscriptsBound)

lemma signExchange_bound (h : KexExchanged [clientKexinit] [serverKexinit] (record s)) :
    (signExchange K).Ensures s (fun _ t => Bound t) := by
  have hb : (buildExchangeHashInput 4096).Ensures s (fun _ t => Bound t) := h.hashes
  refine .bind hb (fun input t ht => ?_) (fun _ _ ht => ht)
  have hn (hash : Bytes) : TranscriptsBound (t.1.history++[.exchangeHash hash]) :=
    transcriptsBound_other ht nofun
  refine .bindGet (.bindLift (fun hash _ => .bindModify (.bindModify ?_)) fun _ _ => ht)
  exact .bindLift (fun _ _ => .modify (hn hash)) fun _ _ => hn hash

lemma sendKexEcdhReply_bound (h : KexExchanged [clientKexinit] [serverKexinit] (record s)) :
    (sshTransportSendKexEcdhReply C K).Ensures s (fun _ t => Bound t) := by
  refine .bind ((record_computeSecret K).ensures rfl) (fun _ t ht => ?_)
    (fun _ _ ht => h.bound_of ht)
  rw [← ht] at h
  refine .bind (signExchange_bound K h) (fun _ u hu => ?_) (fun _ _ hu => hu)
  refine .bindGet (.bindLift (fun reply _ => ?_) (fun _ _ => hu))
  exact bound_of_record (record_sendTransportPayload C reply) u hu

lemma activatePacketProtection_bound (outbound : Bool) :
    Keeps Bound (activatePacketProtection K outbound) := by
  have hd (keyId : UInt8) (outLen : Nat) : Keeps Bound (deriveMaterial K keyId outLen) :=
    .bind .get fun _ => .bind (fun _ h => transcriptsBound_other h nofun) fun _ =>
      .bind (.lift _) fun _ => .bind (.require _ _) fun _ => .pure _
  have hs : Keeps Bound settleSessionId :=
    .bind .get fun _ => .onlyIf (.bind (.require _ _) fun _ _ h => h)
  refine .bind .get fun _ => .bind (.lift _) fun _ => .bind hs fun _ => ?_
  refine .bind (hd _ _) fun _ => .bind (hd _ _) fun _ => .bind (hd _ _) fun _ => ?_
  exact .bind (.lift _) fun _ _ h => h

lemma sendNewkeys_bound : Keeps Bound (sshTransportSendNewkeys C K) :=
  .bind (bound_of_record (record_sendTransportPayload C _)) fun _ =>
    activatePacketProtection_bound K true

lemma receiveNewkeys_bound : Keeps Bound (sshTransportReceiveNewkeys C K) :=
  .bind (bound_of_record (record_receiveTransportPayload C _)) fun _ => .bind (.lift _) fun _ =>
    activatePacketProtection_bound K false

lemma exchangeTail_bound (h : KexExchanged [clientKexinit] [serverKexinit] (record s))
    {rest : Call Peer Err Unit} (hr : Keeps Bound rest) :
    (do
      sshTransportReceiveKexEcdhInit C
      sshTransportSendKexEcdhReply C K
      sshTransportSendNewkeys C K
      rest).Ensures s (fun _ t => Bound t) := by
  refine .bind ((record_receiveKexEcdhInit C).ensures rfl) (fun _ t ht => ?_)
    (fun _ _ ht => h.bound_of ht)
  rw [← ht] at h
  refine .bind (sendKexEcdhReply_bound C K h) (fun _ u hu => ?_) (fun _ _ hu => hu)
  exact Keeps.bind (sendNewkeys_bound C K) (fun _ => hr) u hu

lemma peerRekey_bound (payload : Bytes) (h : KexExchanged [] [] (record s)) :
    (peerRekey C K payload).Ensures s (fun _ t => Bound t) := by
  refine .bind (processKexinitPayload_exchanged payload h) (fun _ t ht => ?_) (fun _ _ ht => ht)
  refine .bind (sendKexinit_exchanged C ht) (fun _ u hu => ?_) (fun _ _ hu => hu)
  obtain ⟨sent,hs⟩ := hu
  exact exchangeTail_bound C K hs (receiveNewkeys_bound C K)

lemma handlePeerRekey_bound (payload : Bytes) :
    Keeps Bound (sshTransportHandlePeerRekey C K payload) := by
  intro s h
  show (sshTransportHandlePeerRekey C K payload).Ensures s (fun _ t => Bound t)
  refine .bindGet (.bindRequire (fun _ => ?_) (fun _ => h))
  apply bindModify
  apply bindModify
  have hr := peerRekey_bound C K payload (s := ({s.1 with
    history := s.1.history++[.begun],rekeyInProgress := true},s.2))
    (exchanged_begun (k := record s) h)
  exact .bind (P := fun _ t => Bound t) (hr.status fun _ _ ht => ht) (fun _ _ ht => ht)
    (fun _ _ ht => ht)

lemma receiveSkipping_bound (capacity : Nat) :
    Keeps Bound (receiveSkippingIgnorable C K capacity) :=
  receiveSkippingLoop_keeps C K
    (.bind (bound_of_record (record_receiveProtected C _)) fun _ => .bind (fun _ h => h) fun _ =>
      .pure _) (handlePeerRekey_bound C K) 8

lemma transportSetup_bound (options : SetupOptions) :
    Keeps Bound (sshServerRunTransportSetup C K options) := by
  intro s h
  show (sshServerRunTransportSetup C K options).Ensures s (fun _ t => Bound t)
  apply bindModify
  refine .bindLift (fun lines _ => ?_) (fun _ _ => h)
  apply bindModify
  apply bindModify
  have hb : KexExchanged [] [] {record s with history := s.1.history++[.begun]} :=
    exchanged_begun (k := record s) h
  refine .bind (sendKexinit_exchanged C hb) (fun _ t ht => ?_) (fun _ _ ht => ht)
  obtain ⟨sent,hs⟩ := ht
  refine .bind (receiveKexinit_exchanged C hs) (fun _ u hu => ?_) (fun _ _ hu => hu)
  obtain ⟨received,hr⟩ := hu
  refine exchangeTail_bound C K hr (.bind ?_ fun _ => receiveNewkeys_bound C K)
  exact bound_of_record (record_sendExtInfo C options.signatureAlgorithms)
end

def exchangeHashes (history : List KexEvent) : List Bytes := history.filterMap KexEvent.hash
def derivationIds (history : List KexEvent) : List Bytes := history.filterMap KexEvent.derivedWith

structure KexIdentity where
  sessionId : Bytes
  exchangeHash : Bytes
  inboundActive : Bool
  hashes : List Bytes
  derivations : List Bytes

def KexRecord.identity (k : KexRecord) : KexIdentity where
  sessionId := k.sessionId
  exchangeHash := k.exchangeHash
  inboundActive := k.inboundActive
  hashes := exchangeHashes k.history
  derivations := derivationIds k.history

def identity (s : Peer) : KexIdentity := (record s).identity

/-- The session id is set, to the first exchange hash. -/
structure SettledId (id : Bytes) (k : KexIdentity) : Prop where
  nonempty : id≠[]
  sessionId : k.sessionId=id
  first : k.hashes.head?=some id
  derivations : ∀ used∈k.derivations,used=id

/-- The session id is not set; no key has been derived. -/
structure Unset (k : KexIdentity) : Prop where
  sessionId : k.sessionId=[]
  derivations : k.derivations=[]
  inactive : k.inboundActive=false

section
variable (C : CryptoApi) (K : KexCrypto) {s : Peer} {id : Bytes}
variable {α : Type}

lemma identity_of_record {c : Call Peer Err α} (h : c.Leaves record) :
    c.Leaves identity := h.of_part KexRecord.identity

lemma identity_noteKex {e : KexEvent} (hh : e.hash=none) (hd : e.derivedWith=none) :
    (noteKex e).Leaves identity := by
  intro s
  simp [identity,KexRecord.identity,record,noteKex,onSession,exchangeHashes,derivationIds,hh,hd]

lemma kexSteps_identity (P : KexIdentity → Prop) : KexSteps C fun s => P (identity s) where
  change {s t} ht h := by
    have hi : identity t=identity s := congrArg (fun k => (⟨k.2.2.2.1,k.2.2.2.2,
      k.1.inbound.active,exchangeHashes k.2.2.1,derivationIds k.2.2.1⟩ : KexIdentity)) ht
    rwa [hi]
  note {e} he := by
    apply Leaves.keeps
    cases e with
    | exchangeHash hash => exact absurd rfl (he hash).1
    | derived id => exact absurd rfl (he id).2
    | _ => exact identity_noteKex rfl rfl
  send payload := (identity_of_record (record_sendTransportPayload C payload)).keeps

lemma identity_noteHash (hash : Bytes) (s : Peer) :
    identity ((noteKex (.exchangeHash hash)).run s).2=
      {identity s with hashes := (identity s).hashes++[hash]} := by
  simp [identity,KexRecord.identity,record,noteKex,onSession,exchangeHashes,derivationIds,
    KexEvent.hash,KexEvent.derivedWith]

lemma identity_noteDerived (used : Bytes) (s : Peer) :
    identity ((noteKex (.derived used)).run s).2=
      {identity s with derivations := (identity s).derivations++[used]} := by
  simp [identity,KexRecord.identity,record,noteKex,onSession,exchangeHashes,derivationIds,
    KexEvent.hash,KexEvent.derivedWith]

def KeepsId (id : Bytes) (s : Peer) : Prop := SettledId id (identity s)

lemma keepsId_of_record {c : Call Peer Err α} (h : c.Leaves record) :
    Keeps (KeepsId id) c := (identity_of_record h).keeps (P := SettledId id)

lemma signExchange_keepsId : Keeps (KeepsId id) (signExchange K) := by
  have hb : (buildExchangeHashInput 4096).Leaves identity :=
    .bind .get fun _ => .bind (identity_noteKex rfl rfl) fun _ => .lift _
  refine .bind (hb.keeps (P := SettledId id)) fun _ => .bind .get fun _ => .bind (.lift _) fun hash => ?_
  refine .bind (fun s h => ?_) fun _ => .bind (fun _ h => ?_) fun _ => .bind (.lift _) fun _ s h => ?_
  · show SettledId id _
    rw [identity_noteHash]
    refine ⟨h.nonempty,h.sessionId,?_,h.derivations⟩
    rw [List.head?_append,h.first]
    rfl
  · exact ⟨h.nonempty,h.sessionId,h.first,h.derivations⟩
  refine ⟨h.nonempty,?_,h.first,h.derivations⟩
  have hs : s.1.sessionId=id := h.sessionId
  have hl : ¬s.1.sessionId.length=0 := by
    rw [hs]
    exact fun hz => h.nonempty (length_eq_zero_iff.mp hz)
  show (if s.1.sessionId.length=0 then s.1.exchangeHash else s.1.sessionId)=id
  rw [if_neg hl,hs]

lemma deriveMaterial_keepsId (keyId : UInt8) (outLen : Nat) :
    Keeps (KeepsId id) (deriveMaterial K keyId outLen) := by
  intro s h
  have hn : KeepsId id ((noteKex (.derived s.1.sessionId)).run s).2 := by
    show SettledId id _
    rw [identity_noteDerived]
    refine ⟨h.nonempty,h.sessionId,h.first,fun used hu => ?_⟩
    rcases mem_append.mp hu with hold | hnw
    · exact h.derivations used hold
    rw [mem_singleton.mp hnw]
    exact h.sessionId
  show (deriveMaterial K keyId outLen).Ensures s (fun _ t => KeepsId id t)
  refine .bindGet (.bindModify (.bindLift (fun out _ => ?_) (fun _ _ => hn)))
  exact .bindRequire (fun _ => hn) (fun _ => hn)

lemma settleSessionId_keepsId : Keeps (KeepsId id) settleSessionId := by
  intro s h
  show settleSessionId.Ensures s (fun _ t => KeepsId id t)
  refine .bindGet (.onlyIf (fun he => ?_) (fun _ => h))
  have hs : s.1.sessionId=id := h.sessionId
  rw [hs] at he
  exact absurd (length_eq_zero_iff.mp he) h.nonempty

lemma activatePacketProtection_keepsId (outbound : Bool) :
    Keeps (KeepsId id) (activatePacketProtection K outbound) := by
  refine .bind .get fun _ => .bind (.lift _) fun _ => .bind settleSessionId_keepsId fun _ => ?_
  refine .bind (deriveMaterial_keepsId K _ _) fun _ => ?_
  refine .bind (deriveMaterial_keepsId K _ _) fun _ => ?_
  refine .bind (deriveMaterial_keepsId K _ _) fun _ => .bind (.lift _) fun _ s h => ?_
  exact ⟨h.nonempty,h.sessionId,h.first,h.derivations⟩

lemma sendNewkeys_keepsId : Keeps (KeepsId id) (sshTransportSendNewkeys C K) :=
  .bind (keepsId_of_record (record_sendTransportPayload C _)) fun _ =>
    activatePacketProtection_keepsId K true

lemma receiveNewkeys_keepsId : Keeps (KeepsId id) (sshTransportReceiveNewkeys C K) :=
  .bind (keepsId_of_record (record_receiveTransportPayload C _)) fun _ =>
    .bind (.lift _) fun _ => activatePacketProtection_keepsId K false

lemma handlePeerRekey_keepsId (payload : Bytes) :
    Keeps (KeepsId id) (sshTransportHandlePeerRekey C K payload) :=
  (kexSteps_identity C (SettledId id)).handlePeerRekey
    (keepsId_of_record (record_receiveKexEcdhInit C)) (signExchange_keepsId K)
    (activatePacketProtection_keepsId K true) (receiveNewkeys_keepsId C K) payload

lemma receiveSkipping_keepsId (capacity : Nat) :
    Keeps (KeepsId id) (receiveSkippingIgnorable C K capacity) :=
  receiveSkippingLoop_keeps C K
    (.bind (keepsId_of_record (record_receiveProtected C _)) fun _ =>
      .bind (fun _ h => h) fun _ => .pure _) (handlePeerRekey_keepsId C K) 8

lemma receiveProtected_inactive (capacity : Nat) (hi : s.1.transport.inbound.active=false) :
    (receiveProtected C capacity).Ensures s (fun r _ => ∀ payload,r≠.ok payload) := by
  refine .bind ((record_noteMac false).ensures rfl) (fun _ t ht => ?_) (fun _ _ _ => nofun)
  refine .bindStatus
    (.onEndpoint (receiveProtectedPayload_counted C capacity _) fun r u hc => ?_)
  apply bindModify
  apply Ensures.lift
  intro payload hp
  have ha : t.1.transport.inbound.active=true := (hc.taken (.inl ⟨payload,hp⟩)).2
  have hs : t.1.transport.inbound.active=s.1.transport.inbound.active :=
    congrArg KexRecord.inboundActive ht
  rw [hs,hi] at ha
  cases ha

lemma receiveSkipping_unset (capacity : Nat) :
    Keeps (fun s => Unset (identity s)) (receiveSkippingIgnorable C K capacity) := by
  intro s h
  show (receiveSkippingIgnorable C K capacity).Ensures s (fun _ t => Unset (identity t))
  have hr : (receiveProtected C (max capacity emsshMaxKexinitPayload)).Ensures s
      (fun r t => Unset (identity t) ∧ ∀ payload,r≠.ok payload) :=
    ⟨(identity_of_record (record_receiveProtected C _)).keeps (P := Unset) s h,
      receiveProtected_inactive C _ h.inactive⟩
  have hs : (receiveScratch C capacity).Ensures s
      (fun r t => Unset (identity t) ∧ ∀ payload,r≠.ok payload) :=
    .bind hr (fun payload _ ht => absurd rfl (ht.2 payload)) (fun _ _ ht => ⟨ht.1,nofun⟩)
  exact .bind hs (fun payload _ ht => absurd rfl (ht.2 payload)) (fun _ _ ht => ht.1)

lemma signExchange_first (h : Unset (identity s)) (hf : (identity s).hashes=[]) :
    (signExchange K).Ensures s (Outcome
      (fun _ t => (∃ id,KeepsId id t) ∨ Unset (identity t) ∧ t.1.exchangeHash=[])
      (fun _ t => Unset (identity t))) := by
  have hb : (buildExchangeHashInput 4096).Leaves identity :=
    .bind .get fun _ => .bind (identity_noteKex rfl rfl) fun _ => .lift _
  refine .bind (hb.ensures rfl) (fun input t ht => ?_) (fun _ t ht => ?_)
  swap
  · show Unset (identity t)
    rw [ht]
    exact h
  rw [← ht] at h hf
  refine .bindGet (.bindLift (fun hash _ => ?_) (fun _ _ => h))
  have hn := identity_noteHash hash t
  have hh : exchangeHashes (t.1.history++[.exchangeHash hash])=[hash] :=
    (congrArg KexIdentity.hashes hn).trans (by rw [hf]; rfl)
  have hu : derivationIds (t.1.history++[.exchangeHash hash])=[] :=
    (congrArg KexIdentity.derivations hn).trans h.derivations
  refine .bindModify (.bindModify (.bindLift (fun signature _ => ?_)
    (fun _ _ => ⟨h.sessionId,hu,h.inactive⟩)))
  apply Ensures.modify
  have he : t.1.sessionId=[] := h.sessionId
  have hs : (if t.1.sessionId.length=0 then hash else t.1.sessionId)=hash := by
    rw [he]
    rfl
  by_cases hz : hash=[]
  · exact .inr ⟨⟨hs.trans hz,hu,h.inactive⟩,hz⟩
  refine .inl ⟨hash,hz,hs,?_,fun used hus => ?_⟩
  · show (exchangeHashes (t.1.history++[.exchangeHash hash])).head?=some hash
    rw [hh]
    rfl
  have hus : used∈derivationIds (t.1.history++[.exchangeHash hash]) := hus
  rw [hu] at hus
  cases hus

def Identified (s : Peer) : Prop := Unset (identity s) ∨ ∃ id,KeepsId id s

lemma sendKexEcdhReply_first (h : Unset (identity s)) (hf : (identity s).hashes=[]) :
    (sshTransportSendKexEcdhReply C K).Ensures s (Outcome
      (fun _ t => (∃ id,KeepsId id t) ∨ Unset (identity t) ∧ t.1.exchangeHash=[])
      (fun _ t => Identified t)) := by
  refine .bind ((identity_of_record (record_computeSecret K)).ensures rfl) (fun _ t ht => ?_)
    (fun _ t ht => ?_)
  swap
  · refine .inl ?_
    rw [ht]
    exact h
  rw [← ht] at h hf
  refine .bind (signExchange_first K h hf) (fun _ u hu => ?_) (fun _ _ hu => .inl hu)
  have hi : Identified u := hu.elim .inr fun hu => .inl hu.1
  refine .bindGet (.bindLift (fun reply _ => ?_) (fun _ _ => hi))
  refine ((record_sendTransportPayload C reply).ensures rfl).mono fun r v hv => ?_
  have hs : identity v=identity u := congrArg KexRecord.identity hv
  have hn : (∃ id,KeepsId id v) ∨ Unset (identity v) ∧ v.1.exchangeHash=[] := by
    unfold KeepsId
    rw [hs,show v.1.exchangeHash=u.1.exchangeHash from congrArg KexRecord.exchangeHash hv]
    exact hu
  cases r with
  | ok _ => exact hn
  | error _ => exact hn.elim .inr fun hv => .inl hv.1

lemma activatePacketProtection_unset (outbound : Bool) (h : Unset (identity s))
    (hh : s.1.exchangeHash=[]) :
    (activatePacketProtection K outbound).Ensures s (fun r t => Unset (identity t) ∧ r≠.ok ()) := by
  refine .bindGet (.bindLift (fun sizes _ => ?_) (fun _ _ => ⟨h,by simp⟩))
  have hs : settleSessionId.run s=(.error .security,s) := by
    have he : s.1.sessionId=[] := h.sessionId
    simp [settleSessionId,run_bind,Call.onlyIf,run_require,he,hh]
  exact .of_run (run_bind_error hs) ⟨h,by simp⟩

lemma sendNewkeys_first (h : (∃ id,KeepsId id s) ∨ Unset (identity s) ∧ s.1.exchangeHash=[]) :
    (sshTransportSendNewkeys C K).Ensures s (Outcome (fun _ t => ∃ id,KeepsId id t)
      (fun _ t => Identified t)) := by
  rcases h with ⟨id,h⟩ | ⟨h,hh⟩
  · have hk : (sshTransportSendNewkeys C K).Ensures s (fun _ t => KeepsId id t) :=
      sendNewkeys_keepsId C K s h
    refine hk.mono fun r t ht => ?_
    cases r with
    | ok _ => exact ⟨id,ht⟩
    | error _ => exact .inr ⟨id,ht⟩
  refine .bind ((record_sendTransportPayload C _).ensures rfl) (fun _ t ht => ?_) (fun _ t ht => ?_)
  · have hun : Unset (identity t) := by
      rw [show identity t=identity s from congrArg KexRecord.identity ht]
      exact h
    have he : t.1.exchangeHash=[] :=
      (congrArg KexRecord.exchangeHash ht : t.1.exchangeHash=s.1.exchangeHash).trans hh
    refine (activatePacketProtection_unset K true hun he).mono fun r u hu => ?_
    cases r with
    | ok _ => exact absurd rfl hu.2
    | error _ => exact .inl hu.1
  refine .inl ?_
  rw [show identity t=identity s from congrArg KexRecord.identity ht]
  exact h

lemma transportSetup_identified (options : SetupOptions) (h : Unset (identity s))
    (hf : (identity s).hashes=[]) :
    (sshServerRunTransportSetup C K options).Ensures s (fun _ t => Identified t) := by
  have hs (t : Peer) (ht : identity t=identity s) : Identified t := by
    refine .inl ?_
    rw [ht]
    exact h
  have hl : (sshTransportSetRekeyLimits options.rekeyAfterPackets
      options.rekeyAfterBytes).Leaves identity := fun _ => rfl
  refine .bind (hl.ensures rfl) (fun _ t ht => ?_) (fun _ => hs)
  refine .bindLift (fun lines _ => ?_) (fun _ _ => hs t ht)
  apply bindModify
  refine .bind ((identity_noteKex rfl rfl).ensures ht) (fun _ t ht => ?_) (fun _ => hs)
  have hk := kexSteps_identity C (·=identity s)
  have hr : Keeps (identity ·=identity s) (sshTransportReceiveKexinit C) :=
    .bind (Leaves.keeps (P := (·=identity s)) (identity_of_record
      (record_receiveTransportPayload C _))) fun payload => .bind (fun _ => hk.change rfl) fun _ =>
      hk.processKexinitPayload payload
  refine .bind (hk.sendKexinit.ensures ht) (fun _ t ht => ?_) (fun _ => hs)
  refine .bind (hr.ensures ht) (fun _ t ht => ?_) (fun _ => hs)
  refine .bind ((identity_of_record (record_receiveKexEcdhInit C)).ensures ht) (fun _ t ht => ?_)
    (fun _ => hs)
  rw [← ht] at h hf
  refine .bind (sendKexEcdhReply_first C K h hf) (fun _ t ht => ?_) (fun _ _ ht => ht)
  refine .bind (sendNewkeys_first C K ht) (fun _ t ht => ?_) (fun _ _ ht => ht)
  obtain ⟨id,ht⟩ := ht
  have he : Keeps (KeepsId id) (sshTransportSendExtInfo C options.signatureAlgorithms) :=
    keepsId_of_record (record_sendExtInfo C _)
  exact .inr ⟨id,he.bind (fun _ => receiveNewkeys_keepsId C K) t ht⟩
end

inductive SessionOp where
  | send (payload : Bytes)
  | receive (capacity : Nat)

section
variable (C : CryptoApi) (K : KexCrypto)

def SessionOp.call : SessionOp → Call Peer Err Unit
  | send payload => sendProtected C payload
  | receive capacity => (receiveSkippingIgnorable C K capacity).ignore

def runSession : List SessionOp → Peer → Peer
  | [],s => s
  | op::ops,s => runSession ops ((op.call C K).run s).2

lemma runSession_append (ops more : List SessionOp) (s : Peer) :
    runSession C K (ops++more) s=runSession C K more (runSession C K ops s) := by
  induction ops generalizing s with
  | nil => rfl
  | cons op ops ih => exact ih _

lemma runSession_keeps {I : Peer → Prop} (h : ∀ op,Keeps I (SessionOp.call C K op))
    (ops : List SessionOp) (s : Peer) (hs : I s) : I (runSession C K ops s) := by
  induction ops generalizing s with
  | nil => exact hs
  | cons op ops ih => exact ih _ (h op s hs)

lemma op_bound (op : SessionOp) : Keeps Bound (op.call C K) := by
  cases op with
  | send payload => exact bound_of_record (record_sendProtected C payload)
  | receive capacity => exact (receiveSkipping_bound C K capacity).ignore

lemma op_keepsId (id : Bytes) (op : SessionOp) : Keeps (KeepsId id) (op.call C K) := by
  cases op with
  | send payload => exact keepsId_of_record (record_sendProtected C payload)
  | receive capacity => exact (receiveSkipping_keepsId C K capacity).ignore

lemma op_unset (op : SessionOp) : Keeps (fun s => Unset (identity s)) (op.call C K) := by
  cases op with
  | send payload => exact (identity_of_record (record_sendProtected C payload)).keeps (P := Unset)
  | receive capacity => exact (receiveSkipping_unset C K capacity).ignore

lemma op_identified (op : SessionOp) : Keeps Identified (op.call C K) := by
  intro s h
  rcases h with h | ⟨id,h⟩
  · exact .inl (op_unset C K op s h)
  · exact .inr ⟨id,op_keepsId C K id op s h⟩

def sessionAfter (serverAlgorithms : AlgorithmSet) (keypairs : List (Except Err (Bytes×Bytes)))
    (w : PlatformState) (options : SetupOptions) (ops : List SessionOp) : KexSession :=
  (runSession C K ops ((sshServerRunTransportSetup C K options).run
    (sshTransportSessionInit serverAlgorithms keypairs,w)).2).1
end

/-- Every transcript has the KEXINIT of its own key exchange; the session id is the first
exchange hash; and every key is derived with it. -/
structure KexBound (s : KexSession) : Prop where
  transcripts : TranscriptsBound s.history
  sessionId : s.sessionId≠[] → (exchangeHashes s.history).head?=some s.sessionId
  derivations : ∀ used∈derivationIds s.history,used=s.sessionId ∧ s.sessionId≠[]

lemma identified_kexBound {s : Peer} (hb : Bound s) (h : Identified s) : KexBound s.1 := by
  rcases h with h | ⟨id,h⟩
  · refine ⟨hb,fun hs => absurd h.sessionId hs,fun used hu => ?_⟩
    have hn : derivationIds s.1.history=[] := h.derivations
    rw [hn] at hu
    cases hu
  have hs : s.1.sessionId=id := h.sessionId
  refine ⟨hb,fun _ => ?_,fun used hu => ⟨?_,?_⟩⟩
  · rw [hs]
    exact h.first
  · rw [hs]
    exact h.derivations used hu
  rw [hs]
  exact h.nonempty

/-- Throughout every session, whatever the client sends and however many of its rekeys
fail: transcripts and session id are bound, and a session id that is set never changes. -/
theorem session_binding (C : CryptoApi) (K : KexCrypto) (serverAlgorithms : AlgorithmSet)
    (keypairs : List (Except Err (Bytes×Bytes))) (w : PlatformState) (options : SetupOptions)
    (ops : List SessionOp) :
    KexBound (sessionAfter C K serverAlgorithms keypairs w options ops) ∧
      ∀ more,(sessionAfter C K serverAlgorithms keypairs w options ops).sessionId≠[] →
        (sessionAfter C K serverAlgorithms keypairs w options (ops++more)).sessionId=
          (sessionAfter C K serverAlgorithms keypairs w options ops).sessionId := by
  have hbn : Bound ((sshServerRunTransportSetup C K options).run
      (sshTransportSessionInit serverAlgorithms keypairs,w)).2 := by
    apply transportSetup_bound C K options
    intro front clientKexinit serverKexinit rest hsp
    simp [sshTransportSessionInit] at hsp
  have hst : Identified ((sshServerRunTransportSetup C K options).run
      (sshTransportSessionInit serverAlgorithms keypairs,w)).2 :=
    transportSetup_identified C K options ⟨rfl,rfl,rfl⟩ rfl
  have hb := runSession_keeps C K (op_bound C K) ops _ hbn
  have hs := runSession_keeps C K (op_identified C K) ops _ hst
  refine ⟨identified_kexBound hb hs,fun more hn => ?_⟩
  rcases hs with hu | ⟨id,hid⟩
  · exact absurd hu.sessionId hn
  have hl := runSession_keeps C K (op_keepsId C K id) more _ hid
  rw [← runSession_append] at hl
  exact (hl.sessionId).trans hid.sessionId.symm

end EMSSHD
