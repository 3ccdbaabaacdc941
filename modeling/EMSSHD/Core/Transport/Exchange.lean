import EMSSHD.Core.Kex
import EMSSHD.Core.Transport.Session
import EMSSHD.Framework.Invariant

namespace EMSSHD

def sshMsgNewkeys : UInt8 := 21
def sshMsgKexEcdhInit : UInt8 := 30
def sshMsgKexEcdhReply : UInt8 := 31
def sshMsgExtInfo : UInt8 := 7
def emsshMaxKexReplyPayload : Nat := 2048
def emsshMaxExtInfoPayload : Nat := 256

/-- The part of ssh_crypto_api_t that a key exchange calls. -/
structure KexCrypto where
  kexComputeSharedSecret : (algorithm : StringView) → (privateKey publicKey : Bytes) →
    Except Err Bytes
  hostkeyPublic : (algorithm : StringView) → Except Err Bytes
  hashExchange : (algorithm : StringView) → (input : Bytes) → Except Err Bytes
  hostkeySign : (algorithm : StringView) → (hash : Bytes) → Except Err Bytes
  deriveKey : (algorithm : StringView) → (sharedSecret exchangeHash sessionId : Bytes) →
    (keyId : UInt8) → (outLen : Nat) → Except Err Bytes

inductive KexEvent where
  | begun
  | kexinitReceived (payload : Bytes)
  | kexinitSent (payload : Bytes)
  | hashInput (clientKexinit serverKexinit : Bytes)
  | exchangeHash (hash : Bytes)
  | derived (sessionId : Bytes)
  deriving DecidableEq

/-- A call of mac_compute for a packet: the sequence number it is given, and how many
packets have gone before in its direction. -/
structure MacCall where
  outbound : Bool
  sequence : UInt32
  before : Nat
  deriving DecidableEq

structure PacketLog where
  sent : Nat := 0
  received : Nat := 0
  macs : List MacCall := []
  writeFailed : Bool := false
  deriving DecidableEq

/-- The session as a key exchange sees it. The arrays for the two KEXINIT are kept whole,
with their lengths apart; the keys that the generator has in store are part of the platform.
No function reads history and packets. -/
structure KexSession where
  transport : TransportSession
  serverAlgorithms : AlgorithmSet
  clientIdentification : Bytes
  serverIdentification : Bytes
  clientKexinitPayload : Bytes
  clientKexinitPayloadLen : Nat
  serverKexinitPayload : Bytes
  serverKexinitPayloadLen : Nat
  rekeyInProgress : Bool
  clientSupportsExtInfo : Bool
  negotiation : Negotiation
  clientKexPublicKey : Bytes
  serverKexPublicKey : Bytes
  serverKexPrivateKey : Bytes
  sharedSecret : Bytes
  exchangeHash : Bytes
  sessionId : Bytes
  serverHostKey : Bytes
  serverSignature : Bytes
  lastReceivedMessageId : Option UInt8
  keypairs : List (Except Err (Bytes×Bytes))
  history : List KexEvent
  packets : PacketLog

abbrev Peer := KexSession×PlatformState

/-- What ssh_transport_session_init leaves behind. -/
def sshTransportSessionInit (serverAlgorithms : AlgorithmSet)
    (keypairs : List (Except Err (Bytes×Bytes))) : KexSession where
  transport := {
    inbound := sshPacketProtectionInit
    outbound := sshPacketProtectionInit
    inboundSequence := 0
    outboundSequence := 0
    rekeyAfterPackets := 0
    rekeyAfterBytes := 0
    inboundRekeyPackets := 0
    outboundRekeyPackets := 0
    inboundRekeyBytes := 0
    outboundRekeyBytes := 0
    rekeyNeeded := false }
  serverAlgorithms := serverAlgorithms
  clientIdentification := []
  serverIdentification := []
  clientKexinitPayload := List.replicate emsshMaxKexinitPayload 0
  clientKexinitPayloadLen := 0
  serverKexinitPayload := List.replicate emsshMaxKexinitPayload 0
  serverKexinitPayloadLen := 0
  rekeyInProgress := false
  clientSupportsExtInfo := false
  negotiation _ := none
  clientKexPublicKey := []
  serverKexPublicKey := []
  serverKexPrivateKey := []
  sharedSecret := []
  exchangeHash := []
  sessionId := []
  serverHostKey := []
  serverSignature := []
  lastReceivedMessageId := none
  keypairs := keypairs
  history := []
  packets := {}

def sshKexinitEncode (cookie : Bytes) (algorithms : AlgorithmSet) (firstKexPacketFollows : Bool) :
    Encoder := do
  sshBufferPutU8 sshMsgKexinit
  sshBufferPutBytes cookie
  putNameLists NameListIndex.all
  sshBufferPutBool firstKexPacketFollows
  sshBufferPutU32 0
where
  putNameLists : List NameListIndex → Encoder
    | [] => pure ()
    | index::rest => do
      Call.require (sshNameListIsValid (algorithms index)=true) .invalidArgument
      sshBufferPutCstring ((algorithms index).getD [])
      putNameLists rest

def sshBufferPutMpintPositive (data : Bytes) : Encoder := do
  Call.require (data.length≤uint32Max) .invalidArgument
  let digits := data.dropWhile (·=0)
  match digits with
  | [] => sshBufferPutU32 0
  | first::_ =>
    if 128≤first then do
      Call.require (digits.length<uint32Max) .invalidArgument
      sshBufferPutU32 (digits.length+1)
      sshBufferPutU8 0
      sshBufferPutBytes digits
    else sshBufferPutString digits

def sshKexEcdhInitDecode : Decoder StringView Unit := do
  let messageId ← Call.onFst sshBufferGetU8
  Call.require (messageId=sshMsgKexEcdhInit) .malformedPacket
  readInto sshBufferGetStringView fun v _ => v
  let s ← Call.get
  Call.require ((s.2.getD []).length≠0 ∧ (s.2.getD []).length≤emsshMaxKexPublicKey)
    .malformedPacket
  expectEnd .malformedPacket

def sshKexNewkeysDecode : Decoder Unit Unit := do
  let messageId ← Call.onFst sshBufferGetU8
  Call.require (messageId=sshMsgNewkeys) .malformedPacket
  expectEnd .malformedPacket

def sshKexEcdhReplyEncode (serverHostKey serverPublicKey signature : Bytes) : Encoder := do
  Call.require ((serverHostKey.length≠0 ∧ serverHostKey.length≤emsshMaxHostKeyBlob) ∧
    (serverPublicKey.length≠0 ∧ serverPublicKey.length≤emsshMaxKexPublicKey) ∧
    (signature.length≠0 ∧ signature.length≤emsshMaxSignature)) .invalidArgument
  sshBufferPutU8 sshMsgKexEcdhReply
  sshBufferPutString serverHostKey
  sshBufferPutString serverPublicKey
  sshBufferPutString signature

def extInfoEncode (signatureAlgorithms : Bytes) : Encoder := do
  sshBufferPutU8 sshMsgExtInfo
  sshBufferPutU32 (if signatureAlgorithms=[] then 0 else 1)
  Call.onlyIf (signatureAlgorithms≠[]) (sshBufferPutCstring (cstr "server-sig-algs"))
  Call.onlyIf (signatureAlgorithms≠[]) (sshBufferPutCstring signatureAlgorithms)

section
variable {α : Type}

def onEndpoint (c : Call Endpoint Err α) : Call Peer Err α :=
  ⟨fun s =>
    let r := c.run (s.1.transport,s.2)
    (r.1,({s.1 with transport := r.2.1},r.2.2))⟩

def onSession (f : KexSession → KexSession) : Call Peer Err Unit :=
  Call.modify fun s => (f s.1,s.2)

def noteKex (e : KexEvent) : Call Peer Err Unit :=
  onSession fun s => {s with history := s.history++[e]}

def onPackets (f : PacketLog → PacketLog) : Call Peer Err Unit :=
  onSession fun s => {s with packets := f s.packets}

def noteMac (outbound : Bool) : Call Peer Err Unit :=
  onSession fun s =>
    let p := if outbound then s.transport.outbound else s.transport.inbound
    if p.active then
      let count := if outbound then s.packets.sent else s.packets.received
      {s with packets := {s.packets with macs := s.packets.macs++[⟨outbound,p.sequence,count⟩]}}
    else s
end

section
variable (C : CryptoApi)

def writeFails (payload : Bytes) (s : Endpoint) : Bool :=
  match (nextFill >>= encodeOutbound C (emsshMaxPacketSize+4+emsshMaxMac) payload).run s with
  | (.ok packet,t) => ((netWriteAll packet).run t.2).1≠.ok ()
  | (.error _,_) => false

def sendProtected (payload : Bytes) : Call Peer Err Unit := do
  noteMac true
  let s ← Call.get
  let status ← Call.status (onEndpoint (sshTransportSendProtectedPayload C payload))
  onPackets fun packets => {packets with
    sent := if status=.ok () then packets.sent+1 else packets.sent
    writeFailed := packets.writeFailed || writeFails C payload (s.1.transport,s.2)}
  Call.lift status

/-- A packet has been received when its payload is returned or said to be too large. -/
def packetTaken (status : Except Err Bytes) : Prop :=
  (∃ payload,status=.ok payload) ∨ status=.error .bufferTooSmall

instance (status : Except Err Bytes) : Decidable (packetTaken status) :=
  match status with
  | .ok payload => isTrue (.inl ⟨payload,rfl⟩)
  | .error e => decidable_of_iff (e=.bufferTooSmall) (by simp [packetTaken])

def receiveProtected (payloadCapacity : Nat) : Call Peer Err Bytes := do
  noteMac false
  let status ← Call.status (onEndpoint (sshTransportReceiveProtectedPayload C payloadCapacity))
  onPackets fun packets => {packets with
    received := if packetTaken status then packets.received+1 else packets.received}
  Call.lift status

/-- The first part of receive_plain_packet: take a packet off the stream. -/
def takePlainPacket : Call Peer Err Bytes := do
  let header ← Call.onSnd (netReadExact 4)
  let packetLength := beValue header
  Call.require (packetLength≠0 ∧ packetLength≤emsshMaxPacketSize) .malformedPacket
  let rest ← Call.onSnd (netReadExact packetLength)
  Call.lift (sshPacketDecodePlain (header++rest))

def receivePlainPacket (payloadCapacity : Nat) : Call Peer Err Bytes := do
  let payload ← takePlainPacket
  onPackets fun packets => {packets with received := packets.received+1}
  Call.require (payload.length≤payloadCapacity) .bufferTooSmall
  onSession fun s => {s with transport :=
    {s.transport with inboundSequence := s.transport.inboundSequence+1}}
  pure payload

def sendPlainPacket (payload : Bytes) : Call Peer Err Unit := do
  let rng ← onEndpoint nextFill
  let packet ← Call.lift (sshPacketEncodePlain (emsshMaxPacketSize+4+emsshMaxMac) payload
    sshPacketMinBlockSize rng)
  Call.onSnd (netWriteAll packet)
  onPackets fun packets => {packets with sent := packets.sent+1}
  onSession fun s => {s with transport :=
    {s.transport with outboundSequence := s.transport.outboundSequence+1}}

def sendTransportPayload (payload : Bytes) : Call Peer Err Unit := do
  let s ← Call.get
  if s.1.transport.outbound.active then sendProtected C payload else sendPlainPacket payload

def receiveTransportPayload (payloadCapacity : Nat) : Call Peer Err Bytes := do
  let s ← Call.get
  if s.1.transport.inbound.active then receiveProtected C payloadCapacity
  else receivePlainPacket payloadCapacity
end

section
variable (K : KexCrypto)

def viewAlgorithmSize (view : StringView) (algorithm : Bytes) (value : Nat) : Nat :=
  if view=some algorithm then value else 0

structure PacketSizes where
  cipherKeyLen : Nat
  cipherIvLen : Nat
  blockSize : Nat
  macKeyLen : Nat
  macLen : Nat

def negotiatedPacketSizes (negotiation : Negotiation) : Except Err PacketSizes :=
  let cipher := negotiation .encryptionClientToServer
  let mac := negotiation .macClientToServer
  let sizes : PacketSizes := {
    cipherKeyLen := viewAlgorithmSize cipher (cstr "aes128-ctr") 16
    cipherIvLen := viewAlgorithmSize cipher (cstr "aes128-ctr") 16
    blockSize := viewAlgorithmSize cipher (cstr "aes128-ctr") 16
    macKeyLen := viewAlgorithmSize mac (cstr "hmac-sha2-256") 32
    macLen := viewAlgorithmSize mac (cstr "hmac-sha2-256") 32 }
  if sizes.cipherKeyLen=0 ∨ sizes.cipherIvLen=0 ∨ sizes.blockSize=0 ∨ sizes.macKeyLen=0 ∨
      sizes.macLen=0 then .error .unsupported
  else .ok sizes

def deriveMaterial (keyId : UInt8) (outLen : Nat) : Call Peer Err Bytes := do
  let s ← Call.get
  noteKex (.derived s.1.sessionId)
  let out ← orPlatform (K.deriveKey (s.1.negotiation .kexAlgorithms) s.1.sharedSecret
    s.1.exchangeHash s.1.sessionId keyId outLen)
  Call.require (out.length=outLen) .platform
  pure out

def resetRekeyDirection (outbound : Bool) (s : TransportSession) : TransportSession :=
  updateRekeyNeeded (if outbound then {s with outboundRekeyPackets := 0,outboundRekeyBytes := 0}
    else {s with inboundRekeyPackets := 0,inboundRekeyBytes := 0})

def installProtection (outbound : Bool) (p : Protection) (s : TransportSession) :
    TransportSession :=
  resetRekeyDirection outbound (if outbound
    then {s with outbound := {p with sequence := s.outboundSequence}}
    else {s with inbound := {p with sequence := s.inboundSequence}})

def settleSessionId : Call Peer Err Unit := do
  let s ← Call.get
  Call.onlyIf (s.1.sessionId.length=0) do
    Call.require (s.1.exchangeHash.length≠0 ∧ s.1.exchangeHash.length≤emsshMaxExchangeHash)
      .security
    onSession fun s => {s with sessionId := s.exchangeHash}

def activatePacketProtection (outbound : Bool) : Call Peer Err Unit := do
  let s ← Call.get
  let sizes ← Call.lift (negotiatedPacketSizes s.1.negotiation)
  settleSessionId
  -- the letters B, D, F and A, C, E
  let cipherIv ← deriveMaterial K (if outbound then 66 else 65) sizes.cipherIvLen
  let cipherKey ← deriveMaterial K (if outbound then 68 else 67) sizes.cipherKeyLen
  let macKey ← deriveMaterial K (if outbound then 70 else 69) sizes.macKeyLen
  let protection ← Call.lift (sshPacketProtectionSet
    (s.1.negotiation (if outbound then .encryptionServerToClient else .encryptionClientToServer))
    (s.1.negotiation (if outbound then .macServerToClient else .macClientToServer))
    cipherKey cipherIv macKey sizes.blockSize sizes.macLen)
  onSession fun s => {s with transport := installProtection outbound protection s.transport}
end

variable (C : CryptoApi) (K : KexCrypto)

def sshTransportSendKexinit : Call Peer Err Unit := do
  let rng ← onEndpoint nextFill
  let fill ← Call.lift (rng.elim (.error .platform) .ok)
  let cookie ← Call.lift (fill sshKexCookieLen)
  let s ← Call.get
  let encoded := (sshKexinitEncode cookie.toList s.1.serverAlgorithms false).run
    (sshBufferInit s.1.serverKexinitPayload)
  onSession fun s => {s with serverKexinitPayload := encoded.2.data}
  Call.lift encoded.1
  onSession fun s => {s with serverKexinitPayloadLen := encoded.2.len}
  sendTransportPayload C encoded.2.contents
  noteKex (.kexinitSent encoded.2.contents)

def negotiationLeft (client : Kexinit) (server : AlgorithmSet) :
    List NameListIndex → Negotiation → Negotiation
  | [],negotiation => negotiation
  | index::rest,negotiation => match negotiateOne client server index with
    | .error _ => negotiation
    | .ok selected => negotiationLeft client server rest
      (Function.update negotiation index selected)

def processKexinitPayload (payload : Bytes) : Call Peer Err Unit := do
  Call.require (payload.length≠0) .invalidArgument
  Call.require (payload.length≤emsshMaxKexinitPayload) .bufferTooSmall
  noteKex (.kexinitReceived payload)
  onSession fun s => {s with
    clientKexinitPayload := blit s.clientKexinitPayload 0 payload
    clientKexinitPayloadLen := payload.length}
  let s ← Call.get
  let client ← Call.lift (kexinitOf (s.1.clientKexinitPayload.take s.1.clientKexinitPayloadLen))
  onSession fun s => {s with
    negotiation := negotiationLeft client s.serverAlgorithms NameListIndex.all fun _ => none}
  let _ ← Call.lift (sshKexNegotiate client (some s.1.serverAlgorithms))
  onSession fun s => {s with
    clientSupportsExtInfo := nameListContains (client.nameLists .kexAlgorithms) (cstr "ext-info-c")}

def sshTransportReceiveKexinit : Call Peer Err Unit := do
  let payload ← receiveTransportPayload C emsshMaxKexinitPayload
  onSession fun s => {s with
    clientKexinitPayload := blit s.clientKexinitPayload 0 payload
    clientKexinitPayloadLen := payload.length}
  processKexinitPayload payload

def sshTransportReceiveKexEcdhInit : Call Peer Err Unit := do
  let payload ← receiveTransportPayload C (emsshMaxKexPublicKey+16)
  let clientPublicKey ← Call.lift (decodedBy sshKexEcdhInitDecode none payload)
  onSession fun s => {s with clientKexPublicKey := clientPublicKey.getD []}

def exchangeHashInputEncode (s : KexSession) : Encoder := do
  sshBufferPutString s.clientIdentification
  sshBufferPutString s.serverIdentification
  sshBufferPutString (s.clientKexinitPayload.take s.clientKexinitPayloadLen)
  sshBufferPutString (s.serverKexinitPayload.take s.serverKexinitPayloadLen)
  sshBufferPutString s.serverHostKey
  sshBufferPutString s.clientKexPublicKey
  sshBufferPutString s.serverKexPublicKey
  sshBufferPutMpintPositive s.sharedSecret

def buildExchangeHashInput (outCapacity : Nat) : Call Peer Err Bytes := do
  let s ← Call.get
  noteKex (.hashInput (s.1.clientKexinitPayload.take s.1.clientKexinitPayloadLen)
    (s.1.serverKexinitPayload.take s.1.serverKexinitPayloadLen))
  Call.lift (encodedBy (exchangeHashInputEncode s.1) outCapacity)

def kexGenerateKeypair : Call Peer Err (Bytes×Bytes) :=
  ⟨fun s => match s.1.keypairs with
    | [] => (.error .platform,s)
    | r::keypairs => (r,({s.1 with keypairs := keypairs},s.2))⟩

def computeSecret : Call Peer Err Unit := do
  let keypair ← kexGenerateKeypair
  onSession fun s => {s with
    serverKexPublicKey := keypair.1
    serverKexPrivateKey := keypair.2}
  let s ← Call.get
  let sharedSecret ← Call.lift (K.kexComputeSharedSecret (s.1.negotiation .kexAlgorithms)
    s.1.serverKexPrivateKey s.1.clientKexPublicKey)
  onSession fun s => {s with sharedSecret := sharedSecret}
  let serverHostKey ← Call.lift (K.hostkeyPublic (s.1.negotiation .serverHostKeyAlgorithms))
  onSession fun s => {s with serverHostKey := serverHostKey}

def signExchange : Call Peer Err Unit := do
  let input ← buildExchangeHashInput 4096
  let s ← Call.get
  let hash ← Call.lift (K.hashExchange (s.1.negotiation .kexAlgorithms) input)
  noteKex (.exchangeHash hash)
  onSession fun s => {s with exchangeHash := hash}
  let signature ← Call.lift (K.hostkeySign (s.1.negotiation .serverHostKeyAlgorithms) hash)
  onSession fun s => {s with
    serverSignature := signature
    sessionId := if s.sessionId.length=0 then s.exchangeHash else s.sessionId}

def sshTransportSendKexEcdhReply : Call Peer Err Unit := do
  computeSecret K
  signExchange K
  let s ← Call.get
  let reply ← Call.lift (encodedBy (sshKexEcdhReplyEncode s.1.serverHostKey
    s.1.serverKexPublicKey s.1.serverSignature) emsshMaxKexReplyPayload)
  sendTransportPayload C reply

def sshTransportSendNewkeys : Call Peer Err Unit := do
  sendTransportPayload C [sshMsgNewkeys]
  activatePacketProtection K true

def sshTransportReceiveNewkeys : Call Peer Err Unit := do
  let payload ← receiveTransportPayload C 8
  let _ ← Call.lift (decodedBy sshKexNewkeysDecode () payload)
  activatePacketProtection K false

def sshTransportSetRekeyLimits (packets bytes : Nat) : Call Peer Err Unit :=
  onSession fun s => {s with transport := {s.transport with
    rekeyAfterPackets := packets
    rekeyAfterBytes := bytes
    inboundRekeyPackets := 0
    outboundRekeyPackets := 0
    inboundRekeyBytes := 0
    outboundRekeyBytes := 0
    rekeyNeeded := false}}

def sshTransportSendExtInfo (signatureAlgorithms : Bytes) : Call Peer Err Unit := do
  let s ← Call.get
  Call.onlyIf (s.1.clientSupportsExtInfo=true) do
    Call.require (sshNameListIsValid (some signatureAlgorithms)=true) .invalidArgument
    let payload ← Call.lift (encodedBy (extInfoEncode signatureAlgorithms) emsshMaxExtInfoPayload)
    sendProtected C payload

/-- What a server is set up with: its rekey limits, the signature algorithms it announces,
and the identification lines that the two sides exchange, unless that fails. -/
structure SetupOptions where
  rekeyAfterPackets : Nat
  rekeyAfterBytes : Nat
  signatureAlgorithms : Bytes
  identifications : Except Err (Bytes×Bytes)

/-- ssh_server_run_transport_setup on a fresh session: the initial key exchange. -/
def sshServerRunTransportSetup (options : SetupOptions) : Call Peer Err Unit := do
  sshTransportSetRekeyLimits options.rekeyAfterPackets options.rekeyAfterBytes
  let lines ← Call.lift options.identifications
  onSession fun s => {s with clientIdentification := lines.1,serverIdentification := lines.2}
  noteKex .begun
  sshTransportSendKexinit C
  sshTransportReceiveKexinit C
  sshTransportReceiveKexEcdhInit C
  sshTransportSendKexEcdhReply C K
  sshTransportSendNewkeys C K
  sshTransportSendExtInfo C options.signatureAlgorithms
  sshTransportReceiveNewkeys C K

def readyToRekey (s : KexSession) : Prop :=
  s.transport.inbound.active=true ∧ s.transport.outbound.active=true ∧ s.rekeyInProgress=false

instance (s : KexSession) : Decidable (readyToRekey s) := inferInstanceAs (Decidable (_ ∧ _ ∧ _))

def peerRekey (clientKexinitPayload : Bytes) : Call Peer Err Unit := do
  processKexinitPayload clientKexinitPayload
  sshTransportSendKexinit C
  sshTransportReceiveKexEcdhInit C
  sshTransportSendKexEcdhReply C K
  sshTransportSendNewkeys C K
  sshTransportReceiveNewkeys C K

def sshTransportHandlePeerRekey (clientKexinitPayload : Bytes) : Call Peer Err Unit := do
  let s ← Call.get
  Call.require (readyToRekey s.1) .unsupported
  noteKex .begun
  onSession fun s => {s with rekeyInProgress := true}
  let status ← Call.status (peerRekey C K clientKexinitPayload)
  onSession fun s => {s with rekeyInProgress := false}
  Call.lift status

def receiveScratch (payloadCapacity : Nat) : Call Peer Err Bytes := do
  let payload ← receiveProtected C (max payloadCapacity emsshMaxKexinitPayload)
  onSession fun s => {s with
    clientKexinitPayload := if payloadCapacity<emsshMaxKexinitPayload
      then blit s.clientKexinitPayload 0 payload else s.clientKexinitPayload
    lastReceivedMessageId := payload.head?.or s.lastReceivedMessageId}
  pure payload

def receiveSkippingLoop (payloadCapacity : Nat) : Nat → Call Peer Err Bytes
  | 0 => Call.fail .malformedPacket
  | tries+1 => do
    let payload ← receiveScratch C payloadCapacity
    if transportPayloadIsDisconnect payload then Call.fail .closed
    else if transportPayloadIsKexinit payload then do
      sshTransportHandlePeerRekey C K payload
      receiveSkippingLoop payloadCapacity tries
    else if ¬transportPayloadIsIgnorable payload then do
      Call.require (payloadCapacity<emsshMaxKexinitPayload → payload.length≤payloadCapacity)
        .bufferTooSmall
      pure payload
    else receiveSkippingLoop payloadCapacity tries

lemma receiveSkippingLoop_keeps {I : Peer → Prop} {cap : Nat}
    (hr : Call.Keeps I (receiveScratch C cap))
    (hrk : ∀ payload,Call.Keeps I (sshTransportHandlePeerRekey C K payload)) (tries : Nat) :
    Call.Keeps I (receiveSkippingLoop C K cap tries) := by
  induction tries with
  | zero => exact .fail _
  | succ tries ih =>
    refine .bind hr fun payload => .ite (.fail _) (.ite ?_ (.ite ?_ ih))
    · exact .bind (hrk payload) fun _ => ih
    · exact .bind (.require _ _) fun _ => .pure _

/-- receive_protected_payload_skip_ignorable, down to the packets. -/
def receiveSkippingIgnorable (payloadCapacity : Nat) : Call Peer Err Bytes :=
  receiveSkippingLoop C K payloadCapacity 8

end EMSSHD
