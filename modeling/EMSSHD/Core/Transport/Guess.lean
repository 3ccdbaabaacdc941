import EMSSHD.Core.Transport.Exchange

namespace EMSSHD

open Call

/-- The client lets a packet of its guess follow, and what it guesses is not what is negotiated. -/
def guessesWrong (s : KexSession) : Bool :=
  match kexinitOf (s.clientKexinitPayload.take s.clientKexinitPayloadLen) with
  | .ok client => client.firstKexPacketFollows && [.kexAlgorithms,.serverHostKeyAlgorithms].any
      fun index => (nameItems ((client.nameLists index).getD [])).head?≠s.negotiation index
  | .error _ => false

def ecdhKey (payload : Bytes) : Except Err Bytes :=
  (decodedBy sshKexEcdhInitDecode none payload).map (·.getD [])

section
variable (C : CryptoApi)

def nextPacket (p : Peer) : Except Err Bytes×Peer :=
  (receiveTransportPayload C (emsshMaxKexPublicKey+16)).run p

/-- A KEXINIT with a wrong guess, the guessed packet and a KEX_ECDH_INIT with key are on the way. -/
structure WrongGuess (p : Peer) (guess key : Bytes) : Prop where
  kexinit : ((sshTransportReceiveKexinit C).run p).1=.ok ()
  wrong : guessesWrong ((sshTransportReceiveKexinit C).run p).2.1=true
  guessed : (nextPacket C ((sshTransportReceiveKexinit C).run p).2).1=.ok guess
  meant : (nextPacket C (nextPacket C ((sshTransportReceiveKexinit C).run p).2).2).1.bind ecdhKey=
    .ok key

def receiveClientKey : Call Peer Err Unit := do
  sshTransportReceiveKexinit C
  sshTransportReceiveKexEcdhInit C

variable {C} {p : Peer} {guess : Bytes}

/-- The packet that follows the KEXINIT is the one whose key is taken. -/
theorem receiveClientKey_guess (hk : ((sshTransportReceiveKexinit C).run p).1=.ok ())
    (hg : (nextPacket C ((sshTransportReceiveKexinit C).run p).2).1=.ok guess) :
    (receiveClientKey C).Ensures p fun r t => match ecdhKey guess with
      | .ok key => r=.ok () ∧ t.1.clientKexPublicKey=key
      | .error e => r=.error e := by
  refine .bindOk (Prod.ext hk rfl) (.bindOk (Prod.ext hg rfl) ?_)
  unfold ecdhKey
  cases decodedBy sshKexEcdhInitDecode none guess with
  | ok view => exact ⟨rfl,rfl⟩
  | error e => exact rfl
end

/-- The key of the second packet is only taken when the guessed packet has the same one. -/
theorem wrong_guess_iff (C : CryptoApi) (p : Peer) (guess key : Bytes)
    (h : WrongGuess C p guess key) : ((receiveClientKey C).run p).1=.ok () ∧
      ((receiveClientKey C).run p).2.1.clientKexPublicKey=key ↔ ecdhKey guess=.ok key := by
  have hr := receiveClientKey_guess h.kexinit h.guessed
  unfold Ensures at hr
  cases hg : ecdhKey guess with
  | ok other =>
    rw [hg] at hr
    rw [hr.1,hr.2]
    simp
  | error e =>
    rw [hg] at hr
    rw [hr]
    simp

def guessingLists : AlgorithmSet :=
  Function.update defaultNameLists .kexAlgorithms (some (cstr "ecdh-sha2-nistp256,curve25519-sha256"))

def plainPacket (payload : Bytes) : Bytes :=
  ((sshPacketEncodePlain 1024 payload 8 (some fun n => .ok (Vector.replicate n 0))).toOption).getD []

def guessedKexinit : Bytes :=
  ((encodedBy (sshKexinitEncode (List.replicate 16 0) guessingLists true) 512).toOption).getD []

def guessPeer (guess : Bytes) : Peer :=
  (sshTransportSessionInit defaultNameLists [],
    {incoming := [guessedKexinit,guess,[30,0,0,0,1,2]].flatMap plainPacket
     reads := List.replicate 6 1024,outgoing := [],writes := [],fills := none})

theorem wrong_guess_iff_same : WrongGuess xorCrypto (guessPeer [30,0,0,0,1,2]) [30,0,0,0,1,2] [2] ∧
    ((receiveClientKey xorCrypto).run (guessPeer [30,0,0,0,1,2])).2.1.clientKexPublicKey=[2] := by
  have hw : WrongGuess xorCrypto (guessPeer [30,0,0,0,1,2]) [30,0,0,0,1,2] [2] :=
    ⟨by decide +kernel,by decide +kernel,by decide +kernel,by decide +kernel⟩
  exact ⟨hw,((wrong_guess_iff _ _ _ _ hw).mpr (by decide +kernel)).2⟩

/-- The client guesses ecdh-sha2-nistp256 and curve25519-sha256 is negotiated. The key of the guessed
packet is taken for the one of the exchange. -/
theorem wrong_guess_taken : WrongGuess xorCrypto (guessPeer [30,0,0,0,1,1]) [30,0,0,0,1,1] [2] ∧
    ((receiveClientKey xorCrypto).run (guessPeer [30,0,0,0,1,1])).1=.ok () ∧
    ((receiveClientKey xorCrypto).run (guessPeer [30,0,0,0,1,1])).2.1.clientKexPublicKey=[1] :=
  ⟨⟨by decide +kernel,by decide +kernel,by decide +kernel,by decide +kernel⟩,
    by decide +kernel,by decide +kernel⟩

end EMSSHD
