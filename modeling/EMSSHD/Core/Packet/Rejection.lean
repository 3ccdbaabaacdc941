import EMSSHD.Core.Packet.Stream

namespace EMSSHD

open Call

/-- ssh_packet_view_t: the payload as a position in the packet, and its length. -/
structure PacketView where
  payload : Nat
  payloadLen : Nat
  deriving DecidableEq

section
/-- The body of ssh_packet_decode_plain, with the view that it fills in. -/
def decodePlainView (packet : Bytes) : Call (SshBuffer×PacketView) Err Unit := do
  Call.require (4+1+sshPacketMinPadding≤packet.length) .malformedPacket
  Call.require (packet.length≤emsshMaxPacketSize+4) .malformedPacket
  let packetLength ← Call.onFst sshBufferGetU32
  Call.require (packetLength+4=packet.length) .malformedPacket
  let paddingLen ← Call.onFst sshBufferGetU8
  Call.require (sshPacketMinPadding≤paddingLen.toNat) .malformedPacket
  Call.require (paddingLen.toNat+1≤packetLength) .malformedPacket
  Call.modify fun s => (s.1,⟨5,packetLength-1-paddingLen.toNat⟩)

def sshPacketDecodePlainInto (packet : Bytes) : Call PacketView Err Unit :=
  ⟨fun view =>
    let r := (decodePlainView packet).run (sshBufferWrap packet,view)
    (r.1,r.2.2)⟩

variable (C : CryptoApi)

def checkDecryptedInto (p : Protection) (encryptedLen : Nat) (plain receivedMac : Bytes) :
    Call ((Protection×Bytes)×PacketView) Err Unit :=
  match C.mac p plain with
  | .error _ => Call.onFst (restoreAndFail C encryptedLen .platform)
  | .ok expectedMac =>
    if expectedMac.length≠p.macLen then Call.onFst (restoreAndFail C encryptedLen .platform)
    else if ¬macMatches expectedMac receivedMac p.macLen then
      Call.onFst (restoreAndFail C encryptedLen .security)
    else if beValue (plain.take 4)+4≠encryptedLen then
      Call.onFst (restoreAndFail C encryptedLen .malformedPacket)
    else do
      let status ← (Call.onSnd (sshPacketDecodePlainInto plain)).status
      match status with
      | .error e => Call.onFst (restoreAndFail C encryptedLen e)
      | .ok _ => pure ()

/-- ssh_packet_decode_protected with all that it can write: the protection, the packet buffer
and the view of the caller. -/
def sshPacketDecodeProtectedInto : Call ((Protection×Bytes)×PacketView) Err Unit := do
  let ((p,packet),_) ← Call.get
  Call.require (p.active=true) .invalidArgument
  Call.require (p.macLen < packet.length ∧ p.macLen≤emsshMaxMac) .malformedPacket
  let encryptedLen := packet.length-p.macLen
  Call.require (p.blockSize≤encryptedLen ∧ encryptedLen%p.blockSize=0) .malformedPacket
  Call.require (encryptedLen≤emsshMaxPacketSize+4) .malformedPacket
  let receivedMac := packet.drop encryptedLen
  let decrypted := C.cryptFront p .decrypt encryptedLen packet
  Call.modify fun s => ((s.1.1,decrypted.2),s.2)
  orPlatform decrypted.1
  let ivLen := p.cipherIv.bytes.length
  let nextIv := if ivLen≠0 then p.advanceIv ((encryptedLen+ivLen-1)/ivLen) else p.cipherIv
  checkDecryptedInto C p encryptedLen (decrypted.2.take encryptedLen) receivedMac
  Call.modify fun s =>
    (({s.1.1 with cipherIv := nextIv,sequence := s.1.1.sequence+1},s.1.2),s.2)
end

section
variable {τ : Type}

/-- What a decoder that returns its payload leaves in a view: the place of an accepted
payload, and what it held before otherwise. -/
def viewed (view : PacketView) : Except Err Bytes×τ → Except Err Unit×(τ×PacketView)
  | (.ok payload,t) => (.ok (),(t,⟨5,payload.length⟩))
  | (.error e,t) => (.error e,(t,view))

/-- From s on, d does what c does and writes to the view where c returns the payload. -/
def Views (c : Call τ Err Bytes) (d : Call (τ×PacketView) Err Unit) (s : τ)
    (view : PacketView) : Prop :=
  d.run (s,view)=viewed view (c.run s)

namespace Views
variable {α : Type} {s : τ} {view : PacketView}
variable {f : α → Call τ Err Bytes} {g : α → Call (τ×PacketView) Err Unit} {p : Prop}
  {c : Call τ Err Bytes} {d : Call (τ×PacketView) Err Unit} {m : τ → τ}

lemma bindFst {c : Call τ Err α} (h : ∀ a t,c.run s=(.ok a,t) → Views (f a) (g a) t view) :
    Views (c>>=f) (Call.onFst c>>=g) s view := by
  rcases hc : c.run s with ⟨r,t⟩
  have hd : (Call.onFst c : Call (τ×PacketView) Err α).run (s,view)=(r,(t,view)) := by
    simp only [run_onFst,hc]
  rcases r with _ | a
  · rw [Views,run_bind_error hc,run_bind_error hd,viewed]
  have ha := h a t hc
  rw [Views,run_bind_ok hc,run_bind_ok hd,ha]

lemma bindGet {f : τ → Call τ Err Bytes} {g : τ×PacketView → Call (τ×PacketView) Err Unit}
    (h : Views (f s) (g (s,view)) s view) : Views (Call.get>>=f) (Call.get>>=g) s view := h

lemma bindRequire [Decidable p] {e : Err} {f : Unit → Call τ Err Bytes}
    {g : Unit → Call (τ×PacketView) Err Unit} (h : p → Views (f ()) (g ()) s view) :
    Views (Call.require p e>>=f) (Call.require p e>>=g) s view := by
  by_cases hp : p
  · have hr := h hp
    rw [Views,run_bind_ok (run_require_of _ _ hp),run_bind_ok (run_require_of _ _ hp),hr]
  rw [Views,run_bind_error (run_require_not _ _ hp),run_bind_error (run_require_not _ _ hp),
    viewed]

lemma ite [Decidable p] {c' : Call τ Err Bytes} {d' : Call (τ×PacketView) Err Unit}
    (h : p → Views c d s view) (h' : ¬p → Views c' d' s view) :
    Views (if p then c else c') (if p then d else d') s view := by
  by_cases hp : p
  · rw [if_pos hp,if_pos hp]
    exact h hp
  rw [if_neg hp,if_neg hp]
  exact h' hp

lemma bindModify {f : Unit → Call τ Err Bytes} {g : Unit → Call (τ×PacketView) Err Unit}
    (h : Views (f ()) (g ()) (m s) view) :
    Views (Call.modify m>>=f) (Call.modify (fun u => (m u.1,u.2))>>=g) s view := h

lemma bindLift {r : Except Err α} (h : ∀ a,r=.ok a → Views (f a) (g a) s view) :
    Views (Call.lift r>>=f) (Call.lift r>>=g) s view := by
  cases r with
  | error e => rfl
  | ok a => exact h a rfl

lemma commit (h : Views c d s view) :
    Views (c>>=fun payload => Call.modify m>>=fun _ => pure payload)
      (d>>=fun _ => Call.modify fun u => (m u.1,u.2)) s view := by
  rcases hc : c.run s with ⟨r,t⟩
  rw [Views,hc] at h
  rcases r with _ | payload
  · rw [Views,run_bind_error hc,run_bind_error h,viewed]
  rw [Views,run_bind_ok hc,run_bind_ok h]
  rfl
end Views

lemma decodePlainView_views (packet : Bytes) (w : SshBuffer) (view : PacketView) :
    Views (decodePlainFrom packet) (decodePlainView packet) w view := by
  apply Views.bindRequire
  intro _
  apply Views.bindRequire
  intro _
  apply Views.bindFst
  intro packetLength t _
  apply Views.bindRequire
  intro hl
  apply Views.bindFst
  intro paddingLen u _
  apply Views.bindRequire
  intro _
  apply Views.bindRequire
  intro _
  have hp : ((packet.drop 5).take (packetLength-1-paddingLen.toNat)).length=
      packetLength-1-paddingLen.toNat := by
    rw [length_take,length_drop]
    omega
  simp only [Views,run_modify,run_pure,viewed,hp]

lemma decodePlainInto_run (packet : Bytes) (view : PacketView) :
    (sshPacketDecodePlainInto packet).run view=
      match sshPacketDecodePlain packet with
      | .ok payload => (.ok (),⟨5,payload.length⟩)
      | .error e => (.error e,view) := by
  have hb := decodePlainView_views packet (sshBufferWrap packet) view
  rw [Views] at hb
  simp only [sshPacketDecodePlainInto,sshPacketDecodePlain,hb]
  rcases (decodePlainFrom packet).run (sshBufferWrap packet) with ⟨r,t⟩
  cases r with
  | error | ok => rfl

variable (C : CryptoApi)

lemma checkDecryptedInto_views (p : Protection) (n : Nat) (plain receivedMac : Bytes)
    (s : Protection×Bytes) (view : PacketView) :
    Views (checkDecrypted C p n plain receivedMac) (checkDecryptedInto C p n plain receivedMac)
      s view := by
  have hf (e : Err) : Views (restoreAndFail C n e) (Call.onFst (restoreAndFail C n e)) s view := rfl
  unfold checkDecrypted checkDecryptedInto
  rcases C.mac p plain with _ | expectedMac
  · exact hf _
  apply Views.ite
  · intro _
    exact hf _
  intro _
  apply Views.ite
  · intro _
    exact hf _
  intro _
  apply Views.ite
  · intro _
    exact hf _
  intro _
  have hp := decodePlainInto_run plain view
  cases hd : sshPacketDecodePlain plain with
  | error e =>
    have hs : ((Call.onSnd (sshPacketDecodePlainInto plain)).status :
        Call ((Protection×Bytes)×PacketView) Err _).run (s,view)=(.ok (.error e),(s,view)) := by
      simp only [run_status,run_onSnd,hp,hd]
    rw [Views,run_bind_ok hs]
    exact hf e
  | ok payload =>
    have hs : ((Call.onSnd (sshPacketDecodePlainInto plain)).status :
        Call ((Protection×Bytes)×PacketView) Err _).run (s,view)=
          (.ok (.ok ()),(s,⟨5,payload.length⟩)) := by
      simp only [run_status,run_onSnd,hp,hd]
    rw [Views,run_bind_ok hs]
    rfl

lemma decodeProtectedInto_views (s : Protection×Bytes) (view : PacketView) :
    Views (sshPacketDecodeProtected C) (sshPacketDecodeProtectedInto C) s view := by
  have hb (p : Protection) (packet : Bytes) : Views (sshPacketDecodeProtected C)
      (sshPacketDecodeProtectedInto C) (p,packet) view := by
    apply Views.bindGet
    apply Views.bindRequire
    intro _
    apply Views.bindRequire
    intro _
    apply Views.bindRequire
    intro _
    apply Views.bindRequire
    intro _
    apply Views.bindModify
    apply Views.bindLift
    intro _ _
    apply Views.commit
    apply checkDecryptedInto_views
  exact hb s.1 s.2
end

section
/-- What a rejection rests on: with the key, the IV and the sequence number of p the cipher
does not fail, and encryption undoes decryption. -/
structure CryptoApi.Restores (C : CryptoApi) (p : Protection) : Prop where
  crypt_ok : ∀ direction data,(C.cipherCrypt p.cipherAlgorithm p.cipherKey.bytes
    p.cipherIv.bytes p.sequence direction data).1=.ok ()
  encrypt_decrypt : ∀ data,(C.cipherCrypt p.cipherAlgorithm p.cipherKey.bytes p.cipherIv.bytes
    p.sequence .encrypt (C.cipherCrypt p.cipherAlgorithm p.cipherKey.bytes p.cipherIv.bytes
      p.sequence .decrypt data).2).2=data

variable {C : CryptoApi} {p : Protection}

lemma CryptoApi.Restores.cryptFront (h : C.Restores p) {len : Nat} {buffer : Bytes}
    (hl : len≤buffer.length) :
    (C.cryptFront p .encrypt len (C.cryptFront p .decrypt len buffer).2).2=buffer := by
  have hf := C.cryptFront_take p .decrypt len buffer hl
  have hr : (C.cryptFront p .decrypt len buffer).2.drop len=buffer.drop len := by
    rw [CryptoApi.cryptFront,drop_left']
    rw [C.crypt_length,length_take,Nat.min_eq_left hl]
  have hb := h.encrypt_decrypt (buffer.take len)
  generalize hd : (C.cryptFront p .decrypt len buffer).2=decrypted at hf hr ⊢
  rw [CryptoApi.cryptFront,hf,hb,hr,take_append_drop]
end

section
variable {C : CryptoApi} {p : Protection} {packet : Bytes}

def Restored (C : CryptoApi) (p : Protection) (packet : Bytes) (t : Protection×Bytes) : Prop :=
  t.1=p ∧ (C.Restores p → t.2=packet)

variable {n : Nat}

lemma checkDecrypted_restored (hn : n≤packet.length) (plain receivedMac : Bytes) :
    (checkDecrypted C p n plain receivedMac).Ensures (p,(C.cryptFront p .decrypt n packet).2)
      (Outcome (fun _ _ => True) fun _ t => Restored C p packet t) := by
  have hf (e : Err) : (restoreAndFail C n e : Call _ Err Bytes).Ensures
      (p,(C.cryptFront p .decrypt n packet).2)
      (Outcome (fun _ _ => True) fun _ t => Restored C p packet t) :=
    ⟨rfl,fun h => h.cryptFront hn⟩
  unfold checkDecrypted
  rcases C.mac p plain with _ | expectedMac
  · exact hf _
  apply Ensures.ite
  · intro _
    exact hf _
  intro _
  apply Ensures.ite
  · intro _
    exact hf _
  intro _
  apply Ensures.ite
  · intro _
    exact hf _
  intro _
  cases sshPacketDecodePlain plain with
  | error e => exact hf e
  | ok payload => trivial

lemma decodeProtected_restored (C : CryptoApi) (p : Protection) (packet : Bytes) :
    (sshPacketDecodeProtected C).Ensures (p,packet)
      (Outcome (fun _ _ => True) fun _ t => Restored C p packet t) := by
  have hs : Restored C p packet (p,packet) := ⟨rfl,fun _ => rfl⟩
  apply bindGet
  refine .bindRequire (fun _ => ?_) fun _ => hs
  refine .bindRequire (fun _ => ?_) fun _ => hs
  refine .bindRequire (fun _ => ?_) fun _ => hs
  refine .bindRequire (fun _ => ?_) fun _ => hs
  apply bindModify
  apply bindLift
  · intro _ _
    apply (checkDecrypted_restored (Nat.sub_le _ _) _ _).bind
    · intro _ _ _
      trivial
    intro e t ht
    exact ht
  intro e he
  -- the one exit that does not put the packet back is that of a failed decryption
  refine ⟨rfl,fun h => ?_⟩
  have hok : (C.cryptFront p .decrypt (packet.length-p.macLen) packet).1=.ok () :=
    h.crypt_ok .decrypt _
  rw [hok] at he
  cases he
end

/-- Rejecting a packet changes nothing: neither the protection nor the view of the caller, and
with a cipher that undoes itself not the packet either. -/
theorem rejected_packet_untouched (C : CryptoApi) {s t : (Protection×Bytes)×PacketView} {e : Err}
    (hrun : (sshPacketDecodeProtectedInto C).run s=(.error e,t)) :
    t.1.1=s.1.1 ∧ t.2=s.2 ∧ (C.Restores s.1.1 → t.1.2=s.1.2) := by
  have hv : (sshPacketDecodeProtectedInto C).run s=
      viewed s.2 ((sshPacketDecodeProtected C).run s.1) :=
    decodeProtectedInto_views C s.1 s.2
  rcases hd : (sshPacketDecodeProtected C).run s.1 with ⟨r,u⟩
  rw [hrun,hd] at hv
  cases r with
  | ok payload => cases hv
  | error e' =>
    have hr : Restored C s.1.1 s.1.2 u := (decodeProtected_restored C s.1.1 s.1.2).of_eq hd
    cases hv
    exact ⟨hr.1,rfl,hr.2⟩

lemma xorCrypto_restores (p : Protection) : xorCrypto.Restores p where
  crypt_ok _ _ := rfl
  encrypt_decrypt data := map_xor_xor _ data

def forgedPacket : Bytes := [1,1,1,13,8,6,9,1,1,1,1,1,1,1,1,1,39,39,39,40]

theorem rejected_packet_untouched_forged :
    (sshPacketDecodeProtectedInto xorCrypto).run ((sampleProtection 16,forgedPacket),⟨7,70⟩)=
      (.error .security,((sampleProtection 16,forgedPacket),⟨7,70⟩)) := by
  have hs : ((sshPacketDecodeProtectedInto xorCrypto).run
      ((sampleProtection 16,forgedPacket),⟨7,70⟩)).1=.error .security := by decide +kernel
  rcases hr : (sshPacketDecodeProtectedInto xorCrypto).run
    ((sampleProtection 16,forgedPacket),⟨7,70⟩) with ⟨r,t⟩
  rw [hr] at hs
  obtain rfl : r=.error .security := hs
  obtain ⟨hp,hv,hpc⟩ := rejected_packet_untouched xorCrypto hr
  have hb := hpc (xorCrypto_restores _)
  exact congrArg (Prod.mk _) (Prod.ext (Prod.ext hp hb) hv)

end EMSSHD
