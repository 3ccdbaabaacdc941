import EMSSHD.Core.Transport.Exchange
import EMSSHD.Core.Userauth.Request
import EMSSHD.Framework.Lawful

namespace EMSSHD

open Call

section
/-- The list that ssh_transport_send_ext_info takes. -/
def extInfoAlgorithms (server : AuthServer) : Bytes :=
  if server.publickeyAuth.isNone then [] else server.cryptoSignatureAlgorithms.getD []

/-- The message for a client that knows EXT_INFO. -/
def extInfoPayload (signatureAlgorithms : Bytes) : Except Err Bytes := do
  checkThat (sshNameListIsValid (some signatureAlgorithms)=true) .invalidArgument
  encodedBy (extInfoEncode signatureAlgorithms) emsshMaxExtInfoPayload

/-- The names that an EXT_INFO message announces. -/
def extInfoNames : Reader (List Bytes) := do
  let _ ← Reader.takeBytes 1
  let count ← Reader.word 4
  if count=0 then pure []
  else do
    let _ ← Reader.string
    let value ← Reader.string
    pure (nameItems value)

def serverSigAlgs (payload : Bytes) : List Bytes :=
  match extInfoNames payload with
  | some (names,_) => names
  | none => []

variable {payload : Bytes}

lemma serverSigAlgs_of_reads {names : List Bytes} (h : Reader.Reads extInfoNames payload names) :
    serverSigAlgs payload=names := by
  have hr := h []
  rw [append_nil] at hr
  rw [serverSigAlgs,hr]

lemma serverSigAlgs_extInfo {list : Bytes} {capacity : Nat}
    (h : encodedBy (extInfoEncode list) capacity=.ok payload) :
    serverSigAlgs payload=if list=[] then [] else nameItems list := by
  by_cases hl : list=[]
  · have hc : extInfoEncode list=(do
        sshBufferPutU8 sshMsgExtInfo
        sshBufferPutU32 0) := by
      simp [extInfoEncode,hl,Call.onlyIf]
    have ha := (appends_putRaw [sshMsgExtInfo]).bind (appends_putRaw (beBytes 4 0))
    have hr : Reader.Reads extInfoNames ([sshMsgExtInfo]++(beBytes 4 0++[])) [] :=
      (Reader.reads_takeBytes [sshMsgExtInfo]).bind
        ((Reader.reads_word 4 0).bind (Reader.reads_pure []))
    rw [hc] at h
    rw [if_pos hl,ha.encodedBy h]
    exact serverSigAlgs_of_reads hr
  have hc : extInfoEncode list=(do
      sshBufferPutU8 sshMsgExtInfo
      sshBufferPutU32 1
      sshBufferPutString (cstr "server-sig-algs")
      sshBufferPutString list) := by
    simp [extInfoEncode,hl,Call.onlyIf,sshBufferPutCstring]
  have ha := (appends_putRaw [sshMsgExtInfo]).when.bind ((appends_putRaw (beBytes 4 1)).when.bind
    ((appendsWhen_putString (cstr "server-sig-algs")).bind (appendsWhen_putString list)))
  rw [hc] at h
  obtain ⟨hf,hp⟩ := ha.encodedBy h
  have hln : list.length<256^4 := Nat.lt_of_le_of_lt hf.2.2.2 (by decide)
  have hlb : Reader.Reads Reader.string (stringField (cstr "server-sig-algs"))
      (cstr "server-sig-algs") := Reader.reads_string (by decide)
  have hr : Reader.Reads extInfoNames _ (nameItems list) :=
    (Reader.reads_takeBytes [sshMsgExtInfo]).bind ((Reader.reads_word 4 1).bind
      (hlb.bind ((Reader.reads_string hln).map nameItems)))
  rw [hp,if_neg hl]
  exact serverSigAlgs_of_reads hr
end

lemma algorithmAccepted_iff (server : AuthServer) (name : Bytes) :
    algorithmAccepted server (some name)=true ↔ server.signatureAlgorithms.getD []=[] ∨
      (name≠[] ∧ name∈nameItems (server.signatureAlgorithms.getD [])) := by
  unfold algorithmAccepted
  rcases hl : server.signatureAlgorithms with _ | list
  · simp
  cases list with
  | nil => simp
  | cons c rest => simpa using nameListContainsView_iff (c::rest) name

inductive CryptoBackend where
  | mbedtlsLegacy
  | mbedtls (ed25519 : Bool)
  | openssl
  | wolfssl

def sshCryptoPublickeySignatureAlgorithms : CryptoBackend → Bytes
  | .mbedtlsLegacy | .mbedtls false => cstr "rsa-sha2-256,rsa-sha2-512,ecdsa-sha2-nistp256"
  | .mbedtls true => cstr "rsa-sha2-256,rsa-sha2-512,ecdsa-sha2-nistp256,ssh-ed25519"
  | .openssl | .wolfssl => []

/-- A server without a filter of its own sends an EXT_INFO that has exactly the algorithms it
accepts, if and only if its backend names any. -/
theorem backend_announces_accepted (C : CryptoApi) (server : AuthServer)
    (auth : PublickeyAuthRequest → Bool) (backend : CryptoBackend) (s : Peer) :
    let names := sshCryptoPublickeySignatureAlgorithms backend
    let server := {server with
      publickeyAuth := some auth,publickeySignatureAlgorithms := none
      cryptoSignatureAlgorithms := some names}
    ∃ payload,extInfoPayload (extInfoAlgorithms server)=.ok payload ∧
      (sshTransportSendExtInfo C (extInfoAlgorithms server)).run s=
        (Call.onlyIf (s.1.clientSupportsExtInfo=true) (sendProtected C payload)).run s ∧
      ((∀ name,name∈serverSigAlgs payload ↔ algorithmAccepted server (some name)=true) ↔
        names≠[]) := by
  intro names server
  have hs : (extInfoPayload names).isOk=true := by
    cases backend with
    | mbedtls ed25519 => cases ed25519 <;> decide +kernel
    | _ => decide +kernel
  rcases hp : extInfoPayload names with _ | payload
  · rw [hp] at hs
    cases hs
  obtain ⟨_,hv,he⟩ := except_bind_ok hp
  have hv := checkThat_ok hv
  have ht : extInfoAlgorithms server=names := rfl
  refine ⟨payload,hp,?_,?_⟩
  · rw [sshTransportSendExtInfo,run_bind_ok (run_get s),ht,he]
    unfold Call.onlyIf
    split_ifs
    · exact run_bind_ok (run_require_of _ s hv)
    · rfl
  have ha (name : Bytes) : algorithmAccepted server (some name)=true ↔
      names=[] ∨ (name≠[] ∧ name∈nameItems names) := algorithmAccepted_iff server name
  simp only [ha,serverSigAlgs_extInfo he]
  by_cases hn : names=[]
  · simp [hn]
  simp only [hn,if_false,false_or,ne_eq,not_false_eq_true,iff_true]
  exact fun name => ⟨fun h => ⟨fun hz => nameItems_nonempty hv hn (hz ▸ h),h⟩,And.right⟩

end EMSSHD
