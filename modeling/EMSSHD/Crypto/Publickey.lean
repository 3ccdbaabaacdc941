import EMSSHD.Crypto.Der

namespace EMSSHD

open Call

inductive PsaAlgorithm where
  | pureEddsa
  | ecdsaSha256
  | rsaPkcs1v15Sha256
  | rsaPkcs1v15Sha512
  deriving DecidableEq

inductive PsaStatus where
  | success
  | notSupported
  | failed
  deriving DecidableEq

/-- What the verification of a signature uses of PSA. A key is imported for one algorithm,
used once and destroyed. -/
structure PsaVerifier where
  importKey : PsaAlgorithm → Bytes → PsaStatus
  verifyMessage : PsaAlgorithm → (key message signature : Bytes) → PsaStatus

def PsaVerifier.verify (psa : PsaVerifier) (algorithm : PsaAlgorithm)
    (key message signature : Bytes) : Except Err Unit :=
  let status := match psa.importKey algorithm key with
    | .success => psa.verifyMessage algorithm key message signature
    | status => status
  match status with
  | .success => .ok ()
  | .notSupported => .error .unsupported
  | .failed => .error .security

def viewIsRsaAlgorithm (algorithm : StringView) : Bool :=
  viewEqualsCstr algorithm (cstr "ssh-rsa") || viewEqualsCstr algorithm (cstr "rsa-sha2-256") ||
    viewEqualsCstr algorithm (cstr "rsa-sha2-512")

def rsaSignaturePsaAlgorithm (algorithm : StringView) : Option PsaAlgorithm :=
  if viewEqualsCstr algorithm (cstr "rsa-sha2-256") then some .rsaPkcs1v15Sha256
  else if viewEqualsCstr algorithm (cstr "rsa-sha2-512") then some .rsaPkcs1v15Sha512
  else none

def decodedBlob {α : Type} (fields : Call SshBuffer Err α) (blob : Bytes) : Except Err α :=
  (fields.run (sshBufferWrap blob)).1

def decodeEcdsaP256PublicKeyBlob (publickeyBlob : Bytes) : Except Err StringView :=
  decodedBlob (do
    let algorithm ← sshBufferGetStringView
    let curve ← sshBufferGetStringView
    let q ← sshBufferGetStringView
    let buf ← Call.get
    Call.require (viewEqualsCstr algorithm (cstr "ecdsa-sha2-nistp256")=true ∧
      viewEqualsCstr curve (cstr "nistp256")=true ∧ viewLen q≠0 ∧
      sshBufferRemainingRead buf=0) .malformedPacket
    pure q) publickeyBlob

def decodeEd25519PublicKeyBlob (publickeyBlob : Bytes) : Except Err StringView :=
  decodedBlob (do
    let algorithm ← sshBufferGetStringView
    let rawPublic ← sshBufferGetStringView
    let buf ← Call.get
    Call.require (viewEqualsCstr algorithm (cstr "ssh-ed25519")=true ∧ viewLen rawPublic=32 ∧
      sshBufferRemainingRead buf=0) .malformedPacket
    pure rawPublic) publickeyBlob

def decodeRsaPublicKeyBlob (publickeyBlob : Bytes) : Except Err (StringView×StringView) :=
  decodedBlob (do
    let algorithm ← sshBufferGetStringView
    let e ← sshBufferGetStringView
    let n ← sshBufferGetStringView
    let buf ← Call.get
    Call.require (viewIsRsaAlgorithm algorithm=true ∧ viewLen e≠0 ∧ viewLen n≠0 ∧
      sshBufferRemainingRead buf=0) .malformedPacket
    pure (e,n)) publickeyBlob

def ecdsaSignatureIntegers (inner : Bytes) : Except Err (StringView×StringView) :=
  decodedBlob (do
    let r ← sshBufferGetStringView
    let s ← sshBufferGetStringView
    let buf ← Call.get
    Call.require (sshBufferRemainingRead buf=0) .malformedPacket
    pure (r,s)) inner

def decodeEcdsaP256SignatureBlob (signature : Bytes) : Except Err Bytes := do
  let innerBlob ← decodedBlob (do
    let algorithm ← sshBufferGetStringView
    let innerBlob ← sshBufferGetStringView
    let outer ← Call.get
    Call.require (viewEqualsCstr algorithm (cstr "ecdsa-sha2-nistp256")=true ∧
      sshBufferRemainingRead outer=0) .malformedPacket
    pure innerBlob) signature
  let (r,s) ← ecdsaSignatureIntegers (innerBlob.getD [])
  let rawR ← mpintViewToFixed r 32
  let rawS ← mpintViewToFixed s 32
  pure (rawR++rawS)

def decodeEd25519SignatureBlob (signature : Bytes) : Except Err StringView :=
  decodedBlob (do
    let algorithm ← sshBufferGetStringView
    let rawSignature ← sshBufferGetStringView
    let buf ← Call.get
    Call.require (viewEqualsCstr algorithm (cstr "ssh-ed25519")=true ∧ viewLen rawSignature=64 ∧
      sshBufferRemainingRead buf=0) .malformedPacket
    pure rawSignature) signature

def decodeRsaSignatureBlob (signature : Bytes) : Except Err (StringView×StringView) :=
  decodedBlob (do
    let algorithm ← sshBufferGetStringView
    let rawSignature ← sshBufferGetStringView
    let buf ← Call.get
    Call.require (viewIsRsaAlgorithm algorithm=true ∧ viewLen rawSignature≠0 ∧
      sshBufferRemainingRead buf=0) .malformedPacket
    pure (algorithm,rawSignature)) signature

section
variable (psa : PsaVerifier)

def verifyEd25519Publickey (publickeyBlob signedData signature : Bytes) : Except Err Unit := do
  let rawPublic ← decodeEd25519PublicKeyBlob publickeyBlob
  let rawSignature ← decodeEd25519SignatureBlob signature
  psa.verify .pureEddsa (rawPublic.getD []) signedData (rawSignature.getD [])

def verifyEcdsaP256Publickey (publickeyBlob signedData signature : Bytes) : Except Err Unit := do
  let q ← decodeEcdsaP256PublicKeyBlob publickeyBlob
  let rawSignature ← decodeEcdsaP256SignatureBlob signature
  psa.verify .ecdsaSha256 (q.getD []) signedData rawSignature

def verifyRsaPublickey (publickeyAlgorithm : StringView)
    (publickeyBlob signedData signature : Bytes) : Except Err Unit :=
  if viewIsRsaAlgorithm publickeyAlgorithm=false then .error .invalidArgument
  else do
    let (e,n) ← decodeRsaPublicKeyBlob publickeyBlob
    let (signatureAlgorithm,rawSignature) ← decodeRsaSignatureBlob signature
    if viewEqualsCstr signatureAlgorithm (cstr "ssh-rsa") then .error .unsupported
    else match rsaSignaturePsaAlgorithm signatureAlgorithm with
      | none => .error .invalidArgument
      | some psaAlg => do
        let publicDer ← rsaPublicKeyBlobToDer e n emsshMaxHostKeyBlob
        psa.verify psaAlg publicDer signedData (rawSignature.getD [])

def mbedtlsPublickeyVerify (publickeyAlgorithm : StringView)
    (publickeyBlob signedData signature : Bytes) : Except Err Unit :=
  if publickeyBlob.length=0 ∨ signedData.length=0 ∨ signature.length=0 then
    .error .invalidArgument
  else if viewEqualsCstr publickeyAlgorithm (cstr "ecdsa-sha2-nistp256") then
    verifyEcdsaP256Publickey psa publickeyBlob signedData signature
  else if viewEqualsCstr publickeyAlgorithm (cstr "ssh-ed25519") then
    verifyEd25519Publickey psa publickeyBlob signedData signature
  else if viewIsRsaAlgorithm publickeyAlgorithm then
    verifyRsaPublickey psa publickeyAlgorithm publickeyBlob signedData signature
  else .error .invalidArgument
end

def signatureAlgorithm (signature : Bytes) : StringView :=
  match decodedBlob sshBufferGetStringView signature with
  | .ok algorithm => algorithm
  | .error _ => none

section
variable {psa : PsaVerifier} {algorithm : StringView} {publickeyBlob message signature : Bytes}
variable {α : Type}

lemma decodedBlob_name {f : StringView → Call SshBuffer Err α} {a : α}
    (h : decodedBlob (sshBufferGetStringView >>= f) signature=.ok a) :
    ∃ t,((f (signatureAlgorithm signature)).run t).1=.ok a := by
  unfold decodedBlob at h
  rcases hn : sshBufferGetStringView.run (sshBufferWrap signature) with ⟨e | name,t⟩
  · rw [run_bind_error hn] at h
    exact nomatch h
  rw [run_bind_ok hn] at h
  have hs : signatureAlgorithm signature=name := by
    unfold signatureAlgorithm decodedBlob
    rw [hn]
  rw [hs]
  exact ⟨t,h⟩

lemma checkedString_ok {p : StringView → SshBuffer → Prop} [∀ view buf,Decidable (p view buf)]
    {e : Err} {make : StringView → α} {b : SshBuffer} {a : α} (h : ((do
      let view ← sshBufferGetStringView
      let buf ← Call.get
      Call.require (p view buf) e
      pure (make view) : Call SshBuffer Err α).run b).1=.ok a) :
    ∃ view buf,p view buf ∧ a=make view := by
  rcases hv : sshBufferGetStringView.run b with ⟨err | view,buf⟩
  · rw [run_bind_error hv] at h
    exact nomatch h
  rw [run_bind_ok hv,run_bind_ok (run_get buf)] at h
  by_cases hp : p view buf
  · rw [run_bind_ok (run_require_of e buf hp)] at h
    exact ⟨view,buf,hp,(Except.ok.inj h).symm⟩
  rw [run_bind_error (run_require_not e buf hp)] at h
  exact nomatch h

variable (psa publickeyBlob message signature) in
/-- The signature is right for the key under the RSA algorithm that its blob names. -/
structure RsaAccepted : Prop where
  nonempty : message.length≠0
  verified : ∃ e n name raw psaAlg publicDer,decodeRsaPublicKeyBlob publickeyBlob=.ok (e,n) ∧
    decodeRsaSignatureBlob signature=.ok (name,raw) ∧
    rsaSignaturePsaAlgorithm name=some psaAlg ∧
    rsaPublicKeyBlobToDer e n emsshMaxHostKeyBlob=.ok publicDer ∧
    psa.verify psaAlg publicDer message (raw.getD [])=.ok ()

variable (psa algorithm publickeyBlob message signature) in
/-- The algorithm of the request is not one of RSA, or the blob names the same one, or the
signature is not right under the one it names. -/
def AlgorithmKept : Prop :=
  viewIsRsaAlgorithm algorithm=false ∨ signatureAlgorithm signature=algorithm ∨
    ¬RsaAccepted psa publickeyBlob message signature

lemma rsaSignaturePsaAlgorithm_some {name : StringView} {psaAlg : PsaAlgorithm}
    (h : rsaSignaturePsaAlgorithm name=some psaAlg) :
    viewEqualsCstr name (cstr "ssh-rsa")=false := by
  unfold rsaSignaturePsaAlgorithm at h
  split_ifs at h with h256 h512
  · rw [viewEqualsCstr_iff.mp h256]
    decide
  rw [viewEqualsCstr_iff.mp h512]
  decide

lemma verifyRsaPublickey_ok_iff (hr : viewIsRsaAlgorithm algorithm=true)
    (hms : message.length≠0) :
    verifyRsaPublickey psa algorithm publickeyBlob message signature=.ok () ↔
      RsaAccepted psa publickeyBlob message signature := by
  unfold verifyRsaPublickey
  rw [if_neg (by rw [hr]; decide)]
  constructor
  · intro h
    obtain ⟨⟨e,n⟩,hk,h⟩ := except_bind_ok h
    obtain ⟨⟨name,raw⟩,hs,h⟩ := except_bind_ok h
    obtain ⟨-,h⟩ := passed_check h
    rcases hp : rsaSignaturePsaAlgorithm name with _ | psaAlg
    · rw [hp] at h
      exact nomatch h
    rw [hp] at h
    obtain ⟨publicDer,hd,hv⟩ := except_bind_ok h
    exact ⟨hms,e,n,name,raw,psaAlg,publicDer,hk,hs,hp,hd,hv⟩
  rintro ⟨-,e,n,name,raw,psaAlg,publicDer,hk,hs,hp,hd,hv⟩
  rw [hk,hs]
  change (if viewEqualsCstr name (cstr "ssh-rsa")=true then _ else _)=_
  rw [rsaSignaturePsaAlgorithm_some hp,if_neg (by decide),hp]
  change (rsaPublicKeyBlobToDer e n emsshMaxHostKeyBlob >>= _)=_
  rw [hd]
  exact hv

lemma verifyEd25519Publickey_name
    (h : verifyEd25519Publickey psa publickeyBlob message signature=.ok ()) :
    signatureAlgorithm signature=some (cstr "ssh-ed25519") := by
  obtain ⟨_,-,h⟩ := except_bind_ok h
  obtain ⟨_,hs,-⟩ := except_bind_ok h
  obtain ⟨t,ht⟩ := decodedBlob_name hs
  obtain ⟨_,_,hc,-⟩ := checkedString_ok ht
  exact viewEqualsCstr_iff.mp hc.1

lemma verifyEcdsaP256Publickey_name
    (h : verifyEcdsaP256Publickey psa publickeyBlob message signature=.ok ()) :
    signatureAlgorithm signature=some (cstr "ecdsa-sha2-nistp256") := by
  obtain ⟨_,-,h⟩ := except_bind_ok h
  obtain ⟨_,hs,-⟩ := except_bind_ok h
  obtain ⟨_,hi,-⟩ := except_bind_ok hs
  obtain ⟨t,ht⟩ := decodedBlob_name hi
  obtain ⟨_,_,hc,-⟩ := checkedString_ok ht
  exact viewEqualsCstr_iff.mp hc.1

lemma publickeyVerify_kept_iff :
    (mbedtlsPublickeyVerify psa algorithm publickeyBlob message signature=.ok () →
      signatureAlgorithm signature=algorithm) ↔
      AlgorithmKept psa algorithm publickeyBlob message signature := by
  unfold mbedtlsPublickeyVerify AlgorithmKept
  by_cases he : publickeyBlob.length=0 ∨ message.length=0 ∨ signature.length=0
  · rw [if_pos he]
    refine iff_of_true (fun h => nomatch h) (.inr (.inr ?_))
    rintro ⟨hms,e,n,name,raw,psaAlg,publicDer,hk,hs,-⟩
    rcases he with h | h | h
    · rw [length_eq_zero_iff.mp h] at hk
      exact nomatch hk
    · exact hms h
    rw [length_eq_zero_iff.mp h] at hs
    exact nomatch hs
  rw [if_neg he]
  split_ifs with hec hed hr
  · rw [viewEqualsCstr_iff.mp hec]
    exact iff_of_true verifyEcdsaP256Publickey_name (.inl (by decide))
  · rw [viewEqualsCstr_iff.mp hed]
    exact iff_of_true verifyEd25519Publickey_name (.inl (by decide))
  · have hms : message.length≠0 := fun h => he (.inr (.inl h))
    rw [verifyRsaPublickey_ok_iff hr hms,hr]
    by_cases hn : signatureAlgorithm signature=algorithm
    · simp [hn]
    · simp [hn]
  · exact iff_of_true (fun h => nomatch h) (.inl (Bool.not_eq_true _ ▸ hr))

lemma algorithmAccepted_of_listed {server : AuthServer}
    (h : server.signatureAlgorithms=none ∨ server.signatureAlgorithms=some [] ∨
      nameListContainsView server.signatureAlgorithms algorithm=true) :
    algorithmAccepted server algorithm=true := by
  unfold algorithmAccepted
  rcases h with h | h | h
  · rw [h]
  · rw [h]
  split
  · rfl
  · rfl
  rename_i names hn
  rw [hn] at h
  exact h

/-- The algorithm of a request is the one in its signature exactly where it is kept, and a
request for which it is kept only authenticates with a signature of a listed algorithm. -/
theorem publickey_algorithm_kept_iff (psa : PsaVerifier) :
    (∀ algorithm publickeyBlob message signature,
      (mbedtlsPublickeyVerify psa algorithm publickeyBlob message signature=.ok () →
        signatureAlgorithm signature=algorithm) ↔
        AlgorithmKept psa algorithm publickeyBlob message signature) ∧
    ∀ (server : AuthServer) request sessionId message,
      server.publickeyVerify=some (mbedtlsPublickeyVerify psa) →
      signedData sessionId request=.ok message →
      AlgorithmKept psa request.publickeyAlgorithm (request.publickeyBlob.getD []) message
        (request.publickeySignature.getD []) →
      sshUserauthAuthenticatePublickey server request sessionId=.ok () →
      algorithmAccepted server (signatureAlgorithm (request.publickeySignature.getD []))=true := by
  refine ⟨fun _ _ _ _ => publickeyVerify_kept_iff,?_⟩
  intro server request sessionId message hb hms hkp ha
  have hk := (authenticatePublickey_accepted ha).2
  obtain ⟨verify,data,hv,hd,hok⟩ := hk.verified
  rw [hb] at hv
  obtain rfl := Option.some.inj hv
  obtain rfl := Except.ok.inj (hms.symm.trans hd)
  rw [publickeyVerify_kept_iff.mpr hkp hok]
  exact algorithmAccepted_of_listed hk.listed
end

def permissivePsa : PsaVerifier where
  importKey _ _ := .success
  verifyMessage _ _ _ _ := .success

def sampleRsaKey : Bytes := [0,0,0,7]++cstr "ssh-rsa"++[0,0,0,1,3,0,0,0,1,5]
def sampleRsaSignature (name : String) : Bytes := [0,0,0,12]++cstr name++[0,0,0,1,1]

theorem publickey_algorithm_kept_sha512 :
    mbedtlsPublickeyVerify permissivePsa (some (cstr "rsa-sha2-512")) sampleRsaKey [1]
      (sampleRsaSignature "rsa-sha2-512")=.ok () ∧
    signatureAlgorithm (sampleRsaSignature "rsa-sha2-512")=some (cstr "rsa-sha2-512") := by
  have hv : mbedtlsPublickeyVerify permissivePsa (some (cstr "rsa-sha2-512")) sampleRsaKey [1]
      (sampleRsaSignature "rsa-sha2-512")=.ok () := by decide +kernel
  have hk : AlgorithmKept permissivePsa (some (cstr "rsa-sha2-512")) sampleRsaKey [1]
      (sampleRsaSignature "rsa-sha2-512") := .inr (.inl (by decide +kernel))
  exact ⟨hv,((publickey_algorithm_kept_iff permissivePsa).1 _ _ _ _).mpr hk hv⟩

def sha512Server : AuthServer where
  maxAuthTries := 1
  passwordAuth := none
  publickeyAuth := some fun _ => true
  publickeySignatureAlgorithms := some (cstr "rsa-sha2-512")
  permitRootLogin := .no
  allowUsers := none
  publickeyVerify := some (mbedtlsPublickeyVerify permissivePsa)
  cryptoSignatureAlgorithms := none

def downgradedRequest : UserauthRequest where
  username := some (cstr "a")
  serviceName := some sshServiceConnection
  methodName := some sshAuthMethodPublickey
  publickeyHasSignature := true
  publickeyAlgorithm := some (cstr "rsa-sha2-512")
  publickeyBlob := some sampleRsaKey
  publickeySignature := some (sampleRsaSignature "rsa-sha2-256")

/-- It is accepted, and it authenticates although the algorithm is not in the list. -/
theorem publickey_algorithm_downgraded :
    mbedtlsPublickeyVerify permissivePsa (some (cstr "rsa-sha2-512")) sampleRsaKey [1]
      (sampleRsaSignature "rsa-sha2-256")=.ok () ∧
    signatureAlgorithm (sampleRsaSignature "rsa-sha2-256")=some (cstr "rsa-sha2-256") ∧
    sshUserauthAuthenticatePublickey sha512Server downgradedRequest [1]=.ok () ∧
    algorithmAccepted sha512Server (some (cstr "rsa-sha2-256"))=false := by
  refine ⟨?_,?_,?_,?_⟩ <;> decide +kernel

end EMSSHD
