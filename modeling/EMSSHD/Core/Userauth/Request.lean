import EMSSHD.Core.Connection.Encode
import EMSSHD.Core.Userauth.Policy

namespace EMSSHD

def sshMsgServiceRequest : UInt8 := 5
def sshMsgServiceAccept : UInt8 := 6
def sshMsgUserauthRequest : UInt8 := 50
def sshMsgUserauthFailure : UInt8 := 51
def sshMsgUserauthSuccess : UInt8 := 52
def sshMsgUserauthPkOk : UInt8 := 60

def sshAuthMethodNone : Bytes := cstr "none"
def sshAuthMethodPassword : Bytes := cstr "password"
def sshAuthMethodPublickey : Bytes := cstr "publickey"
def sshServiceUserauth : Bytes := cstr "ssh-userauth"
def sshServiceConnection : Bytes := cstr "ssh-connection"

def emsshMaxUserauthPayload : Nat := 2048
def emsshMaxServicePayload : Nat := 256
def emsshMaxUserauthFailureMethods : Nat := 64

structure UserauthRequest where
  username : StringView := none
  serviceName : StringView := none
  methodName : StringView := none
  passwordChangeRequest : Bool := false
  password : StringView := none
  publickeyHasSignature : Bool := false
  publickeyAlgorithm : StringView := none
  publickeyBlob : StringView := none
  publickeySignature : StringView := none
  deriving DecidableEq

/-- ssh_string_view_t.len -/
def viewLen (view : StringView) : Nat := (view.getD []).length

def userauthPasswordFields : Decoder UserauthRequest Unit := do
  readInto sshBufferGetBool fun v r => {r with passwordChangeRequest := v}
  readInto sshBufferGetStringView fun v r => {r with password := v}
  expectEnd .malformedPacket

def userauthPublickeyFields : Decoder UserauthRequest Unit := do
  readInto sshBufferGetBool fun v r => {r with publickeyHasSignature := v}
  readInto sshBufferGetStringView fun v r => {r with publickeyAlgorithm := v}
  readInto sshBufferGetStringView fun v r => {r with publickeyBlob := v}
  let s ← Call.get
  Call.require (viewLen s.2.publickeyAlgorithm≠0 ∧ viewLen s.2.publickeyBlob≠0) .malformedPacket
  Call.onlyIf (s.2.publickeyHasSignature=true) do
    readInto sshBufferGetStringView fun v r => {r with publickeySignature := v}
    let t ← Call.get
    Call.require (viewLen t.2.publickeySignature≠0) .malformedPacket
  expectEnd .malformedPacket

def sshUserauthRequestDecode : Decoder UserauthRequest Unit := do
  let messageId ← Call.onFst sshBufferGetU8
  Call.require (messageId=sshMsgUserauthRequest) .malformedPacket
  readInto sshBufferGetStringView fun v r => {r with username := v}
  readInto sshBufferGetStringView fun v r => {r with serviceName := v}
  readInto sshBufferGetStringView fun v r => {r with methodName := v}
  let s ← Call.get
  Call.require (viewLen s.2.username≠0 ∧
    viewEqualsCstr s.2.serviceName sshServiceConnection=true) .malformedPacket
  if viewEqualsCstr s.2.methodName sshAuthMethodNone then expectEnd .malformedPacket
  else if viewEqualsCstr s.2.methodName sshAuthMethodPassword then userauthPasswordFields
  else if viewEqualsCstr s.2.methodName sshAuthMethodPublickey then userauthPublickeyFields
  else pure ()

/-- ssh_password_auth_request_t -/
structure PasswordAuthRequest where
  username : StringView
  serviceName : StringView
  password : StringView
  deriving DecidableEq

/-- ssh_publickey_auth_request_t -/
structure PublickeyAuthRequest where
  username : StringView
  serviceName : StringView
  algorithm : StringView
  publickeyBlob : StringView
  deriving DecidableEq

/-- What user authentication uses of ssh_server_t: its configuration, the signature check of
the crypto backend, and the list of algorithms that stands in for a missing one. -/
structure AuthServer where
  maxAuthTries : Nat
  passwordAuth : Option (PasswordAuthRequest → Bool)
  publickeyAuth : Option (PublickeyAuthRequest → Bool)
  publickeySignatureAlgorithms : Option Bytes
  permitRootLogin : PermitRootLogin
  allowUsers : Option Bytes
  publickeyVerify : Option ((algorithm : StringView) → (blob data signature : Bytes) →
    Except Err Unit)
  cryptoSignatureAlgorithms : Option Bytes

namespace AuthServer

def signatureAlgorithms (server : AuthServer) : Option Bytes :=
  server.publickeySignatureAlgorithms.or server.cryptoSignatureAlgorithms
end AuthServer

def requestAllowedByServerPolicy (server : AuthServer) (request : UserauthRequest) : Bool :=
  usernameAllowedByAllowUsers server.allowUsers request.username &&
  (!usernameIsRoot request.username || rootLoginAllows server.permitRootLogin
    (viewEqualsCstr request.methodName sshAuthMethodPassword))

def sshUserauthAuthenticatePassword (server : AuthServer) (request : UserauthRequest) :
    Except Err Unit :=
  if viewEqualsCstr request.methodName sshAuthMethodPassword=false ∨
      request.passwordChangeRequest=true ∨
      viewEqualsCstr request.serviceName sshServiceConnection=false then .error .invalidArgument
  else match server.passwordAuth with
    | none => .error .security
    | some passwordAuth =>
      if requestAllowedByServerPolicy server request=false then .error .security
      else if passwordAuth ⟨request.username,request.serviceName,request.password⟩ then .ok ()
      else .error .security

def algorithmAccepted (server : AuthServer) (algorithm : StringView) : Bool :=
  match server.signatureAlgorithms with
  | none => true
  | some [] => true
  | some names => nameListContainsView (some names) algorithm

def sshUserauthPublickeyIsAcceptable (server : AuthServer) (request : UserauthRequest) :
    Except Err Unit :=
  if viewEqualsCstr request.methodName sshAuthMethodPublickey=false ∨
      viewEqualsCstr request.serviceName sshServiceConnection=false ∨
      request.publickeyAlgorithm=none ∨ request.publickeyBlob=none then .error .invalidArgument
  else match server.publickeyAuth with
    | none => .error .security
    | some publickeyAuth =>
      if requestAllowedByServerPolicy server request=false then .error .security
      else if algorithmAccepted server request.publickeyAlgorithm=false then .error .security
      else if publickeyAuth ⟨request.username,request.serviceName,request.publickeyAlgorithm,
          request.publickeyBlob⟩ then .ok ()
      else .error .security

def signedDataEncode (sessionId : Bytes) (request : UserauthRequest) : Encoder := do
  sshBufferPutString sessionId
  sshBufferPutU8 sshMsgUserauthRequest
  sshBufferPutString (request.username.getD [])
  sshBufferPutString (request.serviceName.getD [])
  sshBufferPutString (request.methodName.getD [])
  sshBufferPutBool true
  sshBufferPutString (request.publickeyAlgorithm.getD [])
  sshBufferPutString (request.publickeyBlob.getD [])

def signedData (sessionId : Bytes) (request : UserauthRequest) : Except Err Bytes :=
  match (signedDataEncode sessionId request).run (sshBufferInit
    (List.replicate (emsshMaxUserauthPayload+emsshMaxExchangeHash+8) 0)) with
  | (.ok _,buffer) => .ok buffer.contents
  | (.error e,_) => .error e

def verifyStatus : Except Err Unit → Except Err Unit
  | .ok _ => .ok ()
  | .error e => .error (if e=.unsupported then .unsupported else .security)

def sshUserauthAuthenticatePublickey (server : AuthServer) (request : UserauthRequest)
    (sessionId : Bytes) : Except Err Unit :=
  if sessionId.length=0 ∨ request.publickeyHasSignature=false ∨
      request.publickeySignature=none ∨ viewLen request.publickeySignature=0 then
    .error .invalidArgument
  else match sshUserauthPublickeyIsAcceptable server request with
    | .error e => .error e
    | .ok _ => match server.publickeyVerify with
      | none => .error .platform
      | some publickeyVerify => match signedData sessionId request with
        | .error e => .error e
        | .ok data => verifyStatus (publickeyVerify request.publickeyAlgorithm
          (request.publickeyBlob.getD []) data (request.publickeySignature.getD []))

inductive UserauthDecision where
  | failure
  | success
  | pkOk
  deriving DecidableEq

/-- The decision that a status stands for, or the status itself. The statuses in refusals
are a failure of the request and not of the connection. -/
def decideOn (status : Except Err Unit) (accepted : UserauthDecision) (refusals : List Err) :
    Except Err UserauthDecision :=
  match status with
  | .ok _ => .ok accepted
  | .error e => if e∈refusals then .ok .failure else .error e

def sshUserauthEvaluateRequest (server : AuthServer) (request : UserauthRequest)
    (sessionId : Bytes) : Except Err UserauthDecision :=
  if viewEqualsCstr request.methodName sshAuthMethodPassword then
    decideOn (sshUserauthAuthenticatePassword server request) .success [.security]
  else if viewEqualsCstr request.methodName sshAuthMethodPublickey then
    if request.publickeyHasSignature then
      if sessionId.length=0 then .error .invalidArgument
      else decideOn (sshUserauthAuthenticatePublickey server request sessionId) .success
        [.security,.unsupported]
    else decideOn (sshUserauthPublickeyIsAcceptable server request) .pkOk [.security]
  else .ok .failure

variable {server : AuthServer} {request : UserauthRequest} {sessionId : Bytes}

/-- A password request that the callback accepts. -/
structure PasswordAccepted (server : AuthServer) (request : UserauthRequest) : Prop where
  method : request.methodName=some sshAuthMethodPassword
  noChange : request.passwordChangeRequest=false
  accepted : ∃ passwordAuth,server.passwordAuth=some passwordAuth ∧
    passwordAuth ⟨request.username,request.serviceName,request.password⟩=true

/-- A publickey request whose key the callback accepts and whose signature is right. -/
structure PublickeyAccepted (server : AuthServer) (sessionId : Bytes)
    (request : UserauthRequest) : Prop where
  method : request.methodName=some sshAuthMethodPublickey
  signed : request.publickeyHasSignature=true
  accepted : ∃ publickeyAuth,server.publickeyAuth=some publickeyAuth ∧ publickeyAuth
    ⟨request.username,request.serviceName,request.publickeyAlgorithm,request.publickeyBlob⟩=true
  listed : server.signatureAlgorithms=none ∨ server.signatureAlgorithms=some [] ∨
    nameListContainsView server.signatureAlgorithms request.publickeyAlgorithm=true
  verified : ∃ publickeyVerify data,server.publickeyVerify=some publickeyVerify ∧
    signedData sessionId request=.ok data ∧
    publickeyVerify request.publickeyAlgorithm (request.publickeyBlob.getD []) data
      (request.publickeySignature.getD [])=.ok ()

/-- Everything that stands behind a successful authentication. -/
structure Authorised (server : AuthServer) (sessionId : Bytes) (request : UserauthRequest) :
    Prop where
  service : request.serviceName=some sshServiceConnection
  allowed : usernameAllowedByAllowUsers server.allowUsers request.username=true
  root : request.username=some (cstr "root") → rootLoginAllows server.permitRootLogin
    (viewEqualsCstr request.methodName sshAuthMethodPassword)=true
  method : PasswordAccepted server request ∨ PublickeyAccepted server sessionId request

variable {status : Except Err Unit}

lemma decideOn_success {accepted : UserauthDecision} {refusals : List Err}
    (h : decideOn status accepted refusals=.ok .success) : status=.ok () ∧ accepted=.success := by
  cases status with
  | ok _ => exact ⟨rfl,Except.ok.inj h⟩
  | error e =>
    rw [decideOn] at h
    split_ifs at h
    cases h

lemma viewEqualsCstr_iff {view : StringView} {value : Bytes} :
    viewEqualsCstr view value=true ↔ view=some value := decide_eq_true_iff

lemma requestAllowed_policy (h : requestAllowedByServerPolicy server request=true) :
    usernameAllowedByAllowUsers server.allowUsers request.username=true ∧
      (request.username=some (cstr "root") → rootLoginAllows server.permitRootLogin
        (viewEqualsCstr request.methodName sshAuthMethodPassword)=true) := by
  obtain ⟨ha,hr⟩ := Bool.and_eq_true_iff.mp h
  refine ⟨ha,fun hn => ?_⟩
  have his : usernameIsRoot request.username=true := viewEqualsCstr_iff.mpr hn
  rw [his] at hr
  exact hr

lemma passed_check {α : Type} {c : Prop} [Decidable c] {e : Err} {next : Except Err α} {a : α}
    (h : (if c then .error e else next)=.ok a) : ¬c ∧ next=.ok a := by
  by_cases hc : c
  · rw [if_pos hc] at h
    cases h
  rw [if_neg hc] at h
  exact ⟨hc,h⟩

lemma callback_said_yes {accepts : Prop} [Decidable accepts]
    (h : (if accepts then .ok () else .error .security : Except Err Unit)=.ok ()) : accepts := by
  by_contra hno
  rw [if_neg hno] at h
  cases h

lemma authenticatePassword_authorised
    (h : sshUserauthAuthenticatePassword server request=.ok ()) :
    Authorised server sessionId request := by
  obtain ⟨hf,hr⟩ := passed_check h
  simp only [not_or,Bool.not_eq_false,Bool.not_eq_true] at hf
  obtain ⟨hm,hc,hs⟩ := hf
  rcases ha : server.passwordAuth with _ | passwordAuth
  · rw [ha] at hr
    cases hr
  rw [ha] at hr
  obtain ⟨hp,hcl⟩ := passed_check hr
  obtain ⟨hal,hrt⟩ := requestAllowed_policy (Bool.not_eq_false _ ▸ hp)
  exact ⟨viewEqualsCstr_iff.mp hs,hal,hrt,
    .inl ⟨viewEqualsCstr_iff.mp hm,hc,passwordAuth,ha,callback_said_yes hcl⟩⟩

lemma algorithmAccepted_listed {alg : StringView} (h : algorithmAccepted server alg=true) :
    server.signatureAlgorithms=none ∨ server.signatureAlgorithms=some [] ∨
      nameListContainsView server.signatureAlgorithms alg=true := by
  unfold algorithmAccepted at h
  rcases hn : server.signatureAlgorithms with _ | list
  · exact .inl rfl
  rw [hn] at h
  cases list with
  | nil => exact .inr (.inl rfl)
  | cons c rest => exact .inr (.inr h)

/-- A request for a key that would be accepted, with or without a signature. -/
structure KeyAcceptable (server : AuthServer) (request : UserauthRequest) : Prop where
  method : request.methodName=some sshAuthMethodPublickey
  service : request.serviceName=some sshServiceConnection
  policy : requestAllowedByServerPolicy server request=true
  listed : server.signatureAlgorithms=none ∨ server.signatureAlgorithms=some [] ∨
    nameListContainsView server.signatureAlgorithms request.publickeyAlgorithm=true
  accepted : ∃ publickeyAuth,server.publickeyAuth=some publickeyAuth ∧ publickeyAuth
    ⟨request.username,request.serviceName,request.publickeyAlgorithm,request.publickeyBlob⟩=true

lemma publickeyIsAcceptable_ok (h : sshUserauthPublickeyIsAcceptable server request=.ok ()) :
    KeyAcceptable server request := by
  obtain ⟨hf,hr⟩ := passed_check h
  simp only [not_or,Bool.not_eq_false] at hf
  obtain ⟨hm,hs,_⟩ := hf
  rcases ha : server.publickeyAuth with _ | publickeyAuth
  · rw [ha] at hr
    cases hr
  rw [ha] at hr
  obtain ⟨hp,hn⟩ := passed_check hr
  obtain ⟨hls,hc⟩ := passed_check hn
  have hl := algorithmAccepted_listed (Bool.not_eq_false _ ▸ hls)
  exact ⟨viewEqualsCstr_iff.mp hm,viewEqualsCstr_iff.mp hs,
    Bool.not_eq_false _ ▸ hp,hl,publickeyAuth,ha,callback_said_yes hc⟩

lemma verifyStatus_ok (h : verifyStatus status=.ok ()) : status=.ok () := by
  cases status with
  | ok _ => rfl
  | error e => cases h

lemma authenticatePublickey_accepted
    (h : sshUserauthAuthenticatePublickey server request sessionId=.ok ()) :
    KeyAcceptable server request ∧ PublickeyAccepted server sessionId request := by
  obtain ⟨hf,hr⟩ := passed_check h
  simp only [not_or,Bool.not_eq_false] at hf
  obtain ⟨_,hs,_⟩ := hf
  rcases hk : sshUserauthPublickeyIsAcceptable server request with _ | u
  · rw [hk] at hr
    cases hr
  rw [hk] at hr
  have key := publickeyIsAcceptable_ok hk
  rcases hb : server.publickeyVerify with _ | publickeyVerify
  · rw [hb] at hr
    cases hr
  rcases hd : signedData sessionId request with _ | data
  · rw [hb,hd] at hr
    cases hr
  rw [hb,hd] at hr
  have hv := verifyStatus_ok hr
  exact ⟨key,key.method,hs,key.accepted,key.listed,publickeyVerify,data,hb,hd,hv⟩

lemma authenticatePublickey_authorised
    (h : sshUserauthAuthenticatePublickey server request sessionId=.ok ()) :
    Authorised server sessionId request := by
  obtain ⟨key,ha⟩ := authenticatePublickey_accepted h
  obtain ⟨hal,hr⟩ := requestAllowed_policy key.policy
  exact ⟨key.service,hal,hr,.inr ha⟩

lemma evaluateRequest_authorised
    (h : sshUserauthEvaluateRequest server request sessionId=.ok .success) :
    Authorised server sessionId request := by
  unfold sshUserauthEvaluateRequest at h
  by_cases hp : viewEqualsCstr request.methodName sshAuthMethodPassword=true
  · rw [if_pos hp] at h
    exact authenticatePassword_authorised (decideOn_success h).1
  rw [if_neg hp] at h
  by_cases hk : viewEqualsCstr request.methodName sshAuthMethodPublickey=true
  · rw [if_pos hk] at h
    by_cases hs : request.publickeyHasSignature=true
    · rw [if_pos hs] at h
      obtain ⟨_,hd⟩ := passed_check h
      exact authenticatePublickey_authorised (decideOn_success hd).1
    -- a key that is only offered is answered, and never a success
    rw [if_neg hs] at h
    cases (decideOn_success h).2
  rw [if_neg hk] at h
  cases h

end EMSSHD
