import EMSSHD.Core.Parses
import EMSSHD.Core.Userauth.Request

namespace EMSSHD

open Call

def requestBody (r : UserauthRequest) : Bytes :=
  [sshMsgUserauthRequest]++(stringField (r.username.getD [])++
    (stringField (r.serviceName.getD [])++(stringField (r.methodName.getD [])++([1]++
      (stringField (r.publickeyAlgorithm.getD [])++stringField (r.publickeyBlob.getD []))))))

/-- The payload is a signed request and its signature, and nothing else. -/
structure SignedRequest (payload : Bytes) (r : UserauthRequest) : Prop where
  wire : payload=requestBody r++stringField (r.publickeySignature.getD [])
  signature : ViewFits r.publickeySignature ∧ viewLen r.publickeySignature≠0
  lengths : ∀ view∈[r.username,r.serviceName,r.methodName,r.publickeyAlgorithm,r.publickeyBlob],
    ViewFits view

section
/-- The fields of a publickey request with a signature. -/
structure SignedFields (input : Bytes) (before r : UserauthRequest) : Prop where
  wire : input=[1]++(stringField (r.publickeyAlgorithm.getD [])++
    (stringField (r.publickeyBlob.getD [])++stringField (r.publickeySignature.getD [])))
  algorithm : ViewFits r.publickeyAlgorithm
  blob : ViewFits r.publickeyBlob
  signature : ViewFits r.publickeySignature ∧ viewLen r.publickeySignature≠0
  kept : (r.username,r.serviceName,r.methodName)=
    (before.username,before.serviceName,before.methodName)

variable {b : SshBuffer} {input : Bytes}

lemma signatureField_takes (r : UserauthRequest) (hb : b.Unread input) :
    (do
      readInto sshBufferGetStringView fun v r => {r with publickeySignature := v}
      let t ← Call.get
      Call.require (viewLen t.2.publickeySignature≠0) .malformedPacket :
        Decoder UserauthRequest Unit).Ensures (b,r) (Outcome
      (fun _ t => ∃ view rest,(ViewFits view ∧ viewLen view≠0) ∧
        input=stringField (view.getD [])++rest ∧ t.1.Unread rest ∧
        t.2={r with publickeySignature := view})
      fun _ _ => True) := by
  refine .bind (parses_getStringView.readInto r hb) (fun _ t ht => ?_) fun _ _ _ => trivial
  obtain ⟨view,rest,hv,hi,hr,ht⟩ := ht
  refine .bindGet (.require (fun hl => ?_) fun _ => trivial)
  rw [ht] at hl
  exact ⟨view,rest,⟨hv,hl⟩,hi,hr,ht⟩

lemma publickeyFields_takes (r : UserauthRequest) (hb : b.Unread input) :
    userauthPublickeyFields.Ensures (b,r) (Outcome
      (fun _ t => t.2.publickeyHasSignature=true → SignedFields input r t.2) fun _ _ => True) := by
  refine .bind (parses_getBool.readInto r hb) (fun _ t ht => ?_) fun _ _ _ => trivial
  obtain ⟨flag,rest1,_,hi,hrs,ht⟩ := ht
  refine .bind (parses_getStringView.readInto t.2 hrs) (fun _ u hu => ?_) fun _ _ _ => trivial
  obtain ⟨algorithm,rest2,ha,hin,hrt,hu⟩ := hu
  refine .bind (parses_getStringView.readInto u.2 hrt) (fun _ v hv => ?_) fun _ _ _ => trivial
  obtain ⟨blob,rest3,hbl,hip,hr,hv⟩ := hv
  refine .bindGet (.bindRequire (fun _ => ?_) fun _ => trivial)
  by_cases hs : v.2.publickeyHasSignature=true
  · have hf : flag=true := by
      rw [hv,hu,ht] at hs
      exact hs
    rw [Call.onlyIf,if_pos hs]
    refine .bind (signatureField_takes v.2 hr) (fun _ w hw => ?_) fun _ _ _ => trivial
    obtain ⟨signature,rest4,hsg,hit,hre,hw⟩ := hw
    apply (expectEnd_ends .malformedPacket w.2 hre).mono
    intro a x hx
    rcases a with _ | _
    · trivial
    obtain ⟨he,hx⟩ := hx
    intro _
    rw [hx,hw,hv,hu,ht]
    refine ⟨?_,ha,hbl,hsg,rfl⟩
    rw [hi,hin,hip,hit,he,hf,append_nil]
    rfl
  rw [Call.onlyIf,if_neg hs]
  apply bindOk (run_pure () v)
  apply (expectEnd_ends .malformedPacket v.2 hr).mono
  intro a x hx
  rcases a with _ | _
  · trivial
  intro hno
  rw [hx.2] at hno
  exact absurd hno hs

lemma passwordFields_method (r : UserauthRequest) (hb : b.Unread input) :
    userauthPasswordFields.Ensures (b,r)
      (Outcome (fun _ t => t.2.methodName=r.methodName) fun _ _ => True) := by
  refine .bind (parses_getBool.readInto r hb) (fun _ t ht => ?_) fun _ _ _ => trivial
  obtain ⟨flag,rest,_,_,hr,ht⟩ := ht
  refine .bind (parses_getStringView.readInto t.2 hr) (fun _ u hu => ?_) fun _ _ _ => trivial
  obtain ⟨password,later,_,_,hl,hu⟩ := hu
  apply (expectEnd_ends .malformedPacket u.2 hl).mono
  intro a x hx
  rcases a with _ | _
  · trivial
  change x.2.methodName=_
  rw [hx.2,hu,ht]

lemma userauthDecode_signed (payload : Bytes) :
    sshUserauthRequestDecode.Ensures (sshBufferWrap payload,{}) (Outcome
      (fun _ t => t.2.methodName=some sshAuthMethodPublickey →
        t.2.publickeyHasSignature=true → SignedRequest payload t.2) fun _ _ => True) := by
  have hid := Ensures.onFst (s := (sshBufferWrap payload,({} : UserauthRequest)))
    (parses_getU8.takes _ payload (wrap_unread payload))
  refine .bind hid (fun messageId t ht => ?_) fun _ _ _ => trivial
  obtain ⟨⟨_,rest0,hi,hrs⟩,_⟩ := ht
  refine .bindRequire (fun hrq => ?_) fun _ => trivial
  refine .bind (parses_getStringView.readInto t.2 hrs) (fun _ u hu => ?_) fun _ _ _ => trivial
  obtain ⟨username,rest1,hus,hin,hrt,hu⟩ := hu
  refine .bind (parses_getStringView.readInto u.2 hrt) (fun _ v hv => ?_) fun _ _ _ => trivial
  obtain ⟨service,rest2,hsr,hip,hre,hv⟩ := hv
  refine .bind (parses_getStringView.readInto v.2 hre) (fun _ w hw => ?_) fun _ _ _ => trivial
  obtain ⟨method,rest3,hmt,hit,hr,hw⟩ := hw
  refine .bindGet (.bindRequire (fun _ => ?_) fun _ => trivial)
  refine .ite (fun hnn => ?_) fun _ => .ite (fun hps => ?_) fun _ =>
    .ite (fun _ => ?_) fun ho => ?_
  · apply (expectEnd_ends .malformedPacket w.2 hr).mono
    intro a x hx
    rcases a with _ | _
    · trivial
    intro hp
    rw [hx.2,viewEqualsCstr_iff.mp hnn] at hp
    exact absurd hp (by decide)
  · apply (passwordFields_method w.2 hr).mono
    intro a x hx
    rcases a with _ | _
    · trivial
    intro hp
    rw [show x.2.methodName=_ from hx,viewEqualsCstr_iff.mp hps] at hp
    exact absurd hp (by decide)
  · apply (publickeyFields_takes w.2 hr).mono
    intro a x hx
    rcases a with _ | _
    · trivial
    intro _ hsg
    have hf := hx hsg
    obtain ⟨hn,hk⟩ := Prod.mk.inj hf.kept
    obtain ⟨hs,hm⟩ := Prod.mk.inj hk
    rw [hw,hv,hu] at hn hs hm
    refine ⟨?_,hf.signature,?_⟩
    · rw [requestBody,hn,hs,hm,hi,hin,hip,hit,hf.wire,hrq]
      simp only [append_assoc]
    simp only [forall_mem_cons,not_mem_nil,false_imp_iff,implies_true,and_true]
    rw [hn,hs,hm]
    exact ⟨hus,hsr,hmt,hf.algorithm,hf.blob⟩
  intro hp
  exact absurd (viewEqualsCstr_iff.mpr hp) ho

lemma signedRequest_of_decoded {payload : Bytes} {request : UserauthRequest}
    (h : decodedBy sshUserauthRequestDecode {} payload=.ok request)
    (hm : request.methodName=some sshAuthMethodPublickey)
    (hs : request.publickeyHasSignature=true) : SignedRequest payload request := by
  have hd : request.methodName=some sshAuthMethodPublickey →
      request.publickeyHasSignature=true → SignedRequest payload request := by
    apply decodedBy_ensures (P := fun r => r.methodName=some sshAuthMethodPublickey →
      r.publickeyHasSignature=true → SignedRequest payload r) h
    apply (userauthDecode_signed payload).mono
    intro r t ht hr
    cases r with
    | error e => cases hr
    | ok _ => exact ht
  exact hd hm hs
end

section
variable {payload sessionId : Bytes} {request : UserauthRequest}

lemma viewFits_length {view : StringView} (h : ViewFits view) :
    (view.getD []).length≤uint32Max := by
  obtain ⟨data,rfl,hl⟩ := h
  unfold uint32Max
  rw [Option.getD_some]
  omega

lemma writes_signedData (h : SignedRequest payload request)
    (hid : sessionId.length≤emsshMaxExchangeHash) :
    Writes (signedDataEncode sessionId request) (stringField sessionId++requestBody request) := by
  have hsm : sessionId.length≤uint32Max := by
    unfold emsshMaxExchangeHash at hid
    unfold uint32Max
    omega
  have hf := h.lengths
  simp only [forall_mem_cons,not_mem_nil,false_imp_iff,implies_true,and_true] at hf
  obtain ⟨hu,hs,hm,ha,hb⟩ := hf
  exact (writes_putString hsm).bind ((writes_putRaw _).bind
    ((writes_putString (viewFits_length hu)).bind
    ((writes_putString (viewFits_length hs)).bind
    ((writes_putString (viewFits_length hm)).bind ((writes_putRaw _).bind
    ((writes_putString (viewFits_length ha)).bind
    (writes_putString (viewFits_length hb))))))))

lemma signedData_eq (h : SignedRequest payload request)
    (hp : payload.length≤emsshMaxUserauthPayload) (hid : sessionId.length≤emsshMaxExchangeHash) :
    signedData sessionId request=.ok (stringField sessionId++requestBody request) := by
  have hw := writes_signedData h hid
  have hl := congrArg List.length h.wire
  have hr : (stringField sessionId++requestBody request).length ≤
      emsshMaxUserauthPayload+emsshMaxExchangeHash+8 := by
    rw [length_append] at hl ⊢
    rw [stringField,length_append,beBytes_length]
    omega
  exact hw.encodedBy hr
end

/-- The signature of a request is checked over the session id and the request as it has been
received, without the signature itself. -/
theorem signed_data_is_request {payload sessionId : Bytes} {request : UserauthRequest}
    (hpayload : payload.length≤emsshMaxUserauthPayload)
    (hdecoded : decodedBy sshUserauthRequestDecode {} payload=.ok request)
    (hmethod : request.methodName=some sshAuthMethodPublickey)
    (hsigned : request.publickeyHasSignature=true)
    (hid : 1 ≤ sessionId.length ∧ sessionId.length≤emsshMaxExchangeHash) (server : AuthServer) :
    ∃ body signature,payload=body++stringField signature ∧
      request.publickeySignature=some signature ∧
      signedData sessionId request=.ok (stringField sessionId++body) ∧
      sshUserauthAuthenticatePublickey server request sessionId=
        match sshUserauthPublickeyIsAcceptable server request with
        | .error e => .error e
        | .ok _ => match server.publickeyVerify with
          | none => .error .platform
          | some publickeyVerify => verifyStatus (publickeyVerify request.publickeyAlgorithm
              (request.publickeyBlob.getD []) (stringField sessionId++body) signature) := by
  have hr := signedRequest_of_decoded hdecoded hmethod hsigned
  have hd := signedData_eq hr hpayload hid.2
  obtain ⟨⟨signature,hs,_⟩,hn⟩ := hr.signature
  have hw := hr.wire
  rw [hs,Option.getD_some] at hw
  refine ⟨requestBody request,signature,hw,hs,hd,?_⟩
  have hc : ¬(sessionId.length=0 ∨ request.publickeyHasSignature=false ∨
      request.publickeySignature=none ∨ viewLen request.publickeySignature=0) := by
    rw [hsigned,hs]
    rw [hs] at hn
    simp only [Bool.true_eq_false,false_or,reduceCtorEq,not_or]
    exact ⟨by omega,hn⟩
  rw [sshUserauthAuthenticatePublickey,if_neg hc,hd,hs]
  rfl

def sampleRequest : UserauthRequest where
  username := some (cstr "root")
  serviceName := some sshServiceConnection
  methodName := some sshAuthMethodPublickey
  publickeyHasSignature := true
  publickeyAlgorithm := some (cstr "ssh-ed25519")
  publickeyBlob := some [1,2]
  publickeySignature := some [3]

def trustingServer : AuthServer where
  maxAuthTries := 1
  passwordAuth := none
  publickeyAuth := some fun _ => true
  publickeySignatureAlgorithms := none
  permitRootLogin := .yes
  allowUsers := none
  publickeyVerify := some fun _ blob data _ =>
    if blob.isSuffixOf data then .ok () else .error .security
  cryptoSignatureAlgorithms := none

theorem signed_data_is_request_sample :
    ∃ body signature,requestBody sampleRequest++stringField [3]=body++stringField signature ∧
      signedData [9] sampleRequest=.ok (stringField [9]++body) ∧
      sshUserauthAuthenticatePublickey trustingServer sampleRequest [9]=
        verifyStatus (if [1,2].isSuffixOf (stringField [9]++body) then .ok ()
          else .error .security) := by
  have hl : (requestBody sampleRequest++stringField [3]).length≤emsshMaxUserauthPayload := by
    decide +kernel
  have hd : decodedBy sshUserauthRequestDecode {}
      (requestBody sampleRequest++stringField [3])=.ok sampleRequest := by decide +kernel
  have hid : 1 ≤ ([9] : Bytes).length ∧ ([9] : Bytes).length≤emsshMaxExchangeHash := by decide
  obtain ⟨body,signature,hw,_,hdt,hv⟩ := signed_data_is_request hl hd rfl rfl hid trustingServer
  refine ⟨body,signature,hw,hdt,hv.trans ?_⟩
  have ha : sshUserauthPublickeyIsAcceptable trustingServer sampleRequest=.ok () := by
    decide +kernel
  rw [ha]
  rfl

end EMSSHD
