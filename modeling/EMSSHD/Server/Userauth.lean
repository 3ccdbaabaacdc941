import EMSSHD.Core.Userauth.Request
import EMSSHD.Server.Terminal.Channel

namespace EMSSHD

open Call

inductive UserauthMessage where
  | serviceAccept (serviceName : Bytes)
  | pkOk (publickeyAlgorithm publickeyBlob : StringView)
  | success
  | failure (methods : Bytes) (partialSuccess : Bool)
  deriving DecidableEq

def sshServiceAcceptEncode (serviceName : Bytes) : Encoder := do
  sshBufferPutU8 sshMsgServiceAccept
  sshBufferPutCstring serviceName

def sshUserauthPkOkEncode (publickeyAlgorithm publickeyBlob : StringView) : Encoder := do
  Call.require (viewLen publickeyAlgorithm≠0 ∧ viewLen publickeyBlob≠0) .invalidArgument
  sshBufferPutU8 sshMsgUserauthPkOk
  sshBufferPutString (publickeyAlgorithm.getD [])
  sshBufferPutString (publickeyBlob.getD [])

def sshUserauthSuccessEncode : Encoder := sshBufferPutU8 sshMsgUserauthSuccess

def sshUserauthFailureEncode (methods : Bytes) (partialSuccess : Bool) : Encoder := do
  sshBufferPutU8 sshMsgUserauthFailure
  sshBufferPutCstring methods
  sshBufferPutBool partialSuccess

namespace UserauthMessage

def encoder : UserauthMessage → Encoder
  | serviceAccept serviceName => sshServiceAcceptEncode serviceName
  | pkOk publickeyAlgorithm publickeyBlob => sshUserauthPkOkEncode publickeyAlgorithm publickeyBlob
  | success => sshUserauthSuccessEncode
  | failure methods partialSuccess => sshUserauthFailureEncode methods partialSuccess

def capacity : UserauthMessage → Nat
  | serviceAccept _ => 256
  | pkOk .. => emsshMaxUserauthPayload
  | success => 8
  | failure .. => 128

def payload (m : UserauthMessage) : Except Err Bytes :=
  match m.encoder.run (sshBufferInit (List.replicate m.capacity 0)) with
  | (.ok _,buffer) => .ok buffer.contents
  | (.error e,_) => .error e
end UserauthMessage

/-- What the session keeps about the user, and the messages handed to the transport for
sending. No function reads the latter. -/
structure AuthRecord where
  authenticatedUsername : Bytes := List.replicate emsshMaxUserauthPayload 0
  authenticatedUsernameLen : Nat := 0
  handed : List UserauthMessage := []
  deriving DecidableEq

abbrev AuthState (κ : Type) := Conn κ×AuthRecord

def writeCstring (storage text : Bytes) : Bytes := text++(0::storage.drop (text.length+1))

def sshServiceRequestDecode : Decoder StringView Unit := do
  let messageId ← Call.onFst sshBufferGetU8
  Call.require (messageId=sshMsgServiceRequest) .malformedPacket
  readInto sshBufferGetStringView fun v _ => v
  let s ← Call.get
  Call.require (viewLen s.2≠0) .malformedPacket
  expectEnd .malformedPacket

def userauthRequestOf (payload : Bytes) : Except Err UserauthRequest :=
  decodedBy sshUserauthRequestDecode {} payload

def sshServiceNameIsSupported (serviceName : StringView) : Bool :=
  viewEqualsCstr serviceName sshServiceUserauth

def appendMethodName (capacity : Nat) (methods name : Bytes) : Except Err Bytes :=
  if methods.length≠0 ∧ capacity ≤ methods.length+1 then .error .bufferTooSmall
  else
    let methods := if methods.length≠0 then methods++cstr "," else methods
    if capacity ≤ methods.length+name.length then .error .bufferTooSmall else .ok (methods++name)

def sshUserauthFailureMethods (server : AuthServer) (capacity : Nat) : Except Err Bytes := do
  let methods ← if server.publickeyAuth.isSome
    then appendMethodName capacity [] sshAuthMethodPublickey else .ok []
  if server.passwordAuth.isSome then appendMethodName capacity methods sshAuthMethodPassword
  else .ok methods

section
variable {κ : Type} (L : LinkApi κ) (server : AuthServer) (sessionId : Bytes)

def sendUserauth (m : UserauthMessage) : Call (AuthState κ) Err Unit := do
  let payload ← Call.lift m.payload
  Call.modify fun s => (s.1,{s.2 with handed := s.2.handed++[m]})
  Call.onFst (onLink (L.send payload))

def sshTransportReceiveServiceRequest : Call (AuthState κ) Err StringView := do
  let payload ← Call.onFst (receiveProtectedPayloadSkipIgnorable L emsshMaxServicePayload)
  let serviceName ← Call.lift (decodedBy sshServiceRequestDecode none payload)
  Call.require (sshServiceNameIsSupported serviceName=true) .unsupported
  pure serviceName

def sshTransportReceiveUserauthRequest : Call (AuthState κ) Err UserauthRequest := do
  let payload ← Call.onFst (receiveProtectedPayloadSkipIgnorable L emsshMaxUserauthPayload)
  Call.lift (userauthRequestOf payload)

def setAuthenticatedUsername (username : StringView) : Call (AuthState κ) Err Unit := do
  let text ← Call.lift (viewToCstring username emsshMaxUserauthPayload)
  Call.modify fun s => (s.1,{s.2 with
    authenticatedUsername := writeCstring s.2.authenticatedUsername text
    authenticatedUsernameLen := viewLen username})

/-- The while loop of ssh_server_run_userauth for at most so many rounds; there is no
result while it goes on. A PK_OK does not count as a try. -/
def userauthLoop : Nat → Nat → Call (AuthState κ) Err (Option Unit)
  | 0,_ => pure none
  | rounds+1,tries =>
    if tries<server.maxAuthTries then do
      let request ← sshTransportReceiveUserauthRequest L
      let decision ← Call.lift (sshUserauthEvaluateRequest server request sessionId)
      match decision with
      | .success => do
        setAuthenticatedUsername request.username
        sendUserauth L .success
        pure (some ())
      | .pkOk => do
        sendUserauth L (.pkOk request.publickeyAlgorithm request.publickeyBlob)
        userauthLoop rounds tries
      | .failure => do
        let methods ← Call.lift (sshUserauthFailureMethods server emsshMaxUserauthFailureMethods)
        sendUserauth L (.failure methods false)
        userauthLoop rounds (tries+1)
    else Call.fail .security

def sshServerRunUserauth (rounds : Nat) : Call (AuthState κ) Err (Option Unit) := do
  Call.modify fun s => (s.1,{s.2 with
    authenticatedUsername := writeCstring s.2.authenticatedUsername []
    authenticatedUsernameLen := 0})
  let serviceName ← sshTransportReceiveServiceRequest L
  Call.require (viewEqualsCstr serviceName sshServiceUserauth=true) .unsupported
  sendUserauth L (.serviceAccept sshServiceUserauth)
  userauthLoop L server sessionId rounds 0
end

def Event.request? : Event → Option UserauthRequest
  | .received payload => (userauthRequestOf payload).toOption
  | _ => none

def Event.refusedBy (server : AuthServer) (sessionId : Bytes) (e : Event) : Bool :=
  e.request?.any fun request => sshUserauthEvaluateRequest server request sessionId=.ok .failure

/-- The session holds the bytes of the name, ended by a NUL, and their number. -/
structure AuthRecord.Holds (record : AuthRecord) (username : StringView) : Prop where
  bytes : record.authenticatedUsername.take record.authenticatedUsernameLen=username.getD []
  len : record.authenticatedUsernameLen=viewLen username

/-- The last payload received is an authorised request, there were fewer refused ones than
tries left before it, and its user is the one on record. -/
def Granted (server : AuthServer) (sessionId : Bytes) (tries : Nat) (evs : List Event)
    (record : AuthRecord) : Prop :=
  ∃ before payload request,evs=before++[.received payload] ∧
    userauthRequestOf payload=.ok request ∧ Authorised server sessionId request ∧
    before.countP (Event.refusedBy server sessionId)+tries < server.maxAuthTries ∧
    record.Holds request.username

section
variable {κ : Type} (L : LinkApi κ) {server : AuthServer} {sessionId : Bytes}

/-- Between two states of a session: what is received and what is handed over. -/
def Exchanged (s t : AuthState κ) (evs : List Event) (out : List UserauthMessage) : Prop :=
  t.1.trace=s.1.trace++evs ∧ t.2.handed=s.2.handed++out

variable {s t u : AuthState κ} {evs : List Event} {out : List UserauthMessage} {messageId : UInt8}
  {payload : Bytes} {left tries : Nat}

lemma Exchanged.trans {later : List Event} {more : List UserauthMessage}
    (h : Exchanged s t evs out) (hu : Exchanged t u later more) :
    Exchanged s u (evs++later) (out++more) := by
  refine ⟨?_,?_⟩
  · rw [hu.1,h.1,append_assoc]
  · rw [hu.2,h.2,append_assoc]

lemma Exchanged.refl (s : AuthState κ) : Exchanged s s [] [] :=
  ⟨(append_nil _).symm,(append_nil _).symm⟩

lemma sendUserauth_exchanged (m : UserauthMessage) (s : AuthState κ) :
    (sendUserauth L m).Ensures s (fun r t => ∃ out,Exchanged s t [] out ∧
      (∀ x∈out,x=m) ∧ (r=.ok () → out=[m]) ∧
      t.2.authenticatedUsername=s.2.authenticatedUsername ∧
      t.2.authenticatedUsernameLen=s.2.authenticatedUsernameLen) := by
  apply bindLift
  · intro payload _
    apply bindModify
    refine ⟨[m],⟨(append_nil _).symm,rfl⟩,fun x hx => mem_singleton.mp hx,fun _ => rfl,rfl,rfl⟩
  intro e _
  exact ⟨[],Exchanged.refl s,forall_mem_nil _,nofun,rfl,rfl⟩

lemma decodedBy_other {ρ : Type} {expected : UInt8} {fields : Decoder ρ Unit} {zero : ρ}
    (hh : payload.head?=some messageId) (h : messageId≠expected) :
    decodedBy (Call.onFst sshBufferGetU8 >>= fun id => Call.require (id=expected)
      .malformedPacket >>= fun _ => fields) zero payload=.error .malformedPacket := by
  rcases payload with _ | ⟨x,rest⟩
  · cases hh
  have hx : x≠expected := by
    rw [Option.some.inj hh]
    exact h
  obtain ⟨b,hb,_⟩ := getU8_unread (wrap_unread (x::rest))
  have hs := run_require_not Err.malformedPacket (b,zero) hx
  rw [decodedBy,decodePayload,run_bind_ok (onFst_run hb),run_bind_error hs]
  rfl

lemma userauthRequestOf_other (hh : payload.head?=some messageId)
    (h : messageId≠sshMsgUserauthRequest) :
    userauthRequestOf payload=.error .malformedPacket := decodedBy_other hh h

lemma serviceRequest_head {serviceName : StringView}
    (h : decodedBy sshServiceRequestDecode none payload=.ok serviceName) :
    payload.head?=some sshMsgServiceRequest := by
  rcases payload with _ | ⟨x,rest⟩
  · cases h
  by_contra hx
  have hb : decodedBy sshServiceRequestDecode none (x::rest)=.error .malformedPacket :=
    decodedBy_other rfl fun hid => hx (congrArg some hid)
  rw [hb] at h
  cases h

lemma IsTransport.noRequest (h : IsTransport payload) :
    userauthRequestOf payload=.error .malformedPacket := by
  rcases h with h | h | h
  · exact userauthRequestOf_other (of_decide_eq_true h) (by decide)
  · exact userauthRequestOf_other (of_decide_eq_true h) (by decide)
  rcases of_decide_eq_true h with hh | hh | hh
  all_goals exact userauthRequestOf_other hh (by decide)

def NoRequests (evs : List Event) : Prop :=
  ∀ e∈evs,∃ payload,e=.received payload ∧ userauthRequestOf payload=.error .malformedPacket

lemma NoRequests.none_refused (h : NoRequests evs) :
    evs.countP (Event.refusedBy server sessionId)=0 := by
  apply List.countP_eq_zero.mpr
  intro e he
  obtain ⟨payload,rfl,hp⟩ := h e he
  simp [Event.refusedBy,Event.request?,hp,Except.toOption]

lemma Passed.noRequests (h : Passed evs) : NoRequests evs := by
  intro e he
  obtain ⟨payload,hp,ht⟩ := h e he
  exact ⟨payload,hp,ht.noRequest⟩

lemma receiveUserauthRequest_exchanged (s : AuthState κ) :
    (sshTransportReceiveUserauthRequest L).Ensures s (fun r t =>
      t.2=s.2 ∧ ∃ evs,Exchanged s t evs [] ∧ ∀ request,r=.ok request →
        ∃ skipped payload,evs=skipped++[.received payload] ∧ NoRequests skipped ∧
          userauthRequestOf payload=.ok request) := by
  have hrv := Ensures.onFst (skipIgnorable_passedTo L emsshMaxUserauthPayload s.1)
  apply Ensures.bind hrv
  · rintro payload t ⟨⟨evs,ht,skipped,he,hp⟩,hrc⟩
    apply Ensures.lift
    refine ⟨hrc,evs,⟨ht,?_⟩,fun request hr =>
      ⟨skipped,payload,he,hp.noRequests,hr⟩⟩
    rw [hrc,append_nil]
  rintro e t ⟨⟨evs,ht,_⟩,hrc⟩
  refine ⟨hrc,evs,⟨ht,?_⟩,nofun⟩
  rw [hrc,append_nil]

lemma writeCstring_take (storage text : Bytes) :
    (writeCstring storage text).take text.length=text := by
  simp [writeCstring]

lemma viewToCstring_ok {view : StringView} {cap : Nat} {text : Bytes}
    (h : viewToCstring view cap=.ok text) : text=view.getD [] := by
  rcases view with _ | bytes
  · exact (Except.ok.inj h).symm
  obtain ⟨_,hr⟩ := passed_check h
  exact (Except.ok.inj hr).symm

lemma setAuthenticatedUsername_holds (username : StringView) (s : AuthState κ) :
    (setAuthenticatedUsername username).Ensures s (fun r t =>
      Exchanged s t [] [] ∧ (r=.ok () → t.2.Holds username)) := by
  apply bindLift
  · intro text ht
    apply Ensures.modify
    refine ⟨Exchanged.refl s,fun _ => ⟨?_,rfl⟩⟩
    have hn := viewToCstring_ok ht
    rw [hn]
    exact writeCstring_take _ _
  intro e _
  exact ⟨Exchanged.refl s,nofun⟩

lemma Granted.later {front : List Event} {record : AuthRecord}
    (h : Granted server sessionId left evs record)
    (hc : front.countP (Event.refusedBy server sessionId)+tries≤left) :
    Granted server sessionId tries (front++evs) record := by
  obtain ⟨before,payload,request,rfl,hp,ha,hcn,hh⟩ := h
  refine ⟨front++before,payload,request,(append_assoc ..).symm,hp,ha,?_,hh⟩
  rw [countP_append]
  omega

/-- The loop reports success only with SUCCESS handed over, and hands it over only when
access is granted. -/
def Sound (server : AuthServer) (sessionId : Bytes) (tries : Nat) (s : AuthState κ)
    (r : Except Err (Option Unit)) (t : AuthState κ) : Prop :=
  ∃ evs out,Exchanged s t evs out ∧ (r=.ok (some ()) → UserauthMessage.success∈out) ∧
    (UserauthMessage.success∈out → Granted server sessionId tries evs t.2)

lemma Sound.after {r : Except Err (Option Unit)} (hs : Exchanged s t evs out)
    (hno : UserauthMessage.success∉out)
    (hc : evs.countP (Event.refusedBy server sessionId)+tries≤left)
    (h : Sound server sessionId left t r u) : Sound server sessionId tries s r u := by
  obtain ⟨later,more,hx,hok,hg⟩ := h
  refine ⟨evs++later,out++more,hs.trans hx,?_,?_⟩
  · intro hr
    exact mem_append_right _ (hok hr)
  intro hm
  have hmr := (mem_append.mp hm).resolve_left hno
  exact (hg hmr).later hc

lemma sound_error {e : Err} (hs : Exchanged s t evs out) (hno : UserauthMessage.success∉out) :
    Sound server sessionId tries s (.error e) t :=
  ⟨evs,out,hs,nofun,fun h => absurd h hno⟩

lemma sendUserauth_sound {m : UserauthMessage} {next : Call (AuthState κ) Err (Option Unit)}
    (hm : m≠.success) (hn : ∀ t,next.Ensures t (Sound server sessionId tries t)) :
    (sendUserauth L m >>= fun _ => next).Ensures s (Sound server sessionId tries s) := by
  apply Ensures.bind (sendUserauth_exchanged L m s)
  · rintro _ t ⟨out,hx,ho,_⟩
    apply (hn t).mono
    intro r u hu
    apply hu.after hx (fun h => hm (ho _ h).symm)
    simp
  rintro e t ⟨out,hx,ho,_⟩
  exact sound_error hx fun h => hm (ho _ h).symm

lemma success_sound {request : UserauthRequest} (hp : userauthRequestOf payload=.ok request)
    (hat : Authorised server sessionId request) (ht : tries<server.maxAuthTries)
    {skipped : List Event} (hps : NoRequests skipped)
    (hx : Exchanged s t (skipped++[.received payload]) []) :
    (setAuthenticatedUsername request.username >>= fun _ => sendUserauth L .success >>=
      fun _ => pure (some ())).Ensures t (Sound server sessionId tries s) := by
  apply Ensures.bind (setAuthenticatedUsername_holds request.username t)
  · rintro _ u ⟨hu,hh⟩
    have hg (v : AuthState κ) (hn : v.2.authenticatedUsername=u.2.authenticatedUsername)
        (hl : v.2.authenticatedUsernameLen=u.2.authenticatedUsernameLen) :
        Granted server sessionId tries (skipped++[.received payload]) v.2 := by
      refine ⟨skipped,payload,request,rfl,hp,hat,?_,?_,?_⟩
      · rw [hps.none_refused]
        omega
      · rw [hn,hl]
        exact (hh rfl).bytes
      rw [hl]
      exact (hh rfl).len
    apply Ensures.bind (sendUserauth_exchanged L .success u)
    · rintro _ v ⟨out,hv,_,hok,hn,hl⟩
      have ha := (hx.trans hu).trans hv
      simp only [append_nil,nil_append] at ha
      refine ⟨_,out,ha,fun _ => ?_,fun _ => hg v hn hl⟩
      rw [hok rfl]
      exact mem_singleton_self _
    rintro e v ⟨out,hv,_,_,hn,hl⟩
    have ha := (hx.trans hu).trans hv
    simp only [append_nil,nil_append] at ha
    exact ⟨_,out,ha,nofun,fun _ => hg v hn hl⟩
  rintro e u ⟨hu,_⟩
  exact sound_error (hx.trans hu) not_mem_nil

lemma userauthLoop_sound (rounds tries : Nat) (s : AuthState κ) :
    (userauthLoop L server sessionId rounds tries).Ensures s (Sound server sessionId tries s) := by
  induction rounds generalizing tries s with
  | zero => exact ⟨[],[],Exchanged.refl s,nofun,nofun⟩
  | succ rounds ih =>
    apply Ensures.ite
    · intro ht
      apply Ensures.bind (receiveUserauthRequest_exchanged L s)
      · rintro request t ⟨_,evs,hx,hr⟩
        obtain ⟨skipped,payload,rfl,hps,hp⟩ := hr request rfl
        have hn : skipped.countP (Event.refusedBy server sessionId)=0 := hps.none_refused
        apply bindLift
        · intro decision hd
          cases decision with
          | success =>
            have ha := evaluateRequest_authorised hd
            exact success_sound L hp ha ht hps hx
          | pkOk =>
            have hgo := sendUserauth_sound L (s := t) (m := .pkOk request.publickeyAlgorithm
              request.publickeyBlob) nofun (ih tries)
            apply hgo.mono
            intro r u hu
            have ho : [Event.received payload].countP (Event.refusedBy server sessionId)=0 := by
              simp [Event.refusedBy,Event.request?,hp,hd,Except.toOption]
            apply hu.after hx not_mem_nil
            rw [countP_append,hn,ho]
            omega
          | failure =>
            have ho : [Event.received payload].countP (Event.refusedBy server sessionId)=1 := by
              simp [Event.refusedBy,Event.request?,hp,hd,Except.toOption]
            have hb (r : Except Err (Option Unit)) (u : AuthState κ)
                (hu : Sound server sessionId (tries+1) t r u) :
                Sound server sessionId tries s r u := by
              apply hu.after hx not_mem_nil
              rw [countP_append,hn,ho]
              omega
            apply bindLift
            · intro methods _
              have hgo := sendUserauth_sound L (s := t) (m := .failure methods false) nofun
                (ih (tries+1))
              exact hgo.mono hb
            intro e _
            exact sound_error hx not_mem_nil
        intro e _
        exact sound_error hx not_mem_nil
      rintro e t ⟨_,evs,hx,_⟩
      exact sound_error hx not_mem_nil
    intro _
    exact sound_error (Exchanged.refl s) not_mem_nil

lemma receiveServiceRequest_exchanged (s : AuthState κ) :
    (sshTransportReceiveServiceRequest L).Ensures s (fun r t => ∃ evs,Exchanged s t evs [] ∧
      ((∃ serviceName,r=.ok serviceName) → NoRequests evs)) := by
  have hrc := Ensures.onFst (skipIgnorable_passedTo L emsshMaxServicePayload s.1)
  have hs {t : AuthState κ} (h : t.2=s.2) : t.2.handed=s.2.handed++[] := by rw [h,append_nil]
  apply Ensures.bind hrc
  · rintro payload t ⟨⟨evs,ht,skipped,rfl,hp⟩,hr⟩
    apply bindLift
    · intro serviceName hnm
      have ho := userauthRequestOf_other (serviceRequest_head hnm) (by decide)
      have hn : NoRequests (skipped++[Event.received payload]) := by
        intro e he
        rcases mem_append.mp he with he | he
        · exact hp.noRequests e he
        · exact ⟨payload,mem_singleton.mp he,ho⟩
      apply bindRequire
      · intro _
        exact .pure ⟨_,⟨ht,hs hr⟩,fun _ => hn⟩
      intro _
      exact ⟨_,⟨ht,hs hr⟩,fun _ => hn⟩
    intro e _
    exact ⟨_,⟨ht,hs hr⟩,nofun⟩
  rintro e t ⟨⟨evs,ht,_⟩,hr⟩
  exact ⟨evs,⟨ht,hs hr⟩,nofun⟩

/-- Authentication is sound: a run that succeeds, and every run that hands a SUCCESS to the
transport, has received an authorised request with fewer refused ones before it than tries
are allowed, and has the user of that request on record. -/
theorem runUserauth_sound {κ : Type} (L : LinkApi κ) (server : AuthServer) (sessionId : Bytes)
    (rounds : Nat) (s : AuthState κ) :
    (sshServerRunUserauth L server sessionId rounds).Ensures s (fun r t =>
      ∃ evs out,t.1.trace=s.1.trace++evs ∧ t.2.handed=s.2.handed++out ∧
        (r=.ok (some ()) → UserauthMessage.success∈out) ∧
        (UserauthMessage.success∈out → Granted server sessionId 0 evs t.2)) := by
  have hsn : (sshServerRunUserauth L server sessionId rounds).Ensures s
      (Sound server sessionId 0 s) := by
    apply bindModify
    apply Call.Ensures.bind (receiveServiceRequest_exchanged L _)
    · rintro serviceName t ⟨evs,hx,hn⟩
      have hc : evs.countP (Event.refusedBy server sessionId)=0 :=
        (hn ⟨serviceName,rfl⟩).none_refused
      have hs : Exchanged s t evs [] := hx
      apply bindRequire
      · intro _
        have hl (u : AuthState κ) : (userauthLoop L server sessionId rounds 0).Ensures u
            (Sound server sessionId 0 u) := userauthLoop_sound L rounds 0 u
        have hgo := sendUserauth_sound L (s := t) (m := .serviceAccept sshServiceUserauth) nofun hl
        apply hgo.mono
        intro r u hu
        exact hu.after hs not_mem_nil (by omega)
      intro _
      exact sound_error hs not_mem_nil
    rintro e t ⟨evs,hx,_⟩
    have hs : Exchanged s t evs [] := hx
    exact sound_error hs not_mem_nil
  apply hsn.mono
  rintro r t ⟨evs,out,hx,hok,hg⟩
  exact ⟨evs,out,hx.1,hx.2,hok,hg⟩

/-- What may follow SERVICE_ACCEPT: so many FAILURE, PK_OK without a limit, and nothing after a
SUCCESS. -/
def Dialogue : Nat → List UserauthMessage → Prop
  | _,[] => True
  | left,.pkOk _ _::rest => Dialogue left rest
  | left+1,.failure _ _::rest => Dialogue left rest
  | _,.success::rest => rest=[]
  | _,_ => False

def handedOver (s : AuthState κ) : List UserauthMessage := s.2.handed

lemma sendUserauth_emits {α : Type} {m : UserauthMessage} {next : Call (AuthState κ) Err α}
    {P : List UserauthMessage → Prop} (hn : Emits handedOver next fun _ out => P (m::out))
    (h0 : P []) (hm : P [m]) :
    Emits handedOver (sendUserauth L m >>= fun _ => next) fun _ => P := by
  have hs : Emits handedOver (sendUserauth L m) fun r out => out=[m] ∨ out=[] ∧ r≠.ok () :=
    .bindLift (fun _ _ _ => ⟨[m],rfl,.inl rfl⟩) fun _ _ => .inr ⟨rfl,nofun⟩
  refine hs.bind (fun _ out ho => ?_) fun _ out ho => ?_
  · rw [ho.resolve_right fun h => h.2 rfl]
    exact hn
  rcases ho with rfl | ⟨rfl,-⟩
  · exact hm
  · exact h0

lemma userauthLoop_emits (rounds tries : Nat) : Emits handedOver
    (userauthLoop L server sessionId rounds tries) fun _ => Dialogue (server.maxAuthTries-tries) := by
  induction rounds generalizing tries with
  | zero => exact .pure trivial
  | succ rounds ih =>
    refine .ite (fun ht => .bindQuiet (fun s => congrArg AuthRecord.handed
      (receiveUserauthRequest_exchanged L s).1) (fun _ => ?_) trivial) fun _ => .fail trivial
    refine .bindLift (fun decision _ => ?_) fun _ _ => trivial
    cases decision with
    | success =>
      exact .bindQuiet (fun s => (setAuthenticatedUsername_holds _ s).1.2.trans (append_nil _))
        (fun _ => sendUserauth_emits L (.pure rfl) trivial rfl) trivial
    | pkOk => exact sendUserauth_emits L (ih tries) trivial trivial
    | failure =>
      rw [show server.maxAuthTries-tries=server.maxAuthTries-(tries+1)+1 by omega]
      exact .bindLift (fun _ _ => sendUserauth_emits L (ih (tries+1)) trivial trivial)
        fun _ _ => trivial

/-- Whatever comes in and whichever send fails, a run hands over nothing, or a SERVICE_ACCEPT and
then a dialogue with at most as many FAILURE as there are tries. -/
theorem userauth_dialogue (rounds : Nat) :
    Emits handedOver (sshServerRunUserauth L server sessionId rounds) fun _ out =>
      out=[] ∨ ∃ rest,out=.serviceAccept sshServiceUserauth::rest ∧
        Dialogue server.maxAuthTries rest := by
  have hq (s : AuthState κ) :
      handedOver ((sshTransportReceiveServiceRequest L).run s).2=handedOver s := by
    obtain ⟨_,⟨-,hs⟩,-⟩ := receiveServiceRequest_exchanged L s
    exact hs.trans (append_nil _)
  refine .bindSilent (fun _ => rfl) (.bindQuiet hq (fun _ => ?_) (.inl rfl))
  refine .bindRequire (fun _ => sendUserauth_emits L ?_ (.inl rfl) ?_) fun _ => .inl rfl
  · exact (userauthLoop_emits L rounds 0).mono fun _ out ho => .inr ⟨out,rfl,ho⟩
  · exact .inr ⟨[],rfl,trivial⟩
end

def serviceRequestPayload : Bytes := sshMsgServiceRequest::stringField sshServiceUserauth

def signedRequestPayload (username algorithm blob signature : Bytes) : Bytes :=
  sshMsgUserauthRequest::(stringField username++stringField sshServiceConnection++
    stringField sshAuthMethodPublickey++[1]++stringField algorithm++stringField blob++
    stringField signature)

def unlistedServer : AuthServer where
  maxAuthTries := 3
  passwordAuth := none
  publickeyAuth := some fun request => request.publickeyBlob=some [7]
  publickeySignatureAlgorithms := some []
  permitRootLogin := .no
  allowUsers := none
  publickeyVerify := some fun _ blob _ signature =>
    if blob=[7] ∧ signature=[9] then .ok () else .error .security
  cryptoSignatureAlgorithms := some (cstr "ssh-ed25519")

def unlistedRun : Except Err (Option Unit)×AuthState (List (Except Err Bytes)) :=
  (sshServerRunUserauth scriptLink unlistedServer [1] 1).run
    (Conn.start [.ok serviceRequestPayload,
      .ok (signedRequestPayload (cstr "u") (cstr "ssh-dss") [7] [9])],{})

/-- A key whose algorithm is in no list is let in when the configured list is empty. -/
theorem empty_list_accepts_any_algorithm :
    unlistedRun.1=.ok (some ()) ∧ UserauthMessage.success∈unlistedRun.2.2.handed ∧
      ∀ request∈unlistedRun.2.1.trace.filterMap Event.request?,
        request.methodName=some sshAuthMethodPublickey ∧
        nameListContainsView unlistedServer.signatureAlgorithms request.publickeyAlgorithm=false := by
  decide +kernel

end EMSSHD
