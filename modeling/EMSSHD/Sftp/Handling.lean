import EMSSHD.Sftp.Handlers

namespace EMSSHD

inductive SftpAnswer where
  | version (posixRename fsync hardlink statvfs fstatvfs : Bool)
  | status (id : Nat) (code : FxStatus) (message : Bytes)
  | handle (id : Nat) (wireHandle : Bytes)
  | data (id : Nat) (data : Bytes) (dataLen : Nat)
  | name (id : Nat) (filename : Bytes) (longname : Option Bytes) (attrs : FsAttrs)
  | attrs (id : Nat) (attrs : FsAttrs)
  | statvfs (id : Nat) (stats : FsStatvfs)
  deriving DecidableEq

namespace SftpAnswer

def encode (responseCapacity : Nat) : SftpAnswer → Except Err Bytes
  | .version a b c d e => encodeServerVersion responseCapacity a b c d e
  | .status id code message => encodeStatus responseCapacity id code message
  | .handle id wireHandle => sftpHandleEncode responseCapacity id wireHandle
  | .data id bytes dataLen => finishDataResponseInPlace responseCapacity id bytes dataLen
  | .name id filename longname attributes =>
    sftpNameOneAttrsEncode responseCapacity id filename longname attributes
  | .attrs id attributes => sftpAttrsEncode responseCapacity id attributes
  | .statvfs id stats => encodeStatvfsReply responseCapacity id stats

def id? : SftpAnswer → Option Nat
  | .version .. => none
  | .status id .. => some id
  | .handle id _ => some id
  | .data id .. => some id
  | .name id .. => some id
  | .attrs id _ => some id
  | .statvfs id _ => some id

def Failed (answer : SftpAnswer) : Prop :=
  ∃ id code message,answer=status id code message ∧ code≠.ok

def Plain (answer : SftpAnswer) : Prop := ∀ id wireHandle,answer≠handle id wireHandle

lemma Failed.plain {answer : SftpAnswer} (h : answer.Failed) : answer.Plain := by
  obtain ⟨id,code,message,rfl,-⟩ := h
  simp [Plain]
end SftpAnswer

def ReaddirGives {σ : Type} (fs : Option (FsApi σ)) (filename : Bytes) (longname : Option Bytes) :
    Prop :=
  ∃ api readdir handle world dirent,fs=some api ∧ api.readdir=some readdir ∧
    ((readdir handle).run world).1=.ok dirent ∧ dirent.filename=some filename ∧
    dirent.longname=longname

/-- The lengths in a response. Names come from REALPATH or from the file system. -/
def SftpAnswer.Sized {σ : Type} (fs : Option (FsApi σ)) (responseCapacity : Nat) :
    SftpAnswer → Prop
  | .status _ _ message => message.length ≤ 64
  | .handle _ wireHandle => wireHandle.length=4
  | .data _ bytes dataLen => dataLen ≤ bytes.length ∧ bytes.length ≤ emsshSftpMaxIo ∧
      bytes.length+sftpDataResponseOverhead ≤ responseCapacity
  | .name _ filename longname _ =>
      filename.length+(longname.getD filename).length<2*emsshSftpMaxPath ∨
        ReaddirGives fs filename longname
  | _ => True

def Normalized (path : Bytes) : Prop := ∃ view,copyPath view=.ok path

structure NormalizedPaths (req : SftpPolicyRequest) : Prop where
  path : Normalized req.path
  newPath : ∀ p,req.newPath=some p → Normalized p

namespace FsCall

def OnPath (req : SftpPolicyRequest) : FsCall → Prop
  | openFile path _ (.error _) => path=req.path
  | opendir path (.error _) => path=req.path
  | stat path => path=req.path
  | lstat path => path=req.path
  | setstat path _ => path=req.path
  | mkdir path _ => path=req.path
  | rmdir path => path=req.path
  | remove path => path=req.path
  | statvfs path => path=req.path
  | rename oldPath newPath => oldPath=req.path ∧ req.newPath=some newPath
  | posixRename oldPath newPath => oldPath=req.path ∧ req.newPath=some newPath
  | hardlink oldPath newPath => oldPath=req.path ∧ req.newPath=some newPath
  | _ => False

/-- A callback on the file behind an entry of the handle table, within its rights
and within what the policy was asked. -/
def OnEntry (req : SftpPolicyRequest) (entry : SftpHandleEntry) : FsCall → Prop
  | stat path => path=entry.path
  | read handle len => handle=entry.fsHandle ∧ entry.kind=.file ∧
      entry.pflags &&& sshFxfRead≠0 ∧ req.length=len
  | readAt handle offset len => handle=entry.fsHandle ∧ entry.kind=.file ∧
      entry.pflags &&& sshFxfRead≠0 ∧ req.offset=offset ∧ req.length=len
  | write handle data => handle=entry.fsHandle ∧ entry.kind=.file ∧
      entry.pflags &&& sshFxfWrite≠0 ∧ req.length=data.length
  | writeAt handle offset data => handle=entry.fsHandle ∧ entry.kind=.file ∧
      entry.pflags &&& sshFxfWrite≠0 ∧ req.offset=offset ∧ req.length=data.length
  | fsetstat handle _ => handle=entry.fsHandle ∧ entry.kind=.file ∧
      entry.pflags &&& sshFxfWrite≠0
  | readdir handle => handle=entry.fsHandle ∧ entry.kind=.dir
  | fsync handle => handle=entry.fsHandle ∧ entry.kind=.file
  | fstatvfs handle => handle=entry.fsHandle ∧ entry.kind=.file
  | _ => False

def OnNew (req : SftpPolicyRequest) (fsHandle : FsHandle) : FsCall → Prop
  | stat path => path=req.path
  | fsetstat handle _ => handle=fsHandle
  | _ => False
end FsCall

def openedCall (path : Bytes) (pflags : Nat) (fsHandle : FsHandle) : SftpHandleKind → FsCall
  | .file => .openFile path pflags (.ok fsHandle)
  | .dir => .opendir path (.ok fsHandle)

/-- What a request is about: paths, a handle that is to be opened, or a handle that the
client has. -/
inductive SftpSubject where
  | paths
  | opens (kind : SftpHandleKind) (pflags : Nat)
  | handle (wireHandle : Bytes)
  deriving DecidableEq

namespace SftpSubject

def ofView : StringView → SftpSubject
  | some wireHandle => handle wireHandle
  | none => paths

def wireHandle? : SftpSubject → Option Bytes
  | handle wireHandle => some wireHandle
  | _ => none
end SftpSubject

section
variable {σ : Type} (fs : Option (FsApi σ)) (policy : Option (SftpPolicy σ))

def allowedBy (req : SftpPolicyRequest) : List SftpEvent :=
  if policy.isSome then [.policy req (.ok ())] else []

def closingEvents (kind : SftpHandleKind) (fsHandle : FsHandle) : List SftpEvent :=
  if (fs.bind fun api => api.closeCallback kind).isSome then [.fs (closeCall kind fsHandle)] else []

/-- Everything that the handling of one packet can do to the session, with the callbacks
it makes and its answer. -/
inductive Handling (subject : SftpSubject) (s : SftpServerSession) :
    List SftpEvent → SftpAnswer → SftpServerSession → Prop
  | refused {answer : SftpAnswer} (failed : answer.Failed) : Handling subject s [] answer s
  | greeted {a b c d e : Bool} (free : subject=.paths) :
    Handling subject s [] (.version a b c d e) s
  | denied {req : SftpPolicyRequest} {e : Err} {answer : SftpAnswer} (failed : answer.Failed) :
    Handling subject s [.policy req (.error e)] answer s
  | onPath {req : SftpPolicyRequest} {calls : List FsCall} {answer : SftpAnswer}
    (free : ∀ wireHandle,subject≠.handle wireHandle) (paths : NormalizedPaths req)
    (calls_on : ∀ c∈calls,c.OnPath req)
    (plain : answer.Plain) :
    Handling subject s (allowedBy policy req++calls.map .fs) answer s
  | onHandle {req : SftpPolicyRequest} {calls : List FsCall} {answer : SftpAnswer}
    (i : Fin emsshSftpMaxHandles) (entry : SftpHandleEntry) (attrs : FsAttrs)
    (slot : s.handles i=some entry) (carries : subject=.handle entry.wireHandle)
    (path : req.path=entry.path) (calls_on : ∀ c∈calls,c.OnEntry req entry)
    (plain : answer.Plain) :
    Handling subject s (allowedBy policy req++calls.map .fs) answer
      (s.put i (some {entry with attrs}))
  | opened {req : SftpPolicyRequest} {calls : List FsCall} {id pflags : Nat}
    {fsHandle : FsHandle} {kind : SftpHandleKind} {attrs : FsAttrs} {wireHandle : Bytes}
    {next : SftpServerSession}
    (opens : subject=.opens kind pflags) (paths : NormalizedPaths req)
    (calls_on : ∀ c∈calls,c.OnNew req fsHandle)
    (alloc : allocHandle s fsHandle kind pflags req.path attrs=some (wireHandle,next)) :
    Handling subject s (allowedBy policy req++
      (.fs (openedCall req.path pflags fsHandle kind)::calls.map .fs)) (.handle id wireHandle) next
  | reclosed {req : SftpPolicyRequest} {calls : List FsCall} {pflags : Nat}
    {fsHandle : FsHandle} {kind : SftpHandleKind} {answer : SftpAnswer}
    (opens : subject=.opens kind pflags) (paths : NormalizedPaths req)
    (calls_on : ∀ c∈calls,c.OnNew req fsHandle)
    (failed : answer.Failed) :
    Handling subject s (allowedBy policy req++
      (.fs (openedCall req.path pflags fsHandle kind)::
        (calls.map .fs++closingEvents fs kind fsHandle))) answer s
  | closed {answer : SftpAnswer} (i : Fin emsshSftpMaxHandles) (entry : SftpHandleEntry)
    (slot : s.handles i=some entry) (carries : subject=.handle entry.wireHandle)
    (plain : answer.Plain) :
    Handling subject s (closingEvents fs entry.kind entry.fsHandle) answer (s.put i none)

/-- What a handler leaves behind: its events, and the encoding of its answer. A READ
gives up before it has an answer when the response has no room for data. -/
def SftpServed (subject : SftpSubject) (id : Option Nat) (responseCapacity : Nat) (s : SftpServing σ)
    (result : Except Err Bytes) (t : SftpServing σ) : Prop :=
  ∃ events answer,t.trace=s.trace++events ∧
    Handling fs policy subject s.session events answer t.session ∧
    answer.Sized fs responseCapacity ∧ answer.id?=id ∧
    (result=answer.encode responseCapacity ∨
      events=[] ∧ responseCapacity ≤ sftpDataResponseOverhead ∧ result=.error .bufferTooSmall)

variable {s : SftpServing σ} {req : SftpPolicyRequest}

lemma observed_ensures {α : Type} {event : Except Err α → SftpEvent} {callback : Call σ Err α}
    {Q : Except Err α → SftpServing σ → Prop}
    (h : ∀ r w,(callback.run s.world).1=r → Q r ⟨s.session,w,s.trace++[event r]⟩) :
    (observed event callback).Ensures s Q := h _ _ rfl

lemma policyCheck_ensures {Q : Except Err Unit → SftpServing σ → Prop}
    (hok : ∀ w,Q (.ok ()) ⟨s.session,w,s.trace++allowedBy policy req⟩)
    (he : ∀ e w,Q (.error e) ⟨s.session,w,s.trace++[.policy req (.error e)]⟩) :
    (policyCheck (observedPolicy policy) req).Ensures s Q := by
  rcases policy with _ | check
  · have h := hok s.world
    rw [allowedBy,if_neg (by simp),append_nil] at h
    exact h
  apply observed_ensures
  intro r w _
  cases r with
  | ok u => exact hok w
  | error e => exact he e w
end

section
variable {σ : Type} {fs : Option (FsApi σ)} {policy : Option (SftpPolicy σ)}
  {subject : SftpSubject} {id responseCapacity : Nat} {s t : SftpServing σ}

lemma statusFromError_error_ne_ok (e : Err) : statusFromError (.error e)≠.ok := by
  cases e <;> simp [statusFromError]

lemma statusMessageFromError_length (outcome : Except Err Unit) {fallback : Bytes}
    (h : fallback.length≤64) : (statusMessageFromError outcome fallback).length≤64 := by
  cases outcome with
  | ok u => exact (by decide : (cstr "ok").length≤64)
  | error e => cases e <;> first | exact h | (simp only [statusMessageFromError]; decide)

variable {events : List SftpEvent} {code : FxStatus} {fallback message : String}
  {req : SftpPolicyRequest} {e : Err} {w : σ}

lemma SftpServed.answer {key : Option Nat} (answer : SftpAnswer) (ht : t.trace=s.trace++events)
    (hh : Handling fs policy subject s.session events answer t.session)
    (hs : answer.Sized fs responseCapacity) (hid : answer.id?=key) :
    (Call.lift (answer.encode responseCapacity)).Ensures t
      (SftpServed fs policy subject key responseCapacity s) :=
  ⟨events,answer,ht,hh,hs,hid,.inl rfl⟩

lemma SftpServed.status (hm : (cstr message).length≤64) (ht : t.trace=s.trace++events)
    (hh : Handling fs policy subject s.session events (.status id code (cstr message)) t.session) :
    (answerStatus responseCapacity id code message).Ensures t
      (SftpServed fs policy subject (some id) responseCapacity s) :=
  SftpServed.answer _ ht hh hm rfl

lemma SftpServed.outcome {outcome : Except Err Unit} (ht : t.trace=s.trace++events)
    (hh : Handling fs policy subject s.session events
      (.status id (statusFromError outcome) (statusMessageFromError outcome (cstr fallback)))
      t.session) (hf : (cstr fallback).length≤64) :
    (answerOutcome responseCapacity id outcome fallback).Ensures t
      (SftpServed fs policy subject (some id) responseCapacity s) :=
  SftpServed.answer _ ht hh (statusMessageFromError_length outcome hf) rfl

lemma failed_status (id : Nat) (message : Bytes) (h : code≠.ok) :
    (SftpAnswer.status id code message).Failed := ⟨id,code,message,rfl,h⟩

lemma plain_status (id : Nat) (code : FxStatus) (message : Bytes) :
    (SftpAnswer.status id code message).Plain := by
  simp [SftpAnswer.Plain]

lemma SftpServed.refuse (h : code≠.ok ∧ (cstr message).length≤64) :
    (answerStatus responseCapacity id code message).Ensures s
      (SftpServed fs policy subject (some id) responseCapacity s) :=
  SftpServed.status h.2 (append_nil _).symm (.refused (failed_status id _ h.1))

lemma SftpServed.guard {p : Prop} [Decidable p] {work : Call (SftpServing σ) Err Bytes}
    (hc : code≠.ok ∧ (cstr message).length≤64)
    (h : ¬p → work.Ensures s (SftpServed fs policy subject (some id) responseCapacity s)) :
    (if p then answerStatus responseCapacity id code message else work).Ensures s
      (SftpServed fs policy subject (some id) responseCapacity s) :=
  .ite (fun _ => .refuse hc) h

variable (fs policy subject s) in
/-- What a handler has done so far allows every answer, except that only a failure may be
reported when it has not succeeded. -/
def Worked (ok : Bool) (t : SftpServing σ) : Prop :=
  ∃ events,t.trace=s.trace++events ∧ ∀ answer : SftpAnswer,answer.Plain →
    (ok=false → answer.Failed) → Handling fs policy subject s.session events answer t.session

lemma Worked.early : Worked fs policy subject s false s :=
  ⟨[],(append_nil _).symm,fun _ _ hf => .refused (hf rfl)⟩

lemma Worked.denied :
    Worked fs policy subject s false ⟨s.session,w,s.trace++[.policy req (.error e)]⟩ :=
  ⟨_,rfl,fun _ _ hf => .denied (hf rfl)⟩

lemma Worked.onPath {req : SftpPolicyRequest} {ok : Bool} {w : σ} (calls : List FsCall)
    (hf : ∀ wireHandle,subject≠.handle wireHandle) (hp : NormalizedPaths req)
    (hc : ∀ c∈calls,c.OnPath req) :
    Worked fs policy subject s ok
      ⟨s.session,w,s.trace++allowedBy policy req++calls.map .fs⟩ := by
  refine ⟨_,append_assoc _ _ _,?_⟩
  intro answer hpl _
  exact .onPath hf hp hc hpl

lemma Worked.onHandle {req : SftpPolicyRequest} {ok : Bool} {w : σ} {next : SftpServerSession}
    {i : Fin emsshSftpMaxHandles} {entry : SftpHandleEntry} {attrs : FsAttrs}
    (calls : List FsCall) (hn : s.session.put i (some {entry with attrs})=next)
    (hsl : s.session.handles i=some entry) (hs : subject=.handle entry.wireHandle)
    (hpt : req.path=entry.path) (hc : ∀ c∈calls,c.OnEntry req entry) :
    Worked fs policy subject s ok ⟨next,w,s.trace++allowedBy policy req++calls.map .fs⟩ := by
  subst hn
  refine ⟨_,append_assoc _ _ _,?_⟩
  intro answer hp _
  exact .onHandle i entry attrs hsl hs hpt hc hp

lemma SftpServerSession.put_self {session : SftpServerSession} {i : Fin emsshSftpMaxHandles}
    {entry : SftpHandleEntry} (hs : session.handles i=some entry) :
    session.put i (some {entry with attrs := entry.attrs})=session := by
  unfold SftpServerSession.put
  rw [← hs,Function.update_eq_self]

lemma Worked.onCall {ok : Bool} {i : Fin emsshSftpMaxHandles} {entry : SftpHandleEntry} {c : FsCall}
    (hsl : s.session.handles i=some entry) (hs : subject=.handle entry.wireHandle)
    (hp : req.path=entry.path) (hc : c.OnEntry req entry) :
    Worked fs policy subject s ok ⟨s.session,w,s.trace++allowedBy policy req++[.fs c]⟩ :=
  Worked.onHandle [c] (SftpServerSession.put_self hsl) hsl hs hp (by simpa using hc)

variable {ok : Bool}

lemma Worked.answer (h : Worked fs policy subject s ok t) (answer : SftpAnswer)
    (hp : answer.Plain) (hf : ok=false → answer.Failed)
    (hs : answer.Sized fs responseCapacity) (hid : answer.id?=some id) :
    (Call.lift (answer.encode responseCapacity)).Ensures t
      (SftpServed fs policy subject (some id) responseCapacity s) := by
  obtain ⟨events,ht,hh⟩ := h
  exact SftpServed.answer answer ht (hh answer hp hf) hs hid

lemma Worked.outcome (outcome : Except Err Unit) (h : Worked fs policy subject s outcome.isOk t)
    (hf : (cstr fallback).length≤64) :
    (answerOutcome responseCapacity id outcome fallback).Ensures t
      (SftpServed fs policy subject (some id) responseCapacity s) := by
  apply h.answer _ (plain_status _ _ _) _ (statusMessageFromError_length outcome hf) rfl
  intro hok
  cases outcome with
  | ok u => exact nomatch hok
  | error e => exact failed_status _ _ (statusFromError_error_ne_ok e)

lemma Worked.error (h : Worked fs policy subject s ok t)
    (hf : (cstr fallback).length≤64) :
    (answerError responseCapacity id e fallback).Ensures t
      (SftpServed fs policy subject (some id) responseCapacity s) :=
  h.answer _ (plain_status _ _ _)
    (fun _ => failed_status _ _ (statusFromError_error_ne_ok e))
    (statusMessageFromError_length _ hf) rfl

lemma Worked.done (h : Worked fs policy subject s true t) (answer : SftpAnswer)
    (hs : answer.Sized fs responseCapacity) (hp : answer.Plain) (hid : answer.id?=some id) :
    (Call.lift (answer.encode responseCapacity)).Ensures t
      (SftpServed fs policy subject (some id) responseCapacity s) :=
  h.answer answer hp (by simp) hs hid

lemma Worked.status (h : Worked fs policy subject s true t) (hm : (cstr message).length≤64) :
    (answerStatus responseCapacity id code message).Ensures t
      (SftpServed fs policy subject (some id) responseCapacity s) :=
  h.done (.status id code (cstr message)) hm (plain_status _ _ _) rfl
end

variable {σ : Type} {fs : Option (FsApi σ)} {policy : Option (SftpPolicy σ)} {s : SftpServing σ}
variable {req : SftpPolicyRequest} {view : StringView}

lemma normalizedPath (hpt : copyPath view=.ok req.path) (hn : req.newPath=none) :
    NormalizedPaths req := by
  refine ⟨⟨view,hpt⟩,?_⟩
  intro p hp
  rw [hn] at hp
  exact nomatch hp

lemma normalizedPair {oldView newView : StringView} {newPath : Bytes}
    (hold : copyPath oldView=.ok req.path) (hn : copyPath newView=.ok newPath)
    (h : req.newPath=some newPath) : NormalizedPaths req := by
  refine ⟨⟨oldView,hold⟩,?_⟩
  intro p hp
  rw [h] at hp
  rw [← Option.some.inj hp]
  exact ⟨newView,hn⟩

variable {α β : Type} {call : FsCall} {subject : SftpSubject}

/-- The part of a handler that ends with a status, which is then reported. -/
def Attempts (fs : Option (FsApi σ)) (policy : Option (SftpPolicy σ)) (subject : SftpSubject)
    (s : SftpServing σ) (work : Call (SftpServing σ) Err α) : Prop :=
  work.Ensures s fun r t => Worked fs policy subject s r.isOk t

namespace Attempts
variable {id responseCapacity : Nat} {fallback : String}

lemma bindLift {r : Except Err α} {work : α → Call (SftpServing σ) Err β}
    (h : ∀ a,r=.ok a → Attempts fs policy subject s (work a)) :
    Attempts fs policy subject s (Call.lift r >>= work) :=
  Call.bindLift h fun _ _ => Worked.early

lemma allowed {work : Unit → Call (SftpServing σ) Err α}
    (h : ∀ w,(work ()).Ensures ⟨s.session,w,s.trace++allowedBy policy req⟩
      fun r t => Worked fs policy subject s r.isOk t) :
    Attempts fs policy subject s (policyCheck (observedPolicy policy) req >>= work) :=
  Call.Ensures.andThen (policyCheck_ensures policy h fun _ _ => Worked.denied)

lemma onEntry {callback : Call σ Err α} {i : Fin emsshSftpMaxHandles} {entry : SftpHandleEntry}
    (hsl : s.session.handles i=some entry) (hs : subject=.handle entry.wireHandle)
    (hp : req.path=entry.path) (hc : call.OnEntry req entry) :
    Attempts fs policy subject s
      (policyCheck (observedPolicy policy) req >>= fun _ => fsCall call callback) :=
  allowed fun _ => observed_ensures fun _ _ _ => Worked.onCall hsl hs hp hc

lemma onPath {callback : Call σ Err α} (hp : NormalizedPaths req) (hc : call.OnPath req) :
    Attempts fs policy .paths s
      (policyCheck (observedPolicy policy) req >>= fun _ => fsCall call callback) :=
  allowed fun _ => observed_ensures fun _ _ _ =>
    Worked.onPath [call] (by simp) hp (by simpa using hc)

lemma status {work : Call (SftpServing σ) Err α}
    {answer : Except Err α → Call (SftpServing σ) Err Bytes} {key : Option Nat}
    (h : Attempts fs policy subject s work)
    (ha : ∀ r t,Worked fs policy subject s r.isOk t →
      (answer r).Ensures t (SftpServed fs policy subject key responseCapacity s)) :
    (work.status >>= answer).Ensures s (SftpServed fs policy subject key responseCapacity s) :=
  Call.bindStatus (Call.Ensures.mono h ha)

lemma outcome {work : Call (SftpServing σ) Err Unit} (h : Attempts fs policy subject s work)
    (hf : (cstr fallback).length≤64) :
    (work.status >>= fun outcome => answerOutcome responseCapacity id outcome fallback).Ensures s
      (SftpServed fs policy subject (some id) responseCapacity s) :=
  h.status fun _ _ ht => ht.outcome _ hf
end Attempts

end EMSSHD
