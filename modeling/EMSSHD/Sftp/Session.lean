import EMSSHD.Sftp.Served

namespace EMSSHD

def extendedHandle (r : SftpExtendedRequest) : SftpSubject :=
  if viewEqualsCstring r.name "fsync@openssh.com" then
    decodedHandle (fun view => view) (oneString r.payload)
  else if viewEqualsCstring r.name "statvfs@openssh.com" then .paths
  else if viewEqualsCstring r.name "fstatvfs@openssh.com" then
    decodedHandle (fun view => view) (oneString r.payload)
  else .paths

def decodedKey (type : UInt8) (request : Bytes) : Option Nat×SftpSubject :=
  if type=sshFxpInit then (initId (sftpInitDecode request),.paths)
  else if type=sshFxpRealpath then
    (decodedId SftpPathRequest.id (sftpRealpathRequestDecode request),.paths)
  else if type=sshFxpLstat ∨ type=sshFxpStat then
    (decodedId SftpPathRequest.id (if type=sshFxpLstat then sftpLstatRequestDecode request
      else sftpStatRequestDecode request),.paths)
  else if type=sshFxpOpen then
    (decodedId SftpOpenRequest.id (sftpOpenRequestDecode request),
      decodedOpen .file SftpOpenRequest.pflags (sftpOpenRequestDecode request))
  else if type=sshFxpClose then
    (decodedId SftpHandleRequest.id (sftpCloseRequestDecode request),
      decodedHandle SftpHandleRequest.handle (sftpCloseRequestDecode request))
  else if type=sshFxpFstat then
    (decodedId SftpHandleRequest.id (sftpFstatRequestDecode request),
      decodedHandle SftpHandleRequest.handle (sftpFstatRequestDecode request))
  else if type=sshFxpSetstat then (some (sftpSetstatRequestDecode request).1,.paths)
  else if type=sshFxpFsetstat then
    (some (sftpFsetstatRequestDecode request).1,
      decodedHandle Prod.fst (sftpFsetstatRequestDecode request).2)
  else if type=sshFxpOpendir then
    (decodedId SftpPathRequest.id (sftpOpendirRequestDecode request),
      decodedOpen .dir (fun _ => 0) (sftpOpendirRequestDecode request))
  else if type=sshFxpReaddir then
    (decodedId SftpHandleRequest.id (sftpReaddirRequestDecode request),
      decodedHandle SftpHandleRequest.handle (sftpReaddirRequestDecode request))
  else if type=sshFxpRead then
    (decodedId SftpReadRequest.id (sftpReadRequestDecode request),
      decodedHandle SftpReadRequest.handle (sftpReadRequestDecode request))
  else if type=sshFxpWrite then
    (decodedId SftpWriteRequest.id (sftpWriteRequestDecode request),
      decodedHandle SftpWriteRequest.handle (sftpWriteRequestDecode request))
  else if type=sshFxpRemove then
    (decodedId SftpPathRequest.id (sftpRemoveRequestDecode request),.paths)
  else if type=sshFxpMkdir then
    (decodedId SftpMkdirRequest.id (sftpMkdirRequestDecode request),.paths)
  else if type=sshFxpRmdir then
    (decodedId SftpPathRequest.id (sftpRmdirRequestDecode request),.paths)
  else if type=sshFxpRename then
    (decodedId SftpRenameRequest.id (sftpRenameRequestDecode request),.paths)
  else if type=sshFxpExtended then
    (decodedId SftpExtendedRequest.id (sftpExtendedRequestDecode request),
      match sftpExtendedRequestDecode request with
      | .ok r => extendedHandle r
      | .error _ => .paths)
  else (decodedId SftpRequest.id (sftpRequestDecode request),.paths)

def answerId (request : Bytes) : Option Nat :=
  match sftpPacketWrap request with
  | .error _ => some 0
  | .ok packet => (decodedKey packet.type request).1

def requestSubject (request : Bytes) : SftpSubject :=
  match sftpPacketWrap request with
  | .error _ => .paths
  | .ok packet => (decodedKey packet.type request).2

def carriedHandle (request : Bytes) : Option Bytes := (requestSubject request).wireHandle?

section
variable {σ : Type} {fs : Option (FsApi σ)} {policy : Option (SftpPolicy σ)} {request : Bytes}
  {cap : Nat} {s : SftpServing σ}

lemma handleExtended_served :
    (handleExtended fs policy request cap).Ensures s
      (SftpServed fs policy (match sftpExtendedRequestDecode request with
          | .ok r => extendedHandle r
          | .error _ => .paths)
        (decodedId SftpExtendedRequest.id (sftpExtendedRequestDecode request))
        cap s) := by
  unfold handleExtended
  rcases sftpExtendedRequestDecode request with _ | r
  · exact .refuse (by decide)
  simp only [extendedHandle]
  split_ifs
  · exact extendedFsync_served
  · exact extendedStatvfs_served
  · exact extendedFstatvfs_served
  · exact extendedHardlink_served
  · exact extendedPosixRename_served
  · exact .refuse (by decide)

lemma handleUnsupported_served :
    (handleUnsupported request cap).Ensures s
      (SftpServed fs policy .paths (decodedId SftpRequest.id (sftpRequestDecode request))
        cap s) := by
  unfold handleUnsupported
  cases sftpRequestDecode request with
  | error | ok => exact .refuse (by decide)

lemma ite_served {p : Prop} [Decidable p] {c d : Call (SftpServing σ) Err Bytes}
    {k l : Option Nat×SftpSubject} (hc : c.Ensures s (SftpServed fs policy k.2 k.1 cap s))
    (hd : d.Ensures s (SftpServed fs policy l.2 l.1 cap s)) :
    (if p then c else d).Ensures s
      (SftpServed fs policy (if p then k else l).2 (if p then k else l).1 cap s) := by
  split_ifs
  · exact hc
  · exact hd

lemma handlePacket_served :
    (sftpServerHandlePacket fs policy request cap).Ensures s
      (SftpServed fs policy (requestSubject request) (answerId request) cap s) := by
  unfold sftpServerHandlePacket requestSubject answerId
  rcases sftpPacketWrap request with _ | packet
  · exact .refuse (by decide)
  refine ite_served handleInit_served ?_
  refine ite_served handleRealpath_served ?_
  refine ite_served handlePathAttrs_served ?_
  refine ite_served handleOpen_served ?_
  refine ite_served handleClose_served ?_
  refine ite_served handleFstat_served ?_
  refine ite_served handleSetstat_served ?_
  refine ite_served handleFsetstat_served ?_
  refine ite_served handleOpendir_served ?_
  refine ite_served handleReaddir_served ?_
  refine ite_served handleRead_served ?_
  refine ite_served handleWrite_served ?_
  refine ite_served handleRemove_served ?_
  refine ite_served handleMkdir_served ?_
  refine ite_served handleRmdir_served ?_
  refine ite_served handleRename_served ?_
  exact ite_served handleExtended_served handleUnsupported_served

/-- Whatever a packet does, the handles that it does not name stay as they are. -/
theorem sftp_handles_isolated :
    (sftpServerHandlePacket fs policy request cap).Ensures s fun _ t => ∀ j entry,
      s.session.handles j=some entry → carriedHandle request≠some entry.wireHandle →
        t.session.handles j=some entry := by
  apply handlePacket_served.mono
  rintro _ ⟨_,_,_⟩ ⟨_,_,-,hh,-⟩ j entry hj hc
  have hu {i v} (hi : j≠i) : Function.update s.session.handles i v j=some entry :=
    (Function.update_of_ne hi ..).trans hj
  have hn {i e} (hs : s.session.handles i=some e) (he : requestSubject request=.handle e.wireHandle) :
      j≠i := by
    rintro rfl
    obtain rfl := Option.some.inj (hj.symm.trans hs)
    exact hc (congrArg SftpSubject.wireHandle? he)
  cases hh with
  | onHandle i e _ slot carries => exact hu (hn slot carries)
  | closed i e slot carries => exact hu (hn slot carries)
  | opened _ _ _ alloc =>
    obtain ⟨i,hi,-,ht,-⟩ := allocHandle_some alloc
    exact (congrFun ht j).trans (hu fun hji => by simp [← hji,hj] at hi)
  | _ => exact hj
end

structure SftpExchange where
  request : Bytes
  capacity : Nat
  events : List SftpEvent
  result : Except Err Bytes

/-- The sessions that any sequence of packets leads to. -/
inductive SftpSessionRun {σ : Type} (fs : Option (FsApi σ)) (policy : Option (SftpPolicy σ)) (world : σ) :
    List SftpExchange → SftpServerSession → σ → Prop
  | start : SftpSessionRun fs policy world [] sftpServerSessionInit world
  | packet {past : List SftpExchange} {s : SftpServerSession} {w : σ} {result : Except Err Bytes}
    {t : SftpServing σ} (request : Bytes) (capacity : Nat)
    (run : SftpSessionRun fs policy world past s w)
    (step : (sftpServerHandlePacket fs policy request capacity).run ⟨s,w,[]⟩=(result,t)) :
    SftpSessionRun fs policy world (past++[⟨request,capacity,t.trace,result⟩]) t.session t.world

def historyEvents (past : List SftpExchange) : List SftpEvent := past.flatMap SftpExchange.events

def SftpExchange.Answers {σ : Type} (fs : Option (FsApi σ)) (x : SftpExchange) (answer : SftpAnswer) :
    Prop :=
  answer.Sized fs x.capacity ∧ answer.id?=answerId x.request ∧
    (x.result=answer.encode x.capacity ∨
      x.events=[] ∧ x.capacity ≤ sftpDataResponseOverhead ∧ x.result=.error .bufferTooSmall)

namespace SftpSessionRun
variable {σ : Type} {fs : Option (FsApi σ)} {policy : Option (SftpPolicy σ)} {world w : σ}
  {past : List SftpExchange} {x : SftpExchange} {s t : SftpServerSession}

lemma invariant (I : List SftpExchange → SftpServerSession → Prop) (h0 : I [] sftpServerSessionInit)
    (step : ∀ past x s t answer,I past s →
      Handling fs policy (requestSubject x.request) s x.events answer t → x.Answers fs answer →
      I (past++[x]) t) (h : SftpSessionRun fs policy world past s w) : I past s := by
  induction h with
  | start => exact h0
  | packet request capacity _ hs ih =>
    obtain ⟨events,answer,ht,hh,ha⟩ := handlePacket_served.of_eq hs
    have ht : _=events := ht
    subst ht
    exact step _ _ _ _ answer ih hh ha

lemma last (h : SftpSessionRun fs policy world (past++[x]) t w) : ∃ s v answer,
    SftpSessionRun fs policy world past s v ∧
    Handling fs policy (requestSubject x.request) s x.events answer t ∧ x.Answers fs answer := by
  generalize hp : past++[x]=all at h
  cases h with
  | start => exact absurd hp (by simp)
  | packet request capacity run hs =>
    obtain ⟨rfl,hx⟩ := append_inj' hp rfl
    obtain rfl := List.singleton_inj.mp hx
    obtain ⟨events,answer,ht,hh,ha⟩ := handlePacket_served.of_eq hs
    have ht : _=events := ht
    subst ht
    exact ⟨_,_,answer,run,hh,ha⟩

variable {rest : List SftpExchange}

lemma earlier (h : SftpSessionRun fs policy world (past++rest) t w) :
    ∃ s v,SftpSessionRun fs policy world past s v := by
  induction rest using List.reverseRecOn generalizing t w with
  | nil =>
    rw [append_nil] at h
    exact ⟨t,w,h⟩
  | append_singleton rest x ih =>
    rw [← append_assoc] at h
    obtain ⟨s,v,_,hp,-⟩ := h.last
    exact ih hp

lemma at_packet (h : SftpSessionRun fs policy world (past++x::rest) t w) : ∃ s s' v answer,
    SftpSessionRun fs policy world past s v ∧
    Handling fs policy (requestSubject x.request) s x.events answer s' ∧ x.Answers fs answer := by
  rw [List.append_cons] at h
  obtain ⟨s',v',h'⟩ := h.earlier
  obtain ⟨s,v,answer,hp,hh,ha⟩ := h'.last
  exact ⟨s,s',v,answer,hp,hh,ha⟩
end SftpSessionRun

lemma historyEvents_snoc (past : List SftpExchange) (x : SftpExchange) :
    historyEvents (past++[x])=historyEvents past++x.events := by
  simp [historyEvents]

end EMSSHD
