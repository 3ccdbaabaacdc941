import EMSSHD.Sftp.Handling

namespace EMSSHD

open Call

def decodedId {α : Type} (id : α → Nat) : Except Err α → Option Nat
  | .ok r => some (id r)
  | .error _ => some 0

def decodedHandle {α : Type} (handle : α → StringView) : Except Err α → SftpSubject
  | .ok r => .ofView (handle r)
  | .error _ => .paths

def decodedOpen {α : Type} (kind : SftpHandleKind) (pflags : α → Nat) : Except Err α → SftpSubject
  | .ok r => .opens kind (pflags r)
  | .error _ => .paths

lemma findHandle_subject {session : SftpServerSession} {handle : StringView}
    {i : Fin emsshSftpMaxHandles} {entry : SftpHandleEntry}
    (h : findHandle session handle=some (i,entry)) :
    session.handles i=some entry ∧ SftpSubject.ofView handle=.handle entry.wireHandle := by
  obtain ⟨hs,rfl⟩ := findHandle_some h
  exact ⟨hs,rfl⟩

variable {σ : Type} {fs : Option (FsApi σ)} {policy : Option (SftpPolicy σ)} {request : Bytes}
  {cap : Nat} {s : SftpServing σ}

variable {id offset : Nat} {req : SftpPolicyRequest} {api : FsApi σ} {path : Bytes}
  {fsHandle handle : FsHandle} {Q : Except Err Unit → SftpServing σ → Prop}
  {entry : SftpHandleEntry} {attrs openAttrs : FsAttrs} {β : Type}

lemma findHandle_served {handle : StringView}
    {f : Fin emsshSftpMaxHandles → SftpHandleEntry → Call (SftpServing σ) Err Bytes}
    (h : ∀ i entry,s.session.handles i=some entry →
      SftpSubject.ofView handle=.handle entry.wireHandle →
      (f i entry).Ensures s (SftpServed fs policy (.ofView handle) (some id) cap s)) :
    (Call.get >>= fun now => match findHandle now.session handle with
      | none => answerStatus cap id .failure "bad handle"
      | some (i,entry) => f i entry).Ensures s
        (SftpServed fs policy (.ofView handle) (some id) cap s) := by
  apply bindGet
  rcases hf : findHandle s.session handle with _ | found
  · exact .refuse (by decide)
  obtain ⟨i,entry⟩ := found
  obtain ⟨hs,hh⟩ := findHandle_subject hf
  exact h i entry hs hh

lemma policyCheck_served {subject : SftpSubject} {message : String}
    {work : Call (SftpServing σ) Err Bytes} (hm : (cstr message).length≤64)
    (h : ∀ w,work.Ensures ⟨s.session,w,s.trace++allowedBy policy req⟩
      (SftpServed fs policy subject (some id) cap s)) :
    ((policyCheck (observedPolicy policy) req).status >>= fun
      | .error e => answerStatus cap id (statusFromError (.error e)) message
      | .ok _ => work).Ensures s (SftpServed fs policy subject (some id) cap s) := by
  apply bindStatus
  apply policyCheck_ensures
  · exact h
  intro e w
  exact SftpServed.status hm rfl (.denied (failed_status id _ (statusFromError_error_ne_ok e)))

def initId : Except Err SftpInit → Option Nat
  | .ok _ => none
  | .error _ => some 0

lemma handleInit_served :
    (handleInit fs request cap).Ensures s
      (SftpServed fs policy .paths (initId (sftpInitDecode request)) cap s) := by
  unfold handleInit
  rcases sftpInitDecode request with _ | r
  · exact .refuse (by decide)
  exact SftpServed.answer (.version ..) (append_nil _).symm (.greeted rfl) trivial rfl

lemma handleRemove_served :
    (handleRemove fs policy request cap).Ensures s
      (SftpServed fs policy .paths (decodedId SftpPathRequest.id (sftpRemoveRequestDecode request))
        cap s) := by
  unfold handleRemove
  rcases sftpRemoveRequestDecode request with _ | r
  · exact .refuse (by decide)
  rcases fs.bind FsApi.remove with _ | remove
  · exact .refuse (by decide)
  exact Attempts.outcome (.bindLift fun path hp => .onPath (normalizedPath hp rfl) rfl) (by decide)

lemma handleRmdir_served :
    (handleRmdir fs policy request cap).Ensures s
      (SftpServed fs policy .paths (decodedId SftpPathRequest.id (sftpRmdirRequestDecode request))
        cap s) := by
  unfold handleRmdir
  rcases sftpRmdirRequestDecode request with _ | r
  · exact .refuse (by decide)
  rcases fs.bind FsApi.rmdir with _ | rmdir
  · exact .refuse (by decide)
  exact Attempts.outcome (.bindLift fun path hp => .onPath (normalizedPath hp rfl) rfl) (by decide)

lemma handleSetstat_served :
    (handleSetstat fs policy request cap).Ensures s
      (SftpServed fs policy .paths (some (sftpSetstatRequestDecode request).1) cap s) := by
  unfold handleSetstat
  rcases sftpSetstatRequestDecode request with ⟨id,e | ⟨view,attrs⟩⟩
  · exact .refuse ⟨statusFromError_error_ne_ok e,by decide⟩
  rcases fs.bind FsApi.setstat with _ | setstat
  · exact .refuse (by decide)
  exact Attempts.outcome (.bindLift fun path hp => .onPath (normalizedPath hp rfl) rfl) (by decide)

lemma handleMkdir_served :
    (handleMkdir fs policy request cap).Ensures s
      (SftpServed fs policy .paths (decodedId SftpMkdirRequest.id (sftpMkdirRequestDecode request))
        cap s) := by
  unfold handleMkdir
  rcases sftpMkdirRequestDecode request with _ | r
  · exact .refuse (by decide)
  rcases fs.bind FsApi.mkdir with _ | mkdir
  · exact .refuse (by decide)
  exact Attempts.outcome (.bindLift fun path hp => .bindLift fun attrs _ =>
    .onPath (normalizedPath hp rfl) rfl) (by decide)

lemma renameOrReplace_worked {rename : Bytes → Bytes → Call σ Err Unit} {oldPath newPath : Bytes}
    {w : σ} (hp : NormalizedPaths req) (hold : oldPath=req.path) (hn : req.newPath=some newPath) :
    (renameOrReplace api rename oldPath newPath).Ensures
      ⟨s.session,w,s.trace++allowedBy policy req⟩
      (fun r t => Worked fs policy .paths s r.isOk t) := by
  have ho : ∀ c∈[FsCall.rename oldPath newPath],c.OnPath req :=
    List.forall_mem_singleton.mpr ⟨hold,hn⟩
  have ht : ∀ c∈[FsCall.rename oldPath newPath,.posixRename oldPath newPath],c.OnPath req :=
    forall_mem_cons.mpr ⟨⟨hold,hn⟩,List.forall_mem_singleton.mpr ⟨hold,hn⟩⟩
  apply bindStatus
  apply observed_ensures
  intro r w' _
  cases r with
  | ok u => exact Worked.onPath _ (by simp) hp ho
  | error e =>
    simp only
    rcases api.posixRename with _ | posixRename
    · exact Worked.onPath _ (by simp) hp ho
    apply Ensures.ite
    · intro _
      apply observed_ensures
      intro r' w'' _
      rw [append_assoc (s.trace++allowedBy policy req)]
      exact Worked.onPath _ (by simp) hp ht
    intro _
    exact Worked.onPath _ (by simp) hp ho

lemma handleRename_served :
    (handleRename fs policy request cap).Ensures s
      (SftpServed fs policy .paths (decodedId SftpRenameRequest.id (sftpRenameRequestDecode request))
        cap s) := by
  unfold handleRename
  rcases sftpRenameRequestDecode request with _ | r
  · exact .refuse (by decide)
  rcases fs with _ | api
  · exact .refuse (by decide)
  simp only
  rcases api.rename with _ | rename
  · exact .refuse (by decide)
  exact Attempts.outcome (.bindLift fun oldPath hold => .bindLift fun newPath hn => .allowed fun w =>
    renameOrReplace_worked (normalizedPair hold hn rfl) rfl rfl) (by decide)

lemma handlePathAttrs_served {packetType : UInt8} :
    (handlePathAttrs fs policy request cap packetType).Ensures s
      (SftpServed fs policy .paths (decodedId SftpPathRequest.id
        (if packetType=sshFxpLstat then sftpLstatRequestDecode request
          else sftpStatRequestDecode request)) cap s) := by
  unfold handlePathAttrs
  cases (if packetType=sshFxpLstat then sftpLstatRequestDecode request
      else sftpStatRequestDecode request) with
  | error e => exact .refuse (by decide)
  | ok r =>
    cases (if packetType=sshFxpLstat then fs.bind FsApi.lstat else fs.bind FsApi.stat) with
    | none => exact .refuse (by decide)
    | some callback =>
      apply Attempts.status (.bindLift fun path hp => .onPath (normalizedPath hp rfl) ?_)
      · rintro (e | attrs) t ht
        · exact ht.error (by decide)
        · exact ht.done (.attrs r.id attrs) trivial nofun rfl
      split_ifs <;> exact rfl

lemma makeRealpathReplyPath_length {replyPath : Bytes}
    (h : makeRealpathReplyPath path=.ok replyPath) : replyPath.length<emsshSftpMaxPath := by
  unfold makeRealpathReplyPath at h
  split_ifs at h
  · rw [← Except.ok.inj h]
    omega
  · rw [← Except.ok.inj h]
    decide
  rw [← Except.ok.inj h,length_cons]
  omega

lemma handleRealpath_served :
    (handleRealpath (observedPolicy policy) request cap).Ensures s
      (SftpServed fs policy .paths (decodedId SftpPathRequest.id (sftpRealpathRequestDecode request))
        cap s) := by
  unfold handleRealpath
  rcases sftpRealpathRequestDecode request with _ | r
  · exact .refuse (by decide)
  simp only
  rcases hp : copyPath r.path with e | path
  · exact .refuse ⟨statusFromError_error_ne_ok e,by decide⟩
  refine policyCheck_served (by decide) fun w => ?_
  have hw : Worked fs policy .paths s true
      ⟨s.session,w,s.trace++allowedBy policy {operation := .realpath,path}⟩ := by
    rw [← append_nil (s.trace++_)]
    exact Worked.onPath [] (by simp) (normalizedPath hp rfl) (by simp)
  rcases hr : makeRealpathReplyPath path with _ | replyPath
  · exact hw.status (by decide)
  have hl := makeRealpathReplyPath_length hr
  exact hw.done (.name r.id replyPath (some replyPath) {})
    (.inl (by simp only [Option.getD_some]; omega)) nofun rfl

lemma closeFsHandle_ensures {kind : SftpHandleKind}
    (h : ∀ r w,Q r ⟨s.session,w,s.trace++closingEvents (some api) kind fsHandle⟩) :
    (closeFsHandle api kind fsHandle).Ensures s Q := by
  unfold closeFsHandle
  rcases hc : api.closeCallback kind with _ | close
  · have hq := h (.ok ()) s.world
    rw [closingEvents,Option.bind_some,hc,if_neg (by simp),append_nil] at hq
    exact hq
  apply observed_ensures
  intro r w _
  have hq := h r w
  rw [closingEvents,Option.bind_some,hc,if_pos (by simp)] at hq
  exact hq

lemma closeEntry_ensures {i : Fin emsshSftpMaxHandles} (hs : s.session.handles i=some entry)
    (h : ∀ r w,Q r ⟨s.session.put i none,w,s.trace++closingEvents fs entry.kind entry.fsHandle⟩) :
    (closeEntry fs i).Ensures s Q := by
  apply bindGet
  rw [hs]
  apply bindStatus
  rcases fs with _ | api
  · have hq := h (.ok ()) s.world
    rw [closingEvents,Option.bind_none,if_neg (by simp),append_nil] at hq
    exact hq
  apply closeFsHandle_ensures
  intro r w
  exact h r w

lemma handleClose_served :
    (handleClose fs request cap).Ensures s
      (SftpServed fs policy (decodedHandle SftpHandleRequest.handle (sftpCloseRequestDecode request))
        (decodedId SftpHandleRequest.id (sftpCloseRequestDecode request)) cap s) := by
  unfold handleClose
  rcases sftpCloseRequestDecode request with _ | r
  · exact .refuse (by decide)
  apply findHandle_served
  intro i entry hs hh
  apply bindStatus
  apply closeEntry_ensures hs
  intro outcome w
  exact .outcome rfl (.closed i entry hs hh (plain_status _ _ _)) (by decide)

lemma statOr_bind {f : FsAttrs → Call (SftpServing σ) Err β}
    {Q : Except Err β → SftpServing σ → Prop}
    (h : ∀ found (calls : List FsCall) w,(∀ c∈calls,c=FsCall.stat path) →
      (f found).Ensures ⟨s.session,w,s.trace++calls.map .fs⟩ Q) :
    (statOr api path attrs >>= f).Ensures s Q := by
  apply Ensures.andThen
  unfold statOr
  rcases api.stat with _ | stat
  · have hq := h attrs [] s.world (by simp)
    rw [map_nil,append_nil] at hq
    exact hq
  apply bindStatus
  apply observed_ensures
  intro r w _
  cases r with
  | error e => exact h attrs [.stat path] w (by simp)
  | ok found => exact h found [.stat path] w (by simp)

lemma refreshedAttrs_bind {f : FsAttrs → Call (SftpServing σ) Err β}
    {Q : Except Err β → SftpServing σ → Prop}
    (h : ∀ found (calls : List FsCall) w,(∀ c∈calls,c=FsCall.stat entry.path) →
      (f found).Ensures ⟨s.session,w,s.trace++calls.map .fs⟩ Q) :
    (refreshedAttrs fs entry >>= f).Ensures s Q := by
  have hqt : (f entry.attrs).Ensures s Q := by
    have hq := h entry.attrs [] s.world (by simp)
    rw [map_nil,append_nil] at hq
    exact hq
  unfold refreshedAttrs
  rcases fs with _ | api
  · exact hqt
  simp only
  split_ifs
  · exact hqt
  · exact statOr_bind h

lemma handleFstat_served :
    (handleFstat fs policy request cap).Ensures s
      (SftpServed fs policy (decodedHandle SftpHandleRequest.handle (sftpFstatRequestDecode request))
        (decodedId SftpHandleRequest.id (sftpFstatRequestDecode request)) cap s) := by
  unfold handleFstat
  rcases sftpFstatRequestDecode request with _ | r
  · exact .refuse (by decide)
  apply findHandle_served
  intro i entry hs hh
  refine policyCheck_served (by decide) fun w => ?_
  apply refreshedAttrs_bind
  intro attrs calls w' hcl
  apply bindModify
  have hon : ∀ c∈calls,c.OnEntry {operation := .fstat,path := entry.path} entry := by
    intro c hc
    rw [hcl c hc]
    exact rfl
  have hw : Worked fs policy (.ofView r.handle) s true
      ⟨s.session.put i (some {entry with attrs}),w',_⟩ :=
    Worked.onHandle calls rfl hs hh rfl hon
  apply Ensures.ite
  · intro _
    exact hw.status (by decide)
  intro _
  exact hw.done (.attrs r.id attrs) trivial nofun rfl

lemma handleFsetstat_served :
    (handleFsetstat fs policy request cap).Ensures s
      (SftpServed fs policy (decodedHandle Prod.fst (sftpFsetstatRequestDecode request).2)
        (some (sftpFsetstatRequestDecode request).1) cap s) := by
  unfold handleFsetstat
  rcases sftpFsetstatRequestDecode request with ⟨id,e | ⟨handle,attrs⟩⟩
  · exact .refuse ⟨statusFromError_error_ne_ok e,by decide⟩
  rcases fs.bind FsApi.fsetstat with _ | fsetstat
  · exact .refuse (by decide)
  apply findHandle_served
  intro i entry hs hh
  refine .guard (by decide) fun hk => ?_
  refine .guard (by decide) fun hwr => ?_
  refine policyCheck_served (by decide) fun w => ?_
  apply bindStatus
  apply Ensures.andThen
  refine observed_ensures fun r w' _ => ?_
  have hon : ∀ c∈[FsCall.fsetstat entry.fsHandle attrs],c.OnEntry
      ⟨.fsetstat,entry.path,none,entry.pflags,0,0,some attrs⟩ entry :=
    List.forall_mem_singleton.mpr ⟨rfl,not_not.mp hk,hwr⟩
  rcases r with e | u
  · have hsl := SftpServerSession.put_self hs
    have hw : Worked fs policy (.ofView handle) s false ⟨s.session,w',_⟩ :=
      Worked.onHandle _ hsl hs hh rfl hon
    exact hw.outcome (.error e) (by decide)
  have hw : Worked fs policy (.ofView handle) s true ⟨s.session.put i
      (some {entry with attrs := mergeAttrs entry.attrs attrs}),w',_⟩ :=
    Worked.onHandle _ rfl hs hh rfl hon
  exact hw.outcome (.ok ()) (by decide)

lemma reader_ensures {read : FsHandle → Nat → (len : Nat) → Call (SftpServing σ) Err (FsRead len)}
    {len : Nat} {Q : Except Err (FsRead len) → SftpServing σ → Prop}
    (hrd : fs.bind FsApi.reader=some read)
    (h : ∀ r w c,(c=FsCall.readAt handle offset len ∨ c=.read handle len) →
      Q r ⟨s.session,w,s.trace++[.fs c]⟩) : (read handle offset len).Ensures s Q := by
  obtain ⟨api,-,hr⟩ := Option.bind_eq_some_iff.mp hrd
  unfold FsApi.reader at hr
  split at hr
  · rw [← Option.some.inj hr]
    exact observed_ensures fun r w _ => h r w _ (.inl rfl)
  · rw [← Option.some.inj hr]
    exact observed_ensures fun r w _ => h r w _ (.inr rfl)
  · exact nomatch hr

lemma handleRead_served :
    (handleRead fs policy request cap).Ensures s
      (SftpServed fs policy (decodedHandle SftpReadRequest.handle (sftpReadRequestDecode request))
        (decodedId SftpReadRequest.id (sftpReadRequestDecode request)) cap s) := by
  unfold handleRead
  rcases sftpReadRequestDecode request with _ | r
  · exact .refuse (by decide)
  simp only
  rcases hrd : fs.bind FsApi.reader with _ | read
  · exact .refuse (by decide)
  apply findHandle_served
  intro i entry hs hh
  refine .guard (by decide) fun hk => ?_
  refine .guard (by decide) fun hrg => ?_
  apply Ensures.ite
  · intro hr
    exact ⟨[],.status r.id .failure [],(append_nil _).symm,
      .refused (failed_status _ _ (by decide)),by simp [SftpAnswer.Sized],
      rfl,.inr ⟨rfl,hr,rfl⟩⟩
  intro hr
  refine policyCheck_served (by decide) fun w => ?_
  apply bindStatus
  apply reader_ensures hrd
  intro outcome w' c hc
  have hon : c.OnEntry ⟨.read,entry.path,none,entry.pflags,r.offset,
      min (min r.len emsshSftpMaxIo) (cap-sftpDataResponseOverhead),none⟩ entry := by
    rcases hc with rfl | rfl
    · exact ⟨rfl,not_not.mp hk,hrg,rfl,rfl⟩
    · exact ⟨rfl,not_not.mp hk,hrg,rfl⟩
  have hw : Worked fs policy (.ofView r.handle) s true ⟨s.session,w',_⟩ :=
    Worked.onCall hs hh rfl hon
  rcases outcome with _ | got
  · exact hw.error (by decide)
  apply Ensures.ite
  · intro _
    exact hw.status (by decide)
  intro hl
  apply Ensures.ite
  · intro _
    exact hw.status (by decide)
  intro _
  have hg := got.inside
  exact hw.done (.data r.id got.data got.readLen) ⟨by omega,by omega,by omega⟩ nofun rfl

lemma handleReaddir_served :
    (handleReaddir fs policy request cap).Ensures s
      (SftpServed fs policy (decodedHandle SftpHandleRequest.handle (sftpReaddirRequestDecode request))
        (decodedId SftpHandleRequest.id (sftpReaddirRequestDecode request)) cap s) := by
  unfold handleReaddir
  rcases sftpReaddirRequestDecode request with _ | r
  · exact .refuse (by decide)
  simp only
  rcases hr : fs.bind FsApi.readdir with _ | readdir
  · exact .refuse (by decide)
  obtain ⟨api,ha,hr⟩ := Option.bind_eq_some_iff.mp hr
  apply findHandle_served
  intro i entry hs hh
  refine .guard (by decide) fun hk => ?_
  refine policyCheck_served (by decide) fun w => ?_
  apply bindStatus
  apply observed_ensures
  intro outcome w' ho
  have hon : (FsCall.readdir entry.fsHandle).OnEntry
      {operation := .readdir,path := entry.path} entry := ⟨rfl,not_not.mp hk⟩
  have hw : Worked fs policy (.ofView r.handle) s true ⟨s.session,w',_⟩ :=
    Worked.onCall hs hh rfl hon
  rcases outcome with _ | dirent
  · exact hw.error (by decide)
  apply Ensures.ite
  · intro _
    exact hw.status (by decide)
  intro _
  rcases hn : dirent.filename with _ | filename
  · exact hw.status (by decide)
  exact hw.done (.name r.id filename dirent.longname dirent.attrs)
    (.inr ⟨api,readdir,_,_,dirent,ha,hr,ho,hn,rfl⟩) nofun rfl

lemma writer_ensures {write : FsHandle → Nat → Bytes → Call (SftpServing σ) Err Nat}
    {usedWriteAt : Bool} {data : Bytes} {Q : Except Err Nat → SftpServing σ → Prop}
    (hwr : fs.bind FsApi.writer=some (write,usedWriteAt))
    (h : ∀ r w c,(c=FsCall.writeAt handle offset data ∨ c=.write handle data) →
      Q r ⟨s.session,w,s.trace++[.fs c]⟩) : (write handle offset data).Ensures s Q := by
  obtain ⟨api,-,hw⟩ := Option.bind_eq_some_iff.mp hwr
  unfold FsApi.writer at hw
  split at hw
  · rw [← (Prod.mk.inj (Option.some.inj hw)).1]
    exact observed_ensures fun r w _ => h r w _ (.inl rfl)
  · rw [← (Prod.mk.inj (Option.some.inj hw)).1]
    exact observed_ensures fun r w _ => h r w _ (.inr rfl)
  · exact nomatch hw

lemma handleWrite_served :
    (handleWrite fs policy request cap).Ensures s
      (SftpServed fs policy (decodedHandle SftpWriteRequest.handle (sftpWriteRequestDecode request))
        (decodedId SftpWriteRequest.id (sftpWriteRequestDecode request)) cap s) := by
  unfold handleWrite
  rcases sftpWriteRequestDecode request with _ | r
  · exact .refuse (by decide)
  simp only
  rcases hwr : fs.bind FsApi.writer with _ | writer
  · exact .refuse (by decide)
  obtain ⟨write,usedWriteAt⟩ := writer
  apply findHandle_served
  intro i entry hs hh
  have hsl := SftpServerSession.put_self hs
  refine .guard (by decide) fun hk => ?_
  refine .guard (by decide) fun hr => ?_
  refine policyCheck_served (by decide) fun w => ?_
  apply bindStatus
  apply writer_ensures hwr
  intro outcome w' c hc
  have hon : ∀ d∈[c],d.OnEntry ⟨.write,entry.path,none,entry.pflags,r.offset,
      (r.data.getD []).length,none⟩ entry := by
    rcases hc with rfl | rfl
    · exact List.forall_mem_singleton.mpr ⟨rfl,not_not.mp hk,hr,rfl,rfl⟩
    · exact List.forall_mem_singleton.mpr ⟨rfl,not_not.mp hk,hr,rfl⟩
  have hw : Worked fs policy (.ofView r.handle) s true ⟨s.session,w',_⟩ :=
    Worked.onHandle _ hsl hs hh rfl hon
  rcases outcome with _ | writtenLen
  · exact hw.error (by decide)
  apply Ensures.ite
  · intro _
    exact hw.status (by decide)
  intro _
  cases usedWriteAt with
  | false => exact hw.status (by decide)
  | true =>
    have hwk : Worked fs policy (.ofView r.handle) s true ⟨s.session.put i (some {entry with
        attrs := updateFileSizeAfterWrite entry.attrs r.offset writtenLen}),w',_⟩ :=
      Worked.onHandle _ rfl hs hh rfl hon
    exact hwk.status (by decide)

section
variable {api : FsApi σ} {req : SftpPolicyRequest} {fsHandle : FsHandle} {id pflags : Nat}
  {t : SftpServing σ}

lemma reclosed_served {answer : SftpAnswer} {w : σ} (kind : SftpHandleKind) (pflags : Nat)
    (calls : List FsCall) (hp : NormalizedPaths req) (hc : ∀ c∈calls,c.OnNew req fsHandle)
    (hs : t.session=s.session) (ht : t.trace=s.trace++(allowedBy policy req++
      (.fs (openedCall req.path pflags fsHandle kind)::calls.map .fs))) (hf : answer.Failed)
    (hsz : answer.Sized (some api) cap) (hid : answer.id?=some id) :
    (Call.lift (answer.encode cap)).Ensures
      ⟨t.session,w,t.trace++closingEvents (some api) kind fsHandle⟩
      (SftpServed (some api) policy (.opens kind pflags) (some id) cap s) := by
  have he : t.trace++closingEvents (some api) kind fsHandle=
      s.trace++(allowedBy policy req++(.fs (openedCall req.path pflags fsHandle kind)::
        (calls.map .fs++closingEvents (some api) kind fsHandle))) := by
    rw [ht]
    simp only [append_assoc,cons_append]
  refine SftpServed.answer answer he ?_ hsz ?_
  · rw [hs]
    exact .reclosed rfl hp hc hf
  · exact hid

lemma answerNewHandle_served {attrs : FsAttrs} (kind : SftpHandleKind) (calls : List FsCall)
    (hp : NormalizedPaths req) (hc : ∀ c∈calls,c.OnNew req fsHandle)
    (hs : t.session=s.session) (ht : t.trace=s.trace++(allowedBy policy req++
      (.fs (openedCall req.path pflags fsHandle kind)::calls.map .fs))) :
    (answerNewHandle cap api id kind pflags req.path attrs fsHandle).Ensures t
      (SftpServed (some api) policy (.opens kind pflags) (some id) cap s) := by
  apply bindGet
  rw [hs]
  cases ha : allocHandle s.session fsHandle kind pflags req.path attrs with
  | none =>
    apply bindIgnore
    apply closeFsHandle_ensures
    intro _ w
    exact reclosed_served kind pflags calls hp hc hs ht (failed_status id _ (by decide))
      (by decide : (cstr "no handles").length≤64) rfl
  | some new =>
    obtain ⟨wireHandle,next⟩ := new
    obtain ⟨_,-,hw,-⟩ := allocHandle_some ha
    apply bindModify
    refine SftpServed.answer (.handle id wireHandle) ht (.opened rfl hp hc ha) ?_ ?_
    · rw [hw]
      exact beBytes_length 4 _
    · exact rfl
end

lemma setOpenAttrs_bindStatus {f : Except Err Unit → Call (SftpServing σ) Err β}
    {Q : Except Err β → SftpServing σ → Prop}
    (h : ∀ r (calls : List FsCall) w,(∀ c∈calls,c=FsCall.fsetstat fsHandle openAttrs) →
      (f r).Ensures ⟨s.session,w,s.trace++calls.map .fs⟩ Q) :
    ((setOpenAttrs api fsHandle openAttrs).status >>= f).Ensures s Q := by
  have hqt : (f (.ok ())).Ensures s Q := by
    have hq := h (.ok ()) [] s.world (by simp)
    rw [map_nil,append_nil] at hq
    exact hq
  apply bindStatus
  unfold setOpenAttrs
  rcases api.fsetstat with _ | fsetstat
  · exact hqt
  apply Ensures.onlyIf
  · intro _
    exact observed_ensures fun r w _ => h r [.fsetstat fsHandle openAttrs] w (by simp)
  intro _
  exact hqt

lemma openChecked_served {openFile : Bytes → Nat → Call σ Err FsHandle} {pflags : Nat}
    {view : StringView} {asked : FsAttrs} (hpt : copyPath view=.ok path) :
    (openChecked policy cap api openFile id pflags path asked openAttrs).Ensures
      s (SftpServed (some api) policy (.opens .file pflags) (some id) cap s) := by
  have hp : NormalizedPaths
      {operation := .openFile,path,pflags,attrs := some asked} := normalizedPath hpt rfl
  refine policyCheck_served (by decide) fun w => ?_
  apply bindStatus
  apply observed_ensures
  intro r w' _
  rcases r with e | fsHandle
  · have hw : Worked (some api) policy (.opens .file pflags) s true ⟨s.session,w',_⟩ :=
      Worked.onPath [.openFile path pflags (.error e)] (by simp) hp
        (List.forall_mem_singleton.mpr rfl)
    exact hw.error (by decide)
  apply setOpenAttrs_bindStatus
  intro r calls v hcl
  have hs : ∀ c∈calls,c.OnNew
      {operation := .openFile,path,pflags,attrs := some asked} fsHandle := by
    intro c hc
    rw [hcl c hc]
    exact rfl
  cases r with
  | error e =>
    apply bindIgnore
    apply closeFsHandle_ensures
    intro _ v'
    refine reclosed_served .file pflags calls hp hs ?_ ?_
      (failed_status id _ (statusFromError_error_ne_ok e)) ?_ rfl
    · exact rfl
    · simp only [append_assoc,cons_append,nil_append,openedCall]
    · exact statusMessageFromError_length _ (by decide)
  | ok u =>
    apply statOr_bind
    intro attrs later v' hl
    refine answerNewHandle_served .file (calls++later) hp ?_ rfl ?_
    · intro c hc
      rcases mem_append.mp hc with hc | hc
      · exact hs c hc
      rw [hl c hc]
      exact rfl
    · simp only [append_assoc,cons_append,nil_append,map_append,openedCall]

lemma handleOpen_served :
    (handleOpen fs policy request cap).Ensures s
      (SftpServed fs policy (decodedOpen .file SftpOpenRequest.pflags (sftpOpenRequestDecode request))
        (decodedId SftpOpenRequest.id (sftpOpenRequestDecode request)) cap s) := by
  unfold handleOpen
  rcases sftpOpenRequestDecode request with _ | r
  · exact .refuse (by decide)
  rcases fs with _ | api
  · exact .refuse (by decide)
  simp only
  rcases api.openFile with _ | openFile
  · exact .refuse (by decide)
  simp only
  rcases hp : copyPath r.filename with e | path
  · exact .refuse ⟨statusFromError_error_ne_ok e,by decide⟩
  simp only
  refine .guard (by decide) fun _ => ?_
  rcases sftpAttrsDecode r.attrs with e | requestedAttrs
  · exact .refuse ⟨statusFromError_error_ne_ok e,by decide⟩
  refine .guard (by decide) fun _ => ?_
  refine .guard (by decide) fun _ => ?_
  exact openChecked_served hp

lemma handleOpendir_served :
    (handleOpendir fs policy request cap).Ensures s
      (SftpServed fs policy (decodedOpen .dir (fun _ => 0) (sftpOpendirRequestDecode request))
        (decodedId SftpPathRequest.id (sftpOpendirRequestDecode request)) cap s) := by
  unfold handleOpendir
  rcases sftpOpendirRequestDecode request with _ | r
  · exact .refuse (by decide)
  rcases fs with _ | api
  · exact .refuse (by decide)
  simp only
  rcases api.opendir with _ | opendir
  · exact .refuse (by decide)
  simp only
  rcases hpt : copyPath r.path with e | path
  · exact .refuse ⟨statusFromError_error_ne_ok e,by decide⟩
  have hp : NormalizedPaths {operation := .opendir,path} := normalizedPath hpt rfl
  refine policyCheck_served (by decide) fun w => ?_
  apply bindStatus
  apply observed_ensures
  intro result w' _
  rcases result with e | fsHandle
  · have hw : Worked (some api) policy (.opens .dir 0) s true ⟨s.session,w',_⟩ :=
      Worked.onPath [.opendir path (.error e)] (by simp) hp (List.forall_mem_singleton.mpr rfl)
    exact hw.error (by decide)
  apply statOr_bind
  intro attrs calls v hcl
  refine answerNewHandle_served .dir calls hp ?_ rfl ?_
  · intro c hc
    rw [hcl c hc]
    exact rfl
  · simp only [append_assoc,cons_append,nil_append,openedCall]

variable {r : SftpExtendedRequest}

lemma extendedFile_attempts {β : Type} {f : SftpHandleEntry → Call (SftpServing σ) Err β}
    (h : ∀ i entry,s.session.handles i=some entry →
      decodedHandle (fun view => view) (oneString r.payload)=.handle entry.wireHandle →
      entry.kind=.file → Attempts fs policy
        (decodedHandle (fun view => view) (oneString r.payload)) s (f entry)) :
    Attempts fs policy (decodedHandle (fun view => view) (oneString r.payload)) s
      (extendedFile r >>= f) := by
  refine .andThen (bindLift (fun handle hv => bindGet ?_) fun _ _ => Worked.early)
  rcases hf : findHandle s.session handle with _ | ⟨i,entry⟩
  · exact Worked.early
  obtain ⟨hs,hh⟩ := findHandle_subject hf
  rw [hv] at h ⊢
  exact bindRequire (fun hk => h i entry hs hh hk) fun _ => Worked.early

lemma extendedFsync_served :
    (extendedFsync fs policy cap r).Ensures s
      (SftpServed fs policy (decodedHandle (fun view => view) (oneString r.payload)) (some r.id)
        cap s) := by
  unfold extendedFsync
  rcases fs.bind FsApi.fsync with _ | fsync
  · exact .refuse (by decide)
  exact Attempts.outcome (extendedFile_attempts fun i entry hs hh hk => .onEntry hs hh rfl ⟨rfl,hk⟩)
    (by decide)

lemma extendedFstatvfs_served :
    (extendedFstatvfs fs policy cap r).Ensures s
      (SftpServed fs policy (decodedHandle (fun view => view) (oneString r.payload)) (some r.id)
        cap s) := by
  unfold extendedFstatvfs
  rcases fs.bind FsApi.fstatvfs with _ | fstatvfs
  · exact .refuse (by decide)
  apply Attempts.status
  · exact extendedFile_attempts fun i entry hs hh hk => .onEntry hs hh rfl ⟨rfl,hk⟩
  rintro (e | stats) t ht
  · exact ht.error (by decide)
  · exact ht.done (.statvfs r.id stats) trivial nofun rfl

lemma extendedStatvfs_served :
    (extendedStatvfs fs policy cap r).Ensures s
      (SftpServed fs policy .paths (some r.id) cap s) := by
  unfold extendedStatvfs
  rcases fs.bind FsApi.statvfs with _ | statvfs
  · exact .refuse (by decide)
  apply Attempts.status
  · exact .bindLift fun view _ => .bindLift fun path hp => .onPath (normalizedPath hp rfl) rfl
  rintro (e | stats) t ht
  · exact ht.error (by decide)
  · exact ht.done (.statvfs r.id stats) trivial nofun rfl

lemma extendedPathPair_served {operation : SftpPolicyOperation} {event : Bytes → Bytes → FsCall}
    {callback : Option (Bytes → Bytes → Call σ Err Unit)} {unsupported fallback : String}
    (hev : ∀ oldPath newPath,(event oldPath newPath).OnPath
      {operation,path := oldPath,newPath := some newPath})
    (hu : (cstr unsupported).length≤64) (hf : (cstr fallback).length≤64) :
    (extendedPathPair policy cap r operation event callback unsupported
      fallback).Ensures s (SftpServed fs policy .paths (some r.id) cap s) := by
  unfold extendedPathPair
  rcases callback with _ | callback
  · exact .refuse ⟨by decide,hu⟩
  exact Attempts.outcome (.bindLift fun views _ => .bindLift fun oldPath hold => .bindLift fun newPath hn =>
    .onPath (normalizedPair hold hn rfl) (hev oldPath newPath)) hf

lemma extendedHardlink_served :
    (extendedHardlink fs policy cap r).Ensures s
      (SftpServed fs policy .paths (some r.id) cap s) := by
  refine extendedPathPair_served ?_ (by decide) (by decide)
  intro oldPath newPath
  exact ⟨rfl,rfl⟩

lemma extendedPosixRename_served :
    (extendedPosixRename fs policy cap r).Ensures s
      (SftpServed fs policy .paths (some r.id) cap s) := by
  refine extendedPathPair_served ?_ (by decide) (by decide)
  intro oldPath newPath
  exact ⟨rfl,rfl⟩

end EMSSHD
