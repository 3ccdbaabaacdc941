import EMSSHD.Sftp.Lifecycle
import EMSSHD.Sftp.Response

namespace EMSSHD

open Call

def FsCall.changes : FsCall → Bool
  | .openFile _ flags _ => flags &&& (sshFxfCreat ||| sshFxfTrunc)≠0
  | .write .. => true
  | .writeAt .. => true
  | .setstat .. => true
  | .fsetstat .. => true
  | .mkdir .. => true
  | .rmdir _ => true
  | .remove _ => true
  | .rename .. => true
  | .posixRename .. => true
  | .hardlink .. => true
  | _ => false

section
variable {σ α : Type}

def noting (callback : Call σ Err α) : Call (σ×Bool) Err α :=
  ⟨fun s => ((callback.run s.1).1,((callback.run s.1).2,s.2 || !(callback.run s.1).1.isOk))⟩

def FsApi.noting (api : FsApi σ) : FsApi (σ×Bool) where
  openFile := api.openFile.map fun f path flags => EMSSHD.noting (f path flags)
  close := api.close.map fun f handle => (f handle).onFst
  read := api.read.map fun f handle len => (f handle len).onFst
  write := api.write.map fun f handle data => (f handle data).onFst
  readAt := api.readAt.map fun f handle offset len => (f handle offset len).onFst
  writeAt := api.writeAt.map fun f handle offset data => (f handle offset data).onFst
  stat := api.stat.map fun f path => (f path).onFst
  lstat := api.lstat.map fun f path => (f path).onFst
  setstat := api.setstat.map fun f path attrs => (f path attrs).onFst
  fsetstat := api.fsetstat.map fun f handle attrs => EMSSHD.noting (f handle attrs)
  opendir := api.opendir.map fun f path => (f path).onFst
  readdir := api.readdir.map fun f handle => (f handle).onFst
  closedir := api.closedir.map fun f handle => (f handle).onFst
  mkdir := api.mkdir.map fun f path attrs => (f path attrs).onFst
  rmdir := api.rmdir.map fun f path => (f path).onFst
  remove := api.remove.map fun f path => (f path).onFst
  rename := api.rename.map fun f oldPath newPath => (f oldPath newPath).onFst
  posixRename := api.posixRename.map fun f oldPath newPath => (f oldPath newPath).onFst
  fsync := api.fsync.map fun f handle => (f handle).onFst
  hardlink := api.hardlink.map fun f oldPath newPath => (f oldPath newPath).onFst
  statvfs := api.statvfs.map fun f path => (f path).onFst
  fstatvfs := api.fstatvfs.map fun f handle => (f handle).onFst

lemma FsApi.noting_openFile (api : FsApi σ) :
    api.noting.openFile=api.openFile.map fun f path flags => EMSSHD.noting (f path flags) := rfl

lemma FsApi.noting_fsetstat (api : FsApi σ) :
    api.noting.fsetstat=api.fsetstat.map fun f handle attrs => EMSSHD.noting (f handle attrs) := rfl

def policyBeside (policy : Option (SftpPolicy σ)) : Option (SftpPolicy (σ×Bool)) :=
  policy.map fun check request => (check request).onFst

/-- What handle_open does to a session, with the flag for open and fsetstat down. -/
def openNoted (fs : Option (FsApi σ)) (policy : Option (SftpPolicy σ)) (request : Bytes)
    (responseCapacity : Nat) (session : SftpServerSession) (world : σ) :
    Except Err Bytes×SftpServing (σ×Bool) :=
  (handleOpen (fs.map FsApi.noting) (policyBeside policy) request responseCapacity).run
    ⟨session,(world,false),[]⟩

/-- A STATUS that no error of open or fsetstat explains comes without a change to the files. -/
def UnchangedWhenRefused (r : Except Err Bytes) (t : SftpServing (σ×Bool)) : Prop :=
  ∀ response,r=.ok response → response[4]? = some sshFxpStatus → t.world.2=false →
    ∀ call,SftpEvent.fs call∈t.trace → call.changes=false
end

structure CheckedOpen where
  id : Nat
  pflags : Nat
  path : Bytes
  requestedAttrs : FsAttrs
  deriving DecidableEq

namespace CheckedOpen
variable (c : CheckedOpen)

def openAttrs : FsAttrs :=
  {c.requestedAttrs with flags := withoutBits c.requestedAttrs.flags sshFilexferAttrSize}

def policyRequest : SftpPolicyRequest :=
  {operation := .openFile,path := c.path,pflags := c.pflags,attrs := some c.requestedAttrs}

def Changes : Prop := c.pflags &&& (sshFxfCreat ||| sshFxfTrunc)≠0 ∨ c.openAttrs.flags≠0

/-- The policy allows it, and neither open nor fsetstat reports an error. -/
def Opens {σ : Type} (api : FsApi σ) (openFile : Bytes → Nat → Call σ Err FsHandle)
    (policy : Option (SftpPolicy σ)) (world : σ) (fsHandle : FsHandle) : Prop :=
  ∃ allowed opened,(policyCheck policy c.policyRequest).run world=(.ok (),allowed) ∧
    (openFile c.path c.pflags).run allowed=(.ok fsHandle,opened) ∧
    ∀ fsetstat,api.fsetstat=some fsetstat → c.openAttrs.flags≠0 →
      ((fsetstat fsHandle c.openAttrs).run opened).1=.ok ()
end CheckedOpen

/-- The checks of handle_open in front of the policy. -/
def checkOpen (hasFsetstat : Bool) (request : Bytes) : Option CheckedOpen :=
  match sftpOpenRequestDecode request with
  | .error _ => none
  | .ok r =>
    match copyPath r.filename with
    | .error _ => none
    | .ok path =>
      if openPflagsAreValid r.pflags=false then none
      else match sftpAttrsDecode r.attrs with
        | .error _ => none
        | .ok requestedAttrs =>
          if requestedAttrs.flags≠0 ∧ r.pflags &&& sshFxfWrite=0 then none
          else if withoutBits requestedAttrs.flags sshFilexferAttrSize≠0 ∧ hasFsetstat=false then none
          else some ⟨r.id,r.pflags,path,requestedAttrs⟩

section
variable {σ : Type} {policy : Option (SftpPolicy σ)} {request : Bytes} {responseCapacity : Nat}
  {api : FsApi σ} {openFile : Bytes → Nat → Call σ Err FsHandle}

/-- The handler answers at once when a check fails, and else it opens what has been checked. -/
theorem handleOpen_checks (request : Bytes) (policy : Option (SftpPolicy σ))
    (responseCapacity : Nat) (ho : api.openFile=some openFile) :
    match checkOpen api.fsetstat.isSome request with
    | none => ∃ id code message,handleOpen (some api) policy request responseCapacity=
        answerStatus responseCapacity id code message
    | some c => handleOpen (some api) policy request responseCapacity=
          openChecked policy responseCapacity api openFile c.id c.pflags c.path c.requestedAttrs
            c.openAttrs ∧ c.path.length<emsshSftpMaxPath ∧
        (c.openAttrs.flags≠0 → api.fsetstat≠none) := by
  unfold checkOpen handleOpen
  rcases sftpOpenRequestDecode request with _ | r
  · exact ⟨_,_,_,rfl⟩
  simp only [ho]
  rcases hp : copyPath r.filename with _ | path
  · exact ⟨_,_,_,rfl⟩
  simp only
  split_ifs with hf
  · exact ⟨_,_,_,rfl⟩
  rcases sftpAttrsDecode r.attrs with _ | requestedAttrs
  · exact ⟨_,_,_,rfl⟩
  simp only [Option.isSome_eq_false_iff]
  split_ifs with hw hs
  · exact ⟨_,_,_,rfl⟩
  · exact ⟨_,_,_,rfl⟩
  obtain ⟨_,_,_,_,_,hl⟩ := normalizePathView_spec hp
  refine ⟨rfl,hl,fun ha hn => hs ⟨ha,?_⟩⟩
  rw [hn]
  rfl
end

section
variable {σ : Type} {s t u : SftpServing (σ×Bool)}

def AnswersStatus (r : Except Err Bytes) : Prop :=
  ∃ response,r=.ok response ∧ response[4]? = some sshFxpStatus

def Changed (t : SftpServing (σ×Bool)) : Prop := ∃ call,SftpEvent.fs call∈t.trace ∧ call.changes=true

/-- Nothing has been done to the session or to a file, and no error is noted. -/
structure Untouched (s t : SftpServing (σ×Bool)) : Prop where
  session : t.session=s.session
  flag : t.world.2=s.world.2
  changed : Changed t ↔ Changed s

lemma Untouched.refl (s : SftpServing (σ×Bool)) : Untouched s s := ⟨rfl,rfl,Iff.rfl⟩

variable {r : Except Err Bytes} {session : SftpServerSession}

lemma unchangedWhenRefused_iff :
    UnchangedWhenRefused r t ↔ (AnswersStatus r → t.world.2=false → ¬Changed t) := by
  unfold UnchangedWhenRefused AnswersStatus Changed
  constructor
  · rintro h ⟨response,hr,hs⟩ hf ⟨call,hcl,hc⟩
    rw [h response hr hs hf call hcl] at hc
    cases hc
  intro h response hr hs hf call hcl
  by_contra hc
  exact h ⟨response,hr,hs⟩ hf ⟨call,hcl,by simpa using hc⟩

lemma changed_append {world : σ×Bool} {trace events : List SftpEvent} :
    Changed (⟨session,world,trace++events⟩ : SftpServing (σ×Bool)) ↔
      Changed (⟨session,world,trace⟩ : SftpServing (σ×Bool)) ∨
        ∃ call,SftpEvent.fs call∈events ∧ call.changes=true := by
  simp only [Changed,mem_append,or_and_right,exists_or]

lemma observed_quiet {α : Type} {event : Except Err α → SftpEvent} {callback : Call σ Err α}
    (he : ∀ r call,event r=.fs call → call.changes=false) :
    (observed event callback.onFst).Ensures s fun _ t => Untouched s t := by
  refine ⟨rfl,rfl,changed_append.trans (or_iff_left ?_)⟩
  rintro ⟨call,hcl,hc⟩
  rw [mem_singleton] at hcl
  rw [he _ call hcl.symm] at hc
  cases hc

variable {api : FsApi σ}

lemma statOr_quiet (path : Bytes) (attrs : FsAttrs) :
    (statOr api.noting path attrs).Ensures s (Outcome (fun _ t => Untouched s t) fun _ _ => False) := by
  unfold statOr FsApi.noting
  rcases api.stat with _ | stat
  · exact Untouched.refl s
  apply bindStatus
  refine (observed_quiet fun r call he => ?_).mono fun r t ht => ?_
  · obtain rfl := SftpEvent.fs.inj he
    rfl
  cases r with
  | error | ok => exact ht

lemma closeFsHandle_quiet (fsHandle : FsHandle) :
    (closeFsHandle api.noting .file fsHandle).Ensures s fun _ t => Untouched s t := by
  unfold closeFsHandle FsApi.noting FsApi.closeCallback
  rcases api.close with _ | close
  · exact Untouched.refl s
  refine observed_quiet fun r call he => ?_
  obtain rfl := SftpEvent.fs.inj he
  rfl

variable {capacity id pflags : Nat} {fsHandle : FsHandle} {path : Bytes} {attrs : FsAttrs}

lemma encodeStatus_answers {code : FxStatus} {message : Bytes} (hm : message.length≤64) :
    AnswersStatus (encodeStatus capacity id code message) ↔ message.length+21≤capacity := by
  have hb : (SftpAnswer.status id code message).body.length=message.length+17 := by
    simp only [SftpAnswer.body,stringWire,length_append,beBytes_length,length_singleton,length_nil]
    omega
  have hs : (SftpAnswer.status id code message).Sized (none : Option (FsApi Unit)) capacity := hm
  constructor
  · rintro ⟨response,hr,-⟩
    by_contra hrm
    have hf : Appends (do
        sshBufferPutU8 sshFxpStatus
        sshBufferPutU32 id
        sshBufferPutU32 code.code
        sshBufferPutCstring message
        sshBufferPutCstring []) (SftpAnswer.status id code message).body :=
      (appends_putRaw _).bind ((appends_putRaw _).bind ((appends_putRaw _).bind
        ((appends_putString message).bind (appends_putString []))))
    obtain ⟨e,he⟩ := sftpPacketEncode_overflow hf (show capacity<_ by rw [hb]; omega)
    cases he.symm.trans hr
  intro hrm
  refine ⟨_,SftpAnswer.encode_ok hs (by rw [hb]; omega) ?_,?_⟩
  · rw [hb]
    unfold uint32Max
    omega
  rw [List.getElem?_append_right (by simp [beBytes_length])]
  simp [beBytes_length,SftpAnswer.body]

lemma handle_not_status {wireHandle : Bytes} (hw : wireHandle.length=4) :
    ¬AnswersStatus (sftpHandleEncode capacity id wireHandle) := by
  rintro ⟨response,hr,hs⟩
  have hsz : (SftpAnswer.handle id wireHandle).Sized (none : Option (FsApi Unit)) capacity := hw
  rw [SftpAnswer.encode_eq hsz hr,List.getElem?_append_right (by simp [beBytes_length])] at hs
  simp [beBytes_length,SftpAnswer.body] at hs
  cases hs

lemma allocHandle_eq_none {kind : SftpHandleKind} (hp : path.length<emsshSftpMaxPath) :
    allocHandle session fsHandle kind pflags path attrs=none ↔
      ¬(fsHandle≠0 ∧ ∃ i,session.handles i=none) := by
  unfold allocHandle
  split_ifs with hb
  · refine iff_of_true rfl fun h => h.1 ?_
    exact hb.resolve_right (Nat.not_le.mpr hp)
  rw [Option.map_eq_none_iff,List.find?_eq_none]
  simp only [not_or] at hb
  constructor
  · rintro h ⟨-,i,hi⟩
    exact h i (List.mem_finRange i) (Option.isNone_iff_eq_none.mpr hi)
  intro h i _ hi
  exact h ⟨hb.1,i,Option.isNone_iff_eq_none.mp hi⟩

lemma answerNewHandle_noted (hp : path.length<emsshSftpMaxPath) (hf : s.world.2=false) :
    (answerNewHandle capacity api.noting id .file pflags path attrs fsHandle).Ensures s fun r t =>
      UnchangedWhenRefused r t ↔
        (31≤capacity → Changed s → fsHandle≠0 ∧ ∃ i,s.session.handles i=none) := by
  apply bindGet
  cases ha : allocHandle s.session fsHandle .file pflags path attrs with
  | none =>
    have hfl := (allocHandle_eq_none hp).mp ha
    apply bindIgnore
    refine (closeFsHandle_quiet fsHandle).mono fun _ t ht => ?_
    have hr : AnswersStatus (encodeStatus capacity id .failure (cstr "no handles")) ↔
        31≤capacity := encodeStatus_answers (by decide)
    change UnchangedWhenRefused (encodeStatus capacity id .failure (cstr "no handles")) t ↔ _
    rw [unchangedWhenRefused_iff,hr,ht.flag,hf,ht.changed]
    exact ⟨fun h hcp hc => absurd hc (h hcp rfl),fun h hcp _ hc => hfl (h hcp hc)⟩
  | some new =>
    obtain ⟨wireHandle,next⟩ := new
    obtain ⟨_,-,hw,-⟩ := allocHandle_some ha
    apply bindModify
    have hs : ¬AnswersStatus (sftpHandleEncode capacity id wireHandle) :=
      handle_not_status (hw ▸ beBytes_length 4 _)
    have hsl : fsHandle≠0 ∧ ∃ i,s.session.handles i=none := by
      by_contra hno
      rw [(allocHandle_eq_none hp).mpr hno] at ha
      cases ha
    change UnchangedWhenRefused (sftpHandleEncode capacity id wireHandle) _ ↔ _
    rw [unchangedWhenRefused_iff]
    exact iff_of_true (fun h => absurd h hs) fun _ _ => hsl

variable {policy : Option (SftpPolicy σ)} {openFile : Bytes → Nat → Call σ Err FsHandle}
  {c : CheckedOpen} {capacity : Nat} {session : SftpServerSession} {world : σ}

lemma policyCheck_noted (req : SftpPolicyRequest) :
    (policyCheck (observedPolicy (policyBeside policy)) req).Ensures s fun r t =>
      Untouched s t ∧ r=((policyCheck policy req).run s.world.1).1 ∧
        t.world.1=((policyCheck policy req).run s.world.1).2 := by
  rcases policy with _ | check
  · exact ⟨Untouched.refl s,rfl,rfl⟩
  have hq : (observed (.policy req) (check req).onFst).Ensures s fun _ t => Untouched s t :=
    observed_quiet fun r call he => by cases he
  exact ⟨hq,rfl,rfl⟩

lemma setOpenAttrs_noted {openAttrs : FsAttrs} (hfl : s.world.2=false)
    (hs : openAttrs.flags≠0 → api.fsetstat≠none) :
    (setOpenAttrs api.noting fsHandle openAttrs).Ensures s fun r t => t.session=s.session ∧
      (r=.ok () ↔ ∀ fsetstat,api.fsetstat=some fsetstat → openAttrs.flags≠0 →
        ((fsetstat fsHandle openAttrs).run s.world.1).1=.ok ()) ∧
      (t.world.2=false ↔ r=.ok ()) ∧ (Changed t ↔ Changed s ∨ openAttrs.flags≠0) := by
  unfold setOpenAttrs
  rw [FsApi.noting_fsetstat]
  rcases hfs : api.fsetstat with _ | fsetstat
  · have hno : ¬openAttrs.flags≠0 := fun hf => hs hf hfs
    refine ⟨rfl,iff_of_true rfl fun fsetstat he => ?_,iff_of_true hfl rfl,(or_iff_left hno).symm⟩
    cases he
  apply Ensures.onlyIf
  · intro hf
    refine ⟨rfl,?_,?_,changed_append.trans (or_congr_right ?_)⟩
    · exact ⟨fun hr _ he _ => Option.some.inj he ▸ hr,fun h => h fsetstat rfl hf⟩
    · change (s.world.2 || _)=false ↔ ((fsetstat fsHandle openAttrs).run s.world.1).1=_
      rw [hfl]
      cases ((fsetstat fsHandle openAttrs).run s.world.1).1 <;> simp [Except.isOk,Except.toBool]
    · exact iff_of_true ⟨_,mem_singleton_self _,rfl⟩ hf
  intro hno
  exact ⟨rfl,iff_of_true rfl fun _ _ hf => absurd hf hno,iff_of_true hfl rfl,
    (or_iff_left hno).symm⟩

lemma refused_holds {P : Prop} (h : t.world.2=false → ¬Changed t) (hP : P) :
    (Call.lift r).Ensures t fun r t => UnchangedWhenRefused r t ↔ P :=
  iff_of_true (unchangedWhenRefused_iff.mpr fun _ hf => h hf) hP

lemma openedFile_noted (hp : c.path.length<emsshSftpMaxPath)
    (hst : c.openAttrs.flags≠0 → api.fsetstat≠none) (hf : s.world.2=false) :
    ((setOpenAttrs api.noting fsHandle c.openAttrs).status >>= fun
      | .error e => do
        (closeFsHandle api.noting .file fsHandle).ignore
        answerError capacity c.id e "open attrs failed"
      | .ok _ => do
        let attrs ← statOr api.noting c.path c.openAttrs
        answerNewHandle capacity api.noting c.id .file c.pflags c.path attrs fsHandle).Ensures s
      fun r t => UnchangedWhenRefused r t ↔
        ((∀ fsetstat,api.fsetstat=some fsetstat → c.openAttrs.flags≠0 →
          ((fsetstat fsHandle c.openAttrs).run s.world.1).1=.ok ()) →
        31≤capacity → (Changed s ∨ c.openAttrs.flags≠0) →
          fsHandle≠0 ∧ ∃ i,s.session.handles i=none) := by
  apply bindStatus
  refine (setOpenAttrs_noted hf hst).mono fun r t ht => ?_
  obtain ⟨hs,hr,hn,hc⟩ := ht
  cases r with
  | error e =>
    apply bindIgnore
    refine (closeFsHandle_quiet fsHandle).mono fun _ u hu => ?_
    refine refused_holds (fun hd => ?_) fun ha => ?_
    · cases hn.mp (hu.flag.symm.trans hd)
    · cases hr.mpr ha
  | ok _ =>
    have hd : t.world.2=false := hn.mpr rfl
    have ha := hr.mp rfl
    refine .bind (statOr_quiet c.path c.openAttrs) (fun attrs u hu => ?_) fun _ _ h => h.elim
    refine (answerNewHandle_noted hp (hu.flag.trans hd)).mono fun r v hv => hv.trans ?_
    rw [hu.changed,hc,hu.session,hs]
    exact ⟨fun h _ => h,fun h => h ha⟩

lemma openFile_noted (path : Bytes) (pflags : Nat) (hf : s.world.2=false) (hu : ¬Changed s) :
    (observed (fun r => .fs (.openFile path pflags r)) (noting (openFile path pflags))).Ensures s
      fun r t => t.session=s.session ∧ (openFile path pflags).run s.world.1=(r,t.world.1) ∧
        t.world.2=!r.isOk ∧ (Changed t ↔ pflags &&& (sshFxfCreat ||| sshFxfTrunc)≠0) := by
  refine ⟨rfl,rfl,?_,changed_append.trans ⟨fun h => ?_,fun h => .inr ⟨_,mem_singleton_self _,?_⟩⟩⟩
  · change (s.world.2 || _)=_
    rw [hf]
    rfl
  · obtain ⟨call,hcl,hc⟩ := h.resolve_left hu
    obtain rfl := SftpEvent.fs.inj (mem_singleton.mp hcl)
    exact of_decide_eq_true hc
  · exact decide_eq_true h

lemma not_changed_start : ¬Changed (⟨session,(world,false),[]⟩ : SftpServing (σ×Bool)) := by
  rintro ⟨call,hc,-⟩
  cases hc

lemma openChecked_noted (hp : c.path.length<emsshSftpMaxPath)
    (hst : c.openAttrs.flags≠0 → api.fsetstat≠none) :
    (openChecked (policyBeside policy) capacity api.noting
      (fun path flags => noting (openFile path flags)) c.id c.pflags c.path c.requestedAttrs
      c.openAttrs).Ensures ⟨session,(world,false),[]⟩ fun r t => UnchangedWhenRefused r t ↔
        ∀ fsHandle,c.Opens api openFile policy world fsHandle → 31≤capacity → c.Changes →
          fsHandle≠0 ∧ ∃ i,session.handles i=none := by
  apply bindStatus
  refine (policyCheck_noted c.policyRequest).mono fun r t ht => ?_
  obtain ⟨hq,hr,hw⟩ := ht
  have ha : (policyCheck policy c.policyRequest).run world=(r,t.world.1) := Prod.ext hr.symm hw.symm
  have hun : ¬Changed t := fun hc => not_changed_start (hq.changed.mp hc)
  rcases r with _ | _
  · refine refused_holds (fun _ => hun) fun fsHandle hop => ?_
    obtain ⟨allowed,opened,hok,-⟩ := hop
    cases ha.symm.trans hok
  apply bindStatus
  refine (openFile_noted c.path c.pflags hq.flag hun).mono fun r u hu => ?_
  obtain ⟨hs,hon,hf,hc⟩ := hu
  cases r with
  | error e =>
    refine refused_holds (fun hd => ?_) fun fsHandle hop => ?_
    · cases hf.symm.trans hd
    obtain ⟨allowed,_,hok,ho,-⟩ := hop
    obtain rfl := (Prod.mk.inj (ha.symm.trans hok)).2
    cases hon.symm.trans ho
  | ok fsHandle =>
    refine (openedFile_noted hp hst hf).mono fun r v hv => hv.trans ?_
    rw [hc,hs,show t.session=session from hq.session]
    constructor
    · rintro h handle ⟨allowed,opened,hok,ho,hat⟩
      obtain rfl := (Prod.mk.inj (ha.symm.trans hok)).2
      obtain ⟨hh,rfl⟩ := Prod.mk.inj (hon.symm.trans ho)
      obtain rfl := Except.ok.inj hh
      exact h hat
    intro h hat
    exact h fsHandle ⟨_,_,ha,hon,hat⟩

/-- An OPEN that is refused without an error of the file system leaves the files alone, unless it
asks for a change and there is no slot for its handle. -/
theorem openNoted_unchanged_iff (fs : Option (FsApi σ)) (policy : Option (SftpPolicy σ))
    (request : Bytes) (responseCapacity : Nat) (session : SftpServerSession) (world : σ) :
    UnchangedWhenRefused (openNoted fs policy request responseCapacity session world).1
        (openNoted fs policy request responseCapacity session world).2 ↔
      ∀ api openFile c fsHandle,fs=some api → api.openFile=some openFile →
        checkOpen api.fsetstat.isSome request=some c →
        c.Opens api openFile policy world fsHandle → 31≤responseCapacity → c.Changes →
        fsHandle≠0 ∧ ∃ i,session.handles i=none := by
  change (handleOpen (fs.map FsApi.noting) (policyBeside policy) request responseCapacity).Ensures
    ⟨session,(world,false),[]⟩ fun r t => UnchangedWhenRefused r t ↔ _
  have hr {P : Prop} (hP : P) (hrn : ∃ id code message,
      handleOpen (fs.map FsApi.noting) (policyBeside policy) request responseCapacity=
        answerStatus responseCapacity id code message) :
      (handleOpen (fs.map FsApi.noting) (policyBeside policy) request responseCapacity).Ensures
        ⟨session,(world,false),[]⟩ fun r t => UnchangedWhenRefused r t ↔ P := by
    obtain ⟨id,code,message,hrn⟩ := hrn
    rw [hrn]
    exact refused_holds (fun _ => not_changed_start) hP
  rcases fs with _ | api
  · refine hr (fun api openFile c fsHandle hfs => by cases hfs) ?_
    unfold handleOpen
    cases sftpOpenRequestDecode request <;> exact ⟨_,_,_,rfl⟩
  cases ho : api.openFile with
  | none =>
    refine hr (fun api' openFile c fsHandle hfs hf => ?_) ?_
    · obtain rfl := Option.some.inj hfs
      cases ho.symm.trans hf
    unfold handleOpen
    simp only [Option.map_some,FsApi.noting_openFile,ho,Option.map_none]
    cases sftpOpenRequestDecode request <;> exact ⟨_,_,_,rfl⟩
  | some openFile =>
    have hn : api.noting.openFile=some fun path flags => noting (openFile path flags) := by
      rw [FsApi.noting_openFile,ho]
      rfl
    have hs : api.noting.fsetstat.isSome=api.fsetstat.isSome := by
      rw [FsApi.noting_fsetstat,Option.isSome_map]
    have hk := handleOpen_checks request (policyBeside policy) responseCapacity hn
    rw [hs] at hk
    rcases hc : checkOpen api.fsetstat.isSome request with _ | c
    · rw [hc] at hk
      refine hr (fun api' openFile c fsHandle hfs _ hch => ?_) hk
      obtain rfl := Option.some.inj hfs
      cases hc.symm.trans hch
    rw [hc] at hk
    obtain ⟨hrn,hp,hst⟩ := hk
    rw [Option.map_some,hrn]
    refine (openChecked_noted hp fun hfl hnn => ?_).mono fun r t ht => ht.trans ?_
    · refine hst hfl ?_
      rw [FsApi.noting_fsetstat,hnn]
      rfl
    constructor
    · intro h api' openFile' c' fsHandle hfs hf hch
      obtain rfl := Option.some.inj hfs
      obtain rfl := Option.some.inj (ho.symm.trans hf)
      obtain rfl := Option.some.inj (hc.symm.trans hch)
      exact h fsHandle
    intro h fsHandle
    exact h api openFile c fsHandle rfl ho hc
end

def openedTimes : Nat → SftpServing Nat
  | 0 => ⟨sftpServerSessionInit,0,[]⟩
  | n+1 => ((sftpServerHandlePacket (some countingFs) none openRequest 64).run (openedTimes n)).2

def truncateRequest : Bytes := [0,0,0,18,3,0,0,0,8,0,0,0,1,98,0,0,0,26,0,0,0,0]

/-- With sixteen handles in use an OPEN empties its file and is answered with a STATUS. -/
theorem openNoted_changed_when_full : ¬UnchangedWhenRefused
    (openNoted (some countingFs) none truncateRequest 64 (openedTimes 16).session 16).1
    (openNoted (some countingFs) none truncateRequest 64 (openedTimes 16).session 16).2 := by
  intro h
  have ha : (openNoted (some countingFs) none truncateRequest 64 (openedTimes 16).session 16).1=
      .ok ([0,0,0,27,101,0,0,0,8,0,0,0,4,0,0,0,10]++cstr "no handles"++[0,0,0,0]) := by
    decide +kernel
  have ht : SftpEvent.fs (.openFile [98] 26 (.ok 17))∈
      (openNoted (some countingFs) none truncateRequest 64 (openedTimes 16).session 16).2.trace := by
    decide +kernel
  have hf : (openNoted (some countingFs) none truncateRequest 64
      (openedTimes 16).session 16).2.world.2=false := by
    decide +kernel
  cases h _ ha (by decide +kernel) hf _ ht

end EMSSHD
