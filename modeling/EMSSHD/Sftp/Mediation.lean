import EMSSHD.Sftp.Lifecycle

namespace EMSSHD

open HandleStep

/-- The path with which a handle was opened. Where the file system never gives out a handle
that is open, it is the path with which it was opened last, and it has not been closed since. -/
structure OpenedAs (history : List SftpEvent) (handle : FsHandle) (path : Bytes) : Prop where
  opened : ∃ kind pflags,.fs (openedCall path pflags handle kind)∈history
  live : FreshFrom (fun _ => none) history →
    ∃ kind,liveAfter (fun _ => none) history handle=some (kind,path)

namespace FsCall

def IsClose : FsCall → Prop
  | close _ => True
  | closedir _ => True
  | _ => False

/-- A policy request that stands for a callback, given the events up to the callback. -/
def AuthorisedBy (history : List SftpEvent) (req : SftpPolicyRequest) : FsCall → Prop
  | openFile path _ _ => Normalized path ∧ req.path=path
  | opendir path _ => Normalized path ∧ req.path=path
  | stat path => Normalized path ∧ req.path=path
  | lstat path => Normalized path ∧ req.path=path
  | setstat path _ => Normalized path ∧ req.path=path
  | mkdir path _ => Normalized path ∧ req.path=path
  | rmdir path => Normalized path ∧ req.path=path
  | remove path => Normalized path ∧ req.path=path
  | statvfs path => Normalized path ∧ req.path=path
  | rename oldPath newPath => (Normalized oldPath ∧ req.path=oldPath) ∧
      Normalized newPath ∧ req.newPath=some newPath
  | posixRename oldPath newPath => (Normalized oldPath ∧ req.path=oldPath) ∧
      Normalized newPath ∧ req.newPath=some newPath
  | hardlink oldPath newPath => (Normalized oldPath ∧ req.path=oldPath) ∧
      Normalized newPath ∧ req.newPath=some newPath
  | read handle len => OpenedAs history handle req.path ∧ req.length=len
  | readAt handle offset len =>
      OpenedAs history handle req.path ∧ req.offset=offset ∧ req.length=len
  | write handle data => OpenedAs history handle req.path ∧ req.length=data.length
  | writeAt handle offset data =>
      OpenedAs history handle req.path ∧ req.offset=offset ∧ req.length=data.length
  | fsetstat handle _ => OpenedAs history handle req.path
  | readdir handle => OpenedAs history handle req.path
  | fsync handle => OpenedAs history handle req.path
  | fstatvfs handle => OpenedAs history handle req.path
  | close _ => True
  | closedir _ => True

variable {history : List SftpEvent} {req : SftpPolicyRequest} {entry : SftpHandleEntry}
  {fsHandle : FsHandle} {c : FsCall}

lemma OnPath.authorised (h : c.OnPath req) (hp : NormalizedPaths req) :
    c.AuthorisedBy history req := by
  cases c with
  | openFile path flags result | opendir path result =>
    cases result with
    | error e => exact ⟨h ▸ hp.path,h.symm⟩
    | ok handle => exact h.elim
  | stat | lstat | setstat | mkdir | rmdir | remove | statvfs => exact ⟨h ▸ hp.path,h.symm⟩
  | rename oldPath newPath | posixRename oldPath newPath | hardlink oldPath newPath =>
    exact ⟨⟨h.1 ▸ hp.path,h.1.symm⟩,hp.newPath _ h.2,h.2⟩
  | _ => exact h.elim

lemma OnEntry.authorised (h : c.OnEntry req entry) (hp : req.path=entry.path)
    (hn : Normalized entry.path) (ho : OpenedAs history entry.fsHandle entry.path) :
    c.AuthorisedBy history req := by
  rw [← hp] at ho
  cases c with
  | stat path => exact ⟨h ▸ hn,hp.trans h.symm⟩
  | read | readAt | write | writeAt => exact ⟨h.1 ▸ ho,h.2.2.2⟩
  | fsetstat handle | readdir handle | fsync handle | fstatvfs handle =>
    rw [AuthorisedBy,h.1]
    exact ho
  | _ => exact h.elim

lemma OnNew.authorised (h : c.OnNew req fsHandle) (hp : NormalizedPaths req)
    (ho : OpenedAs history fsHandle req.path) : c.AuthorisedBy history req := by
  unfold OnNew at h
  split at h
  · subst h
    exact ⟨hp.path,rfl⟩
  · subst h
    exact ho
  · exact h.elim
end FsCall

section
variable {σ : Type} {fs : Option (FsApi σ)} {policy : Option (SftpPolicy σ)} {world w : σ}
  {past : List SftpExchange} {x : SftpExchange} {s t : SftpServerSession}

/-- Every entry was made by an open with its handle and its path. -/
structure Recorded (history : List SftpEvent) (entry : SftpHandleEntry) : Prop where
  opened : ∃ pflags,.fs (openedCall entry.path pflags entry.fsHandle entry.kind)∈history
  normalized : Normalized entry.path

variable {before events history later : List SftpEvent} {subject : SftpSubject}
  {answer : SftpAnswer} {check : SftpPolicy σ} {req : SftpPolicyRequest}
  {calls closing : List FsCall} {c : FsCall} {h : FsHandle} {kind : SftpHandleKind} {pflags : Nat}

lemma Recorded.mono {entry : SftpHandleEntry} (h : Recorded history entry) :
    Recorded (history++later) entry := by
  obtain ⟨⟨pflags,hm⟩,hn⟩ := h
  exact ⟨⟨pflags,mem_append_left later hm⟩,hn⟩

lemma Handling.recorded (hh : Handling fs policy subject s events answer t)
    (ih : ∀ i e,s.handles i=some e → Recorded history e) (i : Fin emsshSftpMaxHandles)
    (e : SftpHandleEntry) (he : t.handles i=some e) : Recorded (history++events) e := by
  rcases hh.entry he with ⟨_,h₀⟩ | ⟨-,-,ho,hn,-⟩
  · obtain ⟨ho,hn⟩ := ih i _ h₀
    exact Recorded.mono ⟨ho,hn⟩
  · exact ⟨⟨_,mem_append_right _ ho⟩,hn⟩

lemma sftpSessionRun_recorded (hr : SftpSessionRun fs policy world past s w) :
    ∀ i e,s.handles i=some e → Recorded (historyEvents past) e := by
  apply hr.invariant
  · intro i e he
    exact nomatch he
  intro past x s t answer ih hh _
  rw [historyEvents_snoc]
  exact hh.recorded ih

lemma split_allowed (h : allowedBy (some check) req++calls.map .fs=before++.fs c::later) :
    ∃ first second,calls=first++c::second ∧ before=allowedBy (some check) req++first.map .fs := by
  rcases before with _ | ⟨e,before⟩
  · obtain ⟨hh,-⟩ := List.cons.inj h
    exact nomatch hh
  obtain ⟨rfl,hc⟩ := List.cons.inj h
  obtain ⟨first,second,rfl,hf,hs⟩ := List.map_eq_append_iff.mp hc
  obtain ⟨d,second',rfl,hd,-⟩ := List.map_eq_cons_iff.mp hs
  obtain rfl := SftpEvent.fs.inj hd
  exact ⟨first,second',rfl,by rw [← hf]; rfl⟩

lemma OpenedAs.stays {path : Bytes} (ho : OpenedAs history h path)
    (hq : FreshFrom (fun _ => none) history →
      QuietFrom (liveAfter (fun _ => none) history) before) :
    OpenedAs (history++before) h path := by
  obtain ⟨⟨kind,pflags,hm⟩,hl⟩ := ho
  refine ⟨⟨kind,pflags,mem_append_left before hm⟩,?_⟩
  intro hf
  have hp := (freshFrom_append.mp hf).1
  rw [liveAfter_append,(hq hp).liveAfter]
  exact hl hp

lemma openedAs_new (hc : ∀ c∈calls,c.OnNew req h) :
    OpenedAs (history++(allowedBy policy req++
      (.fs (openedCall req.path pflags h kind)::calls.map .fs))) h req.path := by
  refine ⟨⟨kind,pflags,by simp⟩,?_⟩
  intro _
  have hq := calls_onNew_quiet (liveAfter (fun _ => none) history) (kind,req.path) hc
  rw [liveAfter_append,liveAfter_allowed,liveAfter_opened,hq.liveAfter]
  exact ⟨kind,Function.update_self h _ _⟩

lemma split_closing {first second : List FsCall} (hcl : ∀ d∈closing,d.IsClose)
    (hs : calls++closing=first++c::second) (hc : ¬c.IsClose) : c∈calls ∧ ∀ d∈first,d∈calls := by
  rcases List.append_eq_append_iff.mp hs with ⟨rest,-,hr⟩ | ⟨rest,hr,ht⟩
  · have hm : c∈closing := by
      rw [hr]
      simp
    exact absurd (hcl c hm) hc
  rcases rest with _ | ⟨d,rest⟩
  · have hm : c∈closing := by
      rw [← nil_append closing,← ht]
      simp
    exact absurd (hcl c hm) hc
  obtain ⟨rfl,-⟩ := List.cons.inj ht
  rw [hr]
  exact ⟨by simp,fun d hd => mem_append_left _ hd⟩

lemma closingEvents_map (fs : Option (FsApi σ)) (kind : SftpHandleKind) (h : FsHandle) :
    ∃ closing : List FsCall,closingEvents fs kind h=closing.map .fs ∧ ∀ d∈closing,d.IsClose := by
  rcases closing_cases fs kind h with hc | ⟨hc,-⟩
  · refine ⟨[closeCall kind h],hc,?_⟩
    intro d hd
    rw [mem_singleton.mp hd]
    cases kind <;> exact trivial
  · exact ⟨[],hc,by simp⟩

lemma open_authorised (hp : NormalizedPaths req) (hcl : ∀ c∈calls,c.OnNew req h)
    (hcs : ∀ d∈closing,d.IsClose) (hc : ¬c.IsClose)
    (hs : allowedBy (some check) req++(openedCall req.path pflags h kind::(calls++closing)).map .fs=
      before++.fs c::later) :
    .policy req (.ok ())∈before ∧ c.AuthorisedBy (history++before) req := by
  obtain ⟨first,second,hf,rfl⟩ := split_allowed hs
  refine ⟨by simp [allowedBy],?_⟩
  rcases first with _ | ⟨d,first⟩
  · obtain ⟨rfl,-⟩ := List.cons.inj hf
    cases kind <;> exact ⟨hp.path,rfl⟩
  obtain ⟨rfl,hr⟩ := List.cons.inj hf
  obtain ⟨hm,hsb⟩ := split_closing hcs hr hc
  apply (hcl c hm).authorised hp
  exact openedAs_new fun d hd => hcl d (hsb d hd)

lemma Handling.mediated (hh : Handling fs (some check) subject s events answer t)
    (hr : ∀ i e,s.handles i=some e → Recorded history e)
    (ht : FreshFrom (fun _ => none) history → Tracked s (liveAfter (fun _ => none) history))
    (hs : events=before++.fs c::later) (hc : ¬c.IsClose) :
    ∃ req,.policy req (.ok ())∈before ∧ c.AuthorisedBy (history++before) req := by
  cases hh with
  | refused | greeted => exact absurd hs (by simp)
  | denied failed =>
    have hm : SftpEvent.fs c∈before++.fs c::later := by simp
    rw [← hs] at hm
    exact absurd hm (by simp)
  | @onPath req calls _ free paths calls_on plain =>
    obtain ⟨first,second,rfl,rfl⟩ := split_allowed hs
    exact ⟨req,by simp [allowedBy],(calls_on c (by simp)).authorised paths⟩
  | @onHandle req calls _ i entry attrs slot carries path calls_on plain =>
    obtain ⟨first,second,rfl,rfl⟩ := split_allowed hs
    obtain ⟨⟨pflags,ho⟩,hn⟩ := hr i entry slot
    have he : OpenedAs history entry.fsHandle entry.path :=
      ⟨⟨_,pflags,ho⟩,fun hf => ⟨_,(ht hf).entry i entry slot⟩⟩
    have hq : FreshFrom (fun _ => none) history → QuietFrom (liveAfter (fun _ => none) history)
        (allowedBy (some check) req++first.map .fs) := by
      intro hf
      have hl := (ht hf).entry i entry slot
      apply quietFrom_append (allowedBy_quiet req)
      apply calls_quiet
      intro d hd
      apply (onEntry_step (calls_on d (by simp [hd]))).imp_right
      intro hst
      exact ⟨entry.fsHandle,hst,by simp [hl]⟩
    refine ⟨req,by simp [allowedBy],?_⟩
    exact (calls_on c (by simp)).authorised path hn (he.stays hq)
  | @opened req calls _ pflags h kind _ _ _ opens paths calls_on alloc =>
    rw [← append_nil calls] at hs
    exact ⟨req,open_authorised paths calls_on (by simp) hc hs⟩
  | @reclosed req calls pflags h kind _ opens paths calls_on failed =>
    obtain ⟨closing,hcl,hcs⟩ := closingEvents_map fs kind h
    rw [hcl,← map_append] at hs
    exact ⟨req,open_authorised paths calls_on hcs hc hs⟩
  | closed i entry slot carries plain =>
    obtain ⟨closing,hcl,hcs⟩ := closingEvents_map fs entry.kind entry.fsHandle
    have hm : SftpEvent.fs c∈before++.fs c::later := by simp
    rw [← hs,hcl] at hm
    obtain ⟨d,hd,heq⟩ := mem_map.mp hm
    rw [SftpEvent.fs.inj heq] at hd
    exact absurd (hcs c hd) hc

lemma Handling.refusal (hh : Handling fs (some check) subject s events answer t) {e : Err}
    (hm : .policy req (.error e)∈events) : (∀ c,.fs c∉events) ∧ answer.Failed := by
  cases hh with
  | refused | greeted => exact absurd hm (by simp)
  | denied failed => exact ⟨by simp,failed⟩
  | onPath | opened => exact absurd hm (by simp [allowedBy])
  | onHandle i entry attrs slot carries path calls_on plain => exact absurd hm (by simp [allowedBy])
  | @reclosed req calls pflags h kind _ opens paths calls_on failed =>
    obtain ⟨closing,hc,-⟩ := closingEvents_map fs kind h
    rw [hc] at hm
    exact absurd hm (by simp [allowedBy])
  | closed i entry slot carries plain =>
    obtain ⟨closing,hc,-⟩ := closingEvents_map fs entry.kind entry.fsHandle
    rw [hc] at hm
    exact absurd hm (by simp)

/-- Complete mediation, for every packet of every run of a session with a policy: every
callback except close and closedir comes behind an allowed policy request that stands for
it, and after a refusal there is no callback and a failure for an answer. -/
theorem sftp_policy_mediates {check : SftpPolicy σ} {rest : List SftpExchange}
    (hrun : SftpSessionRun fs (some check) world (past++x::rest) t w) :
    (∀ before c later,x.events=before++.fs c::later → ¬c.IsClose →
      ∃ req,.policy req (.ok ())∈before ∧ c.AuthorisedBy (historyEvents past++before) req) ∧
    (∀ req e,.policy req (.error e)∈x.events →
      (∀ c,.fs c∉x.events) ∧
      ∃ id code message,code≠.ok ∧ x.result=encodeStatus x.capacity id code message) := by
  obtain ⟨s,s',v,answer,hp,hh,-,-,hr⟩ := hrun.at_packet
  constructor
  · intro before c later hs hc
    exact hh.mediated (sftpSessionRun_recorded hp)
      (fun hf => (sftpSessionRun_tracked hp hf).2.1) hs hc
  intro req e hm
  obtain ⟨hn,id,code,message,rfl,hcd⟩ := hh.refusal hm
  refine ⟨hn,id,code,message,hcd,?_⟩
  rcases hr with he | ⟨hem,-⟩
  · exact he
  rw [hem] at hm
  exact nomatch hm
end

def openWatched : Except Err Bytes×SftpServing Nat :=
  (sftpServerHandlePacket (some countingFs) (some fun _ => pure ()) openRequest 64).run
    ⟨sftpServerSessionInit,0,[]⟩

theorem sftp_policy_mediates_open :
    SftpSessionRun (some countingFs) (some fun _ => pure ()) 0
      [⟨openRequest,64,openWatched.2.trace,openWatched.1⟩] openWatched.2.session
      openWatched.2.world ∧
    ∃ req,.policy req (.ok ())∈[SftpEvent.policy ⟨.openFile,[97],none,1,0,0,some {}⟩ (.ok ())] ∧
      req.path=[97] := by
  have hr : SftpSessionRun (some countingFs) (some fun _ => pure ()) 0
      ([]++⟨openRequest,64,openWatched.2.trace,openWatched.1⟩::[]) openWatched.2.session
      openWatched.2.world := SftpSessionRun.packet openRequest 64 .start rfl
  obtain ⟨req,hm,-,hp⟩ := (sftp_policy_mediates hr).1
    [.policy ⟨.openFile,[97],none,1,0,0,some {}⟩ (.ok ())] (.openFile [97] 1 (.ok 1)) [] rfl
    (fun h => h)
  exact ⟨hr,req,hm,hp⟩

end EMSSHD
