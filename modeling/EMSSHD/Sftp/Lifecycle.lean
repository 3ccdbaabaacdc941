import EMSSHD.Framework.Lifecycle
import EMSSHD.Sftp.Session

namespace EMSSHD

open HandleStep

/-- What an event means for the handles of the file system. A handle is opened as a file
or as a directory at a path. -/
def eventStep : SftpEvent → HandleStep FsHandle (SftpHandleKind×Bytes) SftpHandleKind
  | .fs (.openFile path _ (.ok handle)) => .opened handle (.file,path)
  | .fs (.opendir path (.ok handle)) => .opened handle (.dir,path)
  | .fs (.close handle) => .closed handle .file
  | .fs (.closedir handle) => .closed handle .dir
  | .fs (.read handle _) => .used handle
  | .fs (.write handle _) => .used handle
  | .fs (.readAt handle _ _) => .used handle
  | .fs (.writeAt handle _ _) => .used handle
  | .fs (.fsetstat handle _) => .used handle
  | .fs (.readdir handle) => .used handle
  | .fs (.fsync handle) => .used handle
  | .fs (.fstatvfs handle) => .used handle
  | _ => .other

abbrev Live := FsHandle → Option (SftpHandleKind×Bytes)

def liveAfter (live : Live) (events : List SftpEvent) : Live :=
  afterAll live (events.map eventStep)

def FreshFrom (live : Live) (events : List SftpEvent) : Prop := Fresh live (events.map eventStep)

def ObeysFrom (live : Live) (events : List SftpEvent) : Prop :=
  Obeys Prod.fst live (events.map eventStep)

/-- Every entry of the table has a handle of its own, open as the entry says. -/
structure Tracked (session : SftpServerSession) (live : Live) : Prop where
  entry : ∀ i e,session.handles i=some e → live e.fsHandle=some (e.kind,e.path)
  unique : ∀ i j e e',session.handles i=some e → session.handles j=some e' →
    e.fsHandle=e'.fsHandle → i=j

def Covered (session : SftpServerSession) (live : Live) : Prop :=
  ∀ h k,live h=some k → ∃ i e,session.handles i=some e ∧ e.fsHandle=h

section
variable {σ : Type} {fs : Option (FsApi σ)} {policy : Option (SftpPolicy σ)} {live : Live}
  {s t : SftpServerSession}

lemma liveAfter_append (live : Live) (first second : List SftpEvent) :
    liveAfter live (first++second)=liveAfter (liveAfter live first) second := by
  unfold liveAfter
  rw [map_append,afterAll_append]

variable {first second : List SftpEvent} {req : SftpPolicyRequest} {c : FsCall}

lemma freshFrom_append : FreshFrom live (first++second) ↔
    FreshFrom live first ∧ FreshFrom (liveAfter live first) second := by
  unfold FreshFrom liveAfter
  rw [map_append,fresh_append]

lemma obeysFrom_append : ObeysFrom live (first++second) ↔
    ObeysFrom live first ∧ ObeysFrom (liveAfter live first) second := by
  unfold ObeysFrom liveAfter
  rw [map_append,obeys_append]

def QuietFrom (live : Live) (events : List SftpEvent) : Prop := OnlyUses live (events.map eventStep)

lemma quietFrom_append (hf : QuietFrom live first) (hsc : QuietFrom live second) :
    QuietFrom live (first++second) := by
  intro step hs
  rw [map_append,mem_append] at hs
  rcases hs with h | h
  · exact hf step h
  · exact hsc step h

lemma allowedBy_quiet (req : SftpPolicyRequest) : QuietFrom live (allowedBy policy req) := by
  unfold allowedBy
  split_ifs
  · intro step hs
    left
    exact mem_singleton.mp hs
  intro step hs
  exact nomatch hs

lemma calls_quiet (live : Live) {calls : List FsCall}
    (hcl : ∀ c∈calls,eventStep (.fs c)=.other ∨ ∃ h,eventStep (.fs c)=.used h ∧ live h≠none) :
    QuietFrom live (calls.map .fs) := by
  intro step hs
  rw [map_map,mem_map] at hs
  obtain ⟨c,hc,rfl⟩ := hs
  exact hcl c hc

lemma onPath_step (h : c.OnPath req) : eventStep (.fs c)=.other := by
  unfold FsCall.OnPath at h
  split at h <;> first | rfl | exact h.elim

lemma onEntry_step {entry : SftpHandleEntry} (h : c.OnEntry req entry) :
    eventStep (.fs c)=.other ∨ eventStep (.fs c)=.used entry.fsHandle := by
  cases c with
  | stat => exact .inl rfl
  | read | readAt | write | writeAt | fsetstat | readdir | fsync | fstatvfs =>
    right
    rw [← h.1]
    rfl
  | _ => exact h.elim

lemma onNew_step {fsHandle : FsHandle} (h : c.OnNew req fsHandle) :
    eventStep (.fs c)=.other ∨ eventStep (.fs c)=.used fsHandle := by
  unfold FsCall.OnNew at h
  split at h
  · exact .inl rfl
  · right
    rw [← h]
    rfl
  · exact h.elim

lemma eventStep_opened (path : Bytes) (pflags : Nat) (h : FsHandle) (kind : SftpHandleKind) :
    eventStep (.fs (openedCall path pflags h kind))=.opened h (kind,path) := by
  cases kind <;> rfl

lemma eventStep_close (kind : SftpHandleKind) (h : FsHandle) :
    eventStep (.fs (closeCall kind h))=.closed h kind := by
  cases kind <;> rfl

section
variable {i : Fin emsshSftpMaxHandles} {entry : SftpHandleEntry} {h : FsHandle}

lemma SftpServerSession.put_handles (session : SftpServerSession) (i j : Fin emsshSftpMaxHandles)
    (entry : Option SftpHandleEntry) :
    (session.put i entry).handles j=if j=i then entry else session.handles j := by
  simp [SftpServerSession.put,Function.update_apply]

variable {attrs : FsAttrs} {j : Fin emsshSftpMaxHandles} {e : SftpHandleEntry} {pflags : Nat}
  {kind : SftpHandleKind} {path wireHandle : Bytes}

lemma put_attrs_some (hs : s.handles i=some entry)
    (he : (s.put i (some {entry with attrs})).handles j=some e) :
    ∃ attrs,s.handles j=some {e with attrs} := by
  rw [SftpServerSession.put_handles] at he
  split_ifs at he with hj
  · subst hj
    rw [← Option.some.inj he]
    exact ⟨entry.attrs,hs⟩
  · exact ⟨e.attrs,he⟩

lemma put_none_some (he : (s.put i none).handles j=some e) : j≠i ∧ s.handles j=some e := by
  rw [SftpServerSession.put_handles] at he
  split_ifs at he with hj
  exact ⟨hj,he⟩

lemma Tracked.setAttrs (ht : Tracked s live) (hs : s.handles i=some entry) :
    Tracked (s.put i (some {entry with attrs})) live := by
  constructor
  · intro j e he
    obtain ⟨_,h₀⟩ := put_attrs_some hs he
    have he := ht.entry j _ h₀
    exact he
  intro j k e e' he he' heq
  obtain ⟨_,h₀⟩ := put_attrs_some hs he
  obtain ⟨_,h₁⟩ := put_attrs_some hs he'
  exact ht.unique j k _ _ h₀ h₁ heq

lemma Tracked.ne_of_dead (ht : Tracked s live) (hd : live h=none)
    (hs : s.handles i=some entry) : entry.fsHandle≠h := by
  rintro rfl
  exact nomatch hd.symm.trans (ht.entry i entry hs)

lemma Tracked.opened {k : SftpHandleKind×Bytes} (ht : Tracked s live) (hd : live h=none) :
    Tracked s (Function.update live h (some k)) := by
  constructor
  · intro j e he
    rw [Function.update_of_ne (ht.ne_of_dead hd he)]
    exact ht.entry j e he
  · exact ht.unique

lemma Tracked.alloc (ht : Tracked s live) (hd : live h=none)
    (ha : allocHandle s h kind pflags path attrs=some (wireHandle,t)) :
    Tracked t (Function.update live h (some (kind,path))) := by
  obtain ⟨i,hf,-,hh,-⟩ := allocHandle_some ha
  constructor
  · intro j e he
    rw [hh,Function.update_apply] at he
    split_ifs at he with hj
    · rw [← Option.some.inj he]
      exact Function.update_self h _ live
    · exact (ht.opened hd).entry j e he
  intro j k e e' he he' heq
  rw [hh,Function.update_apply] at he he'
  split_ifs at he he' with hj hk hk
  · rw [hj,hk]
  · rw [← Option.some.inj he] at heq
    exact absurd heq.symm (ht.ne_of_dead hd he')
  · rw [← Option.some.inj he'] at heq
    exact absurd heq (ht.ne_of_dead hd he)
  · exact ht.unique j k e e' he he' heq

lemma Tracked.free (ht : Tracked s live) : Tracked (s.put i none) live := by
  constructor
  · intro j e he
    exact ht.entry j e (put_none_some he).2
  intro j k e e' he he' heq
  exact ht.unique j k e e' (put_none_some he).2 (put_none_some he').2 heq

lemma Tracked.closed (ht : Tracked s live) (hs : s.handles i=some entry) :
    Tracked (s.put i none) (Function.update live entry.fsHandle none) := by
  constructor
  · intro j e he
    obtain ⟨hj,he⟩ := put_none_some he
    have hne : e.fsHandle≠entry.fsHandle := fun heq => hj (ht.unique j i e entry he hs heq)
    rw [Function.update_of_ne hne]
    exact ht.entry j e he
  · exact ht.free.unique

lemma Covered.setAttrs (hc : Covered s live) (hs : s.handles i=some entry) :
    Covered (s.put i (some {entry with attrs})) live := by
  intro h k hk
  obtain ⟨j,e,he,hfs⟩ := hc h k hk
  by_cases hj : j=i
  · subst hj
    have heq : entry=e := Option.some.inj (hs.symm.trans he)
    subst heq
    refine ⟨j,{entry with attrs},?_,hfs⟩
    rw [SftpServerSession.put_handles,if_pos rfl]
  refine ⟨j,e,?_,hfs⟩
  rw [SftpServerSession.put_handles,if_neg hj,he]

lemma Covered.alloc {k : SftpHandleKind×Bytes} (hc : Covered s live)
    (ha : allocHandle s h kind pflags path attrs=some (wireHandle,t)) :
    Covered t (Function.update live h (some k)) := by
  obtain ⟨i,hf,-,hh,-⟩ := allocHandle_some ha
  intro h' k' hk'
  rw [hh]
  by_cases heq : h'=h
  · subst heq
    exact ⟨i,_,Function.update_self i _ s.handles,rfl⟩
  rw [Function.update_of_ne heq] at hk'
  obtain ⟨j,e,he,hfs⟩ := hc h' k' hk'
  have hj : j≠i := by
    rintro rfl
    exact nomatch hf.symm.trans he
  exact ⟨j,e,(Function.update_of_ne hj _ _).trans he,hfs⟩

lemma Covered.closed (hc : Covered s live) (hs : s.handles i=some entry) :
    Covered (s.put i none) (Function.update live entry.fsHandle none) := by
  intro h k hk
  by_cases heq : h=entry.fsHandle
  · subst heq
    rw [Function.update_self] at hk
    exact nomatch hk
  rw [Function.update_of_ne heq] at hk
  obtain ⟨j,e,he,hfs⟩ := hc h k hk
  have hj : j≠i := by
    rintro rfl
    have hen : entry=e := Option.some.inj (hs.symm.trans he)
    rw [hen] at heq
    exact heq hfs.symm
  refine ⟨j,e,?_,hfs⟩
  rw [SftpServerSession.put_handles,if_neg hj,he]
end

section
variable {req : SftpPolicyRequest} {events rest : List SftpEvent} {path : Bytes} {pflags : Nat}
  {h : FsHandle} {kind : SftpHandleKind}

lemma QuietFrom.liveAfter (hq : QuietFrom live events) : liveAfter live events=live :=
  OnlyUses.afterAll hq

lemma QuietFrom.obeysFrom (hq : QuietFrom live events) : ObeysFrom live events :=
  OnlyUses.obeys hq

lemma liveAfter_allowed : liveAfter live (allowedBy policy req++rest)=liveAfter live rest := by
  rw [liveAfter_append,(allowedBy_quiet req).liveAfter]

lemma obeysFrom_allowed : ObeysFrom live (allowedBy policy req++rest) ↔ ObeysFrom live rest := by
  rw [obeysFrom_append,(allowedBy_quiet req).liveAfter]
  exact and_iff_right (allowedBy_quiet req).obeysFrom

lemma FreshFrom.allowed (hf : FreshFrom live (allowedBy policy req++rest)) :
    FreshFrom live rest := by
  have h := (freshFrom_append.mp hf).2
  rwa [(allowedBy_quiet req).liveAfter] at h

lemma liveAfter_opened : liveAfter live (.fs (openedCall path pflags h kind)::rest)=
    liveAfter (Function.update live h (some (kind,path))) rest := by
  unfold liveAfter
  rw [map_cons,eventStep_opened]
  rfl

lemma obeysFrom_opened (hr : ObeysFrom (Function.update live h (some (kind,path))) rest) :
    ObeysFrom live (.fs (openedCall path pflags h kind)::rest) := by
  unfold ObeysFrom
  rw [map_cons,eventStep_opened]
  exact ⟨trivial,hr⟩

lemma FreshFrom.opened (hf : FreshFrom live (.fs (openedCall path pflags h kind)::rest)) :
    live h=none := by
  unfold FreshFrom at hf
  rw [map_cons,eventStep_opened] at hf
  exact hf.1

lemma liveAfter_close : liveAfter live [.fs (closeCall kind h)]=Function.update live h none := by
  unfold EMSSHD.liveAfter
  rw [List.map_singleton,eventStep_close]
  rfl

lemma obeysFrom_close (hl : live h=some (kind,path)) : ObeysFrom live [.fs (closeCall kind h)] := by
  unfold ObeysFrom
  rw [List.map_singleton,eventStep_close]
  exact ⟨⟨(kind,path),hl,rfl⟩,trivial⟩

lemma closing_cases (fs : Option (FsApi σ)) (kind : SftpHandleKind) (h : FsHandle) :
    closingEvents fs kind h=[.fs (closeCall kind h)] ∨
      closingEvents fs kind h=[] ∧ (fs.bind fun api => api.closeCallback kind).isSome=false := by
  unfold closingEvents
  split_ifs with hc
  · exact .inl rfl
  · exact .inr ⟨rfl,Bool.not_eq_true _ ▸ hc⟩

lemma calls_onNew_quiet (live : Live) (k : SftpHandleKind×Bytes) {calls : List FsCall}
    (hcl : ∀ c∈calls,c.OnNew req h) :
    QuietFrom (Function.update live h (some k)) (calls.map .fs) := by
  apply calls_quiet
  intro c hc
  rcases onNew_step (hcl c hc) with hs | hs
  · exact .inl hs
  · exact .inr ⟨h,hs,by simp⟩
end

/-- An entry behind a packet was there before it, or the packet has opened it and has
changed nothing else in the table. -/
theorem Handling.entry {subject : SftpSubject} {events : List SftpEvent} {answer : SftpAnswer}
    {i : Fin emsshSftpMaxHandles} {e : SftpHandleEntry}
    (hh : Handling fs policy subject s events answer t) (he : t.handles i=some e) :
    (∃ attrs,s.handles i=some {e with attrs}) ∨
    ((∃ id,answer=.handle id e.wireHandle) ∧ subject=.opens e.kind e.pflags ∧
      .fs (openedCall e.path e.pflags e.fsHandle e.kind)∈events ∧ Normalized e.path ∧
      ∀ j,j≠i → t.handles j=s.handles j) := by
  cases hh with
  | refused | greeted | denied | onPath | reclosed => exact .inl ⟨e.attrs,he⟩
  | onHandle j entry attrs slot carries path calls_on plain => exact .inl (put_attrs_some slot he)
  | @opened req calls id pflags h kind attrs wire next opens paths calls_on alloc =>
    obtain ⟨j,-,-,hhn,-⟩ := allocHandle_some alloc
    rw [hhn,Function.update_apply] at he
    split_ifs at he with hj
    · rw [← Option.some.inj he]
      refine .inr ⟨⟨id,rfl⟩,opens,by simp,paths.path,?_⟩
      intro k hk
      rw [hhn,Function.update_of_ne (hj ▸ hk)]
    · exact .inl ⟨e.attrs,he⟩
  | closed j entry slot carries plain => exact .inl ⟨e.attrs,(put_none_some he).2⟩

def ClosesAll (fs : Option (FsApi σ)) : Prop :=
  ∀ kind,(fs.bind fun api => api.closeCallback kind).isSome

/-- One packet: it uses only handles that the table has, it closes them as what they are,
and the table stays in step with the open handles. -/
theorem Handling.tracked {subject : SftpSubject} {events : List SftpEvent} {answer : SftpAnswer}
    (hh : Handling fs policy subject s events answer t) (ht : Tracked s live)
    (hf : FreshFrom live events) :
    ObeysFrom live events ∧ Tracked t (liveAfter live events) ∧
      (ClosesAll fs → Covered s live → Covered t (liveAfter live events)) := by
  cases hh with
  | refused | greeted => exact ⟨trivial,ht,fun _ hc => hc⟩
  | denied failed => exact ⟨⟨trivial,trivial⟩,ht,fun _ hc => hc⟩
  | onPath free paths calls_on plain =>
    have hq := calls_quiet live fun c hc => .inl (onPath_step (calls_on c hc))
    rw [liveAfter_allowed,obeysFrom_allowed,hq.liveAfter]
    exact ⟨hq.obeysFrom,ht,fun _ hc => hc⟩
  | onHandle i entry attrs slot carries path calls_on plain =>
    have hl : live entry.fsHandle≠none := by simp [ht.entry i entry slot]
    have hq := calls_quiet live fun c hc =>
      (onEntry_step (calls_on c hc)).imp_right fun hs => ⟨entry.fsHandle,hs,hl⟩
    rw [liveAfter_allowed,obeysFrom_allowed,hq.liveAfter]
    exact ⟨hq.obeysFrom,ht.setAttrs slot,fun _ hc => hc.setAttrs slot⟩
  | @opened req _ _ _ h kind _ _ _ opens paths calls_on alloc =>
    have hd := hf.allowed.opened
    have hq := calls_onNew_quiet live (kind,req.path) calls_on
    rw [liveAfter_allowed,obeysFrom_allowed,liveAfter_opened,hq.liveAfter]
    exact ⟨obeysFrom_opened hq.obeysFrom,ht.alloc hd alloc,fun _ hc => hc.alloc alloc⟩
  | @reclosed req _ _ h kind _ opens paths calls_on failed =>
    have hd := hf.allowed.opened
    have hq := calls_onNew_quiet live (kind,req.path) calls_on
    have hl : Function.update live h (some (kind,req.path)) h=some (kind,req.path) :=
      Function.update_self h _ live
    have hb : Function.update (Function.update live h (some (kind,req.path))) h none=live := by
      rw [Function.update_idem,← hd,Function.update_eq_self]
    rw [liveAfter_allowed,obeysFrom_allowed,liveAfter_opened,liveAfter_append,hq.liveAfter]
    rcases closing_cases fs kind h with hcl | ⟨hcl,hn⟩
    · rw [hcl,liveAfter_close,hb]
      refine ⟨obeysFrom_opened (obeysFrom_append.mpr ⟨hq.obeysFrom,?_⟩),ht,fun _ hc => hc⟩
      rw [hq.liveAfter]
      exact obeysFrom_close hl
    rw [hcl,append_nil]
    refine ⟨obeysFrom_opened hq.obeysFrom,ht.opened hd,fun ha => ?_⟩
    exact nomatch hn.symm.trans (ha kind)
  | closed i entry slot carries plain =>
    rcases closing_cases fs entry.kind entry.fsHandle with hcl | ⟨hcl,hn⟩
    · rw [hcl,liveAfter_close]
      exact ⟨obeysFrom_close (ht.entry i entry slot),ht.closed slot,fun _ hc => hc.closed slot⟩
    rw [hcl]
    refine ⟨trivial,ht.free,fun ha => ?_⟩
    exact nomatch hn.symm.trans (ha entry.kind)

lemma sftpSessionRun_tracked {world w : σ} {past : List SftpExchange}
    (hr : SftpSessionRun fs policy world past s w)
    (hf : FreshFrom (fun _ => none) (historyEvents past)) :
    ObeysFrom (fun _ => none) (historyEvents past) ∧
      Tracked s (liveAfter (fun _ => none) (historyEvents past)) ∧
      (ClosesAll fs → Covered s (liveAfter (fun _ => none) (historyEvents past))) := by
  revert hf
  apply hr.invariant
  · intro _
    refine ⟨trivial,⟨?_,?_⟩,?_⟩
    · intro i e he
      exact nomatch he
    · intro i j e e' he
      exact nomatch he
    intro _ h k hk
    exact nomatch hk
  intro past x s t answer ih hh _ hf
  rw [historyEvents_snoc] at hf ⊢
  obtain ⟨hp,hl⟩ := freshFrom_append.mp hf
  obtain ⟨hob,htr,hcv⟩ := ih hp
  obtain ⟨ho,ht,hc⟩ := hh.tracked htr hl
  rw [liveAfter_append]
  exact ⟨obeysFrom_append.mpr ⟨hob,ho⟩,ht,fun ha => hc ha (hcv ha)⟩

/-- What sftp_server_session_deinit has done after some of the slots. -/
structure Emptied (live : Live) (slots : List (Fin emsshSftpMaxHandles)) (s t : SftpServing σ) :
    Prop where
  trace : ∃ events,t.trace=s.trace++events ∧ ObeysFrom live events ∧
    Tracked t.session (liveAfter live events) ∧ Covered t.session (liveAfter live events)
  free : ∀ i∈slots,t.session.handles i=none
  kept : ∀ i,s.session.handles i=none → t.session.handles i=none

lemma closeEntry_emptied {s : SftpServing σ} (ha : ClosesAll fs) (i : Fin emsshSftpMaxHandles)
    (ht : Tracked s.session live) (hc : Covered s.session live) :
    (closeEntry fs i).Ensures s (fun _ t => Emptied live [i] s t) := by
  rcases hs : s.session.handles i with _ | entry
  · apply Call.bindGet
    rw [hs]
    exact ⟨⟨[],(append_nil _).symm,trivial,ht,hc⟩,by simpa using hs,fun _ h => h⟩
  apply closeEntry_ensures hs
  intro _ w
  rcases closing_cases fs entry.kind entry.fsHandle with hcl | ⟨-,hn⟩
  · rw [hcl]
    refine ⟨⟨_,rfl,obeysFrom_close (ht.entry i entry hs),?_,?_⟩,?_,?_⟩
    · rw [liveAfter_close]
      exact ht.closed hs
    · rw [liveAfter_close]
      exact hc.closed hs
    · intro j hj
      rw [mem_singleton.mp hj,SftpServerSession.put_handles,if_pos rfl]
    intro j hj
    rw [SftpServerSession.put_handles,hj,ite_self]
  · exact nomatch hn.symm.trans (ha entry.kind)

lemma closeEntries_emptied (ha : ClosesAll fs) (slots : List (Fin emsshSftpMaxHandles))
    {s : SftpServing σ} (ht : Tracked s.session live) (hc : Covered s.session live) :
    (closeEntries fs slots).Ensures s (fun _ t => Emptied live slots s t) := by
  induction slots generalizing s live with
  | nil => exact ⟨⟨[],(append_nil _).symm,trivial,ht,hc⟩,by simp,fun _ h => h⟩
  | cons i rest ih =>
    apply Call.bindIgnore
    apply (closeEntry_emptied ha i ht hc).mono
    intro _ t ho
    obtain ⟨events,hte,hoy,htc,hcr⟩ := ho.trace
    apply (ih htc hcr).mono
    intro _ u hr
    obtain ⟨later,hta,hob,htr,hcv⟩ := hr.trace
    refine ⟨⟨events++later,?_,obeysFrom_append.mpr ⟨hoy,hob⟩,?_,?_⟩,?_,?_⟩
    · rw [hta,hte,append_assoc]
    · rw [liveAfter_append]
      exact htr
    · rw [liveAfter_append]
      exact hcv
    · intro j hj
      rcases mem_cons.mp hj with rfl | hj
      · exact hr.kept j (ho.free j (mem_singleton_self j))
      · exact hr.free j hj
    intro j hj
    exact hr.kept j (ho.kept j hj)

/-- The close of the handle that fits its kind comes once, the other one never, and
nothing is done with the handle behind it. -/
def HandleClosedOnce (h : FsHandle) (kind : SftpHandleKind) (later : List SftpEvent) : Prop :=
  ClosedOnce h kind (later.map eventStep)

/-- Every handle that the file system gives out in a session is closed exactly once by the
end of the session, as what it was opened as, and is not used behind that. -/
theorem sftp_handles_closed_once {world w : σ} {past : List SftpExchange}
    {result : Except Err Unit} {ended : SftpServing σ} (hclose : ClosesAll fs)
    (hrun : SftpSessionRun fs policy world past s w)
    (hdeinit : (sftpServerSessionDeinit fs).run ⟨s,w,[]⟩=(result,ended))
    (hfresh : FreshFrom (fun _ => none) (historyEvents past++ended.trace)) :
    (∀ before later path pflags h,historyEvents past++ended.trace=
      before++.fs (.openFile path pflags (.ok h))::later → HandleClosedOnce h .file later) ∧
    (∀ before later path h,historyEvents past++ended.trace=
      before++.fs (.opendir path (.ok h))::later → HandleClosedOnce h .dir later) ∧
    ObeysFrom (fun _ => none) (historyEvents past++ended.trace) := by
  obtain ⟨hoy,ht,hcv⟩ := sftpSessionRun_tracked hrun (freshFrom_append.mp hfresh).1
  have hem : (sftpServerSessionDeinit fs).Ensures ⟨s,w,[]⟩ (fun _ t =>
      ∃ u : SftpServing σ,Emptied (liveAfter (fun _ => none) (historyEvents past))
        (List.finRange emsshSftpMaxHandles) ⟨s,w,[]⟩ u ∧ t.trace=u.trace) := by
    apply Call.Ensures.bind (closeEntries_emptied hclose _ ht (hcv hclose))
    · intro _ u hu
      exact ⟨u,hu,rfl⟩
    intro _ u hu
    exact ⟨u,hu,rfl⟩
  obtain ⟨u,hu,htr⟩ := hem.of_eq hdeinit
  obtain ⟨events,hev,hob,-,hc⟩ := hu.trace
  have hen : ended.trace=events := htr.trans hev
  rw [hen] at hfresh ⊢
  have ha : ObeysFrom (fun _ => none) (historyEvents past++events) := obeysFrom_append.mpr ⟨hoy,hob⟩
  have hed : ∀ h,liveAfter (fun _ => none) (historyEvents past++events) h=none := by
    intro h
    rw [liveAfter_append]
    by_contra hl
    obtain ⟨k,hk⟩ := Option.ne_none_iff_exists'.mp hl
    obtain ⟨i,e,he,-⟩ := hc h k hk
    exact nomatch (hu.free i (List.mem_finRange i)).symm.trans he
  have ho : ∀ before later e h k,historyEvents past++events=before++e::later →
      eventStep e=.opened h k → ClosedOnce h k.1 (later.map eventStep) := by
    intro before later e h k hs he
    have hst : (historyEvents past++events).map eventStep=
        before.map eventStep++.opened h k::later.map eventStep := by
      rw [hs,map_append,map_cons,he]
    exact HandleStep.closedOnce hfresh ha (hed h) hst
  refine ⟨?_,?_,ha⟩
  · intro before later path pflags h hs
    exact ho before later _ h (.file,path) hs rfl
  intro before later path h hs
  exact ho before later _ h (.dir,path) hs rfl
end

def countingFs : FsApi Nat where
  openFile := some fun _ _ => ⟨fun n => (.ok (n+1),n+1)⟩
  close := some fun _ => pure ()
  opendir := some fun _ => ⟨fun n => (.ok (n+1),n+1)⟩
  closedir := some fun _ => pure ()

def openRequest : Bytes := [0,0,0,18,3,0,0,0,7,0,0,0,1,97,0,0,0,1,0,0,0,0]

def openServed : Except Err Bytes×SftpServing Nat :=
  (sftpServerHandlePacket (some countingFs) none openRequest 64).run ⟨sftpServerSessionInit,0,[]⟩

def openDeinit : Except Err Unit×SftpServing Nat :=
  (sftpServerSessionDeinit (some countingFs)).run ⟨openServed.2.session,openServed.2.world,[]⟩

lemma openServed_trace : openServed.2.trace=[.fs (.openFile [97] 1 (.ok 1))] := rfl
lemma openDeinit_trace : openDeinit.2.trace=[.fs (.close 1)] := rfl

theorem sftp_handles_closed_once_open :
    SftpSessionRun (some countingFs) none 0 [⟨openRequest,64,openServed.2.trace,openServed.1⟩]
      openServed.2.session openServed.2.world ∧
    HandleClosedOnce 1 .file [.fs (.close 1)] := by
  have hr : SftpSessionRun (some countingFs) none 0
      [⟨openRequest,64,openServed.2.trace,openServed.1⟩] openServed.2.session openServed.2.world :=
    SftpSessionRun.packet openRequest 64 .start rfl
  have he : historyEvents [⟨openRequest,64,openServed.2.trace,openServed.1⟩]++
      openDeinit.2.trace=[.fs (.openFile [97] 1 (.ok 1)),.fs (.close 1)] := by
    rw [historyEvents,List.flatMap_singleton,openServed_trace,openDeinit_trace]
    rfl
  have hc : ClosesAll (some countingFs) := by
    intro kind
    cases kind <;> rfl
  have hf : FreshFrom (fun _ => none) (historyEvents
      [⟨openRequest,64,openServed.2.trace,openServed.1⟩]++openDeinit.2.trace) := by
    rw [he]
    exact ⟨rfl,trivial,trivial⟩
  have h := sftp_handles_closed_once hc hr (rfl : _=(openDeinit.1,openDeinit.2)) hf
  exact ⟨hr,h.1 [] [.fs (.close 1)] [97] 1 1 he⟩

end EMSSHD
