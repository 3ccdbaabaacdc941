import EMSSHD.Sftp.Lifecycle
import EMSSHD.Sftp.Response

namespace EMSSHD

structure SftpGrant where
  kind : SftpHandleKind
  pflags : Nat
  path : Bytes
  fsHandle : FsHandle
  deriving DecidableEq

def SftpHandleEntry.grant (entry : SftpHandleEntry) : SftpGrant :=
  ⟨entry.kind,entry.pflags,entry.path,entry.fsHandle⟩

namespace FsCall

def Within (grant : SftpGrant) : FsCall → Prop
  | stat path => path=grant.path
  | read handle _ => handle=grant.fsHandle ∧ grant.kind=.file ∧ grant.pflags &&& sshFxfRead≠0
  | readAt handle _ _ => handle=grant.fsHandle ∧ grant.kind=.file ∧ grant.pflags &&& sshFxfRead≠0
  | write handle _ => handle=grant.fsHandle ∧ grant.kind=.file ∧ grant.pflags &&& sshFxfWrite≠0
  | writeAt handle _ _ => handle=grant.fsHandle ∧ grant.kind=.file ∧ grant.pflags &&& sshFxfWrite≠0
  | fsetstat handle _ => handle=grant.fsHandle ∧ grant.kind=.file ∧ grant.pflags &&& sshFxfWrite≠0
  | readdir handle => handle=grant.fsHandle ∧ grant.kind=.dir
  | fsync handle => handle=grant.fsHandle ∧ grant.kind=.file
  | fstatvfs handle => handle=grant.fsHandle ∧ grant.kind=.file
  | close handle => handle=grant.fsHandle ∧ grant.kind=.file
  | closedir handle => handle=grant.fsHandle ∧ grant.kind=.dir
  | _ => False

lemma OnEntry.within {req : SftpPolicyRequest} {entry : SftpHandleEntry} {c : FsCall}
    (h : c.OnEntry req entry) : c.Within entry.grant := by
  cases c with
  | read | readAt | write | writeAt => exact ⟨h.1,h.2.1,h.2.2.1⟩
  | stat | fsetstat | readdir | fsync | fstatvfs => exact h
  | _ => exact h.elim
end FsCall

def responseHandle (response : Bytes) : Option Bytes :=
  if (response.drop 4).head?=some sshFxpHandle then some (response.drop 13) else none

def isClose (request : Bytes) : Bool :=
  match sftpPacketWrap request with
  | .ok packet => packet.type=sshFxpClose
  | .error _ => false

namespace SftpExchange

def returned (x : SftpExchange) : Option Bytes :=
  match x.result with
  | .ok response => responseHandle response
  | .error _ => none

def Closes (x : SftpExchange) (wireHandle : Bytes) : Prop :=
  isClose x.request=true ∧ carriedHandle x.request=some wireHandle

/-- The exchange had room for a HANDLE, or its response was sent. The caller has room for a
whole packet, and it ends the session when it has no response to send. -/
def HasRoom (x : SftpExchange) : Prop := 17 ≤ x.capacity ∨ ∃ response,x.result=.ok response
end SftpExchange

def handlesReturned (past : List SftpExchange) : Nat := past.countP fun x => x.returned.isSome

/-- The client has got the handle from the one exchange that opened it, and has not closed
it since. -/
structure Issued (past : List SftpExchange) (wireHandle : Bytes) (grant : SftpGrant) : Prop where
  exchange : ∃ earlier x later,past=earlier++x::later ∧ x.returned=some wireHandle ∧
    requestSubject x.request=.opens grant.kind grant.pflags ∧
    .fs (openedCall grant.path grant.pflags grant.fsHandle grant.kind)∈x.events ∧
    (∀ y∈later,¬y.Closes wireHandle) ∧ ∀ y∈earlier++later,y.returned≠some wireHandle

section
variable {past : List SftpExchange} {x : SftpExchange} {wireHandle : Bytes} {grant : SftpGrant}

lemma handlesReturned_snoc (past : List SftpExchange) (x : SftpExchange) :
    handlesReturned (past++[x])=handlesReturned past+if x.returned.isSome then 1 else 0 := by
  simp [handlesReturned,countP_append,List.countP_singleton]

lemma Issued.snoc (h : Issued past wireHandle grant) (hc : ¬x.Closes wireHandle)
    (hr : x.returned≠some wireHandle) : Issued (past++[x]) wireHandle grant := by
  obtain ⟨earlier,y,later,rfl,hy,ho,he,hl,hot⟩ := h.exchange
  refine ⟨earlier,y,later++[x],by simp,hy,ho,he,?_,?_⟩
  · intro z hz
    rcases mem_append.mp hz with hz | hz
    · exact hl z hz
    rw [mem_singleton.mp hz]
    exact hc
  intro z hz
  rw [← append_assoc] at hz
  rcases mem_append.mp hz with hz | hz
  · exact hot z hz
  rw [mem_singleton.mp hz]
  exact hr

lemma Issued.mem (h : Issued past wireHandle grant) : ∃ x∈past,x.returned=some wireHandle := by
  obtain ⟨earlier,x,later,rfl,hx,-⟩ := h.exchange
  exact ⟨x,by simp,hx⟩
end

section
variable {σ : Type} {fs : Option (FsApi σ)} {x : SftpExchange} {answer : SftpAnswer}

lemma responseHandle_plain (hp : answer.Plain) (head : Bytes) (hh : head.length=4) :
    responseHandle (head++answer.body)=none := by
  unfold responseHandle
  rw [drop_left' hh]
  apply if_neg
  cases answer with
  | handle id wireHandle => exact absurd rfl (hp id wireHandle)
  | _ =>
    simp only [SftpAnswer.body,singleton_append,head?_cons,Option.some.injEq]
    decide

lemma responseHandle_handle (id : Nat) (wireHandle head : Bytes) (hh : head.length=4) :
    responseHandle (head++(SftpAnswer.handle id wireHandle).body)=some wireHandle := by
  have hl : (head++([sshFxpHandle]++(beBytes 4 id++beBytes 4 wireHandle.length))).length=13 := by
    simp [hh]
  have hs : head++(SftpAnswer.handle id wireHandle).body=
      head++([sshFxpHandle]++(beBytes 4 id++beBytes 4 wireHandle.length))++wireHandle := by
    simp [SftpAnswer.body,stringWire]
  have hd : (head++(SftpAnswer.handle id wireHandle).body).drop 13=wireHandle := by
    rw [hs,drop_left' hl]
  unfold responseHandle
  rw [hd,drop_left' hh]
  rfl

lemma SftpExchange.returned_plain (ha : x.Answers fs answer) (hp : answer.Plain) :
    x.returned=none := by
  obtain ⟨hs,-,hr⟩ := ha
  unfold SftpExchange.returned
  rcases hx : x.result with e | response
  · rfl
  rw [hx] at hr
  rcases hr with he | ⟨-,-,her⟩
  · rw [SftpAnswer.encode_eq hs he.symm]
    exact responseHandle_plain hp _ (beBytes_length 4 _)
  · exact nomatch her

lemma SftpExchange.returned_handle {id : Nat} {wireHandle : Bytes}
    (ha : x.Answers fs (.handle id wireHandle)) (hrm : x.HasRoom) : x.returned=some wireHandle := by
  obtain ⟨hs,-,hr⟩ := ha
  have hb : (SftpAnswer.handle id wireHandle).body.length=13 := by
    have hw : wireHandle.length=4 := hs
    simp [SftpAnswer.body,stringWire,hw]
  have hok : x.result=.ok (beBytes 4 13++(SftpAnswer.handle id wireHandle).body) := by
    rcases hrm with hrm | ⟨response,hrs⟩
    · have he := SftpAnswer.encode_ok hs (by omega) (by rw [hb]; decide)
      rw [hb] at he
      rcases hr with hr | ⟨-,hsm,-⟩
      · exact hr.trans he
      unfold sftpDataResponseOverhead at hsm
      omega
    rcases hr with hr | ⟨-,-,her⟩
    · have he := SftpAnswer.encode_eq hs (hr.symm.trans hrs)
      rw [hb] at he
      rw [hrs,he]
    · cases her.symm.trans hrs
  unfold SftpExchange.returned
  rw [hok]
  exact responseHandle_handle id wireHandle _ (beBytes_length 4 _)
end

def SftpServerSession.without (session : SftpServerSession) (handle : StringView) :
    SftpServerSession :=
  match findHandle session handle with
  | some (i,_) => session.put i none
  | none => session

section
variable {σ : Type} {fs : Option (FsApi σ)} {policy : Option (SftpPolicy σ)} {request : Bytes}
  {cap : Nat} {s : SftpServing σ}

lemma handleClose_without :
    (handleClose fs request cap).Ensures s fun _ t =>
      ∀ wireHandle,decodedHandle SftpHandleRequest.handle (sftpCloseRequestDecode request)=
        .handle wireHandle → t.session=s.session.without (some wireHandle) := by
  unfold handleClose
  rcases sftpCloseRequestDecode request with _ | r
  · intro wireHandle hh
    exact nomatch hh
  obtain ⟨id,view⟩ := r
  apply Call.bindGet
  unfold SftpServerSession.without
  cases hf : findHandle s.session view with
  | none =>
    intro wireHandle hh
    rcases view with _ | bytes
    · exact nomatch hh
    obtain rfl := SftpSubject.handle.inj hh
    rw [hf]
    rfl
  | some found =>
    obtain ⟨i,entry⟩ := found
    obtain ⟨hs,rfl⟩ := findHandle_some hf
    apply Call.bindStatus
    apply closeEntry_ensures hs
    intro outcome w wireHandle hh
    obtain rfl := SftpSubject.handle.inj hh
    rw [hf]
    rfl

lemma handlePacket_close (hc : isClose request=true) :
    (sftpServerHandlePacket fs policy request cap).Ensures s fun _ t =>
      ∀ wireHandle,requestSubject request=.handle wireHandle →
        t.session=s.session.without (some wireHandle) := by
  unfold isClose at hc
  unfold sftpServerHandlePacket requestSubject
  rcases hw : sftpPacketWrap request with _ | packet
  · rw [hw] at hc
    exact nomatch hc
  rw [hw] at hc
  have ht : packet.type=sshFxpClose := of_decide_eq_true hc
  simp only
  unfold decodedKey
  rw [ht]
  exact handleClose_without
end

section
variable {σ : Type} {fs : Option (FsApi σ)} {policy : Option (SftpPolicy σ)} {world w : σ}
  {past : List SftpExchange} {x : SftpExchange} {s t : SftpServerSession}
  {subject : SftpSubject} {events : List SftpEvent} {answer : SftpAnswer}
  {i : Fin emsshSftpMaxHandles} {e : SftpHandleEntry}

lemma Handling.next (hh : Handling fs policy subject s events answer t) :
    (answer.Plain ∧ t.nextHandleId=s.nextHandleId) ∨
    ((∃ id,answer=.handle id (beBytes 4 s.nextHandleId)) ∧
      t.nextHandleId=if (s.nextHandleId+1)%2^32=0 then 1 else (s.nextHandleId+1)%2^32) := by
  cases hh with
  | refused failed => exact .inl ⟨failed.plain,rfl⟩
  | greeted free => exact .inl ⟨by simp [SftpAnswer.Plain],rfl⟩
  | denied failed => exact .inl ⟨failed.plain,rfl⟩
  | onPath free paths calls_on plain => exact .inl ⟨plain,rfl⟩
  | onHandle j entry attrs slot carries path calls_on plain => exact .inl ⟨plain,rfl⟩
  | @opened req calls id pflags h kind attrs wire next opens paths calls_on alloc =>
    obtain ⟨j,-,hw,-,hn⟩ := allocHandle_some alloc
    exact .inr ⟨⟨id,by rw [hw]⟩,hn⟩
  | reclosed opens paths calls_on failed => exact .inl ⟨failed.plain,rfl⟩
  | closed j entry slot carries plain => exact .inl ⟨plain,rfl⟩

/-- What the table knows about the past of the session. -/
structure Owned (past : List SftpExchange) (s : SftpServerSession) : Prop where
  next : s.nextHandleId=handlesReturned past+1
  named : ∀ y∈past,∀ wire,y.returned=some wire → ∃ n,n ≤ handlesReturned past ∧ wire=beBytes 4 n
  issued : ∀ i e,s.handles i=some e → Issued past e.wireHandle e.grant
  unique : ∀ i j e e',s.handles i=some e → s.handles j=some e' →
    e.wireHandle=e'.wireHandle → i=j

lemma owned_init : Owned [] sftpServerSessionInit := by
  refine ⟨rfl,by simp,?_,?_⟩
  · intro i e he
    exact nomatch he
  intro i j e e' he
  exact nomatch he

lemma beBytes_ne {m n : Nat} (hm : m<n) (hn : n<256^4) : beBytes 4 m≠beBytes 4 n := by
  intro h
  have hv := congrArg beValue h
  rw [beValue_beBytes_of_lt 4 m (hm.trans hn),beValue_beBytes_of_lt 4 n hn] at hv
  omega

lemma Owned.fresh (h : Owned past s) (hf : handlesReturned past+1<2^32-1) :
    ∀ y∈past,y.returned≠some (beBytes 4 s.nextHandleId) := by
  intro y hy hr
  obtain ⟨n,hn,hw⟩ := h.named y hy _ hr
  rw [h.next] at hw
  exact beBytes_ne (by omega : n<handlesReturned past+1) (by omega) hw.symm

variable {wire : Bytes}

lemma Owned.without (h : Owned past s) (he : (s.without (some wire)).handles i=some e) :
    e.wireHandle≠wire := by
  unfold SftpServerSession.without at he
  rcases hf : findHandle s (some wire) with _ | found
  · rw [hf] at he
    intro hw
    exact findHandle_none hf he (congrArg some hw.symm)
  obtain ⟨j,entry⟩ := found
  rw [hf] at he
  obtain ⟨hs,hh⟩ := findHandle_some hf
  obtain ⟨hj,hi⟩ := put_none_some he
  intro hw
  apply hj
  exact h.unique i j e entry hi hs (hw.trans (Option.some.inj hh))

lemma carriedHandle_some {request : Bytes} (h : carriedHandle request=some wire) :
    requestSubject request=.handle wire := by
  unfold carriedHandle at h
  cases hs : requestSubject request with
  | paths | opens =>
    rw [hs] at h
    exact nomatch h
  | handle wireHandle =>
    rw [hs] at h
    rw [Option.some.inj h]

lemma Owned.step (ih : Owned past s)
    (hh : Handling fs policy (requestSubject x.request) s x.events answer t)
    (ha : x.Answers fs answer)
    (hcl : isClose x.request=true → ∀ wire,requestSubject x.request=.handle wire →
      t=s.without (some wire))
    (hrm : x.HasRoom) (hf : handlesReturned (past++[x])<2^32-1) : Owned (past++[x]) t := by
  have hop : ∀ i e,t.handles i=some e → ¬x.Closes e.wireHandle := by
    intro i e he hc
    rw [hcl hc.1 _ (carriedHandle_some hc.2)] at he
    exact ih.without he rfl
  obtain ⟨hnx,hrt,hnw⟩ : t.nextHandleId=handlesReturned (past++[x])+1 ∧
      (∀ wire,x.returned=some wire → wire=beBytes 4 s.nextHandleId) ∧
      ∀ id wire,answer=.handle id wire → x.returned=some wire := by
    rw [handlesReturned_snoc] at hf ⊢
    rcases hh.next with ⟨hp,hn⟩ | ⟨⟨id,rfl⟩,hn⟩
    · rw [SftpExchange.returned_plain ha hp]
      exact ⟨hn.trans ih.next,nofun,fun id wire h => absurd h (hp id wire)⟩
    · rw [SftpExchange.returned_handle ha hrm] at hf ⊢
      have hl : handlesReturned past+1<2^32-1 := hf
      refine ⟨?_,fun wire hw => (Option.some.inj hw).symm,fun id wire h => ?_⟩
      · rw [hn,ih.next,if_neg (by omega),Nat.mod_eq_of_lt (by omega)]
        rfl
      · rw [(SftpAnswer.handle.inj h).2]
  -- The name that the packet returns is not one of the past.
  have hfr {wire : Bytes} (hr : x.returned=some wire) :
      (∀ y∈past,y.returned≠some wire) ∧ handlesReturned (past++[x])=handlesReturned past+1 := by
    have hc : handlesReturned (past++[x])=handlesReturned past+1 := by
      rw [handlesReturned_snoc,hr]
      rfl
    rw [hrt wire hr]
    exact ⟨ih.fresh (hc ▸ hf),hc⟩
  have hold (i : Fin emsshSftpMaxHandles) (e : SftpHandleEntry) (he : s.handles i=some e) :
      x.returned≠some e.wireHandle := by
    intro hr
    obtain ⟨y,hy,hw⟩ := (ih.issued i e he).mem
    exact (hfr hr).1 y hy hw
  constructor
  · exact hnx
  · intro y hy wire hw
    rcases mem_append.mp hy with hy | hy
    · obtain ⟨n,hn,hnm⟩ := ih.named y hy wire hw
      exact ⟨n,by rw [handlesReturned_snoc]; omega,hnm⟩
    rw [mem_singleton.mp hy] at hw
    exact ⟨_,(hfr hw).2.ge,by rw [hrt wire hw,ih.next]⟩
  · intro i e he
    rcases hh.entry he with ⟨_,h₀⟩ | ⟨⟨id,ha⟩,ho,hev,-,-⟩
    · exact (ih.issued i _ h₀).snoc (hop i e he) (hold i _ h₀)
    have hr := hnw id _ ha
    refine ⟨past,x,[],rfl,hr,ho,hev,by simp,?_⟩
    rw [append_nil]
    exact (hfr hr).1
  intro i j e e' he he' hs
  rcases hh.entry he with ⟨_,h₀⟩ | ⟨⟨id,ha⟩,-,-,-,hrs⟩
  · rcases hh.entry he' with ⟨_,h₁⟩ | ⟨⟨id,ha⟩,-,-,-,hrs⟩
    · exact ih.unique i j _ _ h₀ h₁ hs
    by_contra hij
    rw [hrs i hij] at he
    exact hold i e he (hs ▸ hnw id _ ha)
  by_contra hij
  rw [hrs j (Ne.symm hij)] at he'
  exact hold j e' he' (hs ▸ hnw id _ ha)

lemma sftpSessionRun_owned (hrn : SftpSessionRun fs policy world past s w)
    (hr : ∀ y∈past,y.HasRoom) (hf : handlesReturned past<2^32-1) : Owned past s := by
  induction hrn with
  | start => exact owned_init
  | @packet past s w result t request capacity run step ih =>
    have hp := ih (fun y hy => hr y (mem_append_left _ hy))
      (by rw [handlesReturned_snoc] at hf; omega)
    obtain ⟨events,answer,ht,hh,ha⟩ := handlePacket_served.of_eq step
    have ht : t.trace=events := ht
    subst ht
    refine hp.step hh ha ?_ (hr _ (by simp)) hf
    intro hc wire hw
    exact (handlePacket_close hc).of_eq step wire hw

/-- A request with a handle is one for an entry of the table, or it fails without a callback. -/
lemma Handling.within (hh : Handling fs policy (.handle wire) s events answer t) :
    (∃ i e,s.handles i=some e ∧ e.wireHandle=wire ∧ ∀ c,.fs c∈events → c.Within e.grant) ∨
      (∀ c,.fs c∉events) ∧ answer.Failed := by
  generalize hs : SftpSubject.handle wire=subject at hh
  cases hh with
  | refused failed => exact .inr ⟨by simp,failed⟩
  | greeted free => exact nomatch hs.trans free
  | denied failed => exact .inr ⟨by simp,failed⟩
  | onPath free paths calls_on plain => exact absurd hs.symm (free wire)
  | onHandle i entry attrs slot carries path calls_on plain =>
    have hw := SftpSubject.handle.inj (hs.trans carries)
    refine .inl ⟨i,entry,slot,hw.symm,fun c hc => ?_⟩
    rcases mem_append.mp hc with hc | hc
    · unfold allowedBy at hc
      split_ifs at hc
      · exact absurd hc (by simp)
      · exact nomatch hc
    obtain ⟨d,hd,heq⟩ := mem_map.mp hc
    rw [SftpEvent.fs.inj heq] at hd
    exact (calls_on c hd).within
  | opened opens paths calls_on alloc => exact nomatch hs.trans opens
  | reclosed opens paths calls_on failed => exact nomatch hs.trans opens
  | closed i entry slot carries plain =>
    have hw := SftpSubject.handle.inj (hs.trans carries)
    refine .inl ⟨i,entry,slot,hw.symm,fun c hc => ?_⟩
    rcases closing_cases fs entry.kind entry.fsHandle with hcl | ⟨hcl,-⟩
    · rw [hcl] at hc
      rw [SftpEvent.fs.inj (mem_singleton.mp hc)]
      cases hk : entry.kind <;> exact ⟨rfl,hk⟩
    rw [hcl] at hc
    exact nomatch hc

/-- Handles denote what they were issued for, at every packet of every run with fewer than
2^32-1 handles: a callback for a request with a handle is within what the exchange that
returned this handle has opened, and the handle has not been closed since. Any other handle is
answered with a failure and leads to no callback. -/
theorem sftp_handle_denotes {rest : List SftpExchange} {wireHandle : Bytes}
    (hrun : SftpSessionRun fs policy world (past++x::rest) t w)
    (hroom : ∀ y∈past++[x],y.HasRoom) (hfew : handlesReturned past<2^32-1)
    (hcarried : carriedHandle x.request=some wireHandle) :
    (∀ c,.fs c∈x.events → ∃ grant,Issued past wireHandle grant ∧ c.Within grant) ∧
    ((∀ grant,¬Issued past wireHandle grant) → (∀ c,.fs c∉x.events) ∧
      ∃ id code message,code≠.ok ∧ x.result=encodeStatus x.capacity id code message) := by
  obtain ⟨s,s',v,answer,hp,hh,-,-,hrs⟩ := hrun.at_packet
  have ho := sftpSessionRun_owned hp (fun y hy => hroom y (mem_append_left _ hy)) hfew
  rw [carriedHandle_some hcarried] at hh
  rcases hh.within with ⟨i,e,he,rfl,hwt⟩ | ⟨hev,id,code,message,rfl,hcd⟩
  · have hi := ho.issued i e he
    exact ⟨fun c hc => ⟨e.grant,hi,hwt c hc⟩,fun hn => absurd hi (hn e.grant)⟩
  refine ⟨fun c hc => absurd hc (hev c),fun _ => ⟨hev,id,code,message,hcd,?_⟩⟩
  rcases hrs with hen | ⟨-,hs,her⟩
  · exact hen
  unfold sftpDataResponseOverhead at hs
  rcases hroom x (by simp) with hroom | ⟨response,hr⟩
  · omega
  · exact nomatch her.symm.trans hr
end

def emptyFileFs : FsApi Unit where
  openFile := some fun _ _ => pure 1
  read := some fun _ len => pure ⟨0,List.replicate len 0,List.length_replicate⟩

def emptyFileOpened : Except Err Bytes×SftpServing Unit :=
  (sftpServerHandlePacket (some emptyFileFs) none openRequest 64).run ⟨sftpServerSessionInit,(),[]⟩

def readRequest : Bytes :=
  [0,0,0,25,5,0,0,0,8,0,0,0,4,0,0,0,1,0,0,0,0,0,0,0,0,0,0,0,4]

def emptyFileRead : Except Err Bytes×SftpServing Unit :=
  (sftpServerHandlePacket (some emptyFileFs) none readRequest 64).run
    ⟨emptyFileOpened.2.session,(),[]⟩

def openExchange : SftpExchange := ⟨openRequest,64,emptyFileOpened.2.trace,emptyFileOpened.1⟩
def readExchange : SftpExchange := ⟨readRequest,64,emptyFileRead.2.trace,emptyFileRead.1⟩

theorem sftp_handle_denotes_read :
    SftpSessionRun (some emptyFileFs) none () [openExchange,readExchange]
      emptyFileRead.2.session () ∧
    .fs (.read 1 4)∈readExchange.events ∧
    ∃ grant,Issued [openExchange] [0,0,0,1] grant ∧ (FsCall.read 1 4).Within grant := by
  have ho : SftpSessionRun (some emptyFileFs) none () [openExchange]
      emptyFileOpened.2.session () := SftpSessionRun.packet openRequest 64 .start rfl
  have hrn : SftpSessionRun (some emptyFileFs) none () ([openExchange]++readExchange::[])
      emptyFileRead.2.session () := SftpSessionRun.packet readRequest 64 ho rfl
  have hrm : ∀ y∈[openExchange]++[readExchange],y.HasRoom := by
    intro y hy
    rcases List.mem_pair.mp hy with rfl | rfl <;> exact .inl (by decide)
  have hr : SftpEvent.fs (.read 1 4)∈readExchange.events := mem_singleton.mpr rfl
  have hc : carriedHandle readExchange.request=some [0,0,0,1] := rfl
  have h := sftp_handle_denotes hrn hrm (by decide) hc
  exact ⟨hrn,hr,h.1 _ hr⟩

end EMSSHD
