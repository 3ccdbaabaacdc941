import EMSSHD.Platform.StdioFs
import EMSSHD.Sftp.Codec
import EMSSHD.Sftp.Path

namespace EMSSHD

inductive SftpPolicyOperation where
  | realpath
  | stat
  | openFile
  | read
  | write
  | setstat
  | opendir
  | readdir
  | remove
  | mkdir
  | rmdir
  | rename
  | fstat
  | fsetstat
  | fsync
  | hardlink
  | statvfs
  | fstatvfs
  deriving DecidableEq, Repr

structure SftpPolicyRequest where
  operation : SftpPolicyOperation
  path : Bytes
  newPath : Option Bytes := none
  pflags : Nat := 0
  offset : Nat := 0
  length : Nat := 0
  attrs : Option FsAttrs := none
  deriving DecidableEq

/-- sftp_policy_fn, with what it keeps in its context. -/
abbrev SftpPolicy (σ : Type) := SftpPolicyRequest → Call σ Err Unit

def statusFromError : Except Err Unit → FxStatus
  | .ok _ => .ok
  | .error .unsupported => .opUnsupported
  | .error .security => .permissionDenied
  | .error .readOnly => .permissionDenied
  | .error .notFound => .noSuchFile
  | .error .malformedPacket => .badMessage
  | .error .invalidArgument => .badMessage
  | .error _ => .failure

def encodeStatus (responseCapacity requestId : Nat) (statusCode : FxStatus) (message : Bytes) :
    Except Err Bytes :=
  sftpStatusEncode responseCapacity requestId statusCode message []

section
variable {σ : Type} (policy : Option (SftpPolicy σ))

def policyCheck (request : SftpPolicyRequest) : Call σ Err Unit :=
  match policy with
  | none => pure ()
  | some check => check request

def handleRealpath (request : Bytes) (responseCapacity : Nat) : Call σ Err Bytes :=
  match sftpRealpathRequestDecode request with
  | .error _ => Call.lift (encodeStatus responseCapacity 0 .badMessage (cstr "bad realpath"))
  | .ok realpath =>
    match copyPath realpath.path with
    | .error e =>
      Call.lift (encodeStatus responseCapacity realpath.id (statusFromError (.error e))
        (cstr "bad path"))
    | .ok path => do
      match ← (policyCheck policy {operation := .realpath,path}).status with
      | .error e =>
        Call.lift (encodeStatus responseCapacity realpath.id (statusFromError (.error e))
          (cstr "realpath denied"))
      | .ok _ =>
        match makeRealpathReplyPath path with
        | .error e =>
          Call.lift (encodeStatus responseCapacity realpath.id (statusFromError (.error e))
            (cstr "realpath reply failed"))
        | .ok replyPath =>
          Call.lift (sftpNameOneEncode responseCapacity realpath.id replyPath (some replyPath))
end

def nameReplyPath (response : Bytes) : Option Bytes :=
  match sftpRequestDecode response with
  | .error _ => none
  | .ok reply =>
    if reply.type≠sshFxpName then none
    else match (do
        let _ ← sshBufferGetU32
        sshBufferGetStringView).run (sshBufferWrap reply.payload) with
      | (.ok name,_) => name
      | (.error _,_) => none

variable {outCapacity requestId : Nat} {response : Bytes}

lemma nameReplyPath_status {statusCode : FxStatus} {message : Bytes}
    (h : encodeStatus outCapacity requestId statusCode message=.ok response) :
    nameReplyPath response=none := by
  have ha := (appends_putRaw [sshFxpStatus]).bind ((appends_putRaw (beBytes 4 requestId)).bind
    ((appends_putRaw (beBytes 4 statusCode.code)).bind
      ((appends_putString message).bind (appends_putString []))))
  obtain ⟨hr,hl⟩ := sftpPacketEncode_eq ha h
  rw [hr]
  unfold nameReplyPath
  rw [singleton_append] at hl ⊢
  rw [sftpRequestDecode_wire _ _ _ hl]
  have ht : sshFxpStatus≠sshFxpName := by decide
  exact if_pos ht

lemma nameReplyPath_name {filename : Bytes} {longname : Option Bytes}
    (h : sftpNameOneEncode outCapacity requestId filename longname=.ok response) :
    nameReplyPath response=some filename := by
  have ha := (appends_putRaw [sshFxpName]).bind ((appends_putRaw (beBytes 4 requestId)).bind
    ((appends_putRaw (beBytes 4 1)).bind ((appends_putString filename).bind
      ((appends_putString (longname.getD filename)).bind (appends_putAttrs {})))))
  obtain ⟨hr,hl⟩ := sftpPacketEncode_eq ha h
  rw [singleton_append] at hl hr
  have hn : filename.length<2^32 := by
    simp only [length_cons,length_append] at hl
    unfold uint32Max at hl
    omega
  rw [hr]
  unfold nameReplyPath
  rw [sftpRequestDecode_wire _ _ _ hl]
  simp only
  rw [if_neg (not_not.mpr rfl)]
  generalize beBytes 4 (longname.getD filename).length++longname.getD filename++attrsWire {}=rest
  obtain ⟨b,hb,hu⟩ := getU32_unread (beBytes_length 4 1)
    (wrap_unread (beBytes 4 1++(beBytes 4 filename.length++filename++rest)))
  rw [append_assoc] at hu
  obtain ⟨c,hc,-⟩ := getStringView_unread hn hu
  rw [Call.run_bind_ok hb,hc]

section
variable {names : List Bytes} {name : Bytes} {absolute : Bool}

lemma CleanName.chars (h : CleanName name) {c : UInt8} (hc : c∈name) :
    c≠47 ∧ c≠0 ∧ c≠92 ∧ c≠58 := by
  have hs := h.no_sep c hc
  have hb := h.allowed c hc
  simp only [isForbidden,Bool.or_eq_false_iff,decide_eq_false_iff_not] at hs hb
  exact ⟨hs,hb.1.1,hb.1.2,hb.2⟩

lemma CleanName.pathName (h : CleanName name) : PathName isSeparator 46 name := by
  refine ⟨h.nonempty,h.not_dot,h.not_up,fun c hc => ?_⟩
  obtain ⟨hs,_,hb,_⟩ := h.chars hc
  simp [isSeparator,hs,hb]

variable {P : UInt8 → Prop}

lemma forall_mem_intercalate (hs : P 47) (hn : ∀ name∈names,∀ c∈name,P c) :
    ∀ c∈[47].intercalate names,P c := by
  induction names with
  | nil => exact forall_mem_nil _
  | cons name names ih =>
    obtain ⟨hnm,hm⟩ := forall_mem_cons.mp hn
    rw [intercalate_cons_eq]
    refine forall_mem_append.mpr ⟨hnm,?_⟩
    split_ifs
    · exact forall_mem_nil _
    · exact forall_mem_cons.mpr ⟨hs,ih hm⟩

lemma forall_mem_pathText (hs : P 47) (hd : P 46) (hn : ∀ name∈names,∀ c∈name,P c) :
    ∀ c∈pathText absolute names,P c := by
  unfold pathText renderPath
  split_ifs
  · simpa using hs
  · simpa using hd
  · exact forall_mem_cons.mpr ⟨hs,forall_mem_intercalate hs hn⟩
  · exact forall_mem_intercalate hs hn

lemma safeLoop_pathText (hn : ∀ name∈names,CleanName name) :
    safeLoop true (pathText absolute names)=true := by
  have hs := safeLoop_intercalate fun name hnm => (hn name hnm).pathName
  unfold pathText renderPath
  split_ifs
  · rfl
  · rfl
  · exact hs
  · exact hs

lemma pathIsSafe_pathText (hn : ∀ name∈names,CleanName name) :
    pathIsSafe (pathText absolute names)=true := by
  have hch : ∀ c∈pathText absolute names,c≠92 ∧ c≠58 :=
    forall_mem_pathText (by decide) (by decide) fun name hnm c hc =>
      ((hn name hnm).chars hc).2.2
  have hne : pathText absolute names≠[] := pathText_ne_nil hn
  have hb : (pathText absolute names).head?≠some 92 := fun h =>
    (hch 92 (List.mem_of_head? h)).1 rfl
  have hcl : 58∉pathText absolute names := fun h => (hch 58 h).2 rfl
  simp [pathIsSafe,safeLoop_pathText hn,hne,hb,hcl]

lemma relative_pathText (hn : ∀ name∈names,CleanName name) :
    (if (pathText absolute names).dropWhile (·=47)=[] ∨
        (pathText absolute names).dropWhile (·=47)=[46] then []
      else (pathText absolute names).dropWhile (·=47))=[47].intercalate names := by
  by_cases he : names=[]
  · subst he
    cases absolute <;> decide
  have ht (absolute : Bool) : pathText absolute names=renderPath absolute names := if_neg he
  have hj : pathText false names=[47].intercalate names := ht false
  have hne : pathText false names≠[] := pathText_ne_nil hn
  have hd : pathText false names≠[46] := pathText_ne_dot he hn
  rw [ht,dropWhile_renderPath absolute hn,← hj,if_neg (not_or.mpr ⟨hne,hd⟩)]

lemma resolvePath_pathText (fs : StdioFs) (hn : ∀ name∈names,CleanName name) :
    resolvePath fs (pathText absolute names)=
      if emsshStdioFsMaxPath≤(joinRoot fs.root ([47].intercalate names)).length then
        .error .bufferTooSmall
      else .ok (joinRoot fs.root ([47].intercalate names)) := by
  have hnl : 0∉pathText absolute names := fun h =>
    forall_mem_pathText (by decide) (by decide) (fun name hnm c hc =>
      ((hn name hnm).chars hc).2.1) 0 h rfl
  unfold resolvePath
  rw [cString_eq_self hnl,pathIsSafe_pathText hn]
  simp only [Bool.not_true,Bool.false_eq_true,if_false]
  rw [relative_pathText hn]

lemma handleRealpath_name {σ : Type} {policy : Option (SftpPolicy σ)} {request response : Bytes}
    {cap : Nat} {w : σ} {realpath : SftpPathRequest} {r : Bytes}
    (hd : sftpRealpathRequestDecode request=.ok realpath)
    (hr : ((handleRealpath policy request cap).run w).1=.ok response)
    (hn : nameReplyPath response=some r) :
    ∃ q,normalizePathView realpath.path=.ok q ∧ makeRealpathReplyPath q=.ok r := by
  have hs {id : Nat} {code : FxStatus} {message : Bytes} :
      encodeStatus cap id code message≠.ok response := fun h => by
    rw [nameReplyPath_status h] at hn
    exact nomatch hn
  unfold handleRealpath at hr
  rw [hd] at hr
  simp only at hr
  split at hr
  case _ e _ => exact absurd hr hs
  case _ q hq =>
    refine ⟨q,hq,?_⟩
    rw [Call.run_bind,Call.run_status] at hr
    simp only at hr
    split at hr
    case _ e _ => exact absurd hr hs
    case _ u _ =>
      split at hr
      case _ e _ => exact absurd hr hs
      case _ reply hrp =>
        rw [nameReplyPath_name hr] at hn
        rw [hrp,Option.some.inj hn]
end

/-- A text leads to names below a root. A relative root is taken from cwd, and an absolute one
from no names at all. -/
def LeadsBelow (isSep : UInt8 → Bool) (root : Bytes) (names : List Bytes) (text : Bytes) : Prop :=
  ∀ cwd,pathWalk isSep 46 cwd text=pathWalk isSep 46 cwd root++names

lemma leadsBelow_joinRoot {names : List Bytes} (fs : StdioFs)
    (hnm : ∀ name∈names,CleanName name) :
    LeadsBelow isSeparator fs.root names (joinRoot fs.root ([47].intercalate names)) ∧
      (fs.root.getLast?≠some 92 →
        LeadsBelow (·=47) fs.root names (joinRoot fs.root ([47].intercalate names))) := by
  refine ⟨fun cwd => ?_,fun hr cwd => ?_⟩
  · exact pathWalk_joinRoot rfl (fun _ => rfl) (fun name hn => (hnm name hn).pathName) cwd
  · exact pathWalk_joinRoot rfl (fun h => absurd h hr) (fun name hn => (hnm name hn).toPathName) cwd

/-- The components of a path that SFTP accepts are those that its text folds to, with no way up
and no forbidden character in them. The adapter puts them behind its root, or finds no room for
them, and they lead to a place below it: with the separators that the adapter looks for at the
end of the root, and with slashes alone unless the root ends in a backslash. The name in the
reply to a REALPATH is accepted and stands for the same file. -/
theorem sftp_paths_stay_below_root :
    (∀ p q,normalizePathView (some p)=.ok q →
      (∀ name∈pathComponents p,name≠[46,46] ∧ 92∉name ∧ 58∉name ∧ 0∉name) ∧
      pathComponents q=pathComponents p ∧
      ∀ fs : StdioFs,
        let text := joinRoot fs.root ([47].intercalate (pathComponents q))
        (resolvePath fs q=.error .bufferTooSmall ∧ emsshStdioFsMaxPath≤text.length ∨
          resolvePath fs q=.ok text) ∧
        LeadsBelow isSeparator fs.root (pathComponents q) text ∧
        (fs.root.getLast?≠some 92 → LeadsBelow (·=47) fs.root (pathComponents q) text)) ∧
    (∀ (σ : Type) (policy : Option (SftpPolicy σ)) (w : σ) (request response p r : Bytes)
        (responseCapacity id : Nat),
      sftpRealpathRequestDecode request=.ok ⟨id,some p⟩ →
      ((handleRealpath policy request responseCapacity).run w).1=.ok response →
      nameReplyPath response=some r →
      ∃ q q',normalizePathView (some p)=.ok q ∧ normalizePathView (some r)=.ok q' ∧
        ∀ fs : StdioFs,resolvePath fs q'=resolvePath fs q) := by
  refine ⟨fun p q hq => ?_,fun σ policy w request response p r capacity id hd hrn hnm => ?_⟩
  · obtain ⟨p',hp,_,ht,hn,_⟩ := normalizePathView_spec hq
    rw [← Option.some.inj hp] at ht hn
    have hc : pathComponents q=pathComponents p := by
      rw [ht]
      exact pathComponents_text hn
    refine ⟨fun name hnm => ?_,hc,fun fs => ?_⟩
    · have hcl := hn name hnm
      exact ⟨hcl.not_up,fun h => (hcl.chars h).2.2.1 rfl,fun h => (hcl.chars h).2.2.2 rfl,
        fun h => (hcl.chars h).2.1 rfl⟩
    rw [hc]
    refine ⟨?_,leadsBelow_joinRoot fs hn⟩
    rw [ht,resolvePath_pathText fs hn]
    split_ifs with hrm
    · exact .inl ⟨rfl,hrm⟩
    · exact .inr rfl
  obtain ⟨q,hq,hrp⟩ := handleRealpath_name hd hrn hnm
  obtain ⟨p',_,_,ht,hn,_⟩ := normalizePathView_spec hq
  rw [ht] at hrp
  obtain ⟨hr,hf⟩ := makeRealpathReplyPath_spec hn hrp
  rw [hr] at hf
  refine ⟨q,r,hq,?_,fun fs => ?_⟩
  · rw [hr]
    exact normalizePathView_text hn hf
  · rw [hr,ht,resolvePath_pathText fs hn,resolvePath_pathText fs hn]

def upAndDownRequest : Bytes := [0,0,0,15,16,0,0,0,7,0,0,0,6,97,47,46,46,47,98]

theorem sftp_paths_stay_below_root_up_and_down :
    pathComponents [98]=pathComponents [97,47,46,46,47,98] ∧
      ∃ q q',normalizePathView (some [97,47,46,46,47,98])=.ok q ∧
        normalizePathView (some [47,98])=.ok q' ∧
        ∀ fs : StdioFs,resolvePath fs q'=resolvePath fs q :=
  ⟨(sftp_paths_stay_below_root.1 [97,47,46,46,47,98] [98] (by decide)).2.1,
    sftp_paths_stay_below_root.2 Unit none () upAndDownRequest
      [0,0,0,25,104,0,0,0,7,0,0,0,1,0,0,0,2,47,98,0,0,0,2,47,98,0,0,0,0]
      [97,47,46,46,47,98] [47,98] 64 7 (by decide) rfl rfl⟩

end EMSSHD
