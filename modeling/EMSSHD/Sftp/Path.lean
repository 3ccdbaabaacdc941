import EMSSHD.Core.Status
import EMSSHD.Math.Path

namespace EMSSHD

def emsshSftpMaxPath : Nat := 256

/-- The variables of normalize_path_view: the text written so far, which ends at out_pos,
and the places to go back to, the last one first. -/
structure Normalizer where
  out : Bytes
  segmentStarts : List Nat
  hasSegment : Bool
  deriving DecidableEq

def isForbidden (c : UInt8) : Bool := c=0 || c=92 || c=58

def appendSegment (absolute : Bool) (seg : Bytes) (s : Normalizer) : Except Err Normalizer :=
  let segmentBase := s.out.length
  let needsSep : Bool := (s.hasSegment || absolute) && s.out≠[] && s.out.getLast?≠some 47
  if needsSep ∧ emsshSftpMaxPath ≤ s.out.length+1 then .error .bufferTooSmall
  else
    let out := if needsSep then s.out++[47] else s.out
    if emsshSftpMaxPath≤out.length+seg.length then .error .bufferTooSmall
    else .ok ⟨out++seg,segmentBase::s.segmentStarts,true⟩

def popSegment (absolute : Bool) (s : Normalizer) : Except Err Normalizer :=
  match s.segmentStarts with
  | start::starts => .ok ⟨s.out.take start,starts,starts≠[]⟩
  | [] => if absolute then .ok s else .error .security

/-- The body of the loop of normalize_path_view for one segment. -/
def normalizeSegment (absolute : Bool) (seg : Bytes) (s : Normalizer) : Except Err Normalizer :=
  if seg=[46] then .ok s
  else if seg=[46,46] then popSegment absolute s
  else if seg.any isForbidden then .error .security
  else appendSegment absolute seg s

def normalizeLoop (absolute : Bool) : Nat → Bytes → Normalizer → Except Err Normalizer
  | 0,_,s => .ok s
  | rounds+1,path,s =>
    let segment := path.dropWhile (·=47)
    if segment=[] then .ok s
    else match normalizeSegment absolute (segment.takeWhile (·≠47)) s with
      | .error e => .error e
      | .ok t => normalizeLoop absolute rounds (segment.dropWhile (·≠47)) t

def normalizePathView (path : StringView) : Except Err Bytes :=
  match path.getD [] with
  | [] => .error .invalidArgument
  | first::rest =>
    let absolute : Bool := first=47
    if absolute ∧ emsshSftpMaxPath≤1 then .error .bufferTooSmall
    else match normalizeLoop absolute (rest.length+2) (first::rest)
        ⟨if absolute then [47] else [],[],false⟩ with
      | .error e => .error e
      | .ok s => .ok (if s.hasSegment then s.out else if absolute then [47] else [46])

/-- copy_path -/
def copyPath (path : StringView) : Except Err Bytes := normalizePathView path

def makeRealpathReplyPath (normalizedPath : Bytes) : Except Err Bytes :=
  if normalizedPath.head?=some 47 then
    if emsshSftpMaxPath<normalizedPath.length+1 then .error .bufferTooSmall else .ok normalizedPath
  else if normalizedPath=[46] then .ok [47]
  else if emsshSftpMaxPath<normalizedPath.length+2 then .error .bufferTooSmall
  else .ok (47::normalizedPath)

def pathComponents (path : Bytes) : List Bytes := pathWalk (·=47) 46 [] path

structure CleanName (component : Bytes) : Prop extends PathName (fun c : UInt8 => c=47) 46 component where
  allowed : ∀ c∈component,isForbidden c=false

def renderPath (absolute : Bool) (components : List Bytes) : Bytes :=
  (if absolute then [47] else [])++[47].intercalate components

def pathText (absolute : Bool) (components : List Bytes) : Bytes :=
  if components=[] then if absolute then [47] else [46] else renderPath absolute components

def renderStarts (absolute : Bool) : List Bytes → List Nat
  | [] => []
  | _::below => (renderPath absolute below.reverse).length::renderStarts absolute below

/-- The normalizer has written a stack of components, with its top in front. -/
structure Stacked (absolute : Bool) (stack : List Bytes) (s : Normalizer) : Prop where
  out : s.out=renderPath absolute stack.reverse
  starts : s.segmentStarts=renderStarts absolute stack
  hasSegment : s.hasSegment=decide (stack≠[])
  clean : ∀ name∈stack,CleanName name
  fits : s.out.length<emsshSftpMaxPath

variable {absolute : Bool} {stack : List Bytes} {s t : Normalizer} {seg : Bytes}

lemma renderPath_singleton (absolute : Bool) (name : Bytes) :
    renderPath absolute [name]=renderPath absolute []++name := by
  simp [renderPath]

variable {names : List Bytes} {path : Bytes} {rounds : Nat}

lemma renderPath_concat (h : names≠[]) (name : Bytes) :
    renderPath absolute (names++[name])=renderPath absolute names++[47]++name := by
  unfold renderPath
  rw [intercalate_concat [47] h]
  simp only [append_assoc]

lemma renderPath_last (absolute : Bool) (names : List Bytes) (name : Bytes) :
    ∃ sep,renderPath absolute (names++[name])=renderPath absolute names++sep++name := by
  by_cases h : names=[]
  · subst h
    exact ⟨[],by rw [append_nil,nil_append,renderPath_singleton]⟩
  · exact ⟨[47],renderPath_concat h name⟩

lemma renderPath_length_le (absolute : Bool) (names more : List Bytes) :
    (renderPath absolute names).length≤(renderPath absolute (names++more)).length := by
  induction more generalizing names with
  | nil => rw [append_nil]
  | cons name more ih =>
    obtain ⟨sep,hs⟩ := renderPath_last absolute names name
    have hl := congrArg List.length hs
    simp only [length_append] at hl
    have hr := ih (names++[name])
    rw [append_assoc,singleton_append] at hr
    omega

lemma CleanName.noSlash (h : CleanName seg) : 47∉seg := by
  intro hm
  have hs := h.no_sep 47 hm
  simp at hs

lemma Stacked.needsSep (h : Stacked absolute stack s) :
    ((s.hasSegment || absolute) && s.out≠[] && s.out.getLast?≠some 47 : Bool)=
      decide (stack≠[]) := by
  rw [h.hasSegment,h.out]
  rcases stack with _ | ⟨top,below⟩
  · cases absolute <;> decide
  have hc := h.clean top mem_cons_self
  obtain ⟨sep,hf⟩ := renderPath_last absolute below.reverse top
  have hl : top.getLast?≠some 47 := fun hs =>
    hc.noSlash (List.mem_of_getLast? hs)
  rw [reverse_cons,hf,List.getLast?_append_of_ne_nil _ hc.nonempty]
  simp [hl,hc.nonempty]

lemma Stacked.appendSegment (h : Stacked absolute stack s) (hn : CleanName seg) :
    appendSegment absolute seg s=
      if emsshSftpMaxPath≤(renderPath absolute (stack.reverse++[seg])).length then
        .error .bufferTooSmall
      else .ok ⟨renderPath absolute (stack.reverse++[seg]),renderStarts absolute (seg::stack),
        true⟩ := by
  unfold EMSSHD.appendSegment
  simp only [h.needsSep]
  by_cases hs : stack=[]
  · subst hs
    have hr : renderPath absolute ([].reverse++[seg])=s.out++seg := by
      rw [h.out]
      exact renderPath_singleton absolute seg
    rw [hr,renderStarts,h.starts,← h.out]
    simp
  have hr : renderPath absolute (stack.reverse++[seg])=s.out++[47]++seg := by
    rw [h.out]
    exact renderPath_concat (List.reverse_ne_nil_iff.mpr hs) seg
  rw [hr,renderStarts,h.starts,← h.out]
  have hl : 0<seg.length := length_pos_iff.mpr hn.nonempty
  simp only [hs,ne_eq,not_false_eq_true,decide_true,if_true,true_and,length_append,length_singleton]
  split_ifs with hsp hrm
  · rfl
  · omega
  · rfl
  · rfl

lemma Stacked.pop {top : Bytes} (h : Stacked absolute (top::stack) s) :
    Stacked absolute stack ⟨s.out.take (renderPath absolute stack.reverse).length,
      renderStarts absolute stack,renderStarts absolute stack≠[]⟩ := by
  have ho : s.out.take (renderPath absolute stack.reverse).length=
      renderPath absolute stack.reverse := by
    obtain ⟨sep,hs⟩ := renderPath_last absolute stack.reverse top
    rw [h.out,reverse_cons,hs,append_assoc,take_left]
  refine ⟨ho,rfl,?_,fun name hn => h.clean name (mem_cons_of_mem _ hn),?_⟩
  · cases stack <;> rfl
  refine lt_of_le_of_lt ?_ h.fits
  exact List.length_take_le' _ _

lemma Stacked.push (h : Stacked absolute stack s) (hn : CleanName seg)
    (hf : (renderPath absolute (stack.reverse++[seg])).length<emsshSftpMaxPath) :
    Stacked absolute (seg::stack) ⟨renderPath absolute (stack.reverse++[seg]),
      renderStarts absolute (seg::stack),true⟩ :=
  ⟨by rw [reverse_cons],rfl,by simp,forall_mem_cons.mpr ⟨hn,h.clean⟩,hf⟩

lemma popSegment_stacked (h : Stacked absolute stack s) (hr : popSegment absolute s=.ok t) :
    ∃ stack',Stacked absolute stack' t ∧ stack'.reverse=stack.reverse.dropLast := by
  unfold popSegment at hr
  rw [h.starts] at hr
  cases stack with
  | nil =>
    cases absolute with
    | false => exact nomatch hr
    | true =>
      cases hr
      exact ⟨[],h,rfl⟩
  | cons top below =>
    cases hr
    exact ⟨below,h.pop,by rw [reverse_cons,List.dropLast_concat]⟩

lemma CleanName.of_segment (hne : seg≠[]) (hd : seg≠[46]) (hup : seg≠[46,46])
    (hs : 47∉seg) (hb : ¬seg.any isForbidden=true) : CleanName seg := by
  refine ⟨⟨hne,hd,hup,fun c hc => ?_⟩,fun c hc => ?_⟩
  · have hc' : c≠47 := fun he => hs (he ▸ hc)
    simpa using hc'
  have hc' : ¬isForbidden c=true := fun he => hb (any_eq_true.mpr ⟨c,hc,he⟩)
  simpa using hc'

lemma normalizeSegment_stacked (h : Stacked absolute stack s) (hne : seg≠[]) (hsg : 47∉seg)
    (hr : normalizeSegment absolute seg s=.ok t) :
    ∃ stack',Stacked absolute stack' t ∧ stack'.reverse=pathStep 46 stack.reverse seg := by
  unfold normalizeSegment at hr
  split_ifs at hr with hd hup hb
  · cases hr
    exact ⟨stack,h,by simp [pathStep,hd]⟩
  · obtain ⟨stack',hs,hp⟩ := popSegment_stacked h hr
    exact ⟨stack',hs,by simp [hp,pathStep,hup]⟩
  have hn := CleanName.of_segment hne hd hup hsg hb
  rw [h.appendSegment hn] at hr
  split_ifs at hr with hrm
  cases hr
  refine ⟨seg::stack,h.push hn (Nat.lt_of_not_le hrm),?_⟩
  rw [reverse_cons,hn.step]

lemma head_dropWhile_slash (path : Bytes) : (path.dropWhile (·=47)).head?≠some 47 := by
  intro h
  have hn := List.head?_dropWhile_not (fun c : UInt8 => decide (c=47)) path
  rw [h] at hn
  simp at hn

lemma noSlash_takeWhile (path : Bytes) : 47∉path.takeWhile (·≠47) := by
  intro hm
  have h := all_eq_true.mp all_takeWhile 47 hm
  simp at h

lemma takeWhile_ne_nil (hne : path≠[]) (hh : path.head?≠some 47) : path.takeWhile (·≠47)≠[] := by
  rcases path with _ | ⟨c,path⟩
  · exact absurd rfl hne
  have hc : c≠47 := fun he => hh (by rw [he,head?_cons])
  rw [takeWhile_cons_of_pos (by simpa using hc)]
  exact cons_ne_nil _ _

lemma pathWalk_segment (place : List Bytes) (path : Bytes) :
    pathWalk (·=47) 46 place path=
      pathWalk (·=47) 46 (pathStep 46 place (path.takeWhile (·≠47))) (path.dropWhile (·≠47)) := by
  rw [← pathWalk_component_append (fun c hc => ?_) fun c hc => ?_,takeWhile_append_dropWhile]
  · have hs : c≠47 := fun he => noSlash_takeWhile path (he ▸ hc)
    simpa using hs
  have hn := List.head?_dropWhile_not (fun c : UInt8 => decide (c≠47)) path
  rw [hc] at hn
  simpa using hn

lemma normalizeLoop_stacked (h : Stacked absolute stack s) (hrn : path.length < rounds)
    (hr : normalizeLoop absolute rounds path s=.ok t) :
    ∃ stack',Stacked absolute stack' t ∧ stack'.reverse=pathWalk (·=47) 46 stack.reverse path := by
  induction rounds generalizing path stack s with
  | zero => omega
  | succ rounds ih =>
    rw [← pathWalk_dropWhile path]
    have hs : (path.dropWhile (·=47)).length≤path.length := (dropWhile_suffix _).length_le
    have hh := head_dropWhile_slash path
    unfold normalizeLoop at hr
    generalize path.dropWhile (·=47)=segment at hr hs hh ⊢
    dsimp only at hr
    split_ifs at hr with he
    · cases hr
      rw [he]
      exact ⟨stack,h,pathWalk_nil.symm⟩
    have hne := takeWhile_ne_nil he hh
    have hsp : segment.takeWhile (·≠47)++segment.dropWhile (·≠47)=segment :=
      takeWhile_append_dropWhile
    have hl := congrArg List.length hsp
    rw [length_append] at hl
    have hp := length_pos_iff.mpr hne
    rw [pathWalk_segment]
    split at hr
    case _ e hsg => exact nomatch hr
    case _ u hsg =>
      obtain ⟨below,hb,hst⟩ := normalizeSegment_stacked h hne (noSlash_takeWhile segment) hsg
      rw [← hst]
      exact ih hb (by omega) hr

lemma stacked_start (absolute : Bool) :
    Stacked absolute [] ⟨if absolute then [47] else [],[],false⟩ := by
  refine ⟨?_,rfl,rfl,forall_mem_nil _,?_⟩
  · cases absolute <;> rfl
  · cases absolute <;> decide

lemma Stacked.text (h : Stacked absolute stack s) :
    (if s.hasSegment then s.out else if absolute then [47] else [46])=
      pathText absolute stack.reverse := by
  rw [h.hasSegment,h.out,pathText]
  cases stack <;> simp

lemma Stacked.text_length (h : Stacked absolute stack s) :
    (pathText absolute stack.reverse).length<emsshSftpMaxPath := by
  unfold pathText
  split_ifs
  · decide
  · decide
  rw [← h.out]
  exact h.fits

lemma normalizePathView_spec {path : StringView} {q : Bytes} (hr : normalizePathView path=.ok q) :
    ∃ p,path=some p ∧ p≠[] ∧ q=pathText (p.head?=some 47) (pathComponents p) ∧
      (∀ name∈pathComponents p,CleanName name) ∧ q.length<emsshSftpMaxPath := by
  unfold normalizePathView at hr
  rcases path with _ | p
  · exact nomatch hr
  rcases p with _ | ⟨first,rest⟩
  · exact nomatch hr
  refine ⟨_,rfl,cons_ne_nil _ _,?_⟩
  have ha : decide ((first::rest).head?=some 47)=decide (first=47) := by simp
  rw [ha]
  simp only [Option.getD_some] at hr
  generalize decide (first=47)=absolute at hr ⊢
  rw [if_neg fun hrm => absurd hrm.2 (by decide)] at hr
  split at hr
  case _ e hl => exact nomatch hr
  case _ t hl =>
    obtain ⟨stack,hs,hw⟩ := normalizeLoop_stacked (stacked_start absolute) (by simp) hl
    have hq : q=pathText absolute stack.reverse := by
      rw [← hs.text]
      exact (Except.ok.inj hr).symm
    have hc : stack.reverse=pathComponents (first::rest) := hw
    rw [← hc]
    refine ⟨hq,fun name hn => hs.clean name (List.mem_reverse.mp hn),?_⟩
    rw [hq]
    exact hs.text_length

lemma normalizeSegment_name (h : Stacked absolute stack s) (hn : CleanName seg)
    (hf : (renderPath absolute (stack.reverse++[seg])).length<emsshSftpMaxPath) :
    ∃ t,normalizeSegment absolute seg s=.ok t ∧ Stacked absolute (seg::stack) t := by
  have hb : ¬seg.any isForbidden=true := by
    intro he
    obtain ⟨c,hc,hb⟩ := any_eq_true.mp he
    rw [hn.allowed c hc] at hb
    exact nomatch hb
  unfold normalizeSegment
  rw [if_neg hn.not_dot,if_neg hn.not_up,if_neg hb,h.appendSegment hn,if_neg (Nat.not_le.mpr hf)]
  exact ⟨_,rfl,h.push hn hf⟩

lemma dropWhile_intercalate (hnm : ∀ name∈names,CleanName name) :
    ([47].intercalate names).dropWhile (·=47)=[47].intercalate names := by
  rcases names with _ | ⟨name,names⟩
  · rfl
  have hn := hnm name mem_cons_self
  rw [intercalate_cons_eq]
  rcases name with _ | ⟨c,name⟩
  · exact absurd rfl hn.nonempty
  have hc : c≠47 := fun he => hn.noSlash (he ▸ mem_cons_self)
  rw [cons_append,dropWhile_cons_of_neg (by simpa using hc)]

lemma dropWhile_renderPath (absolute : Bool) (hn : ∀ name∈names,CleanName name) :
    (renderPath absolute names).dropWhile (·=47)=[47].intercalate names := by
  unfold renderPath
  cases absolute <;> exact dropWhile_intercalate hn

lemma intercalate_segment (name : Bytes) (hn : ∀ name∈names,CleanName name) :
    ∃ rest,[47].intercalate (name::names)=name++rest ∧ (∀ c∈rest.head?,c=47) ∧
      rest.dropWhile (·=47)=[47].intercalate names := by
  refine ⟨_,intercalate_cons_eq 47 name names,?_⟩
  split_ifs with hl
  · exact ⟨nofun,by rw [hl]; rfl⟩
  · exact ⟨fun c hc => (Option.some.inj hc).symm,dropWhile_intercalate hn⟩

lemma segment_append {rest : Bytes} (hsg : 47∉seg) (hr : ∀ c∈rest.head?,c=47) :
    (seg++rest).takeWhile (·≠47)=seg ∧ (seg++rest).dropWhile (·≠47)=rest := by
  have ha : ∀ c∈seg,decide (c≠47)=true := by
    intro c hc
    have hs : c≠47 := fun he => hsg (he ▸ hc)
    simpa using hs
  rw [List.takeWhile_append_of_pos ha,List.dropWhile_append_of_pos ha]
  rcases rest with _ | ⟨c,rest⟩
  · exact ⟨append_nil seg,rfl⟩
  have hc : c=47 := hr c rfl
  subst hc
  exact ⟨append_nil seg,rfl⟩

lemma normalizeLoop_names (h : Stacked absolute stack s) (hnm : ∀ name∈names,CleanName name)
    (hp : path.dropWhile (·=47)=[47].intercalate names) (hrn : path.length < rounds)
    (hf : (renderPath absolute (stack.reverse++names)).length<emsshSftpMaxPath) :
    ∃ t,normalizeLoop absolute rounds path s=.ok t ∧ Stacked absolute (names.reverse++stack) t := by
  induction names generalizing rounds path stack s with
  | nil =>
    cases rounds with
    | zero => omega
    | succ rounds =>
      refine ⟨s,?_,h⟩
      unfold normalizeLoop
      rw [hp,List.intercalate_nil]
      rfl
  | cons name names ih =>
    cases rounds with
    | zero => omega
    | succ rounds =>
      obtain ⟨hn,hr⟩ := forall_mem_cons.mp hnm
      obtain ⟨rest,hj,hs,ha⟩ := intercalate_segment name hr
      have hln : name.length+rest.length≤path.length := by
        rw [← length_append,← hj,← hp]
        exact (dropWhile_suffix _).length_le
      have hps := length_pos_iff.mpr hn.nonempty
      obtain ⟨htk,hd⟩ := segment_append hn.noSlash hs
      have ho : (renderPath absolute (stack.reverse++[name])).length<emsshSftpMaxPath := by
        have hle := renderPath_length_le absolute (stack.reverse++[name]) names
        rw [append_assoc,singleton_append] at hle
        exact lt_of_le_of_lt hle hf
      obtain ⟨u,hsg,hu⟩ := normalizeSegment_name h hn ho
      have hsh : rest.length < rounds := by omega
      obtain ⟨t,hl,ht⟩ := ih hu hr ha hsh (by rwa [reverse_cons,append_assoc,singleton_append])
      refine ⟨t,?_,by rwa [reverse_cons,append_assoc,singleton_append]⟩
      have hne : name++rest≠[] := List.append_ne_nil_of_left_ne_nil hn.nonempty _
      unfold normalizeLoop
      rw [hp,hj]
      dsimp only
      rw [if_neg hne,htk,hd,hsg]
      exact hl

lemma renderPath_head (absolute : Bool) (hne : names≠[]) (hnm : ∀ name∈names,CleanName name) :
    ∃ first rest,renderPath absolute names=first::rest ∧ decide (first=47)=absolute := by
  cases absolute with
  | true => exact ⟨47,_,rfl,rfl⟩
  | false =>
    rcases names with _ | ⟨name,names⟩
    · exact absurd rfl hne
    have hn := hnm name mem_cons_self
    rcases name with _ | ⟨c,name⟩
    · exact absurd rfl hn.nonempty
    have hc : c≠47 := fun he => hn.noSlash (he ▸ mem_cons_self)
    exact ⟨c,_,intercalate_cons_eq 47 (c::name) names,decide_eq_false hc⟩

lemma normalizePathView_text (hn : ∀ name∈names,CleanName name)
    (hft : (pathText absolute names).length<emsshSftpMaxPath) :
    normalizePathView (some (pathText absolute names))=.ok (pathText absolute names) := by
  by_cases he : names=[]
  · subst he
    cases absolute <;> decide
  have htx : pathText absolute names=renderPath absolute names := if_neg he
  rw [htx] at hft ⊢
  have hs : (renderPath absolute names).dropWhile (·=47)=[47].intercalate names :=
    dropWhile_renderPath absolute hn
  obtain ⟨first,rest,hf,ha⟩ := renderPath_head absolute he hn
  have hln : (renderPath absolute names).length < rest.length+2 := by
    rw [hf,length_cons]
    omega
  obtain ⟨t,hl,ht⟩ := normalizeLoop_names (stacked_start absolute) hn hs hln hft
  have hq := ht.text
  rw [append_nil,List.reverse_reverse,htx] at hq
  rw [hf] at hl
  unfold normalizePathView
  rw [hf,Option.getD_some]
  dsimp only
  rw [ha,if_neg fun hr => absurd hr.2 (by decide),hl]
  dsimp only
  rw [hq,hf]

lemma pathComponents_text (hn : ∀ name∈names,CleanName name) :
    pathComponents (pathText absolute names)=names := by
  have hw : pathWalk (·=47) 46 [] ([47].intercalate names)=[]++names :=
    pathWalk_intercalate rfl fun name hnm => (hn name hnm).toPathName
  unfold pathText pathComponents renderPath
  split_ifs with he ha
  · subst he
    exact pathWalk_sep rfl []
  · subst he
    rfl
  · rw [singleton_append,pathWalk_sep rfl,hw,nil_append]
  · rw [nil_append,hw,nil_append]

lemma pathText_ne_nil (hn : ∀ name∈names,CleanName name) : pathText absolute names≠[] := by
  unfold pathText
  split_ifs with he
  · exact cons_ne_nil _ _
  · exact cons_ne_nil _ _
  obtain ⟨first,rest,hf,_⟩ := renderPath_head absolute he hn
  rw [hf]
  exact cons_ne_nil _ _

lemma pathText_ne_dot (hem : names≠[]) (hn : ∀ name∈names,CleanName name) :
    pathText absolute names≠[46] := by
  intro he
  have hc : pathComponents (pathText absolute names)=names := pathComponents_text hn
  rw [he] at hc
  exact hem hc.symm

lemma makeRealpathReplyPath_spec {r : Bytes} (hn : ∀ name∈names,CleanName name)
    (hr : makeRealpathReplyPath (pathText absolute names)=.ok r) :
    r=pathText true names ∧ r.length<emsshSftpMaxPath := by
  by_cases he : names=[]
  · subst he
    cases absolute <;> cases hr <;> decide
  obtain ⟨first,rest,hf,ha⟩ := renderPath_head absolute he hn
  have hd : pathText absolute names≠[46] := pathText_ne_dot he hn
  have ht (absolute : Bool) : pathText absolute names=renderPath absolute names := if_neg he
  unfold makeRealpathReplyPath at hr
  rw [if_neg hd,ht,hf,head?_cons] at hr
  rw [ht]
  cases absolute with
  | true =>
    have hs : first=47 := by simpa using ha
    rw [if_pos (congrArg some hs)] at hr
    split_ifs at hr with hrm
    cases hr
    exact ⟨hf.symm,by omega⟩
  | false =>
    have hs : ¬some first=some (47 : UInt8) := by simpa using ha
    rw [if_neg hs] at hr
    split_ifs at hr with hrm
    cases hr
    refine ⟨by rw [← hf]; rfl,?_⟩
    rw [length_cons]
    omega

end EMSSHD
