import EMSSHD.Framework.Call
import EMSSHD.Math.Text
import EMSSHD.Sftp.Path

namespace EMSSHD

def pathSegments (path : Bytes) : List Bytes := Text.words (·=47) path
def segmentsPlace (segs : List Bytes) : List Bytes := segs.foldl (pathStep 46) []

/-- A path that the normalizer lets through. -/
structure PathAccepted (path : Bytes) : Prop where
  nonempty : path≠[]
  allowed : ∀ seg∈pathSegments path,seg≠[46] → seg≠[46,46] → ∀ c∈seg,c≠0 ∧ c≠92 ∧ c≠58
  inside : path.head?≠some 47 → ∀ before after,pathSegments path=before++[46,46]::after →
    segmentsPlace before≠[]
  fits : ∀ before after,pathSegments path=before++after →
    (renderPath (path.head?=some 47) (segmentsPlace before)).length<emsshSftpMaxPath

/-- The entry of segment_starts that a round of the loop reads or writes. -/
def segmentIndex (absolute : Bool) (seg : Bytes) (s : Normalizer) : Option Nat :=
  if seg=[46] then none
  else if seg=[46,46] then
    if s.segmentStarts=[] then none else some (s.segmentStarts.length-1)
  else if seg.any isForbidden then none
  else match appendSegment absolute seg s with
    | .error _ => none
    | .ok _ => some s.segmentStarts.length

/-- The entries of segment_starts that the loop reads or writes. -/
def segmentIndices (absolute : Bool) : List Bytes → Normalizer → List Nat
  | [],_ => []
  | seg::segs,s => (segmentIndex absolute seg s).toList++
    match normalizeSegment absolute seg s with
    | .error _ => []
    | .ok t => segmentIndices absolute segs t

def normalizerStart (absolute : Bool) : Normalizer := ⟨if absolute then [47] else [],[],false⟩

variable {absolute : Bool} {stack segs : List Bytes} {s t : Normalizer} {seg : Bytes}

/-- What one component must be like, at the place that the ones before it lead to. -/
structure Admitted (absolute : Bool) (place : List Bytes) (seg : Bytes) : Prop where
  allowed : seg≠[46] → seg≠[46,46] → ∀ c∈seg,isForbidden c=false
  inside : seg=[46,46] → absolute=true ∨ place≠[]
  fits : (renderPath absolute (pathStep 46 place seg)).length<emsshSftpMaxPath

variable {path : Bytes}

lemma mem_pathSegments (h : seg∈pathSegments path) : seg≠[] ∧ 47∉seg := by
  obtain ⟨hne,hsp⟩ := Text.mem_words h
  refine ⟨hne,fun hs => ?_⟩
  simpa using hsp 47 hs

lemma pathSegments_eq_cons (h : path.takeWhile (·≠47)≠[]) :
    pathSegments path=path.takeWhile (·≠47)::pathSegments (path.dropWhile (·≠47)) := by
  have hf : (fun c : UInt8 => !decide (c=47))=fun c => decide (c≠47) := by
    funext c
    simp
  have hw := @Text.words_eq_cons_of_ne UInt8 (·=47) path
  rw [hf] at hw
  exact hw h

lemma normalizeLoop_eq_foldlM {rounds : Nat} (s : Normalizer) (hr : path.length < rounds) :
    normalizeLoop absolute rounds path s=
      (pathSegments path).foldlM (fun s seg => normalizeSegment absolute seg s) s := by
  induction rounds generalizing path s with
  | zero => omega
  | succ rounds ih =>
    have hs : pathSegments (path.dropWhile (·=47))=pathSegments path := Text.words_dropWhile path
    have hsh : (path.dropWhile (·=47)).length≤path.length := (dropWhile_suffix _).length_le
    have hh := head_dropWhile_slash path
    rw [← hs,normalizeLoop]
    generalize path.dropWhile (·=47)=segment at hsh hh ⊢
    split_ifs with he
    · rw [he]
      rfl
    have hne := takeWhile_ne_nil he hh
    have hl := congrArg List.length
      (takeWhile_append_dropWhile (p := (·≠(47 : UInt8))) (l := segment))
    rw [length_append] at hl
    have hp := length_pos_iff.mpr hne
    rw [pathSegments_eq_cons hne,foldlM_cons]
    cases normalizeSegment absolute (segment.takeWhile (·≠47)) s with
    | error e => rfl
    | ok t => exact ih t (by omega)

lemma pathStep_up {place : List Bytes} : pathStep 46 place [46,46]=place.dropLast := by
  simp [pathStep]

lemma popSegment_admits (h : Stacked absolute stack s) :
    (∃ t,popSegment absolute s=.ok t) ↔ absolute=true ∨ stack.reverse≠[] := by
  unfold popSegment
  rw [h.starts]
  cases stack with
  | nil => cases absolute <;> simp [renderStarts]
  | cons top below => simp [renderStarts]

lemma renderPath_dropLast_length (absolute : Bool) (place : List Bytes) :
    (renderPath absolute place.dropLast).length≤(renderPath absolute place).length := by
  rcases List.eq_nil_or_concat' place with rfl | ⟨front,last,rfl⟩
  · exact Nat.le_refl _
  rw [List.dropLast_concat]
  exact renderPath_length_le absolute front [last]

lemma normalizeSegment_admits (h : Stacked absolute stack s) (hne : seg≠[]) (hsl : 47∉seg) :
    (∃ t,normalizeSegment absolute seg s=.ok t) ↔ Admitted absolute stack.reverse seg := by
  have hf : (renderPath absolute stack.reverse).length<emsshSftpMaxPath := h.out ▸ h.fits
  unfold normalizeSegment
  split_ifs with hd hup hb
  · have hst : pathStep 46 stack.reverse seg=stack.reverse := by simp [pathStep,hd]
    refine iff_of_true ⟨s,rfl⟩ ⟨fun hno => absurd hd hno,fun he => ?_,?_⟩
    · rw [hd] at he
      cases he
    · rwa [hst]
  · rw [popSegment_admits h]
    refine ⟨fun hin => ⟨fun _ hno => absurd hup hno,fun _ => hin,?_⟩,fun ha => ha.inside hup⟩
    rw [hup,pathStep_up]
    exact lt_of_le_of_lt (renderPath_dropLast_length absolute _) hf
  · refine iff_of_false (fun hok => ?_) fun ha => ?_
    · obtain ⟨t,ht⟩ := hok
      cases ht
    obtain ⟨c,hc,hc'⟩ := any_eq_true.mp hb
    rw [ha.allowed hd hup c hc] at hc'
    cases hc'
  have hn := CleanName.of_segment hne hd hup hsl hb
  have hs : pathStep 46 stack.reverse seg=stack.reverse++[seg] := hn.step
  rw [h.appendSegment hn]
  constructor
  · intro hok
    split_ifs at hok with hr
    · obtain ⟨t,ht⟩ := hok
      cases ht
    refine ⟨fun _ _ => hn.allowed,fun he => absurd he hup,?_⟩
    rw [hs]
    exact Nat.lt_of_not_le hr
  intro ha
  have hr := ha.fits
  rw [hs] at hr
  rw [if_neg (Nat.not_le.mpr hr)]
  exact ⟨_,rfl⟩

lemma foldlM_admits (h : Stacked absolute stack s) (hsg : ∀ seg∈segs,seg≠[] ∧ 47∉seg) :
    (∃ t,segs.foldlM (fun s seg => normalizeSegment absolute seg s) s=.ok t) ↔
      ∀ before seg after,segs=before++seg::after →
        Admitted absolute (before.foldl (pathStep 46) stack.reverse) seg := by
  induction segs generalizing stack s with
  | nil => exact iff_of_true ⟨s,rfl⟩ fun before seg after he => by simp at he
  | cons seg segs ih =>
    obtain ⟨⟨hne,hsl⟩,hsg⟩ := forall_mem_cons.mp hsg
    have ha := normalizeSegment_admits h hne hsl
    rw [foldlM_cons]
    constructor
    · rintro ⟨t,ht⟩ before x after he
      obtain ⟨u,hu,hr⟩ := except_bind_ok ht
      obtain ⟨stack',hs,hp⟩ := normalizeSegment_stacked h hne hsl hu
      rcases before with _ | ⟨first,before⟩
      · obtain ⟨rfl,rfl⟩ := List.cons.inj he
        exact ha.mp ⟨u,hu⟩
      obtain ⟨rfl,rfl⟩ := List.cons.inj he
      rw [foldl_cons,← hp]
      exact (ih hs hsg).mp ⟨t,hr⟩ before x after rfl
    intro hal
    obtain ⟨u,hu⟩ := ha.mpr (hal [] seg segs rfl)
    obtain ⟨stack',hs,hp⟩ := normalizeSegment_stacked h hne hsl hu
    rw [hu]
    refine (ih hs hsg).mpr fun before x after he => ?_
    rw [hp]
    exact hal (seg::before) x after (by rw [he]; rfl)

lemma isForbidden_eq_false {c : UInt8} : isForbidden c=false ↔ c≠0 ∧ c≠92 ∧ c≠58 := by
  simp [isForbidden,and_assoc]

lemma pathAccepted_iff (hne : path≠[]) : PathAccepted path ↔
    ∀ before seg after,pathSegments path=before++seg::after →
      Admitted (path.head?=some 47) (segmentsPlace before) seg := by
  constructor
  · intro h before seg after he
    have hm : seg∈pathSegments path := by simp [he]
    refine ⟨fun hd hup c hc => isForbidden_eq_false.mpr (h.allowed seg hm hd hup c hc),?_,?_⟩
    · intro hup
      rw [hup] at he
      by_cases ha : path.head?=some 47
      · exact .inl (decide_eq_true ha)
      · exact .inr (h.inside ha before after he)
    have hf := h.fits (before++[seg]) after (by rw [he,append_assoc]; rfl)
    rwa [segmentsPlace,List.foldl_append] at hf
  intro h
  refine ⟨hne,fun seg hm hd hup c hc => ?_,fun ha before after he => ?_,fun before after he => ?_⟩
  · obtain ⟨before,after,he⟩ := List.append_of_mem hm
    exact isForbidden_eq_false.mp ((h before seg after he).allowed hd hup c hc)
  · have hin := (h before _ after he).inside rfl
    exact hin.resolve_left fun ht => ha (of_decide_eq_true ht)
  rcases List.eq_nil_or_concat' before with rfl | ⟨front,seg,rfl⟩
  · have hs : ∀ absolute : Bool,(renderPath absolute []).length<emsshSftpMaxPath := by decide
    exact hs _
  rw [append_assoc] at he
  have hf := (h front seg after he).fits
  rwa [segmentsPlace,List.foldl_append]

lemma segmentsPlace_pathSegments (path : Bytes) :
    segmentsPlace (pathSegments path)=pathComponents path := by
  unfold segmentsPlace pathSegments Text.words pathComponents pathWalk
  generalize path.splitOnP (·=47)=segs
  generalize ([] : List Bytes)=place
  induction segs generalizing place with
  | nil => rfl
  | cons seg segs ih =>
    by_cases he : seg=[]
    · rw [he,foldl_cons,pathStep_nil]
      simpa using ih place
    rw [List.filter_cons_of_pos (by simpa using he),foldl_cons,foldl_cons]
    exact ih _

lemma normalizePathView_some (hne : path≠[]) : normalizePathView (some path)=
    match (pathSegments path).foldlM (fun s seg => normalizeSegment (path.head?=some 47) seg s)
      (normalizerStart (path.head?=some 47)) with
    | .error e => .error e
    | .ok s => .ok (if s.hasSegment then s.out
        else if path.head?=some 47 then [47] else [46]) := by
  rcases path with _ | ⟨first,rest⟩
  · exact absurd rfl hne
  unfold normalizePathView
  simp only [Option.getD_some,head?_cons,Option.some.injEq]
  rw [if_neg fun hr => absurd hr.2 (by decide),normalizeLoop_eq_foldlM _ (by simp)]
  have hi : (if first=47 then [47] else [46] : Bytes)=if decide (first=47)=true then [47] else [46] := by
    simp
  rw [hi]
  rfl

lemma pathText_head {names : List Bytes} (hn : ∀ name∈names,CleanName name) :
    (pathText absolute names).head?=some 47 ↔ absolute=true := by
  unfold pathText
  split_ifs with he ha
  · exact iff_of_true rfl ha
  · exact iff_of_false (by decide) ha
  obtain ⟨first,rest,hf,ha⟩ := renderPath_head absolute he hn
  rw [hf,head?_cons,Option.some.injEq,← ha,decide_eq_true_eq]

lemma normalizePathView_accepts :
    (∃ q,normalizePathView (some path)=.ok q) ↔ PathAccepted path := by
  by_cases hne : path=[]
  · refine iff_of_false ?_ fun h => h.nonempty hne
    rintro ⟨q,hq⟩
    rw [hne] at hq
    cases hq
  have hf := foldlM_admits (stacked_start (path.head?=some 47))
    (fun seg (hs : seg∈pathSegments path) => mem_pathSegments hs)
  rw [pathAccepted_iff hne,normalizePathView_some hne]
  refine Iff.trans ?_ hf
  unfold normalizerStart
  cases (pathSegments path).foldlM (fun s seg => normalizeSegment (path.head?=some 47) seg s) _ with
  | error e => exact iff_of_false (fun ⟨q,hq⟩ => by cases hq) fun ⟨t,ht⟩ => by cases ht
  | ok t => exact iff_of_true ⟨_,rfl⟩ ⟨t,rfl⟩

lemma Stacked.length_le (h : Stacked absolute stack s) :
    s.segmentStarts.length=stack.length ∧ stack.length ≤ s.out.length := by
  rw [h.starts,h.out]
  have hc := h.clean
  clear h
  induction stack with
  | nil => exact ⟨rfl,Nat.zero_le _⟩
  | cons top below ih =>
    obtain ⟨ht,hb⟩ := forall_mem_cons.mp hc
    obtain ⟨hst,hl⟩ := ih hb
    obtain ⟨sep,hs⟩ := renderPath_last absolute below.reverse top
    have hp := length_pos_iff.mpr ht.nonempty
    rw [renderStarts,reverse_cons,hs]
    simp only [length_append,length_cons]
    omega

lemma segmentIndex_lt (h : Stacked absolute stack s) {i : Nat}
    (hi : segmentIndex absolute seg s=some i) : i<emsshSftpMaxPath := by
  obtain ⟨hc,hl⟩ := h.length_le
  have hf := h.fits
  unfold segmentIndex at hi
  split_ifs at hi with hd hup hn hb
  · obtain rfl := Option.some.inj hi
    omega
  split at hi
  case _ e hr => cases hi
  case _ t hr =>
    obtain rfl := Option.some.inj hi
    omega

lemma segmentIndices_lt (h : Stacked absolute stack s) (hs : ∀ seg∈segs,seg≠[] ∧ 47∉seg) :
    ∀ i∈segmentIndices absolute segs s,i<emsshSftpMaxPath := by
  induction segs generalizing stack s with
  | nil => exact forall_mem_nil _
  | cons seg segs ih =>
    obtain ⟨⟨hne,hsl⟩,hs⟩ := forall_mem_cons.mp hs
    rw [segmentIndices]
    refine forall_mem_append.mpr ⟨fun i hi => ?_,?_⟩
    · exact segmentIndex_lt h (Option.mem_toList.mp hi)
    split
    case _ e hr => exact forall_mem_nil _
    case _ t hr =>
      obtain ⟨stack',hst,-⟩ := normalizeSegment_stacked h hne hsl hr
      exact ih hst hs

/-- Normalization is canonical: which paths it takes, what it makes of them, and that it leaves
that as it is. -/
theorem normalizePathView_canonical (path : Bytes) :
    ((∃ q,normalizePathView (some path)=.ok q) ↔ PathAccepted path) ∧
    (∀ q,normalizePathView (some path)=.ok q →
      q=pathText (path.head?=some 47) (segmentsPlace (pathSegments path)) ∧
      (∀ name∈segmentsPlace (pathSegments path),CleanName name) ∧
      q.length<emsshSftpMaxPath ∧ (q.head?=some 47 ↔ path.head?=some 47) ∧
      normalizePathView (some q)=.ok q) ∧
    ∀ i∈segmentIndices (path.head?=some 47) (pathSegments path)
      (normalizerStart (path.head?=some 47)),i<emsshSftpMaxPath := by
  refine ⟨normalizePathView_accepts,fun q hq => ?_,?_⟩
  · obtain ⟨p,hp,hne,ht,hc,hl⟩ := normalizePathView_spec hq
    obtain rfl := Option.some.inj hp
    rw [segmentsPlace_pathSegments]
    refine ⟨ht,hc,hl,?_,?_⟩
    · rw [ht,pathText_head hc,decide_eq_true_eq]
    rw [ht] at hl ⊢
    exact normalizePathView_text hc hl
  · exact segmentIndices_lt (stacked_start _) fun seg hs => mem_pathSegments hs

end EMSSHD
