import EMSSHD.Math.Path
import EMSSHD.Platform.TextFile

namespace EMSSHD

def emsshStdioFsMaxPath : Nat := 512

/-- ssh_stdio_fs_t, as ssh_stdio_fs_init leaves it. -/
structure StdioFs where
  root : Bytes
  root_nonempty : root≠[]
  root_noNul : 0∉root
  root_fits : root.length<emsshStdioFsMaxPath

def isSeparator (c : UInt8) : Bool := c=47 || c=92

/-- The loop of path_is_safe. -/
def safeLoop : (segmentStart : Bool) → Bytes → Bool
  | _,[] => true
  | segmentStart,c::rest =>
    if c=92 then false
    else if segmentStart ∧ c=46 ∧ rest.head?=some 46 ∧
        (rest.tail.head?=none ∨ rest.tail.head?=some 47) then false
    else safeLoop (c=47) rest

def pathIsSafe (path : Bytes) : Bool :=
  path≠[] && path.head?≠some 92 && 58∉path && safeLoop true path

def needsSep (root relative : Bytes) : Bool :=
  root≠[] && relative≠[] && root.getLast?≠some 47 && root.getLast?≠some 92

def joinRoot (root relative : Bytes) : Bytes :=
  root++(if needsSep root relative then [47] else [])++relative

def resolvePath (fs : StdioFs) (path : Bytes) : Except Err Bytes :=
  if !pathIsSafe (cString path) then .error .invalidArgument
  else
    let relative := (cString path).dropWhile (·=47)
    let out := joinRoot fs.root (if relative=[] ∨ relative=[46] then [] else relative)
    if emsshStdioFsMaxPath≤out.length then .error .bufferTooSmall else .ok out

variable {names : List Bytes} {name rest : Bytes}
variable {c : UInt8} {isSep : UInt8 → Bool}

lemma isSeparator_eq_false (h : isSeparator c=false) : c≠47 ∧ c≠92 := by
  simpa [isSeparator] using h

lemma safeLoop_cons {segmentStart : Bool} (hc : c≠47 ∧ c≠92)
    (hup : ¬(segmentStart ∧ c=46 ∧ rest.head?=some 46 ∧
      (rest.tail.head?=none ∨ rest.tail.head?=some 47))) :
    safeLoop segmentStart (c::rest)=safeLoop false rest := by
  rw [safeLoop,if_neg hc.2,if_neg hup,decide_eq_false hc.1]

lemma safeLoop_inside (hn : ∀ c∈name,isSeparator c=false) :
    safeLoop false (name++rest)=safeLoop false rest := by
  induction name with
  | nil => rfl
  | cons c name ih =>
    obtain ⟨hc,hm⟩ := forall_mem_cons.mp hn
    rw [cons_append,safeLoop_cons (isSeparator_eq_false hc) (by simp)]
    exact ih hm

lemma safeLoop_name (hn : PathName isSeparator 46 name)
    (hr : ∀ c,rest.head?=some c → c=47) : safeLoop true (name++rest)=safeLoop false rest := by
  rcases name with _ | ⟨c,name⟩
  · exact absurd rfl hn.nonempty
  obtain ⟨hc,hm⟩ := forall_mem_cons.mp hn.no_sep
  have hup : ¬(true ∧ c=46 ∧ (name++rest).head?=some 46 ∧
      ((name++rest).tail.head?=none ∨ (name++rest).tail.head?=some 47)) := by
    intro ⟨_,hdt,hs,ht⟩
    rcases name with _ | ⟨d,name⟩
    · exact absurd (hr 46 hs) (by decide)
    have hd : d=46 := Option.some.inj hs
    rcases name with _ | ⟨e,name⟩
    · exact hn.not_up (by rw [hdt,hd])
    have he := isSeparator_eq_false (hm e (by simp))
    exact ht.elim nofun fun h => he.1 (Option.some.inj h)
  rw [cons_append,safeLoop_cons (isSeparator_eq_false hc) (by simpa using hup)]
  exact safeLoop_inside hm

lemma safeLoop_intercalate (hnm : ∀ name∈names,PathName isSeparator 46 name) :
    safeLoop true ([47].intercalate names)=true := by
  induction names with
  | nil => rfl
  | cons name names ih =>
    obtain ⟨hn,hm⟩ := forall_mem_cons.mp hnm
    rw [intercalate_cons_eq]
    split_ifs with hl
    · have he : safeLoop true (name++[])=safeLoop false [] := safeLoop_name hn nofun
      rw [he]
      rfl
    have hnx : safeLoop true (name++47::[47].intercalate names)=
        safeLoop true ([47].intercalate names) :=
      safeLoop_name hn fun c hc => (Option.some.inj hc).symm
    rw [hnx]
    exact ih hm

/-- Names behind a root lead down from where the root leads to, for a system that takes the
end of the root for a separator as the adapter does. -/
theorem pathWalk_joinRoot (hs : isSep 47=true) {root : Bytes}
    (hr : root.getLast?=some 92 → isSep 92=true) (hnm : ∀ name∈names,PathName isSep 46 name)
    (place : List Bytes) :
    pathWalk isSep 46 place (joinRoot root ([47].intercalate names))=
      pathWalk isSep 46 place root++names := by
  have hw (place : List Bytes) : pathWalk isSep 46 place ([47].intercalate names)=place++names :=
    pathWalk_intercalate hs hnm
  by_cases he : [47].intercalate names=[]
  · have hn := hw []
    rw [he,pathWalk_nil,nil_append] at hn
    simp [joinRoot,needsSep,← hn]
  cases root using List.reverseRecOn with
  | nil =>
    rw [pathWalk_nil,← hw]
    rfl
  | append_singleton front c _ =>
    rw [List.getLast?_concat] at hr
    unfold joinRoot
    by_cases hc : c=47 ∨ c=92
    · have hsp : isSep c=true := hc.elim (fun h => h ▸ hs) fun h => h ▸ hr (h ▸ rfl)
      have hj : needsSep (front++[c]) ([47].intercalate names)=false := by
        cases hc <;> simp [needsSep, *]
      rw [hj,if_neg Bool.false_ne_true,pathWalk_append_sep hsp,pathWalk_nil,append_nil,append_assoc,
        singleton_append,pathWalk_append_sep hsp,hw]
    obtain ⟨hsl,hb⟩ := not_or.mp hc
    have hj : needsSep (front++[c]) ([47].intercalate names)=true := by simp [needsSep,hsl,hb,he]
    rw [hj,if_pos rfl,append_assoc _ [47],singleton_append,pathWalk_append_sep hs,hw]

end EMSSHD
