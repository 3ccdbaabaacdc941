import Mathlib.Tactic

namespace EMSSHD

open List

variable {α : Type}

lemma intercalate_cons_eq (sep : α) (name : List α) (names : List (List α)) :
    [sep].intercalate (name::names)=
      name++(if names=[] then [] else sep::[sep].intercalate names) := by
  cases names with
  | nil => simp
  | cons next names =>
    rw [intercalate_cons_cons,if_neg (cons_ne_nil _ _),append_assoc,singleton_append]

lemma intercalate_concat (sep : List α) {names : List (List α)} (h : names≠[]) (name : List α) :
    sep.intercalate (names++[name])=sep.intercalate names++sep++name := by
  induction names with
  | nil => exact absurd rfl h
  | cons first names ih =>
    rcases names with _ | ⟨next,names⟩
    · rw [singleton_append,intercalate_cons_cons,intercalate_singleton,intercalate_singleton]
    have hr := ih (cons_ne_nil next names)
    rw [cons_append] at hr
    rw [cons_append,cons_append,intercalate_cons_cons,hr,intercalate_cons_cons]
    simp only [append_assoc]

variable {α : Type} [DecidableEq α] (isSep : α → Bool) (dot : α)

/-- One component of a path, read from the place that a list of names leads to: nothing and a
dot stay there, two dots go up, and everything else is a name. -/
def pathStep (place : List (List α)) (component : List α) : List (List α) :=
  if component=[] ∨ component=[dot] then place
  else if component=[dot,dot] then place.dropLast
  else place++[component]

def pathWalk (place : List (List α)) (text : List α) : List (List α) :=
  (text.splitOnP isSep).foldl (pathStep dot) place

/-- A component that is a name. -/
structure PathName (component : List α) : Prop where
  nonempty : component≠[]
  not_dot : component≠[dot]
  not_up : component≠[dot,dot]
  no_sep : ∀ c∈component,isSep c=false

variable {isSep dot} {place : List (List α)}

lemma pathStep_nil : pathStep dot place []=place := if_pos (.inl rfl)

lemma PathName.step {name : List α} (h : PathName isSep dot name) :
    pathStep dot place name=place++[name] := by
  unfold pathStep
  rw [if_neg (not_or.mpr ⟨h.nonempty,h.not_dot⟩),if_neg h.not_up]

lemma pathWalk_nil : pathWalk isSep dot place []=place := by
  unfold pathWalk
  rw [List.splitOnP_nil,foldl_cons,foldl_nil,pathStep_nil]

variable {sep : α} {component : List α}

lemma pathWalk_append_sep (hs : isSep sep=true) (front back : List α) :
    pathWalk isSep dot place (front++sep::back)=
      pathWalk isSep dot (pathWalk isSep dot place front) back := by
  unfold pathWalk
  rw [List.splitOnP_append_cons front back hs,foldl_append]

lemma pathWalk_sep (hs : isSep sep=true) (text : List α) :
    pathWalk isSep dot place (sep::text)=pathWalk isSep dot place text := by
  have h : pathWalk isSep dot place ([]++sep::text)=
      pathWalk isSep dot (pathWalk isSep dot place []) text := pathWalk_append_sep hs [] text
  rw [pathWalk_nil] at h
  exact h

lemma pathWalk_component (h : ∀ c∈component,isSep c=false) :
    pathWalk isSep dot place component=pathStep dot place component := by
  unfold pathWalk
  rw [List.splitOnP_eq_singleton h]
  rfl

lemma pathWalk_component_append {rest : List α} (h : ∀ c∈component,isSep c=false)
    (hr : ∀ c,rest.head?=some c → isSep c=true) :
    pathWalk isSep dot place (component++rest)=
      pathWalk isSep dot (pathStep dot place component) rest := by
  rcases rest with _ | ⟨c,rest⟩
  · rw [append_nil,pathWalk_component h,pathWalk_nil]
  have hc := hr c rfl
  rw [pathWalk_append_sep hc,pathWalk_component h,pathWalk_sep hc]

lemma pathWalk_dropWhile (text : List α) :
    pathWalk isSep dot place (text.dropWhile isSep)=pathWalk isSep dot place text := by
  induction text with
  | nil => rfl
  | cons c text ih =>
    by_cases hc : isSep c=true
    · rw [List.dropWhile_cons_of_pos hc,ih,pathWalk_sep hc]
    · rw [List.dropWhile_cons_of_neg hc]

lemma pathWalk_intercalate (hsp : isSep sep=true) {names : List (List α)}
    (h : ∀ name∈names,PathName isSep dot name) :
    pathWalk isSep dot place ([sep].intercalate names)=place++names := by
  induction names generalizing place with
  | nil => rw [intercalate_nil,pathWalk_nil,append_nil]
  | cons name names ih =>
    obtain ⟨hn,hnm⟩ := forall_mem_cons.mp h
    have hs : pathStep dot place name=place++[name] := hn.step
    rw [intercalate_cons_eq]
    split_ifs with hl
    · rw [append_nil,pathWalk_component hn.no_sep,hs,hl]
    rw [pathWalk_append_sep hsp,pathWalk_component hn.no_sep,hs,ih hnm,append_assoc,
      singleton_append]

end EMSSHD
