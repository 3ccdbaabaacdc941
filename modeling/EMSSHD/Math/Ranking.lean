import Mathlib.Data.List.Basic

/-! Lists as rankings: which element that is in two lists comes first. -/

namespace EMSSHD.Ranking

variable {α : Type}

def Apart (xs ys : List α) : Prop := ∀ x∈xs,x∉ys

variable {xs ys : List α} {a : α}

lemma Apart.symm (h : Apart xs ys) : Apart ys xs :=
  fun y hy hx => h y hx hy

variable [DecidableEq α]

def firstCommon (xs ys : List α) : Option α := xs.find? (·∈ys)

instance (xs ys : List α) : Decidable (Apart xs ys) :=
  inferInstanceAs (Decidable (∀ x∈xs,x∉ys))

/-- Some common element comes before every other common element in both lists. -/
def AgreeOnTop (xs ys : List α) : Prop :=
  ∃ top∈xs,top∈ys ∧ ∀ x∈xs,x∈ys → xs.idxOf top≤xs.idxOf x ∧ ys.idxOf top≤ys.idxOf x

instance (xs ys : List α) : Decidable (AgreeOnTop xs ys) :=
  inferInstanceAs (Decidable (∃ top∈xs,top∈ys ∧ ∀ x∈xs,x∈ys →
    xs.idxOf top≤xs.idxOf x ∧ ys.idxOf top≤ys.idxOf x))

lemma firstCommon_eq_none : firstCommon xs ys=none ↔ Apart xs ys := by
  simp [firstCommon,Apart]

lemma idxOf_find_le {p : α → Bool} {x : α} (h : xs.find? p=some a) (hx : x∈xs) (hp : p x=true) :
    xs.idxOf a≤xs.idxOf x := by
  induction xs with
  | nil => cases hx
  | cons y ys ih =>
    by_cases hy : p y=true
    · rw [List.find?_cons_of_pos hy] at h
      rw [← Option.some.inj h,List.idxOf_cons_self]
      exact Nat.zero_le _
    rw [List.find?_cons_of_neg hy] at h
    have hxy : y≠x := fun hyx => hy (hyx ▸ hp)
    have hay : y≠a := fun hya => hy (hya ▸ List.find?_some h)
    have hm : x∈ys := (List.mem_cons.mp hx).resolve_left hxy.symm
    rw [List.idxOf_cons_ne ys hay,List.idxOf_cons_ne ys hxy]
    exact Nat.succ_le_succ (ih h hm)

lemma firstCommon_mem (h : firstCommon xs ys=some a) : a∈xs ∧ a∈ys :=
  ⟨List.mem_of_find?_eq_some h,by simpa using List.find?_some h⟩

lemma firstCommon_comm_iff (h : ¬Apart xs ys) :
    firstCommon ys xs=firstCommon xs ys ↔ AgreeOnTop xs ys := by
  obtain ⟨a,ha⟩ := Option.ne_none_iff_exists'.mp (mt firstCommon_eq_none.mp h)
  obtain ⟨b,hb⟩ := Option.ne_none_iff_exists'.mp (mt firstCommon_eq_none.mp (mt Apart.symm h))
  obtain ⟨hax,hay⟩ := firstCommon_mem ha
  obtain ⟨hby,hbx⟩ := firstCommon_mem hb
  rw [ha,hb]
  refine ⟨fun hab => ?_,fun ht => ?_⟩
  · refine ⟨a,hax,hay,fun x hx hy => ⟨?_,?_⟩⟩
    · exact idxOf_find_le ha hx (by simpa using hy)
    rw [← Option.some.inj hab]
    exact idxOf_find_le hb hy (by simpa using hx)
  obtain ⟨top,htx,hty,hf⟩ := ht
  have hat : xs.idxOf a≤xs.idxOf top := idxOf_find_le ha htx (by simpa using hty)
  have hbt : ys.idxOf b≤ys.idxOf top := idxOf_find_le hb hty (by simpa using htx)
  have ha' : a=top := (List.idxOf_inj hax).mp (Nat.le_antisymm hat (hf a hax hay).1)
  have hb' : b=top := (List.idxOf_inj hby).mp (Nat.le_antisymm hbt (hf b hbx hby).2)
  rw [ha',hb']

end EMSSHD.Ranking
