import Mathlib.Tactic

namespace EMSSHD

/-- What an event means for the handles of a resource manager. A handle is opened as
something of K and closed as something of C. -/
inductive HandleStep (H K C : Type) where
  | opened (handle : H) (as : K)
  | used (handle : H)
  | closed (handle : H) (as : C)
  | other
  deriving DecidableEq

namespace HandleStep
variable {H K C : Type} [DecidableEq H] {kindOf : K → C}

def after (live : H → Option K) : HandleStep H K C → H → Option K
  | opened h k => Function.update live h (some k)
  | closed h _ => Function.update live h none
  | _ => live

def afterAll (live : H → Option K) (steps : List (HandleStep H K C)) : H → Option K :=
  steps.foldl after live

def FreshIn (live : H → Option K) : HandleStep H K C → Prop
  | opened h _ => live h=none
  | _ => True

/-- Only open handles are used, and they are closed as what they were opened as. -/
def AllowedIn (kindOf : K → C) (live : H → Option K) : HandleStep H K C → Prop
  | used h => live h≠none
  | closed h c => ∃ k,live h=some k ∧ kindOf k=c
  | _ => True

def Fresh : (H → Option K) → List (HandleStep H K C) → Prop
  | _,[] => True
  | live,step::rest => step.FreshIn live ∧ Fresh (step.after live) rest

def Obeys (kindOf : K → C) : (H → Option K) → List (HandleStep H K C) → Prop
  | _,[] => True
  | live,step::rest => step.AllowedIn kindOf live ∧ Obeys kindOf (step.after live) rest

def Touches (h : H) : HandleStep H K C → Prop
  | used h' => h'=h
  | closed h' _ => h'=h
  | _ => False

def Silent (h : H) (steps : List (HandleStep H K C)) : Prop :=
  ∀ before step later,steps=before++step::later → step.Touches h → ∃ k,opened h k∈before

/-- The first close of a handle is of the right kind, and it is the last thing that is
done with the handle. -/
def ClosedOnce (h : H) (c : C) (steps : List (HandleStep H K C)) : Prop :=
  ∃ before later,steps=before++closed h c::later ∧
    (∀ k,opened h k∉before) ∧ (∀ c',closed h c'∉before) ∧ Silent h later

section
variable {live : H → Option K} {step : HandleStep H K C} {first second : List (HandleStep H K C)}

lemma afterAll_append : afterAll live (first++second)=afterAll (afterAll live first) second :=
  List.foldl_append

lemma fresh_append : Fresh live (first++second) ↔
    Fresh live first ∧ Fresh (afterAll live first) second := by
  induction first generalizing live with
  | nil => simp [Fresh,afterAll]
  | cons step rest ih =>
    rw [List.cons_append,Fresh,Fresh,ih,and_assoc]
    rfl

lemma obeys_append : Obeys kindOf live (first++second) ↔
    Obeys kindOf live first ∧ Obeys kindOf (afterAll live first) second := by
  induction first generalizing live with
  | nil => simp [Obeys,afterAll]
  | cons step rest ih =>
    rw [List.cons_append,Obeys,Obeys,ih,and_assoc]
    rfl

variable {h : H} {steps : List (HandleStep H K C)}

lemma after_of_dead (hd : live h=none) (hs : ∀ k,step≠opened h k) : step.after live h=none := by
  cases step with
  | opened h' k =>
    have hne : h≠h' := fun heq => hs k (by rw [heq])
    exact (Function.update_of_ne hne _ _).trans hd
  | used | other => exact hd
  | closed h' c =>
    by_cases heq : h=h'
    · rw [heq]
      exact Function.update_self h' _ _
    · exact (Function.update_of_ne heq _ _).trans hd

lemma after_of_live {k : K} (hl : live h=some k) (ho : step.FreshIn live)
    (hc : ∀ c,step≠closed h c) : step.after live h=some k := by
  cases step with
  | opened h' k' =>
    have hne : h≠h' := by
      rintro rfl
      exact nomatch hl.symm.trans ho
    exact (Function.update_of_ne hne _ _).trans hl
  | used | other => exact hl
  | closed h' c =>
    have hne : h≠h' := fun heq => hc c (by rw [heq])
    exact (Function.update_of_ne hne _ _).trans hl

omit [DecidableEq H] in
lemma AllowedIn.of_dead (hd : live h=none) (ha : step.AllowedIn kindOf live) : ¬step.Touches h := by
  intro ht
  cases step with
  | opened | other => exact ht
  | used h' =>
    have heq : h'=h := ht
    subst heq
    exact ha hd
  | closed h' c =>
    have heq : h'=h := ht
    subst heq
    obtain ⟨k,hk,-⟩ := ha
    exact nomatch hd.symm.trans hk

def OnlyUses (live : H → Option K) (steps : List (HandleStep H K C)) : Prop :=
  ∀ step∈steps,step=other ∨ ∃ h,step=used h ∧ live h≠none

lemma OnlyUses.afterAll (hq : OnlyUses live steps) : afterAll live steps=live := by
  induction steps with
  | nil => rfl
  | cons step rest ih =>
    have hr := ih fun s hs => hq s (List.mem_cons_of_mem step hs)
    rcases hq step List.mem_cons_self with rfl | ⟨h,rfl,-⟩
    · exact hr
    · exact hr

lemma OnlyUses.obeys (hq : OnlyUses live steps) : Obeys kindOf live steps := by
  induction steps with
  | nil => exact trivial
  | cons step rest ih =>
    have hr := ih fun s hs => hq s (List.mem_cons_of_mem step hs)
    rcases hq step List.mem_cons_self with rfl | ⟨h,rfl,hl⟩
    · exact ⟨trivial,hr⟩
    · exact ⟨hl,hr⟩
end

variable {live : H → Option K} {steps : List (HandleStep H K C)} {h : H} {k : K}

lemma silent_of_dead (hd : live h=none) (hob : Obeys kindOf live steps) : Silent h steps := by
  intro before
  induction before generalizing live steps with
  | nil =>
    intro step later hs ht
    subst hs
    exact absurd ht (AllowedIn.of_dead hd hob.1)
  | cons first before ih =>
    intro step later hs ht
    subst hs
    by_cases ho : ∃ k,first=opened h k
    · obtain ⟨k,rfl⟩ := ho
      exact ⟨k,List.mem_cons_self⟩
    push Not at ho
    obtain ⟨k,hk⟩ := ih (after_of_dead hd ho) hob.2 step later rfl ht
    exact ⟨k,List.mem_cons_of_mem first hk⟩

lemma closedOnce_of_live (hl : live h=some k) (hf : Fresh live steps)
    (ho : Obeys kindOf live steps) (he : afterAll live steps h=none) :
    ClosedOnce h (kindOf k) steps := by
  induction steps generalizing live with
  | nil => exact nomatch hl.symm.trans he
  | cons step rest ih =>
    by_cases hcl : ∃ c,step=closed h c
    · obtain ⟨c,rfl⟩ := hcl
      obtain ⟨k',hk',hc⟩ := ho.1
      have hk : k'=k := Option.some.inj (hk'.symm.trans hl)
      subst hk
      refine ⟨[],rest,?_,by simp,by simp,?_⟩
      · rw [hc]
        rfl
      · exact silent_of_dead (Function.update_self h none live) ho.2
    push Not at hcl
    have hn := after_of_live hl hf.1 hcl
    obtain ⟨before,later,hr,hon,hcs,hs⟩ := ih hn hf.2 ho.2 he
    refine ⟨step::before,later,by rw [hr]; rfl,?_,?_,hs⟩
    · intro k' hm
      rcases List.mem_cons.mp hm with heq | hm
      · have hd : live h=none := by
          have hop := hf.1
          rw [← heq] at hop
          exact hop
        exact nomatch hl.symm.trans hd
      · exact hon k' hm
    intro c' hm
    rcases List.mem_cons.mp hm with heq | hm
    · exact hcl c' heq.symm
    · exact hcs c' hm

/-- In an obedient history at whose end nothing is open, every handle is closed once for
each time that it was opened. -/
theorem closedOnce {before later : List (HandleStep H K C)} (hfr : Fresh (fun _ => none) steps)
    (hob : Obeys kindOf (fun _ => none) steps) (he : afterAll (fun _ => none) steps h=none)
    (hs : steps=before++opened h k::later) : ClosedOnce h (kindOf k) later := by
  subst hs
  have hf := (fresh_append.mp hfr).2.2
  have ho := (obeys_append.mp hob).2.2
  rw [afterAll_append] at he
  have hl : (opened h k : HandleStep H K C).after (afterAll (fun _ => none) before) h=some k := by
    simp [after]
  exact closedOnce_of_live hl hf ho he
end HandleStep

end EMSSHD
