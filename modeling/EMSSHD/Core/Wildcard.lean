import EMSSHD.Core.Userauth.Policy
import EMSSHD.Math.Wildcard

namespace EMSSHD

/-- The matcher of the configuration parser. It has the loop of username_pattern_matches. -/
def patternMatchesWildcards (pattern value : Bytes) : Bool := globLoop (Glob.start pattern value)

def usernamePatternMatchesLocal (pattern username : Bytes) : Bool :=
  globLoop (Glob.start pattern username)

/-- The language of a wildcard pattern: '?' is any byte and '*' any string. -/
def InLanguage (pattern value : Bytes) : Prop := WildMatch 63 42 pattern value

/-- The values in which every '*' of the pattern that meets a '*' stands for just this byte. -/
def StarsLiteral (pattern value : Bytes) : Prop := LiteralFirst 63 42 pattern value

lemma signs_ne : (63 : UInt8)≠42 := by decide

namespace Glob

/-- What is left to match: the rest of the pattern, or what stands behind the last star
anywhere further on in the name. -/
def Means (g : Glob) : Prop :=
  match g.star with
  | none => StarsLiteral g.pattern g.name
  | some (pattern,name) => ∃ k,StarsLiteral pattern (name.drop k)

def Follows (g : Glob) : Prop :=
  ∀ pattern name,g.star=some (pattern,name) → Walks 63 pattern name g.pattern g.name

variable {g : Glob} {c a : UInt8} {p v : Bytes}
variable {name pattern : Bytes}

lemma means_star (h : g.star=some (pattern,name)) :
    g.Means ↔ ∃ k,StarsLiteral pattern (name.drop k) := by
  rw [Means,h]

lemma means_none (h : g.star=none) : g.Means ↔ StarsLiteral g.pattern g.name := by
  rw [Means,h]

lemma Means.rest (hf : g.Follows) (h : g.Means) : ∃ m,StarsLiteral g.pattern (g.name.drop m) := by
  rcases hs : g.star with _ | q
  · exact ⟨0,(means_none hs).mp h⟩
  obtain ⟨k,hk⟩ := (means_star hs).mp h
  exact (hf q.1 q.2 hs).later signs_ne hk

lemma means_of_literal (hf : g.Follows) (h : StarsLiteral g.pattern g.name) : g.Means := by
  cases hs : g.star with
  | none => exact (means_none hs).mpr h
  | some q => exact (means_star hs).mpr ⟨0,((hf q.1 q.2 hs).iff signs_ne).mpr h⟩

lemma follows_start (pattern name : Bytes) : (start pattern name).Follows := by
  intro pattern' name' h
  exact nomatch h

lemma Follows.advance (hf : g.Follows) (hp : g.pattern=c::p) (hn : g.name=a::v)
    (ht : Takes 63 c a) : g.advance.Follows := by
  intro pattern name h
  have hw := hf pattern name h
  rw [hp,hn] at hw
  have hnx := hw.snoc ht
  simp only [Glob.advance,hp,hn,tail_cons]
  exact hnx

lemma means_advance (hp : g.pattern=c::p) (hn : g.name=a::v) (ht : Takes 63 c a) :
    g.advance.Means ↔ g.Means := by
  rcases hs : g.star with _ | q
  · have hnx : g.advance.star=none := hs
    rw [means_none hs,means_none hnx,hp,hn]
    simp only [Glob.advance,hp,hn,tail_cons]
    exact (literalFirst_takes signs_ne ht).symm
  have hnx : g.advance.star=some (q.1,q.2) := hs
  rw [means_star hs,means_star hnx]

lemma follows_enter : g.enter.Follows := by
  intro pattern name h
  obtain ⟨rfl,rfl⟩ := Prod.mk.inj (Option.some.inj h)
  exact .refl _ _

lemma means_enter (hf : g.Follows) (hp : g.pattern=42::p) (hn : g.name=a::v)
    (ha : 42≠a) : g.enter.Means ↔ g.Means := by
  have he : g.enter.star=some (p,a::v) := by simp only [Glob.enter,hp,hn,tail_cons]
  rw [means_star he]
  constructor
  · intro h
    apply means_of_literal hf
    rw [hp,hn]
    exact (literalFirst_many signs_ne ha).mpr h
  intro h
  obtain ⟨m,hm⟩ := h.rest hf
  rw [hp,hn] at hm
  obtain ⟨k,hk⟩ := literalFirst_tail hm
  rw [drop_drop] at hk
  exact ⟨_,hk⟩

lemma follows_retry (pattern name : Bytes) : (retry pattern name).Follows := by
  intro pattern' name' h
  obtain ⟨rfl,rfl⟩ := Prod.mk.inj (Option.some.inj h)
  exact .refl _ _

lemma means_retry (hf : g.Follows) (hs : g.star=some (pattern,name))
    (hno : ¬StarsLiteral g.pattern g.name) : (retry pattern name).Means ↔ g.Means := by
  have hr : (retry pattern name).star=some (pattern,name.tail) := rfl
  rw [means_star hs,means_star hr]
  constructor
  · rintro ⟨k,hk⟩
    rw [List.drop_tail] at hk
    exact ⟨_,hk⟩
  rintro ⟨k,hk⟩
  cases k with
  | zero => exact absurd (((hf pattern name hs).iff signs_ne).mp hk) hno
  | succ k =>
    rw [← List.drop_tail] at hk
    exact ⟨k,hk⟩

lemma not_literal (hn : g.name≠[])
    (ht : ¬(g.pattern≠[] ∧ (g.pattern.headD 0=63 ∨ g.pattern.headD 0=g.name.headD 0)))
    (hm : ¬(g.pattern≠[] ∧ g.pattern.headD 0=42)) : ¬StarsLiteral g.pattern g.name := by
  intro h
  obtain ⟨a,v,hv⟩ := exists_cons_of_ne_nil hn
  rcases hp : g.pattern with _ | ⟨c,p⟩
  · rw [hp,hv] at h
    exact nomatch h
  rw [hp,hv] at h ht
  rw [hp] at hm
  rcases literalFirst_cons h with hc | hc
  · exact ht ⟨cons_ne_nil c p,hc⟩
  · exact hm ⟨cons_ne_nil c p,hc⟩
end Glob

/-- The loop finds what there is to find behind its last star. It never goes back to an
earlier one, and need not: what matches further on there also matches behind the last. -/
theorem globLoop_iff (g : Glob) (hf : g.Follows) : globLoop g=true ↔ g.Means := by
  fun_induction globLoop g with
  | case1 g hn =>
    rw [all_eq_true]
    have he := @literalFirst_end UInt8 63 42 g.pattern
    simp only [decide_eq_true_eq]
    rw [← he]
    constructor
    · intro h
      apply Glob.means_of_literal hf
      rw [hn]
      exact h
    intro h
    obtain ⟨m,hm⟩ := h.rest hf
    rw [hn,List.drop_nil] at hm
    exact hm
  | case2 g hn ht ih =>
    obtain ⟨c,p,hp⟩ := exists_cons_of_ne_nil ht.1
    obtain ⟨a,v,hv⟩ := exists_cons_of_ne_nil hn
    have hca : Takes 63 c a := by
      have h := ht.2
      rw [hp,hv] at h
      exact h
    rw [ih (hf.advance hp hv hca),Glob.means_advance hp hv hca]
  | case3 g hn ht hmn ih =>
    obtain ⟨c,p,hp⟩ := exists_cons_of_ne_nil hmn.1
    obtain ⟨a,v,hv⟩ := exists_cons_of_ne_nil hn
    have hc : c=42 := by
      have h := hmn.2
      rw [hp] at h
      exact h
    have ha : 42≠a := by
      intro ha
      apply ht
      rw [hp,hv,hc,ha]
      exact ⟨cons_ne_nil a p,.inr rfl⟩
    rw [hc] at hp
    rw [ih Glob.follows_enter,Glob.means_enter hf hp hv ha]
  | case4 g hn ht hmn pattern name hs ih =>
    rw [ih (Glob.follows_retry pattern name),Glob.means_retry hf hs (Glob.not_literal hn ht hmn)]
  | case5 g hn ht hmn hs =>
    rw [Glob.means_none hs]
    exact iff_of_false (by decide) (Glob.not_literal hn ht hmn)

lemma globLoop_start (pattern value : Bytes) :
    globLoop (Glob.start pattern value)=true ↔ StarsLiteral pattern value :=
  globLoop_iff _ (Glob.follows_start pattern value)

/-- The matcher agrees with the language exactly where a value of the language can be read
with every star that meets a star as this byte. -/
theorem globLoop_language_iff (pattern value : Bytes) :
    (globLoop (Glob.start pattern value)=true ↔ InLanguage pattern value) ↔
      (InLanguage pattern value → StarsLiteral pattern value) := by
  rw [globLoop_start]
  constructor
  · intro h
    exact h.mpr
  intro h
  exact ⟨LiteralFirst.wildMatch,h⟩

/-- Each of the three matchers, on every pattern and every value. -/
theorem wildcards_match_iff (pattern value : Bytes) :
    ((patternMatchesWildcards pattern value=true ↔ InLanguage pattern value) ↔
      (InLanguage pattern value → StarsLiteral pattern value)) ∧
    ((usernamePatternMatches pattern value=true ↔ InLanguage pattern value) ↔
      (InLanguage pattern value → StarsLiteral pattern value)) ∧
    ((usernamePatternMatchesLocal pattern value=true ↔ InLanguage pattern value) ↔
      (InLanguage pattern value → StarsLiteral pattern value)) :=
  ⟨globLoop_language_iff pattern value,globLoop_language_iff pattern value,
    globLoop_language_iff pattern value⟩

/-- The pattern *a and the value *ba: the star takes the star and is not tried again. -/
theorem star_met_by_star : InLanguage [42,97] [42,98,97] ∧
    patternMatchesWildcards [42,97] [42,98,97]=false ∧
    usernamePatternMatches [42,97] [42,98,97]=false ∧
    usernamePatternMatchesLocal [42,97] [42,98,97]=false := by
  have hin : InLanguage [42,97] [42,98,97] := .many [42,98] (.letter (by decide) (by decide) .nil)
  have hn : ¬StarsLiteral [42,97] [42,98,97] := by
    intro h
    cases h with
    | letter rest => rcases literalFirst_cons rest with (h | h) | h <;> exact absurd h (by decide)
    | many other k rest => exact absurd rfl other
  have hf : globLoop (Glob.start [42,97] [42,98,97])=false :=
    Bool.eq_false_iff.mpr fun h => hn ((globLoop_start _ _).mp h)
  exact ⟨hin,hf,hf,hf⟩

end EMSSHD
