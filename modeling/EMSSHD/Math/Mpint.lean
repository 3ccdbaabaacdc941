import EMSSHD.Math.Bytes

namespace EMSSHD

def significant (data : Bytes) : Bytes := data.dropWhile (·=0)

/-- The multiple precision integer of RFC 4251 for a natural number: its bytes from the most
significant one on, where the first byte does not have its top bit set and is zero only to
keep the top bit of the next one out. -/
structure IsMpint (m : Bytes) (n : Nat) : Prop where
  value : beValue m=n
  positive : ∀ first rest,m=first::rest → first<128
  minimal : ∀ rest,m=0::rest → ∃ next later,rest=next::later ∧ 128≤next

def mpintOf (data : Bytes) : Bytes :=
  match significant data with
  | [] => []
  | first::rest => if 128≤first then 0::first::rest else first::rest

section
lemma beValue_zero_cons (data : Bytes) : beValue (0::data)=beValue data := by
  simp [beValue_cons]

lemma beValue_significant (data : Bytes) : beValue (significant data)=beValue data := by
  induction data with
  | nil => rfl
  | cons b bs ih =>
    by_cases hb : b=0
    · have hd : significant (b::bs)=significant bs := by simp [significant,hb]
      rw [hd,ih,hb,beValue_zero_cons]
    have hk : significant (b::bs)=b::bs := by simp [significant,hb]
    rw [hk]

variable {first : UInt8} {a b : Bytes}

lemma significant_head {data rest : Bytes} (h : significant data=first::rest) : first≠0 := by
  have hh := List.head?_dropWhile_not (·=(0 : UInt8)) data
  rw [show data.dropWhile (·=0)=first::rest from h] at hh
  simpa using hh

lemma beValue_ge (rest : Bytes) (h : first≠0) : 256^rest.length≤beValue (first::rest) := by
  have hp : 0<first.toNat := by
    rw [Nat.pos_iff_ne_zero]
    intro hz
    exact h (UInt8.toNat.inj hz)
  rw [beValue_cons]
  calc 256^rest.length=1*256^rest.length := (Nat.one_mul _).symm
    _≤first.toNat*256^rest.length := Nat.mul_le_mul_right _ hp
    _≤first.toNat*256^rest.length+beValue rest := Nat.le_add_right _ _

private lemma significant_length_le (h : beValue a=beValue b) :
    (significant a).length≤(significant b).length := by
  by_contra hlt
  rcases ha : significant a with _ | ⟨first,rest⟩
  · rw [ha] at hlt
    exact hlt (Nat.zero_le _)
  have hge := beValue_ge rest (significant_head ha)
  rw [← ha,beValue_significant,h,← beValue_significant b] at hge
  have hl := beValue_lt (significant b)
  rw [ha,length_cons] at hlt
  have hp : 256^(significant b).length≤256^rest.length :=
    Nat.pow_le_pow_right (by decide) (by omega)
  omega

lemma significant_congr (h : beValue a=beValue b) : significant a=significant b := by
  have hl : (significant a).length=(significant b).length :=
    Nat.le_antisymm (significant_length_le h) (significant_length_le h.symm)
  rw [← beBytes_beValue (significant a),← beBytes_beValue (significant b),hl,beValue_significant,
    beValue_significant,h]
end

lemma mpintOf_congr {a b : Bytes} (h : beValue a=beValue b) : mpintOf a=mpintOf b := by
  rw [mpintOf,mpintOf,significant_congr h]

variable {data m : Bytes}

lemma mpintOf_zero (h : beValue data=0) : mpintOf data=[] :=
  mpintOf_congr (b := []) h

lemma mpintOf_isMpint (data : Bytes) : IsMpint (mpintOf data) (beValue data) := by
  have hv := beValue_significant data
  unfold mpintOf
  cases hd : significant data with
  | nil =>
    rw [hd] at hv
    refine ⟨hv,?_,?_⟩
    · intro first rest h
      cases h
    intro rest h
    cases h
  | cons first rest =>
    have hn := significant_head hd
    rw [hd] at hv
    by_cases ht : 128≤first
    · simp only [if_pos ht]
      refine ⟨(beValue_zero_cons _).trans hv,?_,?_⟩
      · intro b bs h
        cases h
        decide
      intro bs h
      cases h
      exact ⟨first,rest,rfl,ht⟩
    simp only [if_neg ht]
    refine ⟨hv,?_,?_⟩
    · intro b bs h
      cases h
      exact UInt8.not_le.mp ht
    intro bs h
    cases h
    exact absurd rfl hn

lemma IsMpint.mpintOf_self {n : Nat} (h : IsMpint m n) : mpintOf m=m := by
  rcases m with _ | ⟨first,rest⟩
  · rfl
  by_cases hz : first=0
  · subst hz
    obtain ⟨next,later,rfl,ht⟩ := h.minimal rest rfl
    have hn : next≠0 := by
      intro hno
      rw [hno] at ht
      exact absurd ht (by decide)
    have hd : significant (0::next::later)=next::later := by simp [significant,hn]
    simp only [mpintOf,hd,if_pos ht]
  have hd : significant (first::rest)=first::rest := by simp [significant,hz]
  have ht : ¬128≤first := UInt8.not_le.mpr (h.positive first rest rfl)
  simp only [mpintOf,hd,if_neg ht]

lemma IsMpint.unique (h : IsMpint m (beValue data)) : m=mpintOf data := by
  rw [← h.mpintOf_self]
  exact mpintOf_congr h.value

end EMSSHD
