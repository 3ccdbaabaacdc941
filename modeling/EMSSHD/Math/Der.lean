import EMSSHD.Math.Mpint

namespace EMSSHD.Der

/-- The octets of a length: one of them for a length below 128, and otherwise their number and the
length without zeros in front. -/
inductive IsLength : Bytes → Nat → Prop
  | short {len : Nat} : len<128 → IsLength [UInt8.ofNat len] len
  | long {first : UInt8} {rest : Bytes} : first≠0 → rest.length<126 → 128≤beValue (first::rest) →
      IsLength (UInt8.ofNat (128+(first::rest).length)::first::rest) (beValue (first::rest))

/-- The contents of an INTEGER that is not negative, in as few octets as two's complement takes. -/
structure IsNatural (contents : Bytes) (n : Nat) : Prop where
  value : beValue contents=n
  nonempty : contents≠[]
  nonneg : ∀ first rest,contents=first::rest → first<128
  minimal : ∀ next later,contents=0::next::later → 128≤next

def IsInteger (encoding : Bytes) (n : Nat) : Prop :=
  ∃ octets contents,encoding=2::(octets++contents) ∧ IsLength octets contents.length ∧
    IsNatural contents n

def IsSequence (encoding : Bytes) (items : List Bytes) : Prop :=
  ∃ octets,encoding=48::(octets++items.flatten) ∧ IsLength octets items.flatten.length

def IsIntegers (encoding : Bytes) (ns : List Nat) : Prop :=
  ∃ items,IsSequence encoding items ∧ List.Forall₂ IsInteger items ns

section
variable {first : UInt8} {len n : Nat}

lemma significant_cons (rest : Bytes) (h : first≠0) : significant (first::rest)=first::rest := by
  simp [significant,h]

def natBytes (n : Nat) : Bytes :=
  if n=0 then [] else natBytes (n/256)++[UInt8.ofNat n]
decreasing_by
  exact Nat.div_lt_self (by omega) (by decide)

lemma natBytes_of_pos (h : n≠0) : natBytes n=natBytes (n/256)++[UInt8.ofNat n] := by
  rw [natBytes,if_neg h]

lemma beValue_snoc (l : Bytes) (b : UInt8) : beValue (l++[b])=256*beValue l+b.toNat := by
  simp [beValue]

lemma beValue_natBytes (n : Nat) : beValue (natBytes n)=n := by
  induction n using Nat.strong_induction_on with
  | _ n ih =>
    by_cases hn : n=0
    · rw [hn,natBytes,if_pos rfl]
      rfl
    have hl : (UInt8.ofNat n).toNat=n%256 := UInt8.toNat_ofNat'
    rw [natBytes_of_pos hn,beValue_snoc,ih _ (Nat.div_lt_self (by omega) (by decide)),hl]
    omega

lemma natBytes_head {rest : Bytes} (h : natBytes n=first::rest) : first≠0 := by
  induction n using Nat.strong_induction_on generalizing first rest with
  | _ n ih =>
    by_cases hn : n=0
    · rw [hn,natBytes,if_pos rfl] at h
      cases h
    rw [natBytes_of_pos hn] at h
    cases hd : natBytes (n/256) with
    | nil =>
      have hs := beValue_natBytes (n/256)
      rw [hd] at hs
      have hz : n/256=0 := hs.symm
      rw [hd,nil_append] at h
      rw [← (List.cons.inj h).1]
      intro hno
      have hl := congrArg UInt8.toNat hno
      rw [UInt8.toNat_ofNat'] at hl
      change n%256=0 at hl
      omega
    | cons b bs =>
      rw [hd,cons_append] at h
      rw [← (List.cons.inj h).1]
      exact ih _ (Nat.div_lt_self (by omega) (by decide)) hd

lemma length_natBytes_le {k : Nat} (h : n<256^k) : (natBytes n).length≤k := by
  rcases hd : natBytes n with _ | ⟨first,rest⟩
  · exact Nat.zero_le _
  have hge := beValue_ge rest (natBytes_head hd)
  rw [← hd,beValue_natBytes] at hge
  have hlt := (Nat.pow_lt_pow_iff_right (show 1<256 by decide)).mp (Nat.lt_of_le_of_lt hge h)
  exact hlt

def lengthOctets (len : Nat) : Bytes :=
  if len<128 then [UInt8.ofNat len]
  else UInt8.ofNat (128+(natBytes len).length)::natBytes len

lemma isLength_lengthOctets (h : len<256^126) : IsLength (lengthOctets len) len := by
  unfold lengthOctets
  split_ifs with hs
  · exact .short hs
  rcases hd : natBytes len with _ | ⟨first,rest⟩
  · have hv := beValue_natBytes len
    rw [hd] at hv
    have hz : len=0 := hv.symm
    omega
  have hv := beValue_natBytes len
  have hl := length_natBytes_le h
  rw [hd] at hv hl
  have hln := IsLength.long (natBytes_head hd) (Nat.lt_of_succ_le hl) (hv.symm ▸ Nat.not_lt.mp hs)
  rwa [hv] at hln

lemma IsLength.eq_lengthOctets {octets : Bytes} (h : IsLength octets len) :
    octets=lengthOctets len := by
  unfold lengthOctets
  cases h with
  | short hs => rw [if_pos hs]
  | @long first rest hf _ hb =>
    have hsm := significant_congr (beValue_natBytes (beValue (first::rest)))
    have hd : natBytes (beValue (first::rest))=first::rest := by
      cases hn : natBytes (beValue (first::rest)) with
      | nil =>
        have hv := beValue_natBytes (beValue (first::rest))
        rw [hn] at hv
        have hz : beValue (first::rest)=0 := hv.symm
        omega
      | cons b bs => rwa [hn,significant_cons bs (natBytes_head hn),significant_cons rest hf] at hsm
    rw [if_neg (Nat.not_lt.mpr hb),hd]
end

variable {contents encoding : Bytes} {n : Nat} {ns : List Nat}

lemma isNatural_iff_isMpint (hn : n≠0) : IsNatural contents n ↔ IsMpint contents n := by
  constructor
  · intro h
    refine ⟨h.value,h.nonneg,fun rest hr => ?_⟩
    cases rest with
    | nil =>
      have hz : n=0 := by rw [← h.value,hr]; rfl
      exact absurd hz hn
    | cons next later => exact ⟨next,later,rfl,h.minimal next later hr⟩
  intro h
  refine ⟨h.value,fun he => ?_,h.positive,fun next later hz => ?_⟩
  · rw [he] at h
    exact hn h.value.symm
  obtain ⟨next',later',hr,ht⟩ := h.minimal _ hz
  rw [(List.cons.inj hr).1]
  exact ht

lemma isNatural_zero : IsNatural [0] 0 := by
  refine ⟨rfl,cons_ne_nil _ _,fun first rest h => ?_,fun next later h => ?_⟩
  · rw [← (List.cons.inj h).1]
    decide
  · cases h

lemma IsNatural.eq_zero (h : IsNatural contents 0) : contents=[0] := by
  rcases contents with _ | ⟨first,rest⟩
  · exact absurd rfl h.nonempty
  have hf : first=0 := by
    by_contra hne
    have hge := beValue_ge rest hne
    have hp : 0<256^rest.length := by positivity
    rw [h.value] at hge
    omega
  subst hf
  rcases rest with _ | ⟨next,later⟩
  · rfl
  have ht := h.minimal next later rfl
  have hv := h.value
  have hne : next≠0 := fun he => by
    rw [he] at ht
    exact absurd ht (by decide)
  have hge := beValue_ge later hne
  have hp : 0<256^later.length := by positivity
  rw [beValue_zero_cons] at hv
  omega

def naturalOctets (n : Nat) : Bytes := if n=0 then [0] else mpintOf (natBytes n)

def integerOctets (n : Nat) : Bytes :=
  2::(lengthOctets (naturalOctets n).length++naturalOctets n)

def integersOctets (ns : List Nat) : Bytes :=
  48::(lengthOctets (ns.flatMap integerOctets).length++ns.flatMap integerOctets)

lemma naturalOctets_beValue {data : Bytes} (h : beValue data≠0) :
    naturalOctets (beValue data)=mpintOf data := by
  rw [naturalOctets,if_neg h]
  exact mpintOf_congr (beValue_natBytes _)

lemma isNatural_naturalOctets (n : Nat) : IsNatural (naturalOctets n) n := by
  unfold naturalOctets
  split_ifs with hn
  · rw [hn]
    exact isNatural_zero
  have hm := mpintOf_isMpint (natBytes n)
  rw [beValue_natBytes] at hm
  exact (isNatural_iff_isMpint hn).mpr hm

lemma IsNatural.eq_naturalOctets (h : IsNatural contents n) : contents=naturalOctets n := by
  by_cases hn : n=0
  · subst hn
    exact h.eq_zero
  have hm := (isNatural_iff_isMpint hn).mp h
  rw [← beValue_natBytes n] at hm
  rw [naturalOctets,if_neg hn]
  exact hm.unique

lemma IsInteger.eq_integerOctets (h : IsInteger encoding n) : encoding=integerOctets n := by
  obtain ⟨octets,contents,rfl,hl,hc⟩ := h
  rw [integerOctets,hl.eq_lengthOctets,hc.eq_naturalOctets]

lemma isInteger_integerOctets (h : (integerOctets n).length<256^126) :
    IsInteger (integerOctets n) n := by
  have hl : (naturalOctets n).length<256^126 := by
    rw [integerOctets,length_cons,length_append] at h
    exact Nat.lt_of_le_of_lt (Nat.le_succ_of_le (Nat.le_add_left _ _)) h
  exact ⟨_,_,rfl,isLength_lengthOctets hl,isNatural_naturalOctets n⟩

lemma IsIntegers.eq_integersOctets (h : IsIntegers encoding ns) : encoding=integersOctets ns := by
  obtain ⟨items,⟨octets,rfl,hl⟩,hitems⟩ := h
  have hf : items.flatten=ns.flatMap integerOctets := by
    clear hl
    induction hitems with
    | nil => rfl
    | cons hitem _ ih => rw [flatten_cons,flatMap_cons,hitem.eq_integerOctets,ih]
  rw [integersOctets,← hf,hl.eq_lengthOctets]

lemma isIntegers_integersOctets (h : (integersOctets ns).length<256^126) :
    IsIntegers (integersOctets ns) ns := by
  have hf : (ns.flatMap integerOctets).length<256^126 := by
    rw [integersOctets,length_cons,length_append] at h
    exact Nat.lt_of_le_of_lt (Nat.le_succ_of_le (Nat.le_add_left _ _)) h
  refine ⟨ns.map integerOctets,⟨_,rfl,isLength_lengthOctets hf⟩,?_⟩
  rw [List.forall₂_map_left_iff,List.forall₂_same]
  intro n hn
  refine isInteger_integerOctets (Nat.lt_of_le_of_lt ?_ hf)
  exact (List.sublist_flatten_of_mem (List.mem_map_of_mem hn)).length_le

end EMSSHD.Der
