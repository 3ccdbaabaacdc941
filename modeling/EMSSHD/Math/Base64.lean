import EMSSHD.Math.Bytes

namespace EMSSHD.Base64

def value (digits : List Nat) : Nat := digits.foldl (fun acc d => acc*64+d) 0

def octets (digits : List Nat) : Bytes :=
  beBytes (6*digits.length/8) (value digits/2^(6*digits.length%8))

/-- Letters of the alphabet with padding behind them, and the octets that they spell, of which
there is at least one. -/
def Decodes (alphabet : Bytes) (padding : UInt8) (text out : Bytes) : Prop :=
  ∃ letters digits n,text=letters ++ List.replicate n padding ∧
    letters.map (alphabet.idxOf? ·)=digits.map some ∧ octets digits=out ∧ out≠[]

@[simp] lemma value_snoc (digits : List Nat) (d : Nat) : value (digits++[d])=value digits*64+d := by
  simp [value]

lemma beBytes_succ (k n : Nat) : beBytes (k+1) n=beBytes k (n/256)++[UInt8.ofNat n] := by
  induction k with
  | zero => simp [beBytes]
  | succ k ih =>
    have hh : n/256^(k+1)=n/256/256^k := by rw [pow_succ',Nat.div_div_eq_div_mul]
    show UInt8.ofNat (n/256^(k+1))::beBytes (k+1) n=_
    rw [ih,hh]
    rfl

lemma length_octets (digits : List Nat) : (octets digits).length=6*digits.length/8 :=
  beBytes_length _ _

variable {digits : List Nat} {d : Nat}

lemma octets_snoc_wait (hd : d<64) (hw : 6*digits.length%8+6<8) :
    octets (digits++[d])=octets digits := by
  have hc : 6*(digits.length+1)/8=6*digits.length/8 := by omega
  have hr : 6*(digits.length+1)%8=6*digits.length%8+6 := by omega
  have hv : (value digits*64+d)/2^6=value digits := by omega
  simp only [octets,value_snoc,length_append,length_singleton,hc,hr]
  rw [Nat.add_comm _ 6,pow_add,← Nat.div_div_eq_div_mul,hv]

lemma octets_snoc_emit (hd : d<64) (he : 8≤6*digits.length%8+6) :
    octets (digits++[d])=octets digits ++
      [UInt8.ofNat (value (digits++[d])/2^(6*digits.length%8+6-8))] := by
  have hc : 6*(digits.length+1)/8=6*digits.length/8+1 := by omega
  have hr : 6*(digits.length+1)%8=6*digits.length%8+6-8 := by omega
  have hv : (value digits*64+d)/2^6=value digits := by omega
  have hp : 2^(6*digits.length%8+6-8)*256=2^6*2^(6*digits.length%8) := by
    have hs : 6*digits.length%8+6-8+8=6+6*digits.length%8 := by omega
    rw [← pow_add,← hs,pow_add]
    norm_num
  simp only [octets,value_snoc,length_append,length_singleton,hc,hr]
  rw [beBytes_succ,Nat.div_div_eq_div_mul,hp,← Nat.div_div_eq_div_mul,hv]

lemma octet_of_low (n : Nat) {k w : Nat} (h : k+8≤w) :
    UInt8.ofNat (n%2^w/2^k)=UInt8.ofNat (n/2^k) := by
  apply UInt8.toNat.inj
  have hw : 2^w=2^k*2^(w-k) := by rw [← pow_add]; congr 1; omega
  have hd : 2^8 ∣ 2^(w-k) := pow_dvd_pow 2 (by omega)
  rw [hw,Nat.mod_mul_right_div_self]
  simpa using Nat.mod_mod_of_dvd (n/2^k) hd

lemma value_append (digits more : List Nat) :
    value (digits++more)=value digits*2^(6*more.length)+value more := by
  induction more using List.reverseRecOn with
  | nil => simp [value]
  | append_singleton more d ih =>
    rw [← append_assoc,value_snoc,value_snoc,ih,length_append,length_singleton]
    ring

/-- Behind whole groups of four digits the octets start anew. -/
lemma octets_append {more : List Nat} (hg : digits.length%4=0) (hm : ∀ d∈more,d<64) :
    octets (digits++more)=octets digits++octets more := by
  induction more using List.reverseRecOn with
  | nil => simp [octets,beBytes]
  | append_singleton more d ih =>
    obtain ⟨hm,hd⟩ := forall_mem_append.mp hm
    have hd := hd d (mem_singleton_self d)
    have hl : 6*(digits++more).length%8=6*more.length%8 := by
      rw [length_append]
      omega
    rw [← append_assoc]
    by_cases hw : 6*more.length%8+6<8
    · rw [octets_snoc_wait hd (by omega),octets_snoc_wait hd hw,ih hm]
    have hk : 6*more.length%8+6-8+8≤6*(more++[d]).length := by
      rw [length_append,length_singleton]
      omega
    rw [octets_snoc_emit hd (by omega),octets_snoc_emit hd (by omega),ih hm,hl,append_assoc digits,
      value_append,← octet_of_low _ hk,Nat.mul_add_mod_self_right,octet_of_low _ hk,append_assoc]

lemma length_octets_le_append (digits more : List Nat) :
    (octets digits).length≤(octets (digits++more)).length := by
  rw [length_octets,length_octets,length_append]
  omega

def digitsOf : Bytes → List Nat
  | [] => []
  | [a] => [a.toNat/4,a.toNat%4*16]
  | [a,b] => [a.toNat/4,a.toNat%4*16+b.toNat/16,b.toNat%16*4]
  | a::b::c::rest =>
    [a.toNat/4,a.toNat%4*16+b.toNat/16,b.toNat%16*4+c.toNat/64,c.toNat%64] ++ digitsOf rest

def paddingOf (d : Bytes) : Nat := (3-d.length%3)%3

variable {a : UInt8}

lemma ofNat_eq {n : Nat} (h : n%256=a.toNat) : UInt8.ofNat n=a := by
  apply UInt8.toNat.inj
  rw [UInt8.toNat_ofNat']
  exact h

lemma digitsOf_lt (d : Bytes) : ∀ x∈digitsOf d,x<64 := by
  induction d using digitsOf.induct with
  | case1 => exact forall_mem_nil _
  | case2 a =>
    have ha := a.toNat_lt
    simp only [digitsOf,forall_mem_cons]
    refine ⟨by omega,by omega,forall_mem_nil _⟩
  | case3 a b =>
    have ha := a.toNat_lt
    have hb := b.toNat_lt
    simp only [digitsOf,forall_mem_cons]
    refine ⟨by omega,by omega,by omega,forall_mem_nil _⟩
  | case4 a b c rest ih =>
    have ha := a.toNat_lt
    have hb := b.toNat_lt
    have hc := c.toNat_lt
    simp only [digitsOf,forall_mem_append,forall_mem_cons]
    refine ⟨⟨by omega,by omega,by omega,by omega,forall_mem_nil _⟩,ih⟩

lemma octets_digitsOf (d : Bytes) : octets (digitsOf d)=d := by
  induction d using digitsOf.induct with
  | case1 => rfl
  | case2 a =>
    have ha := a.toNat_lt
    simp [digitsOf,octets,value,beBytes]
    exact ofNat_eq (by omega)
  | case3 a b =>
    have ha := a.toNat_lt
    have hb := b.toNat_lt
    simp [digitsOf,octets,value,beBytes]
    exact ⟨ofNat_eq (by omega),ofNat_eq (by omega)⟩
  | case4 a b c rest ih =>
    have ha := a.toNat_lt
    have hb := b.toNat_lt
    have hc := c.toNat_lt
    rw [digitsOf,octets_append (by simp) (digitsOf_lt rest),ih]
    simp [octets,value,beBytes,-UInt8.ofNat_add]
    exact ⟨ofNat_eq (by omega),ofNat_eq (by omega),ofNat_eq (by omega)⟩

lemma length_digitsOf (d : Bytes) : 6*(digitsOf d).length%8<6 := by
  induction d using digitsOf.induct with
  | case1 => decide
  | case2 | case3 => simp [digitsOf]
  | case4 a b c rest ih =>
    rw [digitsOf,length_append]
    simp only [length_cons,length_nil]
    omega

def text (alphabet : Bytes) (padding : UInt8) (d : Bytes) : Bytes :=
  (digitsOf d).map (fun digit => alphabet.getD digit 0) ++ List.replicate (paddingOf d) padding

end EMSSHD.Base64
