import EMSSHD.Crypto.Der

namespace EMSSHD

/-- The loop of pkcs1_private_der_encode that adds the lengths up. -/
def sequenceLength : Nat → List StringView → Except Err Nat
  | sequenceLen,[] => .ok sequenceLen
  | sequenceLen,value::values => do
    let itemLen ← derIntegerTotalLen value
    checkThat (sequenceLen ≤ sizeMax-itemLen) .bufferTooSmall
    sequenceLength (sequenceLen+itemLen) values

def derPutIntegers (capacity : Nat) : List StringView → DerWriter
  | [] => pure ()
  | value::values => do
    derPutInteger capacity value
    derPutIntegers capacity values

def pkcs1Writer (values : List StringView) (derCapacity sequenceLen : Nat) : DerWriter := do
  derPutLength derCapacity sequenceLen
  let out ← Call.get
  Call.require (out.length+3 ≤ derCapacity) .bufferTooSmall
  Call.modify (·++[2,1,0])
  derPutIntegers derCapacity values

/-- pkcs1_private_der_encode on its array of values. -/
def pkcs1Encode (values : List StringView) (derCapacity : Nat) : Except Err Bytes := do
  let sequenceLen ← sequenceLength 3 values
  if derCapacity<1 then .error .bufferTooSmall
  else derWritten (pkcs1Writer values derCapacity sequenceLen)

def pkcs1PrivateDerEncode (n e d p q dmp1 dmq1 iqmp : StringView) (derCapacity : Nat) :
    Except Err Bytes :=
  pkcs1Encode [n,e,d,p,q,dmp1,dmq1,iqmp] derCapacity

variable {datas : List Bytes}

def integersOf (datas : List Bytes) : Bytes :=
  datas.flatMap fun data => Der.integerOctets (beValue data)

lemma sequenceLength_iff {seqLen total : Nat} (hp : 0<seqLen) (hl : seqLen ≤ sizeMax) :
    sequenceLength seqLen (datas.map some)=.ok total ↔
      (∀ data∈datas,beValue data≠0) ∧ total=seqLen+(integersOf datas).length ∧
        total ≤ sizeMax := by
  induction datas generalizing seqLen with
  | nil =>
    constructor
    · intro h
      rw [← Except.ok.inj h]
      exact ⟨forall_mem_nil _,rfl,hl⟩
    intro h
    rw [h.2.1]
    rfl
  | cons data datas ih =>
    have hc : (integersOf (data::datas)).length=
        (Der.integerOctets (beValue data)).length+(integersOf datas).length := by
      rw [integersOf,flatMap_cons,length_append]
      rfl
    rw [map_cons,sequenceLength,hc,forall_mem_cons]
    by_cases hz : beValue data=0
    · have hrf : derIntegerTotalLen (some data)=.error .malformedPacket := by
        rw [derIntegerTotalLen,derIntegerPayload_zero hz]
        rfl
      rw [hrf]
      refine iff_of_false (fun h => by cases h) fun h => h.1.1 hz
    rw [derIntegerTotalLen_eq hz]
    change (checkThat _ _ >>= _)=_ ↔ _
    rw [checkThat_bind_eq_ok]
    constructor
    · intro h
      obtain ⟨hrm,h⟩ := h
      obtain ⟨hr,ht,hle⟩ := (ih (by omega) (by omega)).mp h
      exact ⟨⟨hz,hr⟩,by omega,hle⟩
    intro h
    obtain ⟨⟨-,hr⟩,ht,hle⟩ := h
    exact ⟨by omega,(ih (by omega) (by omega)).mpr ⟨hr,by omega,hle⟩⟩

lemma derPutIntegers_writes {capacity : Nat} (hd : ∀ data∈datas,beValue data≠0)
    (hl : (integersOf datas).length<256^126) :
    DerWrites capacity (derPutIntegers capacity (datas.map some)) (integersOf datas) := by
  induction datas with
  | nil => exact derWrites_pure
  | cons data datas ih =>
    obtain ⟨hdt,hr⟩ := forall_mem_cons.mp hd
    have hcn : integersOf (data::datas)=Der.integerOctets (beValue data)++integersOf datas := rfl
    have hc : (Der.naturalOctets (beValue data)).length ≤ (integersOf (data::datas)).length := by
      rw [hcn,Der.integerOctets,length_append,length_cons,length_append]
      omega
    have ht : (integersOf datas).length≤(integersOf (data::datas)).length := by
      rw [hcn,length_append]
      exact Nat.le_add_left _ _
    exact (derPutInteger_writes hdt (Nat.lt_of_le_of_lt hc hl)).bind
      (ih hr (Nat.lt_of_le_of_lt ht hl))

lemma integersOctets_version (datas : List Bytes) :
    Der.integersOctets (0::datas.map beValue)=
      48::(Der.lengthOctets (3+(integersOf datas).length)++([2,1,0]++integersOf datas)) := by
  have hitems : (0::datas.map beValue).flatMap Der.integerOctets=[2,1,0]++integersOf datas := by
    rw [flatMap_cons,List.flatMap_map]
    rfl
  rw [Der.integersOctets,hitems,length_append]
  rfl

lemma pkcs1Writer_writes {room : Nat} (hd : ∀ data∈datas,beValue data≠0)
    (hln : 3+(integersOf datas).length ≤ sizeMax) :
    DerWrites room (pkcs1Writer (datas.map some) room (3+(integersOf datas).length))
      (Der.lengthOctets (3+(integersOf datas).length)++([2,1,0]++integersOf datas)) := by
  have hl := sizeMax_lt
  have hv : DerWrites room (do
      let out ← Call.get
      Call.require (out.length+3 ≤ room) .bufferTooSmall
      Call.modify (·++[2,1,0])) [2,1,0] := derWrites_put (fun _ _ => Iff.rfl) fun _ => rfl
  have hi : DerWrites room (derPutIntegers room (datas.map some))
      (integersOf datas) := derPutIntegers_writes hd (by omega)
  have ha := (derPutLength_writes (Nat.lt_of_le_of_lt hln hl)).bind (hv.bind hi)
  simp only [bind_assoc] at ha
  exact ha

/-- The values are accepted when none is zero and their encoding fits, and then they are encoded as
the one sequence of these numbers. -/
theorem pkcs1Encode_iff {room : Nat} (hc : room ≤ sizeMax) {der : Bytes} :
    pkcs1Encode (datas.map some) room=.ok der ↔ (∀ data∈datas,beValue data≠0) ∧
      der.length ≤ room ∧ Der.IsIntegers der (0::datas.map beValue) := by
  have hlr := sizeMax_lt
  have he := integersOctets_version datas
  have hln : 4+(integersOf datas).length ≤ (Der.integersOctets (0::datas.map beValue)).length := by
    rw [he,length_cons,length_append,length_append,length_cons,length_cons,length_singleton]
    omega
  unfold pkcs1Encode
  constructor
  · intro h
    obtain ⟨sequenceLen,hs,h⟩ := except_bind_ok h
    obtain ⟨hd,rfl,hl⟩ := (sequenceLength_iff (by decide) (by decide)).mp hs
    split_ifs at h with hem
    rw [(pkcs1Writer_writes hd hl).derWritten_eq (Nat.not_lt.mp hem),← he] at h
    split_ifs at h with hr
    rw [← Except.ok.inj h]
    exact ⟨hd,hr,Der.isIntegers_integersOctets (by omega)⟩
  intro h
  obtain ⟨hd,hr,hi⟩ := h
  obtain rfl := hi.eq_integersOctets
  have hl : 3+(integersOf datas).length ≤ sizeMax := by omega
  have hs := (sequenceLength_iff (show 0<3 by decide) (by decide)).mpr ⟨hd,rfl,hl⟩
  rw [hs]
  change (if room<1 then _ else _)=_
  rw [if_neg (by omega),(pkcs1Writer_writes hd hl).derWritten_eq (by omega),← he,if_pos hr]

/-- The PKCS#1 encoding of a private key is canonical DER: it is made exactly when every component
is positive and it fits, and it is then the one encoding of the sequence of the version 0 and the
eight components. -/
theorem pkcs1PrivateDerEncode_canonical (n e d p q dmp1 dmq1 iqmp : Bytes) (derCapacity : Nat)
    (hcapacity : derCapacity ≤ sizeMax) (der : Bytes) :
    pkcs1PrivateDerEncode (some n) (some e) (some d) (some p) (some q) (some dmp1) (some dmq1)
      (some iqmp) derCapacity=.ok der ↔
      (∀ component∈[n,e,d,p,q,dmp1,dmq1,iqmp],beValue component≠0) ∧ der.length ≤ derCapacity ∧
        Der.IsIntegers der [0,beValue n,beValue e,beValue d,beValue p,beValue q,beValue dmp1,
          beValue dmq1,beValue iqmp] :=
  @pkcs1Encode_iff [n,e,d,p,q,dmp1,dmq1,iqmp] derCapacity hcapacity der

theorem pkcs1PrivateDerEncode_small :
    Der.IsIntegers [48,28,2,1,0,2,2,0,128,2,1,3,2,1,1,2,1,1,2,1,1,2,1,1,2,1,1,2,1,1]
      [0,128,3,1,1,1,1,1,1] :=
  ((pkcs1PrivateDerEncode_canonical [0,0,128] [3] [1] [1] [1] [1] [1] [1] 64 (by decide) _).mp
    (by decide +kernel)).2.2

end EMSSHD
