import EMSSHD.Crypto.Publickey

namespace EMSSHD

open Call

abbrev DerReader (α : Type) := Call Nat Err α

def derGetByte (der : Bytes) : DerReader UInt8 := do
  let offset ← Call.get
  Call.modify (·+1)
  pure (der.getD offset 0)

def derLengthValue (der : Bytes) (derLen : Nat) (first : UInt8) : DerReader Nat :=
  if first &&& 128=0 then pure first.toNat
  else do
    let count := (first &&& 127).toNat
    let offset ← Call.get
    Call.require (count≠0 ∧ count ≤ 8 ∧ count ≤ derLen-offset) .malformedPacket
    Call.modify (·+count)
    pure (beValue ((der.drop offset).take count))

def derGetLength (der : Bytes) (derLen : Nat) : DerReader Nat := do
  let offset ← Call.get
  Call.require (offset<derLen) .invalidArgument
  let first ← derGetByte der
  let len ← derLengthValue der derLen first
  let offset ← Call.get
  Call.require ((offset+len)%2^64 ≤ derLen) .malformedPacket
  pure len

structure DerView where
  start : Nat
  len : Nat
  deriving DecidableEq

def derGetIntegerView (der : Bytes) (derLen : Nat) : DerReader DerView := do
  let offset ← Call.get
  Call.require (offset<derLen) .malformedPacket
  let tag ← derGetByte der
  Call.require (tag=2) .malformedPacket
  match ← (derGetLength der derLen).status with
  | .error _ => Call.fail .malformedPacket
  | .ok len => do
    Call.require (len≠0) .malformedPacket
    let offset ← Call.get
    Call.modify fun offset => (offset+len)%2^64
    pure ⟨offset,len⟩

/-- The part of rsa_public_der_to_ssh_blob that reads: the modulus and the exponent. -/
def rsaPublicDerIntegers (der : Bytes) : DerReader (DerView×DerView) := do
  let tag ← derGetByte der
  Call.require (tag=48) .malformedPacket
  let sequenceLen ← derGetLength der der.length
  let offset ← Call.get
  let sequenceEnd := (offset+sequenceLen)%2^64
  Call.require (sequenceEnd ≤ der.length) .malformedPacket
  let n ← derGetIntegerView der sequenceEnd
  let e ← derGetIntegerView der sequenceEnd
  let offset ← Call.get
  Call.require (offset=sequenceEnd) .malformedPacket
  pure (n,e)

/-- ssh_buffer_put_string on a view. A length that has wrapped round is refused. -/
def putDerView (der : Bytes) (view : DerView) : Encoder := do
  Call.require (view.len ≤ uint32Max) .invalidArgument
  sshBufferPutString ((der.drop view.start).take view.len)

def rsaPublicDerToSshBlob (der : Bytes) : Encoder := do
  Call.require (der.length≠0) .invalidArgument
  let views ← Call.lift ((rsaPublicDerIntegers der).run 0).1
  sshBufferPutCstring (cstr "ssh-rsa")
  putDerView der views.2
  putDerView der views.1

section
variable {front rest octets contents : Bytes} {len n derLen : Nat}

lemma lowBits_toNat (b : UInt8) : (b &&& 127).toNat=b.toNat%128 := by
  rw [UInt8.toNat_and]
  exact Nat.and_two_pow_sub_one_eq_mod _ 7

lemma derGetByte_run (front : Bytes) (b : UInt8) (rest : Bytes) :
    (derGetByte (front++b::rest)).run front.length=(.ok b,front.length+1) := by
  have hb : (front++b::rest).getD front.length 0=b := by simp
  rw [derGetByte,run_bind_ok (run_get _),run_bind_ok (run_modify _ _),hb]
  rfl

lemma derLengthValue_run {first : UInt8} (h : Der.IsLength (first::octets) len)
    (hsz : len<2^64) (hr : front.length+1+octets.length≤derLen) :
    (derLengthValue (front++first::(octets++rest)) derLen first).run (front.length+1)=
      (.ok len,front.length+1+octets.length) := by
  generalize ha : first::octets=all at h
  unfold derLengthValue
  cases h with
  | short hs =>
    obtain ⟨rfl,rfl⟩ := List.cons.inj ha
    have hv : (UInt8.ofNat len).toNat=len := by
      rw [UInt8.toNat_ofNat']
      omega
    have hl : ¬(UInt8.ofNat len &&& 128≠0) := by
      rw [topBit_iff,UInt8.le_iff_toNat_le,hv]
      exact Nat.not_le.mpr hs
    rw [if_pos (not_not.mp hl),hv]
    rfl
  | @long digit digits hd hf hb =>
    obtain ⟨rfl,rfl⟩ := List.cons.inj ha
    have hc : (digit::digits).length≤8 := by
      have hge := beValue_ge digits hd
      have hlt : 256^digits.length<256^8 := by omega
      exact (Nat.pow_lt_pow_iff_right (show 1<256 by decide)).mp hlt
    have hv : (UInt8.ofNat (128+(digit::digits).length)).toNat=128+(digit::digits).length := by
      rw [UInt8.toNat_ofNat']
      omega
    have htp : UInt8.ofNat (128+(digit::digits).length) &&& 128≠0 := by
      rw [topBit_iff,UInt8.le_iff_toNat_le,hv]
      exact Nat.le_add_right _ _
    have hl : (UInt8.ofNat (128+(digit::digits).length) &&& 127).toNat= (digit::digits).length := by
      rw [lowBits_toNat,hv]
      omega
    have ht : ((front++UInt8.ofNat (128+(digit::digits).length)::(digit::digits++rest)).drop
        (front.length+1)).take (digit::digits).length=digit::digits := by
      rw [List.drop_append,List.drop_of_length_le (by omega)]
      simp
    rw [if_neg htp,hl]
    dsimp only
    rw [run_bind_ok (run_get _),run_bind_ok (run_require_of _ _ ⟨by simp,hc,
      by omega⟩),run_bind_ok (run_modify _ _),ht]
    rfl

lemma derGetLength_run (front rest : Bytes) (h : Der.IsLength octets len) (hs : derLen<2^64)
    (hr : front.length+octets.length+len≤derLen) :
    (derGetLength (front++(octets++rest)) derLen).run front.length=
      (.ok len,front.length+octets.length) := by
  obtain ⟨first,tail,rfl⟩ : ∃ first tail,octets=first::tail := by
    cases h with
    | short | long => exact ⟨_,_,rfl⟩
  rw [length_cons] at hr
  have he : (front.length+1+tail.length+len)%2^64=front.length+1+tail.length+len :=
    Nat.mod_eq_of_lt (by omega)
  have hv : (derLengthValue (front++first::(tail++rest)) derLen first).run (front.length+1)=
      (.ok len,front.length+1+tail.length) := derLengthValue_run h (by omega) (by omega)
  unfold derGetLength
  rw [run_bind_ok (run_get _),run_bind_ok (run_require_of _ _ (by omega)),cons_append,
    run_bind_ok (derGetByte_run _ _ _),run_bind_ok hv,
    run_bind_ok (run_get _),run_bind_ok (run_require_of _ _ (by omega))]
  rw [length_cons,Nat.add_assoc front.length,Nat.add_comm 1]
  rfl

def DerView.Holds (view : DerView) (der data : Bytes) : Prop :=
  view.len=data.length ∧ (der.drop view.start).take view.len=data

lemma derGetIntegerView_run (front rest : Bytes) {encoding : Bytes} (h : Der.IsInteger encoding n)
    (hs : derLen<2^64) (hr : front.length+encoding.length≤derLen) :
    ∃ view,(derGetIntegerView (front++(encoding++rest)) derLen).run front.length=
        (.ok view,front.length+encoding.length) ∧
      view.Holds (front++(encoding++rest)) (Der.naturalOctets n) := by
  obtain ⟨octets,contents,rfl,hl,hc⟩ := h
  have hn : contents.length≠0 := fun h => hc.nonempty (length_eq_zero_iff.mp h)
  rw [length_cons,length_append] at hr
  have hd : front++(2::(octets++contents)++rest)=(front++[2])++(octets++(contents++rest)) := by simp
  have hf : (front++[2]).length=front.length+1 := by simp
  have hln := derGetLength_run (front++[2]) (contents++rest) hl hs (by omega)
  have he : (front.length+1+octets.length+contents.length)%2^64=
      front.length+(octets.length+contents.length+1) := by
    rw [Nat.mod_eq_of_lt (by omega)]
    omega
  have hdr : (front++(2::(octets++contents)++rest)).drop (front.length+1+octets.length)=
      contents++rest := by
    rw [hd,← append_assoc]
    exact drop_left' (by rw [length_append,hf])
  refine ⟨⟨front.length+1+octets.length,contents.length⟩,?_,?_⟩
  · unfold derGetIntegerView
    rw [run_bind_ok (run_get _),run_bind_ok (run_require_of _ _ (by omega)),cons_append,
      run_bind_ok (derGetByte_run _ _ _),
      run_bind_ok (run_require_of _ _ rfl),run_bind_ok (run_status _ _)]
    rw [← cons_append,hd,← hf,hln]
    dsimp only
    rw [run_bind_ok (run_require_of _ _ hn),run_bind_ok (run_get _),run_bind_ok (run_modify _ _),hf,
      he,length_cons,length_append]
    rfl
  rw [DerView.Holds,hdr,take_left' rfl,hc.eq_naturalOctets]
  exact ⟨rfl,rfl⟩

lemma rsaPublicDerIntegers_run {der : Bytes} {n e : Nat} (h : Der.IsIntegers der [n,e])
    (hs : der.length<2^64) :
    ∃ views t,(rsaPublicDerIntegers der).run 0=(.ok views,t) ∧
      views.1.Holds der (Der.naturalOctets n) ∧ views.2.Holds der (Der.naturalOctets e) := by
  obtain ⟨items,⟨octets,hd,hl⟩,hitems⟩ := h
  cases hitems with
  | @cons nItem _ _ _ hn htl =>
    cases htl with
    | @cons eItem _ _ _ he hnl =>
      cases hnl
      simp only [flatten_cons,List.flatten_nil,append_nil] at hd hl
      rw [length_append] at hl
      have ht : der.length=1+octets.length+(nItem.length+eItem.length) := by
        rw [hd,length_cons,length_append,length_append]
        omega
      have hsq := derGetLength_run [48] (nItem++eItem) hl hs (by rw [length_singleton]; omega)
      have hds : der=[48]++(octets++(nItem++eItem)) := hd
      rw [← hds,length_singleton] at hsq
      have hen : (1+octets.length+(nItem.length+eItem.length))%2^64=der.length := by
        rw [← ht,Nat.mod_eq_of_lt hs]
      have hf : (48::octets).length=1+octets.length := by rw [length_cons,Nat.add_comm]
      have hdr : der=(48::octets)++(nItem++eItem) := by
        rw [hd]
        rfl
      have hde : der=(48::octets++nItem)++(eItem++[]) := by
        rw [hd]
        simp
      obtain ⟨nView,hnr,hnh⟩ := derGetIntegerView_run (48::octets) eItem hn hs (by omega)
      obtain ⟨eView,her,heh⟩ := derGetIntegerView_run (48::octets++nItem) [] he hs
        (by rw [length_append]; omega)
      have hls : 1+octets.length+nItem.length+eItem.length=der.length := by omega
      rw [← hdr,hf] at hnr
      rw [← hde,length_append,hf,hls] at her
      rw [← hdr] at hnh
      rw [← hde] at heh
      have htg : (derGetByte der).run 0=(.ok 48,1) := by
        rw [hd]
        exact derGetByte_run [] 48 _
      refine ⟨(nView,eView),der.length,?_,hnh,heh⟩
      unfold rsaPublicDerIntegers
      rw [run_bind_ok htg,run_bind_ok (run_require_of _ _ rfl),run_bind_ok hsq,
        run_bind_ok (run_get _)]
      dsimp only
      rw [hen,run_bind_ok (run_require_of _ _ (Nat.le_refl _)),run_bind_ok hnr,run_bind_ok her,
        run_bind_ok (run_get _),
        run_bind_ok (run_require_of _ _ rfl)]
      rfl
end

def rsaBlob (e n : Bytes) : Bytes := stringField (cstr "ssh-rsa")++(stringField e++stringField n)

/-- A blob that can be written: its strings have lengths of 32 bits, and it has room. -/
def BlobFits (capacity : Nat) (e n : Bytes) : Prop :=
  e.length ≤ uint32Max ∧ n.length ≤ uint32Max ∧ (rsaBlob e n).length ≤ capacity

def rsaBlobThroughDer (blob : Bytes) (derCapacity outCapacity : Nat) : Except Err Bytes := do
  let key ← decodeRsaPublicKeyBlob blob
  let der ← rsaPublicKeyBlobToDer key.1 key.2 derCapacity
  encodedBy (rsaPublicDerToSshBlob der) outCapacity

variable {e n : Bytes} {derCapacity outCapacity : Nat}

lemma rsaPublicKeyBlobToDer_eq (he : beValue e≠0) (hn : beValue n≠0) (hc : derCapacity ≤ sizeMax)
    (hf : (Der.integersOctets [beValue n,beValue e]).length≤derCapacity) :
    rsaPublicKeyBlobToDer (some e) (some n) derCapacity=
      .ok (Der.integersOctets [beValue n,beValue e]) := by
  have hlr := sizeMax_lt
  have hd : Der.integersOctets [beValue n,beValue e]=48::(Der.lengthOctets
      ((Der.integerOctets (beValue n)).length+(Der.integerOctets (beValue e)).length)++
        (Der.integerOctets (beValue n)++Der.integerOctets (beValue e))) := by
    simp only [Der.integersOctets,flatMap_cons,List.flatMap_nil,append_nil,length_append]
  have hs : ∀ m,(Der.naturalOctets m).length≤(Der.integerOctets m).length := by
    intro m
    rw [Der.integerOctets,length_cons,length_append]
    omega
  have hnl := hs (beValue n)
  have hel := hs (beValue e)
  have hr := hf
  rw [hd,length_cons,length_append,length_append] at hr
  have hl : DerWrites derCapacity (derPutLength derCapacity
      ((Der.integerOctets (beValue n)).length+(Der.integerOctets (beValue e)).length)) _ :=
    derPutLength_writes (by omega)
  have hwr := hl.bind
    ((derPutInteger_writes hn (by omega)).bind (derPutInteger_writes he (by omega)))
  have hw := hwr.derWritten_eq (by omega)
  rw [← hd,if_pos hf] at hw
  unfold rsaPublicKeyBlobToDer
  rw [derIntegerTotalLen_eq hn,derIntegerTotalLen_eq he]
  change (if derCapacity<1 then _ else _)=_
  rw [if_neg (by omega)]
  exact hw

lemma putDerView_writes {der data : Bytes} {view : DerView} (h : view.Holds der data)
    (hl : data.length≤uint32Max) : Writes (putDerView der view) (stringField data) := by
  obtain ⟨hs,hd⟩ := h
  unfold putDerView
  rw [hd,hs]
  exact (writes_putString hl).require hl

lemma rsaPublicDerToSshBlob_eq {der : Bytes} (he : beValue e≠0) (hn : beValue n≠0)
    (hd : Der.IsIntegers der [beValue n,beValue e]) (hs : der.length<2^64)
    (hf : BlobFits outCapacity (mpintOf e) (mpintOf n)) :
    encodedBy (rsaPublicDerToSshBlob der) outCapacity=.ok (rsaBlob (mpintOf e) (mpintOf n)) := by
  obtain ⟨views,t,hrn,hnv,hev⟩ := rsaPublicDerIntegers_run hd hs
  rw [Der.naturalOctets_beValue hn] at hnv
  rw [Der.naturalOctets_beValue he] at hev
  obtain ⟨hel,hnl,hr⟩ := hf
  have hnn : der.length≠0 := by
    obtain ⟨items,⟨octets,rfl,-⟩,-⟩ := hd
    exact Nat.succ_ne_zero _
  have hnm : Writes (sshBufferPutCstring (cstr "ssh-rsa")) (stringField (cstr "ssh-rsa")) :=
    writes_putString (by decide)
  have ha := (hnm.bind ((putDerView_writes hev hel).bind (putDerView_writes hnv hnl))).require hnn
  refine Writes.encodedBy ?_ hr
  unfold rsaPublicDerToSshBlob
  rw [hrn]
  exact ha

/-- A key blob with positive integers goes through DER and comes back with the same integers as
minimal mpints. If it had minimal ones it comes back as it was. -/
theorem rsaBlobThroughDer_inverse (blob e n : Bytes) (derCapacity outCapacity : Nat)
    (hblob : decodeRsaPublicKeyBlob blob=.ok (some e,some n)) (he : 0<beValue e)
    (hn : 0<beValue n) (hcapacity : derCapacity ≤ sizeMax)
    (hder : (Der.integersOctets [beValue n,beValue e]).length ≤ derCapacity)
    (hout : BlobFits outCapacity (mpintOf e) (mpintOf n)) :
    ∃ e' n',rsaBlobThroughDer blob derCapacity outCapacity=.ok (rsaBlob e' n') ∧
      IsMpint e' (beValue e) ∧ IsMpint n' (beValue n) ∧
      (blob=rsaBlob e n → IsMpint e (beValue e) → IsMpint n (beValue n) → rsaBlob e' n'=blob) := by
  have hs : (Der.integersOctets [beValue n,beValue e]).length ≤ sizeMax := hder.trans hcapacity
  have hc : Der.IsIntegers (Der.integersOctets [beValue n,beValue e]) [beValue n,beValue e] :=
    Der.isIntegers_integersOctets (Nat.lt_of_le_of_lt hs sizeMax_lt)
  refine ⟨mpintOf e,mpintOf n,?_,mpintOf_isMpint e,mpintOf_isMpint n,fun hsm hm hmn => ?_⟩
  · have hb := rsaPublicDerToSshBlob_eq he.ne' hn.ne' hc (Nat.lt_of_le_of_lt hs (by decide)) hout
    rw [rsaBlobThroughDer,hblob]
    simp only [bind,Except.bind]
    rw [rsaPublicKeyBlobToDer_eq he.ne' hn.ne' hcapacity hder]
    exact hb
  · rw [hsm,hm.mpintOf_self,hmn.mpintOf_self]

theorem rsaBlobThroughDer_padded :
    ∃ e' n',rsaBlobThroughDer (rsaBlob [0,3] [0,0,143]) 64 64=.ok (rsaBlob e' n') ∧ IsMpint e' 3 ∧
      IsMpint n' 143 := by
  obtain ⟨e',n',hr,he,hn,-⟩ := rsaBlobThroughDer_inverse (rsaBlob [0,3] [0,0,143]) [0,3] [0,0,143]
    64 64 (by decide +kernel) (by decide) (by decide) (by decide) (by decide +kernel)
    ⟨by decide,by decide,by decide⟩
  exact ⟨e',n',hr,he,hn⟩

/-- Where the contents behind the length header at an offset end, by the bytes of the header:
one byte with the length itself, or one with the number of bytes that the length has. -/
def headerEnd (der : Bytes) (offset : Nat) : Nat :=
  let first := der.getD offset 0
  let count := (first &&& 127).toNat
  if first &&& 128=0 then offset+1+first.toNat
  else offset+1+count+beValue ((der.drop (offset+1)).take count)

lemma derLengthValue_end (der : Bytes) (derLen offset : Nat) :
    (derLengthValue der derLen (der.getD offset 0)).Ensures (offset+1) (fun r t =>
      ∀ len,r=.ok len → t+len=headerEnd der offset) := by
  refine .ite (fun hs => .pure ?_) fun hl => .bindGet (.bindRequire (fun _ => .bindModify ?_)
    fun _ => nofun)
  · rintro _ ⟨⟩
    exact (if_pos hs).symm
  · rintro _ ⟨⟩
    exact (if_neg hl).symm

lemma derGetLength_checked (der : Bytes) (derLen offset : Nat) :
    (derGetLength der derLen).Ensures offset (fun r t =>
      ∀ len,r=.ok len → t+len=headerEnd der offset ∧ headerEnd der offset%2^64≤derLen) := by
  refine .bindGet (.bindRequire (fun _ => ?_) fun _ => nofun)
  refine .bindOk (t := offset+1) rfl ?_
  refine (derLengthValue_end der derLen offset).bind (fun len t ht => ?_) fun _ _ _ => nofun
  refine .bindGet (.bindRequire (fun hc => ?_) fun _ => nofun)
  rintro _ ⟨⟩
  have he := ht len rfl
  exact ⟨he,he ▸ hc⟩

lemma inside_iff_unwrapped {len derLen : Nat} (hs : derLen<2^64) (h : len%2^64≤derLen) :
    len≤derLen ↔ len<2^64 := by
  constructor
  · omega
  intro hl
  rwa [Nat.mod_eq_of_lt hl] at h

/-- A length that is accepted ends inside the input unless the header names an end beyond the
range of size_t. The header of an integer stands behind its tag. -/
theorem der_inside_iff (der : Bytes) {derLen : Nat} (hs : derLen<2^64) (offset : Nat) :
    (∀ len t,(derGetLength der derLen).run offset=(.ok len,t) →
      (t+len≤derLen ↔ headerEnd der offset<2^64)) ∧
    ∀ view t,(derGetIntegerView der derLen).run offset=(.ok view,t) →
      (view.start+view.len≤derLen ↔ headerEnd der (offset+1)<2^64) := by
  constructor
  · intro len t h
    obtain ⟨he,hc⟩ := (derGetLength_checked der derLen offset).of_eq h len rfl
    rw [he]
    exact inside_iff_unwrapped hs hc
  intro view t h
  have hv : (derGetIntegerView der derLen).Ensures offset (fun r _ => ∀ view,r=.ok view →
      view.start+view.len=headerEnd der (offset+1) ∧ headerEnd der (offset+1)%2^64≤derLen) := by
    refine .bindGet (.bindRequire (fun _ => ?_) fun _ => nofun)
    refine .bindOk (t := offset+1) rfl ?_
    refine .bindRequire (fun _ => .bindStatus ?_) fun _ => nofun
    refine (derGetLength_checked der derLen (offset+1)).mono fun r u hr => ?_
    rcases r with _ | len
    · exact nofun
    refine .bindRequire (fun _ => .bindGet (.bindModify ?_)) fun _ => nofun
    rintro _ ⟨⟩
    exact hr len rfl
  obtain ⟨he,hc⟩ := hv.of_eq h view rfl
  rw [he]
  exact inside_iff_unwrapped hs hc

theorem der_inside_iff_short : (derGetLength [3,1,2,3] 4).run 0=(.ok 3,1) ∧ 1+3≤4 := by
  have hr : (derGetLength [3,1,2,3] 4).run 0=(.ok 3,1) := rfl
  exact ⟨hr,((der_inside_iff _ (by decide) 0).1 3 1 hr).mpr (by decide)⟩

/-- Eight length bytes of 255 in an integer of ten bytes: its end wraps round to 9. -/
theorem der_length_wraps :
    (derGetIntegerView (2::136::List.replicate 8 255) 10).run 0=(.ok ⟨10,2^64-1⟩,9) ∧
      ¬10+(2^64-1)≤10 := by
  decide +kernel

end EMSSHD
