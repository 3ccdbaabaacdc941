import EMSSHD.Core.Userauth.Request
import EMSSHD.Framework.Lawful
import EMSSHD.Math.Der

namespace EMSSHD

open Call

/-- SIZE_MAX -/
def sizeMax : Nat := 2^64-1

def byteCount (len : Nat) : Nat :=
  if len=0 then 0 else byteCount (len/256)+1
decreasing_by
  exact Nat.div_lt_self (by omega) (by decide)

def derLengthSize (len : Nat) : Nat := if len<128 then 1 else 1+byteCount len

abbrev DerWriter := Call Bytes Err Unit

def derPutLength (capacity len : Nat) : DerWriter := do
  let out ← Call.get
  Call.require (out.length ≤ capacity ∧ derLengthSize len ≤ capacity-out.length) .bufferTooSmall
  Call.modify fun out =>
    if len<128 then out++[UInt8.ofNat len]
    else out++UInt8.ofNat (128 ||| (derLengthSize len-1))::beBytes (derLengthSize len-1) len

/-- The bytes of a positive integer without leading zeros, and whether a zero goes before
them because the first one has its top bit set. -/
def derIntegerPayload (value : StringView) : Except Err (Bytes×Bool) :=
  match value with
  | none => .error .invalidArgument
  | some bytes => match bytes.dropWhile (·=0) with
    | [] => .error .malformedPacket
    | first::rest => .ok (first::rest,first &&& 128≠0)

def derIntegerTotalLen (value : StringView) : Except Err Nat := do
  let (payload,needsZero) ← derIntegerPayload value
  let len := payload.length+needsZero.toNat
  pure (1+derLengthSize len+len)

def derPutInteger (capacity : Nat) (value : StringView) : DerWriter := do
  let (payload,needsZero) ← Call.lift (derIntegerPayload value)
  let out ← Call.get
  Call.require (out.length<capacity) .bufferTooSmall
  Call.modify (·++[2])
  derPutLength capacity (payload.length+needsZero.toNat)
  Call.onlyIf (needsZero=true) do
    let out ← Call.get
    Call.require (out.length<capacity) .bufferTooSmall
    Call.modify (·++[0])
  let out ← Call.get
  Call.require (out.length ≤ capacity ∧ payload.length ≤ capacity-out.length) .bufferTooSmall
  Call.modify (·++payload)

/-- A SEQUENCE that is written behind its tag. -/
def derWritten (writer : DerWriter) : Except Err Bytes :=
  match writer.run [48] with
  | (.ok _,der) => .ok der
  | (.error err,_) => .error err

def rsaPublicKeyBlobToDer (e n : StringView) (derCapacity : Nat) : Except Err Bytes := do
  let nLen ← derIntegerTotalLen n
  let eLen ← derIntegerTotalLen e
  if derCapacity<1 then .error .bufferTooSmall
  else derWritten do
    derPutLength derCapacity (nLen+eLen)
    derPutInteger derCapacity n
    derPutInteger derCapacity e

def mpintViewToFixed (value : StringView) (outLen : Nat) : Except Err Bytes :=
  match value with
  | none => .error .invalidArgument
  | some bytes =>
    if outLen=0 then .error .invalidArgument
    else
      let digits := bytes.dropWhile (·=0)
      if outLen<digits.length then .error .malformedPacket
      else .ok (List.replicate (outLen-digits.length) 0++digits)

section
def DerWrites (capacity : Nat) (c : DerWriter) (src : Bytes) : Prop :=
  ∀ out : Bytes,out.length ≤ capacity →
    (out.length+src.length ≤ capacity → c.run out=(.ok (),out++src)) ∧
      (capacity<out.length+src.length → (c.run out).1=.error .bufferTooSmall)

variable {capacity : Nat} {c d : DerWriter} {src rest : Bytes}

lemma derWrites_pure : DerWrites capacity (pure ()) [] := by
  refine fun out ho => ⟨fun _ => ?_,fun hf => ?_⟩
  · rw [append_nil]
    rfl
  rw [length_nil] at hf
  omega

lemma DerWrites.bind (hc : DerWrites capacity c src) (hd : DerWrites capacity d rest) :
    DerWrites capacity (c >>= fun _ => d) (src++rest) := by
  intro out hot
  obtain ⟨hok,hfl⟩ := hc out hot
  have hl : (out++src).length=out.length+src.length := length_append
  rw [length_append]
  refine ⟨fun hr => ?_,fun hfu => ?_⟩
  · obtain ⟨ho,-⟩ := hd (out++src) (by omega)
    rw [run_bind_ok (hok (by omega)),ho (by omega),append_assoc]
  by_cases hr : out.length+src.length ≤ capacity
  · obtain ⟨-,hf⟩ := hd (out++src) (by omega)
    rw [run_bind_ok (hok hr)]
    exact hf (by omega)
  have he := hfl (by omega)
  rcases hrn : c.run out with ⟨r,t⟩
  rw [hrn] at he
  rw [run_bind_error (hrn.trans (congrArg (·,t) he))]

lemma derWrites_put {p : Bytes → Prop} [∀ out,Decidable (p out)] {append : Bytes → Bytes}
    (hp : ∀ out : Bytes,out.length ≤ capacity → (p out ↔ out.length+src.length ≤ capacity))
    (ha : ∀ out,append out=out++src) :
    DerWrites capacity (do
      let out ← Call.get
      Call.require (p out) .bufferTooSmall
      Call.modify append) src := by
  intro out ho
  rw [run_bind_ok (run_get out)]
  refine ⟨fun hr => ?_,fun hf => ?_⟩
  · rw [run_bind_ok (run_require_of _ out ((hp out ho).mpr hr)),run_modify,ha]
  have hno : ¬p out := fun h => Nat.not_le.mpr hf ((hp out ho).mp h)
  rw [run_bind_error (run_require_not _ out hno)]

lemma DerWrites.onlyIf {p : Prop} [Decidable p] (hc : DerWrites capacity c src) :
    DerWrites capacity (Call.onlyIf p c) (if p then src else []) := by
  unfold Call.onlyIf
  split_ifs
  · exact hc
  · exact derWrites_pure

lemma DerWrites.derWritten_eq (hc : DerWrites capacity c src) (hcp : 1 ≤ capacity) :
    derWritten c=if (48::src).length ≤ capacity then .ok (48::src) else .error .bufferTooSmall := by
  obtain ⟨hok,hf⟩ := hc [48] hcp
  rw [length_singleton] at hok hf
  rw [length_cons]
  unfold derWritten
  split_ifs with hrm
  · rw [hok (by omega)]
    rfl
  have he := hf (by omega)
  rcases hr : c.run [48] with ⟨r,t⟩
  rw [hr] at he
  dsimp only at he
  rw [he]
end

lemma sizeMax_lt : sizeMax<256^126 := by decide

variable {capacity : Nat} {data : Bytes}

lemma byteCount_eq (len : Nat) : byteCount len=(Der.natBytes len).length := by
  induction len using Nat.strong_induction_on with
  | _ len ih =>
    rw [byteCount,Der.natBytes]
    split_ifs with hz
    · rfl
    · rw [ih _ (Nat.div_lt_self (by omega) (by decide)),length_append,length_singleton]

lemma derLengthSize_eq (len : Nat) : derLengthSize len=(Der.lengthOctets len).length := by
  unfold derLengthSize Der.lengthOctets
  split_ifs
  · rfl
  · rw [byteCount_eq,length_cons,Nat.add_comm]

lemma derPutLength_writes {len : Nat} (hl : len<256^126) :
    DerWrites capacity (derPutLength capacity len) (Der.lengthOctets len) := by
  refine derWrites_put (fun out ho => ?_) fun out => ?_
  · rw [derLengthSize_eq]
    omega
  unfold Der.lengthOctets
  split_ifs with hs
  · rfl
  have hc : derLengthSize len-1=(Der.natBytes len).length := by
    rw [derLengthSize,if_neg hs,byteCount_eq,Nat.add_sub_cancel_left]
  have hfw := Der.length_natBytes_le hl
  have hd := beBytes_beValue (Der.natBytes len)
  rw [Der.beValue_natBytes] at hd
  have hf : 128 ||| (Der.natBytes len).length=128+(Der.natBytes len).length :=
    (Nat.shiftLeft_add_eq_or_of_lt (show (Der.natBytes len).length<2^7 by omega) 1).symm
  rw [hc,hd,hf]

lemma topBit_iff (b : UInt8) : b &&& 128≠0 ↔ 128≤b := by
  obtain ⟨⟨x⟩⟩ := b
  revert x
  decide +kernel

lemma derIntegerPayload_eq (h : beValue data≠0) : ∃ payload needsZero,
    derIntegerPayload (some data)=.ok (payload,needsZero) ∧
      (if needsZero=true then [0] else [])++payload=Der.naturalOctets (beValue data) := by
  rw [Der.naturalOctets_beValue h,mpintOf]
  unfold derIntegerPayload
  rcases hd : significant data with _ | ⟨first,rest⟩
  · have hv := beValue_significant data
    rw [hd] at hv
    exact absurd hv.symm h
  have hdr : data.dropWhile (·=0)=first::rest := hd
  dsimp only
  rw [hdr]
  refine ⟨_,_,rfl,?_⟩
  by_cases ht : 128≤first
  · rw [if_pos ht,if_pos (decide_eq_true ((topBit_iff first).mpr ht))]
    rfl
  have hno : ¬decide (first &&& 128≠0)=true := fun h =>
    ht ((topBit_iff first).mp (of_decide_eq_true h))
  rw [if_neg ht,if_neg hno]
  rfl

lemma length_contents {payload : Bytes} {needsZero : Bool} :
    ((if needsZero=true then [(0 : UInt8)] else [])++payload).length=
      payload.length+needsZero.toNat := by
  cases needsZero <;> rfl

lemma derIntegerPayload_zero (h : beValue data=0) :
    derIntegerPayload (some data)=.error .malformedPacket := by
  have hd : data.dropWhile (·=0)=[] := significant_congr (b := []) h
  unfold derIntegerPayload
  dsimp only
  rw [hd]

lemma derIntegerTotalLen_eq (h : beValue data≠0) :
    derIntegerTotalLen (some data)=.ok (Der.integerOctets (beValue data)).length := by
  obtain ⟨payload,needsZero,hp,hc⟩ := derIntegerPayload_eq h
  unfold derIntegerTotalLen Der.integerOctets
  rw [hp,← hc,length_contents,length_cons,length_append,length_contents,← derLengthSize_eq]
  refine congrArg Except.ok ?_
  omega

lemma derPutInteger_writes (h : beValue data≠0)
    (hl : (Der.naturalOctets (beValue data)).length<256^126) :
    DerWrites capacity (derPutInteger capacity (some data)) (Der.integerOctets (beValue data)) := by
  obtain ⟨payload,needsZero,hp,hc⟩ := derIntegerPayload_eq h
  rw [← hc,length_contents] at hl
  have ho (b : UInt8) : DerWrites capacity (do
      let out ← Call.get
      Call.require (out.length<capacity) .bufferTooSmall
      Call.modify (·++[b])) [b] :=
    derWrites_put (fun out ho => by rw [length_singleton]; omega) fun _ => rfl
  have hb : DerWrites capacity (do
      let out ← Call.get
      Call.require (out.length ≤ capacity ∧ payload.length ≤ capacity-out.length) .bufferTooSmall
      Call.modify (·++payload)) payload :=
    derWrites_put (fun out ho => by omega) fun _ => rfl
  have ha := (ho 2).bind ((derPutLength_writes hl).bind
    (((ho 0).onlyIf (p := needsZero=true)).bind hb))
  unfold derPutInteger Der.integerOctets
  rw [hp,← hc,length_contents]
  simp only [bind_assoc] at ha
  exact ha

end EMSSHD
