import Mathlib.Tactic

namespace EMSSHD

export List (all_eq_true all_takeWhile any_eq_true append_assoc append_inj' append_nil cons_append
  cons_ne_nil countP_append dropWhile_cons_of_neg dropWhile_suffix drop_drop drop_left drop_left'
  drop_length drop_one eq_of_mem_replicate exists_cons_of_ne_nil filterMap_append
  filterMap_eq_nil_iff filterMap_nil find?_some flatMap_append flatMap_cons flatMap_eq_nil_iff
  flatten_cons foldlM_cons foldl_cons forall_mem_append forall_mem_cons forall_mem_nil head?_cons
  length_append length_cons length_drop length_eq_zero_iff length_nil length_pos_iff
  length_replicate length_singleton length_tail length_take map_append map_cons map_map map_nil
  mem_append mem_append_left mem_append_right mem_cons mem_cons_of_mem mem_cons_self mem_filterMap
  mem_map mem_of_mem_head? mem_range mem_singleton mem_singleton_self nil_append
  not_mem_nil reverse_cons singleton_append sum_cons tail_cons takeWhile_append_dropWhile
  takeWhile_cons_of_pos takeWhile_subset take_append_drop take_left take_left' take_length
  take_of_length_le take_take)

abbrev Bytes := List UInt8

def isDigit (ch : UInt8) : Bool := 48 ≤ ch && ch ≤ 57

def beBytes : Nat → Nat → Bytes
  | 0,_ => []
  | k+1,n => UInt8.ofNat (n/256^k) :: beBytes k n

def beValue (bs : Bytes) : Nat := bs.foldl (fun acc b => 256*acc+b.toNat) 0

@[simp] lemma beBytes_length (k n : Nat) : (beBytes k n).length=k := by
  induction k with
  | zero => rfl
  | succ k ih => simp [beBytes,ih]

private lemma beValue_fold (bs : Bytes) (acc : Nat) :
    bs.foldl (fun acc b => 256*acc+b.toNat) acc=acc*256^bs.length+beValue bs := by
  unfold beValue
  induction bs generalizing acc with
  | nil => simp
  | cons b bs ih =>
    simp only [foldl_cons,length_cons]
    rw [ih (256*acc+b.toNat),ih (256*0+b.toNat),pow_succ]
    ring

lemma beValue_cons (b : UInt8) (bs : Bytes) : beValue (b::bs)=b.toNat*256^bs.length+beValue bs := by
  unfold beValue
  rw [foldl_cons,beValue_fold]
  simp [beValue]

lemma beValue_lt (bs : Bytes) : beValue bs<256^bs.length := by
  induction bs with
  | nil => simp [beValue]
  | cons b bs ih =>
    have hb : b.toNat<256 := b.toNat_lt
    rw [beValue_cons,length_cons,pow_succ]
    have hm : b.toNat*256^bs.length≤255*256^bs.length := Nat.mul_le_mul_right _ (by omega)
    omega

lemma beValue_beBytes (k n : Nat) : beValue (beBytes k n)=n%256^k := by
  induction k with
  | zero => simp [beBytes,beValue,Nat.mod_one]
  | succ k ih =>
    rw [beBytes,beValue_cons,ih,beBytes_length]
    have hd : (UInt8.ofNat (n/256^k)).toNat=n/256^k%256 := by simp
    rw [hd,pow_succ,Nat.mod_mul]
    ring

lemma beValue_beBytes_of_lt (k n : Nat) (h : n<256^k) : beValue (beBytes k n)=n := by
  rw [beValue_beBytes,Nat.mod_eq_of_lt h]

lemma beBytes_beValue (bs : Bytes) : beBytes bs.length (beValue bs)=bs := by
  have hd (n : Nat) (bs : Bytes) (d : Nat) (hn : n=d*256^bs.length+beValue bs) :
      beBytes bs.length n=bs := by
    induction bs generalizing d with
    | nil => rfl
    | cons b bs ih =>
      rw [beValue_cons] at hn
      have hlt := beValue_lt bs
      have hs : n=(d*256+b.toNat)*256^bs.length+beValue bs := by
        rw [hn,length_cons,pow_succ]
        ring
      have hdv : n/256^bs.length=d*256+b.toNat := by
        rw [hs,Nat.mul_comm,Nat.mul_add_div (by positivity),Nat.div_eq_of_lt hlt,Nat.add_zero]
      have hh : UInt8.ofNat (n/256^bs.length)=b := by
        rw [hdv]
        apply UInt8.toNat.inj
        simp
      change UInt8.ofNat (n/256^bs.length)::beBytes bs.length n=b::bs
      rw [hh,ih (d*256+b.toNat) hs]
  exact hd _ bs 0 (by simp)

def blit (dst : Bytes) (off : Nat) (src : Bytes) : Bytes :=
  dst.take off++src++dst.drop (off+src.length)

lemma blit_length (dst src : Bytes) (off : Nat) (h : off+src.length≤dst.length) :
    (blit dst off src).length=dst.length := by
  simp [blit]
  omega

lemma blit_take (dst src : Bytes) (off : Nat) (h : off≤dst.length) :
    (blit dst off src).take (off+src.length)=dst.take off++src := by
  have hl : (dst.take off++src).length=off+src.length := by simp [h]
  rw [blit,← hl,take_left']
  rfl

structure Bounded (cap : Nat) where
  bytes : Bytes
  fits : bytes.length ≤ cap
  deriving DecidableEq

namespace Bounded
variable {cap : Nat}

def empty : Bounded cap := ⟨[],Nat.zero_le cap⟩

def drop (b : Bounded cap) (n : Nat) : Bounded cap :=
  ⟨b.bytes.drop n,(List.length_drop ▸ Nat.sub_le _ _).trans b.fits⟩

def append (b : Bounded cap) (data : Bytes) (h : data.length ≤ cap-b.bytes.length) : Bounded cap :=
  ⟨b.bytes++data,by have hb := b.fits; rw [List.length_append]; omega⟩

@[simp] lemma drop_bytes (b : Bounded cap) (n : Nat) : (b.drop n).bytes=b.bytes.drop n := rfl
end Bounded

end EMSSHD
