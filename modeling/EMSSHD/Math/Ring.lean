import Mathlib.Data.List.Rotate
import Mathlib.Data.List.DropRight

namespace EMSSHD

open List

variable {α : Type}

def writeAt (slots : List α) (pos : Nat) (values : List α) : List α :=
  slots.take pos ++ values ++ slots.drop (pos+values.length)

variable {slots values : List α} {pos : Nat}

lemma writeAt_length (hr : pos+values.length ≤ slots.length) :
    (writeAt slots pos values).length=slots.length := by
  simp only [writeAt,length_append,length_take,length_drop]
  omega

lemma getElem?_writeAt (hr : pos+values.length ≤ slots.length) (i : Nat) :
    (writeAt slots pos values)[i]?=
      if pos ≤ i ∧ i<pos+values.length then values[i-pos]? else slots[i]? := by
  have ht : (slots.take pos).length=pos := length_take_of_le (by omega)
  have hf : (slots.take pos++values).length=pos+values.length := by simp [ht]
  by_cases hl : i<pos
  · rw [writeAt,append_assoc,List.getElem?_append_left (by omega),if_neg (by omega),
      List.getElem?_take_of_lt hl]
  by_cases hin : i<pos+values.length
  · rw [writeAt,List.getElem?_append_left (by omega),List.getElem?_append_right (by omega),ht,
      if_pos (by omega)]
  rw [writeAt,List.getElem?_append_right (by omega),hf,List.getElem?_drop,if_neg (by omega)]
  congr 1
  omega

lemma rtake_append_rtake (kept later : List α) (n : Nat) :
    (kept.rtake n++later).rtake n=(kept++later).rtake n := by
  by_cases hf : kept.length≤n
  · have ha : kept.rtake n=kept := by simp [List.rtake,Nat.sub_eq_zero_of_le hf]
    rw [ha]
  have hl : (kept.drop (kept.length-n)).length=n := by
    rw [length_drop]
    omega
  have hs : kept.length+later.length-n=(kept.length-n)+later.length := by omega
  simp only [List.rtake,length_append,hl,Nat.add_sub_cancel_left,hs]
  rw [← drop_drop,drop_append_of_le_length (Nat.sub_le _ _)]

structure Ring (α : Type) where
  slots : List α
  start : Nat
  len : Nat
  len_le : len ≤ slots.length

namespace Ring

def capacity (r : Ring α) : Nat := r.slots.length
def contents (r : Ring α) : List α := (r.slots.rotate r.start).take r.len

def empty (capacity : Nat) (fill : α) : Ring α :=
  ⟨List.replicate capacity fill,0,0,Nat.zero_le _⟩

def writeLoop (slots : List α) (start len : Nat) (values : List α) : List α :=
  if _h : values=[] ∨ slots=[] then slots
  else
    let pos := (start+len)%slots.length
    let chunk := min values.length (slots.length-pos)
    writeLoop (writeAt slots pos (values.take chunk)) start (len+chunk) (values.drop chunk)
termination_by values.length
decreasing_by
  have hvalues : 0 < values.length := length_pos_iff.mpr fun h => _h (.inl h)
  have hslots : 0 < slots.length := length_pos_iff.mpr fun h => _h (.inr h)
  have hpos : (start+len)%slots.length < slots.length := Nat.mod_lt _ hslots
  simp only [length_drop]
  omega

lemma getElem?_rotate_slot (slots : List α) (start i : Nat) (hi : i < slots.length) :
    (slots.rotate start)[i]?=slots[(start+i)%slots.length]? := by
  rw [List.getElem?_rotate hi,Nat.add_comm]

lemma writeAt_contents (slots values : List α) (start len : Nat)
    (hln : len+values.length ≤ slots.length)
    (hr : (start+len)%slots.length+values.length ≤ slots.length) :
    ((writeAt slots ((start+len)%slots.length) values).rotate start).take (len+values.length)=
      (slots.rotate start).take len++values := by
  have hl := writeAt_length hr
  apply ext_getElem?
  intro i
  by_cases hi : i<len+values.length
  · rw [List.getElem?_take_of_lt hi,getElem?_rotate_slot _ _ _ (by omega),hl,getElem?_writeAt hr]
    by_cases hold : i<len
    · rw [List.getElem?_append_left (by simp; omega),List.getElem?_take_of_lt hold,
        getElem?_rotate_slot _ _ _ (by omega),if_neg]
      -- a slot in the run is a later one of the circle
      rintro ⟨hlw,hh⟩
      obtain ⟨j,hj⟩ := Nat.exists_eq_add_of_le hlw
      have hm : (start+i)%slots.length=(start+len+j)%slots.length := by
        rw [hj,Nat.add_mod (start+len) j,Nat.mod_eq_of_lt (a := j) (by omega),
          Nat.mod_eq_of_lt (a := (start+len)%slots.length+j) (by omega)]
      have hd : slots.length ∣ start+len+j-(start+i) :=
        Nat.dvd_of_mod_eq_zero (Nat.sub_mod_eq_zero_of_mod_eq hm.symm)
      have hle := Nat.le_of_dvd (by omega) hd
      omega
    have hsl : (start+i)%slots.length=(start+len)%slots.length+(i-len) := by
      have hs : start+i=start+len+(i-len) := by omega
      rw [hs,Nat.add_mod,Nat.mod_eq_of_lt (a := i-len) (by omega),Nat.mod_eq_of_lt (by omega)]
    rw [hsl,if_pos (by omega),List.getElem?_append_right (by simp; omega)]
    congr 1
    simp
    omega
  have hlf : ((slots.rotate start).take len++values).length ≤ i := by
    simp
    omega
  rw [List.getElem?_take_eq_none (by omega),List.getElem?_eq_none hlf]

lemma writeLoop_contents (slots : List α) (start len : Nat) (values : List α)
    (hln : len+values.length ≤ slots.length) :
    (writeLoop slots start len values).length=slots.length ∧
    ((writeLoop slots start len values).rotate start).take (len+values.length)=
      (slots.rotate start).take len++values := by
  fun_induction writeLoop slots start len values with
  | case1 slots len values h =>
    have hv : values=[] := by
      rcases h with h | h
      · exact h
      subst h
      have hnn : len+values.length≤0 := hln
      exact eq_nil_of_length_eq_zero (by omega)
    subst hv
    simp
  | case2 slots len values h pos chunk ih =>
    have hs : 0 < slots.length := length_pos_iff.mpr fun hn => h (.inr hn)
    have hp : pos < slots.length := Nat.mod_lt _ hs
    have ht : (values.take chunk).length=chunk := length_take_of_le (Nat.min_le_left _ _)
    have hc : chunk≤values.length ∧ pos+chunk ≤ slots.length := by omega
    have hr : pos+(values.take chunk).length ≤ slots.length := by omega
    have hl := writeAt_length hr
    obtain ⟨ihlength,ihcontents⟩ := ih (by rw [hl,length_drop]; omega)
    have hrn := writeAt_contents slots (values.take chunk) start len (by omega) hr
    have hsm : len+chunk+(values.drop chunk).length=len+values.length := by
      rw [length_drop]
      omega
    refine ⟨ihlength.trans hl,?_⟩
    rw [hsm] at ihcontents
    rw [ht] at hrn
    rw [ihcontents,hrn,append_assoc,take_append_drop]

def push (r : Ring α) (values : List α) : Ring α :=
  if r.slots=[] ∨ values=[] then r
  else if hmany : r.slots.length ≤ values.length then
    ⟨writeAt r.slots 0 (values.drop (values.length-r.slots.length)),0,r.slots.length,by
      rw [writeAt_length (by rw [List.length_drop]; omega)]⟩
  else
    let drop := r.len+values.length-r.slots.length
    let start := if r.slots.length < r.len+values.length then (r.start+drop)%r.slots.length
      else r.start
    ⟨writeLoop r.slots start (r.len-drop) values,start,r.len-drop+values.length,by
      rw [(writeLoop_contents _ _ _ _ (by omega)).1]
      omega⟩

lemma contents_length (r : Ring α) : r.contents.length=r.len := by
  have hl := r.len_le
  simp [contents,hl]

@[simp] lemma contents_empty (capacity : Nat) (fill : α) : (empty capacity fill).contents=[] := by
  simp [contents,empty]

@[simp] lemma capacity_push (r : Ring α) (values : List α) :
    (r.push values).capacity=r.capacity := by
  unfold push capacity
  split
  · rfl
  split
  · exact writeAt_length (by rw [length_drop]; omega)
  have hl := r.len_le
  exact (writeLoop_contents _ _ _ _ (by omega)).1

lemma rotate_drop_contents (slots : List α) (start len drop : Nat) (hl : len ≤ slots.length)
    (hd : drop≤len) : (slots.rotate ((start+drop)%slots.length)).take (len-drop)=
      ((slots.rotate start).take len).drop drop := by
  rw [rotate_mod,← rotate_rotate]
  apply ext_getElem?
  intro i
  rw [List.getElem?_drop]
  by_cases hi : i<len-drop
  · rw [List.getElem?_take_of_lt hi,List.getElem?_take_of_lt (by omega),
      List.getElem?_rotate (by simp; omega),Nat.mod_eq_of_lt (by simp; omega),Nat.add_comm]
  · rw [List.getElem?_take_eq_none (by omega),List.getElem?_take_eq_none (by omega)]

lemma contents_push (r : Ring α) (values : List α) :
    (r.push values).contents=(r.contents++values).rtake r.capacity := by
  have hln := r.len_le
  have hc := r.contents_length
  have hr : r.contents=(r.slots.rotate r.start).take r.len := rfl
  unfold push capacity
  by_cases hn : r.slots=[] ∨ values=[]
  · rw [if_pos hn]
    rcases hn with hs | hv
    · have hnn : r.contents=[] := by simp [hr,hs]
      simp [hnn,hs,List.rtake]
    have hfw : r.contents.length-r.slots.length=0 := by omega
    simp [hv,List.rtake,hfw]
  rw [if_neg hn]
  by_cases hm : r.slots.length≤values.length
  · rw [dif_pos hm]
    have hl : (values.drop (values.length-r.slots.length)).length=r.slots.length := by
      rw [length_drop]
      omega
    have hct : r.contents.length+values.length-r.slots.length=
        r.contents.length+(values.length-r.slots.length) := by omega
    have hs : (writeAt r.slots 0 (values.drop (values.length-r.slots.length)))=
        values.drop (values.length-r.slots.length) := by
      simp [writeAt,hl]
    have hk : (r.contents++values).rtake r.slots.length=
        values.drop (values.length-r.slots.length) := by
      rw [List.rtake,length_append,hct,drop_append,drop_eq_nil_of_le (Nat.le_add_right _ _),
        nil_append,Nat.add_sub_cancel_left]
    rw [hk]
    simp only [contents,rotate_zero,hs]
    exact take_of_length_le hl.le
  rw [dif_neg hm]
  have hlp := writeLoop_contents r.slots
  by_cases hf : r.slots.length < r.len+values.length
  · have hk := rotate_drop_contents r.slots r.start r.len
      (r.len+values.length-r.slots.length) hln (by omega)
    have hct : (r.contents++values).length-r.slots.length= r.len+values.length-r.slots.length := by
      rw [length_append,hc]
    simp only [contents,if_pos hf]
    rw [(hlp _ _ _ (by omega)).2,hk,← hr,List.rtake,hct,drop_append,hc,
      show r.len+values.length-r.slots.length-r.len=0 by omega,drop_zero]
  have hnn : r.len+values.length-r.slots.length=0 := by omega
  simp only [contents,if_neg hf,hnn,Nat.sub_zero]
  rw [(hlp _ _ _ (by omega)).2,← hr,List.rtake,length_append,hc,hnn,drop_zero]

def copyFrom (r : Ring α) (offset want : Nat) : List α :=
  let pos := (r.start+offset)%r.slots.length
  (r.slots.drop pos).take (min (min want (r.len-offset)) (r.slots.length-pos))

lemma copyFrom_eq (r : Ring α) (offset want : Nat) : r.copyFrom offset want=
    (r.contents.drop offset).take (r.copyFrom offset want).length := by
  have hln := r.len_le
  by_cases hs : r.slots=[]
  · simp [copyFrom,contents,hs]
  have hp : (r.start+offset)%r.slots.length < r.slots.length := Nat.mod_lt _ (length_pos_iff.mpr hs)
  have hl : (r.copyFrom offset want).length=min (min want (r.len-offset))
      (r.slots.length-(r.start+offset)%r.slots.length) := by
    rw [copyFrom,length_take,length_drop]
    omega
  apply ext_getElem?
  intro i
  by_cases hi : i<(r.copyFrom offset want).length
  · have hsl : (r.start+(offset+i))%r.slots.length=(r.start+offset)%r.slots.length+i := by
      rw [← Nat.add_assoc,Nat.add_mod,Nat.mod_eq_of_lt (a := i) (by omega),
        Nat.mod_eq_of_lt (by omega)]
    rw [List.getElem?_take_of_lt hi,List.getElem?_drop,contents,List.getElem?_take_of_lt (by omega),
      getElem?_rotate_slot _ _ _ (by omega),hsl,copyFrom,
      List.getElem?_take_of_lt (by omega),List.getElem?_drop]
  · rw [List.getElem?_eq_none (by omega),List.getElem?_take_eq_none (by omega)]

lemma copyFrom_pos (r : Ring α) {offset want : Nat} (hw : 0<want)
    (ho : offset < r.len) : 0<(r.copyFrom offset want).length := by
  have hl := r.len_le
  have hp : (r.start+offset)%r.slots.length < r.slots.length := Nat.mod_lt _ (by omega)
  rw [copyFrom,length_take,length_drop]
  omega
end Ring

end EMSSHD
