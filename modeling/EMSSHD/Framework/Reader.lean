import EMSSHD.Math.Bytes

namespace EMSSHD

def Reader (α : Type) : Type := Bytes → Option (α×Bytes)

namespace Reader
variable {α β : Type}

protected def bind (r : Reader α) (f : α → Reader β) : Reader β := fun input =>
  match r input with
  | none => none
  | some (a,rest) => f a rest

instance : Monad Reader where
  pure a := fun input => some (a,input)
  bind := Reader.bind

def takeBytes (n : Nat) : Reader Bytes := fun input =>
  if n ≤ input.length then some (input.take n,input.drop n) else none

def word (n : Nat) : Reader Nat := do
  let bytes ← takeBytes n
  pure (beValue bytes)

def string : Reader Bytes := do
  let n ← word 4
  takeBytes n

def Reads (r : Reader α) (src : Bytes) (a : α) : Prop := ∀ rest,r (src++rest)=some (a,rest)

lemma reads_pure (a : α) : Reads (pure a) [] a := fun _ => rfl

variable {r : Reader α} {s : Bytes} {a : α}

lemma Reads.bind {f : α → Reader β} {t : Bytes} {b : β} (hr : Reads r s a)
    (hf : Reads (f a) t b) : Reads (r >>= f) (s++t) b := by
  intro rest
  have hfr := hr (t++rest)
  rw [← append_assoc] at hfr
  change Reader.bind r f _=_
  unfold Reader.bind
  rw [hfr]
  exact hf rest

lemma Reads.map (f : α → β) (hr : Reads r s a) : Reads (r >>= fun x => pure (f x)) s (f a) := by
  have h : Reads (r >>= fun x => pure (f x)) (s++[]) (f a) := hr.bind (reads_pure (f a))
  rwa [append_nil] at h

lemma reads_takeBytes (bytes : Bytes) : Reads (takeBytes bytes.length) bytes bytes := by
  intro rest
  unfold takeBytes
  rw [if_pos (by simp),take_left,drop_left]

lemma reads_word (n value : Nat) : Reads (word n) (beBytes n value) (value%256^n) := by
  have h := reads_takeBytes (beBytes n value)
  rw [beBytes_length] at h
  have hm := h.map beValue
  rw [beValue_beBytes] at hm
  exact hm

lemma reads_string {bytes : Bytes} (hl : bytes.length<256^4) :
    Reads string (beBytes 4 bytes.length++bytes) bytes := by
  have hw := reads_word 4 bytes.length
  rw [Nat.mod_eq_of_lt hl] at hw
  exact hw.bind (reads_takeBytes bytes)

lemma Reads.ite {p : Prop} [Decidable p] {z : α} (hr : Reads r s a) :
    Reads (if p then r else pure z) (if p then s else []) (if p then a else z) := by
  split_ifs
  · exact hr
  · exact reads_pure z
end Reader

end EMSSHD
