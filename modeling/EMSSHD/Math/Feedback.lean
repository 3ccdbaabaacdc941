import Mathlib.Data.List.Basic

namespace EMSSHD.Feedback

variable {α : Type} {f : List α → List α} {size : Nat}

def stream (f : List α → List α) : Nat → List α
  | 0 => []
  | n+1 => stream f n++f (stream f n)

def block (f : List α → List α) (n : Nat) : List α := f (stream f n)

lemma stream_eq (f : List α → List α) (n : Nat) : stream f n=(List.range n).flatMap (block f) := by
  induction n with
  | zero => rfl
  | succ n ih =>
    rw [stream,List.range_succ,List.flatMap_append,← ih,List.flatMap_singleton]
    rfl

lemma stream_length (hf : ∀ l,(f l).length=size) (n : Nat) : (stream f n).length=n*size := by
  induction n with
  | zero => rw [stream,Nat.zero_mul,List.length_nil]
  | succ n ih => rw [stream,List.length_append,ih,hf,Nat.succ_mul]

lemma stream_prefix {m n : Nat} (h : m≤n) : stream f m <+: stream f n := by
  induction n with
  | zero =>
    obtain rfl := Nat.le_zero.mp h
    exact List.prefix_rfl
  | succ n ih =>
    rcases Nat.lt_or_eq_of_le h with hlt | rfl
    · exact (ih (Nat.le_of_lt_succ hlt)).trans (List.prefix_append _ _)
    · exact List.prefix_rfl

lemma stream_take (hf : ∀ l,(f l).length=size) {k m n : Nat} (hm : k ≤ m*size) (hn : k≤n*size) :
    (stream f m).take k=(stream f n).take k := by
  have hle : ∀ {m n : Nat},m≤n → k ≤ m*size → (stream f m).take k=(stream f n).take k := by
    intro m n hmn hk
    obtain ⟨rest,hr⟩ : stream f m <+: stream f n := stream_prefix hmn
    rw [← hr,List.take_append_of_le_length (by rw [stream_length hf]; exact hk)]
  rcases Nat.le_total m n with h | h
  · exact hle h hm
  · exact (hle h hn).symm

end EMSSHD.Feedback
