import EMSSHD.Core.Status

namespace EMSSHD

def cString (storage : Bytes) : Bytes := storage.takeWhile (·≠0)

variable {text : Bytes}

lemma cString_of_noNul (h : 0∉text) (rest : Bytes) : cString (text++(0::rest))=text := by
  induction text with
  | nil => rfl
  | cons x text ih =>
    have hx : x≠0 := fun hx => h (hx ▸ mem_cons_self)
    have ht := ih fun hm => h (mem_cons_of_mem _ hm)
    rw [cons_append,cString,takeWhile_cons_of_pos (by simpa using hx)]
    exact congrArg (List.cons x) ht

lemma cString_eq_self (h : 0∉text) : cString text=text := by
  have ha : ∀ c∈text,decide (c≠0)=true := fun c hc =>
    decide_eq_true fun he => h (he ▸ hc)
  have ht : (text++[]).takeWhile (·≠0)=text++[] := List.takeWhile_append_of_pos ha
  rwa [append_nil] at ht

lemma cString_noNul (storage : Bytes) : 0∉cString storage := by
  intro hm
  have hz := all_eq_true.mp all_takeWhile 0 hm
  simp at hz

lemma cString_append (text rest : Bytes) :
    cString (text++rest)=if 0∈text then cString text else text++cString rest := by
  induction text with
  | nil => simp
  | cons x text ih =>
    by_cases hx : x=0
    · simp [cString,hx]
    have hm : 0∈x::text ↔ 0∈text := by simp [Ne.symm hx]
    have hc : ∀ more,cString (x::more)=x::cString more := fun more =>
      takeWhile_cons_of_pos (by simpa using hx)
    rw [cons_append,hc,ih,hc]
    simp only [hm]
    split_ifs <;> rfl

lemma cString_copy_iff (text rest : Bytes) : cString (text++(0::rest))=text ↔ 0∉text := by
  refine ⟨fun h => ?_,fun h => cString_of_noNul h rest⟩
  rw [← h]
  exact cString_noNul _

/-- The files that the callbacks open for reading: each read gives a piece, and an empty
piece is the end. -/
abbrev TextFs := (path : Bytes) → Except Err (List (Except Err Bytes))

def stripCr (line : Bytes) : Bytes := if line.getLast?=some 13 then line.dropLast else line

variable {α : Type} (lineMax : Nat) (handle : Bytes → Except Err (Option α))

def scanPiece : Bytes → Bytes → Except Err (α⊕Bytes)
  | line,[] => .ok (.inr line)
  | line,ch::rest =>
    if ch=10 then match handle (cString (stripCr line)) with
      | .error e => .error e
      | .ok (some a) => .ok (.inl a)
      | .ok none => scanPiece [] rest
    else if lineMax≤line.length+1 then .error .bufferTooSmall
    else scanPiece (line++[ch]) rest

def scanEnd (line : Bytes) : Except Err (Option α) :=
  if line.length≠0 then handle (cString (stripCr line)) else .ok none

def scanFile : Bytes → List (Except Err Bytes) → Except Err (Option α)
  | line,[] => scanEnd handle line
  | _,.error e::_ => .error e
  | line,.ok piece::rest =>
    if piece.length=0 then scanEnd handle line
    else match scanPiece lineMax handle line piece with
      | .error e => .error e
      | .ok (.inl a) => .ok (some a)
      | .ok (.inr line) => scanFile line rest

end EMSSHD
