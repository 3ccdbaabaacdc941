import EMSSHD.Framework.Lawful
import EMSSHD.Math.Text

namespace EMSSHD.Lines

variable {α σ ε : Type}

section
variable (lineMax : Nat) (tooLong : ε) (handle : List α → Call σ ε Unit)

def each : List (List α) → Call σ ε Unit
  | [] => pure ()
  | line::lines => do
    Call.require (line.length<lineMax) tooLong
    handle line
    each lines

variable {lineMax tooLong handle}
variable {line : List α}

lemma each_cons_of_lt (h : line.length<lineMax) (lines : List (List α)) :
    each lineMax tooLong handle (line::lines)=
      handle line >>= fun _ => each lineMax tooLong handle lines := by
  rw [each,Call.require,if_pos h]
  rfl

lemma each_congr {handle' : List α → Call σ ε Unit} {lines : List (List α)}
    (h : ∀ line∈lines,handle line=handle' line) :
    each lineMax tooLong handle lines=each lineMax tooLong handle' lines := by
  induction lines with
  | nil => rfl
  | cons line lines ih =>
    obtain ⟨hln,hl⟩ := List.forall_mem_cons.mp h
    rw [each,each,hln,ih hl]
end

variable [DecidableEq α]

section
variable (lineMax : Nat) (sep : α) (tooLong : ε) (handle : List α → Call σ ε Unit)

/-- Takes in a text behind the line that has been begun. Every line that is ended is handed over,
and the line begun last is the result. -/
def feed : List α → List α → Call σ ε (List α)
  | line,[] => pure line
  | line,x::rest =>
    if x=sep then do
      handle line
      feed [] rest
    else if lineMax≤line.length+1 then Call.fail tooLong
    else feed (line++[x]) rest
end

variable {lineMax : Nat} {sep : α} {tooLong : ε} {handle : List α → Call σ ε Unit}

lemma feed_append (line front back : List α) :
    feed lineMax sep tooLong handle line (front++back)=
      feed lineMax sep tooLong handle line front >>= fun begun =>
        feed lineMax sep tooLong handle begun back := by
  induction front generalizing line with
  | nil => rfl
  | cons x front ih =>
    simp only [List.cons_append,feed]
    split_ifs
    · rw [bind_assoc]
      congr 1
      funext _
      exact ih []
    · rfl
    · exact ih _

variable {line : List α}

lemma each_of_long (hln : ∀ x∈line,x≠sep) (hlg : lineMax≤line.length) (text : List α) :
    each lineMax tooLong handle ((line++text).splitOnP (·=sep))=Call.fail tooLong := by
  obtain ⟨rest,lines,hs⟩ := Text.exists_splitOnP_append hln text
  rw [hs,each,Call.require,if_neg (by rw [List.length_append]; omega)]
  rfl

lemma feed_each (hl : ∀ x∈line,x≠sep) (hln : line.length<lineMax) (text : List α) :
    feed lineMax sep tooLong handle line text >>= handle=
      each lineMax tooLong handle ((line++text).splitOnP (·=sep)) := by
  induction text generalizing line with
  | nil =>
    rw [List.append_nil,Text.splitOnP_line hl,each_cons_of_lt hln,feed]
    exact (bind_pure (handle line)).symm
  | cons x text ih =>
    have hp : ([] : List α).length<lineMax := Nat.lt_of_le_of_lt (Nat.zero_le _) hln
    rw [feed]
    split_ifs with hx hf
    · rw [hx,Text.splitOnP_line_cons hl,each_cons_of_lt hln,bind_assoc]
      congr 1
      funext _
      exact ih (List.forall_mem_nil _) hp
    · have hn : ∀ y∈line++[x],y≠sep := List.forall_mem_append.mpr ⟨hl,by simpa using hx⟩
      have ha : line++x::text=line++[x]++text := by simp
      rw [ha,each_of_long hn (by simpa using hf)]
      rfl
    have hn : ∀ y∈line++[x],y≠sep := List.forall_mem_append.mpr ⟨hl,by simpa using hx⟩
    have ha : line++x::text=line++[x]++text := by simp
    rw [ha]
    exact ih hn (by simp; omega)

end EMSSHD.Lines
