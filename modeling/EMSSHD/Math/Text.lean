import Mathlib.Data.List.DropRight
import Mathlib.Tactic

namespace EMSSHD.Text

open List

variable {α : Type}

def pieces (n : Nat) (l : List α) : List (List α) :=
  if l=[] ∨ n=0 then [] else l.take n::pieces n (l.drop n)
termination_by l.length
decreasing_by
  have hpos := length_pos_of_ne_nil (by tauto : l≠[])
  rw [length_drop]
  omega

@[simp] lemma pieces_nil (n : Nat) : pieces n ([] : List α)=[] := by
  rw [pieces,if_pos (.inl rfl)]

variable {n : Nat} {l piece : List α}

lemma pieces_eq_cons (hn : 0<n) (h : l≠[]) : pieces n l=l.take n::pieces n (l.drop n) := by
  rw [pieces,if_neg (not_or.mpr ⟨h,hn.ne'⟩)]

lemma pieces_of_length_le (h : l≠[]) (hle : l.length≤n) : pieces n l=[l] := by
  have hp := length_pos_of_ne_nil h
  rw [pieces_eq_cons (by omega) h,take_of_length_le hle,drop_of_length_le hle,pieces_nil]

lemma pieces_append {front : List α} {m : Nat} (hn : 0<n) (hf : front.length=n*m) (l : List α) :
    pieces n (front++l)=pieces n front++pieces n l := by
  induction m generalizing front with
  | zero =>
    rw [length_eq_zero_iff.mp hf,pieces_nil]
    rfl
  | succ m ih =>
    have hl : n≤front.length := hf ▸ Nat.le_mul_of_pos_right n m.succ_pos
    have hne : front≠[] := ne_nil_of_length_pos (hn.trans_le hl)
    have hd : (front.drop n).length=n*m := by
      rw [length_drop,hf,Nat.mul_succ,Nat.add_sub_cancel]
    rw [pieces_eq_cons hn (append_ne_nil_of_left_ne_nil hne l),pieces_eq_cons hn hne,
      take_append_of_le_length hl,drop_append_of_le_length hl,ih hd,cons_append]

lemma pieces_flatten (hn : 0<n) (l : List α) : (pieces n l).flatten=l := by
  fun_induction pieces n l with
  | case1 l h =>
    rw [h.resolve_right hn.ne']
    rfl
  | case2 l h ih => rw [flatten_cons,ih,take_append_drop]

lemma mem_of_mem_piece {x : α} (hp : piece∈pieces n l) (hx : x∈piece) : x∈l := by
  fun_induction pieces n l with
  | case1 l h => cases hp
  | case2 l h ih =>
    rcases mem_cons.mp hp with rfl | hp
    · exact mem_of_mem_take hx
    · exact mem_of_mem_drop (ih hp)

section
variable {p : α → Bool} {l rest : List α}

lemma takeWhile_append_stop (hl : ∀ x∈l,p x=true) (hr : ∀ x∈rest.head?,p x=false) :
    (l++rest).takeWhile p=l := by
  rw [List.takeWhile_append_of_pos hl]
  cases rest with
  | nil => rw [List.takeWhile_nil,append_nil]
  | cons y rest => simp [hr y rfl]

lemma dropWhile_append_stop (hl : ∀ x∈l,p x=true) (hr : ∀ x∈rest.head?,p x=false) :
    (l++rest).dropWhile p=rest := by
  rw [List.dropWhile_append_of_pos hl]
  cases rest with
  | nil => rfl
  | cons y rest => simp [hr y rfl]

lemma scan_cases (p : α → Bool) (l : List α) : (∀ x∈l.takeWhile p,p x=true) ∧
    (l.dropWhile p=[] ∨ ∃ y rest,l.dropWhile p=y::rest ∧ p y=false) := by
  refine ⟨fun x hx => all_eq_true.mp all_takeWhile x hx,?_⟩
  rcases hr : l.dropWhile p with _ | ⟨y,rest⟩
  · exact .inl rfl
  have hh := head?_dropWhile_not p l
  rw [hr] at hh
  exact .inr ⟨y,rest,rfl,by simpa using hh⟩
end

lemma forall_mem_piece {p : α → Bool} (h : piece∈l.splitOnP p) : ∀ x∈piece,p x=false := by
  induction l generalizing piece with
  | nil =>
    rw [List.splitOnP_nil,mem_singleton] at h
    rw [h]
    exact forall_mem_nil _
  | cons y l ih =>
    rw [List.splitOnP_cons_eq_if_modifyHead] at h
    rcases hs : l.splitOnP p with _ | ⟨first,rest⟩
    · exact absurd hs (List.splitOnP_ne_nil p l)
    rw [hs] at h ih
    split_ifs at h with hy
    · rcases mem_cons.mp h with rfl | hm
      · exact forall_mem_nil _
      · exact ih hm
    rcases mem_cons.mp h with rfl | hm
    · exact forall_mem_cons.mpr ⟨by simpa using hy,ih mem_cons_self⟩
    · exact ih (mem_cons_of_mem _ hm)

section
variable {blank : α → Bool}

def words (blank : α → Bool) (l : List α) : List (List α) := (l.splitOnP blank).filter (·≠[])

@[simp] lemma words_nil (blank : α → Bool) : words blank ([] : List α)=[] := by
  simp [words,List.splitOnP_nil]

variable {x : α} {w : List α}

lemma words_append_blank (front : List α) (hx : blank x=true) (back : List α) :
    words blank (front++x::back)=words blank front++words blank back := by
  rw [words,List.splitOnP_append_cons front back hx,filter_append]
  rfl

lemma mem_words {l : List α} (h : w∈words blank l) : w≠[] ∧ ∀ x∈w,blank x=false := by
  obtain ⟨hm,hne⟩ := mem_filter.mp h
  exact ⟨by simpa using hne,forall_mem_piece hm⟩

lemma words_blank_cons (hx : blank x=true) (l : List α) : words blank (x::l)=words blank l := by
  simpa using words_append_blank [] hx l

lemma words_append_last (l : List α) (hx : blank x=true) : words blank (l++[x])=words blank l := by
  simpa using words_append_blank l hx []

lemma words_dropWhile (l : List α) : words blank (l.dropWhile blank)=words blank l := by
  induction l with
  | nil => rfl
  | cons x l ih =>
    by_cases hx : blank x=true
    · rw [List.dropWhile_cons_of_pos hx,ih,words_blank_cons hx]
    · rw [List.dropWhile_cons_of_neg hx]

lemma words_of_word (hne : w≠[]) (hw : ∀ x∈w,blank x=false) : words blank w=[w] := by
  rw [words,List.splitOnP_eq_singleton hw]
  simp [hne]

lemma words_eq_cons (hx : blank x=false) (l : List α) :
    words blank (x::l)=(x::l).takeWhile (!blank ·)::words blank ((x::l).dropWhile (!blank ·)) := by
  have hs := List.takeWhile_append_dropWhile (p := (!blank ·)) (l := x::l)
  have hne : (x::l).takeWhile (!blank ·)≠[] := by simp [hx]
  have hw : ∀ y∈(x::l).takeWhile (!blank ·),blank y=false := by
    intro y hy
    simpa using all_eq_true.mp all_takeWhile y hy
  rcases hr : (x::l).dropWhile (!blank ·) with _ | ⟨y,rest⟩
  · rw [hr,append_nil] at hs
    rw [words_nil,← words_of_word hne hw,hs]
  have hy : blank y=true := by
    have hh := head?_dropWhile_not (!blank ·) (x::l)
    rw [hr] at hh
    simpa using hh
  have hsp := congrArg (words blank) hs
  rw [hr,words_append_blank _ hy,words_of_word hne hw] at hsp
  rw [← hsp,words_blank_cons hy]
  rfl

lemma words_eq_cons_of_ne {l : List α} (h : l.takeWhile (!blank ·)≠[]) :
    words blank l=l.takeWhile (!blank ·)::words blank (l.dropWhile (!blank ·)) := by
  rcases l with _ | ⟨x,l⟩
  · exact absurd rfl h
  have hx : blank x=false := by
    by_contra hb
    exact h (List.takeWhile_cons_of_neg (by simpa using hb))
  exact words_eq_cons hx l

lemma words_rdropWhile (l : List α) : words blank (l.rdropWhile blank)=words blank l := by
  induction l using List.reverseRecOn with
  | nil => simp
  | append_singleton l x ih =>
    by_cases hx : blank x=true
    · rw [List.rdropWhile_concat_pos _ _ _ hx,ih,words_append_last l hx]
    · rw [List.rdropWhile_concat_neg _ _ _ hx]
end

section
def behindFirst (kind : α → Bool) (l : List α) : Option α :=
  ((l.dropWhile (!kind ·)).drop 1).head?

lemma behindFirst_cons (kind : α → Bool) (x : α) (l : List α) :
    behindFirst kind (x::l)=if kind x=true then l.head? else behindFirst kind l := by
  unfold behindFirst
  by_cases hx : kind x=true <;> simp [hx]

variable {kind : α → Bool} {l : List α}

lemma behindFirst_eq_some_iff {x : α} :
    behindFirst kind l=some x ↔ ∃ before first after,l=before++first::x::after ∧
      (∀ y∈before,kind y=false) ∧ kind first=true := by
  constructor
  · intro h
    have hs := List.takeWhile_append_dropWhile (p := (!kind ·)) (l := l)
    have hb : ∀ y∈l.takeWhile (!kind ·),kind y=false := by
      intro y hy
      simpa using all_eq_true.mp all_takeWhile y hy
    unfold behindFirst at h
    rcases hr : l.dropWhile (!kind ·) with _ | ⟨first,rest⟩
    · simp [hr] at h
    have hf := head?_dropWhile_not (!kind ·) l
    rw [hr] at h hs hf
    rcases rest with _ | ⟨y,after⟩
    · simp at h
    obtain rfl : y=x := by simpa using h
    exact ⟨_,first,after,hs.symm,hb,by simpa using hf⟩
  intro h
  obtain ⟨before,first,after,rfl,hb,hf⟩ := h
  have hd : (before++first::x::after).dropWhile (!kind ·)=first::x::after := by
    rw [List.dropWhile_append_of_pos fun y hy => by simp [hb y hy]]
    simp [hf]
  rw [behindFirst,hd]
  rfl

lemma behindFirst_append_of_none (h : ∀ x∈l,kind x=false) (r : List α) :
    behindFirst kind (l++r)=behindFirst kind r := by
  induction l with
  | nil => rfl
  | cons x l ih =>
    rw [cons_append,behindFirst_cons,if_neg (by simp [h x (by simp)])]
    exact ih fun y hy => h y (mem_cons_of_mem x hy)

lemma behindFirst_append_of_some (h : ∃ x∈l,kind x=true) (r : List α) :
    behindFirst kind (l++r)=(behindFirst kind l).or r.head? := by
  induction l with
  | nil => simp at h
  | cons x l ih =>
    rw [cons_append,behindFirst_cons,behindFirst_cons]
    by_cases hx : kind x=true
    · rw [if_pos hx,if_pos hx]
      cases l <;> simp
    rw [if_neg hx,if_neg hx]
    obtain ⟨y,hy,hk⟩ := h
    rcases mem_cons.mp hy with rfl | hy
    · exact absurd hk hx
    · exact ih ⟨y,hy,hk⟩
end

variable [DecidableEq α]

def segmentLen (n : Nat) (sep : α) (l : List α) : Nat := min n ((l.takeWhile (·≠sep)).length+1)

def segments (n : Nat) (sep : α) (l : List α) : List (List α) :=
  if l=[] ∨ n=0 then []
  else l.take (segmentLen n sep l)::segments n sep (l.drop (segmentLen n sep l))
termination_by l.length
decreasing_by
  have hpos := length_pos_of_ne_nil (by tauto : l≠[])
  rw [length_drop,segmentLen]
  omega

lemma segments_nil (n : Nat) (sep : α) : segments n sep []=[] := by
  rw [segments,if_pos (.inl rfl)]

variable {n : Nat} {sep : α}
variable {l line : List α}

lemma segments_eq_cons (hn : 0<n) (h : l≠[]) : segments n sep l=
    l.take (segmentLen n sep l)::segments n sep (l.drop (segmentLen n sep l)) := by
  rw [segments,if_neg (not_or.mpr ⟨h,hn.ne'⟩)]

lemma splitOnP_line (hl : ∀ x∈line,x≠sep) : line.splitOnP (·=sep)=[line] :=
  List.splitOnP_eq_singleton fun x hx => decide_eq_false (hl x hx)

lemma splitOnP_line_cons (hl : ∀ x∈line,x≠sep) (rest : List α) :
    (line++sep::rest).splitOnP (·=sep)=line::rest.splitOnP (·=sep) :=
  List.splitOnP_append_cons_of_forall_mem (fun x hx => decide_eq_false (hl x hx)) sep
    (decide_eq_true rfl) rest

lemma takeWhile_line (hl : ∀ x∈line,x≠sep) (rest : List α) :
    (line++sep::rest).takeWhile (·≠sep)=line := by
  rw [List.takeWhile_append_of_pos fun x hx => decide_eq_true (hl x hx)]
  simp

lemma line_cases (sep : α) (l : List α) : ∃ line,(∀ x∈line,x≠sep) ∧
    (l=line ∨ ∃ rest,l=line++sep::rest) := by
  have hl : ∀ x∈l.takeWhile (·≠sep),x≠sep := by
    intro x hx
    simpa using all_eq_true.mp all_takeWhile x hx
  refine ⟨l.takeWhile (·≠sep),hl,?_⟩
  have hs := List.takeWhile_append_dropWhile (p := (·≠sep)) (l := l)
  rcases hr : l.dropWhile (·≠sep) with _ | ⟨y,rest⟩
  · left
    rw [hr,append_nil] at hs
    exact hs.symm
  right
  have hy : y=sep := by
    have hh := head?_dropWhile_not (·≠sep) l
    rw [hr] at hh
    simpa using hh
  rw [hr,hy] at hs
  exact ⟨rest,hs.symm⟩

/-- A list is a last line, or a line and a separator in front of a list. -/
@[elab_as_elim] lemma line_induction {motive : List α → Prop} (sep : α)
    (last : ∀ line,(∀ x∈line,x≠sep) → motive line)
    (more : ∀ line rest,(∀ x∈line,x≠sep) → motive rest → motive (line++sep::rest))
    (l : List α) : motive l := by
  induction hln : l.length using Nat.strong_induction_on generalizing l with
  | _ len ih =>
    obtain ⟨line,hl,rfl | ⟨rest,rfl⟩⟩ := line_cases sep l
    · exact last l hl
    · have hs : rest.length<len := by rw [← hln,length_append,length_cons]; omega
      exact more line rest hl (ih rest.length hs rest rfl)

lemma infix_of_mem_line (hl : line∈l.splitOnP (·=sep)) : line<:+:l := by
  induction l using line_induction sep with
  | last l hf =>
    rw [splitOnP_line hf,mem_singleton] at hl
    rw [hl]
  | more first rest hf ih =>
    rw [splitOnP_line_cons hf,mem_cons] at hl
    rcases hl with rfl | hl
    · exact (prefix_append _ _).isInfix
    · exact (ih hl).trans ((suffix_cons _ _).trans (suffix_append _ _)).isInfix

lemma exists_splitOnP_append (hl : ∀ x∈line,x≠sep) (text : List α) :
    ∃ rest lines,(line++text).splitOnP (·=sep)=(line++rest)::lines := by
  obtain ⟨rest,hr,ht⟩ := line_cases sep text
  have ha : ∀ x∈line++rest,x≠sep := forall_mem_append.mpr ⟨hl,hr⟩
  rcases ht with rfl | ⟨more,rfl⟩
  · exact ⟨_,[],splitOnP_line ha⟩
  · exact ⟨rest,_,by rw [← append_assoc,splitOnP_line_cons ha]⟩

lemma segments_line (hn : 0<n) (hl : ∀ x∈line,x≠sep) : segments n sep line=pieces n line := by
  fun_induction pieces n line with
  | case1 line h => rw [h.resolve_right hn.ne',segments_nil]
  | case2 line h ih =>
    have he := (not_or.mp h).1
    have hw : line.takeWhile (·≠sep)=line := by
      have ht : (line++[]).takeWhile (·≠sep)=line++[].takeWhile (·≠sep) :=
        List.takeWhile_append_of_pos fun x hx => decide_eq_true (hl x hx)
      simpa using ht
    have hs := ih fun x hx => hl x (mem_of_mem_drop hx)
    rw [segments_eq_cons hn he,segmentLen,hw]
    rcases Nat.le_total n (line.length+1) with hle | hle
    · rw [Nat.min_eq_left hle,hs]
    rw [Nat.min_eq_right hle,← hs,take_of_length_le (by omega),take_of_length_le (by omega),
      drop_of_length_le (by omega),drop_of_length_le (by omega)]

lemma splitOnP_append_sep (l rest : List α) :
    (l++sep::rest).splitOnP (·=sep)=l.splitOnP (·=sep)++rest.splitOnP (·=sep) :=
  List.splitOnP_append_cons l rest (decide_eq_true rfl)

lemma splitOnP_eq_concat (l : List α) :
    l.splitOnP (·=sep)=(l.splitOnP (·=sep)).dropLast++[(l.splitOnP (·=sep)).getLastD []] := by
  have hne := List.splitOnP_ne_nil (·=sep) l
  rw [List.getLastD_eq_getLast?,List.getLast?_eq_some_getLast hne]
  exact (List.dropLast_append_getLast hne).symm

lemma splitOnP_append_line (l : List α) (hln : ∀ x∈line,x≠sep) :
    (l++line).splitOnP (·=sep)=
      (l.splitOnP (·=sep)).dropLast++[(l.splitOnP (·=sep)).getLastD []++line] := by
  induction l using line_induction sep with
  | last l hf =>
    have ha : ∀ x∈l++line,x≠sep := forall_mem_append.mpr ⟨hf,hln⟩
    rw [splitOnP_line ha,splitOnP_line hf]
    rfl
  | more first rest hf ih =>
    have hne := List.splitOnP_ne_nil (·=sep) rest
    rw [append_assoc,cons_append,splitOnP_line_cons hf,splitOnP_line_cons hf,ih]
    obtain ⟨second,lines,hl⟩ := exists_cons_of_ne_nil hne
    rw [List.dropLast_cons_of_ne_nil hne,hl]
    rfl

variable {P : List α → Prop}

lemma exists_segment_line_cons (hn : 0<n) (hnl : ¬P []) (hs : ∀ x,P (x++[sep]) ↔ P x)
    {line : List α} (hl : ∀ x∈line,x≠sep) (rest : List α) :
    (∃ s∈segments n sep (line++sep::rest),P s) ↔
      (∃ piece∈pieces n line,P piece) ∨ ∃ s∈segments n sep rest,P s := by
  induction hln : line.length using Nat.strong_induction_on generalizing line with
  | _ len ih =>
    rw [segments_eq_cons hn (by simp),segmentLen,takeWhile_line hl,exists_mem_cons_iff]
    by_cases hsh : line.length<n
    · have hm : min n (line.length+1)=line.length+1 := by omega
      have ht : (line++sep::rest).take (line.length+1)=line++[sep] := by simp [take_append]
      have hd : (line++sep::rest).drop (line.length+1)=rest := by simp [drop_append]
      rw [hm,ht,hd,hs]
      by_cases he : line=[]
      · simp [he,hnl]
      rw [pieces_of_length_le he (by omega)]
      simp
    have hm : min n (line.length+1)=n := by omega
    have hne : line≠[] := ne_nil_of_length_pos (by omega)
    have hr : ∀ x∈line.drop n,x≠sep := fun x hx => hl x (mem_of_mem_drop hx)
    rw [hm,take_append_of_le_length (by omega),drop_append_of_le_length (by omega),
      ih (line.drop n).length (by rw [length_drop]; omega) hr rfl,
      pieces_eq_cons hn hne,exists_mem_cons_iff,or_assoc]

/-- A property that does not see a separator at the end holds of a segment exactly when it holds
of a piece of a line. -/
theorem exists_segment_iff (hn : 0<n) (hnl : ¬P []) (hs : ∀ x,P (x++[sep]) ↔ P x) (l : List α) :
    (∃ s∈segments n sep l,P s) ↔ ∃ line∈l.splitOnP (·=sep),∃ piece∈pieces n line,P piece := by
  induction l using line_induction sep with
  | last line hl =>
    rw [segments_line hn hl,splitOnP_line hl]
    simp
  | more line rest hl ih =>
    rw [exists_segment_line_cons hn hnl hs hl,ih,splitOnP_line_cons hl,exists_mem_cons_iff]

end EMSSHD.Text
