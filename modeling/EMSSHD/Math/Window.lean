import Mathlib.Data.List.Basic
import Mathlib.Tactic.Common

namespace EMSSHD

def recent (window now : Nat) (times : List Nat) : List Nat :=
  times.filter fun ts => now-ts < window

def during (window start : Nat) (times : List Nat) : List Nat :=
  times.filter fun ts => start ≤ ts ∧ ts < start+window

/-- No interval of a window has more than a number of times in it. -/
def Paced (limit window : Nat) (times : List Nat) : Prop :=
  ∀ start,(during window start times).length ≤ limit

lemma paced_nil (limit window : Nat) : Paced limit window [] := fun _ => Nat.zero_le _

@[simp] lemma recent_append (window now : Nat) (times later : List Nat) :
    recent window now (times++later)=recent window now times++recent window now later :=
  List.filter_append ..

variable {limit now window : Nat}

lemma recent_recent {later : Nat} (hl : now≤later) (times : List Nat) :
    recent window later (recent window now times)=recent window later times := by
  unfold recent
  rw [List.filter_filter]
  congr 1
  funext ts
  by_cases hr : later-ts<window
  · have hn : now-ts<window := by omega
    simp [hr,hn]
  · simp [hr]

lemma Paced.append {times : List Nat} (h : Paced limit window times)
    (hr : (recent window now times).length<limit) : Paced limit window (times++[now]) := by
  intro start
  have hs : during window start (times++[now])=
      during window start times++during window start [now] := List.filter_append ..
  rw [hs,List.length_append]
  by_cases hin : start≤now ∧ now < start+window
  · have hsb : (during window start times).length≤(recent window now times).length := by
      apply List.Sublist.length_le
      apply List.monotone_filter_right
      intro ts hts
      simp only [decide_eq_true_eq] at hts ⊢
      omega
    have ho : (during window start [now]).length=1 := by simp [during,hin]
    omega
  have hn : during window start [now]=[] := by simp [during,hin]
  rw [hn]
  exact h start

lemma not_paced_replicate {n : Nat} (hw : 0<window) (hn : limit<n) :
    ¬Paced limit window (List.replicate n now) := by
  intro h
  have ha : during window now (List.replicate n now)=List.replicate n now := by simp [during,hw]
  have hle := h now
  rw [ha,List.length_replicate] at hle
  omega

end EMSSHD
