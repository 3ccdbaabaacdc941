import EMSSHD.App.Emtask.Grid

namespace EMSSHD

open Machine

namespace Screen

lemma newline_keeps (s : Screen) : s.newline.size=s.size ∧ s.newline.cursorCol=s.cursorCol ∧
    s.newline.wrapPending=false := by
  have hup : Redrawn {s with wrapPending := false} (scrollUp {s with wrapPending := false}) :=
    (scrollUp_redrawn _).frame
  unfold newline
  dsimp only
  split_ifs
  · rw [hup]
    exact ⟨rfl,rfl,rfl⟩
  · exact ⟨rfl,rfl,rfl⟩
  · exact ⟨rfl,rfl,rfl⟩

lemma wrap_cursor (s : Screen) : s.wrap.size=s.size ∧
    s.wrap.cursorCol=(if s.wrapPending then 0 else s.cursorCol) ∧ s.wrap.wrapPending=false := by
  unfold wrap
  split_ifs with hw
  · exact newline_keeps {s with cursorCol := 0}
  · exact ⟨rfl,rfl,Bool.eq_false_of_not_eq_true hw⟩

lemma putChar_size (s : Screen) (ch : UInt8) : (s.putChar ch).size=s.size := by
  obtain ⟨hs,-,-⟩ := wrap_cursor s
  unfold putChar
  dsimp only
  split_ifs <;> exact hs

lemma putChar_advances {s : Screen} (ch : UInt8)
    (hr : (if s.wrapPending then 0 else s.cursorCol)+1<s.cols) :
    (s.putChar ch).cursorCol=(if s.wrapPending then 0 else s.cursorCol)+1 ∧
    (s.putChar ch).wrapPending=false := by
  obtain ⟨hs,hc,hw⟩ := wrap_cursor s
  have hl : ¬(s.wrap.setCell ch).cols≤(s.wrap.setCell ch).cursorCol+1 := by
    show ¬s.wrap.size.cols ≤ s.wrap.cursorCol+1
    rw [hs,hc]
    exact Nat.not_le_of_lt hr
  unfold putChar
  dsimp only
  rw [if_neg hl]
  exact ⟨congrArg (·+1) hc,hw⟩
end Screen

def FeedState.TabFits (c : FeedState) : Prop :=
  ∀ input,c.tab=none → c.screen.escState=.ground → c.input=9::input →
    c.screen.tabStop<c.screen.cols

variable {c : FeedState} {next : Nat} {s : Screen}

lemma tab_beyond_not_halts (ht : c.tab=some next) (hby : c.screen.cols≤next)
    (hb : c.screen.Bounded) : ¬Halts feedStep c := by
  refine not_halts (fun c : FeedState => c.tab=some next ∧ c.screen.cols≤next ∧ c.screen.Bounded) ?_
    ⟨ht,hby,hb⟩
  rintro c ⟨ht,hby,hb⟩
  have hg : c.screen.cursorCol<next ∧ c.screen.cursorCol<c.screen.cols :=
    ⟨Nat.lt_of_lt_of_le hb.col hby,hb.col⟩
  have hs : (c.screen.putChar 32).cols=c.screen.cols :=
    congrArg GridSize.cols (c.screen.putChar_size 32)
  refine ⟨{c with screen := c.screen.putChar 32},?_,ht,?_,hb.putChar 32⟩
  · simp only [feedStep,ht,if_pos hg]
  rw [hs]
  exact hby

def tabTurns (next : Nat) (c : FeedState) : Nat :=
  if c.screen.wrapPending then next+1 else next-c.screen.cursorCol

lemma tab_turn (ht : c.tab=some next) (hn : next<c.screen.cols) (hg : c.screen.cursorCol<next) :
    feedStep c=some {c with screen := c.screen.putChar 32} ∧
    (c.screen.putChar 32).cols=c.screen.cols ∧
    tabTurns next {c with screen := c.screen.putChar 32}<tabTurns next c := by
  have hc : c.screen.cursorCol<next ∧ c.screen.cursorCol<c.screen.cols := ⟨hg,Nat.lt_trans hg hn⟩
  have hr : (if c.screen.wrapPending then 0 else c.screen.cursorCol)+1<c.screen.cols := by
    split_ifs <;> omega
  obtain ⟨hcl,hw⟩ := Screen.putChar_advances 32 hr
  refine ⟨?_,congrArg GridSize.cols (c.screen.putChar_size 32),?_⟩
  · simp only [feedStep,ht,if_pos hc]
  simp only [tabTurns,hw,hcl]
  cases c.screen.wrapPending <;> grind

lemma tab_leaves (s : Screen) (input : Bytes) (hn : next<s.cols) :
    ∃ t,Steps feedStep ⟨s,input,some next⟩ ⟨t,input,none⟩ := by
  obtain ⟨d,hs,⟨ht,hi,-⟩,he⟩ := leaves
    (fun c : FeedState => c.tab=some next ∧ c.input=input ∧ next<c.screen.cols)
    (fun c => next ≤ c.screen.cursorCol) (tabTurns next)
    (fun c hc => by
      obtain ⟨ht,hi,hn⟩ := hc
      by_cases hg : c.screen.cursorCol<next
      · obtain ⟨hst,hsm,hl⟩ := tab_turn ht hn hg
        exact .inr ⟨_,hst,⟨ht,hi,hsm ▸ hn⟩,hl⟩
      · exact .inl (Nat.le_of_not_lt hg))
    (c := ⟨s,input,some next⟩) ⟨rfl,rfl,hn⟩
  obtain ⟨t,left,tab⟩ := d
  obtain rfl : left=input := hi
  obtain rfl : tab=some next := ht
  have hd : ¬(t.cursorCol<next ∧ t.cursorCol<t.cols) := fun h => Nat.not_lt_of_le he h.1
  have hls : feedStep ⟨t,left,some next⟩=some ⟨t,left,none⟩ := by simp only [feedStep,if_neg hd]
  exact ⟨t,hs.tail hls⟩

lemma feed_byte_ends {ch : UInt8} {input : Bytes} (hft : FeedState.TabFits ⟨s,ch::input,none⟩) :
    ∃ t,Steps feedStep ⟨s,ch::input,none⟩ ⟨t,input,none⟩ := by
  by_cases ht : s.escState=.ground ∧ ch=9
  · obtain ⟨hg,rfl⟩ := ht
    have hst : s.tabStop<s.cols := hft input rfl hg rfl
    obtain ⟨t,hs⟩ := tab_leaves s input hst
    have hf : feedStep ⟨s,9::input,none⟩=some ⟨s,input,some s.tabStop⟩ := by simp [feedStep,hg]
    exact ⟨t,hs.head hf⟩
  have hf : feedStep ⟨s,ch::input,none⟩=some ⟨s.feedByte ch,input,none⟩ := by
    simp only [feedStep,if_neg ht]
  exact ⟨_,.single hf⟩

lemma feed_halts {bytes : Bytes} (hf : ∀ c,Steps feedStep ⟨s,bytes,none⟩ c → c.TabFits) :
    Halts feedStep ⟨s,bytes,none⟩ := by
  induction bytes generalizing s with
  | nil => exact ⟨_,.refl,rfl⟩
  | cons ch input ih =>
    obtain ⟨t,hs⟩ := feed_byte_ends (hf _ .refl)
    exact .of_steps hs (ih (fun c hc => hf c (hs.trans hc)))

/-- A feed comes to an end just when the tab stop of every tab that it comes to is on the
screen. -/
theorem feed_halts_iff (s : Screen) (hrun : EmulatorRun ⟨s,[],none⟩) (bytes : Bytes) :
    Halts feedStep ⟨s,bytes,none⟩ ↔
      ∀ c,Steps feedStep ⟨s,bytes,none⟩ c → c.TabFits := by
  refine ⟨?_,feed_halts⟩
  intro hh c hs input ht hg hi
  by_contra hby
  have hf : feedStep c=some ⟨c.screen,input,some c.screen.tabStop⟩ := by simp [feedStep,ht,hi,hg]
  have hb : c.screen.Bounded := ((hrun.fed bytes).steps hs).bounded
  have hst := tab_beyond_not_halts (c := ⟨c.screen,input,some c.screen.tabStop⟩) rfl
    (Nat.le_of_not_lt hby) hb
  exact hst ((hh.steps hs).next hf)

theorem feed_halts_iff_tab : Halts feedStep ⟨.blank defaultSize,[65,9,66],none⟩ ∧
    ∀ c,Steps feedStep ⟨.blank defaultSize,[65,9,66],none⟩ c → c.TabFits := by
  have he : (runFor feedStep 11 ⟨.blank defaultSize,[65,9,66],none⟩).map
      (fun c => (feedStep c).isNone)=some true := by decide +kernel
  obtain ⟨d,hd,hn⟩ := Option.map_eq_some_iff.mp he
  have hh : Halts feedStep ⟨.blank defaultSize,[65,9,66],none⟩ :=
    ⟨d,.of_runFor hd,Option.isNone_iff_eq_none.mp hn⟩
  exact ⟨hh,(feed_halts_iff _ (.fresh defaultSize) _).mp hh⟩

/-- On a screen of 80 columns a tab in column 73 is never done with. -/
theorem feed_tab_never_ends : ∃ s bytes,EmulatorRun ⟨s,[],none⟩ ∧
    ¬Halts feedStep ⟨s,bytes,none⟩ := by
  refine ⟨.blank defaultSize,[27,91,55,51,71,9],.fresh defaultSize,?_⟩
  have hat : (runFor feedStep 6 ⟨.blank defaultSize,[27,91,55,51,71,9],none⟩).map
      FeedState.tab=some (some 80) := by decide +kernel
  obtain ⟨d,hd,ht⟩ := Option.map_eq_some_iff.mp hat
  have hc : (runFor feedStep 6 ⟨.blank defaultSize,[27,91,55,51,71,9],none⟩).map
      (fun c => c.screen.cols)=some 80 := by decide +kernel
  rw [hd] at hc
  intro hh
  refine tab_beyond_not_halts ht ?_ ?_ (hh.steps (.of_runFor hd))
  · exact Nat.le_of_eq (Option.some.inj hc)
  · exact (EmulatorRun.of_default hd).bounded

end EMSSHD
