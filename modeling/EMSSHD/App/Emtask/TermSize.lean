import EMSSHD.App.Emtask.TermSteps

namespace EMSSHD.Emtask

open Call

variable {σ : Type} {p : TermPlatform σ} {s t : Terminal σ} {cols rows widthPx heightPx : UInt32}

def ChildHas (s : Terminal σ) (cols rows : UInt32) : Prop :=
  ∃ size ∈ s.log.childSize,size.cols.toNat=cols.toNat ∧ size.rows.toNat=rows.toNat

def GridHas (s : Terminal σ) (cols rows : UInt32) : Prop :=
  ∃ screen ∈ s.term.screen,screen.cols=cols.toNat ∧ screen.rows=rows.toNat

/-- The child has no terminal any more when an attach looks for it. -/
def ChildEnded (p : TermPlatform σ) (s : Terminal σ) : Prop :=
  s.term.running=false ∨ ∃ code,(p.answer .pollExit s.world).1=.ok (some code)

/-- A size that a client may ask for. -/
structure SizeFits (cols rows : UInt32) : Prop where
  cols_pos : cols≠0
  rows_pos : rows≠0
  cols_le : cols.toNat ≤ 65535
  rows_le : rows.toNat ≤ 65535
  count_le : cols.toNat*rows.toNat ≤ 1000000

lemma withDefaultSize_winSize (t : Term) : t.withDefaultSize.winSize=t.winSize := by
  have hcl : emtaskDefaultTermCols≠0 := by decide
  have hrw : emtaskDefaultTermRows≠0 := by decide
  by_cases hc : t.cols=0 <;> by_cases hr : t.rows=0 <;>
    simp [Term.winSize,Term.withDefaultSize,hc,hr,hcl,hrw]

lemma withSize_winSize (h : SizeFits cols rows) (t : Term) :
    (t.withSize cols rows widthPx heightPx).winSize.cols.toNat=cols.toNat ∧
    (t.withSize cols rows widthPx heightPx).winSize.rows.toNat=rows.toNat := by
  have hc := h.cols_le
  have hr := h.rows_le
  simp only [Term.winSize,Term.withDefaultSize,Term.withSize,h.cols_pos,h.rows_pos,ne_eq,
    not_false_eq_true,if_true,if_false,UInt32.toNat_toUInt16]
  omega

lemma leaves_noteRestart_winSize :
    Leaves (fun s : Terminal σ => s.term.winSize) (noteRestart p) := by
  refine Leaves.get.bind fun s => .onlyIf (.bind (fun _ => rfl) fun _ => Leaves.get.bind fun t => ?_)
  refine .ite (.bind (fun _ => rfl) fun _ => .bind (fun _ => rfl) fun _ => .fail _) ?_
  exact .onlyIf fun _ => rfl

lemma spawnLocked_childSize (counted : Bool) : (spawnLocked p counted).Ensures s
    (Outcome (fun _ t => t.log.childSize=some s.term.winSize) fun _ _ => True) := by
  have hs : ∀ t : Terminal σ,(platformSpawn p).Ensures t
      (Outcome (fun _ u => u.log.childSize=some t.term.winSize) fun _ _ => True) := by
    intro t
    refine bindModify (bindGet (ensures_bindAsk ?_))
    refine bindRequire (fun _ => bindModify (Ensures.modify ?_)) fun _ => trivial
    exact congrArg some (withDefaultSize_winSize t.term)
  refine bindGet (bindRequire (fun _ => ?_) fun _ => trivial)
  refine bindRequire (fun _ => ?_) fun _ => trivial
  have hn : (onlyIf (counted=true) (noteRestart p)).Ensures s
      fun _ t => t.term.winSize=s.term.winSize := leaves_noteRestart_winSize.onlyIf s
  refine hn.bind (fun _ t ht => bindModify (bindStatus ?_)) fun _ _ _ => trivial
  refine (hs _).mono fun r u hu => ?_
  cases r with
  | ok _ => exact hu.trans (congrArg some ht)
  | error _ => exact trivial

lemma pollExit_size (p : TermPlatform σ) (s : Terminal σ) : (pollExit p).Ensures s (Outcome
    (fun _ t => t.log=s.log ∧ t.term.winSize=s.term.winSize ∧
      (t.term.running=false ↔ ChildEnded p s)) fun _ _ => True) := by
  refine bindGet (Ensures.ite (fun hs => ?_) fun hr => ensures_bindAsk ?_)
  · exact ⟨rfl,rfl,by simp [ChildEnded,hs]⟩
  refine bindLift (fun code hc => ?_) fun _ _ => trivial
  cases code with
  | none => exact ⟨rfl,rfl,by simp [ChildEnded,hr,hc]⟩
  | some code => exact ⟨rfl,rfl,iff_of_true rfl (.inr ⟨code,hc⟩)⟩

lemma ensureRunning_size (s : Terminal σ) : (ensureRunning p).Ensures s (Outcome
    (fun _ t => (ChildEnded p s → t.log.childSize=some s.term.winSize) ∧
      (¬ChildEnded p s → t.log.childSize=s.log.childSize)) fun _ _ => True) := by
  refine (pollExit_size p s).bind (fun _ t ht => ?_) fun _ _ _ => trivial
  obtain ⟨hl,hsz,he⟩ := ht
  refine bindGet (Ensures.onlyIf (fun hs => ?_) fun hr => ?_)
  · refine bindRequire (fun _ => ?_) fun _ => trivial
    refine (spawnLocked_childSize _).mono fun r u hu => ?_
    cases r with
    | ok _ => exact ⟨fun _ => hu.trans (congrArg some hsz),
        fun hn => absurd (he.mp hs) hn⟩
    | error _ => exact trivial
  · exact ⟨fun h => absurd (he.mpr h) hr,fun _ => congrArg _ hl⟩

lemma prepareAttach_size (termType : Bytes) (s : Terminal σ) :
    (prepareAttach p termType cols rows widthPx heightPx).Ensures s (Outcome
      (fun _ t => (ChildEnded p s → t.log.childSize=
          some (s.term.withSize cols rows widthPx heightPx).winSize) ∧
        (¬ChildEnded p s → t.log.childSize=s.log.childSize)) fun _ _ => True) := by
  have hty : (onlyIf (termType≠[]) (do
      require (termType.length<64) .bufferTooSmall
      modifyTerm ({· with termType := termType})) : TermCall σ Unit).Ensures s
        (Outcome (fun _ t => t={s with term := {s.term with termType := t.term.termType}})
          fun _ _ => True) := by
    refine Ensures.onlyIf (fun _ => bindRequire (fun _ => rfl) fun _ => trivial) fun _ => rfl
  refine hty.bind (fun _ t ht => bindModify ?_) fun _ _ _ => trivial
  refine (ensureRunning_size _).bind (fun _ u hu => ensures_bindAsk ?_) fun _ _ _ => trivial
  rw [ht] at hu
  refine bindRequire (fun _ => bindGet ?_) fun _ => trivial
  exact Ensures.onlyIf (fun _ => hu) fun _ => hu

lemma attach_size_iff (hf : SizeFits cols rows) {termType : Bytes}
    (hok : (attachCommon p termType cols rows widthPx heightPx).run s=(.ok (),t)) :
    ChildHas t cols rows ∧ GridHas t cols rows ↔
      (ChildEnded p s ∨ ChildHas s cols rows) ∧ GridHas s cols rows := by
  have hsp : (attachCommon p termType cols rows widthPx heightPx).Ensures s (Outcome
      (fun _ t => (ChildEnded p s → t.log.childSize=
          some (s.term.withSize cols rows widthPx heightPx).winSize) ∧
        (¬ChildEnded p s → t.log.childSize=s.log.childSize)) fun _ _ => True) := by
    refine bindGet (bindRequire (fun _ => ?_) fun _ => trivial)
    exact (prepareAttach_size termType s).bind (fun _ _ ht => ht) fun _ _ _ => trivial
  obtain ⟨hen,hr⟩ := hsp.of_eq hok
  have hs : t.term.screen=s.term.screen := by
    obtain ⟨u,hu,rfl⟩ := attachCommon_ok hok
    exact congrArg OutputSide.screen hu
  have hg : GridHas t cols rows ↔ GridHas s cols rows := by simp only [GridHas,hs]
  rw [hg]
  refine and_congr_left fun _ => ?_
  by_cases he : ChildEnded p s
  · refine iff_of_true ?_ (.inl he)
    exact ⟨_,hen he,withSize_winSize hf s.term⟩
  · simp only [ChildHas,hr he,he,false_or]

lemma screenResize_without (hf : SizeFits cols rows) (screen : Screen) :
    screenResize (some screen) cols rows false=
      if screen.cols=cols.toNat ∧ screen.rows=rows.toNat then .ok screen else .error .platform := by
  have hcl : cols.toNat≠0 := fun h => hf.cols_pos (UInt32.toNat_inj.mp h)
  have hr : rows.toNat≠0 := fun h => hf.rows_pos (UInt32.toNat_inj.mp h)
  have hc : ¬(cols.toNat*rows.toNat=0 ∨ 1000000 < cols.toNat*rows.toNat) := by
    have hle := hf.count_le
    have hp : cols.toNat*rows.toNat≠0 := Nat.mul_ne_zero hcl hr
    omega
  by_cases hs : screen.cols=cols.toNat ∧ screen.rows=rows.toNat
  · simp [screenResize,hf.cols_pos,hf.rows_pos,Option.filter,hs]
  have hn : newScreen cols rows false=.error .platform := by rw [newScreen,dif_neg hc,if_pos rfl]
  simp [screenResize,hf.cols_pos,hf.rows_pos,Option.filter,hs,hn]

lemma resizeScreen_grid (hf : SizeFits cols rows) (hs : s.term.screen.isSome=true)
    (hc : s.term.cols=cols) (hr : s.term.rows=rows) :
    (resizeScreen p).Ensures s fun r t => r=.ok () ∧ t.log=s.log ∧ (GridHas t cols rows ↔
      GridHas s cols rows ∨ (p.answer .calloc s.world).1=true) := by
  obtain ⟨screen,hsm⟩ := Option.isSome_iff_exists.mp hs
  have hg : GridHas s cols rows ↔ screen.cols=cols.toNat ∧ screen.rows=rows.toNat := by
    simp [GridHas,hsm]
  have hw := screenResize_without hf screen
  refine bindGet (Ensures.onlyIf (fun hgo => ensures_bindAsk ?_) fun hk => ?_)
  · have hm := needsMemory_iff.mp hgo.2
    have hn : ¬GridHas s cols rows := by
      intro hh
      rw [hsm,hc,hr,hw,if_pos (hg.mp hh)] at hm
      cases hm
    refine Ensures.onlyIf (fun ha => Ensures.modify ?_) fun hnn => ?_
    · obtain ⟨resized,hrs,hsz⟩ := screenResize_memory hm
      refine ⟨rfl,rfl,iff_of_true ⟨resized,?_,?_⟩ (.inr ha)⟩
      · simp [hrs,Except.toOption]
      · simpa [hc,hr,hf.cols_pos,hf.rows_pos] using hsz
    · exact ⟨rfl,rfl,iff_of_false hn fun h => h.elim hn hnn⟩
  refine ⟨rfl,rfl,iff_of_true ?_ (.inl ?_)⟩
  all_goals
    by_contra hn
    refine hk ⟨hs,needsMemory_iff.mpr ?_⟩
    rw [hsm,hc,hr,hw,if_neg (mt hg.mpr hn)]

lemma resize_size_iff (hf : SizeFits cols rows) (hsc : s.term.screen.isSome=true)
    (hok : (termResize p cols rows widthPx heightPx).run s=(.ok (),t)) :
    ChildHas t cols rows ∧ GridHas t cols rows ↔
      (s.term.running=true ∨ ChildHas s cols rows) ∧
      (GridHas s cols rows ∨ (p.answer .calloc s.world).1=true) := by
  have hsp : (termResize p cols rows widthPx heightPx).Ensures s (Outcome
      (fun _ t => (ChildHas t cols rows ↔ s.term.running=true ∨ ChildHas s cols rows) ∧
        (GridHas t cols rows ↔ GridHas s cols rows ∨ (p.answer .calloc s.world).1=true))
      fun _ _ => True) := by
    refine bindGet (bindRequire (fun _ => bindModify ?_) fun _ => trivial)
    have hrs := resizeScreen_grid (p := p)
      (s := {s with term := s.term.withSize cols rows widthPx heightPx}) hf hsc
      (if_pos hf.cols_pos) (if_pos hf.rows_pos)
    refine bindGet (hrs.bind (fun _ u hu => ?_) fun _ _ _ => trivial)
    obtain ⟨-,hl,hg⟩ := hu
    refine Ensures.onlyIf (fun hr => ensures_bindAsk ?_) fun hs => ⟨?_,hg⟩
    · refine bindRequire (fun _ => Ensures.modify ⟨?_,hg⟩) fun _ => trivial
      exact iff_of_true ⟨_,rfl,withSize_winSize hf s.term⟩ (.inl hr)
    have hs : ¬s.term.running=true := hs
    simp only [ChildHas,hl,hs,Bool.false_eq_true,false_or]
  obtain ⟨hc,hg⟩ := hsp.of_eq hok
  exact and_congr hc hg

lemma hasScreen_step (h : s.term.screen.isSome=true) (hs : TermStep p true s t) :
    t.term.screen.isSome=true := by
  cases hs with
  | spawn counted =>
    have hl := congrArg OutputSide.screen (leaves_spawnLocked (p := p) counted s)
    exact (congrArg Option.isSome hl).trans h
  | minor u hu _ =>
    rw [hu]
    exact h
  | screen screen _ => rfl
  | capture bytes _ =>
    show (s.term.screen.map (feedScreen p · bytes)).isSome=true
    rwa [Option.isSome_map]
  | readCapture bytes _ _ _ =>
    show (s.term.screen.map (feedScreen p · bytes)).isSome=true
    rwa [Option.isSome_map]
  | _ => exact h

/-- In every run of a terminal with a snapshot: an attach that succeeds leaves child and grid at
its size exactly when the child had ended or had the size, and the grid had it; a resize exactly
when the child runs or had the size, and the grid had it or gets memory for it. -/
theorem terminal_size_iff (config : TermConfig) (hsnapshot : config.screenSnapshot=true)
    (replayAllocated screenAllocated : Bool) {term : Term}
    (hinit : termInit config replayAllocated screenAllocated=.ok term) {world : σ}
    (hrun : TermRun p (fun _ => True) (freshTerminal term world) s)
    (hfits : SizeFits cols rows) (widthPx heightPx : UInt32) :
    (∀ termType t,(attachCommon p termType cols rows widthPx heightPx).run s=(.ok (),t) →
      (ChildHas t cols rows ∧ GridHas t cols rows ↔
        (ChildEnded p s ∨ ChildHas s cols rows) ∧ GridHas s cols rows)) ∧
    (∀ t,(termResize p cols rows widthPx heightPx).run s=(.ok (),t) →
      (ChildHas t cols rows ∧ GridHas t cols rows ↔
        (s.term.running=true ∨ ChildHas s cols rows) ∧
        (GridHas s cols rows ∨ (p.answer .calloc s.world).1=true))) := by
  obtain ⟨screen,rfl,hs⟩ := termInit_ok hinit
  have hsm : s.term.screen.isSome=true :=
    hrun.invariant (fun s => s.term.screen.isSome=true) (fun _ => rfl) (hs.trans hsnapshot)
      fun _ _ h hst => hasScreen_step h hst
  exact ⟨fun _ _ hok => attach_size_iff hfits hok,fun _ hok => resize_size_iff hfits hsm hok⟩

def startedShell : Terminal Bytes := TermOp.startInitial.apply (simplePlatform none)
  (freshTerminal (newTerm {shellConfig 8 with screenSnapshot := true}
    (screenResize none emtaskDefaultTermCols emtaskDefaultTermRows true).toOption) [])

/-- A client with the size that the child was started with. -/
theorem terminal_size_iff_default : ∃ t,
    (attachCommon (simplePlatform none) [] 80 24 0 0).run startedShell=(.ok (),t) ∧
    ChildHas t 80 24 ∧ GridHas t 80 24 := by
  have hf : SizeFits 80 24 := ⟨by decide,by decide,by decide,by decide,by decide⟩
  have hi := (terminal_size_iff (s := startedShell) {shellConfig 8 with screenSnapshot := true} rfl
    true true rfl (p := simplePlatform none) (.op .startInitial .start trivial) hf 0 0).1 [] _ rfl
  exact ⟨_,rfl,hi.mpr ⟨.inr ⟨_,rfl,by decide⟩,⟨_,rfl,by decide⟩⟩⟩

/-- A client with another size attaches to the child that runs, and neither the child nor the
grid hears of it. -/
theorem attach_size_ignored : ∃ t,
    (attachCommon (simplePlatform none) [] 100 30 0 0).run startedShell=(.ok (),t) ∧
    SizeFits 100 30 ∧ ChildHas t 80 24 ∧ ¬ChildHas t 100 30 ∧ GridHas t 80 24 ∧
    ¬GridHas t 100 30 := by
  have hf : SizeFits 100 30 := ⟨by decide,by decide,by decide,by decide,by decide⟩
  refine ⟨_,rfl,hf,⟨_,rfl,by decide⟩,?_,⟨_,rfl,by decide⟩,?_⟩
  · rintro ⟨size,hsz,hc,-⟩
    have hg : (80 : Nat)=size.cols.toNat :=
      congrArg (fun s : WinSize => s.cols.toNat) (Option.some.inj hsz)
    exact absurd (hg.trans hc) (by decide)
  rintro ⟨screen,hs,hc,-⟩
  have hgr : (80 : Nat)=screen.cols := congrArg Screen.cols (Option.some.inj hs)
  exact absurd (hgr.trans hc) (by decide)

end EMSSHD.Emtask
