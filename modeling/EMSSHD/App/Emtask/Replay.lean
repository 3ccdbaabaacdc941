import EMSSHD.App.Emtask.TermSteps

namespace EMSSHD.Emtask

open Call

variable {σ : Type} {p : TermPlatform σ} {capacity : Nat}

def OutputSide.replayed (o : OutputSide) (capacity : Nat) : Bytes :=
  (o.delivered.take o.attachedAt).rtake capacity

/-- The client has received the replay up to its offset, and all output since the attach. No
output comes while a part of the replay remains. -/
structure ReplaysTo (capacity : Nat) (o : OutputSide) (a : Attachment) : Prop where
  before : o.attachedAt ≤ o.delivered.length
  waits : a.replayRemaining≠0 → o.delivered.length=o.attachedAt
  sum : a.replayOffset+a.replayRemaining=(o.replayed capacity).length
  received : o.received=(o.replayed capacity).take a.replayOffset ++ o.delivered.drop o.attachedAt

/-- A terminal with a replay and without a snapshot. -/
structure Replays (capacity : Nat) (o : OutputSide) : Prop where
  screen : o.screen=none
  onAttach : o.replayOnAttach=true
  capacity_eq : o.replay.capacity=capacity
  contents : o.replay.contents=o.delivered.rtake capacity
  attached : o.attached=o.attachment.isSome
  client : ∀ a,o.attachment=some a → ReplaysTo capacity o a

lemma ready_eq {t : Term} (hs : t.screen=none) (a : Attachment) (len : Nat) :
    t.ready a len=replayCopy t.replay a len := by
  simp [Term.ready,hs]

section
variable {o : OutputSide} {a : Attachment} {len : Nat}

lemma Replays.replayed_eq (h : Replays capacity o) (ha : o.attachment=some a)
    (hr : a.replayRemaining≠0) : o.replayed capacity=o.replay.contents := by
  have hl := (h.client a ha).waits hr
  rw [OutputSide.replayed,← hl,take_length,h.contents]

lemma Replays.offset_lt (h : Replays capacity o) (ha : o.attachment=some a)
    (hr : a.replayRemaining≠0) : a.replayOffset<o.replay.len := by
  have hs := (h.client a ha).sum
  rw [h.replayed_eq ha hr,Ring.contents_length] at hs
  omega

lemma Replays.copy_next (h : Replays capacity o) (ha : o.attachment=some a)
    (hr : a.replayRemaining≠0) (hl : len≠0) : ∃ bytes,
    replayCopy o.replay a len=(bytes,{a with
      replayOffset := a.replayOffset+bytes.length
      replayRemaining := a.replayRemaining-bytes.length}) ∧
    bytes≠[] ∧ bytes.length≤a.replayRemaining ∧
    bytes=((o.replayed capacity).drop a.replayOffset).take bytes.length := by
  have ho := h.offset_lt ha hr
  have hc : o.replay.capacity≠0 := by
    have hle := o.replay.len_le
    show o.replay.slots.length≠0
    omega
  refine ⟨o.replay.copyFrom a.replayOffset (min len a.replayRemaining),?_,?_,?_,?_⟩
  · rw [replayCopy,if_neg (by simp [hl,hc,hr]),if_neg (by omega)]
  · exact length_pos_iff.mp (o.replay.copyFrom_pos (by omega) ho)
  · rw [Ring.copyFrom,length_take]
    omega
  rw [h.replayed_eq ha hr]
  exact o.replay.copyFrom_eq _ _

lemma Replays.copied (h : Replays capacity o) (ha : o.attachment=some a) (hl : len≠0) :
    ReplaysTo capacity {o with
        attachment := some (replayCopy o.replay a len).2
        received := o.received++(replayCopy o.replay a len).1}
      (replayCopy o.replay a len).2 := by
  have hc := h.client a ha
  by_cases hr : a.replayRemaining=0
  · have hn : replayCopy o.replay a len=([],a) := by simp [replayCopy,hr]
    rw [hn]
    exact ⟨hc.before,hc.waits,hc.sum,(append_nil _).trans hc.received⟩
  obtain ⟨bytes,hcp,-,hle,hb⟩ := h.copy_next ha hr hl
  have hnn : o.delivered.drop o.attachedAt=[] := by rw [← hc.waits hr,drop_length]
  rw [hcp]
  refine ⟨hc.before,fun _ => hc.waits hr,?_,?_⟩
  · have hs : a.replayOffset+a.replayRemaining=(o.replayed capacity).length := hc.sum
    show a.replayOffset+bytes.length+(a.replayRemaining-bytes.length)=(o.replayed capacity).length
    omega
  show o.received++bytes=(o.replayed capacity).take (a.replayOffset+bytes.length) ++
    o.delivered.drop o.attachedAt
  rw [hc.received,hnn,append_nil,append_nil,List.take_add,← hb]

lemma Replays.copy_none (h : Replays capacity o) (ha : o.attachment=some (replayCopy o.replay a len).2)
    (hl : len≠0) (hnn : (replayCopy o.replay a len).1=[]) :
    (replayCopy o.replay a len).2.replayRemaining=0 := by
  by_contra hr
  have ho := h.offset_lt ha hr
  have hle := o.replay.len_le
  unfold replayCopy at hnn hr ho
  by_cases hn : len=0 ∨ o.replay.capacity=0 ∨ a.replayRemaining=0
  · rw [if_pos hn] at hr ho
    have hc : o.replay.slots.length=0 := (hn.resolve_left hl).resolve_right hr
    omega
  rw [if_neg hn] at hnn hr
  by_cases he : o.replay.len≤a.replayOffset
  · rw [if_pos he] at hr
    exact hr rfl
  rw [if_neg he] at hnn
  have hp : 0<(o.replay.copyFrom a.replayOffset (min len a.replayRemaining)).length :=
    o.replay.copyFrom_pos (by omega) (by omega)
  have hem : (o.replay.copyFrom a.replayOffset (min len a.replayRemaining)).length=0 :=
    congrArg List.length hnn
  omega
end

section
variable {s t : Terminal σ}

lemma Replays.pushed {o : OutputSide} (h : Replays capacity o) (bytes : Bytes) :
    (o.replay.push bytes).contents=(o.delivered++bytes).rtake capacity := by
  rw [Ring.contents_push,h.contents,h.capacity_eq,rtake_append_rtake]

lemma Replays.capture (h : Replays capacity s.outputSide) (hf : s.term.attached=false)
    (bytes : Bytes) : Replays capacity (s.captured p bytes).outputSide where
  screen := congrArg (Option.map _) h.screen
  onAttach := h.onAttach
  capacity_eq := (Ring.capacity_push _ _).trans h.capacity_eq
  contents := h.pushed bytes
  attached := h.attached
  client a ha := by
    have hn : s.attachment.isSome=false := h.attached.symm.trans hf
    have hs : s.attachment=some a := ha
    rw [hs] at hn
    cases hn

lemma Replays.attach (h : Replays capacity s.outputSide) :
    Replays capacity s.attachedNow.outputSide where
  screen := h.screen
  onAttach := h.onAttach
  capacity_eq := h.capacity_eq
  contents := h.contents
  attached := rfl
  client a ha := by
    have hn : s.term.newAttachment=a := Option.some.inj ha
    have hs : s.term.screen=none := h.screen
    have ho : s.term.replayOnAttach=true := h.onAttach
    have hr : s.attachedNow.outputSide.replayed capacity=s.term.replay.contents := by
      show (s.log.delivered.take s.log.delivered.length).rtake capacity=_
      rw [take_length]
      exact h.contents.symm
    subst hn
    refine ⟨Nat.le_refl _,fun _ => rfl,?_,?_⟩
    · rw [hr,Ring.contents_length]
      simp [Term.newAttachment,hs,ho]
    show []=_++s.log.delivered.drop s.log.delivered.length
    simp [Term.newAttachment]

variable {a : Attachment} {len : Nat}

lemma Replays.readReady (h : Replays capacity s.outputSide) (ha : s.attachment=some a)
    (hl : len≠0) : Replays capacity
      ({s with attachment := some (s.term.ready a len).2}.received (s.term.ready a len).1).outputSide := by
  rw [ready_eq h.screen]
  refine ⟨h.screen,h.onAttach,h.capacity_eq,h.contents,?_,?_⟩
  · have hat : s.term.attached=s.attachment.isSome := h.attached
    rw [ha] at hat
    exact hat
  intro b hb
  have hs : (replayCopy s.term.replay a len).2=b := Option.some.inj hb
  exact hs ▸ h.copied ha hl

lemma Replays.readCapture (h : Replays capacity s.outputSide)
    (ha : s.attachment=some (s.term.ready a len).2) (hl : len≠0) (hn : (s.term.ready a len).1=[])
    (bytes : Bytes) : Replays capacity ((s.captured p bytes).received bytes).outputSide := by
  rw [ready_eq h.screen] at ha hn
  have hd := h.copy_none ha hl hn
  refine ⟨congrArg (Option.map _) h.screen,h.onAttach,(Ring.capacity_push _ _).trans h.capacity_eq,
    h.pushed bytes,h.attached,fun b hb => ?_⟩
  have hb : s.attachment=some b := hb
  have hc := h.client b hb
  have hbf : s.log.attachedAt ≤ s.log.delivered.length := hc.before
  have hrm : b.replayRemaining=0 := by
    rw [ha] at hb
    exact Option.some.inj hb ▸ hd
  have hr : ((s.captured p bytes).received bytes).outputSide.replayed capacity=
      s.outputSide.replayed capacity := by
    show ((s.log.delivered++bytes).take s.log.attachedAt).rtake capacity=_
    rw [List.take_append_of_le_length hbf]
    rfl
  refine ⟨?_,fun hnt => absurd hrm hnt,?_,?_⟩
  · show s.log.attachedAt≤(s.log.delivered++bytes).length
    rw [length_append]
    omega
  · rw [hr]
    exact hc.sum
  rw [hr]
  show s.log.received++bytes=_++(s.log.delivered++bytes).drop s.log.attachedAt
  rw [List.drop_append_of_le_length hbf,← append_assoc]
  exact congrArg (· ++ bytes) hc.received

lemma Replays.step {closes : Bool} (h : Replays capacity s.outputSide)
    (hst : TermStep p closes s t) : Replays capacity t.outputSide := by
  cases hst with
  | spawn counted =>
    rw [leaves_spawnLocked counted s]
    exact h
  | minor u hu _ =>
    rw [hu]
    exact h
  | screen screen hs =>
    have hsc : s.term.screen=none := h.screen
    rw [hsc] at hs
    cases hs
  | capture bytes hf => exact h.capture hf bytes
  | attach _ => exact h.attach
  | readReady len ha hl => exact h.readReady ha hl
  | readCapture bytes ha hl hn => exact h.readCapture ha hl hn bytes
  | close _ => exact ⟨h.screen,h.onAttach,h.capacity_eq,h.contents,rfl,fun _ ha => by cases ha⟩
  | _ => exact h

/-- The attachment that began behind some output is still there. -/
structure AttachedSince (before : Bytes) (o : OutputSide) : Prop where
  attached : o.attached=true
  attachedAt : o.attachedAt=before.length
  later : before <+: o.delivered

lemma AttachedSince.step {before : Bytes} (h : AttachedSince before s.outputSide)
    (hs : TermStep p false s t) : AttachedSince before t.outputSide := by
  have ha : s.term.attached=true := h.attached
  cases hs with
  | spawn counted =>
    rw [leaves_spawnLocked counted s]
    exact h
  | minor u hu _ =>
    rw [hu]
    exact h
  | capture bytes hf => exact absurd (ha.symm.trans hf) (by simp)
  | attach hf => exact absurd (ha.symm.trans hf) (by simp)
  | readCapture bytes _ _ _ =>
    exact ⟨h.attached,h.attachedAt,h.later.trans (List.prefix_append _ _)⟩
  | close hc => cases hc
  | _ => exact ⟨h.attached,h.attachedAt,h.later⟩
end

variable {s t : Terminal σ}

lemma newTerm_replays {config : TermConfig} (hr : config.replayOnAttach=true)
    (world : σ) : Replays config.replayBufferBytes
      (freshTerminal (newTerm config none) world).outputSide where
  screen := rfl
  onAttach := hr
  capacity_eq := length_replicate
  contents := (Ring.contents_empty _ _).trans (List.rtake_nil _).symm
  attached := rfl
  client _ ha := by cases ha

variable {a : Attachment}

lemma termRead_replays (h : Replays capacity s.outputSide) (ha : s.attachment=some a)
    (hr : a.replayRemaining≠0) (hrn : s.term.running=true) {len : Nat} (hl : len≠0) :
    (termRead p len).Ensures s fun r _ => ∃ bytes,r=.ok bytes ∧ bytes≠[] := by
  obtain ⟨bytes,hc,hsm,-⟩ := h.copy_next ha hr hl
  have hrd : (s.term.ready a len).1=bytes := by
    rw [ready_eq h.screen]
    exact congrArg Prod.fst hc
  refine bindGet ?_
  rw [ha]
  refine Ensures.ite (fun hst => ?_) fun _ => bindModify ?_
  · rcases hst with hz | hs
    · exact absurd hz hl
    rw [hrn] at hs
    cases hs
  rw [hrd,orCapture,if_pos hsm]
  exact ⟨bytes,rfl,hsm⟩

lemma ReplaysTo.received_iff {o : OutputSide} {before : Bytes} (h : ReplaysTo capacity o a)
    (hs : AttachedSince before o) :
    o.received <+: before.rtake capacity++o.delivered.drop before.length ∧
    (o.received.length < min capacity before.length → a.replayRemaining≠0) := by
  have hrp : o.replayed capacity=before.rtake capacity := by
    rw [OutputSide.replayed,hs.attachedAt,← List.prefix_iff_eq_take.mp hs.later]
  have hl : (before.rtake capacity).length=min capacity before.length := by
    rw [List.rtake,length_drop]
    omega
  have hsm := h.sum
  have hr := h.received
  rw [hrp] at hsm hr
  rw [hs.attachedAt] at hr
  by_cases hrm : a.replayRemaining=0
  · have ha : (before.rtake capacity).take a.replayOffset=before.rtake capacity :=
      take_of_length_le (by omega)
    rw [ha] at hr
    refine ⟨hr ▸ List.prefix_refl _,fun hsh => ?_⟩
    rw [hr,length_append] at hsh
    omega
  have hn : o.delivered.drop before.length=[] := by rw [← hs.attachedAt,← h.waits hrm,drop_length]
  refine ⟨?_,fun _ => hrm⟩
  rw [hr,hn,append_nil,append_nil]
  exact List.take_prefix _ _

/-- The client gets the replay and then the output as the platform delivers it: what its reads
have returned is always a first part of the two, and while the replay is not at its end a read
with room returns something. -/
theorem replay_then_live {config : TermConfig} (hreplay : config.replayOnAttach=true)
    (hsnapshot : config.screenSnapshot=false) {replayAllocated screenAllocated : Bool}
    {term : Term} (hinit : termInit config replayAllocated screenAllocated=.ok term) {world : σ}
    {before : Terminal σ} (hbefore : TermRun p (fun _ => True) (freshTerminal term world) before)
    {termType : Bytes} {cols rows widthPx heightPx : UInt32}
    (hattach : (attachCommon p termType cols rows widthPx heightPx).run before=(.ok (),s))
    (hrun : TermRun p (· ≠ .close) s t) :
    t.log.received <+: before.log.delivered.rtake config.replayBufferBytes ++
      t.log.delivered.drop before.log.delivered.length ∧
    (t.log.received.length < min config.replayBufferBytes before.log.delivered.length →
      t.term.running=true → ∀ len,len≠0 →
        (termRead p len).Ensures t fun r _ => ∃ bytes,r=.ok bytes ∧ bytes≠[]) := by
  obtain ⟨screen,rfl,hsc⟩ := termInit_ok hinit
  have hn : screen=none := by
    rw [hsnapshot] at hsc
    simpa using hsc
  subst hn
  have hsr : Replays config.replayBufferBytes before.outputSide :=
    hbefore.invariant (fun s => Replays config.replayBufferBytes s.outputSide) (fun _ => rfl)
      (newTerm_replays hreplay world) fun _ _ h hs => h.step hs
  obtain ⟨u,hu,rfl⟩ := attachCommon_ok hattach
  have hat : Replays config.replayBufferBytes u.attachedNow.outputSide := Replays.attach (hu ▸ hsr)
  have hsn : AttachedSince before.log.delivered u.attachedNow.outputSide := by
    have hd : u.log.delivered=before.log.delivered := congrArg OutputSide.delivered hu
    exact ⟨rfl,congrArg List.length hd,hd ▸ List.prefix_refl _⟩
  obtain ⟨hr,hst⟩ := hrun.invariant (fun s => Replays config.replayBufferBytes s.outputSide ∧
    AttachedSince before.log.delivered s.outputSide) (fun h => absurd rfl h) ⟨hat,hsn⟩
    fun _ _ h hs => ⟨h.1.step hs,h.2.step hs⟩
  obtain ⟨a,ha⟩ : ∃ a,t.attachment=some a := by
    have hsm : t.attachment.isSome=true := hr.attached.symm.trans hst.attached
    exact Option.isSome_iff_exists.mp hsm
  obtain ⟨hrc,hm⟩ := (hr.client a ha).received_iff hst
  refine ⟨hrc,fun hsh hrn len hl => ?_⟩
  exact termRead_replays hr ha (hm hsh) hrn hl

def fourBytes : Terminal Bytes :=
  TermOp.monitorStep.apply (simplePlatform none) (TermOp.startInitial.apply (simplePlatform none)
    (freshTerminal (newTerm {shellConfig 8 with replayBufferBytes := 4, replayOnAttach := true}
      none) [1,2,3,4,5,6]))

def fourBytesRead : Terminal Bytes :=
  let attached := ((attachCommon (simplePlatform none) [] 80 24 0 0).run fourBytes).2
  let read := fun s => TermOp.apply (simplePlatform none) s (.read 3)
  read (read (read {attached with world := [7,8]}))

/-- It gets the last four bytes that were captured, cut by the end of the ring, and the two. -/
theorem replay_then_live_four : fourBytesRead.log.received=[3,4,5,6,7,8] ∧
    fourBytesRead.log.received <+:
      fourBytes.log.delivered.rtake 4 ++ fourBytesRead.log.delivered.drop 6 := by
  have hb : TermRun (simplePlatform none) (fun _ => True)
      (freshTerminal (newTerm {shellConfig 8 with replayBufferBytes := 4, replayOnAttach := true}
        none) [1,2,3,4,5,6]) fourBytes := .op .monitorStep (.op .startInitial .start trivial) trivial
  have hr : TermRun (simplePlatform none) (· ≠ .close)
      ((attachCommon (simplePlatform none) [] 80 24 0 0).run fourBytes).2 fourBytesRead :=
    .op (.read 3) (.op (.read 3) (.op (.read 3) (.elapse [7,8] .start (Nat.le_refl _)) (by simp))
      (by simp)) (by simp)
  have hi : termInit {shellConfig 8 with replayBufferBytes := 4, replayOnAttach := true} true
      true=.ok _ := rfl
  have ha : (attachCommon (simplePlatform none) [] 80 24 0 0).run fourBytes=
      (.ok (),((attachCommon (simplePlatform none) [] 80 24 0 0).run fourBytes).2) :=
    Prod.ext (by decide +kernel) rfl
  have hl := (replay_then_live rfl rfl hi hb ha hr).1
  exact ⟨by decide +kernel,hl⟩

end EMSSHD.Emtask
