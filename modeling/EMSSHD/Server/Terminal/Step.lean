import EMSSHD.Server.Terminal.Walk
import EMSSHD.Server.Window

namespace EMSSHD

open Call

variable {κ η τ α : Type}

def TerminalChannel.view (c : TerminalChannel η τ) : ChannelView :=
  ⟨c.clientChannel,c.serverChannel,c.peerMaxPacketSize,c.peerWindowSize⟩

/-- The terminal never hands over more bytes than it was asked for. -/
def ReadsWithin (T : Option (TermApi η τ)) : Prop :=
  ∀ read,T.bind TermApi.read=some read → ∀ handle len k bytes t,
    (read handle len).run k=(.ok bytes,t) → bytes.length≤len

/-- A call of which flow control sees nothing: whatever it does to the terminal, the
session and the view of the channel are as they were. -/
def Unseen (c : Call (TermState κ η τ) Err α) : Prop :=
  ∀ s,(c.run s).2.1=s.1 ∧ (c.run s).2.2.view=s.2.view

lemma unseen_steps (T : Option (TermApi η τ)) :
    LocalSteps T fun _ (s : TermState κ η τ) _ t => t.1=s.1 ∧ t.2.view=s.2.view where
  toComposes := composes_of_trans (fun _ => ⟨rfl,rfl⟩)
    fun h h' => ⟨h'.1.trans h.1,h'.2.trans h.2⟩
  change hc := ⟨rfl,(congrArg TerminalChannel.view hc :)⟩
  platform _ _ := ⟨rfl,rfl⟩

variable (R : Prop) (L : LinkApi κ) (T : Option (TermApi η τ))

lemma reply_step (m : ServerMessage) (s : TermState κ η τ)
    (hm : m.recipient?=some s.2.clientChannel) (hd : (Event.sent m).dataOut=[]) :
    (Call.onFst (sendMessage L m)).Ensures s (ChannelStep R TerminalChannel.view s) :=
  (reply_spec L m s).mono fun _ _ h => h.step hm hd

lemma channelSteps : NoticeSteps (η := η) (τ := τ) L fun _ => ChannelStep R TerminalChannel.view where
  pure _ _ := channelStep_same _ rfl rfl
  fail _ _ := channelStep_same _ rfl rfl
  seq := ChannelStep.trans
  error := ChannelStep.error
  change hc := channelStep_same _ rfl (congrArg TerminalChannel.view hc :)
  notice s hs hm := by
    subst hs
    cases hm <;> exact reply_step R L _ s rfl rfl

lemma pumpLen_le (c : TerminalChannel η τ) : pumpLen c ≤ c.peerWindowSize ∧
    (c.peerMaxPacketSize≠0 → pumpLen c ≤ c.peerMaxPacketSize) := by
  unfold pumpLen
  split_ifs <;> omega

/-- Terminal output that goes out and is taken off the window. The code checks it against
the window only behind the send, so the limits rest on the terminal. -/
theorem sendTerminalOutput_step (bytes : Bytes) (s : TermState κ η τ)
    (hf : R → bytes.length≤pumpLen s.2) :
    (sendTerminalOutput L bytes).Ensures s (ChannelStep R TerminalChannel.view s) := by
  obtain ⟨hw,hm⟩ := pumpLen_le s.2
  -- without the assumption nothing is known about the sizes of the messages
  obtain ⟨limit,hlm,hR⟩ : ∃ limit,(limit≠0 → bytes.length≤limit) ∧
      (R → limit=s.2.peerMaxPacketSize) := by
    by_cases hr : R
    · exact ⟨s.2.peerMaxPacketSize,fun h => le_trans (hf hr) (hm h),fun _ => rfl⟩
    · exact ⟨0,fun h => absurd rfl h,fun h => absurd h hr⟩
  have hl {r : Except Err Unit} {evs : List Event}
      (ho : DataOut s.2.view.clientChannel limit bytes r evs) (h : R) :
      Limited s.2.view evs := by
    rw [hR h] at ho
    exact ho.limited (le_trans (hf h) hw)
  apply bindGet
  apply Ensures.bind (Ensures.onFst (sendChannelData_out L s.2.clientChannel limit bytes hlm s.1))
  · rintro _ ⟨conn,_⟩ ⟨⟨evs,ht,ho⟩,rfl⟩
    apply bindRequire
    · intro hle
      apply Ensures.modify
      exact ⟨evs,ht,ho.addressed,hl ho,fun _ => ho.kept hle rfl⟩
    intro _
    exact ⟨evs,ht,ho.addressed,hl ho,fun hr => absurd (hr _ rfl) (by decide)⟩
  rintro e ⟨conn,_⟩ ⟨⟨evs,ht,ho⟩,rfl⟩
  refine ⟨evs,ht,ho.addressed,hl ho,fun hr => absurd (hr _ rfl) ?_⟩
  rintro rfl
  exact ho.status rfl

variable {s t : TermState κ η τ}

lemma maybePumpTerminalOutput_step (hrd : R → ReadsWithin T) (s : TermState κ η τ) :
    (maybePumpTerminalOutput L T).Ensures s (ChannelStep R TerminalChannel.view s) := by
  refine maybePumpTerminalOutput_composes (channelSteps R L).toComposes ?_ ?_ ?_ s
  · intro read _ handle s _
    exact channelStep_same _ rfl rfl
  · intro read _ handle s e _ r _
    exact channelStep_same r rfl rfl
  intro read hr handle s bytes hb
  have hs : ChannelStep R TerminalChannel.view s (.ok ()) (afterRead read handle s) :=
    channelStep_same _ rfl rfl
  apply hs.then
  apply sendTerminalOutput_step R L bytes
  intro hR
  exact hrd hR read hr handle _ _ _ _ (Prod.ext hb rfl)

lemma pumpAndFinish_step (hr : R → ReadsWithin T) (s : TermState κ η τ) :
    (pumpAndFinish L T).Ensures s (ChannelStep R TerminalChannel.view s) := by
  refine pumpAndFinish_composes (channelSteps R L).toComposes
    (maybePumpTerminalOutput_step R L T hr) (fun t => ?_) s
  apply (channelSteps R L).maybeSendTerminalExitAndClose t
  · intro _ _ _ u
    exact channelStep_same _ rfl rfl
  intro u
  exact reply_step R L (.eof u.2.clientChannel) u rfl rfl

lemma serveSteps (hr : R → ReadsWithin T) :
    ServeSteps L T fun _ => ChannelStep R TerminalChannel.view where
  toNoticeSteps := channelSteps R L
  violation _ := channelStep_same _ rfl rfl
  request request t := by
    obtain ⟨hc,hv⟩ := (unseen_steps T).terminalRequestStatus request t
    exact channelStep_same _ (congrArg Conn.trace hc) hv
  pump := pumpAndFinish_step R L T hr

lemma processTerminalData_step (hr : R → ReadsWithin T) (data : Bytes) (s : TermState κ η τ) :
    (processTerminalData L T data).Ensures s (ChannelStep R TerminalChannel.view s) := by
  refine (serveSteps R L T hr).processTerminalData data ?_ ?_ ?_ s
  · intro t
    exact channelStep_same _ rfl rfl
  · intro t
    apply (replenishReceiveWindow_spec L terminalReceiveWindow t).mono
    intro r u h
    exact h.step rfl fun _ _ => rfl
  intro _ _ handle t
  exact channelStep_same _ rfl rfl

lemma processTerminalMessage_step (hr : R → ReadsWithin T) {m : ChannelMessage}
    {evs : List Event} (ha : Arrives s t (some m) evs) :
    (processTerminalMessage L T m).Ensures t (ChannelStep R TerminalChannel.view s) := by
  by_cases hid : m.messageId=sshMsgChannelWindowAdjust
  · apply bindGet
    apply bindRequire
    · intro hm
      rw [if_pos hid]
      apply bindModify
      refine ChannelStep.then (ha.step (.ok ()) rfl ?_) (pumpAndFinish_step R L T hr _)
      have hc : t.2=s.2 := ha.grown.channel
      rw [hc] at hm ⊢
      have had : m.adjustBytes s.2.view.serverChannel=m.windowBytes := if_pos ⟨hid,hm⟩
      rw [Option.map_some,Option.getD_some,had]
      rfl
    intro _
    exact ha.failed (by decide)
  have hf : ChannelStep R TerminalChannel.view s (.ok ()) t :=
    ha.uncredited (.ok ()) (by rintro x ⟨⟩; exact hid)
  apply hf.then
  apply (serveSteps R L T hr).processTerminalMessage m t
  · intro h
    exact absurd h hid
  intro _ _
  exact processTerminalData_step R L T hr _ t

lemma processTerminalChannelData_channelStep (hr : R → ReadsWithin T) (s : TermState κ η τ) :
    (sshServerProcessTerminalChannelData L T).Ensures s (ChannelStep R TerminalChannel.view s) := by
  apply bindGet
  apply bindRequire
  · intro _
    apply (serveSteps R L T hr).bind (pumpAndFinish_step R L T hr s)
    intro _ t
    apply Ensures.bind (receiveStatus_spec L emsshMaxPacketSize t)
    · rintro q u ⟨_,⟨⟩,evs,hq,hg⟩
      cases q with
      | ok m => exact processTerminalMessage_step R L T hr (arrives_message hq hg)
      | error e =>
        apply Ensures.ite
        · rintro rfl
          have hsk : Skimmed evs := hq.resolve_right fun h => h.1 rfl
          have hf : ChannelStep R TerminalChannel.view t (.ok ()) u :=
            (arrives_skim hsk hg).uncredited (.ok ()) (by simp)
          apply hf.then
          apply (serveSteps R L T hr).bind (pumpAndFinish_step R L T hr u)
          intro _ w
          exact channelStep_same _ rfl rfl
        intro he
        apply Ensures.fail
        rcases hq with hs | ⟨_,m,hm⟩
        · exact (arrives_skim hs hg).failed he
        · exact (arrives_message hm hg).failed he
    rintro e u ⟨_,h,_⟩
    cases h
  intro _
  exact channelStep_same _ rfl rfl

end EMSSHD
