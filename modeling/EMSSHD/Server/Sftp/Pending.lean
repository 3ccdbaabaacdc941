import EMSSHD.Server.Sftp.Flow

namespace EMSSHD

variable {κ σ : Type}
variable {s u : SftpState κ σ} {r : Except Err Unit} {m : ChannelMessage}

lemma ServeOutcome.quietIn (h : ServeOutcome s r u) :
    ∃ evs,u.1.trace=s.1.trace++evs ∧ messagesIn evs=[] := by
  obtain ⟨evs,hs,_⟩ := h.progress
  exact ⟨evs,hs.trace,hs.messagesIn⟩

lemma MessageEffect.quietIn (h : MessageEffect s m r u) :
    ∃ evs,u.1.trace=s.1.trace++evs ∧ messagesIn evs=[] := by
  cases h with
  | answered ha hid => exact ⟨_,ha.trace,ha.messagesIn⟩
  | credited hid hrx => exact ⟨[],(append_nil _).symm,rfl⟩
  | creditServed hid hrx ho => exact ho.quietIn
  | @dataRefused t evs hid hw ha hr =>
    refine ⟨evs++[.refused (m.data.getD [])],?_,?_⟩
    · rw [SftpState.refused,ha.trace,append_assoc]
    rw [messagesIn_append,ha.messagesIn]
    rfl
  | @dataServed _ t _ evs hid ha hr ho =>
    obtain ⟨later,ht,hin⟩ := ho.quietIn
    refine ⟨evs++later,?_,?_⟩
    · rw [ht,← append_assoc,← ha.trace]
      rfl
    rw [messagesIn_append,ha.messagesIn,hin]
    rfl

lemma Gets.messagesIn {t : SftpState κ σ} (hg : Gets s m t) (h : MessageEffect t m r u) :
    messagesIn (newEvents s.1 u.1)=[m] := by
  obtain ⟨evs,ha⟩ := hg.arrives
  obtain ⟨later,ht,hin⟩ := h.quietIn
  have htr : u.1.trace=s.1.trace++(evs++later) := by rw [ht,ha.grown.trace,append_assoc]
  rw [newEvents_eq htr,messagesIn_append,ha.message,hin]
  rfl

def Stuck (c : SftpChannel σ) : Prop := c.sftpTxPending.bytes≠[] ∧ c.peerWindowSize≠0

/-- A call in which the client widens its window while a response is pending and the
receive buffer is empty. -/
def AdjustMeetsPending (s u : SftpState κ σ) : Prop :=
  s.2.sftpRx.bytes=[] ∧ s.2.sftpTxPending.bytes≠[] ∧
  adjustReceived s.2.serverChannel (newEvents s.1 u.1)≠0

lemma ServeOutcome.not_stuck (h : ServeOutcome s r u) (hr : Continues r) : ¬Stuck u.2 := by
  obtain ⟨_,_,hok,hwt⟩ := h.progress
  rintro ⟨hp,hw⟩
  rcases hr with hr | hr
  · exact hp (hok hr).2.1
  · exact hw (hwt hr).2.2

lemma Answers.stuck_iff {evs : List Event} (h : Answers s u evs) : Stuck u.2 ↔ Stuck s.2 := by
  have hp : u.2.sftpTxPending.bytes=s.2.sftpTxPending.bytes :=
    congrArg ChannelFlow.sftpTxPending h.flow
  have hw : u.2.peerWindowSize=s.2.peerWindowSize := congrArg ChannelFlow.peerWindowSize h.flow
  rw [Stuck,Stuck,hp,hw]

lemma SftpStep.stuck_iff (h : SftpStep s r u) (hr : Continues r) (hs : ¬Stuck s.2) :
    Stuck u.2 ↔ AdjustMeetsPending s u := by
  have hsk {t : SftpState κ σ} {evs : List Event} (hk : Skimmed evs) (hg : Grown s t evs)
      {w : SftpState κ σ} {later : List Event} (hw : w.1.trace=t.1.trace++later)
      (hin : messagesIn later=[]) : ¬AdjustMeetsPending s w := by
    have htr : w.1.trace=s.1.trace++(evs++later) := by rw [hw,hg.trace,append_assoc]
    rintro ⟨_,_,had⟩
    apply had
    rw [newEvents_eq htr,adjustReceived,messagesIn_append,hk.messagesIn,hin]
    rfl
  cases h with
  | uninitialized | misdirected => exact absurd hr (not_continues (by decide))
  | lost he _ _ => exact absurd hr (not_continues he)
  | idle hk hg hrx he =>
    have hno := hsk hk hg (append_nil u.1.trace).symm rfl
    rw [hg.channel]
    exact iff_of_false hs hno
  | resume hk hg hrx ho =>
    obtain ⟨later,ht,hin⟩ := ho.quietIn
    exact iff_of_false (ho.not_stuck hr) (hsk hk hg ht hin)
  | @message m _ t _ hg hm ho =>
    have had : adjustReceived s.2.serverChannel (newEvents s.1 u.1)=
        m.adjustBytes s.2.serverChannel := by
      rw [adjustReceived,hg.messagesIn ho.effect]
      exact Nat.add_zero _
    obtain ⟨_,_,_,_,hgr⟩ := hg
    have hst : ¬Stuck t.2 := by rwa [hgr.channel]
    cases ho.effect with
    | answered ha hid =>
      rw [ha.stuck_iff]
      apply iff_of_false hst
      rintro ⟨_,_,hne⟩
      apply hne
      rw [had]
      exact if_neg fun h => (hid hr).2 h.1
    | credited hid hrx =>
      have hb : m.adjustBytes s.2.serverChannel=m.windowBytes := if_pos ⟨hid,hm⟩
      rw [AdjustMeetsPending,had,hb,← hgr.channel]
      constructor
      · rintro ⟨hp,hw⟩
        refine ⟨hrx,hp,fun h0 => hst ⟨hp,?_⟩⟩
        rwa [h0,SftpState.adjusted,addU32Saturating_zero] at hw
      rintro ⟨_,hp,hne⟩
      refine ⟨hp,?_⟩
      show addU32Saturating t.2.peerWindowSize m.windowBytes≠0
      unfold addU32Saturating uint32Max
      split_ifs <;> omega
    | creditServed hid hrx ho =>
      apply iff_of_false (ho.not_stuck hr)
      rintro ⟨hn,_⟩
      apply hrx
      rw [hgr.channel,hn]
    | dataRefused hid hw ha hrm => exact absurd hr (not_continues (by decide))
    | dataServed hid ha hrm ho =>
      apply iff_of_false (ho.not_stuck hr)
      rintro ⟨_,_,hne⟩
      apply hne
      rw [had]
      apply if_neg
      intro h
      rw [hid] at h
      exact absurd h.1 (by decide)

section
variable (L : LinkApi κ) (S : SftpServer σ)

/-- As long as no window adjustment meets a pending response with nothing in the receive
buffer, a response waits only for a client that has no room, and in such a run the first
call that breaks this is the one in which an adjustment does so. -/
theorem pending_behind_closed_window {s t : SftpState κ σ} (hs : s.2.sftpTxPending.bytes=[])
    (h : Run (sshServerProcessSftpChannelData L S)
      (fun t r u => Continues r ∧ ¬AdjustMeetsPending t u) s t) :
    (t.2.sftpTxPending.bytes=[] ∨ t.2.peerWindowSize=0) ∧
    ∀ r u,(sshServerProcessSftpChannelData L S).run t=(r,u) → Continues r →
      ((u.2.sftpTxPending.bytes=[] ∨ u.2.peerWindowSize=0) ↔ ¬AdjustMeetsPending t u) := by
  have hn (c : SftpChannel σ) : ¬Stuck c ↔ (c.sftpTxPending.bytes=[] ∨ c.peerWindowSize=0) := by
    rw [Stuck,not_and_or,not_not,not_not]
  have hsr : ¬Stuck s.2 := fun hsc => hsc.1 hs
  have hrn : ¬Stuck t.2 := by
    apply h.invariant (fun t => ¬Stuck t.2) hsr
    rintro t r u ht hc ⟨hr,hg⟩
    have hst := (processSftpChannelData_step L S t).of_eq hc
    rwa [hst.stuck_iff hr ht]
  refine ⟨(hn t.2).mp hrn,?_⟩
  intro r u hc hr
  have hst := (processSftpChannelData_step L S t).of_eq hc
  rw [← hn,hst.stuck_iff hr hrn]
end

theorem pending_behind_closed_window_splitInit :
    ∃ t,(t.2.sftpTxPending.bytes=[0,0,0,5,2,0,0,0,3] ∧ t.2.peerWindowSize=0) ∧
      Run (sshServerProcessSftpChannelData scriptLink sampleSftp)
        (fun t r u => Continues r ∧ ¬AdjustMeetsPending t u) splitInit t ∧
      (t.2.sftpTxPending.bytes=[] ∨ t.2.peerWindowSize=0) := by
  have h0 : Run (sshServerProcessSftpChannelData scriptLink sampleSftp)
      (fun t r u => Continues r ∧ ¬AdjustMeetsPending t u) splitInit splitInit := Run.start
  have h1 := h0.step ⟨.inl rfl,fun h => h.2.2 rfl⟩
  have h2 := h1.step ⟨.inl rfl,fun h => h.2.2 rfl⟩
  have h3 := h2.step ⟨.inr rfl,fun h => h.2.2 rfl⟩
  exact ⟨_,⟨rfl,rfl⟩,h3,(pending_behind_closed_window scriptLink sampleSftp rfl h3).1⟩

def initThenAdjust : SampleState :=
  (Conn.start [.ok (channelDataPayload 0 [0,0,0,5,1,0,0,0,3]),
    .ok [sshMsgChannelWindowAdjust,0,0,0,0,0,0,0,100]],sampleChannel 0)

/-- The second call succeeds and leaves the nine bytes of the VERSION response behind a
window of 100 bytes. -/
theorem adjust_leaves_response_pending :
    initThenAdjust.2.sftpTxPending.bytes=[] ∧
    ∃ t u,SftpRun scriptLink sampleSftp initThenAdjust t ∧
      (sshServerProcessSftpChannelData scriptLink sampleSftp).run t=(.ok (),u) ∧
      ¬(u.2.sftpTxPending.bytes=[] ∨ u.2.peerWindowSize=0) := by
  have h0 : SftpRun scriptLink sampleSftp initThenAdjust initThenAdjust := Run.start
  have h1 := h0.step (.inr rfl)
  refine ⟨rfl,_,_,h1,rfl,?_⟩
  rintro (h | h)
  · cases h
  · cases h

end EMSSHD
