import EMSSHD.Server.Sftp.Serve

namespace EMSSHD

open Call

variable {κ σ : Type}

def SftpState.adjusted (s : SftpState κ σ) (n : Nat) : SftpState κ σ :=
  (s.1,{s.2 with peerWindowSize := addU32Saturating s.2.peerWindowSize n})

def SftpState.debited (s : SftpState κ σ) (n : Nat) : SftpState κ σ :=
  (s.1,{s.2 with windowSize := s.2.windowSize-n})

def SftpState.buffered (s : SftpState κ σ) (data : Bytes)
    (h : data.length≤emsshSftpMaxPacketSize-s.2.sftpRx.bytes.length) : SftpState κ σ :=
  (s.1,{s.2 with sftpRx := s.2.sftpRx.append data h})

/-- Everything a call can do about a message for its channel. -/
inductive OnMessage (s : SftpState κ σ) (m : ChannelMessage) :
    Except Err Unit → SftpState κ σ → Prop
  | adjust (hid : m.messageId=sshMsgChannelWindowAdjust) (hrx : s.2.sftpRx.bytes=[]) :
    OnMessage s m (.ok ()) (s.adjusted m.windowBytes)
  | adjustServe {r : Except Err Unit} {u : SftpState κ σ}
    (hid : m.messageId=sshMsgChannelWindowAdjust) (hrx : s.2.sftpRx.bytes≠[])
    (ho : ServeOutcome (s.adjusted m.windowBytes) r u) : OnMessage s m r u
  | request (hid : m.messageId=sshMsgChannelRequest)
    (hq : shouldReplyFailureForNonSftpRequest m.channelRequest=false) : OnMessage s m (.ok ()) s
  | requestRefused {r : Except Err Unit} {u : SftpState κ σ}
    (hid : m.messageId=sshMsgChannelRequest)
    (hq : shouldReplyFailureForNonSftpRequest m.channelRequest=true)
    (ho : Replied (.failure s.2.clientChannel) s r u) : OnMessage s m r u
  | eof {r : Except Err Unit} {t u : SftpState κ σ} (hid : m.messageId=sshMsgChannelEof)
    (he : Once (.eof s.2.clientChannel) s.2.eofSent SftpChannel.withEof s (.ok ()) t)
    (hc : Once (.close t.2.clientChannel) t.2.closeSent SftpChannel.withClose t r u) :
    OnMessage s m r u
  | eofFailed {e : Err} {u : SftpState κ σ} (hid : m.messageId=sshMsgChannelEof)
    (he : Once (.eof s.2.clientChannel) s.2.eofSent SftpChannel.withEof s (.error e) u) :
    OnMessage s m (.error e) u
  | close {r : Except Err Unit} {e : Err} {u : SftpState κ σ} (hid : m.messageId=sshMsgChannelClose)
    (hc : Once (.close s.2.clientChannel) s.2.closeSent SftpChannel.withClose s r u)
    (he : r=.ok () ∧ e=.closed ∨ r=.error e) : OnMessage s m (.error e) u
  | dataBeyond (hid : m.messageId=sshMsgChannelData)
    (hw : s.2.windowSize<(m.data.getD []).length) : OnMessage s m (.error .security) s
  | dataFailed {e : Err} {u : SftpState κ σ} (hid : m.messageId=sshMsgChannelData)
    (hw : (m.data.getD []).length ≤ s.2.windowSize)
    (hr : Replenish sftpReceiveWindow (s.debited (m.data.getD []).length) (.error e) u) : OnMessage s m (.error e) u
  | dataRefused {t : SftpState κ σ} (hid : m.messageId=sshMsgChannelData)
    (hw : (m.data.getD []).length ≤ s.2.windowSize)
    (hr : Replenish sftpReceiveWindow (s.debited (m.data.getD []).length) (.ok ()) t)
    (hroom : ¬(m.data.getD []).length≤emsshSftpMaxPacketSize-t.2.sftpRx.bytes.length) :
    OnMessage s m (.error .bufferTooSmall)
      ({t.1 with trace := t.1.trace++[.refused (m.data.getD [])]},t.2)
  | dataServed {r : Except Err Unit} {t u : SftpState κ σ} (hid : m.messageId=sshMsgChannelData)
    (hw : (m.data.getD []).length ≤ s.2.windowSize)
    (hr : Replenish sftpReceiveWindow (s.debited (m.data.getD []).length) (.ok ()) t)
    (hroom : (m.data.getD []).length≤emsshSftpMaxPacketSize-t.2.sftpRx.bytes.length)
    (ho : ServeOutcome (t.buffered (m.data.getD []) hroom) r u) : OnMessage s m r u
  | other : OnMessage s m (.error .unsupported) s

/-- Everything one call of ssh_server_process_sftp_channel_data can do. -/
inductive SftpStep (s : SftpState κ σ) : Except Err Unit → SftpState κ σ → Prop
  | uninitialized (h : s.2.initialized=false) : SftpStep s (.error .invalidArgument) s
  | lost {e : Err} {u : SftpState κ σ} {evs : List Event} (he : e≠.notFound)
    (hs : Skimmed evs ∨ ∃ m,SkimsTo (.ok m) evs) (hg : Grown s u evs) : SftpStep s (.error e) u
  | idle {e : Err} {u : SftpState κ σ} {evs : List Event} (hs : Skimmed evs) (hg : Grown s u evs)
    (hrx : s.2.sftpRx.bytes=[]) (hr : e=if s.2.closeSent then .closed else .notFound) :
    SftpStep s (.error e) u
  | resume {r : Except Err Unit} {t u : SftpState κ σ} {evs : List Event} (hs : Skimmed evs)
    (hg : Grown s t evs) (hrx : s.2.sftpRx.bytes≠[]) (ho : ServeOutcome t r u) : SftpStep s r u
  | misdirected {m : ChannelMessage} {t : SftpState κ σ} (hg : Gets s m t)
    (hm : m.recipientChannel≠s.2.serverChannel) : SftpStep s (.error .security) t
  | message {m : ChannelMessage} {r : Except Err Unit} {t u : SftpState κ σ} (hg : Gets s m t)
    (hm : m.recipientChannel=s.2.serverChannel) (ho : OnMessage t m r u) : SftpStep s r u

variable (L : LinkApi κ) (S : SftpServer σ)

lemma sendCloseOnce_spec (s : SftpState κ σ) : (sendCloseOnce L).Ensures s
    (Once (.close s.2.clientChannel) s.2.closeSent SftpChannel.withClose s) :=
  sendOnce_spec L s rfl

lemma processSftpData_spec (m : ChannelMessage) (hid : m.messageId=sshMsgChannelData)
    (s : SftpState κ σ) : (processSftpData L S (m.data.getD [])).Ensures s (OnMessage s m) := by
  apply bindGet
  apply bindRequire
  · intro hw
    apply bindModify
    apply Ensures.bind (replenishReceiveWindow_spec L sftpReceiveWindow
      (s.debited (m.data.getD []).length))
    · intro _ t hr
      by_cases hrm : (m.data.getD []).length≤emsshSftpMaxPacketSize-t.2.sftpRx.bytes.length
      · have hp : (appendRx (m.data.getD [])).run t=(.ok (),SftpState.buffered t (m.data.getD []) hrm) := by
          simp only [appendRx,dif_pos hrm]
          rfl
        apply Ensures.bind (Ensures.of_run hp (Q := fun r u =>
          r=.ok () ∧ u=SftpState.buffered t (m.data.getD []) hrm) ⟨rfl,rfl⟩)
        · rintro _ _ ⟨_,rfl⟩
          apply (serveSftp_spec L S _).mono
          intro r u ho
          exact .dataServed hid hw hr hrm ho
        rintro e _ ⟨h,_⟩
        cases h
      have hp : (appendRx (m.data.getD [])).run t=(.error .bufferTooSmall,
          ({t.1 with trace := t.1.trace++[.refused (m.data.getD [])]},t.2)) := by
        simp only [appendRx,dif_neg hrm]
      apply Ensures.of_run (run_bind_error hp)
      exact .dataRefused hid hw hr hrm
    intro e t hr
    exact .dataFailed hid hw hr
  intro hw
  exact .dataBeyond hid (by omega)

lemma processSftpMessage_spec (m : ChannelMessage) (s : SftpState κ σ) :
    (processSftpMessage L S m).Ensures s (fun r u =>
      (m.recipientChannel≠s.2.serverChannel ∧ r=.error .security ∧ u=s) ∨
      (m.recipientChannel=s.2.serverChannel ∧ OnMessage s m r u)) := by
  apply bindGet
  apply bindRequire
  · intro hm
    apply Ensures.mono (P := OnMessage s m)
    · apply Ensures.ite
      · intro hid
        apply bindModify
        apply Ensures.onlyIf
        · intro hrx
          apply (serveSftp_spec L S (s.adjusted m.windowBytes)).mono
          intro r u ho
          exact .adjustServe hid (fun h => hrx (length_eq_zero_iff.mpr h)) ho
        intro hrx
        exact .adjust hid (length_eq_zero_iff.mp (not_not.mp hrx))
      intro _
      apply Ensures.ite
      · intro hid
        apply Ensures.onlyIf
        · intro hq
          apply (reply_spec L _ s).mono
          intro r u ho
          exact .requestRefused hid hq ho
        intro hq
        exact .request hid (by simpa using hq)
      intro _
      apply Ensures.ite
      · intro hid
        apply Ensures.bind (sendOnce_spec L s rfl)
        · intro _ t he
          apply (sendCloseOnce_spec L t).mono
          intro r u hc
          exact .eof hid he hc
        intro e t he
        exact .eofFailed hid he
      intro _
      apply Ensures.ite
      · intro hid
        apply Ensures.bind (sendCloseOnce_spec L s)
        · intro _ t hc
          exact .close hid hc (.inl ⟨rfl,rfl⟩)
        intro e t hc
        exact .close hid hc (.inr rfl)
      intro _
      apply Ensures.ite
      · intro hid
        exact processSftpData_spec L S m hid s
      intro _
      exact .other
    intro r u ho
    exact .inr ⟨hm,ho⟩
  intro hm
  exact .inl ⟨hm,rfl,rfl⟩

lemma processSftpChannelData_step (s : SftpState κ σ) :
    (sshServerProcessSftpChannelData L S).Ensures s (SftpStep s) := by
  apply bindGet
  apply bindRequire
  · intro _
    apply Ensures.bind (receiveStatus_spec L emsshMaxPacketSize s)
    · rintro q t ⟨_,⟨⟩,evs,hq,hg⟩
      cases q with
      | ok m =>
        obtain ⟨skim,payload,rfl,hsk,hd⟩ := hq
        have hgt : Gets s m t := ⟨skim,payload,hsk,hd,hg⟩
        apply (processSftpMessage_spec L S m t).mono
        rintro r u (⟨hm,rfl,rfl⟩ | ⟨hm,ho⟩)
        · exact .misdirected hgt (by rwa [hg.channel] at hm)
        · exact .message hgt (by rwa [hg.channel] at hm) ho
      | error e =>
        apply Ensures.ite
        · rintro rfl
          have hsk : Skimmed evs := hq.resolve_right fun h => h.1 rfl
          apply bindGet
          rw [hg.channel]
          apply Ensures.ite
          · intro hrx
            apply (serveSftp_spec L S t).mono
            intro r u ho
            exact .resume hsk hg (fun h => hrx (length_eq_zero_iff.mpr h)) ho
          intro hrx
          have hn : s.2.sftpRx.bytes=[] := length_eq_zero_iff.mp (not_not.mp hrx)
          apply Ensures.ite
          · intro hc
            exact .idle hsk hg hn (by rw [if_pos hc])
          intro hc
          exact .idle hsk hg hn (by rw [if_neg hc])
        intro he
        apply Ensures.fail
        refine .lost he ?_ hg
        rcases hq with hs | ⟨_,m,hm⟩
        · exact .inl hs
        · exact .inr ⟨m,hm⟩
    rintro e t ⟨_,h,_⟩
    cases h
  intro h
  exact .uninitialized (by simpa using h)

end EMSSHD
