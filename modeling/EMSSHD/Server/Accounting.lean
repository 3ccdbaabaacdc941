import EMSSHD.Server.Opening
import EMSSHD.Server.ReceiveWindow
import EMSSHD.Server.Sftp.Walk

namespace EMSSHD

open Call

variable {κ σ η τ : Type}

/-- A call that does not report SSH_ERR_SECURITY. -/
abbrev Plain {ρ α : Type} (c : Call ρ Err α) : Prop := Call.Fails (·≠.security) c

section
variable (L : LinkApi κ) (hsend : ∀ payload,Plain (L.send payload))

include hsend in
lemma sendMessage_plain (m : ServerMessage) : Plain (sendMessage L m) := by
  apply sendMessage_failsAs L _ hsend
  intro e he
  rcases he with rfl | rfl <;> decide

include hsend in
lemma sendChannelDataLoop_plain (client rounds : Nat) (rest : Bytes) :
    Plain (sendChannelDataLoop L client rounds rest) := by
  induction rounds generalizing rest with
  | zero => exact .pure ()
  | succ rounds ih => exact .bind (sendMessage_plain L hsend _) fun _ => .onlyIf (ih _)

variable {C : Type}

include hsend in
lemma replenish_plain (W : ReceiveWindow C) :
    Plain (replenishReceiveWindow L W : Call (Conn κ×C) Err Unit) := by
  refine .bind .get fun s => .bind (.require (by decide)) fun _ => .ite (.pure ()) ?_
  refine .bind (.onFst (.bind (.require (by decide)) fun _ => ?_)) fun _ => .modify _
  exact sendMessage_plain L hsend _
end

section
variable (L : LinkApi κ) (S : SftpServer σ)

def SftpChannel.receiveView (c : SftpChannel σ) : WindowView :=
  ⟨c.windowSize,c.windowMaxSize,c.serverChannel⟩

/-- The layers below an SFTP channel do not report SSH_ERR_SECURITY. -/
structure SftpPlain (L : LinkApi κ) (S : SftpServer σ) : Prop where
  send : ∀ payload,Plain (L.send payload)
  handle : ∀ packet,Plain (S.handlePacket packet)

lemma sftpReceiveWindow_shows : Shows sftpReceiveWindow
    (fun n (c : SftpChannel σ) => {c with windowSize := c.windowSize-n})
    SftpChannel.receiveView :=
  ⟨fun _ => rfl,fun _ => rfl,fun _ _ => rfl,fun _ _ => rfl⟩

lemma sftpCalmSteps : SftpSteps L S fun _ (s : SftpState κ σ) _ =>
    Calm SftpChannel.receiveView s where
  toComposes := calm_composes
  change hc := calm_same rfl (congrArg SftpChannel.receiveView hc :)
  notice _ s hm := by
    refine onFst_calm (sendMessage_aside L ?_) s
    rcases hm with rfl | rfl | rfl <;> rfl
  data client bytes := onFst_calm (sendChannelData_aside L client bytes)
  response client maxPacket bytes := by
    apply onFst_calm
    apply (sendResponseLoop_out L client maxPacket bytes.length bytes le_rfl).mono
    intro r evs h e he
    obtain ⟨data,rfl,_⟩ := h.sends e he
    exact ⟨rfl,rfl⟩
  handle packet s := by
    apply (handleSftpPacket_spec S packet s).mono
    rintro (e | response) t ht
    · obtain ⟨_,sftp,rfl⟩ := ht
      exact calm_same rfl rfl
    · obtain ⟨sftp,rfl⟩ := ht
      refine ⟨rfl,[.handled packet response],rfl,?_⟩
      intro e he
      rw [mem_singleton.mp he]
      exact ⟨rfl,rfl⟩

lemma appendRx_calm (data : Bytes) (t : SftpState κ σ) :
    (appendRx data).Ensures t fun _ => Calm SftpChannel.receiveView t := by
  unfold Ensures
  by_cases h : data.length≤emsshSftpMaxPacketSize-t.2.sftpRx.bytes.length
  · simp only [appendRx,dif_pos h]
    exact calm_same rfl rfl
  simp only [appendRx,dif_neg h]
  refine ⟨rfl,[.refused data],rfl,?_⟩
  intro e he
  rw [mem_singleton.mp he]
  exact ⟨rfl,rfl⟩

section
variable {L} {S} (h : SftpPlain L S)

include h in
lemma sendResponseLoop_plain (client peerMaxPacketSize rounds : Nat) (rest : Bytes) :
    Plain (sendResponseLoop L client peerMaxPacketSize rounds rest) := by
  induction rounds generalizing rest with
  | zero => exact .pure ()
  | succ rounds ih =>
    refine .ite (.pure ()) (.bind (.require (by decide)) fun _ => .bind ?_ fun _ => ih _)
    exact sendChannelDataLoop_plain L h.send _ _ _

include h in
lemma handleSftpPacket_plain (packet : Bytes) :
    Plain (handleSftpPacket S packet : Call (SftpState κ σ) Err Bytes) := by
  intro s e he
  have hf := h.handle packet s.2.sftp
  unfold handleSftpPacket at he
  rcases hr : (S.handlePacket packet).run s.2.sftp with ⟨r,t⟩
  rw [hr] at hf
  simp only [hr] at he
  cases r with
  | ok response => cases he
  | error x => exact hf e he

include h in
lemma serveSftp_plain : Plain (serveSftp L S : Call (SftpState κ σ) Err Unit) := by
  apply SftpSteps.serveSftp (R := fun _ _ r _ => ∀ e,r=.error e → e≠.security)
  have hd (client : Nat) (bytes : Bytes) : Plain (sshTransportSendChannelData L client bytes) :=
    sendChannelDataLoop_plain L h.send client _ bytes
  exact ⟨composes_fails,fun _ => nofun,fun _ s _ => sendMessage_plain L h.send _ s.1,
    fun client bytes => (hd client bytes).onFst,
    fun _ _ _ s => sendResponseLoop_plain h _ _ _ _ s.1,handleSftpPacket_plain h⟩
end

lemma processSftpData_onData (data : Bytes) (t : SftpState κ σ) :
    (processSftpData L S data).Ensures t
      (OnData (SftpPlain L S) SftpChannel.receiveView t data) := by
  have hr (s : SftpState κ σ) : (do
      appendRx data
      serveSftp L S).Ensures s fun _ => Calm SftpChannel.receiveView s :=
    (calm_composes (A := fun _ => True)).bind (appendRx_calm data s) fun _ =>
      (sftpCalmSteps L S).serveSftp
  have ha : Plain (appendRx data : Call (SftpState κ σ) Err Unit) := by
    intro s e he
    unfold appendRx at he
    dsimp only at he
    split at he
    · cases he
    rw [← Except.error.inj he]
    decide
  exact admit_onData L sftpReceiveWindow sftpReceiveWindow_shows hr
    (fun h => .bind (replenish_plain L h.send _) fun _ =>
      .bind ha fun _ => serveSftp_plain h) data t

lemma processSftpChannelData_moves (s : SftpState κ σ) :
    (sshServerProcessSftpChannelData L S).Ensures s
      (Moves (SftpPlain L S) SftpChannel.receiveView s) := by
  refine .bindGet (.bindRequire (fun _ => ?_) (fun _ => (Calm.refl s).moves _))
  refine received_moves L (fun m t hid hr => ?_) (fun m t hn => ?_) (fun e t => ?_) s
  · have ho {messageId : UInt8} (hne : messageId≠sshMsgChannelData) : m.messageId≠messageId :=
      fun h => hne (h.symm.trans hid)
    refine .bindGet (.bindRequire (fun _ => ?_) fun hno => absurd hr hno)
    rw [if_neg (ho (by decide)),if_neg (ho (by decide)),if_neg (ho (by decide)),
      if_neg (ho (by decide)),if_pos hid]
    exact processSftpData_onData L S _ t
  · apply (sftpCalmSteps L S).processSftpMessage m t (Calm.refl t)
    intro hid hr
    exact absurd ⟨hid,hr⟩ hn
  · exact .ite (fun _ => (sftpCalmSteps L S).processSftpTimeout t) fun _ => .fail (Calm.refl t)
end

section
variable (L : LinkApi κ) (T : Option (TermApi η τ))

def TerminalChannel.receiveView (c : TerminalChannel η τ) : WindowView :=
  ⟨c.windowSize,c.windowMaxSize,c.serverChannel⟩

/-- The layers below a terminal channel do not report SSH_ERR_SECURITY, and the terminal keeps
to what it is asked for. -/
structure TerminalPlain (L : LinkApi κ) (T : Option (TermApi η τ)) : Prop where
  send : ∀ payload,Plain (L.send payload)
  write : ∀ write,T.bind TermApi.write=some write → ∀ handle buf,Plain (write handle buf)
  read : ∀ read,T.bind TermApi.read=some read → ∀ handle len,Plain (read handle len)
  waitExit : ∀ waitExit,T.bind TermApi.waitExit=some waitExit → ∀ handle,Plain (waitExit handle)
  within : ReadsWithin T

lemma terminalReceiveWindow_shows : Shows terminalReceiveWindow
    (fun n (c : TerminalChannel η τ) => {c with windowSize := c.windowSize-n})
    TerminalChannel.receiveView :=
  ⟨fun _ => rfl,fun _ => rfl,fun _ _ => rfl,fun _ _ => rfl⟩

lemma calmSteps : ServeSteps L T fun _ (s : TermState κ η τ) _ =>
    Calm TerminalChannel.receiveView s := by
  have hsend {m : ServerMessage} (hm : (Event.sent m).adjustOut=0) (s : TermState κ η τ) :
      Calm TerminalChannel.receiveView s ((Call.onFst (sendMessage L m) :
        Call (TermState κ η τ) Err Unit).run s).2 :=
    onFst_calm (sendMessage_aside L hm) s
  apply serveSteps_of
  · refine ⟨calm_composes,?_,?_⟩
    · intro s c hc
      exact calm_same rfl (congrArg TerminalChannel.receiveView hc :)
    intro m client s _ hm
    cases hm <;> exact hsend rfl s
  · intro _ c _ s
    exact calm_same rfl rfl
  · intro s
    exact hsend rfl s
  · intro _ _ handle len s
    exact calm_same rfl rfl
  · intro client bytes s
    exact onFst_calm (sendChannelData_aside L client bytes) s
  intro n s
  exact calm_same rfl rfl

section
variable {L} {T} (h : TerminalPlain L T)

include h in
lemma sendTerminalOutput_plain {bytes : Bytes} {s : TermState κ η τ}
    (hf : bytes.length ≤ s.2.peerWindowSize) :
    (sendTerminalOutput L bytes).Ensures s (fun r _ => ∀ e,r=.error e → e≠.security) := by
  apply bindGet
  have hsend : Plain (Call.onFst (sshTransportSendChannelData L s.2.clientChannel bytes) :
      Call (TermState κ η τ) Err Unit) := .onFst (sendChannelDataLoop_plain L h.send _ _ _)
  rcases hr : (Call.onFst (sshTransportSendChannelData L s.2.clientChannel bytes)).run s with ⟨r,t⟩
  rcases r with e | _
  · apply Ensures.of_run (run_bind_error hr)
    intro x hx
    cases hx
    exact hsend s e (by rw [hr])
  apply bindOk hr
  refine .bindRequire (fun _ => .modify ?_) (fun hno => absurd hf hno)
  intro e he
  cases he

include h in
lemma pumpAndFinish_plain : Plain (pumpAndFinish L T : Call (TermState κ η τ) Err Unit) := by
  have hf : Composes (·≠Err.security) fun (α : Type) (_ : TermState κ η τ)
    (r : Except Err α) _ => ∀ e,r=.error e → e≠.security := composes_fails
  have hm (m : ServerMessage) (s : TermState κ η τ) := sendMessage_plain L h.send m s.1
  have hp (s : TermState κ η τ) : (maybePumpTerminalOutput L T).Ensures s
      (fun r _ => ∀ e,r=.error e → e≠.security) := by
    refine maybePumpTerminalOutput_composes hf (fun _ _ _ _ _ => hf.pure () s) ?_ ?_ s
    · intro read hrd handle s e he r hr x hx
      rcases hr with rfl | rfl
      · cases hx
      cases hx
      exact h.read read hrd handle _ _ e he
    intro read hrd handle s bytes hb
    apply sendTerminalOutput_plain h
    -- the terminal gives no more than it is asked for, and that is within the window
    exact le_trans (h.within read hrd handle _ _ _ _ (Prod.ext hb rfl)) (pumpLen_le s.2).1
  refine pumpAndFinish_composes hf hp fun s => NoticeSteps.maybeSendTerminalExitAndClose
    ⟨hf,fun {s _} _ => hf.pure () s,fun s _ _ => hm _ s⟩ s ?_ fun s => hm _ s
  intro waitExit hw handle t
  exact h.waitExit waitExit hw handle t.2.platform
end

lemma processTerminalData_onData (data : Bytes) (t : TermState κ η τ) :
    (processTerminalData L T data).Ensures t
      (OnData (TerminalPlain L T) TerminalChannel.receiveView t data) := by
  have hc := calmSteps (κ := κ) L T
  refine admit_onData L terminalReceiveWindow terminalReceiveWindow_shows (fun s => ?_)
    (fun h => .bind (replenish_plain L h.send _) fun _ => ?_) data t
  · apply bindGet
    rcases runningWith T TermApi.write s.2 with _ | ⟨write,handle⟩
    · exact .fail (Calm.refl s)
    exact hc.bind (calm_same rfl rfl) fun _ _ => hc.bindRequire (by decide) fun _ =>
      hc.pump _
  refine .bind .get fun u => ?_
  rcases hw : runningWith T TermApi.write u.2 with _ | ⟨write,handle⟩
  · exact .fail (by decide)
  refine .bind ?_ fun _ => .bind (.require (by decide)) fun _ => pumpAndFinish_plain h
  intro s e he
  exact h.write write (runningWith_some hw).2 handle data s.2.platform e he

lemma processTerminalChannelData_moves (s : TermState κ η τ) :
    (sshServerProcessTerminalChannelData L T).Ensures s
      (Moves (TerminalPlain L T) TerminalChannel.receiveView s) := by
  have hc := calmSteps (κ := κ) L T
  refine .bindGet (.bindRequire (fun _ => ?_) (fun _ => (Calm.refl s).moves _))
  -- output may go out before the message is received
  apply (hc.pump s).bind
  · intro _ t ht
    apply Ensures.mono (P := Moves (TerminalPlain L T) TerminalChannel.receiveView t)
    · refine received_moves L (fun m t hid hr => ?_) (fun m t hn => ?_) (fun e t => ?_) t
      · exact processTerminalMessage_data hid hr (processTerminalData_onData L T _ t)
      · apply hc.processTerminalMessage m t
        · intro _
          exact calm_same rfl rfl
        intro hid hr
        exact absurd ⟨hid,hr⟩ hn
      · exact .ite (fun _ => hc.bind (hc.pump t) fun _ u => .fail (Calm.refl u))
          fun _ => .fail (Calm.refl t)
    intro r u h
    exact ht.before h
  intro e t hc
  exact hc.moves _
end

section
lemma effectiveSessionOptions_window (options : Option SessionOptions) :
    (effectiveSessionOptions options).channelWindowSize≠0 := by
  have hd : emsshDefaultChannelWindowSize≠0 := by decide
  rcases options with _ | options
  · exact hd
  show (if _ then _ else _)≠0
  split_ifs with h
  · exact h
  · exact hd

variable (L : LinkApi κ) (S : SftpServer σ) (T : Option (TermApi η τ))
  (authenticatedUsername : Bytes)

def Ready (kind : ChannelKind) (p : SftpChannel σ×TerminalChannel η τ) : Prop :=
  match kind with
  | .sftp => p.1.receiveView.Open
  | .terminal => p.2.receiveView.Open

lemma OpenOutcome.left {C α : Type} {effective : SessionOptions} {Q : ChannelOpen → α → C → Prop}
    {conn : Conn κ} {a : α} {t : Conn κ×C} (h : OpenOutcome effective Q conn (.ok a) t) :
    ∃ channelOpen,Q channelOpen a t.2 := by
  rcases h with ⟨_,_,h,_⟩ | ⟨channelOpen,_,_,h⟩
  · cases h
  · exact ⟨channelOpen,h a rfl⟩

lemma LeftOpen.ready {options : Option SessionOptions} {channelOpen : ChannelOpen}
    {k : ChannelKind} {p : SftpChannel σ×TerminalChannel η τ} {S : SftpServer σ}
    (h : LeftOpen S (effectiveSessionOptions options) channelOpen k p) : Ready k p := by
  cases k with
  | sftp =>
    obtain ⟨session,hc⟩ := h
    show p.1.receiveView.Open
    rw [hc]
    exact ⟨effectiveSessionOptions_window _,le_rfl⟩
  | terminal =>
    obtain ⟨_,hw,hm⟩ := h
    refine ⟨?_,?_⟩
    · show p.2.windowMaxSize≠0
      rw [hm]
      exact effectiveSessionOptions_window _
    · exact (hw.trans hm.symm).le

/-- Every way to a channel ends with an open receive window. -/
structure AcceptsOpen : Prop where
  sftp : ∀ options s,(sshServerAcceptSftpChannel L S options).Ensures s
    (fun r t => r=.ok () → t.2.receiveView.Open)
  terminal : ∀ options s,
    (sshServerAcceptTerminalChannel L T authenticatedUsername options).Ensures s
      (fun r t => r=.ok () → t.2.receiveView.Open)
  auto : ∀ beforeAccept options s,
    (sshServerAcceptAutoChannel L S T authenticatedUsername beforeAccept options).Ensures s
      (fun r t => ∀ kind,r=.ok kind → Ready kind t.2)

lemma acceptsOpen : AcceptsOpen L S T authenticatedUsername := by
  constructor
  · intro options s
    apply (acceptSftpChannel_spec L S options s).mono
    rintro _ t h rfl
    obtain ⟨_,hc⟩ := h.left
    exact LeftOpen.ready (k := .sftp)
      (p := (t.2,(TerminalChannel.zeroed () : TerminalChannel Unit Unit))) hc
  · intro options s
    apply (acceptTerminalChannel_spec L T authenticatedUsername options s).mono
    rintro _ t h rfl
    obtain ⟨_,hc⟩ := h.left
    exact LeftOpen.ready (S := S) (k := .terminal) (p := (SftpChannel.zeroed S,t.2)) hc
  intro beforeAccept options s
  apply (acceptAutoChannel_spec L S T authenticatedUsername beforeAccept options s).mono
  rintro _ t h kind rfl
  obtain ⟨_,hc⟩ := h.left
  exact hc.ready
end

/-- An accepted channel of either kind has an open receive window, which every run of its process
function keeps. -/
theorem receive_window_kept (L : LinkApi κ) (S : SftpServer σ) (T : Option (TermApi η τ))
    (authenticatedUsername : Bytes) :
    AcceptsOpen L S T authenticatedUsername ∧
      KeepsWindow (SftpPlain L S) SftpChannel.receiveView (sshServerProcessSftpChannelData L S) ∧
      KeepsWindow (TerminalPlain L T) TerminalChannel.receiveView
        (sshServerProcessTerminalChannelData L T) :=
  ⟨acceptsOpen L S T authenticatedUsername,keepsWindow_of_moves (processSftpChannelData_moves L S),
    keepsWindow_of_moves (processTerminalChannelData_moves L T)⟩

end EMSSHD
