import EMSSHD.Framework.Composes
import EMSSHD.Server.Accept

namespace EMSSHD

open Call

variable {κ η τ : Type}

lemma runningWith_some {φ : Type} {T : Option (TermApi η τ)} {f : TermApi η τ → Option φ}
    {c : TerminalChannel η τ} {g : φ} {handle : η} (h : runningWith T f c=some (g,handle)) :
    c.running=true ∧ T.bind f=some g := by
  unfold runningWith at h
  split at h
  · rename_i hr _ hf
    cases h
    exact ⟨hr,hf⟩
  · cases h

def TerminalChannel.fixed (c : TerminalChannel η τ) : TerminalChannel η τ :=
  {c with
    cols := 0
    rows := 0
    widthPx := 0
    heightPx := 0
    termType := []
    ptyRequested := false
    running := false
    eofSent := false
    closeSent := false
    exitStatusSent := false
    state := .init}

/-- A message to the client of a channel, neither data nor EOF nor an adjustment of the
window. -/
inductive Notice (client : Nat) : ServerMessage → Prop
  | success : Notice client (.success client)
  | failure : Notice client (.failure client)
  | exitStatus (exitStatus : Nat) : Notice client (.exitStatus client exitStatus)
  | close : Notice client (.close client)

/-- A call of a function of the platform that moves neither input nor output. -/
inductive PlatformCall (T : Option (TermApi η τ)) : (α : Type) → Call τ Err α → Prop
  | resize {f : η → (cols rows widthPx heightPx : Nat) → Call τ Err Unit}
    (h : T.bind TermApi.resize=some f) (handle : η) (cols rows widthPx heightPx : Nat) :
    PlatformCall T Unit (f handle cols rows widthPx heightPx)
  | signal {f : η → (signalName : Bytes) → Call τ Err Unit} (h : T.bind TermApi.signal=some f)
    (handle : η) (signalName : Bytes) : PlatformCall T Unit (f handle signalName)
  | waitExit {f : η → Call τ Err (Option Nat)} (h : T.bind TermApi.waitExit=some f) (handle : η) :
    PlatformCall T (Option Nat) (f handle)

variable {L : LinkApi κ} {T : Option (TermApi η τ)}
  {R : (α : Type) → TermState κ η τ → Except Err α → TermState κ η τ → Prop}

structure LocalSteps (T : Option (TermApi η τ))
    (R : (α : Type) → TermState κ η τ → Except Err α → TermState κ η τ → Prop) : Prop
    extends Composes (·≠.security) R where
  change : ∀ {s : TermState κ η τ} {c : TerminalChannel η τ},c.fixed=s.2.fixed →
    R Unit s (.ok ()) (s.1,c)
  platform : ∀ {α : Type} {c : Call τ Err α},PlatformCall T α c →
    ∀ s,(onPlatform c).Ensures s (R α s)

structure NoticeSteps (L : LinkApi κ)
    (R : (α : Type) → TermState κ η τ → Except Err α → TermState κ η τ → Prop) : Prop
    extends Composes (·≠.security) R where
  change : ∀ {s : TermState κ η τ} {c : TerminalChannel η τ},c.fixed=s.2.fixed →
    R Unit s (.ok ()) (s.1,c)
  notice : ∀ {m : ServerMessage} {client : Nat} (s : TermState κ η τ),s.2.clientChannel=client →
    Notice client m → (onFst (sendMessage L m)).Ensures s (R Unit s)

section
variable (h : LocalSteps T R) (request : ChannelRequest)

include h

lemma LocalSteps.viewToCstring (view : StringView) (cap : Nat) (s : TermState κ η τ) :
    (Call.lift (viewToCstring view cap)).Ensures s (R Bytes s) := by
  unfold EMSSHD.viewToCstring
  rcases view with _ | bytes
  · exact h.pure [] s
  dsimp only
  split_ifs
  · exact h.fail (by decide) s
  · exact h.pure bytes s

lemma LocalSteps.terminalWindowChange (s : TermState κ η τ) :
    (terminalWindowChange T request).Ensures s (R Unit s) := by
  have hrs : (resizeTo request s.2).fixed=s.2.fixed := rfl
  apply h.bind (Ensures.modify (h.change hrs))
  intro _ t
  apply bindGet
  rcases hr : runningWith T TermApi.resize t.2 with _ | ⟨resize,handle⟩
  · exact h.pure () t
  · exact h.platform (.resize (runningWith_some hr).2 ..) t

lemma LocalSteps.terminalRequestStatus (s : TermState κ η τ) :
    (terminalRequestStatus T request).Ensures s (R Unit s) := by
  apply Ensures.ite
  · intro _
    exact h.terminalWindowChange request s
  intro _
  apply Ensures.ite
  · intro _
    apply bindGet
    rcases hr : runningWith T TermApi.signal s.2 with _ | ⟨signal,handle⟩
    · exact h.pure () s
    apply h.bind (h.viewToCstring request.signalName 64 s)
    intro signalName t
    exact h.platform (.signal (runningWith_some hr).2 ..) t
  intro _
  apply Ensures.ite
  · intro _
    exact h.pure () s
  intro _
  exact h.fail (by decide) s
end

section
variable (h : NoticeSteps L R)

include h

lemma NoticeSteps.sendTerminalCloseOnce (s : TermState κ η τ) :
    (sendTerminalCloseOnce L).Ensures s (R Unit s) := by
  apply bindGet
  apply h.onlyIf
  apply h.bind (h.notice s rfl .close)
  intro _ t
  exact Ensures.modify (h.change rfl)

lemma NoticeSteps.maybeSendTerminalExitAndClose (s : TermState κ η τ)
    (hw : ∀ f,T.bind TermApi.waitExit=some f → ∀ handle s,
      (onPlatform (f handle)).Ensures s (R (Option Nat) s)) (he : ∀ s : TermState κ η τ,
      (onFst (sshTransportSendChannelEof L s.2.clientChannel)).Ensures s (R Unit s)) :
    (maybeSendTerminalExitAndClose L T).Ensures s (R Bool s) := by
  apply bindGet
  rcases hr : runningWith T TermApi.waitExit s.2 with _ | ⟨waitExit,handle⟩
  · exact h.pure false s
  apply h.bind (hw waitExit (runningWith_some hr).2 handle s)
  intro exited t
  rcases exited with _ | exitStatus
  · exact h.pure false t
  refine h.bind (.bindGet (h.onlyIf (h.bind (h.notice t rfl (.exitStatus exitStatus)) fun _ _ =>
    .modify (h.change rfl)))) fun _ t => ?_
  refine h.bind (.bindGet (h.onlyIf (h.bind (he t) fun _ _ => .modify (h.change rfl))))
    fun _ t => ?_
  refine h.bind (h.sendTerminalCloseOnce t) fun _ t => ?_
  exact h.bind (.modify (h.change rfl)) fun _ u => h.pure true u
end

section
def afterRead (read : η → (len : Nat) → Call τ Err Bytes) (handle : η) (s : TermState κ η τ) :
    TermState κ η τ :=
  (s.1,{s.2 with platform := ((read handle (pumpLen s.2)).run s.2.platform).2})

variable (h : Composes (·≠.security) R)

include h

lemma maybePumpTerminalOutput_composes (he : ∀ read,T.bind TermApi.read=some read → ∀ handle s,
      ((read handle (pumpLen s.2)).run s.2.platform).1=.ok [] →
      R Unit s (.ok ()) (afterRead read handle s))
    (hf : ∀ read,T.bind TermApi.read=some read → ∀ handle s e,
      ((read handle (pumpLen s.2)).run s.2.platform).1=.error e →
      ∀ r,r=.ok () ∨ r=.error e → R Unit s r (afterRead read handle s))
    (hsm : ∀ read,T.bind TermApi.read=some read → ∀ handle s bytes,
      ((read handle (pumpLen s.2)).run s.2.platform).1=.ok bytes →
      (sendTerminalOutput L bytes).Ensures (afterRead read handle s) (R Unit s))
    (s : TermState κ η τ) : (maybePumpTerminalOutput L T).Ensures s (R Unit s) := by
  have hl (read : η → (len : Nat) → Call τ Err Bytes) (hr : T.bind TermApi.read=some read)
      (handle : η) (rounds : Nat) (s : TermState κ η τ) :
      (pumpLoop L read handle rounds).Ensures s (R Unit s) := by
    induction rounds generalizing s with
    | zero => exact h.pure () s
    | succ rounds ih =>
      apply bindGet
      apply Ensures.ite
      · intro _
        exact h.pure () s
      intro _
      have hrn : (onPlatform (read handle (pumpLen s.2))).status.run s=
          (.ok ((read handle (pumpLen s.2)).run s.2.platform).1,afterRead read handle s) := rfl
      apply bindOk hrn
      rcases hs : ((read handle (pumpLen s.2)).run s.2.platform).1 with e | bytes
      · have hq := hf read hr handle s e hs
        exact .ite (fun _ => hq _ (.inl rfl)) fun _ => hq _ (.inr rfl)
      apply Ensures.ite
      · intro hz
        rw [length_eq_zero_iff.mp hz] at hs
        exact he read hr handle s hs
      intro _
      exact h.bind (hsm read hr handle s bytes hs) fun _ u => ih u
  apply bindGet
  rcases hr : runningWith T TermApi.read s.2 with _ | ⟨read,handle⟩
  · exact h.pure () s
  · exact hl read (runningWith_some hr).2 handle _ s

lemma pumpAndFinish_composes (hp : ∀ s,(maybePumpTerminalOutput L T).Ensures s (R Unit s))
    (hf : ∀ s,(maybeSendTerminalExitAndClose L T).Ensures s (R Bool s))
    (s : TermState κ η τ) : (pumpAndFinish L T).Ensures s (R Unit s) :=
  h.bind (hp s) fun _ t => h.bind (hf t) fun _ _ => h.require (by decide)
end

/-- A relation that holds of all that is done with a message to a terminal, but for the window
that it may give and the data that it may bring. -/
structure ServeSteps (L : LinkApi κ) (T : Option (TermApi η τ))
    (R : (α : Type) → TermState κ η τ → Except Err α → TermState κ η τ → Prop) : Prop
    extends NoticeSteps L R where
  violation : ∀ s,R Unit s (.error .security) s
  request : ∀ request s,(terminalRequestStatus T request).status.Ensures s (R (Except Err Unit) s)
  pump : ∀ s,(pumpAndFinish L T).Ensures s (R Unit s)

/-- What does not look at the status holds of all this when it holds of every message to the
client and of what the platform is asked for. -/
theorem serveSteps_of {S : TermState κ η τ → TermState κ η τ → Prop}
    (h : NoticeSteps L fun _ s _ t => S s t)
    (hp : ∀ {α : Type} {c : Call τ Err α},PlatformCall T α c →
      ∀ s,S s ((onPlatform c).run s).2)
    (he : ∀ s : TermState κ η τ,
      S s ((onFst (sendMessage L (.eof s.2.clientChannel)) : Call _ Err Unit).run s).2)
    (hrd : ∀ f,T.bind TermApi.read=some f → ∀ handle len s,
      S s ((onPlatform (f handle len)).run s).2)
    (hd : ∀ client bytes (s : TermState κ η τ),
      S s ((onFst (sshTransportSendChannelData L client bytes) : Call _ Err Unit).run s).2)
    (hs : ∀ (n : Nat) (s : TermState κ η τ),
      S s (s.1,{s.2 with peerWindowSize := s.2.peerWindowSize-n})) :
    ServeSteps L T fun _ s _ t => S s t where
  toNoticeSteps := h
  violation := h.pure ()
  request := LocalSteps.terminalRequestStatus ⟨h.toComposes,h.change,hp⟩
  pump := by
    have hsm (bytes : Bytes) (s : TermState κ η τ) :
        (sendTerminalOutput L bytes).Ensures s fun _ t => S s t := by
      refine .bindGet (h.bind (hd s.2.clientChannel bytes s) fun _ t => ?_)
      exact .bindRequire (fun _ => .modify (hs bytes.length t)) fun _ => h.pure () t
    apply pumpAndFinish_composes h.toComposes
    · apply maybePumpTerminalOutput_composes h.toComposes
      · intro read hr handle s _
        exact hrd read hr handle _ s
      · intro read hr handle s _ _ _ _
        exact hrd read hr handle _ s
      intro read hr handle s bytes _
      refine (hsm bytes _).mono fun _ _ ht => ?_
      exact h.seq (a := ()) (r := .ok ()) (hrd read hr handle _ s) ht
    intro s
    exact h.maybeSendTerminalExitAndClose s (fun _ hr _ => hp (.waitExit hr _)) he

section
variable (h : ServeSteps L T R)

include h

lemma ServeSteps.processTerminalRequest (request : ChannelRequest) (s : TermState κ η τ) :
    (processTerminalRequest L T request).Ensures s (R Unit s) := by
  apply h.bind (h.request request s)
  intro requestStatus t
  apply bindGet
  apply h.bind
  · apply h.onlyIf
    apply Ensures.ite
    · intro _
      exact h.notice t rfl .success
    intro _
    exact h.notice t rfl .failure
  intro _ u
  exact h.onlyIf (h.pump u)

lemma ServeSteps.processTerminalData (data : Bytes) (hd : ∀ s : TermState κ η τ,R Unit s (.ok ())
      (s.1,{s.2 with windowSize := s.2.windowSize-data.length}))
    (hrp : ∀ s,(maybeReplenishTerminalReceiveWindow L).Ensures s (R Unit s))
    (hw : ∀ f,T.bind TermApi.write=some f → ∀ handle s,
      (onPlatform (f handle data)).Ensures s (R Nat s)) (s : TermState κ η τ) :
    (processTerminalData L T data).Ensures s (R Unit s) := by
  refine .bindGet (.bindRequire (fun _ => ?_) fun _ => h.violation s)
  apply h.bind (Ensures.modify (hd s))
  intro _ t
  apply h.bind (hrp t)
  intro _ u
  apply bindGet
  rcases hr : runningWith T TermApi.write u.2 with _ | ⟨write,handle⟩
  · exact h.fail (by decide) u
  apply h.bind (hw write (runningWith_some hr).2 handle u)
  intro writtenLen v
  exact h.bindRequire (by decide) fun _ => h.pump v

lemma ServeSteps.processTerminalMessage (m : ChannelMessage) (s : TermState κ η τ)
    (hc : m.messageId=sshMsgChannelWindowAdjust → R Unit s (.ok ()) (s.1,{s.2 with
      peerWindowSize := addU32Saturating s.2.peerWindowSize m.windowBytes}))
    (hd : m.messageId=sshMsgChannelData → m.recipientChannel=s.2.serverChannel →
      (EMSSHD.processTerminalData L T (m.data.getD [])).Ensures s (R Unit s)) :
    (processTerminalMessage L T m).Ensures s (R Unit s) := by
  refine .bindGet (.bindRequire (fun hr => ?_) fun _ => h.violation s)
  apply Ensures.ite
  · intro hid
    exact h.bind (.modify (hc hid)) fun _ t => h.pump t
  intro _
  apply Ensures.ite
  · intro _
    exact h.processTerminalRequest _ s
  intro _
  apply Ensures.ite
  · intro _
    exact h.pump s
  intro _
  apply Ensures.ite
  · intro _
    refine h.bind (h.sendTerminalCloseOnce s) fun _ t => ?_
    exact h.bind (.modify (h.change rfl)) fun _ u => h.fail (by decide) u
  intro _
  apply Ensures.ite
  · intro hid
    exact hd hid hr
  intro _
  exact h.fail (by decide) s
end

lemma processTerminalMessage_data {m : ChannelMessage} {s : TermState κ η τ}
    {Q : Except Err Unit → TermState κ η τ → Prop} (hid : m.messageId=sshMsgChannelData)
    (hm : m.recipientChannel=s.2.serverChannel)
    (h : (processTerminalData L T (m.data.getD [])).Ensures s Q) :
    (processTerminalMessage L T m).Ensures s Q := by
  have ho {messageId : UInt8} (hne : messageId≠sshMsgChannelData) : m.messageId≠messageId :=
    fun h => hne (h.symm.trans hid)
  refine .bindGet (.bindRequire (fun _ => ?_) fun hno => absurd hm hno)
  rw [if_neg (ho (by decide)),if_neg (ho (by decide)),if_neg (ho (by decide)),
    if_neg (ho (by decide)),if_pos hid]
  exact h

variable {S : TermState κ η τ → TermState κ η τ → Prop} (h : LocalSteps T fun _ s _ t => S s t)
  {user : Bytes} {client : Nat} {request : ChannelRequest}

include h

lemma LocalSteps.spawnTerminal (hs : ∀ c s,S s ((onSpawn c).run s).2) (s : TermState κ η τ) :
    (spawnTerminal T user request).Ensures s (fun _ t => S s t) := by
  apply bindGet
  apply h.bindRequire (by decide)
  intro _
  apply Ensures.ite
  · intro _
    rcases T.bind TermApi.spawnShell with _ | spawnShell
    · exact h.pure () s
    · exact hs _ s
  intro _
  rcases T.bind TermApi.spawnExec with _ | spawnExec
  · exact h.pure () s
  · exact h.bind (h.viewToCstring request.command 256 s) fun _ t => hs _ t

lemma LocalSteps.acceptPtyRequest (s : TermState κ η τ) :
    (acceptPtyRequest request).Ensures s (fun _ t => S s t) := by
  refine h.bind (h.viewToCstring request.termType 64 s) fun termType t => .modify (h.change ?_)
  rfl

lemma LocalSteps.acceptSignalRequest (s : TermState κ η τ) :
    (acceptSignalRequest T request).Ensures s (fun _ t => S s t) := by
  apply bindGet
  rcases hr : runningWith T TermApi.signal s.2 with _ | ⟨signal,handle⟩
  · exact h.pure () s
  refine h.bind (h.viewToCstring request.signalName 64 s) fun _ t => ?_
  exact h.platform (.signal (runningWith_some hr).2 ..) t

/-- The answer to a request to a terminal that is being opened, for a relation that holds of
the replies and of the spawn functions. -/
theorem LocalSteps.decideTerminalRequest {status : Except Err Unit}
    (hr : ∀ m,m=.success client ∨ m=.failure client →
      ∀ s,S s ((onFst (sendMessage L m) : Call (TermState κ η τ) Err Unit).run s).2)
    (hsp : status=.ok () → (viewEqualsCstr request.requestType sshChannelRequestShell ||
      viewEqualsCstr request.requestType sshChannelRequestExec)=true →
      ∀ s,(EMSSHD.spawnTerminal T user request).Ensures s (fun _ t => S s t))
    (s : TermState κ η τ) :
    (decideTerminalRequest L T user client status request).Ensures s (fun _ t => S s t) := by
  have hd {α : Type} (a : α) (s : TermState κ η τ) :
      (pure a : Call (TermState κ η τ) Err α).Ensures s (fun _ t => S s t) := h.pure a s
  have hs (s) : (replySuccess L client request).Ensures s (fun _ t => S s t) :=
    h.onlyIf (hr _ (.inl rfl) s)
  have hf (s) : (replyFailure L client request).Ensures s (fun _ t => S s t) :=
    h.onlyIf (hr _ (.inr rfl) s)
  have hst (status s) : (replyStatus L client request status).Ensures s (fun _ t => S s t) :=
    .ite (fun _ => hf s) fun _ => hs s
  unfold EMSSHD.decideTerminalRequest
  split_ifs with hb _ _ _ _ hasks
  · exact h.bind (h.onlyIf (hr _ (.inr rfl) s)) fun _ t => hd none t
  · -- pty-req
    exact h.bind (h.acceptPtyRequest s) fun _ t => h.bind (hs t) fun _ u => hd none u
  · -- env
    exact h.bind (hs s) fun _ t => hd none t
  · -- window-change
    exact h.bind (h.terminalWindowChange request s) fun resized t =>
      h.bind (hst resized t) fun _ u => hd none u
  · -- signal
    exact h.bind (h.acceptSignalRequest s) fun signalled t =>
      h.bind (hst signalled t) fun _ u => hd none u
  · -- shell and exec
    refine h.bind (hsp (not_not.mp hb) hasks s) fun spawned t => .ite (fun _ => ?_) fun _ => ?_
    · exact h.bind (.modify (h.change rfl)) fun _ u => h.bind (hs u) fun _ v => hd _ v
    · exact h.bind (hf t) fun _ u => hd none u
  · exact h.bind (h.onlyIf (hr _ (.inr rfl) s)) fun _ t => hd none t

end EMSSHD
