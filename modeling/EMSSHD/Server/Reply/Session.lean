import EMSSHD.Server.Reply.Accept

namespace EMSSHD

open Call

variable {κ σ η τ C α β : Type}

/-- A request is answered: what is sent for it is in order, and the answer is missing only
when the call has failed. -/
structure Answered (wants : Bool) (r : Except Err α) (evs : List Event) : Prop where
  requestless : Requestless evs
  replies : ∃ after,Replies wants evs after ∧ ∀ a,r=.ok a → after=false

def NoneOpen (r : Except Err α) (after : Bool) : Prop := ∀ a,r=.ok a → after=false

/-- Every CHANNEL_FAILURE goes out. The accept functions do not look at the status. -/
def SendsFailures (L : LinkApi κ) : Prop :=
  ∀ recipient s,((sshTransportSendChannelFailure L recipient).run s).1=.ok ()

variable {wants : Bool} {evs : List Event}

lemma answered_error (e : Err) : Answered wants (.error e : Except Err α) [] :=
  ⟨requestless_nil,wants,replies_nil wants,nofun⟩

lemma answered_ok (a : α) : Answered false (.ok a) [] :=
  ⟨requestless_nil,false,replies_nil false,fun _ _ => rfl⟩

lemma answered_sent {r : Except Err α} {m : ServerMessage} {client : Nat}
    (hm : m=.success client ∨ m=.failure client) : Answered true r [.sent m] := by
  refine ⟨requestless_sent m,false,?_,fun _ _ => rfl⟩
  rcases hm with rfl | rfl
  · rfl
  · rfl

lemma Answered.ok {a : α} (h : Answered wants (.ok a) evs) (r : Except Err β) :
    Answered wants r evs := by
  obtain ⟨after,hr,hd⟩ := h.replies
  exact ⟨h.requestless,after,hr,fun _ _ => hd a rfl⟩

lemma Answered.error {e : Err} (h : Answered wants (.error e : Except Err α) evs) :
    Answered wants (.error e : Except Err β) evs := by
  obtain ⟨after,hr,_⟩ := h.replies
  exact ⟨h.requestless,after,hr,nofun⟩

lemma answered_before {c : Call (Conn κ×C) Err α} {f : α → Call (Conn κ×C) Err β}
    (h : Emits sessionTrace c (Answered wants))
    (hf : ∀ a,Emits sessionTrace (f a) (fun _ evs => evs=[])) :
    Emits sessionTrace (c >>= f) (Answered wants) := by
  apply h.bind
  · intro a evs ha
    apply (hf a).mono
    rintro r _ rfl
    rw [append_nil]
    exact ha.ok r
  intro e evs he
  exact he.error

lemma answered_behind {c : Call (TermState κ η τ) Err α} {f : α → Call (TermState κ η τ) Err β}
    (hc : Unseen c) (hf : ∀ a,Emits sessionTrace (f a) (Answered wants)) :
    Emits sessionTrace (c >>= f) (Answered wants) := by
  have hn : Emits sessionTrace c (fun _ evs => evs=[]) :=
    Emits.silent (fun s => congrArg Conn.trace (hc s).1) rfl
  apply hn.bind
  · rintro a _ rfl
    exact hf a
  rintro e _ rfl
  exact answered_error e

section
variable (L : LinkApi κ)

lemma send_answered {m : ServerMessage} {client : Nat}
    (hm : m=.success client ∨ m=.failure client) :
    Emits sessionTrace (Call.onFst (sendMessage L m) : Call (Conn κ×C) Err Unit)
      (Answered true) := by
  apply (sendMessage_emits L m).onFst.mono
  intro r evs h
  rcases r with e | _
  · rw [h.1]
    exact answered_error e
  rw [show evs=[.sent m] from h]
  exact answered_sent hm

lemma sendFailure_answered (hs : SendsFailures L) (client : Nat) :
    Emits sessionTrace (Call.ignore (Call.onFst (sshTransportSendChannelFailure L client)) :
      Call (Conn κ×C) Err Unit) (Answered true) := by
  intro s
  obtain ⟨evs,ht,h⟩ := sendMessage_emits L (.failure client) s.1
  rw [show ((sendMessage L (.failure client)).run s.1).1=.ok () from hs client s.1] at h
  refine ⟨evs,ht,?_⟩
  rw [show evs=[.sent (.failure client)] from h]
  exact answered_sent (.inr rfl)

variable {wants : Bool} {request : ChannelRequest}

lemma onlyIf_answered {p : Prop} [Decidable p] {c : Call (Conn κ×C) Err Unit}
    (hp : p ↔ wants=true) (hc : Emits sessionTrace c (Answered true)) :
    Emits sessionTrace (Call.onlyIf p c) (Answered wants) := by
  apply Emits.onlyIf
  · intro h
    rw [hp.mp h]
    exact hc
  intro h
  have hw : wants=false := (Bool.not_eq_true wants).mp (hp.not.mp h)
  rw [hw]
  exact answered_ok ()

lemma refuseRequest_answered (hs : SendsFailures L) (client : Nat) (request : ChannelRequest) :
    Emits sessionTrace (refuseRequest L client request : Call (Conn κ×C) Err Unit)
      (Answered (shouldReplyFailureForNonSftpRequest request)) :=
  onlyIf_answered Iff.rfl (sendFailure_answered L hs client)

lemma replySuccess_answered (client : Nat) (request : ChannelRequest) :
    Emits sessionTrace (replySuccess L client request : Call (TermState κ η τ) Err Unit)
      (Answered request.wantReply) :=
  onlyIf_answered Iff.rfl (send_answered L (.inl rfl))

lemma replyFailure_answered (hs : SendsFailures L) (client : Nat) (request : ChannelRequest) :
    Emits sessionTrace (replyFailure L client request : Call (TermState κ η τ) Err Unit)
      (Answered request.wantReply) :=
  onlyIf_answered Iff.rfl (sendFailure_answered L hs client)

lemma shouldReply_of_known {requestType : Bytes}
    (h : viewEqualsCstr request.requestType requestType=true)
    (hs : requestType≠cstr "simple@putty.projects.tartarus.org")
    (hw : requestType≠cstr "winadj@putty.projects.tartarus.org") :
    shouldReplyFailureForNonSftpRequest request=request.wantReply := by
  have ht : request.requestType=some requestType := of_decide_eq_true h
  simp [shouldReplyFailureForNonSftpRequest,channelRequestIsPuttyExtension,viewEqualsCstr,ht,hs,hw]

variable {L}
variable {evs past : List Event}

lemma Answered.answering {W : Except Err α → Bool → Prop} {r : Except Err (Option α)}
    (hW : ∀ a,r=.ok (some a) → W (.ok a) false)
    (h : Answered (shouldReplyFailureForNonSftpRequest request) r evs) :
    Answering L past request W r evs := by
  refine ⟨fun _ => ?_,fun _ => h.requestless⟩
  obtain ⟨after,hr,hd⟩ := h.replies
  refine ⟨after,hr,hd none,?_⟩
  intro a ha
  rw [hd _ ha]
  exact hW a ha

lemma Answered.settled {r : Except Err α} (h : Answered wants r evs) :
    Settled L past wants NoneOpen r evs :=
  fun _ => h.replies

lemma refuse_answering (hs : SendsFailures L) (client : Nat) (past : List Event)
    (request : ChannelRequest) (W : Except Err α → Bool → Prop) :
    Emits sessionTrace (do
      refuseRequest L client request
      pure none : Call (Conn κ×C) Err (Option α)) (Answering L past request W) := by
  apply (refuseRequest_answered L hs client request).bind
  · intro _ evs h
    apply Emits.pure
    rw [append_nil]
    exact (h.ok (.ok none)).answering nofun
  intro e evs h
  exact h.error.answering nofun
end

section
variable {L : LinkApi κ} (S : SftpServer σ)

lemma decideSftpRequest_answering (hs : SendsFailures L) (effective : SessionOptions)
    (opn : ChannelOpen) (past : List Event) (status : Except Err Unit) (request : ChannelRequest) :
    Emits sessionTrace (decideSftpRequest L effective opn status request :
      Call (SftpState κ σ) Err (Option ChannelRequest))
      (Answering L past request fun r after => ∀ a,r=.ok a → after=a.wantReply) := by
  apply Emits.ite
  · rintro ⟨_,hsb⟩
    have hw : shouldReplyFailureForNonSftpRequest request=request.wantReply := by
      apply shouldReply_of_known (Bool.and_eq_true_iff.mp hsb).1
      · decide
      · decide
    apply Emits.pure
    refine ⟨fun _ => ⟨_,replies_nil _,nofun,?_⟩,nofun⟩
    intro a ha b hb
    cases ha
    cases hb
    exact hw
  intro _
  exact refuse_answering hs _ past request _

lemma sftpAcceptAfterOpen_settled (hl : L.Supported) (hsn : SendsFailures L)
    (options : SessionOptions) (opn : ChannelOpen) (req : Option ChannelRequest)
    (past : List Event) (awaiting : Bool) (h : RoundStart past awaiting {} req) :
    Emits sessionTrace (sftpAcceptAfterOpen L S options opn req)
      (Settled L past awaiting NoneOpen) := by
  have he {e : Err} {evs : List Event} {W : Except Err ChannelRequest → Bool → Prop}
      (hs : Settled L past awaiting W (.error e) evs) :
      Settled L past awaiting NoneOpen (.error e : Except Err Unit) evs := by
    intro hf
    obtain ⟨after,hr,_⟩ := hs hf
    exact ⟨after,hr,nofun⟩
  apply Emits.bindRequire
  · intro _
    have hlp : Emits sessionTrace (Call.withLocal {} (requestLoop L
        (effectiveSessionOptions (some options)).serverChannel
        (decideSftpRequest L (effectiveSessionOptions (some options)) opn) 8
        req) : Call (SftpState κ σ) Err ChannelRequest)
        (Settled L past awaiting fun r after => ∀ a,r=.ok a → after=a.wantReply) :=
      fun s => requestLoop_settled hl (fun _ _ => nofun)
        (fun past status request _ => decideSftpRequest_answering hsn _ _ past status request)
        8 req past awaiting ((s.1,{}),s.2) h
    apply hlp.bind
    · intro request evs hs
      have hrp : Emits sessionTrace (Call.onlyIf (request.wantReply=true) (Call.onFst
          (sshTransportSendChannelSuccess L opn.senderChannel)) :
          Call (SftpState κ σ) Err Unit) (Answered request.wantReply) :=
        onlyIf_answered Iff.rfl (send_answered L (.inl rfl))
      refine Emits.mono (answered_before hrp ?_) ?_
      · intro _
        refine .bindLift (fun session _ => ?_) fun _ _ => rfl
        refine .bindLift (fun session _ => ?_) fun _ _ => rfl
        exact .silent (fun _ => rfl) rfl
      intro r later ha
      refine Settled.prepend (fun hf => ?_) ha.settled
      obtain ⟨after,hr,haf⟩ := hs hf
      rw [← haf request rfl]
      exact hr
    intro e evs hs
    exact he hs
  intro _ _
  exact ⟨awaiting,replies_nil awaiting,nofun⟩
end

section
variable {L : LinkApi κ} (T : Option (TermApi η τ)) (authenticatedUsername : Bytes)

lemma decideTerminalRequest_answered (hsn : SendsFailures L) (client : Nat)
    (status : Except Err Unit) (request : ChannelRequest) :
    Emits sessionTrace
      (decideTerminalRequest L T authenticatedUsername client status request :
        Call (TermState κ η τ) Err (Option Unit))
      (Answered (shouldReplyFailureForNonSftpRequest request)) := by
  have hp (x : Option Unit) : Emits sessionTrace
      (pure x : Call (TermState κ η τ) Err (Option Unit)) (fun _ evs => evs=[]) := .pure rfl
  have hr : Emits sessionTrace (do
      refuseRequest L client request
      pure none : Call (TermState κ η τ) Err (Option Unit))
      (Answered (shouldReplyFailureForNonSftpRequest request)) :=
    answered_before (refuseRequest_answered L hsn client request) fun _ => hp none
  have hs (x : Option Unit) : Emits sessionTrace (do
      replySuccess L client request
      pure x : Call (TermState κ η τ) Err (Option Unit)) (Answered request.wantReply) :=
    answered_before (replySuccess_answered L client request) fun _ => hp x
  have hst (status : Except Err Unit) : Emits sessionTrace (do
      replyStatus L client request status
      pure none : Call (TermState κ η τ) Err (Option Unit)) (Answered request.wantReply) :=
    answered_before (.ite (fun _ => replyFailure_answered L hsn client request)
      fun _ => replySuccess_answered L client request) fun _ => hp none
  refine .ite (fun _ => hr) fun _ => .ite (fun hpt => ?_) fun _ => .ite (fun he => ?_)
    fun _ => .ite (fun hw => ?_) fun _ => .ite (fun hsg => ?_) fun _ =>
    .ite (fun hsp => ?_) fun _ => hr
  · rw [shouldReply_of_known hpt (by decide) (by decide)]
    exact answered_behind (unseen_steps T).acceptPtyRequest fun _ => hs none
  · rw [shouldReply_of_known he (by decide) (by decide)]
    exact hs none
  · rw [shouldReply_of_known hw (by decide) (by decide)]
    exact answered_behind ((unseen_steps T).terminalWindowChange request) hst
  · rw [shouldReply_of_known hsg (by decide) (by decide)]
    exact answered_behind (unseen_steps T).acceptSignalRequest hst
  have hwn : shouldReplyFailureForNonSftpRequest request=request.wantReply := by
    rcases Bool.or_eq_true_iff.mp hsp with hsh | hexec
    · exact shouldReply_of_known hsh (by decide) (by decide)
    · exact shouldReply_of_known hexec (by decide) (by decide)
  rw [hwn]
  refine answered_behind ((unseen_steps T).spawnTerminal fun _ _ => ⟨rfl,rfl⟩)
    fun spawned => .ite (fun _ => ?_) fun _ => ?_
  · refine answered_behind (fun _ => ⟨rfl,rfl⟩) fun _ => hs (some ())
  · exact answered_before (replyFailure_answered L hsn client request) fun _ => hp none

lemma terminalAcceptAfterOpen_settled (hl : L.Supported) (hs : SendsFailures L)
    (options : SessionOptions) (opn : ChannelOpen) (req : Option ChannelRequest)
    (past : List Event) (awaiting : Bool) (h : RoundStart past awaiting {} req) :
    Emits sessionTrace (terminalAcceptAfterOpen L T authenticatedUsername options opn
      req) (Settled L past awaiting NoneOpen) := by
  apply Emits.bindRequire
  · intro _
    refine Emits.bindSilent (fun _ => rfl) ?_
    intro s
    refine requestLoop_settled hl (fun _ _ => nofun) ?_ 16 req past awaiting ((s.1,{}),s.2) h
    intro past status request _
    apply (decideTerminalRequest_answered T authenticatedUsername hs _ status request).mono
    intro r evs ha
    exact ha.answering fun _ _ _ _ => rfl
  intro _ _
  exact ⟨awaiting,replies_nil awaiting,nofun⟩
end

section
variable {L : LinkApi κ} (S : SftpServer σ) (T : Option (TermApi η τ))
  (authenticatedUsername : Bytes)

/-- A request that opens the channel is handed to one of the two accept functions, which
answers it as its own first request. -/
theorem decideAutoRequest_answering (hl : L.Supported) (hs : SendsFailures L) (hook : AcceptHook)
    (effective : SessionOptions) (opn : ChannelOpen) (past : List Event) (status : Except Err Unit)
    (request : ChannelRequest) (hls : ReceivedLast request past) :
    Emits sessionTrace (decideAutoRequest L S T authenticatedUsername hook effective
      opn status request) (Answering L past request NoneOpen) := by
  have he (e : Err) {evs : List Event} {W : Except Err Unit → Bool → Prop}
      (h : Settled L past (shouldReplyFailureForNonSftpRequest request) W (.error e) evs) :
      Answering L past request NoneOpen (.error e : Except Err (Option ChannelKind)) evs := by
    refine ⟨fun hf => ?_,nofun⟩
    obtain ⟨after,hr,_⟩ := h hf
    exact ⟨after,hr,nofun,nofun⟩
  have hi (kind : ChannelKind) {c : Call (ServerState κ σ η τ) Err Unit}
      (hc : Emits sessionTrace c
        (Settled L past (shouldReplyFailureForNonSftpRequest request) NoneOpen)) :
      Emits sessionTrace (do
        Call.lift (runHook hook kind)
        c
        pure (some kind)) (Answering L past request NoneOpen) := by
    apply Emits.bindLift
    · intro _ _
      apply hc.bind
      · intro _ evs h
        apply Emits.pure
        rw [append_nil]
        refine ⟨fun hf => ?_,nofun⟩
        obtain ⟨after,hr,hn⟩ := h hf
        exact ⟨after,hr,nofun,fun _ _ _ _ => hn () rfl⟩
      intro e evs h
      exact he e h
    intro e _
    exact (answered_error e).answering nofun
  apply Emits.ite
  · intro _
    apply hi .sftp
    exact (sftpAcceptAfterOpen_settled S hl hs effective opn (some request) past _ ⟨rfl,hls⟩).onLeft
  intro _
  apply Emits.ite
  · intro _
    apply hi .terminal
    exact (terminalAcceptAfterOpen_settled T authenticatedUsername hl hs effective
      opn (some request) past _ ⟨rfl,hls⟩).onRight
  intro _
  exact refuse_answering hs _ past request _

/-- How an accept function ends: it has failed before it has confirmed a channel, or it has
confirmed one and the talk since is in order unless a stale request is met in it. -/
def Conversed (L : LinkApi κ) (effective : SessionOptions) (r : Except Err α)
    (evs : List Event) : Prop :=
  (∃ e,r=.error e) ∧ Heard evs ∨
  ∃ channelOpen before talk,evs=before++talk ∧ Confirmed effective channelOpen before ∧
    (¬MeetsStaleRequest L talk → ∃ after,Replies false talk after ∧ NoneOpen r after)

variable {effective : SessionOptions} {evs : List Event}

lemma Conversed.ok {a : α} (h : Conversed L effective (.ok a) evs) (b : β) :
    Conversed L effective (.ok b) evs := by
  rcases h with ⟨⟨_,he⟩,_⟩ | ⟨channelOpen,before,talk,hev,hc,ht⟩
  · cases he
  refine .inr ⟨channelOpen,before,talk,hev,hc,fun hf => ?_⟩
  obtain ⟨after,hr,hn⟩ := ht hf
  exact ⟨after,hr,fun _ _ => hn a rfl⟩

lemma Conversed.error {e : Err} (h : Conversed L effective (.error e : Except Err α) evs) :
    Conversed L effective (.error e : Except Err β) evs := by
  rcases h with ⟨_,hh⟩ | ⟨channelOpen,before,talk,he,hc,ht⟩
  · exact .inl ⟨⟨e,rfl⟩,hh⟩
  refine .inr ⟨channelOpen,before,talk,he,hc,fun hf => ?_⟩
  obtain ⟨after,hr,_⟩ := ht hf
  exact ⟨after,hr,nofun⟩

lemma conversed_then {c : Call (Conn κ×C) Err α} {b : β}
    (h : Emits sessionTrace c (Conversed L effective)) :
    Emits sessionTrace (c >>= fun _ => pure b) (Conversed L effective) := by
  apply h.bind
  · intro a evs ha
    apply Emits.pure
    rw [append_nil]
    exact ha.ok b
  intro e evs he
  exact he.error

lemma conversed_of_after {after : ChannelOpen → Call (Conn κ×C) Err α}
    (h : ∀ channelOpen,Emits sessionTrace (after channelOpen) (Settled L [] false NoneOpen)) :
    Emits sessionTrace (Call.onFst (receiveSessionOpen L effective) >>= after)
      (Conversed L effective) := by
  apply Emits.bind (receiveSessionOpen_emits L effective).onFst
  · intro channelOpen before hc
    apply (h channelOpen).mono
    intro r talk hs
    exact .inr ⟨channelOpen,before,talk,rfl,hc,hs⟩
  intro e evs hh
  exact .inl ⟨⟨e,rfl⟩,hh⟩

lemma acceptChannel_conversed (hl : L.Supported) (hsn : SendsFailures L) (entry : Entry)
    (options : Option SessionOptions) :
    Emits sessionTrace (acceptChannel L S T authenticatedUsername entry options)
      (Conversed L (effectiveSessionOptions options)) := by
  have hs : RoundStart [] false {} none := ⟨rfl,receivedLast_zero⟩
  cases entry with
  | sftp =>
    apply conversed_then
    apply Emits.onLeft
    apply Emits.bindRequire
    · intro _
      refine Emits.bindSilent (fun _ => rfl) (conversed_of_after fun channelOpen => ?_)
      exact sftpAcceptAfterOpen_settled S hl hsn _ channelOpen none [] false hs
    intro _
    exact .inl ⟨⟨_,rfl⟩,heard_nil⟩
  | terminal =>
    apply conversed_then
    apply Emits.onRight
    refine Emits.bindSilent (fun _ => rfl) (conversed_of_after fun channelOpen => ?_)
    exact terminalAcceptAfterOpen_settled T authenticatedUsername hl hsn _ channelOpen none
      [] false hs
  | auto beforeAccept =>
    refine Emits.bindSilent (fun _ => rfl) (conversed_of_after fun channelOpen s => ?_)
    exact requestLoop_settled hl (fun _ _ => nofun)
      (fun past status request hls => decideAutoRequest_answering S T authenticatedUsername
        hl hsn beforeAccept _ channelOpen past status request hls)
      16 none [] false ((s.1,{}),s.2) hs

variable {S T authenticatedUsername}

/-- One reply per request. While a channel is accepted every request that wants an answer is
answered once and before the next message is received, and nothing else is answered, when no
such request is followed by a message on which the receive function gives up, or by sixteen
that it passes over: the accept loop then acts on the old request once more. -/
theorem accept_replies_in_order (hlink : L.Supported) (hsend : SendsFailures L) {entry : Entry}
    {options : Option SessionOptions} {s u : ServerState κ σ η τ} {r : Except Err ChannelKind}
    (h : (acceptChannel L S T authenticatedUsername entry options).run s=(r,u)) :
    (∃ e evs,r=.error e ∧ u.1.trace=s.1.trace++evs ∧ Heard evs) ∨
    ∃ channelOpen before talk,u.1.trace=s.1.trace++(before++talk) ∧
      Confirmed (effectiveSessionOptions options) channelOpen before ∧
      (¬MeetsStaleRequest L talk →
        ∃ after,Replies false talk after ∧ ∀ kind,r=.ok kind → after=false) := by
  have hc := acceptChannel_conversed S T authenticatedUsername hlink hsend entry options s
  obtain ⟨evs,ht,hen⟩ := hc.of_eq h
  rcases hen with ⟨⟨e,he⟩,hh⟩ | ⟨channelOpen,before,talk,hev,hcn,htl⟩
  · exact .inl ⟨e,evs,he,ht,hh⟩
  rw [hev] at ht
  exact .inr ⟨channelOpen,before,talk,ht,hcn,htl⟩
end

def playbackLink : LinkApi (List Bytes) where
  recv _ := ⟨fun script => match script with
    | [] => (.error .closed,[])
    | payload::rest => (.ok payload,rest)⟩
  send _ := pure ()
  rekey _ := pure ()
  send_error _ _ _ _ h := by cases h

lemma playbackLink_supported : playbackLink.Supported := by
  constructor
  · intro capacity script h
    cases script with
    | nil | cons => cases h
  intro payload script h
  cases h

lemma playbackLink_sendsFailures : SendsFailures playbackLink := fun _ _ => rfl

abbrev acceptPlayback : Call (ServerState (List Bytes) Unit Unit Unit) Err ChannelKind :=
  acceptChannel playbackLink sampleSftp (some greeter) [] (.auto none) none

def playbackServer (script : List Bytes) : ServerState (List Bytes) Unit Unit Unit :=
  (⟨script,[],none⟩,(SftpChannel.zeroed sampleSftp,TerminalChannel.zeroed ()))

def refusedThenSftp : ServerState (List Bytes) Unit Unit Unit :=
  playbackServer [openPayload 7 100 1000,keepalivePayload,subsystemPayload]

theorem accept_replies_in_order_refused :
    ∃ u,acceptPlayback.run refusedThenSftp=(.ok .sftp,u) ∧
      ((∃ e evs,(.ok .sftp : Except Err ChannelKind)=.error e ∧
          u.1.trace=refusedThenSftp.1.trace++evs ∧ Heard evs) ∨
        ∃ channelOpen before talk,u.1.trace=refusedThenSftp.1.trace++(before++talk) ∧
          Confirmed (effectiveSessionOptions none) channelOpen before ∧
          (¬MeetsStaleRequest playbackLink talk → ∃ after,Replies false talk after ∧
            ∀ kind,(.ok .sftp : Except Err ChannelKind)=.ok kind → after=false)) := by
  have h : acceptPlayback.run refusedThenSftp=(.ok .sftp,(acceptPlayback.run refusedThenSftp).2) :=
    rfl
  exact ⟨_,h,accept_replies_in_order playbackLink_supported playbackLink_sendsFailures h⟩

def strayBetween : ServerState (List Bytes) Unit Unit Unit :=
  playbackServer [openPayload 7 100 1000,keepalivePayload,[200],subsystemPayload]

/-- The request of unknown type is refused twice. -/
theorem stale_request_refused_again :
    ∃ u channelOpen before talk,acceptPlayback.run strayBetween=(.ok .sftp,u) ∧
      u.1.trace=strayBetween.1.trace++(before++talk) ∧
      Confirmed (effectiveSessionOptions none) channelOpen before ∧
      talk=[.received keepalivePayload,.sent (.failure 7),.received [200],.sent (.failure 7),
        .received subsystemPayload,.sent (.success 7)] ∧
      ∀ after,¬Replies false talk after := by
  refine ⟨_,(decodePayload sshChannelOpenDecode {} (openPayload 7 100 1000)).2,_,_,rfl,?_,
    ⟨[],openPayload 7 100 1000,rfl,heard_nil,rfl⟩,rfl,?_⟩
  · rfl
  intro after h
  cases h

end EMSSHD
