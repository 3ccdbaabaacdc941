import EMSSHD.Server.Opening
import EMSSHD.Server.Sftp.Close

namespace EMSSHD

variable {κ σ η τ : Type}
variable {client : Nat} {evs : List Event}

lemma Negotiated.quiet (h : Negotiated client evs) : Quiet evs := by
  intro e he
  rcases h e he with hh | rfl | rfl
  · rcases hh e (mem_singleton.mpr rfl) with ⟨payload,rfl⟩ | rfl | ⟨_,_,_,rfl⟩
    all_goals exact ⟨rfl,nofun⟩
  · exact ⟨rfl,nofun⟩
  · exact ⟨rfl,nofun⟩

lemma Negotiated.recipient (h : Negotiated client evs) {m : ServerMessage} (hm : .sent m∈evs) :
    (m=.requestFailure ∨ ∃ recipient reason text,m=.openFailure recipient reason text) ∨
      m=.success client ∨ m=.failure client := by
  rcases h _ hm with hh | hs | hf
  · left
    rcases hh _ (mem_singleton.mpr rfl) with ⟨_,hp⟩ | hr | ⟨recipient,reason,text,ho⟩
    · cases hp
    · exact .inl (Event.sent.inj hr)
    · exact .inr ⟨recipient,reason,text,Event.sent.inj ho⟩
  · exact .inr (.inl (Event.sent.inj hs))
  · exact .inr (.inr (Event.sent.inj hf))

section
variable (L : LinkApi κ) (S : SftpServer σ) (T : Option (TermApi η τ))
  (authenticatedUsername : Bytes)

lemma acceptChannel_spec (entry : Entry) (options : Option SessionOptions)
    (s : ServerState κ σ η τ) :
    (acceptChannel L S T authenticatedUsername entry options).Ensures s
      (OpenOutcome (effectiveSessionOptions options)
        (Accepted (effectiveSessionOptions options)) s.1) := by
  cases entry with
  | sftp =>
    apply (acceptSftpChannel_spec L S options (s.1,s.2.1)).onLeft.bind
    · intro _ t h
      refine h.mono nofun ?_
      rintro channelOpen _ ⟨⟩
      exact ⟨(),rfl,LeftOpen.accepted (k := .sftp)⟩
    intro e t h
    exact h.mono (fun _ he => congrArg _ (Except.error.inj he)) nofun
  | terminal =>
    apply (acceptTerminalChannel_spec L T authenticatedUsername options (s.1,s.2.2)).onRight.bind
    · intro _ t h
      refine h.mono nofun ?_
      rintro channelOpen _ ⟨⟩
      exact ⟨(),rfl,LeftOpen.accepted (S := S) (k := .terminal)⟩
    intro e t h
    exact h.mono (fun _ he => congrArg _ (Except.error.inj he)) nofun
  | auto beforeAccept =>
    apply (acceptAutoChannel_spec L S T authenticatedUsername beforeAccept options s).mono
    intro r t h
    exact h.mono (fun _ => id) fun _ kind hk => ⟨kind,hk,LeftOpen.accepted⟩

lemma processChannelData_step (kind : ChannelKind) (s : ServerState κ σ η τ) :
    (processChannelData L S T kind).Ensures s
      (ChannelStep (ReadsWithin T) (serverView kind) s) := by
  cases kind with
  | sftp => exact (processSftpChannelData_step L S (s.1,s.2.1)).mono fun _ _ h => h.stepFlow.step
  | terminal => exact processTerminalChannelData_channelStep _ L T id (s.1,s.2.2)

def ServerRun (kind : ChannelKind) : ServerState κ σ η τ → ServerState κ σ η τ → Prop :=
  Run (processChannelData L S T kind) (fun _ r _ => Continues r)

/-- A session from its accept function to its last call: no channel is accepted, or the
process function is called until it fails or the caller has had enough. -/
inductive SessionEnds (entry : Entry) (options : Option SessionOptions)
    (s : ServerState κ σ η τ) : ServerState κ σ η τ → Prop
  | refused {e : Err} {u : ServerState κ σ η τ}
    (ha : (acceptChannel L S T authenticatedUsername entry options).run s=(.error e,u)) :
    SessionEnds entry options s u
  | ended {kind : ChannelKind} {a t u : ServerState κ σ η τ} {r : Except Err Unit}
    (ha : (acceptChannel L S T authenticatedUsername entry options).run s=(.ok kind,a))
    (hrun : ServerRun L S T kind a t) (hlast : (processChannelData L S T kind).run t=(r,u)) :
    SessionEnds entry options s u

/-- The history of a session: a channel is confirmed, its purpose is negotiated, and then
it is served. -/
structure SessionServed (effective : SessionOptions) (R : Prop) (s u : Conn κ)
    (channelOpen : ChannelOpen) (before talk evs : List Event) : Prop where
  trace : u.trace=s.trace++(before++(talk++evs))
  confirmed : Confirmed effective channelOpen before
  negotiated : Negotiated channelOpen.senderChannel talk
  addressed : Addressed (openView effective channelOpen) evs
  limited : R → Limited (openView effective channelOpen) (talk++evs)

variable {talk : List Event}

lemma Negotiated.flows {client : Nat} (h : Negotiated client talk) (v : ChannelView) :
    Flows v v talk := by
  refine ⟨rfl,rfl,rfl,?_⟩
  rw [h.quiet.sent]
  exact Nat.le_add_right _ _

variable {L S T authenticatedUsername}

lemma SessionEnds.history {entry : Entry} {options : Option SessionOptions}
    {s u : ServerState κ σ η τ} (h : SessionEnds L S T authenticatedUsername entry options s u) :
    (∃ evs,u.1.trace=s.1.trace++evs ∧ Heard evs) ∨ ∃ channelOpen before talk evs,
      SessionServed (effectiveSessionOptions options) (ReadsWithin T) s.1 u.1 channelOpen before
        talk evs := by
  have hs := acceptChannel_spec L S T authenticatedUsername entry options s
  cases h with
  | refused ha =>
    rcases hs.of_eq ha with ⟨_,evs,_,ht,hh⟩ | ⟨channelOpen,talk,ho,_⟩
    · exact .inl ⟨evs,ht,hh⟩
    obtain ⟨before,ht,hc,hn⟩ := ho
    refine .inr ⟨channelOpen,before,talk,[],?_,hc,hn,addressed_nil _,fun _ => ?_⟩
    · rw [ht,append_nil]
    rw [append_nil]
    exact hn.quiet.limited _
  | ended ha hrn hls =>
    rcases hs.of_eq ha with ⟨_,_,hr,_⟩ | ⟨channelOpen,talk,ho,hac⟩
    · cases hr
    obtain ⟨before,ht,hc,hn⟩ := ho
    obtain ⟨evs,hi⟩ := history_of_run (processChannelData_step L S T _) hrn hls
    have hv := (hac _ rfl).view
    have had := hi.addressed
    have hl := hi.limited
    rw [hv] at had hl
    refine .inr ⟨channelOpen,before,talk,evs,?_,hc,hn,had,fun hR => ?_⟩
    · rw [hi.trace,ht]
      simp only [append_assoc]
    · exact (hn.flows _).limited_trans (hn.quiet.limited _) (hl hR)

variable {effective : SessionOptions} {s : Conn κ} {channelOpen : ChannelOpen}

/-- All that a session sends on its channel goes to the client, when no request of unknown
type carries another number than the client's own: such a request is answered to the
number in it. -/
theorem SessionServed.recipient {R : Prop} {u : Conn κ} {before evs : List Event}
    (h : SessionServed effective R s u channelOpen before talk evs)
    (hu : ∀ payload recipient,.received payload∈evs →
      unknownRequestReply payload=some recipient → recipient=channelOpen.senderChannel)
    {m : ServerMessage} (hm : .sent m∈talk++evs) {recipient : Nat}
    (hr : m.recipient?=some recipient) : recipient=channelOpen.senderChannel := by
  rcases mem_append.mp hm with hm | hm
  · rcases h.negotiated.recipient hm with (rfl | ⟨_,_,_,rfl⟩) | rfl | rfl
    · cases hr
    · cases hr
    · exact (Option.some.inj hr).symm
    · exact (Option.some.inj hr).symm
  rcases h.addressed m hm with (rfl | ⟨_,_,_,rfl⟩ | ⟨payload,_,hp,hrp,rfl⟩) | hc
  · cases hr
  · cases hr
  · rw [← Option.some.inj hr]
    exact hu payload _ hp hrp
  · exact Option.some.inj (hr.symm.trans hc)

lemma Opens.orderly {t : Conn κ} (h : Opens effective s t channelOpen talk) :
    ∃ evs,t.trace=s.trace++evs ∧ Orderly ⟨false,false⟩ (sentIn evs) ⟨false,false⟩ := by
  obtain ⟨before,ht,⟨front,payload,rfl,hf,_⟩,hn⟩ := h
  refine ⟨_,ht,orderly_of_forall fun m hm => ?_⟩
  rcases mem_append.mp (mem_sentIn hm) with hm | hm
  · rcases mem_append.mp hm with hm | hm
    · rcases (hf.negotiated 0).recipient hm with (rfl | ⟨_,_,_,rfl⟩) | rfl | rfl
      all_goals rfl
    rcases mem_cons.mp hm with hm | hm
    · cases hm
    cases mem_singleton.mp hm
    rfl
  rcases hn.recipient hm with (rfl | ⟨_,_,_,rfl⟩) | rfl | rfl
  all_goals rfl
end

/-- A CHANNEL_OPEN for a session. -/
def openPayload (senderChannel initialWindowSize maximumPacketSize : Nat) : Bytes :=
  sshMsgChannelOpen::(beBytes 4 sshChannelTypeSession.length++(sshChannelTypeSession++
    (beBytes 4 senderChannel++(beBytes 4 initialWindowSize++beBytes 4 maximumPacketSize))))

/-- A CHANNEL_REQUEST that wants a reply. -/
def requestPayload (recipientChannel : Nat) (requestType fields : Bytes) : Bytes :=
  sshMsgChannelRequest::(beBytes 4 recipientChannel++(beBytes 4 requestType.length++
    (requestType++1::fields)))

def subsystemPayload : Bytes :=
  requestPayload 0 sshChannelRequestSubsystem (beBytes 4 sshSubsystemSftp.length++sshSubsystemSftp)

def adjustPayload (bytesToAdd : Nat) : Bytes :=
  sshMsgChannelWindowAdjust::(beBytes 4 0++beBytes 4 bytesToAdd)

def greeter : TermApi Unit Unit where
  spawnShell := some fun _ => Call.modify fun s => (s.1,some ())
  spawnExec := none
  write := none
  read := some fun _ len => pure ([104,105].take len)
  resize := none
  signal := none
  waitExit := none

lemma greeter_readsWithin : ReadsWithin (some greeter) := by
  rintro _ ⟨⟩ handle len k _ _ ⟨⟩
  exact List.length_take_le _ _

abbrev SampleServer := ServerState (List (Except Err Bytes)) Unit Unit Unit

def sampleServer (script : List Bytes) : SampleServer :=
  (Conn.start (script.map .ok),(SftpChannel.zeroed sampleSftp,TerminalChannel.zeroed ()))

abbrev acceptSample (entry : Entry) : Call SampleServer Err ChannelKind :=
  acceptChannel scriptLink sampleSftp (some greeter) [] entry none

abbrev serveSample : Call SampleState Err Unit :=
  sshServerProcessSftpChannelData scriptLink sampleSftp

abbrev acceptedSftp (s : SampleServer) : SampleState :=
  (((acceptSample .sftp).run s).2.1,((acceptSample .sftp).run s).2.2.1)

variable {L : LinkApi κ} {S : SftpServer σ} {T : Option (TermApi η τ)}
  {authenticatedUsername : Bytes} {entry : Entry} {options : Option SessionOptions}

/-- Outbound flow control. In a session that confirms a channel, the data sent since is at
every moment within the window that the client has given, and every message is within the
client's packet size. -/
theorem session_within_window {s u : ServerState κ σ η τ} (hread : ReadsWithin T)
    (h : SessionEnds L S T authenticatedUsername entry options s u) :
    (∃ evs,u.1.trace=s.1.trace++evs ∧ Heard evs) ∨ ∃ channelOpen before evs,
      u.1.trace=s.1.trace++(before++evs) ∧
      Confirmed (effectiveSessionOptions options) channelOpen before ∧
      (∀ front,front<+:evs → (dataSent front).length ≤ channelOpen.initialWindowSize+
        adjustReceived (effectiveSessionOptions options).serverChannel front) ∧
      ∀ recipient bytes,.sent (.data recipient bytes)∈evs → channelOpen.maximumPacketSize≠0 →
        bytes.length ≤ channelOpen.maximumPacketSize := by
  rcases h.history with hr | ⟨channelOpen,before,talk,evs,hs⟩
  · exact .inl hr
  have hl := hs.limited hread
  refine .inr ⟨channelOpen,before,talk++evs,hs.trace,hs.confirmed,?_,hl.sizes⟩
  intro front hf
  have hc := hl.credit front hf
  rw [total_spent,total_granted] at hc
  exact hc

def shellSession : SampleServer :=
  sampleServer [openPayload 7 3 1000,requestPayload 0 sshChannelRequestShell []]

theorem session_within_window_shell :
    ∃ u,SessionEnds scriptLink sampleSftp (some greeter) [] .terminal none shellSession u ∧
      dataSent u.1.trace=[104,105,104] ∧
      ((∃ evs,u.1.trace=shellSession.1.trace++evs ∧ Heard evs) ∨ ∃ channelOpen before evs,
        u.1.trace=shellSession.1.trace++(before++evs) ∧
        Confirmed (effectiveSessionOptions none) channelOpen before ∧
        (∀ front,front<+:evs → (dataSent front).length ≤ channelOpen.initialWindowSize+
          adjustReceived (effectiveSessionOptions none).serverChannel front) ∧
        ∀ recipient bytes,.sent (.data recipient bytes)∈evs →
          channelOpen.maximumPacketSize≠0 → bytes.length ≤ channelOpen.maximumPacketSize) := by
  have ha : (acceptSample .terminal).run shellSession=
      (.ok .terminal,((acceptSample .terminal).run shellSession).2) := rfl
  have h := SessionEnds.ended ha Run.start (Prod.eta _).symm
  exact ⟨_,h,by decide +kernel,session_within_window greeter_readsWithin h⟩

/-- The window of a channel is all that its client has left, exactly when the client has not
widened it before the accept function has come back. -/
theorem window_credit_kept_iff {s a t : ServerState κ σ η τ} {kind : ChannelKind}
    (ha : (acceptChannel L S T authenticatedUsername entry options).run s=(.ok kind,a))
    (hrun : ServerRun L S T kind a t) :
    ∃ channelOpen talk evs,
      Opens (effectiveSessionOptions options) s.1 a.1 channelOpen talk ∧
      t.1.trace=a.1.trace++evs ∧
      (channelOpen.initialWindowSize+adjustReceived (effectiveSessionOptions options).serverChannel
          (talk++evs)≤uint32Max →
        ((serverView kind t.2).peerWindowSize+(dataSent (talk++evs)).length=
          min uint32Max (channelOpen.initialWindowSize+
            adjustReceived (effectiveSessionOptions options).serverChannel (talk++evs)) ↔
        adjustReceived (effectiveSessionOptions options).serverChannel talk=0)) := by
  have hs := acceptChannel_spec L S T authenticatedUsername entry options s
  rcases hs.of_eq ha with ⟨_,_,hr,_⟩ | ⟨channelOpen,talk,ho,hac⟩
  · cases hr
  obtain ⟨evs,hi,hk⟩ := kept_of_run (processChannelData_step L S T kind) hrun
  refine ⟨channelOpen,talk,evs,ho,hi.trace,fun hm => ?_⟩
  obtain ⟨_,_,_,hn⟩ := ho
  have hexact := hk.exact
  rw [(hac kind rfl).view] at hexact
  -- talk sends nothing, so what it has brought in is all that can be missing
  have hw : (serverView kind t.2).peerWindowSize+(dataSent evs).length=
      channelOpen.initialWindowSize+
        adjustReceived (effectiveSessionOptions options).serverChannel evs := by
    apply hexact
    rw [adjustReceived_append] at hm
    exact le_trans (by simp only [openView]; omega) hm
  rw [min_eq_right hm,dataSent_append,hn.quiet.sent,nil_append,hw,adjustReceived_append]
  omega

def lateAdjust : SampleServer :=
  sampleServer [openPayload 7 100 1000,subsystemPayload,adjustPayload 50]

theorem window_credit_kept_iff_late :
    ∃ a t,(acceptSample .sftp).run lateAdjust=(.ok .sftp,a) ∧
      ServerRun scriptLink sampleSftp (some greeter) .sftp a t ∧
      (serverView .sftp t.2).peerWindowSize=150 ∧ ∃ channelOpen talk evs,
        Opens (effectiveSessionOptions none) lateAdjust.1 a.1 channelOpen talk ∧
        t.1.trace=a.1.trace++evs ∧
        (channelOpen.initialWindowSize+
            adjustReceived (effectiveSessionOptions none).serverChannel (talk++evs)≤uint32Max →
          ((serverView .sftp t.2).peerWindowSize+(dataSent (talk++evs)).length=
            min uint32Max (channelOpen.initialWindowSize+
              adjustReceived (effectiveSessionOptions none).serverChannel (talk++evs)) ↔
          adjustReceived (effectiveSessionOptions none).serverChannel talk=0)) := by
  have ha : (acceptSample .sftp).run lateAdjust=
      (.ok .sftp,((acceptSample .sftp).run lateAdjust).2) := rfl
  have h0 : ServerRun scriptLink sampleSftp (some greeter) .sftp
      ((acceptSample .sftp).run lateAdjust).2 _ := Run.start
  have h1 := h0.step (.inl rfl)
  exact ⟨_,_,ha,h1,rfl,window_credit_kept_iff ha h1⟩

def earlyAdjust : SampleServer :=
  sampleServer [openPayload 7 100 1000,adjustPayload 50,subsystemPayload]

/-- The window starts at 100 bytes where the client has given 150. -/
theorem early_adjust_lost :
    ∃ a channelOpen talk,(acceptSample .sftp).run earlyAdjust=(.ok .sftp,a) ∧
      Opens (effectiveSessionOptions none) earlyAdjust.1 a.1 channelOpen talk ∧
      channelOpen.initialWindowSize+adjustReceived 0 talk=150 ∧
      (serverView .sftp a.2).peerWindowSize+(dataSent talk).length≠
        min uint32Max (channelOpen.initialWindowSize+adjustReceived 0 talk) := by
  refine ⟨_,(decodePayload sshChannelOpenDecode {} (openPayload 7 100 1000)).2,
    [.received (adjustPayload 50),.received subsystemPayload,.sent (.success 7)],rfl,
    ⟨_,rfl,⟨[],openPayload 7 100 1000,rfl,heard_nil,rfl⟩,?_⟩,rfl,by decide +kernel⟩
  intro e he
  rcases mem_cons.mp he with rfl | he
  · exact .inl (heard_received _)
  rcases mem_cons.mp he with rfl | he
  · exact .inl (heard_received _)
  rw [mem_singleton.mp he]
  exact .inr (.inl rfl)

/-- An SFTP channel closes in order, from its accept function to any later call, when no call
gives the server something to say that its EOF or CLOSE forbids. -/
theorem sftp_session_closes_in_order {s a : ServerState κ σ η τ} {t u : SftpState κ σ}
    {r : Except Err Unit}
    (ha : (acceptChannel L S T authenticatedUsername entry options).run s=(.ok .sftp,a))
    (hrun : Run (sshServerProcessSftpChannelData L S)
      (fun t r u => r≠.error .closed ∧ QuietCall t u) (a.1,a.2.1) t)
    (hlast : (sshServerProcessSftpChannelData L S).run t=(r,u)) (hq : QuietCall t u) :
    CloseDiscipline (sentIn (newEvents s.1 u.1)) := by
  have hs := acceptChannel_spec L S T authenticatedUsername entry options s
  rcases hs.of_eq ha with ⟨_,_,hr,_⟩ | ⟨channelOpen,talk,hop,hac⟩
  · cases hr
  have hf := (hac .sftp rfl).fresh rfl
  have hcl : a.2.1.closing=⟨false,false⟩ := by rw [SftpChannel.closing,hf.eofSent,hf.closeSent]
  have haf : ClosedAfterEof a.2.1 := by
    intro hc
    rw [hf.closeSent] at hc
    cases hc
  obtain ⟨evs,he,ho⟩ := hop.orderly
  obtain ⟨later,hl,hor⟩ := orderlyFrom_run L S haf hrun hlast hq
  have ht : u.1.trace=s.1.trace++(evs++later) := by rw [hl,he,append_assoc]
  rw [newEvents_eq ht,sentIn_append]
  rw [← hcl] at ho
  exact Orderly.discipline (ho.append hor)

def eofThenClose : SampleServer :=
  sampleServer [openPayload 7 100 1000,subsystemPayload,sshMsgChannelEof::beBytes 4 0,
    sshMsgChannelClose::beBytes 4 0]

def afterEof : SampleState := (serveSample.run (acceptedSftp eofThenClose)).2

lemma afterEof_quietCall : QuietCall afterEof (serveSample.run afterEof).2 := by
  constructor
  · rintro _ (⟨h,_⟩ | ⟨h,_⟩) <;> cases h
  · rintro _ (⟨h,_⟩ | ⟨h,_⟩) <;> cases h
  intro _ payload hp
  cases mem_singleton.mp hp
  rfl

theorem sftp_session_closes_in_order_eof :
    ∃ a u,(acceptSample .sftp).run eofThenClose=(.ok .sftp,a) ∧
      Run serveSample (fun t r u => r≠.error .closed ∧ QuietCall t u) (a.1,a.2.1) afterEof ∧
      serveSample.run afterEof=(.error .closed,u) ∧ QuietCall afterEof u ∧
      sentIn (newEvents eofThenClose.1 u.1)=
        [.openConfirmation 7 0 65536 32768,.success 7,.eof 7,.close 7] ∧
      CloseDiscipline (sentIn (newEvents eofThenClose.1 u.1)) := by
  have ha : (acceptSample .sftp).run eofThenClose=
      (.ok .sftp,((acceptSample .sftp).run eofThenClose).2) := rfl
  have h0 : Run serveSample (fun t r u => r≠.error .closed ∧ QuietCall t u)
      (acceptedSftp eofThenClose) _ := Run.start
  have h1 := h0.step ⟨nofun,nofun,nofun,nofun⟩
  exact ⟨_,_,ha,h1,rfl,afterEof_quietCall,rfl,
    sftp_session_closes_in_order ha h1 rfl afterEof_quietCall⟩

def eofThenRequest : SampleServer :=
  sampleServer [openPayload 7 100 1000,subsystemPayload,sshMsgChannelEof::beBytes 4 0,
    requestPayload 0 sshChannelRequestShell []]

/-- The request is refused on a channel that the server has closed. -/
theorem refusal_after_close :
    ∃ a t u,(acceptSample .sftp).run eofThenRequest=(.ok .sftp,a) ∧
      Run serveSample (fun _ r _ => r≠.error .closed) (a.1,a.2.1) t ∧
      serveSample.run t=(.ok (),u) ∧ ¬CloseDiscipline (sentIn (newEvents eofThenRequest.1 u.1)) := by
  have h0 : Run serveSample (fun _ r _ => r≠.error .closed) (acceptedSftp eofThenRequest) _ :=
    Run.start
  have h1 := h0.step nofun
  refine ⟨_,_,_,rfl,h1,rfl,fun h => ?_⟩
  have hn := h.nothingAfterClose
    [.openConfirmation 7 0 65536 32768,.success 7,.eof 7] 7 [.failure 7] rfl (.failure 7)
    (mem_singleton.mpr rfl)
  cases hn

/-- Everything that a session sends on its channel goes to the number that the client has
given it, when every request of unknown type that is served carries that number. -/
theorem session_addresses_client {s u : ServerState κ σ η τ}
    (h : SessionEnds L S T authenticatedUsername entry options s u) :
    (∃ evs,u.1.trace=s.1.trace++evs ∧ Heard evs) ∨ ∃ channelOpen before talk evs,
      u.1.trace=s.1.trace++(before++(talk++evs)) ∧
      Confirmed (effectiveSessionOptions options) channelOpen before ∧
      Negotiated channelOpen.senderChannel talk ∧
      ((∀ payload recipient,.received payload∈evs →
          unknownRequestReply payload=some recipient → recipient=channelOpen.senderChannel) →
        ∀ m,.sent m∈talk++evs → ∀ recipient,m.recipient?=some recipient →
          recipient=channelOpen.senderChannel) := by
  rcases h.history with hrf | ⟨channelOpen,before,talk,evs,hs⟩
  · exact .inl hrf
  refine .inr ⟨channelOpen,before,talk,evs,hs.trace,hs.confirmed,hs.negotiated,?_⟩
  intro hu m hm recipient hr
  exact hs.recipient hu hm hr

def keepalivePayload : Bytes := requestPayload 0 (cstr "keepalive@openssh.com") []

def sameNumbers : SampleServer :=
  sampleServer [openPayload 0 100 1000,subsystemPayload,keepalivePayload]

theorem session_addresses_client_same :
    ∃ u,SessionEnds scriptLink sampleSftp (some greeter) [] .sftp none sameNumbers u ∧
      .sent (.failure 0)∈u.1.trace ∧
      ((∃ evs,u.1.trace=sameNumbers.1.trace++evs ∧ Heard evs) ∨ ∃ channelOpen before talk evs,
        u.1.trace=sameNumbers.1.trace++(before++(talk++evs)) ∧
        Confirmed (effectiveSessionOptions none) channelOpen before ∧
        Negotiated channelOpen.senderChannel talk ∧
        ((∀ payload recipient,.received payload∈evs →
            unknownRequestReply payload=some recipient → recipient=channelOpen.senderChannel) →
          ∀ m,.sent m∈talk++evs → ∀ recipient,m.recipient?=some recipient →
            recipient=channelOpen.senderChannel)) := by
  have ha : (acceptSample .sftp).run sameNumbers=
      (.ok .sftp,((acceptSample .sftp).run sameNumbers).2) := rfl
  have h := SessionEnds.ended ha Run.start (Prod.eta _).symm
  exact ⟨_,h,by decide +kernel,session_addresses_client h⟩

def otherNumbers : SampleServer :=
  sampleServer [openPayload 7 100 1000,subsystemPayload,keepalivePayload]

/-- The reply goes to channel 0, the server's own number. -/
theorem unknown_request_misaddressed :
    ∃ u channelOpen before evs,
      SessionEnds scriptLink sampleSftp (some greeter) [] .sftp none otherNumbers u ∧
      u.1.trace=otherNumbers.1.trace++(before++evs) ∧
      Confirmed (effectiveSessionOptions none) channelOpen before ∧
      channelOpen.senderChannel=7 ∧ .sent (.failure 0)∈evs := by
  have ha : (acceptSample .sftp).run otherNumbers=
      (.ok .sftp,((acceptSample .sftp).run otherNumbers).2) := rfl
  refine ⟨_,(decodePayload sshChannelOpenDecode {} (openPayload 7 100 1000)).2,_,
    [.received subsystemPayload,.sent (.success 7),.received keepalivePayload,
      .sent (.failure 0)],SessionEnds.ended ha Run.start (Prod.eta _).symm,rfl,
    ⟨[],openPayload 7 100 1000,rfl,heard_nil,rfl⟩,rfl,by decide⟩

end EMSSHD
