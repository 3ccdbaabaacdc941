import EMSSHD.Server.Sftp.Flow
import EMSSHD.Server.Terminal.Step

namespace EMSSHD

open Call

variable {κ σ η τ C α : Type}

/-- What happens between the confirmation of a channel and the end of the accept function:
the client is told success and failure, and nothing else goes out to it. -/
def Negotiated (client : Nat) (evs : List Event) : Prop :=
  ∀ e∈evs,Heard [e] ∨ e=.sent (.success client) ∨ e=.sent (.failure client)

lemma negotiated_nil (client : Nat) : Negotiated client [] := forall_mem_nil _

lemma negotiated_append (client : Nat) (evs later : List Event) (h : Negotiated client evs)
    (hl : Negotiated client later) : Negotiated client (evs++later) :=
  forall_mem_append.mpr ⟨h,hl⟩

lemma Heard.negotiated {evs : List Event} (h : Heard evs) (client : Nat) :
    Negotiated client evs := by
  intro e he
  left
  intro x hx
  rw [mem_singleton.mp hx]
  exact h e he

/-- What holds from the confirmation of a channel on, when the trace was l: only the requests
have been talked about, and the channel has P. -/
def Negotiating (client : Nat) (l : List Event) (P : C → Prop) (s : Conn κ×C) : Prop :=
  Since Conn.trace (Negotiated client) l s.1 ∧ P s.2

section
variable (L : LinkApi κ)
variable {client serverChannel : Nat} {l : List Event} {P : C → Prop}
  {answer : Except Err Unit → ChannelRequest → Call (Conn κ×C) Err (Option α)}

lemma send_negotiating {m : ServerMessage} (hm : m=.success client ∨ m=.failure client) :
    Keeps (Negotiating client l P) (Call.onFst (sendMessage L m) : Call (Conn κ×C) Err Unit) := by
  have hs : Emits Conn.trace (sendMessage L m) fun _ => Negotiated client := by
    apply (sendMessage_emits L m).mono
    rintro (e | _) evs h
    · rw [h.1]
      exact negotiated_nil client
    subst h
    intro e he
    rw [mem_singleton.mp he]
    rcases hm with rfl | rfl
    · exact .inr (.inl rfl)
    · exact .inr (.inr rfl)
  exact (hs.keeps (negotiated_append client) l).both

lemma nextRequest_negotiating (req : Option ChannelRequest) :
    Keeps (fun s : (Conn κ×ChannelRequest)×C => Negotiating client l P (s.1.1,s.2))
      (Call.onFst (nextRequest L req)) := by
  rintro s ⟨⟨evs,hs,hn⟩,hp⟩
  cases req with
  | some request => exact ⟨⟨evs,hs,hn⟩,hp⟩
  | none =>
    obtain ⟨later,ht,hl⟩ := receiveChannelRequest_heard L _ s.1 (since_refl heard_nil s.1.1)
    refine ⟨⟨evs++later,ht.trans ?_,negotiated_append client _ _ hn (hl.negotiated client)⟩,hp⟩
    rw [← append_assoc]
    exact congrArg (·++later) hs

/-- What holds before the first request and after each request that is passed over, what the
accepting answer makes of it, and what a failure leaves. -/
theorem requestLoop_outcome {I E : Conn κ×C → Prop} {Q : α → Conn κ×C → Prop}
    (hI : ∀ s,I s → E s)
    (hn : ∀ req,Keeps (fun s : (Conn κ×ChannelRequest)×C => I (s.1.1,s.2))
      (Call.onFst (nextRequest L req)))
    (ha : ∀ status request s,I s → (answer status request).Ensures s
      (Outcome (fun a t => a.elim (I t) fun a => Q a t) fun _ => E))
    (attempts : Nat) (req : Option ChannelRequest) (s : Conn κ×C) (hs : I s) :
    (Call.withLocal {} (requestLoop L serverChannel answer attempts req)).Ensures s
      (Outcome Q fun _ => E) := by
  suffices h : ∀ s : (Conn κ×ChannelRequest)×C,I (s.1.1,s.2) →
      (requestLoop L serverChannel answer attempts req).Ensures s
        (fun r t => Outcome Q (fun _ => E) r (t.1.1,t.2)) from h ((s.1,{}),s.2) hs
  clear hs s
  intro s hs
  induction attempts generalizing req s with
  | zero => exact hI _ hs
  | succ attempts ih =>
    apply ((hn req).ensures hs).bind
    · intro status t ht
      apply bindGet
      cases requestFailure? status with
      | some e => exact .ite (fun _ => ih none t ht) fun _ => hI _ ht
      | none =>
        apply bindRequire
        · intro _
          apply (Ensures.beside (ha status t.1.2 (t.1.1,t.2) ht)).bind
          · intro accepted u hu
            cases accepted with
            | none => exact ih none u hu
            | some a => exact hu
          intro e u hu
          exact hu
        intro _
        exact hI _ ht
    intro e t ht
    exact hI _ ht

/-- The end of an accept function that has negotiated since the trace was l; Q is what it leaves
when it succeeds. -/
def Negotiates (client : Nat) (l : List Event) (Q : α → C → Prop) :
    Except Err α → Conn κ×C → Prop :=
  Outcome (fun a => Negotiating client l (Q a)) fun _ => Negotiating client l fun _ => True

lemma requestLoop_negotiates {Q : α → C → Prop}
    (ha : ∀ status request s,Negotiating client l P s → (answer status request).Ensures s
      (Negotiates client l fun a c => a.elim (P c) fun a => Q a c))
    (attempts : Nat) (req : Option ChannelRequest) (s : Conn κ×C) (hs : Negotiating client l P s) :
    (Call.withLocal {} (requestLoop L serverChannel answer attempts req)).Ensures s
      (Negotiates client l Q) := by
  refine requestLoop_outcome L (fun _ h => ⟨h.1,trivial⟩) (nextRequest_negotiating L) ?_ attempts
    req s hs
  intro status request t ht
  apply (ha status request t ht).mono
  rintro (e | _ | a) u h <;> exact h

lemma refuseRequest_negotiates {Q : α → C → Prop} (request : ChannelRequest) {s : Conn κ×C}
    (hs : Negotiating client l P s) :
    (do refuseRequest L client request; pure none :
      Call (Conn κ×C) Err (Option α)).Ensures s
      (Negotiates client l fun a c => a.elim (P c) fun a => Q a c) := by
  have hr : Keeps (Negotiating client l P) (refuseRequest L client request :
      Call (Conn κ×C) Err Unit) := .onlyIf (.ignore (send_negotiating L (.inr rfl)))
  exact (hr.ensures hs).bind (fun _ _ h => h) fun _ _ h => ⟨h.1,trivial⟩
end

/-- The events up to the confirmation of the channel that the client has opened. -/
def Confirmed (effective : SessionOptions) (channelOpen : ChannelOpen)
    (before : List Event) : Prop :=
  ∃ front payload,before=front++[.received payload,.sent (.openConfirmation
      channelOpen.senderChannel effective.serverChannel effective.channelWindowSize
      effective.channelMaxPacketSize)] ∧
    Heard front ∧ decodePayload sshChannelOpenDecode {} payload=(.ok (),channelOpen)

def openView (effective : SessionOptions) (channelOpen : ChannelOpen) : ChannelView :=
  ⟨channelOpen.senderChannel,effective.serverChannel,channelOpen.maximumPacketSize,
    channelOpen.initialWindowSize⟩

section
variable (L : LinkApi κ)

lemma openFailure_heard (recipient reason : Nat) (text : Bytes) :
    Emits Conn.trace
      (Call.ignore (sshTransportSendChannelOpenFailure L recipient reason text))
      (fun _ => Heard) := by
  apply (sendMessage_emits L _).ignore
  rintro (e | _) evs h
  · rw [h.1]
    exact heard_nil
  subst h
  intro e he
  exact .inr (.inr ⟨recipient,reason,text,mem_singleton.mp he⟩)

lemma receiveSessionOpen_emits (effective : SessionOptions) :
    Emits Conn.trace (receiveSessionOpen L effective) (fun r evs =>
      match r with
      | .ok channelOpen => Confirmed effective channelOpen evs
      | .error _ => Heard evs) := by
  apply Emits.bind (receiveChannelOpenSkipGlobalRequests_emits L)
  · rintro channelOpen evs ⟨front,payload,rfl,hf,hd⟩
    have hh : Heard (front++[.received payload]) := hf.append (heard_received payload)
    apply Emits.ite
    · intro _
      apply Emits.bind (openFailure_heard L _ _ _)
      · intro _ later hl
        apply Emits.fail
        rw [append_nil]
        exact hh.append hl
      intro e later hl
      exact hh.append hl
    intro _
    apply Emits.bind (sendMessage_emits L _)
    · rintro _ later rfl
      apply Emits.pure
      exact ⟨front,payload,by simp,hf,hd⟩
    rintro e later ⟨rfl,_⟩
    rw [append_nil]
    exact hh
  intro e evs h
  exact h
end

section
variable (L : LinkApi κ) (S : SftpServer σ)

lemma sftpAcceptAfterOpen_spec (options : SessionOptions) (channelOpen : ChannelOpen)
    (req : Option ChannelRequest) {l : List Event} {s : SftpState κ σ}
    (hs : Since Conn.trace (Negotiated channelOpen.senderChannel) l s.1) :
    (sftpAcceptAfterOpen L S options channelOpen req).Ensures s
      (Negotiates channelOpen.senderChannel l fun _ c => ∃ session,
        c=s.2.accepted (effectiveSessionOptions (some options)) channelOpen session) := by
  refine bindRequire (fun _ => ?_) fun _ => ⟨hs,trivial⟩
  apply (requestLoop_negotiates L (P := (·=s.2)) (Q := fun _ => (·=s.2)) ?_ 8 req s
    ⟨hs,rfl⟩).bind
  · intro request t ht
    have hk : Keeps (Negotiating channelOpen.senderChannel l (·=s.2)) (Call.onlyIf
        (request.wantReply=true) (Call.onFst (sshTransportSendChannelSuccess L
          channelOpen.senderChannel)) : Call (SftpState κ σ) Err Unit) :=
      .onlyIf (send_negotiating L (.inl rfl))
    apply (hk.ensures ht).bind
    · intro _ u hu
      refine bindLift (fun _ _ => bindLift (fun session _ => ?_) fun _ _ => ⟨hu.1,trivial⟩)
        fun _ _ => ⟨hu.1,trivial⟩
      exact .modify ⟨hu.1,session,by rw [hu.2]⟩
    intro e u hu
    exact ⟨hu.1,trivial⟩
  · intro e t ht
    exact ht
  intro status request t ht
  exact .ite (fun _ => ht) fun _ => refuseRequest_negotiates L request ht
end

section
variable (L : LinkApi κ) (T : Option (TermApi η τ)) (user : Bytes)
  {effective : SessionOptions} {channelOpen : ChannelOpen}

/-- A terminal channel with the windows that were agreed on. -/
def TerminalChannel.OpenedAs (effective : SessionOptions) (channelOpen : ChannelOpen)
    (c : TerminalChannel η τ) : Prop :=
  c.view=openView effective channelOpen ∧ c.windowSize=effective.channelWindowSize ∧
    c.windowMaxSize=effective.channelWindowSize

lemma terminalAcceptAfterOpen_spec (options : SessionOptions) (channelOpen : ChannelOpen)
    (req : Option ChannelRequest) {l : List Event} {s : TermState κ η τ}
    (hs : Since Conn.trace (Negotiated channelOpen.senderChannel) l s.1) :
    (terminalAcceptAfterOpen L T user options channelOpen req).Ensures s
      (Negotiates channelOpen.senderChannel l fun _ =>
        TerminalChannel.OpenedAs (effectiveSessionOptions (some options)) channelOpen) := by
  have ht : LocalSteps T fun _ (s : TermState κ η τ) _ t =>
      Negotiating channelOpen.senderChannel l (TerminalChannel.OpenedAs
        (effectiveSessionOptions (some options)) channelOpen) s →
      Negotiating channelOpen.senderChannel l (TerminalChannel.OpenedAs
        (effectiveSessionOptions (some options)) channelOpen) t := by
    refine ⟨composes_keeps _,fun hc h => ⟨h.1,?_⟩,fun _ _ => id⟩
    exact (congrArg (TerminalChannel.OpenedAs _ channelOpen) hc.symm).mp h.2
  refine bindRequire (fun _ => bindModify ?_) fun _ => ⟨hs,trivial⟩
  refine requestLoop_negotiates L (P := TerminalChannel.OpenedAs _ channelOpen) ?_ 16 req _
    ⟨hs,rfl,rfl,rfl⟩
  intro status request t h
  refine (ht.decideTerminalRequest (fun _ hm => send_negotiating L hm)
    (fun _ _ => ht.spawnTerminal fun _ _ => id) t).mono fun r u hu => ?_
  rcases r with e | _ | _
  · exact ⟨(hu h).1,trivial⟩
  · exact hu h
  · exact hu h
end

/-- A channel has been confirmed between s and t, and evs have happened since. -/
def Opens (effective : SessionOptions) (s t : Conn κ) (channelOpen : ChannelOpen)
    (evs : List Event) : Prop :=
  ∃ before,t.trace=s.trace++(before++evs) ∧ Confirmed effective channelOpen before ∧
    Negotiated channelOpen.senderChannel evs

/-- An accept function fails before it has confirmed a channel, or it confirms one and
negotiates about it; Q is what it leaves when it succeeds. -/
def OpenOutcome (effective : SessionOptions) (Q : ChannelOpen → α → C → Prop) (conn : Conn κ)
    (r : Except Err α) (t : Conn κ×C) : Prop :=
  (∃ e evs,r=.error e ∧ t.1.trace=conn.trace++evs ∧ Heard evs) ∨
  ∃ channelOpen evs,Opens effective conn t.1 channelOpen evs ∧
    ∀ a,r=.ok a → Q channelOpen a t.2

variable {effective : SessionOptions} {Q : ChannelOpen → α → C → Prop}

lemma openOutcome_of_after (L : LinkApi κ) {after : ChannelOpen → Call (Conn κ×C) Err α}
    {s : Conn κ×C} (h : ∀ channelOpen t,t.2=s.2 → (after channelOpen).Ensures t
      (Negotiates channelOpen.senderChannel t.1.trace (Q channelOpen))) :
    (Call.onFst (receiveSessionOpen L effective) >>= after).Ensures s
      (OpenOutcome effective Q s.1) := by
  apply Ensures.bind (Ensures.onFst (receiveSessionOpen_emits L effective s.1))
  · rintro channelOpen t ⟨⟨before,ht,hcn⟩,hc⟩
    apply (h channelOpen t hc).mono
    rintro (e | a) u ⟨⟨evs,hu,hn⟩,hq⟩
    all_goals refine .inr ⟨channelOpen,evs,⟨before,by rw [hu,ht,append_assoc],hcn,hn⟩,?_⟩
    · exact nofun
    · rintro _ ⟨⟩
      exact hq
  rintro e t ⟨⟨evs,ht,hh⟩,_⟩
  exact .inl ⟨e,evs,rfl,ht,hh⟩

lemma OpenOutcome.mono {β D : Type} {Q' : ChannelOpen → β → D → Prop} {conn : Conn κ}
    {r : Except Err α} {r' : Except Err β} {t : Conn κ×C} {d : D}
    (h : OpenOutcome effective Q conn r t) (hr : ∀ e,r=.error e → r'=.error e)
    (hq : ∀ channelOpen b,r'=.ok b → ∃ a,r=.ok a ∧ (Q channelOpen a t.2 → Q' channelOpen b d)) :
    OpenOutcome effective Q' conn r' (t.1,d) := by
  rcases h with ⟨e,evs,he,ht,hh⟩ | ⟨channelOpen,evs,ho,h⟩
  · exact .inl ⟨e,evs,hr e he,ht,hh⟩
  refine .inr ⟨channelOpen,evs,ho,fun b hb => ?_⟩
  obtain ⟨a,ha,hi⟩ := hq channelOpen b hb
  exact hi (h a ha)

lemma effectiveSessionOptions_idem (options : Option SessionOptions) :
    effectiveSessionOptions (some (effectiveSessionOptions options))=
      effectiveSessionOptions options := by
  rcases options with _ | options
  · rfl
  have hw : emsshDefaultChannelWindowSize≠0 := by decide
  have hp : emsshDefaultChannelMaxPacketSize≠0 := by decide
  simp only [effectiveSessionOptions]
  congr 1
  · split_ifs <;> simp_all
  · split_ifs <;> simp_all
  · cases options.sftpSubsystemName <;> rfl

variable (L : LinkApi κ) (S : SftpServer σ) (T : Option (TermApi η τ))
  (user : Bytes)

lemma acceptSftpChannel_spec (options : Option SessionOptions) (s : SftpState κ σ) :
    (sshServerAcceptSftpChannel L S options).Ensures s
      (OpenOutcome (effectiveSessionOptions options) (fun channelOpen _ c => ∃ session,
        c=(SftpChannel.zeroed S).accepted (effectiveSessionOptions options) channelOpen session)
        s.1) := by
  refine bindRequire (fun _ => bindModify ?_) fun _ =>
    .inl ⟨_,[],rfl,(append_nil _).symm,heard_nil⟩
  refine openOutcome_of_after L fun channelOpen t ht => ?_
  have h := sftpAcceptAfterOpen_spec L S (effectiveSessionOptions options) channelOpen none
    (since_refl (negotiated_nil _) t.1)
  rw [effectiveSessionOptions_idem,ht] at h
  exact h

lemma acceptTerminalChannel_spec (options : Option SessionOptions) (s : TermState κ η τ) :
    (sshServerAcceptTerminalChannel L T user options).Ensures s
      (OpenOutcome (effectiveSessionOptions options) (fun channelOpen _ =>
        TerminalChannel.OpenedAs (effectiveSessionOptions options) channelOpen) s.1) := by
  refine bindModify (openOutcome_of_after L fun channelOpen t _ => ?_)
  have h := terminalAcceptAfterOpen_spec L T user (effectiveSessionOptions options) channelOpen none
    (since_refl (negotiated_nil _) t.1)
  rw [effectiveSessionOptions_idem] at h
  exact h

/-- An SFTP channel on which nothing has happened yet. -/
structure SftpChannel.Fresh (c : SftpChannel σ) : Prop where
  sftpRx : c.sftpRx.bytes=[]
  sftpTxPending : c.sftpTxPending.bytes=[]
  eofSent : c.eofSent=false
  closeSent : c.closeSent=false

def serverView (kind : ChannelKind) (p : SftpChannel σ×TerminalChannel η τ) : ChannelView :=
  match kind with
  | .sftp => p.1.view
  | .terminal => p.2.view

/-- The channel in use is the one that the client has opened. -/
structure Accepted (effective : SessionOptions) (channelOpen : ChannelOpen) (kind : ChannelKind)
    (p : SftpChannel σ×TerminalChannel η τ) : Prop where
  view : serverView kind p=openView effective channelOpen
  fresh : kind=.sftp → p.1.Fresh

/-- What an accept function leaves of the channel in use. -/
def LeftOpen (S : SftpServer σ) (effective : SessionOptions) (channelOpen : ChannelOpen)
    (kind : ChannelKind) (p : SftpChannel σ×TerminalChannel η τ) : Prop :=
  match kind with
  | .sftp => ∃ session,p.1=(SftpChannel.zeroed S).accepted effective channelOpen session
  | .terminal => p.2.OpenedAs effective channelOpen

lemma LeftOpen.accepted {S : SftpServer σ} {effective : SessionOptions} {channelOpen : ChannelOpen}
    {k : ChannelKind} {p : SftpChannel σ×TerminalChannel η τ}
    (h : LeftOpen S effective channelOpen k p) : Accepted effective channelOpen k p := by
  cases k with
  | terminal => exact ⟨h.1,nofun⟩
  | sftp =>
    obtain ⟨session,hc⟩ := h
    constructor
    · show p.1.view=_
      rw [hc]
      rfl
    intro _
    rw [hc]
    exact ⟨rfl,rfl,rfl,rfl⟩

lemma decideAutoRequest_spec (hook : AcceptHook) {effective : SessionOptions}
    (he : effectiveSessionOptions (some effective)=effective) (channelOpen : ChannelOpen)
    (status : Except Err Unit) (request : ChannelRequest) {l : List Event}
    {s : ServerState κ σ η τ}
    (hs : Negotiating channelOpen.senderChannel l (·.1=SftpChannel.zeroed S) s) :
    (decideAutoRequest L S T user hook effective channelOpen status request).Ensures s
      (Negotiates channelOpen.senderChannel l fun kind p =>
        kind.elim (p.1=SftpChannel.zeroed S) fun kind =>
          LeftOpen S effective channelOpen kind p) := by
  have hf : Negotiating channelOpen.senderChannel l (fun _ => True) s := ⟨hs.1,trivial⟩
  refine .ite (fun _ => bindLift (fun _ _ => ?_) fun _ _ => hf) fun _ =>
    .ite (fun _ => bindLift (fun _ _ => ?_) fun _ _ => hf) fun _ => ?_
  · apply (sftpAcceptAfterOpen_spec L S effective channelOpen (some request)
      (s := (s.1,s.2.1)) hs.1).onLeft.bind
    · rintro _ t ⟨hn,session,hc⟩
      rw [he,hs.2] at hc
      exact ⟨hn,session,hc⟩
    intro e t h
    exact h
  · apply (terminalAcceptAfterOpen_spec L T user effective channelOpen (some request)
      (s := (s.1,s.2.2)) hs.1).onRight.bind
    · intro _ t h
      rw [he] at h
      exact h
    intro e t h
    exact h
  exact refuseRequest_negotiates L request hs

lemma acceptAutoChannel_spec (hook : AcceptHook)
    (options : Option SessionOptions) (s : ServerState κ σ η τ) :
    (sshServerAcceptAutoChannel L S T user hook options).Ensures s
      (OpenOutcome (effectiveSessionOptions options)
        (LeftOpen S (effectiveSessionOptions options)) s.1) := by
  refine bindModify (openOutcome_of_after L fun channelOpen t ht => ?_)
  refine requestLoop_negotiates L (P := fun p => p.1=SftpChannel.zeroed S) ?_ 16 none t
    ⟨since_refl (negotiated_nil _) t.1,by rw [ht]⟩
  intro status request u hu
  exact decideAutoRequest_spec L S T user hook (effectiveSessionOptions_idem options) channelOpen
    status request hu

end EMSSHD
