import EMSSHD.Server.Terminal.Device

namespace EMSSHD

open Call

variable {κ η τ α β : Type}

def NoEof (evs : List Event) : Prop := ∀ client,.sent (.eof client)∉evs

lemma noEof_nil : NoEof [] := fun _ => not_mem_nil

lemma NoEof.append {evs later : List Event} (h : NoEof evs) (hl : NoEof later) :
    NoEof (evs++later) := by
  intro client hm
  rcases mem_append.mp hm with hm | hm
  · exact h client hm
  · exact hl client hm

lemma noEof_sent {m : ServerMessage} (hm : ∀ client,m≠.eof client) : NoEof [.sent m] := by
  intro client h
  exact hm client (Event.sent.inj (mem_singleton.mp h)).symm

def Stops (r : Except Err α) : Prop := ∃ e,r=.error e ∧ e≠.notFound

lemma Continues.goesOn {r : Except Err Unit} (h : Continues r) : ¬Stops r := by
  rintro ⟨e,rfl,he⟩
  rcases h with h | h
  · cases h
  · exact he (Except.error.inj h)

section
variable (T : TermApi η τ) (written output : τ → Bytes)

/-- The terminal is as it was when it reported that its child has exited. -/
def ExitReported (k : τ) : Prop :=
  ∃ waitExit handle before exitStatus,T.waitExit=some waitExit ∧
    (waitExit handle).run before=(.ok (some exitStatus),k)

/-- The books of the output: what the child had in its queue and has put in since has gone
out, or is in the queue. -/
def Balanced (s t : TermState κ η τ) (evs : List Event) : Prop :=
  ∃ more,written t.2.platform=written s.2.platform++more ∧
    dataSent evs++output t.2.platform=output s.2.platform++more

/-- What a call does with the output of the terminal. Its books balance, or the connection
breaks down under it, or it finds the child gone and sends EOF. -/
inductive OutputStep (s : TermState κ η τ) : Except Err α → TermState κ η τ → Prop
  | balanced {r : Except Err α} {t : TermState κ η τ} {evs : List Event}
    (ht : t.1.trace=s.1.trace++evs) (hn : NoEof evs) (hb : Balanced written output s t evs) :
    OutputStep s r t
  | broken {r : Except Err α} {t : TermState κ η τ} {evs : List Event} (hr : Stops r)
    (ht : t.1.trace=s.1.trace++evs) (hn : NoEof evs) : OutputStep s r t
  | finished {r : Except Err α} {t : TermState κ η τ} {front rest : List Event} {client : Nat}
    (hr : Stops r) (ht : t.1.trace=s.1.trace++(front++.sent (.eof client)::rest))
    (hf : NoEof front) (hl : NoEof rest) (hb : Balanced written output s t front)
    (hx : ExitReported T t.2.platform) : OutputStep s r t

variable {T written output}
variable {s t u : TermState κ η τ} {evs : List Event} {r : Except Err α} {m : ServerMessage}

lemma Balanced.trans {later : List Event} (h : Balanced written output s t evs)
    (hl : Balanced written output t u later) : Balanced written output s u (evs++later) := by
  obtain ⟨more,hw,hq⟩ := h
  obtain ⟨more',hw',hq'⟩ := hl
  refine ⟨more++more',?_,?_⟩
  · rw [hw',hw,append_assoc]
  · rw [dataSent_append,append_assoc,hq',← append_assoc,hq,append_assoc]

lemma balanced_same (hd : dataSent evs=[]) (hp : t.2.platform=s.2.platform) :
    Balanced written output s t evs := by
  refine ⟨[],?_,?_⟩
  · rw [hp,append_nil]
  · rw [hd,hp,append_nil,nil_append]

lemma OutputStep.prepend (ht : t.1.trace=s.1.trace++evs) (hn : NoEof evs)
    (hb : Balanced written output s t evs) (h : OutputStep T written output t r u) :
    OutputStep T written output s r u := by
  cases h with
  | balanced hu hn' hb' =>
    exact .balanced (by rw [hu,ht,append_assoc]) (hn.append hn') (hb.trans hb')
  | broken hr hu hn' => exact .broken hr (by rw [hu,ht,append_assoc]) (hn.append hn')
  | @finished front rest client hr hu hf hl hb' hx =>
    have htr : u.1.trace=s.1.trace++((evs++front)++.sent (.eof client)::rest) := by
      rw [hu,ht]
      simp only [append_assoc]
    exact .finished hr htr (hn.append hf) hl (hb.trans hb') hx

lemma OutputStep.error {e : Err} (h : OutputStep T written output s (.error e : Except Err α) t) :
    OutputStep T written output s (.error e : Except Err β) t := by
  have hs (hr : Stops (.error e : Except Err α)) : Stops (.error e : Except Err β) := by
    obtain ⟨x,hx,hn⟩ := hr
    cases hx
    exact ⟨e,rfl,hn⟩
  cases h with
  | balanced ht hn hb => exact .balanced ht hn hb
  | broken hr ht hn => exact .broken (hs hr) ht hn
  | finished hr ht hf hl hb hx => exact .finished (hs hr) ht hf hl hb hx

lemma OutputStep.ok {a : α} (h : OutputStep T written output s (.ok a) t) :
    ∃ evs,t.1.trace=s.1.trace++evs ∧ NoEof evs ∧ Balanced written output s t evs := by
  cases h with
  | balanced ht hn hb => exact ⟨_,ht,hn,hb⟩
  | broken hr =>
    obtain ⟨e,he,_⟩ := hr
    cases he
  | finished hr =>
    obtain ⟨e,he,_⟩ := hr
    cases he

lemma outputStep_silent (ht : t.1=s.1) (hb : Balanced written output s t []) :
    OutputStep T written output s r t := by
  have htr : t.1.trace=s.1.trace++[] := by rw [ht,append_nil]
  exact .balanced htr noEof_nil hb

lemma outputStep_same (ht : t.1=s.1) (hp : t.2.platform=s.2.platform) :
    OutputStep T written output s r t :=
  outputStep_silent ht (balanced_same rfl hp)

lemma onPlatform_output {c : Call τ Err α} (h : AddsOutput written output c)
    (s : TermState κ η τ) : (onPlatform c).Ensures s (OutputStep T written output s) := by
  exact outputStep_silent rfl (h s.2.platform)

lemma Replied.outputStep {r : Except Err Unit} (h : Replied m s r t) (hm : ∀ client,m≠.eof client)
    (hd : dataSent [.sent m]=[]) : OutputStep T written output s r t := by
  cases h with
  | sent hg => exact .balanced hg.trace (noEof_sent hm) (balanced_same hd (by rw [hg.channel]))
  | failed he hg => exact .broken ⟨_,rfl,he⟩ hg.trace noEof_nil

lemma Once.outputStep {flag : Bool} {set : TerminalChannel η τ → TerminalChannel η τ}
    {r : Except Err Unit} (h : Once m flag set s r t) (hm : ∀ client,m≠.eof client)
    (hd : dataSent [.sent m]=[]) (hs : ∀ c,(set c).platform=c.platform) :
    OutputStep T written output s r t := by
  cases h with
  | already _ => exact outputStep_same rfl rfl
  | sent _ ht hc => exact .balanced ht (noEof_sent hm) (balanced_same hd (by rw [hc,hs]))
  | failed _ he hg => exact .broken ⟨_,rfl,he⟩ hg.trace noEof_nil

lemma Arrives.outputStep {m : Option ChannelMessage} (h : Arrives s t m evs) (r : Except Err α) :
    OutputStep T written output s r t := by
  refine .balanced h.grown.trace ?_ (balanced_same h.quiet.sent (by rw [h.grown.channel]))
  intro client hm
  rcases h.sends _ hm with he | ⟨_,_,_,he⟩ | ⟨_,_,_,_,he⟩
  all_goals cases he
end

section
variable {T : TermApi η τ} {written output : τ → Bytes} (hT : QueuesOutput T written output)
  (L : LinkApi κ)

lemma sendTerminalOutput_output (bytes : Bytes) (s : TermState κ η τ) :
    (sendTerminalOutput L bytes).Ensures s (fun r t => ∃ evs,t.1.trace=s.1.trace++evs ∧
      NoEof evs ∧ t.2.platform=s.2.platform ∧ (r=.ok () → dataSent evs=bytes) ∧
      ∀ e,r=.error e → e≠.notFound) := by
  apply bindGet
  have hn {client limit : Nat} {r : Except Err Unit} {evs : List Event}
      (h : DataOut client limit bytes r evs) : NoEof evs := by
    intro client hm
    obtain ⟨_,he,_⟩ := h.sends _ hm
    cases he
  apply Ensures.bind (Ensures.onFst
    (sendChannelData_out L s.2.clientChannel 0 bytes (fun h => absurd rfl h) s.1))
  · rintro _ t ⟨⟨evs,ht,ho⟩,hc⟩
    apply bindRequire
    · intro _
      apply Ensures.modify
      exact ⟨evs,ht,hn ho,by rw [hc],fun _ => ho.whole rfl,nofun⟩
    intro _
    refine ⟨evs,ht,hn ho,by rw [hc],nofun,?_⟩
    rintro _ ⟨⟩
    decide
  rintro e t ⟨⟨evs,ht,ho⟩,hc⟩
  refine ⟨evs,ht,hn ho,by rw [hc],nofun,?_⟩
  rintro _ ⟨⟩ he
  exact ho.status (by rw [he])

include hT in
lemma platformCall_adds {α : Type} {c : Call τ Err α} (hc : PlatformCall (some T) α c) :
    AddsOutput written output c := by
  cases hc with
  | resize h => exact hT.resize _ h _ _ _ _ _
  | signal h => exact hT.signal _ h _ _
  | waitExit h => exact hT.waitExit _ h _

lemma outputSteps : NoticeSteps (κ := κ) L fun _ => OutputStep T written output where
  pure _ _ := outputStep_same rfl rfl
  fail _ _ := outputStep_same rfl rfl
  seq h hl := by
    obtain ⟨evs,ht,hn,hb⟩ := h.ok
    exact hl.prepend ht hn hb
  error := OutputStep.error
  change hc := outputStep_same rfl (congrArg TerminalChannel.platform hc :)
  notice s hs hm := by
    subst hs
    cases hm <;> exact (reply_spec L _ s).mono fun _ _ h => h.outputStep nofun rfl

include hT in
lemma maybePumpTerminalOutput_output (s : TermState κ η τ) :
    (maybePumpTerminalOutput L (some T)).Ensures s (OutputStep T written output s) := by
  refine maybePumpTerminalOutput_composes (outputSteps L).toComposes ?_ ?_ ?_ s
  · intro read hrd handle s hr
    obtain ⟨more,hw,hq⟩ := hT.read read hrd handle (pumpLen s.2) s.2.platform
    rw [hr] at hq
    exact outputStep_silent rfl ⟨more,hw,hq⟩
  · intro read hrd handle s e hr r _
    obtain ⟨more,hw,hq⟩ := hT.read read hrd handle (pumpLen s.2) s.2.platform
    rw [hr] at hq
    exact outputStep_silent rfl ⟨more,hw,hq⟩
  intro read hrd handle s bytes hr
  obtain ⟨more,hw,hq⟩ := hT.read read hrd handle (pumpLen s.2) s.2.platform
  rw [hr] at hq
  apply (sendTerminalOutput_output L bytes _).mono
  rintro r t ⟨evs,ht,hn,hp,hs,he⟩
  cases r with
  | ok _ =>
    refine .balanced ht hn ⟨more,?_,?_⟩
    · rw [hp]
      exact hw
    rw [hs rfl,hp]
    exact hq
  | error e => exact .broken ⟨e,rfl,he e rfl⟩ ht hn

def closeStatus (r : Except Err Bool) : Except Err Unit :=
  r.bind fun closedNow => if closedNow=false then .ok () else .error .closed

lemma closeTerminal_output (s : TermState κ η τ) :
    (do
      sendTerminalCloseOnce L
      Call.modify fun t => (t.1,{t.2 with
        state := .closed
        running := false})
      pure true : Call (TermState κ η τ) Err Bool).Ensures s (fun r t =>
        Stops (closeStatus r) ∧ t.2.platform=s.2.platform ∧ ∃ rest,
          t.1.trace=s.1.trace++rest ∧ NoEof rest ∧ dataSent rest=[]) := by
  have hcl : Stops (closeStatus (.ok true)) := ⟨.closed,rfl,by decide⟩
  apply Ensures.bind (sendOnce_spec L s rfl)
  · intro _ t ht
    cases ht with
    | already _ => exact ⟨hcl,rfl,[],(append_nil _).symm,noEof_nil,rfl⟩
    | sent _ htr hc =>
      refine ⟨hcl,?_,_,htr,noEof_sent nofun,rfl⟩
      show t.2.platform=_
      rw [hc]
  intro e t ht
  cases ht with
  | failed _ he hg => exact ⟨⟨e,rfl,he⟩,by rw [hg.channel],[],hg.trace,noEof_nil,rfl⟩

lemma finish_output (exitStatus : Nat) (s : TermState κ η τ) (hx : ExitReported T s.2.platform) :
    (do
      sendExitStatusOnce L exitStatus
      sendTerminalEofOnce L
      sendTerminalCloseOnce L
      Call.modify fun t => (t.1,{t.2 with
        state := .closed
        running := false})
      pure true : Call (TermState κ η τ) Err Bool).Ensures s
      (fun r t => OutputStep T written output s (closeStatus r) t) := by
  apply Ensures.bind (sendOnce_spec L s rfl)
  · intro _ t ht
    have hs : OutputStep T written output s (.ok ()) t := ht.outputStep nofun rfl fun _ => rfl
    obtain ⟨evs,htr,hn,hb⟩ := hs.ok
    have hsm : t.2.platform=s.2.platform := by
      cases ht with
      | already _ => rfl
      | sent _ _ hc => rw [hc]
    apply Ensures.bind (sendOnce_spec L t rfl)
    · intro _ u hu
      apply (closeTerminal_output L u).mono
      rintro r v ⟨hst,hp,rest,hv,hr,hd⟩
      apply OutputStep.prepend htr hn hb
      cases hu with
      | already _ => exact .balanced hv hr (balanced_same hd hp)
      | sent _ hef hc =>
        have hpl : v.2.platform=t.2.platform := by rw [hp,hc]
        have ha : v.1.trace=t.1.trace++([]++.sent (.eof t.2.clientChannel)::rest) := by
          rw [hv,hef,append_assoc]
          rfl
        refine .finished hst ha noEof_nil hr (balanced_same rfl hpl) ?_
        rw [hpl,hsm]
        exact hx
    intro e u hu
    apply OutputStep.prepend htr hn hb
    cases hu with
    | failed _ he hg => exact .broken ⟨e,rfl,he⟩ hg.trace noEof_nil
  intro e t ht
  have hs : OutputStep T written output s (.error e) t := ht.outputStep nofun rfl fun _ => rfl
  exact hs

include hT in
lemma maybeSendTerminalExitAndClose_output (s : TermState κ η τ) :
    (maybeSendTerminalExitAndClose L (some T)).Ensures s
      (fun r t => OutputStep T written output s (closeStatus r) t) := by
  apply bindGet
  rcases h : runningWith (some T) TermApi.waitExit s.2 with _ | ⟨waitExit,handle⟩
  · exact outputStep_same rfl rfl
  obtain ⟨_,hw⟩ := runningWith_some h
  have hc : (onPlatform (waitExit handle)).Ensures s (fun r t =>
      OutputStep T written output s r t ∧
        (waitExit handle).run s.2.platform=(r,t.2.platform)) :=
    ⟨onPlatform_output (hT.waitExit waitExit hw handle) s,rfl⟩
  apply hc.bind
  · rintro exited t ⟨ht,hr⟩
    obtain ⟨evs,htr,hn,hb⟩ := ht.ok
    rcases exited with _ | exitStatus
    · exact .balanced htr hn hb
    have hx : ExitReported T t.2.platform := ⟨waitExit,handle,s.2.platform,exitStatus,hw,hr⟩
    exact (finish_output L exitStatus t hx).mono fun r u hu => hu.prepend htr hn hb
  rintro e t ⟨ht,_⟩
  exact ht.error

include hT in
lemma pumpAndFinish_output (s : TermState κ η τ) :
    (pumpAndFinish L (some T)).Ensures s (OutputStep T written output s) := by
  apply (outputSteps L).bind (maybePumpTerminalOutput_output hT L s)
  intro _ t
  have hf := maybeSendTerminalExitAndClose_output hT L t
  apply Ensures.bind hf
  · intro closedNow u hu
    cases closedNow with
    | false | true => exact hu
  intro e u hu
  exact hu

include hT in
lemma silentSteps : LocalSteps (some T) fun _ (s : TermState κ η τ) _ t =>
    t.1=s.1 ∧ Balanced written output s t [] where
  toComposes := composes_of_trans (fun _ => ⟨rfl,balanced_same rfl rfl⟩)
    fun h h' => ⟨h'.1.trans h.1,h.2.trans h'.2⟩
  change hc := ⟨rfl,balanced_same rfl (congrArg TerminalChannel.platform hc :)⟩
  platform hc s := ⟨rfl,platformCall_adds hT hc s.2.platform⟩

include hT in
lemma outputServes : ServeSteps L (some T) fun _ => OutputStep T written output where
  toNoticeSteps := outputSteps L
  violation _ := outputStep_same rfl rfl
  request request s := by
    obtain ⟨ht,hb⟩ := (silentSteps (κ := κ) hT).terminalRequestStatus request s
    exact outputStep_silent ht hb
  pump := pumpAndFinish_output hT L

include hT in
lemma processTerminalMessage_output (m : ChannelMessage) (s : TermState κ η τ) :
    (processTerminalMessage L (some T) m).Ensures s (OutputStep T written output s) := by
  refine (outputServes hT L).processTerminalMessage m s (fun _ => outputStep_same rfl rfl)
    fun _ _ => (outputServes hT L).processTerminalData _ ?_ ?_ ?_ s
  · intro t
    exact outputStep_same rfl rfl
  · intro t
    apply (replenishReceiveWindow_spec L terminalReceiveWindow t).mono
    intro r u h
    cases h with
    | enough _ => exact outputStep_same rfl rfl
    | granted _ ht hc => exact .balanced ht (noEof_sent nofun) (balanced_same rfl (by rw [hc]; rfl))
    | failed he hg => exact .broken ⟨_,rfl,he⟩ hg.trace noEof_nil
  intro write hw handle t
  exact onPlatform_output (hT.write write hw handle _) t

include hT in
/-- A call of ssh_server_process_terminal_channel_data as the output of the terminal sees
it. -/
theorem processTerminalChannelData_output (s : TermState κ η τ) :
    (sshServerProcessTerminalChannelData L (some T)).Ensures s (OutputStep T written output s) := by
  apply bindGet
  apply bindRequire
  · intro _
    apply (outputSteps L).bind (pumpAndFinish_output hT L s)
    intro _ t
    apply (outputSteps L).bind
    · apply (receiveStatus_spec L emsshMaxPacketSize t).mono
      rintro _ u ⟨q,rfl,evs,hq,hg⟩
      cases q with
      | ok m => exact (arrives_message hq hg).outputStep _
      | error e =>
        rcases hq with hs | ⟨_,m,hm⟩
        · exact (arrives_skim hs hg).outputStep _
        · exact (arrives_message hm hg).outputStep _
    intro received u
    cases received with
    | ok m => exact processTerminalMessage_output hT L m u
    | error e =>
      apply Ensures.ite
      · intro _
        apply (outputSteps L).bind (pumpAndFinish_output hT L u)
        intro _ v
        exact outputStep_same rfl rfl
      intro _
      exact outputStep_same rfl rfl
  intro _
  exact outputStep_same rfl rfl

include hT in
lemma balanced_of_run {s t : TermState κ η τ}
    (h : Run (sshServerProcessTerminalChannelData L (some T)) (fun _ r _ => Continues r) s t) :
    ∃ evs,t.1.trace=s.1.trace++evs ∧ NoEof evs ∧ Balanced written output s t evs := by
  apply h.invariant fun t => ∃ evs,t.1.trace=s.1.trace++evs ∧ NoEof evs ∧
    Balanced written output s t evs
  · exact ⟨[],(append_nil _).symm,noEof_nil,balanced_same rfl rfl⟩
  rintro t r u ⟨evs,ht,hn,hb⟩ hrn hgo
  have hs := (processTerminalChannelData_output hT L t).of_eq hrn
  cases hs with
  | balanced hu hn' hb' => exact ⟨_,by rw [hu,ht,append_assoc],hn.append hn',hb.trans hb'⟩
  | broken hr => exact absurd hr hgo.goesOn
  | finished hr => exact absurd hr hgo.goesOn

lemma NoEof.split_unique {front rest before after : List Event} {client client' : Nat}
    (hf : NoEof front) (hl : NoEof rest)
    (h : front++.sent (.eof client)::rest=before++.sent (.eof client')::after) : before=front := by
  rcases List.append_eq_append_iff.mp h with ⟨mid,hb,hm⟩ | ⟨mid,hfr,hm⟩
  · rcases mid with _ | ⟨e,mid⟩
    · rw [hb,append_nil]
    have hr : rest=mid++.sent (.eof client')::after := (List.cons.inj hm).2
    exact absurd (by rw [hr]; simp) (hl client')
  rcases mid with _ | ⟨e,mid⟩
  · rw [hfr,append_nil]
  have he : .sent (.eof client')=e := (List.cons.inj hm).1
  exact absurd (by rw [hfr,← he]; simp) (hf client')

include hT in
/-- When EOF is sent because the child has gone, all that the child has ever written has been
sent before it, in order, exactly if nothing was left in the queue when the terminal reported
the exit. -/
theorem exit_output_sent_iff {s t u : TermState κ η τ} {r : Except Err Unit}
    (hnew : output s.2.platform=written s.2.platform)
    (hrun : Run (sshServerProcessTerminalChannelData L (some T)) (fun _ r _ => Continues r) s t)
    (hlast : (sshServerProcessTerminalChannelData L (some T)).run t=(r,u))
    {before after : List Event} {client : Nat}
    (heof : newEvents s.1 u.1=before++.sent (.eof client)::after) :
    ExitReported T u.2.platform ∧
      (dataSent before=written u.2.platform ↔ output u.2.platform=[]) := by
  obtain ⟨evs,ht,hn,hb⟩ := balanced_of_run hT L hrun
  have hs := ((processTerminalChannelData_output hT L t).of_eq hlast).prepend ht hn hb
  have hnn {evs : List Event} (hu : u.1.trace=s.1.trace++evs) (hn : NoEof evs) : False := by
    rw [newEvents_eq hu] at heof
    exact hn client (by rw [heof]; simp)
  cases hs with
  | balanced hu hn _ => exact (hnn hu hn).elim
  | broken _ hu hn => exact (hnn hu hn).elim
  | finished _ hu hf hl hb hx =>
    rw [newEvents_eq hu] at heof
    have hbf := hf.split_unique hl heof
    obtain ⟨more,hw,hq⟩ := hb
    rw [hnew,← hw,← hbf] at hq
    refine ⟨hx,?_⟩
    constructor
    · intro hsn
      rw [hsn] at hq
      exact List.append_right_eq_self.mp hq
    intro he
    rw [← hq,he,append_nil]
end

def childSession (script : List Bytes) (turns : List Turn) :
    TermState (List (Except Err Bytes)) Unit Child :=
  let opened : TerminalChannel Unit Child :=
    (TerminalChannel.zeroed {turns := turns}).opened {} {initialWindowSize := 100}
  (Conn.start (script.map .ok),{opened with
    running := true
    termHandle := some ()})

abbrev serveChild : Call (TermState (List (Except Err Bytes)) Unit Child) Err Unit :=
  sshServerProcessTerminalChannelData scriptLink (some childTerm)

def greetsAndExits : TermState (List (Except Err Bytes)) Unit Child :=
  childSession [] [{actions := [.writes [104,105]]},{actions := [.exits 0]}]

theorem exit_output_sent_iff_greets :
    ∃ u before after,serveChild.run greetsAndExits=(.error .closed,u) ∧
      newEvents greetsAndExits.1 u.1=before++.sent (.eof 0)::after ∧
      u.2.platform.written=[104,105] ∧ u.2.platform.output=[] ∧
      ExitReported childTerm u.2.platform ∧
      (dataSent before=u.2.platform.written ↔ u.2.platform.output=[]) := by
  have hen : (serveChild.run greetsAndExits).1=.error .closed ∧
      newEvents greetsAndExits.1 (serveChild.run greetsAndExits).2.1=
        [.sent (.data 0 [104,105]),.sent (.exitStatus 0 0)]++
          .sent (.eof 0)::[.sent (.close 0)] ∧
      (serveChild.run greetsAndExits).2.2.platform.written=[104,105] ∧
      (serveChild.run greetsAndExits).2.2.platform.output=[] := by
    decide +kernel
  obtain ⟨hr,he,hw,ho⟩ := hen
  have h := (Prod.eta (serveChild.run greetsAndExits)).symm
  rw [hr] at h
  exact ⟨_,_,_,h,he,hw,ho,
    exit_output_sent_iff childTerm_queuesOutput scriptLink rfl Run.start h he⟩

def exitsBetweenPolls : TermState (List (Except Err Bytes)) Unit Child :=
  childSession [] [{},{actions := [.writes [104,105],.exits 0]}]

/-- EOF is sent while the output is still in the queue. -/
theorem output_lost_at_exit :
    ∃ u before after,serveChild.run exitsBetweenPolls=(.error .closed,u) ∧
      newEvents exitsBetweenPolls.1 u.1=before++.sent (.eof 0)::after ∧
      u.2.platform.written=[104,105] ∧ dataSent before=[] := by
  have he : newEvents exitsBetweenPolls.1 (serveChild.run exitsBetweenPolls).2.1=
      [.sent (.exitStatus 0 0)]++.sent (.eof 0)::[.sent (.close 0)] := rfl
  exact ⟨_,_,_,rfl,he,rfl,rfl⟩

end EMSSHD
