import EMSSHD.Server.Terminal.Output

namespace EMSSHD

open Call

variable {κ η τ α : Type}

def offeredBytes (offers : List (Bytes×Nat)) : Bytes := offers.flatMap Prod.fst

def takenBytes (offers : List (Bytes×Nat)) : Bytes := offers.flatMap fun offer =>
  offer.1.take offer.2

variable {offers : List (Bytes×Nat)}

lemma takenBytes_length (h : ∀ offer∈offers,offer.2≤offer.1.length) :
    (takenBytes offers).length=(offers.map Prod.snd).sum := by
  induction offers with
  | nil => rfl
  | cons offer offers ih =>
    have hh := h offer (by simp)
    have ht := ih fun o ho => h o (by simp [ho])
    simp only [takenBytes,flatMap_cons,length_append,length_take,map_cons,sum_cons]
    rw [takenBytes] at ht
    omega

lemma offeredBytes_length (offers : List (Bytes×Nat)) :
    (offeredBytes offers).length=(offers.map fun offer => offer.1.length).sum := by
  rw [offeredBytes,List.length_flatMap]

lemma takenBytes_eq_iff (h : ∀ offer∈offers,offer.2≤offer.1.length) :
    takenBytes offers=offeredBytes offers ↔ ∀ offer∈offers,offer.2=offer.1.length := by
  constructor
  · intro heq
    have hs : (offers.map Prod.snd).sum=(offers.map fun offer => offer.1.length).sum := by
      rw [← takenBytes_length h,← offeredBytes_length,heq]
    clear heq
    induction offers with
    | nil => simp
    | cons offer offers ih =>
      have hle : (offers.map Prod.snd).sum≤(offers.map fun offer => offer.1.length).sum :=
        List.sum_le_sum fun o ho => h o (by simp [ho])
      have hh := h offer (by simp)
      rw [map_cons,map_cons,sum_cons,sum_cons] at hs
      intro o ho
      rcases mem_cons.mp ho with rfl | ho
      · omega
      · exact ih (fun o ho => h o (by simp [ho])) (by omega) o ho
  intro ha
  rw [takenBytes,offeredBytes,List.flatMap_def,List.flatMap_def]
  congr 1
  apply List.map_congr_left
  intro o ho
  rw [ha o ho,take_length]

section
variable (offers : τ → List (Bytes×Nat))

/-- Since s the session has received no message and the terminal was offered nothing. -/
def InputIdle (s t : TermState κ η τ) : Prop :=
  offers t.2.platform=offers s.2.platform ∧
    ∃ evs,t.1.trace=s.1.trace++evs ∧ messagesIn evs=[]

variable {offers}

lemma inputIdle_refl (s : TermState κ η τ) : InputIdle offers s s :=
  ⟨rfl,[],(append_nil _).symm,rfl⟩

variable {s t : TermState κ η τ}

lemma inputIdle_platform (hc : t.1=s.1) (hp : offers t.2.platform=offers s.2.platform) :
    InputIdle offers s t :=
  ⟨hp,[],by rw [hc,append_nil],rfl⟩

lemma InputIdle.trans {u : TermState κ η τ} (h : InputIdle offers s t)
    (hl : InputIdle offers t u) : InputIdle offers s u := by
  obtain ⟨hp,evs,ht,hm⟩ := h
  obtain ⟨hp',later,hu,hm'⟩ := hl
  refine ⟨hp'.trans hp,evs++later,?_,?_⟩
  · rw [hu,ht,append_assoc]
  · rw [messagesIn_append,hm,hm',append_nil]

lemma onFst_idle {c : Call (Conn κ) Err α} (s : TermState κ η τ)
    (h : Emits Conn.trace c (fun _ evs => messagesIn evs=[])) :
    InputIdle offers s ((Call.onFst c : Call (TermState κ η τ) Err α).run s).2 := by
  obtain ⟨evs,hu,hm⟩ := h s.1
  exact ⟨rfl,evs,hu,hm⟩

lemma sendMessage_messageless (L : LinkApi κ) (m : ServerMessage) :
    Emits Conn.trace (sendMessage L m) (fun _ evs => messagesIn evs=[]) := by
  apply (sendMessage_emits L m).mono
  intro r evs h
  cases r with
  | error e => rw [h.1]; rfl
  | ok _ => rw [show evs=[.sent m] from h]; rfl
end

section
variable {T : TermApi η τ} {offers : τ → List (Bytes×Nat)} (hT : TakesInput T offers)
  (L : LinkApi κ) (s : TermState κ η τ)

include hT in
lemma idleSteps : ServeSteps L (some T) fun _ (s : TermState κ η τ) _ => InputIdle offers s := by
  apply serveSteps_of
  · refine ⟨composes_of_trans inputIdle_refl InputIdle.trans,?_,?_⟩
    · intro s c hc
      exact inputIdle_platform rfl (congrArg (fun d : TerminalChannel η τ => offers d.platform) hc :)
    intro m client s _ _
    exact onFst_idle s (sendMessage_messageless L m)
  · intro _ c hc s
    have hk : KeepsOffers offers c := by
      cases hc with
      | resize h => exact hT.resize _ h _ _ _ _ _
      | signal h => exact hT.signal _ h _ _
      | waitExit h => exact hT.waitExit _ h _
    exact inputIdle_platform rfl (hk s.2.platform)
  · intro s
    exact onFst_idle s (sendMessage_messageless L _)
  · intro read hr handle len s
    exact inputIdle_platform rfl (hT.read read hr handle len s.2.platform)
  · intro client bytes s
    apply onFst_idle
    apply (sendChannelData_out L client 0 bytes (fun h => absurd rfl h)).mono
    intro r evs h
    exact h.quiet.2.2
  intro n s
  exact inputIdle_platform rfl rfl

include hT in
lemma processTerminalData_input (data : Bytes) :
    (processTerminalData L (some T) data).Ensures s (fun r t => ∃ evs,
      t.1.trace=s.1.trace++evs ∧ messagesIn evs=[] ∧ (¬Stops r → ∃ taken,taken≤data.length ∧
        offers t.2.platform=offers s.2.platform++[(data,taken)])) := by
  have hs {t : TermState κ η τ} {e : Err} (he : e≠.notFound) (h : InputIdle offers s t) :
      ∃ evs,t.1.trace=s.1.trace++evs ∧ messagesIn evs=[] ∧
        (¬Stops (.error e : Except Err Unit) → ∃ taken,taken≤data.length ∧
          offers t.2.platform=offers s.2.platform++[(data,taken)]) := by
    obtain ⟨_,evs,ht,hm⟩ := h
    exact ⟨evs,ht,hm,fun hr => absurd ⟨e,rfl,he⟩ hr⟩
  apply bindGet
  apply bindRequire
  · intro _
    apply bindModify
    apply Ensures.bind (replenishReceiveWindow_spec L terminalReceiveWindow _)
    · intro _ t ht
      have hi : InputIdle offers s t := by
        cases ht with
        | enough _ => exact inputIdle_platform rfl rfl
        | granted _ htr hc => exact ⟨by rw [hc]; rfl,_,htr,rfl⟩
      apply bindGet
      rcases h : runningWith (some T) TermApi.write t.2 with _ | ⟨write,handle⟩
      · exact hs (by decide) hi
      obtain ⟨taken,hle,hok,ho⟩ := hT.write write (runningWith_some h).2 handle data t.2.platform
      have hrn : (onPlatform (write handle data)).run t=(.ok taken,(t.1,{t.2 with
          platform := ((write handle data).run t.2.platform).2})) := by
        rw [← hok]
        rfl
      apply bindOk hrn
      apply bindRequire
      · intro _
        obtain ⟨hk,later,hl,hn⟩ := (idleSteps hT L).pump (t.1,{t.2 with
          platform := ((write handle data).run t.2.platform).2})
        obtain ⟨hsm,evs,hev,hm⟩ := hi
        refine ⟨evs++later,?_,?_,fun _ => ⟨taken,hle,?_⟩⟩
        · rw [hl,hev,append_assoc]
        · rw [messagesIn_append,hm,hn,append_nil]
        rw [hk,← hsm]
        exact ho
      intro hln
      exact absurd hle hln
    intro e t ht
    cases ht with
    | failed he hg => exact hs he ⟨by rw [hg.channel],[],hg.trace,rfl⟩
  intro _
  exact hs (by decide) (inputIdle_refl s)

variable (offers) in
/-- What a call does with the input of the terminal: unless it fails for good, all data that
it has received has been offered to the terminal. -/
def InputStep (s : TermState κ η τ) (r : Except Err Unit) (t : TermState κ η τ) : Prop :=
  ∃ evs,t.1.trace=s.1.trace++evs ∧ (¬Stops r → ∃ more,
    offers t.2.platform=offers s.2.platform++more ∧ offeredBytes more=dataReceived evs ∧
    ∀ offer∈more,offer.2≤offer.1.length)

variable {t : TermState κ η τ} {evs : List Event}

lemma Arrives.inputStep {s u : TermState κ η τ} {m : Option ChannelMessage} {r : Except Err Unit}
    (h : Arrives s t m evs) (hm : ∀ x,m=some x → x.messageId≠sshMsgChannelData)
    (hu : InputIdle offers t u) : InputStep offers s r u := by
  obtain ⟨hp,later,ht,hn⟩ := hu
  refine ⟨evs++later,?_,fun _ => ⟨[],?_,?_,by simp⟩⟩
  · rw [ht,h.grown.trace,append_assoc]
  · rw [hp,h.grown.channel,append_nil]
  have hd : m.toList.flatMap ChannelMessage.dataBytes=[] := by
    cases m with
    | none => rfl
    | some x => simp [ChannelMessage.dataBytes,hm x rfl]
  rw [dataReceived,messagesIn_append,h.message,hn,append_nil,hd]
  rfl

include hT in
lemma processTerminalMessage_input {m : ChannelMessage} (ha : Arrives s t (some m) evs) :
    (processTerminalMessage L (some T) m).Ensures t (InputStep offers s) := by
  by_cases hm : m.recipientChannel=t.2.serverChannel
  case neg =>
    refine .bindGet (.bindRequire (fun h => absurd h hm) fun _ => ?_)
    exact ⟨evs,ha.grown.trace,fun hr => absurd ⟨_,rfl,by decide⟩ hr⟩
  by_cases hid : m.messageId=sshMsgChannelData
  · apply processTerminalMessage_data hid hm
    apply (processTerminalData_input hT L t (m.data.getD [])).mono
    rintro r u ⟨later,hu,hn,ho⟩
    refine ⟨evs++later,?_,fun hr => ?_⟩
    · rw [hu,ha.grown.trace,append_assoc]
    obtain ⟨taken,hle,hp⟩ := ho hr
    refine ⟨[(m.data.getD [],taken)],?_,?_,by simpa using hle⟩
    · rw [hp,ha.grown.channel]
    rw [dataReceived,messagesIn_append,ha.message,hn]
    simp [offeredBytes,ChannelMessage.dataBytes,hid]
  apply ((idleSteps hT L).processTerminalMessage m t (fun _ => inputIdle_platform rfl rfl)
    fun h => absurd h hid).mono
  intro r u hu
  refine ha.inputStep ?_ hu
  rintro _ ⟨⟩
  exact hid

include hT in
lemma processTerminalChannelData_input :
    (sshServerProcessTerminalChannelData L (some T)).Ensures s (InputStep offers s) := by
  have hi {t : TermState κ η τ} {r : Except Err Unit} (h : InputIdle offers s t) :
      InputStep offers s r t := by
    obtain ⟨hp,evs,ht,hm⟩ := h
    refine ⟨evs,ht,fun _ => ⟨[],?_,?_,by simp⟩⟩
    · rw [hp,append_nil]
    rw [dataReceived,hm]
    rfl
  have ha {t u : TermState κ η τ} {r : Except Err Unit} (h : InputIdle offers s t)
      (hu : InputStep offers t r u) : InputStep offers s r u := by
    obtain ⟨hp,evs,ht,hm⟩ := h
    obtain ⟨later,hl,ho⟩ := hu
    refine ⟨evs++later,?_,fun hr => ?_⟩
    · rw [hl,ht,append_assoc]
    obtain ⟨more,hmr,hd,hle⟩ := ho hr
    refine ⟨more,by rw [hmr,hp],?_,hle⟩
    rw [hd,dataReceived,dataReceived,messagesIn_append,hm,nil_append]
  apply bindGet
  apply bindRequire
  · intro _
    have hpm : (pumpAndFinish L (some T)).Ensures s (fun _ t => InputIdle offers s t) :=
      (idleSteps hT L).pump s
    apply hpm.bind
    · intro _ t ht
      apply Ensures.bind (receiveStatus_spec L emsshMaxPacketSize t)
      · rintro q u ⟨_,⟨⟩,evs,hq,hg⟩
        cases q with
        | ok m =>
          apply (processTerminalMessage_input hT L t (arrives_message hq hg)).mono
          intro r v hv
          exact ha ht hv
        | error e =>
          apply Ensures.ite
          · intro he
            have hs : Skimmed evs := hq.resolve_right fun h => h.1 he
            have hpm : (pumpAndFinish L (some T)).Ensures u (fun _ v => InputIdle offers u v) :=
              (idleSteps hT L).pump u
            have har {v : TermState κ η τ} {r : Except Err Unit}
                (hv : InputIdle offers u v) : InputStep offers s r v := by
              refine ha ht ((arrives_skim hs hg).inputStep ?_ hv)
              intro x hx
              cases hx
            apply hpm.bind
            · intro _ v hv
              exact Ensures.fail (har hv)
            intro e v hv
            exact har hv
          intro he
          apply Ensures.fail
          have hst : InputStep offers t (.error e) u :=
            ⟨evs,hg.trace,fun hr => absurd ⟨e,rfl,he⟩ hr⟩
          exact ha ht hst
      rintro e u ⟨_,h,_⟩
      cases h
    intro e t ht
    exact hi ht
  intro _
  exact hi (inputIdle_refl s)

variable {L s}

include hT in
/-- As long as the session goes on, all data that it has received has been offered to the
terminal, and the terminal has taken all of it exactly if it has never taken less than it
was offered: what it leaves is not offered again. -/
theorem input_taken_iff {t : TermState κ η τ}
    (h : Run (sshServerProcessTerminalChannelData L (some T)) (fun _ r _ => Continues r) s t) :
    ∃ more,offers t.2.platform=offers s.2.platform++more ∧
      (takenBytes more=dataReceived (newEvents s.1 t.1) ↔
        ∀ offer∈more,offer.2=offer.1.length) := by
  have ha : ∃ evs more,t.1.trace=s.1.trace++evs ∧
      offers t.2.platform=offers s.2.platform++more ∧ offeredBytes more=dataReceived evs ∧
      ∀ offer∈more,offer.2≤offer.1.length := by
    apply h.invariant fun t => ∃ evs more,t.1.trace=s.1.trace++evs ∧
      offers t.2.platform=offers s.2.platform++more ∧ offeredBytes more=dataReceived evs ∧
      ∀ offer∈more,offer.2≤offer.1.length
    · exact ⟨[],[],(append_nil _).symm,(append_nil _).symm,rfl,by simp⟩
    rintro t r u ⟨evs,more,ht,hp,hd,hle⟩ hr hgo
    obtain ⟨later,hu,hof⟩ := (processTerminalChannelData_input hT L t).of_eq hr
    obtain ⟨more',hp',hdt,hl⟩ := hof hgo.goesOn
    refine ⟨evs++later,more++more',?_,?_,?_,?_⟩
    · rw [hu,ht,append_assoc]
    · rw [hp',hp,append_assoc]
    · rw [dataReceived_append,← hd,← hdt,offeredBytes,flatMap_append]
      rfl
    intro offer ho
    rcases mem_append.mp ho with ho | ho
    · exact hle offer ho
    · exact hl offer ho
  obtain ⟨evs,more,ht,hp,hd,hle⟩ := ha
  refine ⟨more,hp,?_⟩
  rw [newEvents_eq ht,← hd]
  exact takenBytes_eq_iff hle
end

def typesThree : TermState (List (Except Err Bytes)) Unit Child :=
  childSession [channelDataPayload 0 [97,98,99]] []

theorem input_taken_iff_three :
    ∃ t,Run serveChild (fun _ r _ => Continues r) typesThree t ∧
      dataReceived (newEvents typesThree.1 t.1)=[97,98,99] ∧
      ∃ more,t.2.platform.offers=typesThree.2.platform.offers++more ∧
        (takenBytes more=dataReceived (newEvents typesThree.1 t.1) ↔
          ∀ offer∈more,offer.2=offer.1.length) := by
  have h0 : Run serveChild (fun _ r _ => Continues r) typesThree _ := Run.start
  have h := h0.step (.inl rfl)
  exact ⟨_,h,rfl,input_taken_iff childTerm_takesInput h⟩

def typesFour : TermState (List (Except Err Bytes)) Unit Child :=
  childSession [channelDataPayload 0 [97,98,99],channelDataPayload 0 [100]]
    [{},{},{room := some 2}]

/-- The third letter never comes to the terminal. -/
theorem short_write_loses_input :
    ∃ t,Run serveChild (fun _ r _ => Continues r) typesFour t ∧
      dataReceived (newEvents typesFour.1 t.1)=[97,98,99,100] ∧
      takenBytes t.2.platform.offers=[97,98,100] := by
  have h0 : Run serveChild (fun _ r _ => Continues r) typesFour _ := Run.start
  have h1 := h0.step (.inl rfl)
  have h2 := h1.step (.inl rfl)
  exact ⟨_,h2,rfl,rfl⟩

end EMSSHD
