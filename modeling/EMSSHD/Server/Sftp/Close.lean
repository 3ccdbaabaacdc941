import EMSSHD.Server.Sftp.Pending

namespace EMSSHD

structure Closing where
  eof : Bool
  close : Bool
  deriving DecidableEq

/-- The messages that a side may still send on a channel: each of EOF and CLOSE once, no
data after EOF, and nothing on the channel after CLOSE. -/
def closingStep (f : Closing) : ServerMessage → Option Closing
  | .eof _ => if f.eof=true ∨ f.close=true then none else some {f with eof := true}
  | .close _ => if f.close=true then none else some {f with close := true}
  | .data _ _ => if f.eof=true ∨ f.close=true then none else some f
  | m => if f.close=true ∧ m.recipient?≠none then none else some f

/-- A sequence of messages in order, from one state of closing to another. -/
def Orderly (f : Closing) (sent : List ServerMessage) (g : Closing) : Prop :=
  sent.foldlM closingStep f=some g

variable {f g k : Closing} {sent : List ServerMessage} {m : ServerMessage} {recipient : Nat}
  {evs : List Event}

lemma Orderly.append {later : List ServerMessage} (h : Orderly f sent g)
    (hl : Orderly g later k) : Orderly f (sent++later) k := by
  rw [Orderly,List.foldlM_append,h]
  exact hl

lemma orderly_cons_iff : Orderly f (m::sent) k ↔ ∃ g,closingStep f m=some g ∧ Orderly g sent k := by
  rw [Orderly,foldlM_cons]
  exact Option.bind_eq_some_iff

lemma orderly_of_forall (h : ∀ m∈sent,closingStep f m=some f) : Orderly f sent f := by
  induction sent with
  | nil => rfl
  | cons m sent ih =>
    rw [orderly_cons_iff]
    exact ⟨f,h m (by simp),ih fun x hx => h x (by simp [hx])⟩

/-- What the messages of a side must look like: at most one EOF and one CLOSE, no data
behind the EOF and no channel message behind the CLOSE. -/
structure CloseDiscipline (sent : List ServerMessage) : Prop where
  oneEof : ∀ front recipient rest,sent=front++.eof recipient::rest →
    ∀ channel,.eof channel∉rest
  oneClose : ∀ front recipient rest,sent=front++.close recipient::rest →
    ∀ channel,.close channel∉rest
  dataBeforeEof : ∀ front recipient rest,sent=front++.eof recipient::rest →
    ∀ channel bytes,.data channel bytes∉rest
  nothingAfterClose : ∀ front recipient rest,sent=front++.close recipient::rest →
    ∀ m∈rest,m.recipient?=none

lemma Orderly.along {P : Closing → Prop} {Q : ServerMessage → Prop} (h : Orderly f sent g)
    (hf : P f) (hstep : ∀ {f m g},closingStep f m=some g → P f → Q m ∧ P g) : ∀ m∈sent,Q m := by
  induction sent generalizing f with
  | nil => exact forall_mem_nil _
  | cons m sent ih =>
    obtain ⟨k,hs,hr⟩ := orderly_cons_iff.mp h
    obtain ⟨hm,hk⟩ := hstep hs hf
    exact forall_mem_cons.mpr ⟨hm,ih hr hk⟩

lemma closingStep_afterEof (h : closingStep f m=some g) (hf : f.eof=true) :
    ((∀ recipient,m≠.eof recipient) ∧ ∀ recipient bytes,m≠.data recipient bytes) ∧ g.eof=true := by
  unfold closingStep at h
  split at h <;> split_ifs at h <;> cases h <;> simp_all

lemma closingStep_afterClose (h : closingStep f m=some g) (hf : f.close=true) :
    m.recipient?=none ∧ g.close=true := by
  unfold closingStep at h
  split at h <;> split_ifs at h <;> cases h <;> simp_all

lemma Orderly.split {front rest : List ServerMessage} (h : Orderly f (front++m::rest) g) :
    ∃ k l,Orderly f front k ∧ closingStep k m=some l ∧ Orderly l rest g := by
  rw [Orderly,List.foldlM_append] at h
  obtain ⟨k,hf,hr⟩ := Option.bind_eq_some_iff.mp h
  obtain ⟨l,hs,hl⟩ := orderly_cons_iff.mp hr
  exact ⟨k,l,hf,hs,hl⟩

lemma closingStep_eof (h : closingStep f (.eof recipient)=some g) : g.eof=true := by
  rw [closingStep] at h
  split_ifs at h
  cases h
  rfl

lemma closingStep_close (h : closingStep f (.close recipient)=some g) : g.close=true := by
  rw [closingStep] at h
  split_ifs at h
  cases h
  rfl

lemma Orderly.discipline (h : Orderly f sent g) : CloseDiscipline sent := by
  have he {front rest : List ServerMessage} {recipient : Nat}
      (hs : sent=front++.eof recipient::rest) : ∀ m∈rest,(∀ channel,m≠.eof channel) ∧
        ∀ channel bytes,m≠.data channel bytes := by
    subst hs
    obtain ⟨_,_,_,hst,hr⟩ := h.split
    exact hr.along (closingStep_eof hst) closingStep_afterEof
  have hc {front rest : List ServerMessage} {recipient : Nat}
      (hs : sent=front++.close recipient::rest) : ∀ m∈rest,m.recipient?=none := by
    subst hs
    obtain ⟨_,_,_,hst,hr⟩ := h.split
    exact hr.along (closingStep_close hst) closingStep_afterClose
  constructor
  · intro front recipient rest hs channel hm
    exact (he hs _ hm).1 channel rfl
  · intro front recipient rest hs channel hm
    cases hc hs _ hm
  · intro front recipient rest hs channel bytes hm
    exact (he hs _ hm).2 channel bytes rfl
  intro front recipient rest hs m hm
  exact hc hs m hm

def Event.sent? : Event → Option ServerMessage
  | .sent m => some m
  | _ => none

def sentIn (evs : List Event) : List ServerMessage := evs.filterMap Event.sent?

lemma sentIn_append (evs later : List Event) : sentIn (evs++later)=sentIn evs++sentIn later :=
  filterMap_append

lemma mem_sentIn (h : m∈sentIn evs) : .sent m∈evs := by
  obtain ⟨e,he,hm⟩ := mem_filterMap.mp h
  cases e with
  | sent x =>
    cases hm
    exact he
  | _ => cases hm

variable {κ σ : Type}

def SftpChannel.closing (c : SftpChannel σ) : Closing := ⟨c.eofSent,c.closeSent⟩

def OrderlyFrom (s u : SftpState κ σ) : Prop :=
  ∃ evs,u.1.trace=s.1.trace++evs ∧ Orderly s.2.closing (sentIn evs) u.2.closing

lemma OrderlyFrom.refl (s : SftpState κ σ) : OrderlyFrom s s :=
  ⟨[],(append_nil _).symm,rfl⟩

variable {s t u : SftpState κ σ} {r : Except Err Unit}

lemma OrderlyFrom.trans (h : OrderlyFrom s t) (hl : OrderlyFrom t u) : OrderlyFrom s u := by
  obtain ⟨evs,ht,ho⟩ := h
  obtain ⟨later,hu,hp⟩ := hl
  refine ⟨evs++later,by rw [hu,ht,append_assoc],?_⟩
  rw [sentIn_append]
  exact ho.append hp

/-- With something to serve, the serving part of the call sends data. -/
def DataDue (c : SftpChannel σ) : Option ChannelMessage → Prop
  | none => c.sftpRx.bytes≠[] ∧
    Servable c.sftpTxPending.bytes c.sftpRx.bytes c.peerWindowSize
  | some m => m.messageId=sshMsgChannelWindowAdjust ∧ c.sftpRx.bytes≠[] ∧
      Servable c.sftpTxPending.bytes c.sftpRx.bytes
        (addU32Saturating c.peerWindowSize m.windowBytes) ∨
    m.messageId=sshMsgChannelData ∧
      Servable c.sftpTxPending.bytes (c.sftpRx.bytes++m.data.getD []) c.peerWindowSize

/-- The message is one that the server answers with a failure or with more window. -/
def ReplyDue (c : SftpChannel σ) : Option ChannelMessage → Prop
  | none => False
  | some m => m.messageId=sshMsgChannelRequest ∧
      shouldReplyFailureForNonSftpRequest m.channelRequest=true ∨
    m.messageId=sshMsgChannelData ∧
      c.windowSize-(m.data.getD []).length ≤ c.windowMaxSize/2

/-- A call that gives the server nothing to say that its EOF or CLOSE forbids. -/
structure QuietCall (s u : SftpState κ σ) : Prop where
  data : s.2.eofSent=true → ¬DataDue s.2 (messagesIn (newEvents s.1 u.1)).head?
  reply : s.2.closeSent=true → ¬ReplyDue s.2 (messagesIn (newEvents s.1 u.1)).head?
  unknown : s.2.closeSent=true → ∀ payload,.received payload∈newEvents s.1 u.1 →
    unknownRequestReply payload=none

/-- The server closes a channel no sooner than it has ended its data. -/
def ClosedAfterEof (c : SftpChannel σ) : Prop := c.closeSent=true → c.eofSent=true

lemma Arrives.orderlyFrom {m : Option ChannelMessage} (h : Arrives s t m evs)
    (hq : s.2.closeSent=true → ∀ payload,.received payload∈evs → unknownRequestReply payload=none) :
    OrderlyFrom s t := by
  refine ⟨evs,h.grown.trace,?_⟩
  rw [h.grown.channel]
  apply orderly_of_forall
  intro reply hr
  rcases h.sends reply (mem_sentIn hr) with rfl | ⟨_,_,_,rfl⟩ | ⟨payload,recipient,hp,hu,rfl⟩
  · exact if_neg fun h => h.2 rfl
  · exact if_neg fun h => h.2 rfl
  apply if_neg
  rintro ⟨hc,_⟩
  rw [hq hc payload hp] at hu
  cases hu

lemma Replied.orderlyFrom (h : Replied (.failure s.2.clientChannel) s r u)
    (hc : s.2.closeSent=false) : OrderlyFrom s u := by
  cases h with
  | sent h =>
    refine ⟨_,h.trace,?_⟩
    rw [h.channel]
    apply orderly_of_forall
    intro m hm
    cases mem_singleton.mp hm
    exact if_neg fun h => absurd h.1 (by simp [SftpChannel.closing,hc])
  | failed _ h =>
    refine ⟨[],h.trace,?_⟩
    rw [h.channel]
    rfl

lemma ServeOutcome.orderlyFrom (h : ServeOutcome s r u) (hi : ClosedAfterEof s.2)
    (hq : s.2.eofSent=true →
      ¬Servable s.2.sftpTxPending.bytes s.2.sftpRx.bytes s.2.peerWindowSize) :
    OrderlyFrom s u ∧ u.2.closing=s.2.closing := by
  by_cases he : s.2.eofSent=true
  · rw [h.silent (hq he)]
    exact ⟨OrderlyFrom.refl s,rfl⟩
  have hc : ¬s.2.closeSent=true := fun hc => he (hi hc)
  obtain ⟨evs,hs,_⟩ := h.progress
  have hf : u.2.closing=s.2.closing :=
    congrArg (fun ends => (⟨ends.eofSent,ends.closeSent⟩ : Closing)) hs.ends
  refine ⟨⟨evs,hs.trace,?_⟩,hf⟩
  rw [hf]
  apply orderly_of_forall
  intro m hm
  rcases hs.sends _ (mem_sentIn hm) with ⟨bytes,hb,_⟩ | ⟨_,_,hb,_⟩
  · cases hb
    apply if_neg
    rintro (h | h)
    · exact he h
    · exact hc h
  · cases hb

lemma Grown.orderlyFrom (h : Grown s u []) : OrderlyFrom s u := by
  refine ⟨[],h.trace,?_⟩
  rw [h.channel]
  rfl

lemma orderlyFrom_eof (h : Once (.eof recipient) s.2.eofSent SftpChannel.withEof s r u)
    (hi : ClosedAfterEof s.2) :
    OrderlyFrom s u ∧ ClosedAfterEof u.2 ∧ (r=.ok () → u.2.eofSent=true) := by
  cases h with
  | already h => exact ⟨OrderlyFrom.refl s,hi,fun _ => h⟩
  | sent h ht hc =>
    have hcl : s.2.closeSent=false := by
      by_contra hc
      have he := hi (by simpa using hc)
      rw [h] at he
      cases he
    refine ⟨⟨_,ht,?_⟩,?_,?_⟩
    · rw [hc]
      show (closingStep ⟨s.2.eofSent,s.2.closeSent⟩ (.eof recipient)).bind some=
        some ⟨true,s.2.closeSent⟩
      rw [h,hcl]
      rfl
    · intro _
      rw [hc]
      rfl
    intro _
    rw [hc]
    rfl
  | failed _ _ hg =>
    refine ⟨hg.orderlyFrom,?_,nofun⟩
    rw [hg.channel]
    exact hi

lemma orderlyFrom_close (h : Once (.close recipient) s.2.closeSent SftpChannel.withClose s r u) :
    OrderlyFrom s u ∧ u.2.eofSent=s.2.eofSent ∧ (r≠.ok () → u.2=s.2) := by
  cases h with
  | already h => exact ⟨OrderlyFrom.refl s,rfl,fun hr => absurd rfl hr⟩
  | sent h ht hc =>
    refine ⟨⟨_,ht,?_⟩,?_,fun hr => absurd rfl hr⟩
    · rw [hc]
      show (closingStep ⟨s.2.eofSent,s.2.closeSent⟩ (.close recipient)).bind some=
        some ⟨s.2.eofSent,true⟩
      rw [h]
      rfl
    rw [hc]
    rfl
  | failed _ _ hg => exact ⟨hg.orderlyFrom,by rw [hg.channel],fun _ => hg.channel⟩

lemma Replenish.orderlyFrom (h : Replenish sftpReceiveWindow s r u)
    (hq : s.2.closeSent=true → ¬s.2.windowSize ≤ s.2.windowMaxSize/2) :
    OrderlyFrom s u ∧ u.2.closing=s.2.closing := by
  cases h with
  | enough _ => exact ⟨OrderlyFrom.refl s,rfl⟩
  | granted hl ht hc =>
    have hf : u.2.closing=s.2.closing := by rw [hc]; rfl
    refine ⟨⟨_,ht,?_⟩,hf⟩
    rw [hf]
    apply orderly_of_forall
    intro m hm
    cases mem_singleton.mp hm
    exact if_neg fun h => hq h.1 hl
  | failed _ hg => exact ⟨hg.orderlyFrom,by rw [hg.channel]⟩

lemma OnMessage.orderlyFrom {m : ChannelMessage} (h : OnMessage s m r u)
    (hi : ClosedAfterEof s.2) (hd : s.2.eofSent=true → ¬DataDue s.2 (some m))
    (hrp : s.2.closeSent=true → ¬ReplyDue s.2 (some m)) :
    OrderlyFrom s u ∧ (r≠.error .closed → ClosedAfterEof u.2) := by
  have hk {w : SftpState κ σ} (hw : w.2.closing=s.2.closing) : ClosedAfterEof w.2 := by
    have he : w.2.eofSent=s.2.eofSent := congrArg Closing.eof hw
    have hc : w.2.closeSent=s.2.closeSent := congrArg Closing.close hw
    rw [ClosedAfterEof,he,hc]
    exact hi
  cases h with
  | adjust hid hrx => exact ⟨⟨[],(append_nil _).symm,rfl⟩,fun _ => hi⟩
  | adjustServe hid hrx ho =>
    have hsr := ho.orderlyFrom hi fun he hs => hd he (.inl ⟨hid,hrx,hs⟩)
    exact ⟨hsr.1,fun _ => hk hsr.2⟩
  | request | dataBeyond | other => exact ⟨OrderlyFrom.refl s,fun _ => hi⟩
  | requestRefused hid hq ho =>
    have hc : s.2.closeSent=false := by
      by_contra hc
      exact hrp (by simpa using hc) (.inl ⟨hid,hq⟩)
    refine ⟨ho.orderlyFrom hc,fun _ => hk ?_⟩
    cases ho with
    | sent h => rw [h.channel]
    | failed _ h => rw [h.channel]
  | eof hid he hc =>
    obtain ⟨hf,_,hst⟩ := orderlyFrom_eof he hi
    obtain ⟨hsc,hsm,_⟩ := orderlyFrom_close hc
    exact ⟨hf.trans hsc,fun _ _ => by rw [hsm]; exact hst rfl⟩
  | eofFailed hid he =>
    obtain ⟨hf,haf,_⟩ := orderlyFrom_eof he hi
    exact ⟨hf,fun _ => haf⟩
  | close hid hc he =>
    obtain ⟨hf,_,hsm⟩ := orderlyFrom_close hc
    refine ⟨hf,fun hr => ?_⟩
    rcases he with ⟨_,rfl⟩ | rfl
    · exact absurd rfl hr
    rw [hsm nofun]
    exact hi
  | dataFailed hid hw hr =>
    have hwn := hr.orderlyFrom fun hc hl => hrp hc (.inr ⟨hid,hl⟩)
    exact ⟨hwn.1,fun _ => hk hwn.2⟩
  | dataRefused hid hw hr hrm =>
    have hwn := hr.orderlyFrom fun hc hl => hrp hc (.inr ⟨hid,hl⟩)
    refine ⟨OrderlyFrom.trans hwn.1 ⟨_,rfl,rfl⟩,fun _ => hk hwn.2⟩
  | @dataServed _ t _ hid hw hr hrm ho =>
    have hwn := hr.orderlyFrom fun hc hl => hrp hc (.inr ⟨hid,hl⟩)
    obtain ⟨_,ha⟩ := hr.answers
    have hp : t.2.sftpTxPending.bytes=s.2.sftpTxPending.bytes :=
      congrArg ChannelFlow.sftpTxPending ha.flow
    have hx : t.2.sftpRx.bytes=s.2.sftpRx.bytes := congrArg ChannelFlow.sftpRx ha.flow
    have hpw : t.2.peerWindowSize=s.2.peerWindowSize := congrArg ChannelFlow.peerWindowSize ha.flow
    have hef : t.2.eofSent=s.2.eofSent := congrArg Closing.eof hwn.2
    have hsr := ho.orderlyFrom (hk hwn.2) fun he hs => by
      refine hd (hef.symm.trans he) (.inr ⟨hid,?_⟩)
      rw [← hp,← hx,← hpw]
      exact hs
    exact ⟨OrderlyFrom.trans hwn.1 hsr.1,fun _ => hk (hsr.2.trans hwn.2)⟩

lemma SftpStep.orderlyFrom (h : SftpStep s r u) (hiv : ClosedAfterEof s.2) (hq : QuietCall s u) :
    OrderlyFrom s u ∧ (r≠.error .closed → ClosedAfterEof u.2) := by
  -- what has come in up to t stays quiet when the whole call does
  have hin {t : SftpState κ σ} {m : Option ChannelMessage} {evs later : List Event}
      (ha : Arrives s t m evs) (ht : u.1.trace=t.1.trace++later) : OrderlyFrom s t := by
    apply ha.orderlyFrom
    intro hc payload hp
    apply hq.unknown hc payload
    have htr : u.1.trace=s.1.trace++(evs++later) := by rw [ht,ha.grown.trace,append_assoc]
    rw [newEvents_eq htr]
    exact mem_append_left _ hp
  have hen {m : Option ChannelMessage} {evs : List Event} (ha : Arrives s u m evs) :
      OrderlyFrom s u ∧ (r≠.error .closed → ClosedAfterEof u.2) := by
    refine ⟨hin ha (append_nil _).symm,fun _ => ?_⟩
    rw [ha.grown.channel]
    exact hiv
  cases h with
  | uninitialized h => exact ⟨OrderlyFrom.refl s,fun _ => hiv⟩
  | lost he hs hg =>
    rcases hs with hs | ⟨m,hs⟩
    · exact hen (arrives_skim hs hg)
    · exact hen (arrives_message hs hg)
  | idle hs hg hrx hr => exact hen (arrives_skim hs hg)
  | @resume _ t _ evs hs hg hrx ho =>
    have ha := arrives_skim hs hg
    obtain ⟨later,ht,hl⟩ := ho.quietIn
    have htr : u.1.trace=s.1.trace++(evs++later) := by rw [ht,hg.trace,append_assoc]
    have hn : messagesIn (newEvents s.1 u.1)=[] := by
      rw [newEvents_eq htr,messagesIn_append,hs.messagesIn,hl]
      rfl
    have hd := hq.data
    rw [hn] at hd
    have hi : ClosedAfterEof t.2 := by rwa [hg.channel]
    have hsr := ho.orderlyFrom hi (by rw [hg.channel]; exact fun he hs => hd he ⟨hrx,hs⟩)
    refine ⟨(hin ha ht).trans hsr.1,fun _ => ?_⟩
    have he : u.2.eofSent=t.2.eofSent := congrArg Closing.eof hsr.2
    have hc : u.2.closeSent=t.2.closeSent := congrArg Closing.close hsr.2
    rw [ClosedAfterEof,he,hc]
    exact hi
  | misdirected hg hm =>
    obtain ⟨evs,ha⟩ := hg.arrives
    exact hen ha
  | @message m _ t _ hg hm ho =>
    obtain ⟨evs,ha⟩ := hg.arrives
    obtain ⟨later,ht,_⟩ := ho.effect.quietIn
    have hd := hq.data
    have hrp := hq.reply
    rw [hg.messagesIn ho.effect] at hd hrp
    have hc : t.2=s.2 := ha.grown.channel
    obtain ⟨han,haf⟩ := ho.orderlyFrom (by rwa [hc]) (by rwa [hc]) (by rwa [hc])
    exact ⟨(hin ha ht).trans han,haf⟩

variable (L : LinkApi κ) (S : SftpServer σ)

lemma orderlyFrom_run {s t u : SftpState κ σ} {r : Except Err Unit} (hs : ClosedAfterEof s.2)
    (h : Run (sshServerProcessSftpChannelData L S)
      (fun t r u => r≠.error .closed ∧ QuietCall t u) s t)
    (hc : (sshServerProcessSftpChannelData L S).run t=(r,u)) (hq : QuietCall t u) :
    OrderlyFrom s u := by
  have hrn : OrderlyFrom s t ∧ ClosedAfterEof t.2 := by
    apply h.invariant (fun t => OrderlyFrom s t ∧ ClosedAfterEof t.2)
    · exact ⟨OrderlyFrom.refl s,hs⟩
    rintro t r u ⟨ho,hi⟩ hc ⟨hr,hq⟩
    have hst := (processSftpChannelData_step L S t).of_eq hc
    obtain ⟨hn,ha⟩ := hst.orderlyFrom hi hq
    exact ⟨ho.trans hn,ha hr⟩
  have hst := (processSftpChannelData_step L S t).of_eq hc
  exact hrn.1.trans (hst.orderlyFrom hrn.2 hq).1

end EMSSHD
