import EMSSHD.Framework.Composes
import EMSSHD.Server.Channel

namespace EMSSHD

open Call

section
def Event.adjustOut : Event → Nat
  | .sent (.windowAdjust _ bytesToAdd) => bytesToAdd
  | _ => 0

/-- All WINDOW_ADJUST bytes sent. -/
def adjustSent (evs : List Event) : Nat := (evs.map Event.adjustOut).sum

def ChannelMessage.dataFor (channel : Nat) (m : ChannelMessage) : Option Bytes :=
  if m.messageId=sshMsgChannelData ∧ m.recipientChannel=channel ∧
      (m.data.getD []).length≤emsshMaxPacketSize then some (m.data.getD []) else none

/-- The CHANNEL_DATA received for the channel, message by message. -/
def dataFor (channel : Nat) (evs : List Event) : List Bytes :=
  (messagesIn evs).filterMap (ChannelMessage.dataFor channel)

@[simp] lemma adjustSent_append (a b : List Event) :
    adjustSent (a++b)=adjustSent a+adjustSent b := by
  simp [adjustSent]

@[simp] lemma dataFor_append (channel : Nat) (a b : List Event) :
    dataFor channel (a++b)=dataFor channel a++dataFor channel b := by
  simp [dataFor]

/-- An event that brings in no channel message and gives no window. -/
def Event.Aside (e : Event) : Prop := e.message?=none ∧ e.adjustOut=0

variable {evs : List Event} {m : ChannelMessage}

lemma messagesIn_aside (h : ∀ e∈evs,e.Aside) : messagesIn evs=[] :=
  filterMap_eq_nil_iff.mpr fun e he => (h e he).1

lemma adjustSent_aside (h : ∀ e∈evs,e.Aside) : adjustSent evs=0 := by
  apply List.sum_eq_zero
  intro n hn
  obtain ⟨e,he,rfl⟩ := mem_map.mp hn
  exact (h e he).2

lemma dataFor_aside (h : ∀ e∈evs,e.Aside) (channel : Nat) : dataFor channel evs=[] := by
  rw [dataFor,messagesIn_aside h]
  rfl

lemma aside_sent {m : ServerMessage} (hm : (Event.sent m).adjustOut=0) :
    ∀ e∈[Event.sent m],e.Aside := by
  intro e he
  rw [mem_singleton.mp he]
  exact ⟨rfl,hm⟩

lemma Skimmed.adjustSent (h : Skimmed evs) : adjustSent evs=0 := by
  apply List.sum_eq_zero
  intro n hn
  obtain ⟨e,he,rfl⟩ := mem_map.mp hn
  rcases h e he with ⟨payload,rfl,_⟩ | ⟨m,rfl,hm⟩
  · rfl
  · rcases hm with rfl | ⟨_,_,_,rfl⟩ | ⟨_,_,_,_,rfl⟩ <;> rfl

lemma SkimsTo.adjustSent (h : SkimsTo (.ok m) evs) : adjustSent evs=0 := by
  obtain ⟨skim,payload,rfl,hs,_⟩ := h
  rw [adjustSent_append,hs.adjustSent]
  rfl

lemma SkimsTo.messagesIn (h : SkimsTo (.ok m) evs) : messagesIn evs=[m] := by
  obtain ⟨skim,payload,rfl,hs,hd⟩ := h
  rw [messagesIn_append,hs.messagesIn,messagesIn_received hd]
  rfl
end

variable {κ C α : Type}

section
variable {ρ : Type} (part : C → ρ)

/-- Since s a part of the channel has been left alone, no channel message has come in and no
window has been given. -/
def Calm (s t : Conn κ×C) : Prop :=
  part t.2=part s.2 ∧ ∃ evs,t.1.trace=s.1.trace++evs ∧ ∀ e∈evs,e.Aside

variable {part}

lemma Calm.refl (s : Conn κ×C) : Calm part s s :=
  ⟨rfl,[],(append_nil _).symm,forall_mem_nil _⟩

lemma Calm.trans {s t u : Conn κ×C} (h : Calm part s t) (hl : Calm part t u) : Calm part s u := by
  obtain ⟨hp,evs,ht,ha⟩ := h
  obtain ⟨hp',later,hu,ha'⟩ := hl
  refine ⟨hp'.trans hp,evs++later,?_,forall_mem_append.mpr ⟨ha,ha'⟩⟩
  rw [hu,ht,append_assoc]

lemma calm_composes {A : Err → Prop} :
    Composes A fun (α : Type) (s : Conn κ×C) (_ : Except Err α) => Calm part s :=
  composes_of_trans Calm.refl Calm.trans

lemma onFst_calm {c : Call (Conn κ) Err α} (h : Emits Conn.trace c (fun _ evs => ∀ e∈evs,e.Aside))
    (s : Conn κ×C) : (Call.onFst c).Ensures s fun _ => Calm part s := by
  obtain ⟨evs,hu,ha⟩ := h s.1
  exact ⟨rfl,evs,hu,ha⟩

lemma calm_same {s t : Conn κ×C} (ht : t.1=s.1) (hp : part t.2=part s.2) : Calm part s t :=
  ⟨hp,[],by rw [ht,append_nil],forall_mem_nil _⟩

lemma sendMessage_aside (L : LinkApi κ) {m : ServerMessage} (hm : (Event.sent m).adjustOut=0) :
    Emits Conn.trace (sendMessage L m) (fun _ evs => ∀ e∈evs,e.Aside) := by
  apply (sendMessage_emits L m).mono
  intro r evs h
  rcases r with _ | _
  · rw [h.1]
    exact forall_mem_nil _
  rw [show evs=[.sent m] from h]
  exact aside_sent hm

lemma sendChannelData_aside (L : LinkApi κ) (client : Nat) (data : Bytes) :
    Emits Conn.trace (sshTransportSendChannelData L client data)
      (fun _ evs => ∀ e∈evs,e.Aside) := by
  apply (sendChannelData_out L client 0 data fun h => absurd rfl h).mono
  intro r evs h e he
  obtain ⟨bytes,rfl,_⟩ := h.sends e he
  exact ⟨rfl,rfl⟩
end

structure WindowView where
  size : Nat
  maxSize : Nat
  channel : Nat

/-- One call of a process function as the receive window sees it, with the CHANNEL_DATA that it
has received and the window that it has given. Under the assumption R the layers below do not
report a violation of their own. -/
inductive WindowMove (R : Prop) (v w : WindowView) :
    List Bytes → (adjust : Nat) → Except Err Unit → Prop
  | still {r : Except Err Unit} (hw : w=v) : WindowMove R v w [] 0 r
  | rejected {data : Bytes} (hlong : v.size<data.length) (hw : w=v) :
    WindowMove R v w [data] 0 (.error .security)
  | accepted {data : Bytes} {adjust : Nat} {r : Except Err Unit} (hfits : data.length≤v.size)
    (hmax : w.maxSize=v.maxSize) (hchannel : w.channel=v.channel)
    (hsize : w.size+data.length=v.size+adjust) (hbound : w.size ≤ max v.size v.maxSize)
    (hfed : Continues r → v.maxSize≠0 → v.maxSize/2<w.size) (hplain : R → r≠.error .security) :
    WindowMove R v w [data] adjust r

def Moves (R : Prop) (view : C → WindowView) (s : Conn κ×C) (r : Except Err Unit)
    (u : Conn κ×C) : Prop :=
  ∃ evs,u.1.trace=s.1.trace++evs ∧
    WindowMove R (view s.2) (view u.2) (dataFor (view s.2).channel evs) (adjustSent evs) r

section
variable {R : Prop} {view : C → WindowView} {s t u : Conn κ×C} {r : Except Err Unit}

lemma Moves.prepend {evs : List Event} (hv : view t.2=view s.2)
    (ht : t.1.trace=s.1.trace++evs) (hd : dataFor (view s.2).channel evs=[])
    (ha : adjustSent evs=0) (h : Moves R view t r u) : Moves R view s r u := by
  obtain ⟨later,hu,hm⟩ := h
  refine ⟨evs++later,?_,?_⟩
  · rw [hu,ht,append_assoc]
  rw [dataFor_append,adjustSent_append,hd,ha,nil_append,Nat.zero_add,← hv]
  exact hm

lemma Calm.before (h : Calm view s t) (hl : Moves R view t r u) : Moves R view s r u := by
  obtain ⟨hv,evs,ht,ha⟩ := h
  exact hl.prepend hv ht (dataFor_aside ha _) (adjustSent_aside ha)

lemma Calm.moves (h : Calm view s u) (r : Except Err Unit) : Moves R view s r u := by
  obtain ⟨hv,evs,hu,ha⟩ := h
  refine ⟨evs,hu,?_⟩
  rw [dataFor_aside ha,adjustSent_aside ha]
  exact .still hv
end

section
variable (L : LinkApi κ)

def HandsOver : Except Err ChannelMessage → List Event → Prop
  | .ok m,evs => messagesIn evs=[m] ∧
    (m.messageId=sshMsgChannelData → (m.data.getD []).length≤emsshMaxPacketSize)
  | .error _,evs => ∀ channel,dataFor channel evs=[]

lemma receive_handsOver :
    Emits Conn.trace (sshTransportReceiveChannelMessage L emsshMaxPacketSize)
      (fun q evs => adjustSent evs=0 ∧ HandsOver q evs) := by
  apply Emits.bind (receiveChannelMessageLoop_emits L 16)
  · intro m evs h
    apply Emits.bindRequire
    · intro hf
      apply Emits.pure
      rw [append_nil]
      exact ⟨h.adjustSent,h.messagesIn,hf⟩
    intro hl
    rw [append_nil]
    refine ⟨h.adjustSent,fun channel => ?_⟩
    rw [dataFor,h.messagesIn,List.filterMap_cons_none]
    · rfl
    apply if_neg
    intro hd
    exact hl fun _ => hd.2.2
  intro e evs h
  have hs : Skimmed evs := h
  refine ⟨hs.adjustSent,fun channel => ?_⟩
  rw [dataFor,hs.messagesIn]
  rfl
end

section
variable {R : Prop} {view : C → WindowView} {s t u : Conn κ×C} {m : ChannelMessage}
  {evs : List Event} {r : Except Err Unit}

variable {channel : Nat}

lemma dataFor_other (hm : messagesIn evs=[m]) (hn : m.dataFor channel=none) :
    dataFor channel evs=[] := by
  rw [dataFor,hm,List.filterMap_cons_none hn]
  rfl

lemma calm_moves {c : Call (Conn κ×C) Err Unit} (hc : c.Ensures t fun _ => Calm view t)
    (hg : Grown s t evs) (ha : adjustSent evs=0) (hd : dataFor (view t.2).channel evs=[]) :
    c.Ensures t (Moves R view s) := by
  have hv : view t.2=view s.2 := by rw [hg.channel]
  apply hc.mono
  intro r u h
  exact (h.moves r).prepend hv hg.trace (hv ▸ hd) ha

/-- What a process function does about the data of a message it has received. -/
def OnData (R : Prop) (view : C → WindowView) (t : Conn κ×C) (data : Bytes) (r : Except Err Unit)
    (u : Conn κ×C) : Prop :=
  ∃ later,u.1.trace=t.1.trace++later ∧ dataFor (view t.2).channel later=[] ∧
    WindowMove R (view t.2) (view u.2) [data] (adjustSent later) r

lemma OnData.moves {data : Bytes} (h : OnData R view t data r u) (hg : Grown s t evs)
    (ha : adjustSent evs=0) (hm : messagesIn evs=[m])
    (hs : m.dataFor (view t.2).channel=some data) : Moves R view s r u := by
  obtain ⟨later,hu,hl,hmv⟩ := h
  refine ⟨evs++later,by rw [hu,hg.trace,append_assoc],?_⟩
  have hd : dataFor (view t.2).channel evs=[data] := by
    rw [dataFor,hm,List.filterMap_cons_some hs]
    rfl
  rw [← hg.channel,dataFor_append,adjustSent_append,hd,hl,ha,Nat.zero_add]
  exact hmv

/-- What is done with a message that is received moves the window by its data, or not at all. -/
lemma received_moves (L : LinkApi κ) {next : Except Err ChannelMessage → Call (Conn κ×C) Err Unit}
    (hd : ∀ m t,m.messageId=sshMsgChannelData → m.recipientChannel=(view t.2).channel →
      (next (.ok m)).Ensures t (OnData R view t (m.data.getD [])))
    (hn : ∀ m t,¬(m.messageId=sshMsgChannelData ∧ m.recipientChannel=(view t.2).channel) →
      (next (.ok m)).Ensures t fun _ => Calm view t)
    (he : ∀ e t,(next (.error e)).Ensures t fun _ => Calm view t) (s : Conn κ×C) :
    (Call.status (Call.onFst (sshTransportReceiveChannelMessage L emsshMaxPacketSize)) >>=
      next).Ensures s (Moves R view s) := by
  refine .bindStatus ((Ensures.onFst (receive_handsOver L s.1)).mono ?_)
  rintro q t ⟨⟨evs,ht,ha,hq⟩,hc⟩
  have hg : Grown s t evs := ⟨ht,hc⟩
  cases q with
  | error e => exact calm_moves (he e t) hg ha (hq _)
  | ok m =>
    by_cases h : m.messageId=sshMsgChannelData ∧ m.recipientChannel=(view t.2).channel
    · refine (hd m t h.1 h.2).mono fun r u hu => ?_
      exact hu.moves hg ha hq.1 (if_pos ⟨h.1,h.2,hq.2 h.1⟩)
    · exact calm_moves (hn m t h) hg ha (dataFor_other hq.1 (if_neg fun hm => h ⟨hm.1,hm.2.1⟩))
end

section
variable (L : LinkApi κ) (W : ReceiveWindow C) {R : Prop} {view : C → WindowView}
  {debit : Nat → C → C}

/-- The view shows the window that the replenish function works on. -/
structure Shows (W : ReceiveWindow C) (debit : Nat → C → C) (view : C → WindowView) : Prop where
  size : ∀ c,W.windowSize c=(view c).size
  maxSize : ∀ c,W.windowMaxSize c=(view c).maxSize
  grow : ∀ n c,view (W.grow n c)={view c with size := (view c).size+n}
  debit : ∀ n c,view (debit n c)={view c with size := (view c).size-n}

/-- The window after data has been taken off it, and given back if little was left. -/
structure Replenished (view : C → WindowView) (t : Conn κ×C) (r : Except Err Unit) (u : Conn κ×C)
    (later : List Event) : Prop where
  trace : u.1.trace=t.1.trace++later
  data : ∀ channel,dataFor channel later=[]
  maxSize : (view u.2).maxSize=(view t.2).maxSize
  channel : (view u.2).channel=(view t.2).channel
  size : (view u.2).size=(view t.2).size+adjustSent later
  bound : (view u.2).size ≤ max (view t.2).size (view t.2).maxSize
  fed : Continues r → (view t.2).maxSize≠0 → (view t.2).maxSize/2<(view u.2).size

variable {L W}
variable {t u : Conn κ×C}

lemma Calm.replenished (r : Except Err Unit) (h : Calm view t u)
    (hf : Continues r → (view t.2).maxSize/2<(view t.2).size) :
    ∃ later,Replenished view t r u later := by
  obtain ⟨hv,later,hu,ha⟩ := h
  have had := adjustSent_aside ha
  refine ⟨later,hu,dataFor_aside ha,?_,?_,?_,?_,?_⟩
  · rw [hv]
  · rw [hv]
  · rw [hv,had]
    rfl
  · rw [hv]
    exact le_max_left _ _
  intro hr _
  rw [hv]
  exact hf hr

lemma Calm.refilled (hW : Shows W debit view) {t' : Conn κ×C} (r : Except Err Unit)
    (hl : (view t.2).size≤(view t.2).maxSize/2)
    (ht : t'.1.trace=t.1.trace++[.sent (.windowAdjust (W.clientChannel t.2)
      ((view t.2).maxSize-(view t.2).size))])
    (hc : t'.2=W.grow ((view t.2).maxSize-(view t.2).size) t.2) (h : Calm view t' u) :
    ∃ later,Replenished view t r u later := by
  obtain ⟨hv,later,hu,ha⟩ := h
  rw [hc,hW.grow] at hv
  have hs : adjustSent ([.sent (.windowAdjust (W.clientChannel t.2)
      ((view t.2).maxSize-(view t.2).size))]++later)=(view t.2).maxSize-(view t.2).size := by
    rw [adjustSent_append,adjustSent_aside ha]
    rfl
  refine ⟨_,by rw [hu,ht,append_assoc],?_,?_,?_,?_,?_,?_⟩
  · intro channel
    rw [dataFor_append,dataFor_aside ha]
    rfl
  · rw [hv]
  · rw [hv]
  · rw [hv,hs]
  · rw [hv]
    show _ + _ ≤ _
    omega
  intro _ hm
  rw [hv]
  show _ < _ + _
  omega

variable (L) (W)
variable {rest : Call (Conn κ×C) Err Unit}

lemma replenish_then (hW : Shows W debit view) (hrs : ∀ s,rest.Ensures s fun _ => Calm view s)
    (t : Conn κ×C) :
    (replenishReceiveWindow L W >>= fun _ => rest).Ensures t
      (fun r u => ∃ later,Replenished view t r u later) := by
  apply (replenishReceiveWindow_spec L W t).bind
  · intro _ t' h
    rcases hrn : rest.run t' with ⟨r,u⟩
    have hcl : Calm view t' u := (hrs t').of_eq hrn
    apply Ensures.of_run hrn
    cases h with
    | enough h =>
      rw [hW.size,hW.maxSize] at h
      exact hcl.replenished r fun _ => h
    | granted hl ht hc =>
      rw [hW.size,hW.maxSize] at hl ht hc
      exact hcl.refilled hW r hl ht hc
  intro e u h
  cases h with
  | failed he hg =>
    have hcl : Calm view t u := ⟨by rw [hg.channel],[],hg.trace,forall_mem_nil _⟩
    apply hcl.replenished
    intro hr
    rcases hr with hr | hr
    · cases hr
    · exact absurd (Except.error.inj hr) he

/-- The common part of the process functions: data is checked against the window, taken off it,
and the window is replenished before the data is used. -/
theorem admit_onData (hW : Shows W debit view) (hrs : ∀ s,rest.Ensures s fun _ => Calm view s)
    (hp : R → Fails (·≠.security) (replenishReceiveWindow L W >>= fun _ => rest))
    (data : Bytes) (t : Conn κ×C) :
    (do
      let s ← Call.get
      Call.require (data.length ≤ W.windowSize s.2) .security
      Call.modify fun t => (t.1,debit data.length t.2)
      replenishReceiveWindow L W
      rest : Call (Conn κ×C) Err Unit).Ensures t (OnData R view t data) := by
  refine .bindGet (.bindRequire (fun hf => ?_) (fun hl => ?_))
  · rw [hW.size] at hf
    apply bindModify
    have hsp := replenish_then L W hW hrs (t.1,debit data.length t.2)
    rcases hrn : (replenishReceiveWindow L W >>= fun _ => rest).run (t.1,debit data.length t.2)
      with ⟨r,u⟩
    obtain ⟨later,h⟩ := hsp.of_eq hrn
    have hm := h.maxSize
    have hc := h.channel
    have hs := h.size
    have hb := h.bound
    have hfd := h.fed
    rw [hW.debit] at hm hc hs hb hfd
    refine .of_run hrn ⟨later,h.trace,h.data _,.accepted hf hm hc ?_ ?_ hfd ?_⟩
    · dsimp only at hs
      omega
    · dsimp only at hb
      omega
    intro hR hr
    exact hp hR _ _ (by rw [hrn,hr]) rfl
  rw [hW.size] at hl
  refine ⟨[],(append_nil _).symm,rfl,?_⟩
  exact .rejected (Nat.lt_of_not_le hl) rfl
end

variable (R : Prop) (view : C → WindowView) (proc : Call (Conn κ×C) Err Unit)

/-- The CHANNEL_DATA for the channel that a call from s to u has received. -/
def dataTaken (s u : Conn κ×C) : List Bytes :=
  dataFor (view s.2).channel (newEvents s.1 u.1)

def acceptedBytes (s u : Conn κ×C) : Nat :=
  (((dataTaken view s u).filter (·.length ≤ (view s.2).size)).map List.length).sum

/-- Calls of a process function one after the other, whatever their status, with the bytes they
have accepted in all. -/
inductive WindowRun (s : Conn κ×C) : (accepted : Nat) → Conn κ×C → Prop
  | start : WindowRun s 0 s
  | call {accepted : Nat} {t u : Conn κ×C} {r : Except Err Unit}
    (hrun : WindowRun s accepted t) (hcall : proc.run t=(r,u)) :
    WindowRun s (accepted+acceptedBytes view t u) u

/-- The window of a channel that is open. -/
structure WindowView.Open (v : WindowView) : Prop where
  maxSize : v.maxSize≠0
  size : v.size≤v.maxSize

/-- The window after accepted bytes: what it was, with all that was given and without all that
was accepted. -/
structure WindowHolds (s : Conn κ×C) (accepted : Nat) (t : Conn κ×C) : Prop where
  account : (view t.2).size+accepted=(view s.2).size+adjustSent (newEvents s.1 t.1)
  bounded : (view t.2).size≤(view t.2).maxSize
  maxSize : (view t.2).maxSize=(view s.2).maxSize

/-- One more call: it takes one CHANNEL_DATA message at most, rejects it when it is longer than
the window and takes it off the window otherwise. A violation is then reported by no one but a
layer below; and when data has been accepted and the session goes on, more than half of the
window is open. -/
structure CallHolds (t : Conn κ×C) (r : Except Err Unit) (u : Conn κ×C) : Prop where
  single : (dataTaken view t u).length≤1
  rejects : ∀ data∈dataTaken view t u,(view t.2).size<data.length →
    r=.error .security ∧ view u.2=view t.2 ∧ adjustSent (newEvents t.1 u.1)=0
  accepts : ∀ data∈dataTaken view t u,data.length≤(view t.2).size →
    (view u.2).size+data.length=(view t.2).size+adjustSent (newEvents t.1 u.1)
  only : R → ∀ data∈dataTaken view t u,r=.error .security → (view t.2).size<data.length
  fed : Continues r → ∀ data∈dataTaken view t u,data.length≤(view t.2).size →
    (view u.2).maxSize/2<(view u.2).size

/-- The receive window is kept over every run from an open channel. -/
def KeepsWindow : Prop := ∀ s accepted t,(view s.2).Open → WindowRun view proc s accepted t →
  WindowHolds view s accepted t ∧ ∀ r u,proc.run t=(r,u) → CallHolds R view t r u

variable {R view proc}
variable {t u : Conn κ×C} {r : Except Err Unit}

lemma Moves.windowMove (h : Moves R view t r u) :
    u.1.trace=t.1.trace++newEvents t.1 u.1 ∧
      WindowMove R (view t.2) (view u.2) (dataTaken view t u)
        (adjustSent (newEvents t.1 u.1)) r := by
  obtain ⟨evs,hu,hm⟩ := h
  rw [dataTaken,newEvents_eq hu]
  exact ⟨hu,hm⟩

lemma Moves.callHolds (h : Moves R view t r u) (hop : (view t.2).Open) :
    CallHolds R view t r u := by
  have hm := h.windowMove.2
  generalize ha : adjustSent (newEvents t.1 u.1)=adjust at hm
  generalize hd : dataTaken view t u=datas at hm
  cases hm with
  | still hw => constructor <;> rw [hd] <;> simp
  | @rejected data hln hw =>
    have hon : ∀ other∈dataTaken view t u,other=data := by simp [hd]
    have hl : ∀ other∈dataTaken view t u,(view t.2).size<other.length := by
      intro other ho
      rw [hon other ho]
      exact hln
    constructor
    · simp [hd]
    · intro _ _ _
      exact ⟨rfl,hw,ha⟩
    · intro other ho hf
      exact absurd hf (Nat.not_le.mpr (hl other ho))
    · intro _ other ho _
      exact hl other ho
    intro _ other ho hf
    exact absurd hf (Nat.not_le.mpr (hl other ho))
  | @accepted data _ _ hf hmx _ hs _ hfd hp =>
    have hon : ∀ other∈dataTaken view t u,other=data := by simp [hd]
    constructor
    · simp [hd]
    · intro other ho hln
      rw [hon other ho] at hln
      omega
    · intro other ho _
      rw [hon other ho,ha]
      exact hs
    · intro hR _ _ hr
      exact absurd hr (hp hR)
    intro hr _ _ _
    rw [hmx]
    exact hfd hr hop.maxSize

lemma Moves.windowHolds (h : Moves R view t r u) (ho : (view t.2).Open) :
    WindowHolds view t (acceptedBytes view t u) u := by
  have hm := h.windowMove.2
  have hs := ho.size
  rw [acceptedBytes]
  generalize ha : adjustSent (newEvents t.1 u.1)=adjust at hm
  generalize dataTaken view t u=datas at hm
  cases hm with
  | still hw => exact ⟨by rw [hw,ha]; rfl,by rw [hw]; exact hs,by rw [hw]⟩
  | rejected hl hw =>
    refine ⟨?_,by rw [hw]; exact hs,by rw [hw]⟩
    rw [hw,ha,List.filter_cons_of_neg (by simpa using hl)]
    rfl
  | accepted hf hmx _ hsm hb _ _ =>
    refine ⟨?_,?_,hmx⟩
    · rw [ha,List.filter_cons_of_pos (by simpa using hf)]
      simpa using hsm
    rw [hmx]
    omega

lemma WindowHolds.trans {s : Conn κ×C} {accepted more : Nat} (h : WindowHolds view s accepted t)
    (hl : WindowHolds view t more u) (ht : t.1.trace=s.1.trace++newEvents s.1 t.1)
    (hu : u.1.trace=t.1.trace++newEvents t.1 u.1) :
    WindowHolds view s (accepted+more) u ∧ u.1.trace=s.1.trace++newEvents s.1 u.1 := by
  have ha : u.1.trace=s.1.trace++(newEvents s.1 t.1++newEvents t.1 u.1) := by
    rw [← append_assoc,← ht,← hu]
  have hn := newEvents_eq ha
  have hf := h.account
  have hs := hl.account
  refine ⟨⟨?_,hl.bounded,hl.maxSize.trans h.maxSize⟩,?_⟩
  · rw [hn,adjustSent_append]
    omega
  rw [hn]
  exact ha

lemma keepsWindow_of_moves (hp : ∀ s,proc.Ensures s (Moves R view s)) :
    KeepsWindow R view proc := by
  intro s accepted t ho hr
  have ha : WindowHolds view s accepted t ∧ t.1.trace=s.1.trace++newEvents s.1 t.1 := by
    induction hr with
    | start =>
      have hn : newEvents s.1 s.1=[] := newEvents_eq (append_nil _).symm
      refine ⟨⟨?_,ho.size,rfl⟩,?_⟩
      · rw [hn]
        rfl
      · rw [hn,append_nil]
    | call _ hc ih =>
      obtain ⟨hold,ht⟩ := ih
      have hm := (hp _).of_eq hc
      have hop : (view _).Open := ⟨by rw [hold.maxSize]; exact ho.maxSize,hold.bounded⟩
      exact hold.trans (hm.windowHolds hop) ht hm.windowMove.1
  refine ⟨ha.1,fun r u hc => ((hp t).of_eq hc).callHolds ?_⟩
  exact ⟨by rw [ha.1.maxSize]; exact ho.maxSize,ha.1.bounded⟩

end EMSSHD
