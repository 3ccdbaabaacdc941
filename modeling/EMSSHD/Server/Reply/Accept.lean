import EMSSHD.Server.Reply.Receive
import EMSSHD.Server.Session

namespace EMSSHD

open Call

variable {κ C α : Type} (L : LinkApi κ)

abbrev sessionTrace (s : Conn κ×C) : List Event := s.1.trace

/-- A request record with want_reply set has come out of the last request of past. -/
def ReceivedLast (request : ChannelRequest) (past : List Event) : Prop :=
  request.wantReply=true →
    ∃ front payload mid,past=front++(.received payload::mid) ∧ asksReply payload ∧
      Requestless mid

lemma ReceivedLast.append {request old : ChannelRequest} {past evs : List Event}
    (h : ReceivedLast old past) (hn : Requestless evs) (hr : request.wantReply=old.wantReply) :
    ReceivedLast request (past++evs) := by
  intro hw
  obtain ⟨front,payload,mid,rfl,hp,hm⟩ := h (hr ▸ hw)
  exact ⟨front,payload,mid++evs,by simp,hp,hm.append hn⟩

lemma receivedLast_zero : ReceivedLast {} [] := by
  intro h
  cases h

/-- What a round of the accept loop has before it when it has its next request. -/
structure Taken (past : List Event) (awaiting : Bool) (status : Except Err Unit) (t : Conn κ)
    (request : ChannelRequest) (evs : List Event) : Prop where
  goesOn : requestFailure? status=none → ReceivedLast request (past++evs) ∧
    (¬MeetsStaleRequest L (past++evs) →
      Replies awaiting evs (shouldReplyFailureForNonSftpRequest request))
  failure : ∀ e,requestFailure? status=some e → ∃ after,Replies awaiting evs after
  tolerated : ∀ e,requestFailure? status=some e → shouldToleratePreRequestMalformed t e →
    ReceivedLast request (past++evs) ∧ Replies awaiting evs false

section
variable {L} {past : List Event} {old request : ChannelRequest} {t : Conn κ}
  {r : Except Err Unit} {evs : List Event}

lemma requestFailure?_error {e : Err} (h : e≠.unsupported) : requestFailure? (.error e)=some e := by
  rw [requestFailure?,if_neg h]

/-- With something behind the request that makes the receive function give up, the accept loop
acts on the old request once more. -/
theorem ReceivedLast.stale (h : ReceivedLast old past) (hn : Requestless evs)
    (hs : (∃ stray,.received stray∈evs ∧ GivesUp L stray) ∨ 16≤evs.countP Event.passedOver)
    (hw : old.wantReply=true) : MeetsStaleRequest L (past++evs) := by
  obtain ⟨front,payload,mid,rfl,hp,hm⟩ := h hw
  refine ⟨front,payload,mid++evs,[],by simp,hp,hm.append hn,?_⟩
  rcases hs with ⟨stray,hmm,hg⟩ | hc
  · exact .inl ⟨stray,mem_append_right _ hmm,hg⟩
  right
  rw [countP_append]
  omega

lemma Receipt.taken (h : Receipt L 16 old t.lastReceivedMessageId r request evs)
    (hold : ReceivedLast old past) : Taken L past false r t request evs := by
  cases h with
  | @decoded skim payload hh hn hid hl =>
    have hr : Replies false (skim++[.received payload])
        (shouldReplyFailureForNonSftpRequest (requestDiag payload)) := by
      rw [← wantsReply_of_eq hid]
      exact (hh.replies hn).append (replies_received payload)
    constructor
    · intro _
      exact ⟨fun hw => ⟨past++skim,payload,[],by simp,⟨hid,hw⟩,requestless_nil⟩,fun _ => hr⟩
    · intro e _
      exact ⟨_,hr⟩
    -- behind a request no failure is let pass
    intro e _ ht
    have hd : t.lastReceivedMessageId=some sshMsgChannelData ∨
        t.lastReceivedMessageId=some sshMsgChannelExtendedData := ht.2
    rw [hl] at hd
    rcases hd with hd | hd
    · cases hd
    · cases hd
  | @tooLong skim payload hh hn =>
    constructor
    · intro hf
      cases hf
    · intro e _
      exact ⟨_,(hh.replies hn).append (replies_received payload)⟩
    intro e he ht
    cases he
    cases ht.1
  | @nothing e _ hh hn _ hrc he =>
    have hr := hh.replies hn
    constructor
    · intro hf
      have hu : e=.unsupported := by
        by_contra hu
        rw [requestFailure?_error hu] at hf
        cases hf
      refine ⟨hold.append hn hrc,fun hfr => ?_⟩
      have hq : shouldReplyFailureForNonSftpRequest request=false := by
        rw [← Bool.not_eq_true]
        intro hw
        exact hfr (hold.stale hn (he hu) (hrc ▸ (Bool.and_eq_true_iff.mp hw).1))
      rw [hq]
      exact hr
    · intro x _
      exact ⟨false,hr⟩
    intro x _ _
    exact ⟨hold.append hn hrc,hr⟩

def RoundStart (past : List Event) (awaiting : Bool) (old : ChannelRequest) :
    Option ChannelRequest → Prop
  | none => awaiting=false ∧ ReceivedLast old past
  | some request => awaiting=shouldReplyFailureForNonSftpRequest request ∧
    ReceivedLast request past

lemma nextRequest_taken (hln : L.Supported) {awaiting : Bool} {req : Option ChannelRequest}
    (s : Conn κ×ChannelRequest) (h : RoundStart past awaiting s.2 req) :
    (nextRequest L req).Ensures s (fun r u => ∃ status evs,r=.ok status ∧
      u.1.trace=s.1.trace++evs ∧ Taken L past awaiting status u.1 u.2 evs) := by
  cases req with
  | some request =>
    obtain ⟨ha,hl⟩ := h
    refine ⟨.ok (),[],rfl,(append_nil _).symm,?_,nofun,nofun⟩
    intro _
    rw [append_nil,ha]
    exact ⟨hl,fun _ => replies_nil _⟩
  | none =>
    obtain ⟨ha,hl⟩ := h
    rw [ha]
    have hr := receiveChannelRequestLoop_receipt L hln 16 s
    apply Ensures.status hr
    rintro r u ⟨evs,hu,hrc⟩
    exact ⟨r,evs,rfl,hu,hrc.taken hl⟩
end

/-- A conversation behind past. Unless a stale request is met in it, it is in order, and W
says what state of waiting it ends in. -/
def Settled (past : List Event) (awaiting : Bool) (W : Except Err α → Bool → Prop)
    (r : Except Err α) (evs : List Event) : Prop :=
  ¬MeetsStaleRequest L (past++evs) → ∃ after,Replies awaiting evs after ∧ W r after

/-- What the answer to a request does: W is what holds of an accepting answer. An answer
that does not accept has left nothing open, and has received nothing. -/
def Answering (past : List Event) (request : ChannelRequest) (W : Except Err α → Bool → Prop)
    (r : Except Err (Option α)) (evs : List Event) : Prop :=
  Settled L past (shouldReplyFailureForNonSftpRequest request)
    (fun r after => (r=.ok none → after=false) ∧ ∀ a,r=.ok (some a) → W (.ok a) after) r evs ∧
  (r=.ok none → Requestless evs)

variable {L}
variable {W : Except Err α → Bool → Prop}

lemma Settled.prepend {past evs later : List Event} {awaiting mid : Bool} {r : Except Err α}
    (h : ¬MeetsStaleRequest L (past++evs) → Replies awaiting evs mid)
    (hl : Settled L (past++evs) mid W r later) : Settled L past awaiting W r (evs++later) := by
  intro hf
  rw [← append_assoc] at hf
  obtain ⟨after,hr,hw⟩ := hl hf
  have hfr := h fun hm => hf (hm.append L later)
  exact ⟨after,hfr.append hr,hw⟩

lemma requestLoop_settled (hln : L.Supported) {serverChannel : Nat}
    {answer : Except Err Unit → ChannelRequest → Call (Conn κ×C) Err (Option α)}
    (hW : ∀ e after,W (.error e) after) (ha : ∀ past status request,ReceivedLast request past →
      Emits sessionTrace (answer status request) (Answering L past request W)) (attempts : Nat)
    (req : Option ChannelRequest) (past : List Event) (awaiting : Bool)
    (s : (Conn κ×ChannelRequest)×C) (h : RoundStart past awaiting s.1.2 req) :
    (requestLoop L serverChannel answer attempts req).Ensures s (fun r t => ∃ evs,
      t.1.1.trace=s.1.1.trace++evs ∧ Settled L past awaiting W r evs) := by
  induction attempts generalizing req past awaiting s with
  | zero => refine ⟨[],(append_nil _).symm,fun _ => ⟨awaiting,replies_nil _,hW _ _⟩⟩
  | succ attempts ih =>
    have hn := Ensures.onFst (nextRequest_taken hln s.1 h)
    apply Ensures.bind hn
    · rintro status t ⟨⟨_,evs,⟨⟩,ht,htk⟩,hc⟩
      apply bindGet
      cases hf : requestFailure? status with
      | some e =>
        obtain ⟨after,haf⟩ := htk.failure e hf
        apply Ensures.ite
        · intro htl
          obtain ⟨hl,hrp⟩ := htk.tolerated e hf htl
          apply (ih none (past++evs) false t ⟨rfl,hl⟩).mono
          rintro r u ⟨later,hu,hs⟩
          refine ⟨evs++later,?_,hs.prepend fun _ => hrp⟩
          rw [hu,ht,append_assoc]
        intro _
        exact ⟨evs,ht,fun _ => ⟨after,haf,hW e after⟩⟩
      | none =>
        obtain ⟨hl,hrp⟩ := htk.goesOn hf
        apply bindRequire
        · intro _
          have han : (Call.beside (answer status t.1.2) :
              Call ((Conn κ×ChannelRequest)×C) Err (Option α)).Ensures t (fun r u =>
                (∃ later,u.1.1.trace=t.1.1.trace++later ∧
                  Answering L (past++evs) t.1.2 W r later) ∧ u.1.2=t.1.2) :=
            ⟨ha (past++evs) status t.1.2 hl (t.1.1,t.2),rfl⟩
          apply han.bind
          · rintro accepted u ⟨⟨later,hu,hs,hnn⟩,hrq⟩
            have htr : u.1.1.trace=s.1.1.trace++(evs++later) := by rw [hu,ht,append_assoc]
            cases accepted with
            | some a =>
              apply Ensures.pure
              refine ⟨evs++later,htr,Settled.prepend hrp ?_⟩
              intro hfr
              obtain ⟨after,hr,_,hsm⟩ := hs hfr
              exact ⟨after,hr,hsm a rfl⟩
            | none =>
              have hst : RoundStart ((past++evs)++later) false u.1.2 none := by
                rw [hrq]
                exact ⟨rfl,hl.append (hnn rfl) rfl⟩
              apply (ih none _ false u hst).mono
              rintro r v ⟨rest,hv,hrs⟩
              refine ⟨evs++(later++rest),?_,Settled.prepend hrp (Settled.prepend ?_ hrs)⟩
              · rw [hv,htr]
                simp only [append_assoc]
              intro hfr
              obtain ⟨after,hr,hd,_⟩ := hs hfr
              rw [← hd rfl]
              exact hr
          rintro e u ⟨⟨later,hu,hs,_⟩,_⟩
          refine ⟨evs++later,?_,Settled.prepend hrp ?_⟩
          · rw [hu,ht,append_assoc]
          intro hfr
          obtain ⟨after,hr,_⟩ := hs hfr
          exact ⟨after,hr,hW e after⟩
        intro _
        refine ⟨evs,ht,fun hfr => ⟨_,hrp hfr,hW _ _⟩⟩
    rintro e t ⟨⟨_,_,he,_⟩,_⟩
    cases he

end EMSSHD
