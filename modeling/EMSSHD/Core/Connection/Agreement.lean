import EMSSHD.Framework.Tracks
import EMSSHD.Framework.Lawful
import EMSSHD.Core.Connection.Decode

namespace EMSSHD

open Call

section
variable {ρ π α : Type}

/-- The same position in the same bytes, and records that stand in R. -/
def SameRead (R : ρ → π → Prop) (s : SshBuffer×ρ) (t : SshBuffer×π) : Prop :=
  s.1=t.1 ∧ R s.2 t.2

variable {R : ρ → π → Prop}

lemma readInto_tracks {get : Call SshBuffer Err α} {set : α → ρ → ρ} {set' : α → π → π}
    (h : ∀ a r m,R r m → R (set a r) (set' a m)) :
    Tracks (SameRead R) (readInto get set) (readInto get set') := by
  apply Tracks.bind
  · intro s t hst
    simp only [run_onFst,hst.1]
    exact ⟨trivial,rfl,hst.2⟩
  intro a
  apply Tracks.modify
  intro s t hst
  exact ⟨hst.1,h a s.2 t.2 hst.2⟩

lemma expectEnd_tracks (e : Err) :
    Tracks (SameRead R) (expectEnd e : Decoder ρ Unit) (expectEnd e) := by
  apply Tracks.bindGet
  intro s t hst
  rw [hst.1]
  exact Tracks.require e
end

/-- The request in a channel message is the request r, for the same channel. -/
def HoldsRequest (r : ChannelRequest) (m : ChannelMessage) : Prop :=
  r=m.channelRequest ∧ r.recipientChannel=m.recipientChannel

section
variable {α β : Type} {get : Call SshBuffer Err α} {set : α → ChannelRequest → ChannelRequest}

lemma requestField_tracks (h : ∀ a r,(set a r).recipientChannel=r.recipientChannel) :
    Tracks (SameRead HoldsRequest) (readInto get set)
      (readInto get fun a m => {m with channelRequest := set a m.channelRequest}) := by
  apply readInto_tracks
  intro a r m hrm
  have hs : set a r=set a m.channelRequest := congrArg (set a) hrm.1
  exact ⟨hs,(h a r).trans hrm.2⟩

lemma requestField_bind {f : Unit → Decoder ChannelRequest β} {g : Unit → Decoder ChannelMessage β}
    (h : ∀ a r,(set a r).recipientChannel=r.recipientChannel)
    (hr : Tracks (SameRead HoldsRequest) (f ()) (g ())) :
    Tracks (SameRead HoldsRequest) (readInto get set>>=f)
      ((readInto get fun a m => {m with channelRequest := set a m.channelRequest})>>=g) :=
  (requestField_tracks h).bind fun _ => hr
end

/-- The recipient channel, which one parser reads into the request and the other one copies
there from the message. -/
theorem recipientChannel_tracks :
    Tracks (SameRead HoldsRequest)
      (readInto sshBufferGetU32 fun v r => {r with recipientChannel := v})
      (do
        readInto sshBufferGetU32 fun v m => {m with recipientChannel := v}
        Call.modify fun s => (s.1,{s.2 with channelRequest :=
          {s.2.channelRequest with recipientChannel := s.2.recipientChannel}})) := by
  rw [readInto,readInto,bind_assoc]
  apply Tracks.bind
  · intro s t hst
    simp only [run_onFst,hst.1]
    exact ⟨trivial,rfl,hst.2⟩
  intro v s t hst
  have hr := hst.2.1
  refine ⟨rfl,hst.1,?_,rfl⟩
  simp only [run_modify,run_bind,hr]

lemma channelRequestFields_tracks :
    Tracks (SameRead HoldsRequest) channelRequestDecodeFields
      (do
        readInto sshBufferGetU32 fun v m => {m with recipientChannel := v}
        channelMessageRequestFields) := by
  have he (e : Err) : Tracks (SameRead HoldsRequest) (expectEnd e) (expectEnd e) :=
    expectEnd_tracks e
  rw [channelMessageRequestFields,← bind_assoc]
  apply recipientChannel_tracks.bind
  intro _
  refine requestField_bind (fun _ _ => rfl) ?_
  refine requestField_bind (fun _ _ => rfl) ?_
  apply Tracks.bindGet
  intro s t hst
  rw [hst.2.1]
  apply Tracks.ite
  · exact requestField_bind (fun _ _ => rfl) (he _)
  apply Tracks.ite
  · refine .bind (.failAs _ ?_) fun _ => he _
    refine requestField_bind (fun _ _ => rfl) ?_
    refine requestField_bind (fun _ _ => rfl) ?_
    refine requestField_bind (fun _ _ => rfl) ?_
    refine requestField_bind (fun _ _ => rfl) ?_
    refine requestField_bind (fun _ _ => rfl) ?_
    exact requestField_tracks fun _ _ => rfl
  apply Tracks.ite
  · exact he _
  apply Tracks.ite
  · exact .bind (.failAs _ (requestField_tracks fun _ _ => rfl)) fun _ => he _
  apply Tracks.ite
  · refine .bind (.failAs _ ?_) fun _ => he _
    refine requestField_bind (fun _ _ => rfl) ?_
    exact requestField_tracks fun _ _ => rfl
  apply Tracks.ite
  · refine .bind (.failAs _ ?_) fun _ => he _
    refine requestField_bind (fun _ _ => rfl) ?_
    refine requestField_bind (fun _ _ => rfl) ?_
    refine requestField_bind (fun _ _ => rfl) ?_
    exact requestField_tracks fun _ _ => rfl
  apply Tracks.ite
  · exact .bind (.failAs _ (requestField_tracks fun _ _ => rfl)) fun _ => he _
  · exact Tracks.fail _

/-- The status of ssh_channel_request_decode on a payload and the record it leaves. -/
def channelRequestOf (payload : Bytes) : Except Err Unit×ChannelRequest :=
  decodePayload sshChannelRequestDecode {} payload

/-- Both parsers read a channel request alike: the same status, and whatever the status the
same channel and the same fields. -/
theorem channelRequest_parsers_agree (rest : Bytes) :
    (channelMessageOf (sshMsgChannelRequest::rest)).1=
      (channelRequestOf (sshMsgChannelRequest::rest)).1 ∧
    (channelMessageOf (sshMsgChannelRequest::rest)).2.channelRequest=
      (channelRequestOf (sshMsgChannelRequest::rest)).2 ∧
    (channelMessageOf (sshMsgChannelRequest::rest)).2.recipientChannel=
      (channelRequestOf (sshMsgChannelRequest::rest)).2.recipientChannel := by
  obtain ⟨b,hb,_⟩ := getU8_unread (wrap_unread (sshMsgChannelRequest::rest))
  have hid : isChannelMessageId sshMsgChannelRequest := by decide
  have hr : sshChannelRequestDecode.run
      (sshBufferWrap (sshMsgChannelRequest::rest),{})=channelRequestDecodeFields.run (b,{}) := by
    rw [sshChannelRequestDecode,Call.run_bind_ok (onFst_run hb),
      Call.run_bind_ok (Call.run_require_of _ _ rfl)]
  have hm : sshChannelMessageDecode.run (sshBufferWrap (sshMsgChannelRequest::rest),{})=
      Call.run (do
        readInto sshBufferGetU32 fun v m => {m with recipientChannel := v}
        channelMessageRequestFields) (b,{messageId := sshMsgChannelRequest}) := by
    rw [sshChannelMessageDecode,Call.run_bind_ok (onFst_run hb),
      Call.run_bind_ok (Call.run_require_of _ _ hid),Call.run_bind_ok (Call.run_modify _ _),
      if_neg (by decide),if_pos rfl]
  have hst : SameRead HoldsRequest (b,{}) (b,{messageId := sshMsgChannelRequest}) := ⟨rfl,rfl,rfl⟩
  obtain ⟨hs,_,hf,hc⟩ := channelRequestFields_tracks _ _ hst
  simp only [channelMessageOf,channelRequestOf,decodePayload,hr,hm]
  exact ⟨hs.symm,hf.symm,hc.symm⟩

end EMSSHD
