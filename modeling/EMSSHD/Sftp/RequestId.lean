import EMSSHD.Sftp.Response

namespace EMSSHD

def responseId (response : Bytes) : Nat := beValue ((response.drop 5).take 4)
def requestId (packet : SftpPacket) : Nat := beValue (packet.payload.take 4)

/-- Whether the server still has the id of a request when it answers. It has not when it
turns a request down because the decoder for its type does not accept it: the decoders fill
in the id last. Only those of SETSTAT and FSETSTAT do so first, and the answer to a type that
is not supported takes the id from the generic part. -/
def keepsId (type : UInt8) (request : Bytes) : Bool :=
  if type=sshFxpRealpath then (sftpRealpathRequestDecode request).isOk
  else if type=sshFxpLstat ∨ type=sshFxpStat then
    (if type=sshFxpLstat then sftpLstatRequestDecode request
      else sftpStatRequestDecode request).isOk
  else if type=sshFxpOpen then (sftpOpenRequestDecode request).isOk
  else if type=sshFxpClose then (sftpCloseRequestDecode request).isOk
  else if type=sshFxpFstat then (sftpFstatRequestDecode request).isOk
  else if type=sshFxpSetstat then true
  else if type=sshFxpFsetstat then true
  else if type=sshFxpOpendir then (sftpOpendirRequestDecode request).isOk
  else if type=sshFxpReaddir then (sftpReaddirRequestDecode request).isOk
  else if type=sshFxpRead then (sftpReadRequestDecode request).isOk
  else if type=sshFxpWrite then (sftpWriteRequestDecode request).isOk
  else if type=sshFxpRemove then (sftpRemoveRequestDecode request).isOk
  else if type=sshFxpMkdir then (sftpMkdirRequestDecode request).isOk
  else if type=sshFxpRmdir then (sftpRmdirRequestDecode request).isOk
  else if type=sshFxpRename then (sftpRenameRequestDecode request).isOk
  else if type=sshFxpExtended then (sftpExtendedRequestDecode request).isOk
  else true

section
variable {request : Bytes} {packet : SftpPacket}

lemma sftpRequestDecode_of_wrap (hw : sftpPacketWrap request=.ok packet)
    (hf : 4≤packet.payload.length) :
    sftpRequestDecode request=.ok ⟨packet.type,requestId packet,packet.payload.drop 4⟩ := by
  unfold sftpRequestDecode
  rw [hw]
  exact if_neg (Nat.not_lt.mpr hf)

variable {α : Type} {n : Nat} {type : UInt8} {generic : SftpRequest}

lemma decodedId_eq {id : α → Nat} {decoded : Except Err α} (h : ∀ r,decoded=.ok r → id r=n) :
    decodedId id decoded=some (if decoded.isOk then n else 0) := by
  cases decoded with
  | ok r => exact congrArg some (h r rfl)
  | error e => rfl

lemma decodeBody_id {β : Type} {fields : Call SshBuffer Err α} {make : Nat×α → β} {id : β → Nat}
    {r : β} (hg : sftpRequestDecode request=.ok generic)
    (h : (decodeBody request type fields).map make=.ok r) (hm : ∀ x,id (make x)=x.1) :
    id r=generic.id := by
  unfold decodeBody at h
  rw [hg] at h
  simp only at h
  split_ifs at h
  · exact nomatch h
  split at h
  case _ => exact nomatch h
  case _ body hb =>
    rw [← Except.ok.inj h]
    exact hm _

lemma decodePathRequest_id {r : SftpPathRequest} (hg : sftpRequestDecode request=.ok generic)
    (h : decodePathRequest request type=.ok r) : r.id=generic.id := by
  unfold decodePathRequest at h
  rw [hg] at h
  simp only at h
  split_ifs at h
  split at h
  case _ => exact nomatch h
  case _ path payload _ =>
    split_ifs at h
    rw [← Except.ok.inj h]

lemma decodeBodyWithId_id {fields : Call SshBuffer Err α}
    (hg : sftpRequestDecode request=.ok generic) (ht : generic.type=type) :
    (decodeBodyWithId request type fields).1=generic.id := by
  unfold decodeBodyWithId
  rw [hg]
  simp only
  rw [if_neg (not_not.mpr ht)]

lemma ite_id {p : Prop} [Decidable p] {k l : Option Nat×SftpSubject} {a b : Bool}
    (hk : p → k.1=some (if a then n else 0)) (hl : l.1=some (if b then n else 0)) :
    (if p then k else l).1=some (if (if p then a else b) then n else 0) := by
  split_ifs with hp <;> simp_all

lemma answerId_eq (hw : sftpPacketWrap request=.ok packet) (ht : packet.type≠sshFxpInit)
    (hf : 4≤packet.payload.length) :
    answerId request= some (if keepsId packet.type request then requestId packet else 0) := by
  have hg := sftpRequestDecode_of_wrap hw hf
  have hp : ∀ type,decodedId SftpPathRequest.id (decodePathRequest request type)=
      some (if (decodePathRequest request type).isOk then requestId packet else 0) :=
    fun type => decodedId_eq fun r hr => decodePathRequest_id hg hr
  unfold answerId
  rw [hw]
  simp only
  unfold decodedKey keepsId
  rw [if_neg ht]
  refine ite_id (fun _ => hp _) ?_
  refine ite_id (fun _ => ?_) ?_
  · by_cases hl : packet.type=sshFxpLstat
    · rw [if_pos hl]
      exact hp _
    rw [if_neg hl]
    exact hp _
  refine ite_id (fun _ => decodedId_eq fun r hr => decodeBody_id hg hr fun _ => rfl) ?_
  refine ite_id (fun _ => decodedId_eq fun r hr => decodeBody_id hg hr fun _ => rfl) ?_
  refine ite_id (fun _ => decodedId_eq fun r hr => decodeBody_id hg hr fun _ => rfl) ?_
  refine ite_id (fun h => congrArg some (decodeBodyWithId_id hg h)) ?_
  refine ite_id (fun h => congrArg some (decodeBodyWithId_id hg h)) ?_
  refine ite_id (fun _ => hp _) ?_
  refine ite_id (fun _ => decodedId_eq fun r hr => decodeBody_id hg hr fun _ => rfl) ?_
  refine ite_id (fun _ => decodedId_eq fun r hr => decodeBody_id hg hr fun _ => rfl) ?_
  refine ite_id (fun _ => decodedId_eq fun r hr => decodeBody_id hg hr fun _ => rfl) ?_
  refine ite_id (fun _ => hp _) ?_
  refine ite_id (fun _ => decodedId_eq fun r hr => decodeBody_id hg hr fun _ => rfl) ?_
  refine ite_id (fun _ => hp _) ?_
  refine ite_id (fun _ => decodedId_eq fun r hr => decodeBody_id hg hr fun _ => rfl) ?_
  refine ite_id (fun _ => decodedId_eq fun r hr => decodeBody_id hg hr fun _ => rfl) ?_
  rw [hg]
  rfl

lemma SftpAnswer.body_id {answer : SftpAnswer} (h : answer.id?=some n) :
    ∃ type rest,answer.body=type::(beBytes 4 n++rest) := by
  cases answer with
  | version a b c d e => exact nomatch h
  | _ =>
    obtain rfl := Option.some.inj h
    exact ⟨_,_,rfl⟩

lemma requestId_lt (packet : SftpPacket) : requestId packet<256^4 := by
  have hlt := beValue_lt (packet.payload.take 4)
  have hl : (packet.payload.take 4).length≤4 := List.length_take_le 4 _
  exact Nat.lt_of_lt_of_le hlt (Nat.pow_le_pow_right (by decide) hl)

/-- The response has the id of the request exactly when the server has kept it, or when it
is the id 0 that takes its place. -/
theorem sftp_response_id_iff {σ : Type} {fs : Option (FsApi σ)} {policy : Option (SftpPolicy σ)}
    {capacity : Nat} {response : Bytes} {s t : SftpServing σ}
    (hwrap : sftpPacketWrap request=.ok packet) (htype : packet.type≠sshFxpInit)
    (hfour : 4 ≤ packet.payload.length)
    (hrun : (sftpServerHandlePacket fs policy request capacity).run s=(.ok response,t)) :
    responseId response=requestId packet ↔
      keepsId packet.type request=true ∨ requestId packet=0 := by
  obtain ⟨events,answer,-,-,hs,hid,hrs⟩ := handlePacket_served.of_eq hrun
  rw [answerId_eq hwrap htype hfour] at hid
  obtain ⟨type,rest,hb⟩ := SftpAnswer.body_id hid
  have hr : responseId response=
      (if keepsId packet.type request=true then requestId packet else 0)%256^4 := by
    rcases hrs with he | ⟨-,-,her⟩
    · rw [SftpAnswer.encode_eq hs he.symm,hb]
      unfold responseId
      rw [show (5 : Nat)=4+1 from rfl,← drop_drop,drop_left' (beBytes_length 4 _),drop_one,
        tail_cons,take_left' (beBytes_length 4 _),beValue_beBytes]
    · exact nomatch her
  have hlt := requestId_lt packet
  rw [hr]
  split_ifs with hk
  · rw [Nat.mod_eq_of_lt hlt]
    simp [hk]
  · simp [hk,eq_comm]
end

def unknownRequest : Bytes := [0,0,0,5,99,0,0,0,7]

def unknownServed : Except Err Bytes×SftpServing Unit :=
  (sftpServerHandlePacket none none unknownRequest 64).run ⟨sftpServerSessionInit,(),[]⟩

theorem sftp_response_id_unknown : ∃ response,unknownServed.1=.ok response ∧
    responseId response=7 := by
  have hw : sftpPacketWrap unknownRequest=.ok ⟨99,[0,0,0,7]⟩ := rfl
  have hid := sftp_response_id_iff hw (by decide) (by decide) (rfl : unknownServed=_)
  exact ⟨_,rfl,hid.mpr (.inl (by decide))⟩

def shortRealpath : Bytes := [0,0,0,5,16,0,0,0,7]

/-- It is answered with the id 0. -/
theorem sftp_response_id_lost :
    sftpPacketWrap shortRealpath=.ok ⟨sshFxpRealpath,[0,0,0,7]⟩ ∧
    ∃ response t,(sftpServerHandlePacket (none : Option (FsApi Unit)) none shortRealpath 64).run
      ⟨sftpServerSessionInit,(),[]⟩=(.ok response,t) ∧
      responseId response=0 ∧ requestId ⟨sshFxpRealpath,[0,0,0,7]⟩=7 := by
  exact ⟨rfl,_,_,rfl,rfl,rfl⟩

end EMSSHD
