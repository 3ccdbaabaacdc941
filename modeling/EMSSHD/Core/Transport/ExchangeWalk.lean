import EMSSHD.Core.Transport.Exchange

namespace EMSSHD

open Call

/-- What the steps of a key exchange leave alone that only read and fill its own fields. -/
def settled (s : Peer) : TransportSession×PacketLog×List KexEvent×Bytes×Bytes :=
  (s.1.transport,s.1.packets,s.1.history,s.1.sessionId,s.1.exchangeHash)

lemma fill_run (s : Peer) : ∃ rng w,(onEndpoint nextFill).run s=(.ok rng,(s.1,w)) := by
  obtain ⟨rng,w,hr,_⟩ := nextFill_run (s.1.transport,s.2)
  exact ⟨rng,w,by simp only [onEndpoint,hr]⟩

lemma kexGenerateKeypair_run (s : Peer) :
    ∃ r keypairs,kexGenerateKeypair.run s=(r,({s.1 with keypairs := keypairs},s.2)) := by
  unfold kexGenerateKeypair
  cases hp : s.1.keypairs with
  | nil => exact ⟨.error .platform,s.1.keypairs,by simp [hp]; rw [← hp]⟩
  | cons r keypairs => exact ⟨r,keypairs,by simp [hp]⟩

/-- An invariant that a key exchange keeps while it sends its packets and fills its fields. -/
structure KexSteps (C : CryptoApi) (I : Peer → Prop) : Prop where
  change : ∀ {s t : Peer},settled t=settled s → I s → I t
  note : ∀ {e : KexEvent},(∀ bytes,e≠.exchangeHash bytes ∧ e≠.derived bytes) → Keeps I (noteKex e)
  send : ∀ payload,Keeps I (sendTransportPayload C payload)

variable {C : CryptoApi} {K : KexCrypto} {I : Peer → Prop} (h : KexSteps C I)

namespace KexSteps

include h

lemma sendKexinit : Keeps I (sshTransportSendKexinit C) := by
  refine .bind ?_ fun _ => .bind (.lift _) fun _ => .bind (.lift _) fun _ => .bind .get fun _ =>
    .bind (fun _ => h.change rfl) fun _ => .bind (.lift _) fun _ =>
    .bind (fun _ => h.change rfl) fun _ => .bind (h.send _) fun _ => h.note fun _ => ⟨nofun,nofun⟩
  intro s hs
  obtain ⟨rng,w,hr⟩ := fill_run s
  rw [hr]
  exact h.change (s := s) rfl hs

lemma processKexinitPayload (payload : Bytes) : Keeps I (processKexinitPayload payload) :=
  .bind (.require _ _) fun _ => .bind (.require _ _) fun _ => .bind (h.note fun _ => ⟨nofun,nofun⟩)
    fun _ => .bind (fun _ => h.change rfl) fun _ => .bind .get fun _ => .bind (.lift _) fun _ =>
    .bind (fun _ => h.change rfl) fun _ => .bind (.lift _) fun _ _ => h.change rfl

lemma sendKexEcdhReply (hs : Keeps I (signExchange K)) :
    Keeps I (sshTransportSendKexEcdhReply C K) := by
  refine .bind (.bind ?_ fun _ => .bind (fun _ => h.change rfl) fun _ => .bind .get fun _ =>
    .bind (.lift _) fun _ => .bind (fun _ => h.change rfl) fun _ => .bind (.lift _) fun _ _ =>
    h.change rfl) fun _ => .bind hs fun _ => .bind .get fun _ => .bind (.lift _) fun _ => h.send _
  intro s hs
  obtain ⟨r,keypairs,hr⟩ := kexGenerateKeypair_run s
  rw [hr]
  exact h.change (s := s) rfl hs

lemma handlePeerRekey (hi : Keeps I (sshTransportReceiveKexEcdhInit C))
    (hs : Keeps I (signExchange K)) (ha : Keeps I (activatePacketProtection K true))
    (hn : Keeps I (sshTransportReceiveNewkeys C K)) (payload : Bytes) :
    Keeps I (sshTransportHandlePeerRekey C K payload) := by
  have hr : Keeps I (peerRekey C K payload) :=
    .bind (h.processKexinitPayload payload) fun _ => .bind h.sendKexinit fun _ => .bind hi fun _ =>
      .bind (h.sendKexEcdhReply hs) fun _ => .bind (.bind (h.send _) fun _ => ha) fun _ => hn
  refine .bind .get fun _ => .bind (.require _ _) fun _ =>
    .bind (h.note fun _ => ⟨nofun,nofun⟩) fun _ => .bind (fun _ => h.change rfl) fun _ => ?_
  exact .bind hr.status fun _ => .bind (fun _ => h.change rfl) fun _ => .lift _
end KexSteps

end EMSSHD
