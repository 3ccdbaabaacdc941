import EMSSHD.Core.Transport.Sequence
import EMSSHD.Server.Sftp.Flow
import EMSSHD.Server.Sftp.Walk
import EMSSHD.Sftp.Response

namespace EMSSHD

open Call

section
variable (C : CryptoApi) (K : KexCrypto)

lemma sendProtected_fails (payload : Bytes) : Fails (·≠.notFound) (sendProtected C payload) := by
  refine .bind (.modify _) fun _ => .bind .get fun _ => .bindStatus ?_ fun _ hr =>
    .bind (.modify _) fun _ => .lift hr
  intro s e he
  have h := sendProtectedPayload_spec C payload (s.1.transport,s.2)
  rw [Ensures,show ((sshTransportSendProtectedPayload C payload).run (s.1.transport,s.2)).1=
    .error e from he] at h
  exact h.1

/-- The protected transport as the link under the channels of a session. -/
def transportLink : LinkApi Peer where
  recv := receiveProtected C
  send := sendProtected C
  rekey := sshTransportHandlePeerRekey C K
  send_error payload k e _ h := sendProtected_fails C payload k e (congrArg Prod.fst h)
end

section
variable {κ σ : Type} (L : LinkApi κ) (fs : Option (FsApi σ)) (policy : Option (SftpPolicy σ))
  (world : σ)

/-- The SFTP server under a channel. It writes its response into the packet buffer of
ssh_server_process_sftp_channel_data; the policy that sftp_server_session_set_policy
stores is a parameter. -/
def sftpChannelServer : SftpServer (SftpServerSession×σ) where
  hasFs := fs.isSome
  zeroed := (⟨0,fun _ => none⟩,world)
  sessionInit := .ok (sftpServerSessionInit,world)
  setPolicy := policy.map fun _ => .ok
  handlePacket packet := ⟨fun s =>
    let r := (sftpServerHandlePacket fs policy packet emsshMaxPacketSize).run ⟨s.1,s.2,[]⟩
    (r.1,(r.2.session,r.2.world))⟩
  handle_error packet s e t h := by
    rcases hr : (sftpServerHandlePacket fs policy packet emsshMaxPacketSize).run ⟨s.1,s.2,[]⟩
      with ⟨r,u⟩
    simp only [hr] at h
    obtain rfl : r=.error e := congrArg Prod.fst h
    obtain ⟨_,answer,-,-,-,-,he | ⟨-,-,he⟩⟩ := handlePacket_served.of_eq hr
    · exact SftpAnswer.encode_error he.symm
    · cases he
      decide

def Event.exchange? : Event → Option (Bytes×Bytes)
  | .handled packet response => some (packet,response)
  | _ => none

def SftpExchange.answered? (x : SftpExchange) : Option (Bytes×Bytes) :=
  match x.result with
  | .ok response => some (x.request,response)
  | .error _ => none

/-- The SFTP session of the channel is one that packets lead to, and the packets it has
answered are those that the channel has handled. -/
def Hosted (s : SftpState κ (SftpServerSession×σ)) : Prop :=
  ∃ past,SftpSessionRun fs policy world past s.2.sftp.1 s.2.sftp.2 ∧
    s.1.trace.filterMap Event.exchange?=past.filterMap SftpExchange.answered?

variable {fs policy world}

lemma Hosted.of_eq {s t : SftpState κ (SftpServerSession×σ)} (h : Hosted fs policy world s)
    (ht : t.1.trace.filterMap Event.exchange?=s.1.trace.filterMap Event.exchange?)
    (hs : t.2.sftp=s.2.sftp) : Hosted fs policy world t := by
  obtain ⟨past,hr,hp⟩ := h
  exact ⟨past,by rwa [hs],ht.trans hp⟩

lemma hosted_onFst {α : Type} {c : Call (Conn κ) Err α} {P : Except Err α → List Event → Prop}
    (hc : Emits Conn.trace c P) (hn : ∀ r evs,P r evs → ∀ e∈evs,e.exchange?=none) :
    Keeps (Hosted fs policy world) (Call.onFst c) := by
  intro s hs
  obtain ⟨evs,ht,hp⟩ := hc s.1
  apply hs.of_eq
  · show (c.run s.1).2.trace.filterMap _=_
    rw [ht,filterMap_append,filterMap_eq_nil_iff.mpr (hn _ evs hp),append_nil]
  · rfl

lemma sendMessage_unhandled (m : ServerMessage) :
    Emits Conn.trace (sendMessage L m) fun _ evs => ∀ e∈evs,e.exchange?=none := by
  apply (sendMessage_emits L m).mono
  intro r evs h e he
  cases r with
  | ok _ =>
    obtain rfl := h
    rw [mem_singleton.mp he]
    rfl
  | error _ =>
    rw [h.1] at he
    cases he

lemma DataOut.unhandled {client maxPacket : Nat} {data : Bytes} {r : Except Err Unit}
    {evs : List Event} (h : DataOut client maxPacket data r evs) : ∀ e∈evs,e.exchange?=none := by
  intro e he
  obtain ⟨bytes,rfl,_⟩ := h.sends e he
  rfl

lemma Skimmed.unhandled {evs : List Event} (h : Skimmed evs) : ∀ e∈evs,e.exchange?=none := by
  intro e he
  rcases h e he with ⟨payload,rfl,_⟩ | ⟨m,rfl,_⟩
  · rfl
  · rfl

lemma hosted_receive (cap : Nat) :
    Keeps (Hosted fs policy world) (Call.onFst (sshTransportReceiveChannelMessage L cap)) := by
  have hm {m : ChannelMessage} {evs : List Event} (h : SkimsTo (.ok m) evs) :
      ∀ e∈evs,e.exchange?=none := by
    obtain ⟨skim,payload,rfl,hs,_⟩ := h
    exact forall_mem_append.mpr ⟨hs.unhandled,by simp [Event.exchange?]⟩
  apply hosted_onFst (receiveChannelMessage_emits L cap)
  intro r evs h
  cases r with
  | ok m => exact hm h
  | error e =>
    rcases h with h | ⟨_,m,h⟩
    · exact h.unhandled
    · exact hm h

lemma hosted_handle (packet : Bytes) : Keeps (Hosted fs policy world)
    (handleSftpPacket (sftpChannelServer fs policy world) packet :
      Call (SftpState κ (SftpServerSession×σ)) Err Bytes) := by
  rintro s ⟨past,hr,hp⟩
  rcases h : (sftpServerHandlePacket fs policy packet emsshMaxPacketSize).run
    ⟨s.2.sftp.1,s.2.sftp.2,[]⟩ with ⟨e | response,t⟩
  all_goals
    have hn := hr.packet packet emsshMaxPacketSize h
    refine ⟨_,by simpa only [handleSftpPacket,sftpChannelServer,h] using hn,?_⟩
    simp only [handleSftpPacket,sftpChannelServer,h,filterMap_append,hp]
  · exact (append_nil _).symm
  · rfl

lemma hostedSteps : SftpSteps L (sftpChannelServer fs policy world)
    fun _ (s : SftpState κ (SftpServerSession×σ)) _ t =>
      Hosted fs policy world s → Hosted fs policy world t where
  toComposes := composes_keeps _
  change hc h := h.of_eq rfl (congrArg SftpChannel.sftp hc :)
  notice _ s _ := hosted_onFst (sendMessage_unhandled L _) (fun _ _ h => h) s
  data client bytes := hosted_onFst (sendChannelData_out L client 0 bytes (absurd rfl))
    fun _ _ h => h.unhandled
  response client maxPacket bytes := hosted_onFst
    (sendResponseLoop_out L client maxPacket _ bytes le_rfl) fun _ _ h => h.unhandled
  handle := hosted_handle

lemma hosted_data (data : Bytes) : Keeps (Hosted fs policy world)
    (processSftpData L (sftpChannelServer fs policy world) data) := by
  refine .bind .get fun _ => .bind (.require _ _) fun _ => .bind (.modify fun _ h => h.of_eq rfl rfl)
    fun _ => .bind ?_ fun _ => .bind ?_ fun _ => (hostedSteps L).serveSftp
  · refine .bind .get fun s => .bind (.require _ _) fun _ => .ite (.pure ()) ?_
    refine .bind ?_ fun _ => .modify fun _ h => h.of_eq rfl rfl
    exact hosted_onFst (.bindRequire (fun _ => sendMessage_unhandled L _) fun _ => forall_mem_nil _)
      fun _ _ h => h
  · intro s hs
    unfold appendRx
    dsimp only
    split_ifs
    · exact hs.of_eq rfl rfl
    · exact hs.of_eq (by simp [Event.exchange?]) rfl

lemma hosted_process : Keeps (Hosted fs policy world)
    (sshServerProcessSftpChannelData L (sftpChannelServer fs policy world)) := by
  refine .bind .get fun _ => .bind (.require _ _) fun _ => .bind (hosted_receive L _).status
    fun received => ?_
  cases received with
  | ok message =>
    exact fun s => (hostedSteps L).processSftpMessage message s id fun _ _ => hosted_data L _ s
  | error e => exact .ite (hostedSteps L).processSftpTimeout (.fail e)

variable (C : CryptoApi) (K : KexCrypto)

/-- The SFTP server behind a channel of the protected transport, from a new session on:
the streams are kept, and the responses among them are the answers of an SFTP session to
the packets of the client, in order. -/
theorem sftpStack_answers {s t : SftpState Peer (SftpServerSession×σ)}
    (hr : SftpRun (transportLink C K) (sftpChannelServer fs policy world) s t)
    (hs : s.2.sftp=(sftpServerSessionInit,world)) (ht : s.1.trace=[]) :
    (∃ evs,StreamsKept s t evs) ∧ Hosted fs policy world t := by
  refine ⟨sftpRun_kept hr,?_⟩
  refine hr.invariant (Hosted fs policy world) ⟨[],?_,?_⟩ fun u r v hu hc _ => ?_
  · rw [hs]
    exact .start
  · rw [ht]
    rfl
  · have hk := hosted_process (transportLink C K) u hu
    rwa [hc] at hk
end

end EMSSHD
