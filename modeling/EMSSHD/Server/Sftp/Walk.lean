import EMSSHD.Framework.Composes
import EMSSHD.Server.Sftp.Channel

namespace EMSSHD

open Call

variable {κ σ : Type}

/-- What serving a channel leaves alone. -/
def SftpChannel.fixed (c : SftpChannel σ) : SftpChannel σ :=
  {c with
    peerWindowSize := 0
    eofSent := false
    closeSent := false
    sftpRx := .empty
    sftpTxPending := .empty}

/-- A relation that holds of all that is done with a message to an SFTP channel, but for the
data that it may bring. -/
structure SftpSteps (L : LinkApi κ) (S : SftpServer σ)
    (R : (α : Type) → SftpState κ σ → Except Err α → SftpState κ σ → Prop) : Prop
    extends Composes (·≠.security) R where
  change : ∀ {s : SftpState κ σ} {c : SftpChannel σ},c.fixed=s.2.fixed → R Unit s (.ok ()) (s.1,c)
  notice : ∀ {m : ServerMessage} (client : Nat) (s : SftpState κ σ),
    m=.failure client ∨ m=.eof client ∨ m=.close client →
    (onFst (sendMessage L m)).Ensures s (R Unit s)
  data : ∀ client bytes s,
    (onFst (sshTransportSendChannelData L client bytes)).Ensures s (R Unit s)
  response : ∀ client maxPacket bytes s,
    (onFst (sendResponseLoop L client maxPacket bytes.length bytes)).Ensures s (R Unit s)
  handle : ∀ packet s,(handleSftpPacket S packet).Ensures s (R Bytes s)

variable {L : LinkApi κ} {S : SftpServer σ}
  {R : (α : Type) → SftpState κ σ → Except Err α → SftpState κ σ → Prop} (h : SftpSteps L S R)

namespace SftpSteps

include h

lemma maybeFlushPendingSftpResponse (s : SftpState κ σ) :
    (maybeFlushPendingSftpResponse L).Ensures s (R Unit s) := by
  have hl (rounds : Nat) (s : SftpState κ σ) : (flushLoop L rounds).Ensures s (R Unit s) := by
    induction rounds generalizing s with
    | zero => exact h.pure () s
    | succ rounds ih =>
      refine .bindGet (.ite (fun _ => ?_) fun _ => h.pure () s)
      exact h.bind (h.data _ _ s) fun _ t => h.bind (.modify (h.change rfl)) fun _ u => ih u
  exact .bindGet (h.bind (hl _ s) fun _ t => .bindGet (h.require (by decide)))

lemma serveSftp (s : SftpState κ σ) : (serveSftp L S).Ensures s (R Unit s) := by
  have hl (rounds : Nat) (s : SftpState κ σ) : (serveLoop L S rounds).Ensures s (R Unit s) := by
    induction rounds generalizing s with
    | zero => exact h.pure () s
    | succ rounds ih =>
      refine .bindGet (.ite (fun _ => h.pure () s) fun _ => h.bindRequire (by decide) fun _ =>
        .ite (fun _ => h.pure () s) fun _ => h.bind (h.handle _ s) fun response t =>
          h.bind (.modify (h.change rfl)) fun _ u => .ite (fun _ => h.bind ?_ fun _ =>
            h.maybeFlushPendingSftpResponse) fun _ => ?_)
      · unfold storePending
        split
        · exact .modify (h.change rfl)
        · exact h.fail (by decide) u
      · exact h.bind (h.response _ _ response u) fun _ v =>
          h.bind (.modify (h.change rfl)) fun _ => ih
  exact h.bind (h.maybeFlushPendingSftpResponse s) fun _ t => .bindGet (hl _ t)

lemma sendCloseOnce (s : SftpState κ σ) : (sendCloseOnce L).Ensures s (R Unit s) :=
  .bindGet (h.onlyIf (h.bind (h.notice s.2.clientChannel s (.inr (.inr rfl)))
    fun _ _ => .modify (h.change rfl)))

lemma processSftpMessage (m : ChannelMessage) (s : SftpState κ σ)
    (hv : R Unit s (.error .security) s)
    (hd : m.messageId=sshMsgChannelData → m.recipientChannel=s.2.serverChannel →
      (processSftpData L S (m.data.getD [])).Ensures s (R Unit s)) :
    (processSftpMessage L S m).Ensures s (R Unit s) := by
  refine .bindGet (.bindRequire (fun hr => .ite (fun _ => ?_) fun _ => .ite (fun _ => ?_) fun _ =>
    .ite (fun _ => ?_) fun _ => .ite (fun _ => ?_) fun _ => .ite (fun hid => hd hid hr) fun _ =>
    h.fail (by decide) s) fun _ => hv)
  · exact h.bind (.modify (h.change rfl)) fun _ t => h.onlyIf (h.serveSftp t)
  · exact h.onlyIf (h.notice s.2.clientChannel s (.inl rfl))
  · refine h.bind (.bindGet (h.onlyIf (h.bind ?_ fun _ t => .modify (h.change rfl)))) fun _ =>
      h.sendCloseOnce
    exact h.notice s.2.clientChannel s (.inr (.inl rfl))
  · exact h.bind (h.sendCloseOnce s) fun _ t => h.fail (by decide) t

lemma processSftpTimeout (s : SftpState κ σ) : (processSftpTimeout L S).Ensures s (R Unit s) :=
  .bindGet (.ite (fun _ => h.serveSftp s) fun _ =>
    .ite (fun _ => h.fail (by decide) s) fun _ => h.fail (by decide) s)
end SftpSteps

end EMSSHD
