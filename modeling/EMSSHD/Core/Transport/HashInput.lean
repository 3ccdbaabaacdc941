import EMSSHD.Core.Transport.Exchange
import EMSSHD.Math.Mpint

namespace EMSSHD

lemma appendsWhen_putMpint (data : Bytes) :
    AppendsWhen ((mpintOf data).length≤uint32Max) (sshBufferPutMpintPositive data)
      (stringField (mpintOf data)) := by
  unfold sshBufferPutMpintPositive
  refine (AppendsWhen.require (q := (mpintOf data).length≤uint32Max) _ ?_).weaken And.right
  cases hd : data.dropWhile (·=0) with
  | nil =>
    have he : mpintOf data=[] := by simp only [mpintOf,significant,hd]
    rw [he]
    exact (appends_putRaw _).when.weaken fun _ => Nat.zero_le _
  | cons first rest =>
    by_cases ht : 128≤first
    · have hm : mpintOf data=0::first::rest := by
        simp only [mpintOf,significant,hd,if_pos ht]
      have hb := (appends_putRaw (beBytes 4 ((first::rest).length+1))).bind
        ((appends_putRaw [0]).bind (appends_putRaw (first::rest)))
      simp only [if_pos ht]
      rw [hm]
      exact (hb.when.require _).weaken fun h => h.1
    · have hm : mpintOf data=first::rest := by
        simp only [mpintOf,significant,hd,if_neg ht]
      simp only [if_neg ht]
      rw [hm]
      exact appendsWhen_putString _

def hashInputFields (s : KexSession) : List Bytes :=
  [s.clientIdentification,s.serverIdentification,
    s.clientKexinitPayload.take s.clientKexinitPayloadLen,
    s.serverKexinitPayload.take s.serverKexinitPayloadLen,
    s.serverHostKey,s.clientKexPublicKey,s.serverKexPublicKey,mpintOf s.sharedSecret]

lemma appendsWhen_exchangeHashInput (s : KexSession) :
    AppendsWhen (∀ field∈hashInputFields s,field.length≤uint32Max) (exchangeHashInputEncode s)
      ((hashInputFields s).flatMap stringField) := by
  have ha := (appendsWhen_putString s.clientIdentification).bind
    ((appendsWhen_putString s.serverIdentification).bind
    ((appendsWhen_putString (s.clientKexinitPayload.take s.clientKexinitPayloadLen)).bind
    ((appendsWhen_putString (s.serverKexinitPayload.take s.serverKexinitPayloadLen)).bind
    ((appendsWhen_putString s.serverHostKey).bind
    ((appendsWhen_putString s.clientKexPublicKey).bind
    ((appendsWhen_putString s.serverKexPublicKey).bind
    (appendsWhen_putMpint s.sharedSecret)))))))
  simpa [hashInputFields,exchangeHashInputEncode] using ha

lemma buildExchangeHashInput_ok {s t : Peer} {capacity : Nat} {out : Bytes}
    (h : (buildExchangeHashInput capacity).run s=(.ok out,t)) :
    out=(hashInputFields s.1).flatMap stringField ∧
      ∀ field∈hashInputFields s.1,field.length<256^4 := by
  have he : encodedBy (exchangeHashInputEncode s.1) capacity=.ok out := by
    rw [buildExchangeHashInput,Call.run_bind_ok (Call.run_get s)] at h
    exact congrArg Prod.fst h
  obtain ⟨hft,ho⟩ := (appendsWhen_exchangeHashInput s.1).encodedBy he
  refine ⟨ho,fun field hf => ?_⟩
  have hfi := hft field hf
  unfold uint32Max at hfi
  omega

/-- Two exchanges with the same input have the same transcript and the same secret, and the
secret stands in it as the one minimal mpint of its value. -/
theorem exchangeHashInput_injective {s t s' t' : Peer} {capacity capacity' : Nat} {out : Bytes}
    (hs : (buildExchangeHashInput capacity).run s=(.ok out,s'))
    (ht : (buildExchangeHashInput capacity').run t=(.ok out,t')) :
    (s.1.clientIdentification=t.1.clientIdentification ∧
      s.1.serverIdentification=t.1.serverIdentification ∧
      s.1.clientKexinitPayload.take s.1.clientKexinitPayloadLen=
        t.1.clientKexinitPayload.take t.1.clientKexinitPayloadLen ∧
      s.1.serverKexinitPayload.take s.1.serverKexinitPayloadLen=
        t.1.serverKexinitPayload.take t.1.serverKexinitPayloadLen ∧
      s.1.serverHostKey=t.1.serverHostKey ∧
      s.1.clientKexPublicKey=t.1.clientKexPublicKey ∧
      s.1.serverKexPublicKey=t.1.serverKexPublicKey ∧
      beValue s.1.sharedSecret=beValue t.1.sharedSecret) ∧
    ∃ transcript mpint,out=transcript++stringField mpint ∧
      transcript=(hashInputFields s.1).dropLast.flatMap stringField ∧
      IsMpint mpint (beValue s.1.sharedSecret) ∧
      (∀ other,IsMpint other (beValue s.1.sharedSecret) → other=mpint) ∧
      (beValue s.1.sharedSecret=0 → mpint=[]) := by
  obtain ⟨ho,hf⟩ := buildExchangeHashInput_ok hs
  obtain ⟨hot,hft⟩ := buildExchangeHashInput_ok ht
  have hsm : hashInputFields s.1=hashInputFields t.1 :=
    (stringFields_append_inj (by rfl) hf hft (congrArg (·++[]) (ho.symm.trans hot))).1
  have hm := mpintOf_isMpint s.1.sharedSecret
  constructor
  · simp only [hashInputFields,List.cons.injEq,and_true] at hsm
    obtain ⟨hci,hsi,hck,hsk,hh,hcp,hsp,hsc⟩ := hsm
    refine ⟨hci,hsi,hck,hsk,hh,hcp,hsp,?_⟩
    rw [← hm.value,hsc,(mpintOf_isMpint t.1.sharedSecret).value]
  refine ⟨_,mpintOf s.1.sharedSecret,?_,rfl,hm,fun other h => h.unique,mpintOf_zero⟩
  rw [ho]
  simp [hashInputFields]

def secretPeer (secret : Bytes) : Peer :=
  ({sshTransportSessionInit defaultNameLists [] with sharedSecret := secret},
    {incoming := [],reads := [],outgoing := [],writes := [],fills := none})

def secretInput : Bytes := List.replicate 28 0++[0,0,0,2,0,200]

/-- Zeros in front of a secret do not show. -/
theorem exchangeHashInput_injective_padded :
    ((buildExchangeHashInput 64).run (secretPeer [0,0,200])).1=.ok secretInput ∧
      ((buildExchangeHashInput 64).run (secretPeer [200])).1=.ok secretInput ∧
      beValue [0,0,200]=beValue [200] ∧
      ∃ transcript mpint,secretInput=transcript++stringField mpint ∧
        IsMpint mpint (beValue [0,0,200]) := by
  have hp : ((buildExchangeHashInput 64).run (secretPeer [0,0,200])).1=.ok secretInput := by
    decide +kernel
  have hsh : ((buildExchangeHashInput 64).run (secretPeer [200])).1=.ok secretInput := by
    decide +kernel
  obtain ⟨⟨_,_,_,_,_,_,_,hsc⟩,transcript,mpint,ho,_,hm,_⟩ :=
    exchangeHashInput_injective (Prod.ext hp rfl) (Prod.ext hsh rfl)
  exact ⟨hp,hsh,hsc,transcript,mpint,ho,hm⟩

end EMSSHD
