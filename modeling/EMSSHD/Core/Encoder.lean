import EMSSHD.Core.Buffer
import EMSSHD.Framework.Fields

namespace EMSSHD

open Call

abbrev Encoder := Call SshBuffer Err Unit

def encodedBy (encoder : Encoder) (capacity : Nat) : Except Err Bytes :=
  match encoder.run (sshBufferInit (List.replicate capacity 0)) with
  | (.ok _,buffer) => .ok buffer.contents
  | (.error e,_) => .error e

/-- An encoder, from a buffer that holds w: what it appends when it succeeds, and
that its failures are never the retryable status. -/
def Appends (c : Encoder) (src : Bytes) : Prop :=
  ∀ b w cap,SshBuffer.Written b w cap →
    c.Ensures b (Call.Outcome (fun _ t => t.Written (w++src) cap) (fun e _ => e≠.notFound))

lemma appends_putRaw (src : Bytes) : Appends (putRaw src) src := by
  intro b w cap hb
  apply (putRaw_spec src hb).mono
  rintro (e | u) t h
  · have he : e=.bufferOverflow := h
    rw [he]
    exact nofun
  · exact h

variable {c d : Encoder} {s src t : Bytes} {p : Prop} {capacity : Nat}

lemma Appends.bind (hc : Appends c s) (hd : Appends d t) : Appends (c >>= fun _ => d) (s++t) := by
  intro b w cap hb
  apply Ensures.bind (hc b w cap hb)
  · intro _ b' hb'
    have h := hd b' (w++s) cap hb'
    rwa [append_assoc] at h
  intro e t he
  exact he

lemma Appends.require [Decidable p] (hc : Appends c s) :
    Appends (Call.require p .invalidArgument >>= fun _ => c) s := by
  intro b w cap hb
  apply bindRequire
  · intro _
    exact hc b w cap hb
  intro _
  exact nofun

lemma Appends.onlyIf [Decidable p] (hc : Appends c s) :
    Appends (Call.onlyIf p c) (if p then s else []) := by
  intro b w cap hb
  unfold Call.onlyIf
  split_ifs
  · exact hc b w cap hb
  rw [append_nil]
  exact Ensures.pure hb

lemma appends_putString (data : Bytes) :
    Appends (sshBufferPutString data) (beBytes 4 data.length++data) :=
  ((appends_putRaw (beBytes 4 data.length)).bind (appends_putRaw data)).require

lemma encodedBy_cases (capacity : Nat) (hc : Appends c src) :
    encodedBy c capacity=.ok src ∨ ∃ e,encodedBy c capacity=.error e ∧ e≠.notFound := by
  have hw := init_written (List.replicate capacity 0)
  have he := hc _ _ _ hw
  rw [encodedBy]
  rcases hr : c.run (sshBufferInit (List.replicate capacity 0)) with ⟨r,b⟩
  have hb := he.of_eq hr
  rcases r with e | u
  · exact .inr ⟨e,rfl,hb⟩
  left
  simp only
  rw [hb.contents]
  rfl

lemma Appends.encodedBy {out : Bytes} (hc : Appends c src) (h : encodedBy c capacity=.ok out) :
    out=src := by
  rcases encodedBy_cases capacity hc with hok | ⟨e,he,_⟩
  · rw [hok] at h
    exact (Except.ok.inj h).symm
  rw [he] at h
  exact nomatch h

/-- An encoder that succeeds under a condition only, and then appends src. -/
def AppendsWhen (p : Prop) (c : Encoder) (src : Bytes) : Prop :=
  ∀ b w cap,SshBuffer.Written b w cap →
    c.Ensures b (Call.Outcome (fun _ t => p ∧ t.Written (w++src) cap) fun _ _ => True)

section
variable {p q : Prop} {c d : Encoder} {s t : Bytes}

lemma Appends.when (h : Appends c s) : AppendsWhen True c s := by
  intro b w cap hb
  apply (h b w cap hb).mono
  intro r u hu
  cases r with
  | error e => trivial
  | ok _ => exact ⟨trivial,hu⟩

lemma AppendsWhen.bind (hc : AppendsWhen p c s) (hd : AppendsWhen q d t) :
    AppendsWhen (p ∧ q) (c >>= fun _ => d) (s++t) := by
  intro b w cap hb
  apply (hc b w cap hb).bind
  · intro _ b' hb'
    have hr := hd b' (w++s) cap hb'.2
    rw [append_assoc] at hr
    apply hr.mono
    intro r u hu
    cases r with
    | error e => trivial
    | ok _ => exact ⟨⟨hb'.1,hu.1⟩,hu.2⟩
  intro _ _ _
  trivial

lemma AppendsWhen.require [Decidable p] (e : Err) (hc : AppendsWhen q c s) :
    AppendsWhen (p ∧ q) (Call.require p e >>= fun _ => c) s := by
  intro b w cap hb
  apply bindRequire
  · intro hp
    apply (hc b w cap hb).mono
    intro r u hu
    cases r with
    | error e => trivial
    | ok _ => exact ⟨⟨hp,hu.1⟩,hu.2⟩
  intro _
  trivial

lemma AppendsWhen.weaken (hc : AppendsWhen p c s) (h : p → q) : AppendsWhen q c s := by
  intro b w cap hb
  apply (hc b w cap hb).mono
  intro r u hu
  cases r with
  | error e => trivial
  | ok _ => exact ⟨h hu.1,hu.2⟩

lemma appendsWhen_putString (data : Bytes) :
    AppendsWhen (data.length≤uint32Max) (sshBufferPutString data) (stringField data) := by
  have hb := (appends_putRaw (beBytes 4 data.length)).bind (appends_putRaw data)
  exact (hb.when.require _).weaken fun h => h.1

lemma AppendsWhen.encodedBy {out : Bytes} {capacity : Nat} (hc : AppendsWhen p c s)
    (h : encodedBy c capacity=.ok out) : p ∧ out=s := by
  have hi := init_written (List.replicate capacity 0)
  have hr := hc _ _ _ hi
  unfold EMSSHD.encodedBy at h
  rcases hb : c.run (sshBufferInit (List.replicate capacity 0)) with ⟨r,b⟩
  rw [hb] at h
  have hw := hr.of_eq hb
  rcases r with _ | _
  · cases h
  rw [← Except.ok.inj h]
  exact ⟨hw.1,hw.2.contents⟩
end

/-- An encoder that fails only for want of room. -/
structure Writes (c : Encoder) (src : Bytes) : Prop where
  appends : Appends c src
  fits : ∀ b w cap,SshBuffer.Written b w cap → w.length+src.length ≤ cap → ∃ t,c.run b=(.ok (),t)

lemma writes_pure : Writes (pure ()) [] where
  appends b w cap hb := by
    apply Ensures.pure
    rw [append_nil]
    exact hb
  fits b _ _ _ _ := ⟨b,rfl⟩

lemma writes_putRaw (src : Bytes) : Writes (putRaw src) src := by
  refine ⟨appends_putRaw src,?_⟩
  intro b w cap hb hr
  obtain ⟨t,ht,-⟩ := putRaw_written src hb hr
  exact ⟨t,ht⟩

lemma Writes.bind (hc : Writes c s) (hd : Writes d t) : Writes (c >>= fun _ => d) (s++t) := by
  refine ⟨hc.appends.bind hd.appends,?_⟩
  intro b w cap hb hr
  rw [length_append] at hr
  obtain ⟨b',hb'⟩ := hc.fits b w cap hb (by omega)
  have hw := (hc.appends b w cap hb).of_eq hb'
  obtain ⟨b'',hb''⟩ := hd.fits b' (w++s) cap hw (by rw [length_append]; omega)
  exact ⟨b'',(run_bind_ok hb').trans hb''⟩

lemma Writes.onlyIf [Decidable p] (hc : Writes c s) :
    Writes (Call.onlyIf p c) (if p then s else []) := by
  refine ⟨hc.appends.onlyIf,?_⟩
  intro b w cap hb hr
  unfold Call.onlyIf
  split_ifs at hr ⊢
  · exact hc.fits b w cap hb hr
  · exact ⟨b,rfl⟩

lemma Writes.require [Decidable p] (hp : p) (hc : Writes c s) :
    Writes (Call.require p .invalidArgument >>= fun _ => c) s := by
  refine ⟨hc.appends.require,?_⟩
  intro b w cap hb hr
  obtain ⟨t,ht⟩ := hc.fits b w cap hb hr
  exact ⟨t,(run_bind_ok (run_require_of _ b hp)).trans ht⟩

lemma writes_putString {data : Bytes} (hl : data.length≤uint32Max) :
    Writes (sshBufferPutString data) (beBytes 4 data.length++data) :=
  ((writes_putRaw (beBytes 4 data.length)).bind (writes_putRaw data)).require hl

lemma Writes.encodedBy (hc : Writes c src) (hr : src.length ≤ capacity) :
    encodedBy c capacity=.ok src := by
  have hi := init_written (List.replicate capacity 0)
  obtain ⟨t,ht⟩ := hc.fits _ _ _ hi (by simpa using hr)
  have hw := (hc.appends _ _ _ hi).of_eq ht
  unfold EMSSHD.encodedBy
  rw [ht]
  exact congrArg Except.ok hw.contents

lemma encodedBy_overflow (hc : Appends c src) (hl : capacity<src.length) :
    ∃ e,encodedBy c capacity=.error e := by
  rcases hr : EMSSHD.encodedBy c capacity with e | out
  · exact ⟨e,rfl⟩
  have hi := init_written (List.replicate capacity 0)
  unfold EMSSHD.encodedBy at hr
  split at hr
  case _ u b hb =>
    have hw := (hc _ _ _ hi).of_eq hb
    have hcn := congrArg List.length hw.contents
    have hs := hw.storage
    rw [SshBuffer.contents,length_take,nil_append] at hcn
    rw [length_replicate] at hs
    omega
  case _ => cases hr

end EMSSHD
