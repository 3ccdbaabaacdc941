import EMSSHD.Core.Connection.Decode
import EMSSHD.Framework.Fields

namespace EMSSHD

open Call

section
variable {α ρ : Type}

/-- A getter that takes the encodings of the values that fit off its input, and nothing else. -/
structure Parses (get : Call SshBuffer Err α) (wire : α → Bytes) (Fits : α → Prop) : Prop where
  takes : ∀ b input,SshBuffer.Unread b input → get.Ensures b (Call.Outcome
    (fun a t => Fits a ∧ ∃ rest,input=wire a++rest ∧ t.Unread rest) fun _ _ => True)
  yields : ∀ b a rest,Fits a → SshBuffer.Unread b (wire a++rest) →
    ∃ t,get.run b=(.ok a,t) ∧ t.Unread rest

lemma parses_getRaw (n : Nat) : Parses (getRaw n) id (fun raw => raw.length=n) where
  takes b input hb := by
    apply bindGet
    apply bindRequire
    · intro hr
      rw [hb.remaining] at hr
      apply bindModify
      apply Ensures.pure
      rw [Outcome,hb.rest]
      refine ⟨by rw [length_take,Nat.min_eq_left hr],input.drop n,?_,hb.len,?_⟩
      · rw [id,take_append_drop]
      change b.data.drop (b.pos+n)=_
      rw [← drop_drop,hb.rest]
    intro _
    trivial
  yields b raw rest hrw hb := by
    rw [← hrw]
    exact getRaw_unread hb

variable {get : Call SshBuffer Err α} {wire : α → Bytes} {Fits : α → Prop}

lemma Parses.map {β : Type} (h : Parses get wire Fits) {f : α → β} {g : β → α} {Fits' : β → Prop}
    (hfg : ∀ a,Fits a → g (f a)=a ∧ Fits' (f a)) (hgf : ∀ b,Fits' b → f (g b)=b ∧ Fits (g b)) :
    Parses (get >>= fun a => pure (f a)) (fun b => wire (g b)) Fits' where
  takes b input hb := by
    apply (h.takes b input hb).bind
    · intro a t ht
      obtain ⟨hf,rest,hi,hr⟩ := ht
      obtain ⟨hbc,hft⟩ := hfg a hf
      refine ⟨hft,rest,?_,hr⟩
      rw [hbc]
      exact hi
    intro _ _ _
    trivial
  yields b a rest ha hb := by
    obtain ⟨hbc,hf⟩ := hgf a ha
    obtain ⟨t,hrn,ht⟩ := h.yields b (g a) rest hf hb
    refine ⟨t,?_,ht⟩
    rw [run_bind_ok hrn,hbc]
    rfl

lemma parses_getU8 : Parses sshBufferGetU8 (fun x => [x]) fun _ => True := by
  refine (parses_getRaw 1).map (g := fun x => [x]) ?_ ?_
  · intro raw hr
    obtain ⟨x,rfl⟩ := List.length_eq_one_iff.mp hr
    exact ⟨rfl,trivial⟩
  intro x _
  exact ⟨rfl,rfl⟩

lemma parses_word (n : Nat) :
    Parses (getRaw n >>= fun raw => pure (beValue raw)) (beBytes n) fun v => v<256^n := by
  refine (parses_getRaw n).map (g := beBytes n) ?_ ?_
  · intro raw hr
    have hlt := beValue_lt raw
    have hb := beBytes_beValue raw
    rw [hr] at hlt hb
    exact ⟨hb,hlt⟩
  intro v hv
  exact ⟨beValue_beBytes_of_lt n v hv,beBytes_length n v⟩

lemma parses_getU32 : Parses sshBufferGetU32 (beBytes 4) fun v => v<256^4 := parses_word 4
lemma parses_getU64 : Parses sshBufferGetU64 (beBytes 8) fun v => v<256^8 := parses_word 8

lemma parses_getBool :
    Parses sshBufferGetBool (fun flag => [if flag then 1 else 0]) fun _ => True where
  takes b input hb := by
    apply (parses_getU8.takes b input hb).bind
    · intro raw t ht
      obtain ⟨_,rest,hi,hr⟩ := ht
      apply bindRequire
      · intro hrw
        refine ⟨trivial,rest,?_,hr⟩
        rw [hi]
        rcases hrw with rfl | rfl <;> rfl
      intro _
      trivial
    intro _ _ _
    trivial
  yields b flag rest _ hb := by
    obtain ⟨t,hrn,ht⟩ := parses_getU8.yields b (if flag then 1 else 0) rest trivial hb
    refine ⟨t,?_,ht⟩
    rw [sshBufferGetBool,run_bind_ok hrn]
    cases flag <;> rfl

/-- A string view is never missing, and not longer than its length word can say. -/
def ViewFits (view : StringView) : Prop := ∃ data,view=some data ∧ data.length<256^4

lemma parses_getStringView :
    Parses sshBufferGetStringView (fun view => stringField (view.getD [])) ViewFits where
  takes b input hb := by
    apply (parses_getU32.takes b input hb).bind
    · intro len t ht
      obtain ⟨hln,rest,hi,hrs⟩ := ht
      apply ((parses_getRaw len).takes t rest hrs).bind
      · intro raw u hu
        obtain ⟨hr,later,hl,hun⟩ := hu
        refine ⟨⟨raw,rfl,hr ▸ hln⟩,later,?_,hun⟩
        rw [hi,hl,Option.getD_some,stringField,hr,append_assoc]
        rfl
      intro _ _ _
      trivial
    intro _ _ _
    trivial
  yields b view rest hv hb := by
    obtain ⟨data,rfl,hd⟩ := hv
    rw [Option.getD_some,stringField,append_assoc] at hb
    exact getStringView_unread hd hb

lemma Parses.readInto (h : Parses get wire Fits) {set : α → ρ → ρ} {b : SshBuffer} {input : Bytes}
    (r : ρ) (hb : b.Unread input) :
    (readInto get set).Ensures (b,r) (Outcome
      (fun _ t => ∃ a rest,Fits a ∧ input=wire a++rest ∧ t.1.Unread rest ∧ t.2=set a r)
      fun _ _ => True) := by
  have hg := Ensures.onFst (s := (b,r)) (h.takes b input hb)
  apply hg.bind
  · intro a t ht
    obtain ⟨⟨hf,rest,hi,hrs⟩,hr⟩ := ht
    exact ⟨a,rest,hf,hi,hrs,congrArg (set a) hr⟩
  intro _ _ _
  trivial
end

section
variable {α β : Type} {get : Call SshBuffer Err α} {f : α → Call SshBuffer Err β}
  {R : α → Bytes → Prop} {S : α → β → Bytes → Prop}

/-- A getter that takes the texts for its values off its input, where a value may have many. -/
structure Recognizes (get : Call SshBuffer Err α) (R : α → Bytes → Prop) : Prop where
  takes : ∀ b input,SshBuffer.Unread b input → get.Ensures b (Call.Outcome
    (fun a t => ∃ text rest,R a text ∧ input=text++rest ∧ t.Unread rest) fun _ _ => True)
  yields : ∀ b a text rest,R a text → SshBuffer.Unread b (text++rest) →
    ∃ t,get.run b=(.ok a,t) ∧ t.Unread rest

lemma Parses.recognizes {wire : α → Bytes} {Fits : α → Prop} (h : Parses get wire Fits) :
    Recognizes get (fun a text => Fits a ∧ text=wire a) where
  takes b input hb := by
    refine (h.takes b input hb).mono fun r t hr => ?_
    rcases r with _ | a
    · trivial
    obtain ⟨hf,rest,hi,ht⟩ := hr
    exact ⟨wire a,rest,⟨hf,rfl⟩,hi,ht⟩
  yields b a text rest ha hb := by
    rw [ha.2] at hb
    exact h.yields b a rest ha.1 hb

lemma recognizes_pure (a : α) : Recognizes (pure a) (fun x text => x=a ∧ text=[]) where
  takes b input hb := ⟨[],input,⟨rfl,rfl⟩,rfl,hb⟩
  yields b x text rest hx hb := by
    obtain ⟨rfl,rfl⟩ := hx
    exact ⟨b,rfl,hb⟩

lemma Recognizes.bind (hg : Recognizes get R) (hf : ∀ a,Recognizes (f a) (S a)) :
    Recognizes (get >>= f) (fun x text => ∃ a u v,text=u++v ∧ R a u ∧ S a x v) where
  takes b input hb := by
    refine .bind (hg.takes b input hb) (fun a t ht => ?_) fun _ _ _ => trivial
    obtain ⟨u,rest,hu,hi,hrs⟩ := ht
    refine ((hf a).takes t rest hrs).mono fun r t' hr => ?_
    rcases r with _ | x
    · trivial
    obtain ⟨v,behind,hv,hs,hbh⟩ := hr
    exact ⟨u++v,behind,⟨a,u,v,rfl,hu,hv⟩,by rw [hi,hs,append_assoc],hbh⟩
  yields b x text rest hx hb := by
    obtain ⟨a,u,v,rfl,hu,hv⟩ := hx
    rw [append_assoc] at hb
    obtain ⟨t,hru,ht⟩ := hg.yields b a u (v++rest) hu hb
    obtain ⟨t',hrn,ht'⟩ := (hf a).yields t x v rest hv ht
    exact ⟨t',by rw [run_bind_ok hru,hrn],ht'⟩

variable {p : Prop} {e : Err} {T : α → Bytes → Prop}

lemma Recognizes.require [Decidable p] {c : Unit → Call SshBuffer Err α}
    (hc : p → Recognizes (c ()) R) :
    Recognizes (Call.require p e >>= c) (fun a text => p ∧ R a text) where
  takes b input hb := by
    refine .bindRequire (fun hp => ?_) fun _ => trivial
    refine ((hc hp).takes b input hb).mono fun r t hr => ?_
    rcases r with _ | a
    · trivial
    obtain ⟨text,rest,hR,hi,ht⟩ := hr
    exact ⟨text,rest,⟨hp,hR⟩,hi,ht⟩
  yields b a text rest ha hb := by
    obtain ⟨t,hrn,ht⟩ := (hc ha.1).yields b a text rest ha.2 hb
    exact ⟨t,by rw [run_bind_ok (run_require_of e b ha.1),hrn],ht⟩

lemma Recognizes.ite [Decidable p] {c : Call SshBuffer Err α} (hg : Recognizes get R)
    (hc : Recognizes c T) :
    Recognizes (if p then get else c) (fun a text => if p then R a text else T a text) := by
  by_cases hp : p
  · simpa only [if_pos hp] using hg
  · simpa only [if_neg hp] using hc

lemma Recognizes.congr (hg : Recognizes get R) (h : ∀ a text,R a text ↔ T a text) :
    Recognizes get T := by
  have hRT : R=T := funext fun a => funext fun text => propext (h a text)
  rwa [← hRT]

lemma Recognizes.drained {get : Call SshBuffer Err α} (hg : Recognizes get R) {text : Bytes}
    {a : α} {b : SshBuffer} (hb : b.Unread text) :
    ((get >>= fun a => Call.get >>= fun b =>
      Call.require (sshBufferRemainingRead b=0) e >>= fun _ => pure a).run b).1=.ok a ↔
      R a text := by
  constructor
  · intro hok
    have hal : (get >>= fun a => Call.get >>= fun b =>
        Call.require (sshBufferRemainingRead b=0) e >>= fun _ => pure a).Ensures b
        (fun r _ => ∀ a,r=.ok a → R a text) := by
      refine .bind (hg.takes b text hb) (fun x t ht => ?_) fun e t _ a he => by cases he
      obtain ⟨u,rest,hu,hi,hr⟩ := ht
      refine .bindGet (.bindRequire (fun hen => ?_) fun _ a he => by cases he)
      intro a ha
      rw [hr.remaining,length_eq_zero_iff] at hen
      obtain rfl := Except.ok.inj ha
      rwa [hi,hen,append_nil]
    exact hal a hok
  intro hR
  obtain ⟨t,hrn,ht⟩ := hg.yields b a text [] hR (by rwa [append_nil])
  have hen : sshBufferRemainingRead t=0 := by rw [ht.remaining]; rfl
  rw [run_bind_ok hrn,run_bind_ok (run_get t),run_bind_ok (run_require_of e t hen)]
  rfl
end

lemma expectEnd_ends {ρ : Type} (e : Err) {b : SshBuffer} {input : Bytes} (r : ρ)
    (hb : b.Unread input) :
    (expectEnd e : Decoder ρ Unit).Ensures (b,r)
      (Outcome (fun _ t => input=[] ∧ t.2=r) fun _ _ => True) := by
  apply bindGet
  apply Ensures.require
  · intro he
    rw [hb.remaining] at he
    exact ⟨length_eq_zero_iff.mp he,rfl⟩
  intro _
  trivial

end EMSSHD
