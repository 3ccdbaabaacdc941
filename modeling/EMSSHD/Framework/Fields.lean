import EMSSHD.Framework.Reader

namespace EMSSHD

def stringField (text : Bytes) : Bytes := beBytes 4 text.length++text

variable {later rest : Bytes} {as bs : List Bytes}

lemma stringField_append_inj {a b : Bytes} (ha : a.length<256^4) (hb : b.length<256^4)
    (h : stringField a++rest=stringField b++later) : a=b ∧ rest=later := by
  have hr := Reader.reads_string ha rest
  have hrd := Reader.reads_string hb later
  unfold stringField at h
  rw [h,hrd] at hr
  have hp := Option.some.inj hr
  exact ⟨(congrArg Prod.fst hp).symm,(congrArg Prod.snd hp).symm⟩

lemma stringFields_append_inj (hc : as.length=bs.length) (has : ∀ a∈as,a.length<256^4)
    (hbs : ∀ b∈bs,b.length<256^4) (h : as.flatMap stringField++rest=bs.flatMap stringField++later) :
    as=bs ∧ rest=later := by
  induction as generalizing bs with
  | nil =>
    obtain rfl := length_eq_zero_iff.mp hc.symm
    exact ⟨rfl,h⟩
  | cons a as ih =>
    rcases bs with _ | ⟨b,bs⟩
    · cases hc
    obtain ⟨ha,has⟩ := forall_mem_cons.mp has
    obtain ⟨hb,hbs⟩ := forall_mem_cons.mp hbs
    rw [flatMap_cons,flatMap_cons,append_assoc,append_assoc] at h
    obtain ⟨hfr,hl⟩ := stringField_append_inj ha hb h
    obtain ⟨hf,hr⟩ := ih (Nat.succ.inj hc) has hbs hl
    rw [hfr,hf]
    exact ⟨rfl,hr⟩

end EMSSHD
