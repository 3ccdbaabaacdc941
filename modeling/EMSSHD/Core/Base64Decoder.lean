import EMSSHD.Core.Status
import EMSSHD.Math.Base64

namespace EMSSHD

def base64Alphabet : Bytes :=
  cstr "ABCDEFGHIJKLMNOPQRSTUVWXYZabcdefghijklmnopqrstuvwxyz0123456789+/"

structure Base64State where
  acc : Nat := 0
  bits : Nat := 0
  out : Bytes := []
  sawPadding : Bool := false
  deriving DecidableEq

def decodeBase64Step (outCapacity : Nat) (s : Base64State) (ch : UInt8) :
    Except Err Base64State :=
  if ch=61 then .ok {s with sawPadding := true}
  else match base64Alphabet.idxOf? ch with
    | none => .error .malformedPacket
    | some value =>
      if s.sawPadding then .error .malformedPacket
      else
        let acc := (s.acc*64+value)%2^32
        let bits := s.bits+6
        if bits<8 then .ok {s with acc := acc,bits := bits}
        else if outCapacity ≤ s.out.length then .error .bufferTooSmall
        else .ok {s with
          acc := acc
          bits := bits-8
          out := s.out++[UInt8.ofNat (acc/2^(bits-8))] }

def Base64State.after (digits : List Nat) (padding : Nat) : Base64State where
  acc := Base64.value digits%2^32
  bits := 6*digits.length%8
  out := Base64.octets digits
  sawPadding := decide (0 < padding)

variable {ch : UInt8} {d : Nat}

lemma base64Alphabet_idxOf (h : base64Alphabet.idxOf? ch=some d) : d<64 ∧ ch≠61 := by
  obtain ⟨hd,hch,-⟩ := List.idxOf?_eq_some_iff.mp h
  have hm : ch∈base64Alphabet := hch ▸ List.getElem_mem hd
  have hp : (61 : UInt8)∉base64Alphabet := by decide
  exact ⟨hd,fun heq => hp (heq ▸ hm)⟩

variable {outCapacity : Nat}

lemma decodeBase64Step_padding (digits : List Nat) (padding : Nat) :
    decodeBase64Step outCapacity (.after digits padding) 61=.ok (.after digits (padding+1)) := by
  simp [decodeBase64Step,Base64State.after]

variable {digits more : List Nat} {n padding : Nat} {rest : Bytes}

lemma decodeBase64Step_digit (hch : base64Alphabet.idxOf? ch=some d)
    (hft : (Base64.octets digits).length≤outCapacity) :
    decodeBase64Step outCapacity (.after digits 0) ch=
      if (Base64.octets (digits++[d])).length≤outCapacity then .ok (.after (digits++[d]) 0)
      else .error .bufferTooSmall := by
  obtain ⟨hd,hne⟩ := base64Alphabet_idxOf hch
  have ha : (Base64.value digits%2^32*64+d)%2^32=Base64.value (digits++[d])%2^32 := by
    rw [Base64.value_snoc,Nat.add_mod,Nat.mod_mul_mod,← Nat.add_mod]
  have hl : (digits++[d]).length=digits.length+1 := by simp
  simp only [decodeBase64Step,if_neg hne,hch,Base64State.after]
  simp only [Nat.lt_irrefl,decide_false,Bool.false_eq_true,if_false,ha]
  by_cases hw : 6*digits.length%8+6<8
  · have hb : 6*(digits.length+1)%8=6*digits.length%8+6 := by omega
    rw [if_pos hw,Base64.octets_snoc_wait hd hw,if_pos hft,hl,hb]
  have hb : 6*(digits.length+1)%8=6*digits.length%8+6-8 := by omega
  have ho := Base64.octet_of_low (Base64.value (digits++[d]))
    (show 6*digits.length%8+6-8+8≤32 by omega)
  rw [if_neg hw,Base64.octets_snoc_emit hd (by omega),ho,hl,hb,length_append]
  by_cases hf : outCapacity≤(Base64.octets digits).length
  · rw [if_pos hf,if_neg (by simp; omega)]
  · rw [if_neg hf,if_pos (by simp; omega)]

/-- A text that the decoder reads, from where it is: letters with their digits, unless it has
seen padding, and then padding. -/
structure DecodesFrom (outCapacity : Nat) (digits : List Nat) (padding : Nat) (text : Bytes)
    (more : List Nat) (n : Nat) : Prop where
  text_eq : ∃ letters,text=letters ++ List.replicate n 61 ∧
    letters.map (base64Alphabet.idxOf? ·)=more.map some
  unpadded : 0 < padding → more=[]
  fits : (Base64.octets (digits ++ more)).length ≤ outCapacity

lemma DecodesFrom.padding_iff :
    DecodesFrom outCapacity digits padding (61::rest) more n ↔
      ∃ m,n=m+1 ∧ DecodesFrom outCapacity digits (padding+1) rest more m := by
  constructor
  · intro h
    obtain ⟨letters,ht,hdg⟩ := h.text_eq
    rcases letters with _ | ⟨ch,letters⟩
    · obtain ⟨m,rfl⟩ : ∃ m,n=m+1 := Nat.exists_eq_succ_of_ne_zero fun hn => by simp [hn] at ht
      have hmr : more=[] := by simpa using hdg.symm
      refine ⟨m,rfl,⟨[],?_,hdg⟩,fun _ => hmr,h.fits⟩
      simpa [List.replicate_succ] using ht
    have hch : ch=61 := by simpa using (List.cons.inj ht).1.symm
    rcases more with _ | ⟨d,more⟩
    · simp at hdg
    have hd := (List.cons.inj hdg).1
    exact absurd hch (base64Alphabet_idxOf hd).2
  intro h
  obtain ⟨m,rfl,hm⟩ := h
  have hmr := hm.unpadded (Nat.succ_pos padding)
  obtain ⟨letters,ht,hdg⟩ := hm.text_eq
  have hl : letters=[] := by simpa [hmr] using hdg
  refine ⟨⟨[],?_,by simp [hmr]⟩,fun _ => hmr,hm.fits⟩
  simpa [hl,List.replicate_succ] using ht

lemma DecodesFrom.letter_iff (hch : ch≠61) :
    DecodesFrom outCapacity digits padding (ch::rest) more n ↔
      padding=0 ∧ ∃ d later,more=d::later ∧ base64Alphabet.idxOf? ch=some d ∧
        DecodesFrom outCapacity (digits++[d]) 0 rest later n := by
  constructor
  · intro h
    obtain ⟨letters,ht,hdg⟩ := h.text_eq
    rcases letters with _ | ⟨letter,letters⟩
    · cases n with
      | zero => simp at ht
      | succ n => exact absurd (List.cons.inj ht).1 hch
    obtain ⟨rfl,hr⟩ := List.cons.inj ht
    rcases more with _ | ⟨d,later⟩
    · simp at hdg
    have hp : padding=0 := by
      by_contra hps
      cases h.unpadded (Nat.pos_of_ne_zero hps)
    obtain ⟨hd,hl⟩ := List.cons.inj hdg
    refine ⟨hp,d,later,rfl,hd,⟨letters,hr,hl⟩,fun h0 => absurd h0 (by omega),?_⟩
    simpa using h.fits
  intro h
  obtain ⟨rfl,d,later,rfl,hd,hl⟩ := h
  obtain ⟨letters,ht,hdg⟩ := hl.text_eq
  refine ⟨⟨ch::letters,by rw [ht]; rfl,by rw [map_cons,hd,hdg]; rfl⟩,
    fun h0 => absurd h0 (by omega),?_⟩
  simpa using hl.fits

lemma foldlM_decodeBase64Step_iff {text : Bytes} {s : Base64State}
    (hf : (Base64.octets digits).length≤outCapacity) :
    text.foldlM (decodeBase64Step outCapacity) (.after digits padding)=.ok s ↔
      ∃ more n,DecodesFrom outCapacity digits padding text more n ∧
        s=.after (digits++more) (padding+n) := by
  induction text generalizing digits padding with
  | nil =>
    constructor
    · intro h
      have hs : Base64State.after digits padding=s := Except.ok.inj h
      refine ⟨[],0,⟨⟨[],rfl,rfl⟩,fun _ => rfl,by simpa using hf⟩,?_⟩
      simpa using hs.symm
    intro h
    obtain ⟨more,n,hdc,rfl⟩ := h
    obtain ⟨letters,ht,hdt⟩ := hdc.text_eq
    obtain ⟨hl,hn⟩ := List.append_eq_nil_iff.mp ht.symm
    obtain rfl : n=0 := by simpa using hn
    obtain rfl : more=[] := by simpa [hl] using hdt
    simp
    rfl
  | cons ch rest ih =>
    rw [foldlM_cons]
    by_cases hch : ch=61
    · subst hch
      rw [decodeBase64Step_padding]
      simp only [DecodesFrom.padding_iff]
      refine (ih hf).trans ⟨fun h => ?_,fun h => ?_⟩
      · obtain ⟨more,n,hdc,rfl⟩ := h
        exact ⟨more,n+1,⟨n,rfl,hdc⟩,by rw [Nat.add_assoc,Nat.add_comm 1]⟩
      obtain ⟨more,_,⟨n,rfl,hdc⟩,rfl⟩ := h
      exact ⟨more,n,hdc,by rw [Nat.add_assoc,Nat.add_comm 1]⟩
    simp only [DecodesFrom.letter_iff hch]
    rcases hdg : base64Alphabet.idxOf? ch with _ | d
    · simp [decodeBase64Step,hch,hdg,bind,Except.bind]
    by_cases hp : padding=0
    · subst hp
      rw [decodeBase64Step_digit hdg hf]
      split_ifs with hr
      · refine (ih hr).trans ⟨fun h => ?_,fun h => ?_⟩
        · obtain ⟨later,n,hdc,rfl⟩ := h
          exact ⟨d::later,n,⟨rfl,d,later,rfl,rfl,hdc⟩,by simp⟩
        obtain ⟨_,n,⟨-,_,later,rfl,hd,hdc⟩,rfl⟩ := h
        cases hd
        exact ⟨later,n,hdc,by simp⟩
      constructor
      · intro h
        cases h
      intro h
      obtain ⟨_,n,⟨-,_,later,rfl,hd,hdc⟩,rfl⟩ := h
      cases hd
      exact absurd ((Base64.length_octets_le_append _ _).trans hdc.fits) hr
    have hps : 0<padding := Nat.pos_of_ne_zero hp
    simp [decodeBase64Step,hch,hdg,Base64State.after,hps,hp,bind,Except.bind]

end EMSSHD
