import EMSSHD.Core.Transport.Net
import EMSSHD.Math.Text

namespace EMSSHD

def emsshMaxIdentificationLine : Nat := 255

/-- ssh_identification_t -/
structure Identification where
  raw : StringView
  protocolVersion : StringView
  softwareVersion : StringView
  comments : StringView
  deriving DecidableEq

def isSpace (c : UInt8) : Bool := c=32
def isIdentChar (c : UInt8) : Bool := 0x20≤c && c≤0x7e

/-- The first raw_len bytes of the line. -/
def identificationRaw (text : Bytes) : Bytes :=
  if 2≤text.length ∧ text[text.length-2]? = some 13 ∧ text[text.length-1]? = some 10 then
    text.take (text.length-2)
  else if 1≤text.length ∧ text[text.length-1]? = some 10 then text.take (text.length-1)
  else text

def sshIdentificationParseLine : StringView → Except Err Identification
  | none => .error .invalidArgument
  | some line => do
    let raw := identificationRaw line
    checkThat (raw.length≠0 ∧ raw.length≤emsshMaxIdentificationLine) .malformedPacket
    checkThat (raw.all isIdentChar=true) .malformedPacket
    checkThat (8≤raw.length ∧ raw.take 4=cstr "SSH-") .malformedPacket
    -- a space in front of the dash ends the first loop with an error
    let protocol := (raw.drop 4).takeWhile (·≠45)
    checkThat (protocol.any isSpace=false) .malformedPacket
    let dashed := (raw.drop 4).dropWhile (·≠45)
    checkThat (protocol≠[] ∧ dashed≠[]) .malformedPacket
    let rest := dashed.drop 1
    let software := rest.takeWhile (!isSpace ·)
    checkThat (software≠[]) .malformedPacket
    let comments := (rest.dropWhile (!isSpace ·)).drop 1
    .ok ⟨some raw,some protocol,some software,if comments=[] then none else some comments⟩

/-- A line, and its text in front of CR LF, of LF alone, or of nothing. -/
def LineText (line raw : Bytes) : Prop :=
  line=raw++[13,10] ∨ (line=raw++[10] ∧ raw.getLast?≠some 13) ∨ (line=raw ∧ raw.getLast?≠some 10)

def identificationText (protocol software : Bytes) (comments : Option Bytes) : Bytes :=
  cstr "SSH-"++protocol++[45]++software++(comments.map (32::·)).getD []

/-- A text that is an identification with the given parts. -/
structure IdentificationForm (raw protocol software : Bytes) (comments : Option Bytes) : Prop where
  text : raw=identificationText protocol software comments
  long : 8≤raw.length
  short : raw.length≤255
  printable : ∀ c∈raw,0x20≤c ∧ c≤0x7e
  protocol_nonempty : protocol≠[]
  protocol_dash : 45∉protocol
  protocol_space : 32∉protocol
  software_nonempty : software≠[]
  software_space : 32∉software

def Identification.joined (ident : Identification) : Bytes :=
  identificationText (ident.protocolVersion.getD []) (ident.softwareVersion.getD []) ident.comments

variable {line raw protocol software rest : Bytes} {comments : Option Bytes}

lemma identificationRaw_crlf (raw : Bytes) : identificationRaw (raw++[13,10])=raw := by
  have hl : (raw++[13,10]).length=raw.length+2 := by simp
  unfold identificationRaw
  rw [hl,if_pos]
  · simp
  · simp

lemma identificationRaw_lf (h : raw.getLast?≠some 13) : identificationRaw (raw++[10])=raw := by
  have hl : (raw++[10]).length=raw.length+1 := by simp
  unfold identificationRaw
  rw [hl,if_neg,if_pos]
  · simp
  · simp
  rintro ⟨hln,hcr,-⟩
  refine h ?_
  rw [List.getLast?_eq_getElem?]
  rwa [List.getElem?_append_left (by omega),show raw.length+1-2=raw.length-1 by omega] at hcr

lemma identificationRaw_plain (h : raw.getLast?≠some 10) : identificationRaw raw=raw := by
  rw [List.getLast?_eq_getElem?] at h
  unfold identificationRaw
  rw [if_neg fun he => h he.2.2,if_neg fun he => h he.2]

lemma identificationRaw_iff : identificationRaw line=raw ↔ LineText line raw := by
  constructor
  · rintro rfl
    rcases List.eq_nil_or_concat' line with rfl | ⟨front,last,rfl⟩
    · exact .inr (.inr ⟨rfl,by decide⟩)
    by_cases hl : last=10
    · subst hl
      by_cases hcr : front.getLast?=some 13
      · obtain ⟨before,rfl⟩ := List.getLast?_eq_some_iff.mp hcr
        rw [append_assoc,singleton_append,identificationRaw_crlf]
        exact .inl rfl
      rw [identificationRaw_lf hcr]
      exact .inr (.inl ⟨rfl,hcr⟩)
    have he : (front++[last]).getLast?≠some 10 := by simpa using hl
    rw [identificationRaw_plain he]
    exact .inr (.inr ⟨rfl,he⟩)
  rintro (rfl | ⟨rfl,h⟩ | ⟨rfl,h⟩)
  · exact identificationRaw_crlf raw
  · exact identificationRaw_lf h
  · exact identificationRaw_plain h

lemma isIdentChar_all : raw.all isIdentChar=true ↔ ∀ c∈raw,0x20≤c ∧ c≤0x7e := by
  simp [isIdentChar]

lemma isSpace_any : raw.any isSpace=false ↔ 32∉raw := by
  simp only [isSpace,List.any_eq_false,decide_eq_true_eq]
  exact ⟨fun h hm => h 32 hm rfl,fun h c hc he => h (he ▸ hc)⟩

lemma protocol_scan (rest : Bytes) (hd : 45∉protocol) :
    (protocol++45::rest).takeWhile (·≠45)=protocol ∧
      (protocol++45::rest).dropWhile (·≠45)=45::rest := by
  have hp : ∀ c∈protocol,decide (c≠45)=true := by
    intro c hc
    have hne : c≠45 := fun he => hd (he ▸ hc)
    simpa using hne
  exact ⟨Text.takeWhile_append_stop hp (by simp),Text.dropWhile_append_stop hp (by simp)⟩

lemma software_scan (hsp : 32∉software) (comments : Option Bytes) :
    (software++(comments.map (32::·)).getD []).takeWhile (!isSpace ·)=software ∧
      (software++(comments.map (32::·)).getD []).dropWhile (!isSpace ·)=
        (comments.map (32::·)).getD [] := by
  have hp : ∀ c∈software,(!isSpace c)=true := by
    intro c hc
    have hne : c≠32 := fun he => hsp (he ▸ hc)
    simpa [isSpace] using hne
  have hs : ∀ c∈((comments.map (32::·)).getD []).head?,(!isSpace c)=false := by
    cases comments with
    | none => simp
    | some text => simp [isSpace]
  exact ⟨Text.takeWhile_append_stop hp hs,Text.dropWhile_append_stop hp hs⟩

lemma identificationText_eq (protocol software : Bytes) (comments : Option Bytes) :
    identificationText protocol software comments=
      cstr "SSH-"++(protocol++45::(software++(comments.map (32::·)).getD [])) := by
  simp [identificationText]

lemma IdentificationForm.of_scan (comments : Option Bytes) {behind : Bytes}
    (ht : raw=cstr "SSH-"++behind)
    (hl : 8≤raw.length) (hsh : raw.length≤255) (hp : ∀ c∈raw,0x20≤c ∧ c≤0x7e)
    (hsp : 32∉behind.takeWhile (·≠45)) (hpr : behind.takeWhile (·≠45)≠[])
    (hd : behind.dropWhile (·≠45)=45::rest) (hs : rest.takeWhile (!isSpace ·)≠[])
    (hc : rest.dropWhile (!isSpace ·)=(comments.map (32::·)).getD []) :
    IdentificationForm raw (behind.takeWhile (·≠45)) (rest.takeWhile (!isSpace ·)) comments := by
  have hb : behind.takeWhile (·≠45)++behind.dropWhile (·≠45)=behind := takeWhile_append_dropWhile
  have hr : rest.takeWhile (!isSpace ·)++rest.dropWhile (!isSpace ·)=rest :=
    takeWhile_append_dropWhile
  have hds : 45∉behind.takeWhile (·≠45) := by
    intro hm
    simpa using (Text.scan_cases (·≠45) behind).1 45 hm
  have hw : 32∉rest.takeWhile (!isSpace ·) := by
    intro hm
    simpa [isSpace] using (Text.scan_cases (!isSpace ·) rest).1 32 hm
  refine ⟨?_,hl,hsh,hp,hpr,hds,hsp,hs,hw⟩
  rw [identificationText_eq,← hc,hr,← hd,hb,ht]

lemma IdentificationForm.of_parse {ident : Identification}
    (h : sshIdentificationParseLine (some line)=.ok ident) :
    ∃ raw protocol software comments,LineText line raw ∧
      IdentificationForm raw protocol software comments ∧
      ident=⟨some raw,some protocol,some software,comments.filter (·≠[])⟩ := by
  simp only [sshIdentificationParseLine,checkThat_bind_eq_ok,isIdentChar_all,isSpace_any] at h
  obtain ⟨⟨-,hsh⟩,hp,⟨hl,hm⟩,hsp,⟨hpr,hd⟩,hs,hi⟩ := h
  have ht : identificationRaw line=cstr "SSH-"++(identificationRaw line).drop 4 := by
    rw [← hm,take_append_drop]
  have hst := (Text.scan_cases (·≠45) ((identificationRaw line).drop 4)).2
  obtain ⟨c,rest,hr,hc⟩ := hst.resolve_left hd
  obtain rfl : c=45 := by simpa using hc
  rw [hr,drop_one,tail_cons] at hs hi
  rcases (Text.scan_cases (!isSpace ·) rest).2 with hn | ⟨c,text,hsm,hc⟩
  · have hf := IdentificationForm.of_scan none ht hl hsh hp hsp hpr hr hs hn
    refine ⟨_,_,_,none,identificationRaw_iff.mp rfl,hf,?_⟩
    simpa [hn] using hi.symm
  obtain rfl : c=32 := by simpa [isSpace] using hc
  have hf := IdentificationForm.of_scan (some text) ht hl hsh hp hsp hpr hr hs hsm
  refine ⟨_,_,_,some text,identificationRaw_iff.mp rfl,hf,?_⟩
  rw [hsm] at hi
  simpa [Option.filter] using hi.symm

lemma IdentificationForm.parse (h : IdentificationForm raw protocol software comments)
    (hl : LineText line raw) : sshIdentificationParseLine (some line)=
      .ok ⟨some raw,some protocol,some software,comments.filter (·≠[])⟩ := by
  have hdr : raw.drop 4=protocol++45::(software++(comments.map (32::·)).getD []) := by
    rw [h.text,identificationText_eq,drop_left' (by decide)]
  have ht : raw.take 4=cstr "SSH-" := by rw [h.text,identificationText_eq,take_left' (by decide)]
  obtain ⟨hp,hd⟩ := protocol_scan (software++(comments.map (32::·)).getD []) h.protocol_dash
  obtain ⟨hs,hc⟩ := software_scan h.software_space comments
  have hln := h.long
  simp only [sshIdentificationParseLine,checkThat_bind_eq_ok,isIdentChar_all,isSpace_any,
    identificationRaw_iff.mpr hl,hdr,hp,hd,drop_one,tail_cons,
    hs,hc]
  refine ⟨⟨by omega,h.short⟩,h.printable,⟨hln,ht⟩,h.protocol_space,
    ⟨h.protocol_nonempty,cons_ne_nil _ _⟩,h.software_nonempty,?_⟩
  cases comments with
  | none => rfl
  | some text => cases text <;> rfl

lemma IdentificationForm.joined (h : IdentificationForm raw protocol software comments) :
    raw=identificationText protocol software (comments.filter (·≠[])) ∨
      comments.filter (·≠[])=none ∧ raw=identificationText protocol software none++[32] := by
  rw [h.text]
  rcases comments with _ | text
  · exact .inl rfl
  cases text with
  | nil => exact .inr ⟨rfl,by simp [identificationText]⟩
  | cons c text => exact .inl rfl

/-- The parser accepts the identification lines, and returns their parts. -/
theorem sshIdentificationParseLine_grammar (line : Bytes) (ident : Identification) :
    (sshIdentificationParseLine (some line)=.ok ident ↔
      ∃ raw protocol software comments,LineText line raw ∧
        IdentificationForm raw protocol software comments ∧
        ident=⟨some raw,some protocol,some software,comments.filter (·≠[])⟩) ∧
    (sshIdentificationParseLine (some line)=.ok ident →
      ∃ raw,LineText line raw ∧ ident.raw=some raw ∧
        (raw=ident.joined ∨ ident.comments=none ∧ raw=ident.joined++[32])) := by
  refine ⟨⟨IdentificationForm.of_parse,?_⟩,fun h => ?_⟩
  · rintro ⟨raw,protocol,software,comments,hl,hf,rfl⟩
    exact hf.parse hl
  obtain ⟨raw,protocol,software,comments,hl,hf,rfl⟩ := IdentificationForm.of_parse h
  refine ⟨raw,hl,rfl,?_⟩
  rcases hf.joined with hsm | ⟨hn,hs⟩
  · exact .inl hsm
  refine .inr ⟨hn,?_⟩
  simp only [Identification.joined,Option.getD_some,hn]
  exact hs

end EMSSHD
