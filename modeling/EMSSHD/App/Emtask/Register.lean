import EMSSHD.App.Emtask.AuthorizedKeys
import EMSSHD.App.Emtask.Json

namespace EMSSHD.Emtask

open Text

/-- emtask_publickey_blob_algorithm_matches: the name in the blob is the one on the line. -/
def publickeyBlobAlgorithmMatches (blob algorithm : Bytes) : Bool :=
  4 ≤ blob.length && beValue (blob.take 4)=algorithm.length &&
    4+beValue (blob.take 4) ≤ blob.length && (blob.drop 4).take algorithm.length=algorithm

/-- emtask_parse_authorized_key_line; the buffer with the line, when it has been trimmed, and the
blob. -/
def parseAuthorizedKeyLine (line : Bytes) (blobCapacity : Nat) : Except Err (Bytes×Bytes) :=
  if 13∈line ∨ 10∈line then .error .invalidArgument
  else
    let p := trim line
    let algorithm := p.takeWhile (!isSpaceChar ·)
    let rest := p.dropWhile (!isSpaceChar ·)
    let token := (rest.dropWhile isSpaceChar).takeWhile (!isSpaceChar ·)
    if p=[] ∨ p.head?=some 35 then .error .invalidArgument
    else if authorizedKeyAlgorithm algorithm=false then .error .unsupported
    else if rest=[] then .error .invalidArgument
    else if token=[] then .error .invalidArgument
    else match decodeBase64Token token blobCapacity with
      | .error e => .error e
      | .ok blob =>
        if publickeyBlobAlgorithmMatches blob algorithm=true then .ok (trimmedBuffer line,blob)
        else .error .malformedPacket

/-- emtask_authorized_keys_has_blob -/
def authorizedKeysHasBlob (blob : Bytes) : Call (Option Bytes) Err Bool :=
  ⟨fun file => match authorizedKeysContains file blob with
    | .ok matched => (.ok matched,file)
    | .error .notFound => (.ok false,file)
    | .error e => (.error e,file)⟩

/-- emtask_authorized_keys_needs_separator; the last byte of a file that has one decides. -/
def authorizedKeysNeedsSeparator (content : Bytes) : Bool :=
  match content.getLast? with
  | none => false
  | some ch => ch≠10 && ch≠13

def withLine (content line : Bytes) : Bytes :=
  content ++ (if authorizedKeysNeedsSeparator content=true then [10] else []) ++ line ++ [10]

/-- emtask_authorized_keys_append_line; a file that there is not is made. -/
def authorizedKeysAppendLine (path line : Bytes) : Call (Option Bytes) Err Unit := do
  Call.require (path≠[] ∧ line≠[]) .invalidArgument
  Call.modify fun file => some (withLine (file.getD []) line)

def submittedKey (json : Bytes) : Except Err (Bytes×Bytes) := do
  let publicKeyLine ← jsonGetString (cString json) (cstr "public_key") 1024 true
  parseAuthorizedKeyLine (trimmedBuffer publicKeyLine) emsshMaxHostKeyBlob

def registeredJson (global : GlobalConfig) (matched : Bool) (outCapacity : Nat) : PanelBuffer :=
  let response := (panelBufferInit outCapacity).appendf (cstr "\x7b\"registered\":" ++
    (if matched then cstr "false" else cstr "true") ++ cstr ",\"already_present\":" ++
    (if matched then cstr "true" else cstr "false") ++ cstr ",\"username\":")
  ((((response.appendJsonString global.username).appendf
    (cstr ",\"authorized_keys_file\":")).appendJsonString global.authorizedKeysFile).appendf
    (cstr "\x7d\n"))

/-- emtask_panel_register_authorized_key_from_json, over the file that the configuration names -/
def registerAuthorizedKeyFromJson (global : GlobalConfig) (json : Bytes) (outCapacity : Nat) :
    Call (Option Bytes) Err Bytes := do
  Call.require (outCapacity≠0) .invalidArgument
  Call.require (global.username≠[]) .unsupported
  Call.require (global.authorizedKeysFile≠[]) .readOnly
  let (line,blob) ← Call.lift (submittedKey json)
  let matched ← authorizedKeysHasBlob blob
  Call.onlyIf (matched=false) (authorizedKeysAppendLine global.authorizedKeysFile line)
  let response := registeredJson global matched outCapacity
  Call.require (response.truncated=false) .bufferTooSmall
  pure response.text

section
/-- What a line must be for the reader to find one key on it. -/
structure SubmittedLine (line blob : Bytes) : Prop where
  newline : ∀ ch∈line,ch≠10
  nul : 0∉line
  short : line.length ≤ 1023
  fits : blob.length ≤ emsshMaxHostKeyBlob
  tokens : ∃ algorithm token after,words isSpaceCharLocal line=algorithm::token::after ∧
    isAuthorizedKeyAlgorithmToken algorithm=true ∧ TokenDecodes token blob

variable {line blob : Bytes}

lemma SubmittedLine.liveTokens (h : SubmittedLine line blob) :
    ∃ algorithm token after,liveTokens line=algorithm::token::after ∧
      isAuthorizedKeyAlgorithmToken algorithm=true ∧ TokenDecodes token blob := by
  obtain ⟨algorithm,token,after,hw,ha,hd⟩ := h.tokens
  have hf := (algorithm_live ha).1
  have hs := hd.head
  refine ⟨algorithm,token,after.takeWhile (·.head?≠some 35),?_,ha,hd⟩
  rw [EMSSHD.liveTokens,hw,takeWhile_cons_of_pos (by simpa using hf),
    takeWhile_cons_of_pos (by simpa using hs)]

lemma SubmittedLine.authorizes_iff (h : SubmittedLine line blob) (other : Bytes) :
    LineAuthorizes line other ↔ other=blob := by
  obtain ⟨algorithm,token,after,ht,ha,hd⟩ := h.liveTokens
  rw [lineAuthorizes_iff,blobToken_eq,ht,behindFirst_cons,if_pos ha]
  constructor
  · intro ho
    obtain ⟨_,htk,ho⟩ := ho
    cases htk
    exact ho.unique hd
  intro ho
  exact ⟨token,rfl,ho ▸ hd⟩

variable {text : Bytes}

lemma mem_trimmedBuffer {ch : UInt8} (h : ch∈trimmedBuffer text) : ch∈text := by
  rcases mem_append.mp h with hf | ht
  · exact takeWhile_subset _ hf
  have hm := ( List.rdropWhile_prefix _ _).subset ht
  exact (dropWhile_suffix _).subset hm

lemma length_trimmedBuffer_le (text : Bytes) : (trimmedBuffer text).length≤text.length := by
  have hs := congrArg List.length (takeWhile_append_dropWhile (p := isBlank) (l := text))
  have ht := ( List.rdropWhile_prefix isBlank (text.dropWhile isBlank)).length_le
  rw [length_append] at hs
  rw [trimmedBuffer,length_append,trim]
  omega

lemma words_trim (text : Bytes) : words isSpaceCharLocal (trim text)=words isSpaceCharLocal text :=
  (words_rdropWhile (text.dropWhile isBlank)).trans (words_dropWhile text)

lemma words_trimmedBuffer (text : Bytes) :
    words isSpaceCharLocal (trimmedBuffer text)=words isSpaceCharLocal text := by
  have hd : (trimmedBuffer text).dropWhile isBlank=(trim text).dropWhile isBlank := by
    have hb : ∀ ch∈text.takeWhile isBlank,isBlank ch=true := all_eq_true.mp all_takeWhile
    exact List.dropWhile_append_of_pos hb
  calc words isSpaceCharLocal (trimmedBuffer text)
      =words isSpaceCharLocal ((trimmedBuffer text).dropWhile isBlank) := (words_dropWhile _).symm
    _=words isSpaceCharLocal ((trim text).dropWhile isBlank) := by rw [hd]
    _=words isSpaceCharLocal (trim text) := words_dropWhile _
    _=words isSpaceCharLocal text := words_trim text

lemma parseAuthorizedKeyLine_ok {blobCapacity : Nat}
    (h : parseAuthorizedKeyLine text blobCapacity=.ok (line,blob)) :
    10∉text ∧ line=trimmedBuffer text ∧ blob.length≤blobCapacity ∧
      ∃ algorithm token after,words isSpaceCharLocal text=algorithm::token::after ∧
        isAuthorizedKeyAlgorithmToken algorithm=true ∧ TokenDecodes token blob := by
  unfold parseAuthorizedKeyLine at h
  extract_lets p algorithm rest token at h
  split_ifs at h with hen he ha hr ht
  rcases hd : decodeBase64Token token blobCapacity with _ | out
  · rw [hd] at h
    cases h
  rw [hd] at h
  simp only at h
  split_ifs at h
  cases h
  obtain ⟨hdc,hf⟩ := decodeBase64TokenLocal_iff.mp hd
  have hn : isAuthorizedKeyAlgorithmToken algorithm=true := Bool.eq_true_of_not_eq_false ha
  have hne : algorithm≠[] := by
    intro he
    rw [he] at hn
    cases hn
  refine ⟨fun hm => hen (.inr hm),rfl,hf,algorithm,token,
    words isSpaceCharLocal ((rest.dropWhile isSpaceChar).dropWhile (!isSpaceChar ·)),?_,
    hn,hdc⟩
  calc words isSpaceCharLocal text =words isSpaceCharLocal p := (words_trim text).symm
    _=algorithm::words isSpaceCharLocal rest := words_eq_cons_of_ne hne
    _=algorithm::words isSpaceCharLocal (rest.dropWhile isSpaceChar) :=
      congrArg (algorithm::·) (words_dropWhile rest).symm
    _=_ := congrArg (algorithm::·) (words_eq_cons_of_ne ht)

lemma submittedKey_ok {json : Bytes} (h : submittedKey json=.ok (line,blob)) :
    SubmittedLine line blob := by
  obtain ⟨text,ht,hp⟩ := except_bind_ok h
  obtain ⟨hnl,hl⟩ := jsonGetString_required_ok (cString_noNul json) (by decide) ht
  obtain ⟨hn,rfl,hf,algorithm,token,after,hw,ha,hd⟩ := parseAuthorizedKeyLine_ok hp
  have hsh := length_trimmedBuffer_le (trimmedBuffer text)
  have hs := length_trimmedBuffer_le text
  exact {
    newline := fun ch hch heq => hn (heq ▸ mem_trimmedBuffer hch)
    nul := fun hm => hnl (mem_trimmedBuffer (mem_trimmedBuffer hm))
    short := by omega
    fits := hf
    tokens := ⟨algorithm,token,after,(words_trimmedBuffer _).trans hw,ha,hd⟩}
end

section
def Accepts (file : Option Bytes) (blob : Bytes) : Prop := authorizedKeysContains file blob=.ok true

/-- The reader finds the key on a line, in one of the parts that fit its buffer. -/
def OnLine (line blob : Bytes) : Prop := ∃ piece∈pieces 1023 line,linePublickeyMatches piece blob=true

def lastLine (content : Bytes) : Bytes := (content.splitOnP (·=10)).getLastD []
def earlierLines (content : Bytes) : List Bytes := (content.splitOnP (·=10)).dropLast

def PlainText (text : Bytes) : Prop :=
  0∉text ∧ ∀ word∈words isSpaceCharLocal text,
    word.head?≠some 35 ∧ isAuthorizedKeyAlgorithmToken word=false

/-- What the last line of the file has behind the full parts that the reader cuts it into. -/
def lastPart (content : Bytes) : Bytes :=
  (lastLine content).drop (1023*((lastLine content).length/1023))

def NoNewKey (content blob part : Bytes) : Prop :=
  ∀ other,linePublickeyMatches part other=true → other=blob ∨ Accepts (some content) other

/-- The last part of the file and the new line, when they become one line. When they fit the
buffer of the reader, the old part must be plain. Otherwise the reader cuts the new line: the key
must be on one side of the cut, and no new key on the other. -/
def SeamHarmless (content line blob : Bytes) : Prop :=
  let room := 1023-(lastPart content).length
  let first := lastPart content++line.take room
  let second := line.drop room
  if second=[] then PlainText (lastPart content)
  else
    linePublickeyMatches first blob=true ∧ NoNewKey content blob second ∨
    linePublickeyMatches second blob=true ∧ NoNewKey content blob first

/-- The key is there, or the new line stands alone, or what it joins does no harm. -/
def AppendsCleanly (content line blob : Bytes) : Prop :=
  Accepts (some content) blob ∨ content.getLast?≠some 13 ∨ SeamHarmless content line blob

variable {content line blob : Bytes}

lemma accepts_iff (content blob : Bytes) :
    Accepts (some content) blob ↔ ∃ line∈content.splitOnP (·=10),OnLine line blob := by
  simp only [Accepts,OnLine,authorizedKeysContains_iff,linePublickeyMatches_iff]
  constructor
  · intro h
    obtain ⟨⟨line,hl,piece,hp,ha⟩,hln⟩ := h
    exact ⟨line,hl,piece,hp,ha,hln⟩
  intro h
  obtain ⟨line,hl,piece,hp,ha,hln⟩ := h
  exact ⟨⟨line,hl,piece,hp,ha⟩,hln⟩

lemma accepts_getD (file : Option Bytes) (blob : Bytes) :
    Accepts file blob ↔ Accepts (some (file.getD [])) blob := by
  cases file with
  | none =>
    have hl : containsLoop blob []=false := by
      rw [containsLoop_eq,segments_nil]
      rfl
    simp [Accepts,authorizedKeysContains,hl]
  | some content => rfl

lemma not_onLine_nil (blob : Bytes) : ¬OnLine [] blob := by
  simp [OnLine]

lemma onLine_iff_of_short (hs : line.length≤1023) (blob : Bytes) :
    OnLine line blob ↔ linePublickeyMatches line blob=true := by
  by_cases he : line=[]
  · subst he
    have hn : ¬LineAuthorizes (cString []) blob := not_lineAuthorizes_nil blob
    simp [not_onLine_nil,linePublickeyMatches_iff,hn]
  rw [OnLine,pieces_of_length_le he hs]
  simp

lemma matches_unique {part other : Bytes} (h : linePublickeyMatches part blob=true)
    (ho : linePublickeyMatches part other=true) : other=blob := by
  obtain ⟨token,ht,hd⟩ := lineAuthorizes_iff.mp ((linePublickeyMatches_iff _ _).mp h).1
  obtain ⟨token',ht',hd'⟩ := lineAuthorizes_iff.mp ((linePublickeyMatches_iff _ _).mp ho).1
  cases ht.symm.trans ht'
  exact hd'.unique hd

lemma SubmittedLine.onLine_iff (h : SubmittedLine line blob) (other : Bytes) :
    OnLine line other ↔ other=blob := by
  rw [onLine_iff_of_short h.short,linePublickeyMatches_iff,cString_eq_self h.nul,h.authorizes_iff]
  refine and_iff_left_of_imp fun heq => ?_
  rw [heq]
  exact h.fits

lemma lines_eq (content : Bytes) :
    content.splitOnP (·=10)=earlierLines content++[lastLine content] := splitOnP_eq_concat content

lemma accepts_lastLine (content blob : Bytes) : Accepts (some content) blob ↔
    (∃ l∈earlierLines content,OnLine l blob) ∨ OnLine (lastLine content) blob := by
  rw [accepts_iff,lines_eq]
  simp [or_and_right,exists_or]

lemma accepts_joined (hln : ∀ ch∈line,ch≠10) (content other : Bytes) :
    Accepts (some (content++line++[10])) other ↔
      (∃ l∈earlierLines content,OnLine l other) ∨ OnLine (lastLine content++line) other := by
  have hl : (content++line++[10]).splitOnP (·=10)=
      earlierLines content++[lastLine content++line]++[[]] := by
    rw [splitOnP_append_sep,splitOnP_append_line content hln]
    rfl
  rw [accepts_iff,hl]
  simp [or_and_right,exists_or,not_onLine_nil]

lemma accepts_separated (hln : ∀ ch∈line,ch≠10) (content other : Bytes) :
    Accepts (some (content++[10]++line++[10])) other ↔
      Accepts (some content) other ∨ OnLine line other := by
  have hl : (content++[10]++line++[10]).splitOnP (·=10)= content.splitOnP (·=10)++[line]++[[]] := by
    rw [splitOnP_append_sep,append_assoc content,singleton_append,splitOnP_append_sep,
      splitOnP_line hln]
    rfl
  rw [accepts_iff,accepts_iff,hl]
  simp [or_and_right,exists_or,not_onLine_nil]

lemma lastLine_newline (front : Bytes) : lastLine (front++[10])=[] := by
  rw [lastLine,splitOnP_append_sep,List.splitOnP_nil]
  simp

lemma lastLine_cr (front : Bytes) : ∃ before,lastLine (front++[13])=before++[13] := by
  refine ⟨lastLine front,?_⟩
  rw [lastLine,splitOnP_append_line front (by simp)]
  simp [lastLine]

variable {before : Bytes}

lemma words_joined (before line : Bytes) : words isSpaceCharLocal (before++[13]++line)=
    words isSpaceCharLocal (before++[13])++words isSpaceCharLocal line := by
  have hb : isSpaceCharLocal 13=true := rfl
  rw [append_assoc,singleton_append,words_append_blank before hb,words_append_last before hb]

lemma liveTokens_joined (hl : ∀ word∈words isSpaceCharLocal (before++[13]),word.head?≠some 35) :
    liveTokens (before++[13]++line)= words isSpaceCharLocal (before++[13])++liveTokens line := by
  rw [liveTokens,words_joined,List.takeWhile_append_of_pos fun word hw =>
    decide_eq_true (hl word hw)]
  rfl

lemma liveTokens_joined_comment
    (hc : ∃ word∈words isSpaceCharLocal (before++[13]),word.head?=some 35) :
    liveTokens (before++[13]++line)=liveTokens (before++[13]) := by
  obtain ⟨word,hw,hh⟩ := hc
  rw [liveTokens,words_joined,List.takeWhile_append,if_neg]
  · rfl
  intro hln
  have ha := ( List.takeWhile_prefix (l := words isSpaceCharLocal (before++[13]))
    (fun word : Bytes => decide (word.head?≠some 35))).eq_of_length hln
  have hl := List.takeWhile_eq_self_iff.mp ha word hw
  simp [hh] at hl

lemma liveTokens_plain (hl : ∀ word∈words isSpaceCharLocal before,word.head?≠some 35) :
    liveTokens before=words isSpaceCharLocal before :=
  List.takeWhile_eq_self_iff.mpr fun word hw => decide_eq_true (hl word hw)

lemma PlainText.joined (hp : PlainText (before++[13])) (text other : Bytes) :
    linePublickeyMatches (before++[13]++text) other=true ↔
      linePublickeyMatches text other=true := by
  obtain ⟨hn,hwr⟩ := hp
  rw [linePublickeyMatches_iff,linePublickeyMatches_iff,cString_append,if_neg hn,lineAuthorizes_iff,
    lineAuthorizes_iff,blobToken_eq,blobToken_eq,liveTokens_joined fun word hw => (hwr word hw).1,
    behindFirst_append_of_none fun word hw => (hwr word hw).2]

/-- What is written behind the blank at the end of a text does not take its key away. -/
lemma matches_joined {other : Bytes} (h : linePublickeyMatches (before++[13]) other=true)
    (text : Bytes) : linePublickeyMatches (before++[13]++text) other=true := by
  rw [linePublickeyMatches_iff] at h ⊢
  refine ⟨?_,h.2⟩
  rw [cString_append]
  split_ifs with hn
  · exact h.1
  rw [cString_eq_self hn] at h
  by_cases hc : ∃ word∈words isSpaceCharLocal (before++[13]),word.head?=some 35
  · rw [LineAuthorizes,liveTokens_joined_comment hc]
    exact h.1
  have hl : ∀ word∈words isSpaceCharLocal (before++[13]),word.head?≠some 35 :=
    fun word hw hh => hc ⟨word,hw,hh⟩
  obtain ⟨⟨front,algorithm,token,after,ht,hk⟩,-⟩ := h
  rw [liveTokens_plain hl] at ht
  refine ⟨front,algorithm,token,after++liveTokens (cString text),?_,hk⟩
  rw [liveTokens_joined hl,ht]
  simp

lemma plainText_of_matches (hsb : SubmittedLine line blob)
    (hnw : ¬linePublickeyMatches (before++[13]) blob=true)
    (h : linePublickeyMatches (before++[13]++line) blob=true) : PlainText (before++[13]) := by
  rw [linePublickeyMatches_iff] at hnw h
  obtain ⟨ha,hln⟩ := h
  have hold : ¬LineAuthorizes (cString (before++[13])) blob := fun hold => hnw ⟨hold,hln⟩
  have hn : 0∉before++[13] := by
    intro hm
    rw [cString_append,if_pos hm] at ha
    exact hold ha
  rw [cString_append,if_neg hn,cString_eq_self hsb.nul] at ha
  rw [cString_eq_self hn] at hold
  have hl : ∀ word∈words isSpaceCharLocal (before++[13]),word.head?≠some 35 := by
    intro word hw hc
    rw [lineAuthorizes_iff,blobToken_eq,liveTokens_joined_comment ⟨word,hw,hc⟩,← blobToken_eq,
      ← lineAuthorizes_iff] at ha
    exact hold ha
  refine ⟨hn,fun word hw => ⟨hl word hw,?_⟩⟩
  by_contra hk
  have hk : isAuthorizedKeyAlgorithmToken word=true := Bool.eq_true_of_not_eq_false hk
  rw [lineAuthorizes_iff,blobToken_eq,liveTokens_joined hl,
    behindFirst_append_of_some ⟨word,hw,hk⟩] at ha
  obtain ⟨token,ht,hd⟩ := ha
  cases hb : behindFirst isAuthorizedKeyAlgorithmToken (words isSpaceCharLocal (before++[13])) with
  | some inside =>
    rw [hb] at ht
    refine hold (lineAuthorizes_iff.mpr ⟨token,?_,hd⟩)
    rw [blobToken_eq,liveTokens_plain hl,hb]
    exact ht
  | none =>
    -- The word behind the old algorithm is the new one, and that is no key.
    obtain ⟨algorithm,_,_,htk,hal,-⟩ := hsb.liveTokens
    rw [hb,htk] at ht
    cases ht
    exact (algorithm_live hal).2 blob hd

lemma onLine_lastPart (content text other : Bytes) : OnLine (lastLine content++text) other ↔
    OnLine ((lastLine content).take (1023*((lastLine content).length/1023))) other ∨
      OnLine (lastPart content++text) other := by
  have hl : ((lastLine content).take (1023*((lastLine content).length/1023))).length=
      1023*((lastLine content).length/1023) := List.length_take_of_le (Nat.mul_div_le _ _)
  conv_lhs => rw [← take_append_drop (1023*((lastLine content).length/1023)) (lastLine content)]
  rw [append_assoc,OnLine,pieces_append (by decide) hl]
  simp [OnLine,lastPart,or_and_right,exists_or]

lemma lastPart_length (content : Bytes) : (lastPart content).length<1023 := by
  rw [lastPart,length_drop]
  omega

lemma lastPart_cr (hcr : content.getLast?=some 13) :
    lastPart content=[] ∨ ∃ before,lastPart content=before++[13] := by
  obtain ⟨front,rfl⟩ := List.getLast?_eq_some_iff.mp hcr
  obtain ⟨before,hl⟩ := lastLine_cr front
  rw [lastPart,hl]
  by_cases hq : 1023*((before++[13]).length/1023)≤before.length
  · exact .inr ⟨_,List.drop_append_of_le_length hq⟩
  · left
    apply List.drop_of_length_le
    rw [length_append,length_singleton] at hq ⊢
    omega

/-- The new line joins a part that ends with a carriage return, whatever else holds. -/
lemma seam_exact_iff {E : Bytes → Prop} {part : Bytes} (hsb : SubmittedLine line blob)
    (hp : part=[] ∨ ∃ before,part=before++[13]) (hl : part.length<1023)
    (hn : ¬(E blob ∨ OnLine part blob)) :
    (∀ other,E other ∨ OnLine (part++line) other ↔ (E other ∨ OnLine part other) ∨ other=blob) ↔
      if line.drop (1023-part.length)=[] then PlainText part
      else
        linePublickeyMatches (part++line.take (1023-part.length)) blob=true ∧
          (∀ other,linePublickeyMatches (line.drop (1023-part.length)) other=true →
            other=blob ∨ E other ∨ OnLine part other) ∨
        linePublickeyMatches (line.drop (1023-part.length)) blob=true ∧
          ∀ other,linePublickeyMatches (part++line.take (1023-part.length)) other=true →
            other=blob ∨ E other ∨ OnLine part other := by
  have hs := hsb.short
  rcases hp with rfl | ⟨before,rfl⟩
  · simp [not_onLine_nil,hsb.onLine_iff,PlainText,List.drop_of_length_le hs]
  have hm := fun other => onLine_iff_of_short hl.le other
  simp only [hm] at hn ⊢
  split_ifs with hd
  · have hj : (before++[13]++line).length≤1023 := by
      rw [List.drop_eq_nil_iff] at hd
      rw [length_append]
      omega
    simp only [onLine_iff_of_short hj]
    constructor
    · intro h
      refine plainText_of_matches hsb (fun ho => hn (.inr ho)) ?_
      exact ((h blob).mpr (.inr rfl)).resolve_left fun he => hn (.inl he)
    intro hp other
    have ho : ¬linePublickeyMatches (before++[13]) other=true := by
      have h := hp.joined [] other
      rw [append_nil] at h
      rw [h,linePublickeyMatches_iff]
      exact fun h => not_lineAuthorizes_nil other h.1
    rw [hp.joined,← onLine_iff_of_short hs,hsb.onLine_iff]
    simp [ho]
  have hj (other : Bytes) : OnLine (before++[13]++line) other ↔
      linePublickeyMatches (before++[13]++line.take (1023-(before++[13]).length)) other=true ∨
      linePublickeyMatches (line.drop (1023-(before++[13]).length)) other=true := by
    rw [OnLine,pieces_eq_cons (by decide) (by simp),List.take_append,List.drop_append,
      take_of_length_le hl.le,List.drop_of_length_le hl.le,nil_append,
      pieces_of_length_le hd (by rw [length_drop]; omega)]
    simp
  simp only [hj]
  constructor
  · intro h
    have hb := ((h blob).mpr (.inr rfl)).resolve_left fun he => hn (.inl he)
    exact hb.imp (fun hf => ⟨hf,fun other ho => ((h other).mp (.inr (.inr ho))).symm⟩)
      fun hf => ⟨hf,fun other ho => ((h other).mp (.inr (.inl ho))).symm⟩
  intro h other
  constructor
  · rintro (he | hf | hf)
    · exact .inl (.inl he)
    · rcases h with h | h
      · exact .inr (matches_unique h.1 hf)
      · exact (h.2 other hf).symm
    · rcases h with h | h
      · exact (h.2 other hf).symm
      · exact .inr (matches_unique h.1 hf)
  rintro ((he | ho) | rfl)
  · exact .inl he
  · exact .inr (.inl (matches_joined ho _))
  · exact .inr (h.imp And.left And.left)

lemma withLine_exact_iff (hs : SubmittedLine line blob) (hnw : ¬Accepts (some content) blob) :
    (∀ other,Accepts (some (withLine content line)) other ↔
      Accepts (some content) other ∨ other=blob) ↔
    content.getLast?≠some 13 ∨ SeamHarmless content line blob := by
  -- Nothing is in front of the line but the end of another one.
  have ha (hl : lastLine content=[]) (other : Bytes) :
      Accepts (some (content++line++[10])) other ↔
        Accepts (some content) other ∨ other=blob := by
    rw [accepts_joined hs.newline,accepts_lastLine,hl,nil_append,hs.onLine_iff]
    simp [not_onLine_nil]
  rcases he : content.getLast? with _ | ch
  · obtain rfl := List.getLast?_eq_none_iff.mp he
    simpa [withLine,authorizedKeysNeedsSeparator] using ha rfl
  by_cases hn : ch=10
  · subst hn
    obtain ⟨front,rfl⟩ := List.getLast?_eq_some_iff.mp he
    simpa [withLine,authorizedKeysNeedsSeparator] using ha (lastLine_newline front)
  by_cases hcr : ch=13
  · subst hcr
    have hw : withLine content line=content++line++[10] := by
      simp [withLine,authorizedKeysNeedsSeparator,he]
    have hp (other : Bytes) := onLine_lastPart content [] other
    simp only [append_nil] at hp
    simp only [SeamHarmless,NoNewKey,hw,accepts_joined hs.newline,accepts_lastLine,hp,
      onLine_lastPart content line,← or_assoc] at hnw ⊢
    rw [seam_exact_iff hs (lastPart_cr he) (lastPart_length content) hnw]
    simp [or_assoc]
  have hw : withLine content line=content++[10]++line++[10] := by
    simp [withLine,authorizedKeysNeedsSeparator,he,hn,hcr]
  simp only [hw,accepts_separated hs.newline,hs.onLine_iff]
  simp [hcr]
end

lemma authorizedKeysHasBlob_run (blob : Bytes) (file : Option Bytes) : ∃ matched,
    (authorizedKeysHasBlob blob).run file=(.ok matched,file) ∧
      (matched=true ↔ Accepts file blob) := by
  rcases file with _ | content
  · refine ⟨false,rfl,?_⟩
    simp [Accepts,authorizedKeysContains]
  refine ⟨containsLoop blob content,rfl,?_⟩
  simp [Accepts,authorizedKeysContains]

lemma registerAuthorizedKeyFromJson_outcome (global : GlobalConfig) (json : Bytes)
    (cap : Nat) (file : Option Bytes) :
    (registerAuthorizedKeyFromJson global json cap).Ensures file (Call.Outcome
      (fun _ file' => ∃ line blob,submittedKey json=.ok (line,blob) ∧
        (Accepts file blob ∧ file'=file ∨
          ¬Accepts file blob ∧ file'=some (withLine (file.getD []) line)))
      fun _ _ => True) := by
  refine .bindRequire (fun _ => .bindRequire (fun _ => .bindRequire (fun _ => .bindLift
    (fun key hk => ?_) fun _ _ => trivial) fun _ => trivial) fun _ => trivial) fun _ => trivial
  obtain ⟨line,blob⟩ := key
  obtain ⟨matched,hr,hm⟩ := authorizedKeysHasBlob_run blob file
  have hw : (Call.onlyIf (matched=false) (authorizedKeysAppendLine global.authorizedKeysFile
      line)).Ensures file (Call.Outcome (fun _ file' => Accepts file blob ∧ file'=file ∨
        ¬Accepts file blob ∧ file'=some (withLine (file.getD []) line)) fun _ _ => True) := by
    refine .onlyIf (fun hn => .bindRequire (fun _ => .modify (.inr ⟨?_,rfl⟩)) fun _ => trivial)
      fun hold => .inl ⟨?_,rfl⟩
    · rw [← hm,hn]
      exact Bool.false_ne_true
    · exact hm.mp (Bool.eq_true_of_not_eq_false hold)
  refine .bindOk hr (hw.bind (fun _ file' hf => ?_) fun _ _ _ => trivial)
  exact .bindRequire (fun _ => .pure ⟨line,blob,hk,hf⟩) fun _ => trivial

/-- Registering a key authorises that key and no other one exactly when its line does not join
one that does harm. -/
theorem register_exact_iff {global : GlobalConfig} {json out : Bytes} {outCapacity : Nat}
    {file file' : Option Bytes}
    (h : (registerAuthorizedKeyFromJson global json outCapacity).run file=(.ok out,file')) :
    ∃ line blob,submittedKey json=.ok (line,blob) ∧
      ((∀ other,Accepts file' other ↔ Accepts file other ∨ other=blob) ↔
        AppendsCleanly (file.getD []) line blob) := by
  have ho := registerAuthorizedKeyFromJson_outcome global json outCapacity file
  obtain ⟨line,blob,hk,hf⟩ := ho.of_eq h
  refine ⟨line,blob,hk,?_⟩
  rcases hf with ⟨hold,rfl⟩ | ⟨hn,rfl⟩
  · rw [iff_true_right (show AppendsCleanly _ line blob from .inl ((accepts_getD _ _).mp hold))]
    intro other
    refine ⟨.inl,fun hot => hot.elim id fun heq => ?_⟩
    rw [heq]
    exact hold
  simp only [accepts_getD file] at hn ⊢
  rw [withLine_exact_iff (submittedKey_ok hk) hn,AppendsCleanly,or_iff_right hn]

def firstKey : Bytes := cstr "ssh-ed25519 AAAAC3NzaC1lZDI1NTE5"
def secondKey : Bytes := cstr "ssh-ed25519 AAAAC3NzaC1lZDI1NTE5QUJD"
def secondBlob : Bytes := [0,0,0,11] ++ cstr "ssh-ed25519ABC"
def secondKeyJson : Bytes := cstr "\x7b\"public_key\":\"" ++ secondKey ++ cstr "\"\x7d"

def registeredText : Bytes := cstr "\x7b\"registered\":true,\"already_present\":false," ++
  cstr "\"username\":\"emtask\",\"authorized_keys_file\":\"authorized_keys\"\x7d\n"

lemma submittedKey_second : submittedKey secondKeyJson=.ok (secondKey,secondBlob) := by
  decide +kernel

theorem register_exact_iff_second :
    (registerAuthorizedKeyFromJson panelGlobal secondKeyJson 4096).run (some (firstKey ++ [10]))=
      (.ok registeredText,some (firstKey ++ [10] ++ secondKey ++ [10])) ∧
    ∀ other,Accepts (some (firstKey ++ [10] ++ secondKey ++ [10])) other ↔
      Accepts (some (firstKey ++ [10])) other ∨ other=secondBlob := by
  have hr : (registerAuthorizedKeyFromJson panelGlobal secondKeyJson 4096).run
      (some (firstKey ++ [10]))=
      (.ok registeredText,some (firstKey ++ [10] ++ secondKey ++ [10])) := by
    decide +kernel
  obtain ⟨line,blob,hk,hi⟩ := register_exact_iff hr
  rw [submittedKey_second] at hk
  cases hk
  have he : (firstKey ++ [10]).getLast?≠some 13 := by decide
  exact ⟨hr,hi.mpr (.inr (.inl he))⟩

/-- The file ends with a carriage return: the new line is written behind it and is not read. -/
theorem cr_file_loses_key :
    (∀ line∈(firstKey ++ [13]).splitOnP (·=10),line.length < 1023) ∧
    (registerAuthorizedKeyFromJson panelGlobal secondKeyJson 4096).run (some (firstKey ++ [13]))=
      (.ok registeredText,some (firstKey ++ [13] ++ secondKey ++ [10])) ∧
    submittedKey secondKeyJson=.ok (secondKey,secondBlob) ∧
    ¬Accepts (some (firstKey ++ [13] ++ secondKey ++ [10])) secondBlob := by
  refine ⟨by decide +kernel,by decide +kernel,submittedKey_second,?_⟩
  unfold Accepts
  decide +kernel

end EMSSHD.Emtask
