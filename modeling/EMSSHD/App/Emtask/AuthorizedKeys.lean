import EMSSHD.App.AuthorizedKeys

namespace EMSSHD.Emtask

open Text

def isSpaceChar (ch : UInt8) : Bool := isSpaceCharLocal ch

def decodeBase64Token (text : Bytes) (outCapacity : Nat) : Except Err Bytes :=
  decodeBase64TokenLocal text outCapacity

def authorizedKeyAlgorithm (token : Bytes) : Bool := isAuthorizedKeyAlgorithmToken token

/-- The loop of emtask_line_publickey_matches: the token behind the first name of an
algorithm, if it comes to one. -/
def blobTokenFrom (algorithmSeen : Bool) (p : Bytes) : Option Bytes :=
  match _hp : p.dropWhile isSpaceChar with
  | [] => none
  | ch::rest =>
    if ch=35 then none
    else if algorithmSeen=true then some ((ch::rest).takeWhile (!isSpaceChar ·))
    else blobTokenFrom (authorizedKeyAlgorithm ((ch::rest).takeWhile (!isSpaceChar ·)))
      ((ch::rest).dropWhile (!isSpaceChar ·))
termination_by p.length
decreasing_by
  have hch : isSpaceChar ch=false := by
    have hhead := List.head?_dropWhile_not isSpaceChar p
    rw [_hp] at hhead
    simpa using hhead
  have hle := (List.dropWhile_suffix (l := p) isSpaceChar).length_le
  have hrest := (List.dropWhile_suffix (l := rest) (!isSpaceChar ·)).length_le
  rw [_hp,List.length_cons] at hle
  rw [List.dropWhile_cons_of_pos (by simp [hch])]
  omega

/-- emtask_line_publickey_matches -/
def linePublickeyMatches (line blob : Bytes) : Bool :=
  let p := (cString line).dropWhile isSpaceChar
  if p=[] ∨ p.head?=some 35 then false
  else match blobTokenFrom false p with
    | none => false
    | some token => match decodeBase64Token token emsshMaxHostKeyBlob with
      | .error _ => false
      | .ok out => out=blob

def fgets (size : Nat) (content : Bytes) : Option (Bytes×Bytes) :=
  if content=[] then none
  else some (content.take (segmentLen (size-1) 10 content),
    content.drop (segmentLen (size-1) 10 content))

def containsLoop (blob content : Bytes) : Bool :=
  match _hline : fgets 1024 content with
  | none => false
  | some (line,rest) => if linePublickeyMatches line blob=true then true else containsLoop blob rest
termination_by content.length
decreasing_by
  unfold fgets at _hline
  split_ifs at _hline with hempty
  cases _hline
  have hpos := List.length_pos_of_ne_nil hempty
  rw [List.length_drop,segmentLen]
  omega

/-- emtask_authorized_keys_contains, for a file that can be read or that there is not -/
def authorizedKeysContains (file : Option Bytes) (blob : Bytes) : Except Err Bool :=
  match file with
  | none => .error .notFound
  | some content => .ok (containsLoop blob content)

section
variable {p rest : Bytes} {ch : UInt8}

lemma liveTokens_nil (hp : p.dropWhile isSpaceChar=[]) : liveTokens p=[] := by
  rw [liveTokens,← words_dropWhile,show isSpaceCharLocal=isSpaceChar from rfl,hp,words_nil]
  rfl

lemma liveTokens_cons (hp : p.dropWhile isSpaceChar=ch::rest) :
    liveTokens p=if ch=35 then [] else (ch::rest).takeWhile (!isSpaceChar ·)::
      liveTokens ((ch::rest).dropWhile (!isSpaceChar ·)) := by
  have hch : isSpaceChar ch=false := by
    have hh := List.head?_dropWhile_not isSpaceChar p
    rw [hp] at hh
    simpa using hh
  have hh : ((ch::rest).takeWhile (!isSpaceChar ·)).head?=some ch := by simp [hch]
  rw [liveTokens,← words_dropWhile,show isSpaceCharLocal=isSpaceChar from rfl,hp,words_eq_cons hch]
  split_ifs with hc
  · rw [List.takeWhile_cons_of_neg (by simp only [hh]; simp [hc])]
  rw [takeWhile_cons_of_pos (by simp only [hh]; simp [hc])]
  rfl

lemma blobTokenFrom_nil (algSeen : Bool) (hp : p.dropWhile isSpaceChar=[]) :
    blobTokenFrom algSeen p=none := by
  rw [blobTokenFrom]
  split
  · rfl
  next heq =>
  rw [hp] at heq
  cases heq

lemma blobTokenFrom_cons (algSeen : Bool) (hp : p.dropWhile isSpaceChar=ch::rest) :
    blobTokenFrom algSeen p=
      if ch=35 then none
      else if algSeen=true then some ((ch::rest).takeWhile (!isSpaceChar ·))
      else blobTokenFrom (authorizedKeyAlgorithm ((ch::rest).takeWhile (!isSpaceChar ·)))
        ((ch::rest).dropWhile (!isSpaceChar ·)) := by
  rw [blobTokenFrom]
  split
  · next heq =>
    rw [hp] at heq
    cases heq
  next heq =>
  rw [hp] at heq
  cases heq
  rfl

lemma blobTokenFrom_eq (algSeen : Bool) (p : Bytes) :
    blobTokenFrom algSeen p=if algSeen=true then (liveTokens p).head? else blobToken p := by
  rw [blobToken_eq]
  induction algSeen,p using blobTokenFrom.induct with
  | case1 algSeen p hp =>
    rw [blobTokenFrom_nil _ hp,liveTokens_nil hp]
    simp [behindFirst]
  | case2 algSeen p rest hp =>
    rw [blobTokenFrom_cons _ hp,liveTokens_cons hp,if_pos rfl,if_pos rfl]
    simp [behindFirst]
  | case3 p ch rest hp hch =>
    rw [blobTokenFrom_cons _ hp,liveTokens_cons hp,if_neg hch,if_neg hch]
    rfl
  | case4 algSeen p ch rest hp hch hs ih =>
    rw [blobTokenFrom_cons _ hp,liveTokens_cons hp,if_neg hch,if_neg hch,if_neg hs,if_neg hs,
      behindFirst_cons,ih]
    rfl

lemma linePublickeyMatches_eq (line blob : Bytes) : linePublickeyMatches line blob=
    match blobToken (cString line) with
    | none => false
    | some token => match decodeBase64Token token emsshMaxHostKeyBlob with
      | .error _ => false
      | .ok out => out=blob := by
  have hl := blobTokenFrom_eq false (cString line)
  have hs := blobTokenFrom_eq false ((cString line).dropWhile isSpaceChar)
  have hw : liveTokens ((cString line).dropWhile isSpaceChar)=liveTokens (cString line) :=
    congrArg (List.takeWhile _) (words_dropWhile (cString line))
  rw [if_neg Bool.false_ne_true] at hl hs
  rw [blobToken_eq,hw,← blobToken_eq] at hs
  rw [linePublickeyMatches,hs]
  rcases hp : (cString line).dropWhile isSpaceChar with _ | ⟨ch,rest⟩
  · rw [if_pos (.inl rfl),← hl,blobTokenFrom_nil false hp]
  by_cases hch : ch=35
  · rw [if_pos (.inr (by rw [hch]; rfl)),← hl,blobTokenFrom_cons false hp,if_pos hch]
  · rw [if_neg (by simp [hch])]

lemma linePublickeyMatches_iff (line blob : Bytes) : linePublickeyMatches line blob=true ↔
    LineAuthorizes (cString line) blob ∧ blob.length≤emsshMaxHostKeyBlob := by
  rw [lineAuthorizes_iff,linePublickeyMatches_eq]
  rcases htk : blobToken (cString line) with _ | token
  · simp
  cases hdc : decodeBase64Token token emsshMaxHostKeyBlob with
  | error e =>
    simp only [hdc]
    refine ⟨fun h => absurd h Bool.false_ne_true,fun h => ?_⟩
    obtain ⟨⟨_,ht,hd⟩,hl⟩ := h
    cases ht
    have hok := hdc.symm.trans (decodeBase64TokenLocal_iff.mpr ⟨hd,hl⟩)
    cases hok
  | ok out =>
    simp only [hdc]
    refine ⟨fun h => ?_,fun h => ?_⟩
    · obtain rfl : out=blob := of_decide_eq_true h
      obtain ⟨hd,hl⟩ := decodeBase64TokenLocal_iff.mp hdc
      exact ⟨⟨token,rfl,hd⟩,hl⟩
    obtain ⟨⟨_,ht,hd⟩,hl⟩ := h
    cases ht
    have hok := hdc.symm.trans (decodeBase64TokenLocal_iff.mpr ⟨hd,hl⟩)
    exact decide_eq_true (Except.ok.inj hok)
end

lemma containsLoop_eq (blob content : Bytes) :
    containsLoop blob content=(segments 1023 10 content).any (linePublickeyMatches · blob) := by
  fun_induction segments 1023 10 content with
  | case1 content h =>
    rw [h.resolve_right (by decide),containsLoop]
    rfl
  | case2 content h ih =>
    have hl : fgets 1024 content=some (content.take (segmentLen 1023 10 content),
      content.drop (segmentLen 1023 10 content)) := if_neg (not_or.mp h).1
    rw [containsLoop,List.any_cons]
    split
    · next heq =>
      rw [hl] at heq
      cases heq
    next heq =>
    rw [hl] at heq
    cases heq
    rw [ih]
    cases linePublickeyMatches (content.take (segmentLen 1023 10 content)) blob <;> rfl

lemma cString_append_newline (line : Bytes) :
    words isSpaceCharLocal (cString (line++[10]))=words isSpaceCharLocal (cString line) := by
  rw [cString_append]
  split_ifs with hn
  · rfl
  rw [cString_eq_self hn]
  exact words_append_last line rfl

lemma authorizedKeysContains_iff (content blob : Bytes) :
    authorizedKeysContains (some content) blob=.ok true ↔
      (∃ line∈content.splitOnP (·=10),∃ piece∈pieces 1023 line,
        LineAuthorizes (cString piece) blob) ∧ blob.length≤emsshMaxHostKeyBlob := by
  have hp := exists_segment_iff (show 0<1023 by decide)
    (P := fun line => LineAuthorizes (cString line) blob) (not_lineAuthorizes_nil blob)
    (fun line => LineAuthorizes.congr (cString_append_newline line)) content
  rw [← hp,authorizedKeysContains,Except.ok.injEq,containsLoop_eq,any_eq_true]
  simp only [linePublickeyMatches_iff]
  constructor
  · intro h
    obtain ⟨segment,hs,hl,hln⟩ := h
    exact ⟨⟨segment,hs,hl⟩,hln⟩
  intro h
  obtain ⟨⟨segment,hs,hl⟩,hln⟩ := h
  exact ⟨segment,hs,hl,hln⟩

/-- A key that a line in front of the first long one authorises, or one that neither a line nor
a part of a long line authorises. -/
def LongLinesHarmless (content blob : Bytes) : Prop :=
  (∃ line∈(content.splitOnP (·=10)).takeWhile (·.length < authorizedKeysLineMax),
    LineAuthorizes line blob) ∨
  ∀ line∈content.splitOnP (·=10),¬LineAuthorizes line blob ∧
    ∀ piece∈pieces 1023 line,¬LineAuthorizes piece blob

instance (content blob : Bytes) : Decidable (LongLinesHarmless content blob) :=
  inferInstanceAs (Decidable (_ ∨ ∀ _∈_,_))

lemma exists_piece_of_short {line blob : Bytes} (hs : line.length<authorizedKeysLineMax)
    (h : LineAuthorizes line blob) : ∃ piece∈pieces 1023 line,LineAuthorizes piece blob := by
  have hne : line≠[] := by
    intro he
    rw [he] at h
    exact not_lineAuthorizes_nil blob h
  rw [pieces_of_length_le hne (Nat.le_of_lt_succ hs)]
  exact ⟨line,by simp,h⟩

/-- Two readers that find what is found early agree with the file when something is found early
or nothing at all. -/
theorem agree_iff {early file pieces : Prop} (hf : early → file) (hp : early → pieces) :
    ((pieces ↔ file) ∧ (early ↔ file)) ↔ early ∨ ¬file ∧ ¬pieces := by
  tauto

/-- Both readers find just the keys of the live lines of a file exactly when its long lines do
no harm. -/
theorem authorized_keys_live_iff {fs : TextFs} {path content blob : Bytes}
    {reads : List (Except Err Bytes)} {request : PublickeyAuthRequest} (hfs : fs path=.ok reads)
    (hreads : ReadsAs content reads) (hnul : 0∉content)
    (hblob : request.publickeyBlob.getD []=blob) (hlen : blob.length ≤ emsshMaxHostKeyBlob) :
    ((authorizedKeysContains (some content) blob=.ok true ↔ FileAuthorizes content blob) ∧
      (authorizedKeysFileContainsKey fs path request=.ok true ↔ FileAuthorizes content blob)) ↔
    LongLinesHarmless content blob := by
  have hb : authorizedKeysContains (some content) blob=.ok true ↔
      ∃ line∈content.splitOnP (·=10),∃ piece∈pieces 1023 line,LineAuthorizes piece blob := by
    rw [authorizedKeysContains_iff,and_iff_left hlen]
    refine exists_congr fun line => and_congr_right fun hl => exists_congr fun piece =>
      and_congr_right fun hp => ?_
    rw [cString_eq_self fun hm => hnul ((infix_of_mem_line hl).subset (mem_of_mem_piece hp hm))]
  rw [hb,authorizedKeysFileContainsKey_iff hfs hreads hnul hblob hlen]
  have hf : (∃ line∈(content.splitOnP (·=10)).takeWhile (·.length < authorizedKeysLineMax),
      LineAuthorizes line blob) → FileAuthorizes content blob := by
    intro h
    obtain ⟨line,hl,ha⟩ := h
    exact ⟨line,(takeWhile_subset _) hl,ha⟩
  have hp : (∃ line∈(content.splitOnP (·=10)).takeWhile (·.length < authorizedKeysLineMax),
      LineAuthorizes line blob) →
      ∃ line∈content.splitOnP (·=10),∃ piece∈pieces 1023 line,LineAuthorizes piece blob := by
    intro h
    obtain ⟨line,hl,ha⟩ := h
    have hs := of_decide_eq_true (all_eq_true.mp all_takeWhile line hl)
    exact ⟨line,(takeWhile_subset _) hl,exists_piece_of_short hs ha⟩
  have hn : (∀ line∈content.splitOnP (·=10),¬LineAuthorizes line blob ∧
      ∀ piece∈pieces 1023 line,¬LineAuthorizes piece blob) ↔ ¬FileAuthorizes content blob ∧
      ¬∃ line∈content.splitOnP (·=10),∃ piece∈pieces 1023 line,LineAuthorizes piece blob := by
    simp only [FileAuthorizes,not_exists,not_and]
    exact forall₂_and
  unfold LongLinesHarmless
  rw [hn]
  exact agree_iff hf hp

def keyLine : Bytes := cstr "ssh-ed25519 QUJD"
def keyRequest : PublickeyAuthRequest := ⟨none,none,none,some [65,66,67]⟩
def keyFs : TextFs := fun _ => .ok [.ok keyLine,.ok [10]]

theorem authorized_keys_live_iff_one :
    (authorizedKeysContains (some (keyLine ++ [10])) [65,66,67]=.ok true ↔
      FileAuthorizes (keyLine ++ [10]) [65,66,67]) ∧
    (authorizedKeysFileContainsKey keyFs [] keyRequest=.ok true ↔
      FileAuthorizes (keyLine ++ [10]) [65,66,67]) ∧
    FileAuthorizes (keyLine ++ [10]) [65,66,67] := by
  have hr : ReadsAs (keyLine ++ [10]) [.ok keyLine,.ok [10]] :=
    ⟨[keyLine,[10]],rfl,by decide +kernel,by decide +kernel⟩
  have hfs : keyFs []=.ok [.ok keyLine,.ok [10]] := rfl
  have hbl : keyRequest.publickeyBlob.getD []=[65,66,67] := rfl
  have hi := authorized_keys_live_iff hfs hr (by decide +kernel) hbl (by decide)
  have hb := hi.mpr (by decide +kernel)
  exact ⟨hb.1,hb.2,by decide +kernel⟩

def commentedKey : Bytes := 35::(List.replicate 1022 32 ++ keyLine)

/-- The key is commented out, and it is found. -/
theorem commented_key_found : 0∉commentedKey ∧
    authorizedKeysContains (some commentedKey) [65,66,67]=.ok true ∧
    ¬FileAuthorizes commentedKey [65,66,67] := by
  refine ⟨by decide +kernel,?_,by decide +kernel⟩
  rw [authorizedKeysContains_iff]
  exact ⟨⟨commentedKey,by decide +kernel,keyLine,by decide +kernel,by decide +kernel⟩,by decide⟩

end EMSSHD.Emtask
