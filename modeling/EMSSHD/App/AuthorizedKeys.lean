import EMSSHD.App.LinuxAuth
import EMSSHD.Math.Text

namespace EMSSHD

open Text

/-- The octets that a token of an authorized_keys line stands for. -/
def TokenDecodes (token blob : Bytes) : Prop := Base64.Decodes base64Alphabet 61 token blob

def liveTokens (line : Bytes) : List Bytes :=
  (words isSpaceCharLocal line).takeWhile (·.head?≠some 35)

/-- The word behind the first name of an algorithm decodes to the key. -/
def LineAuthorizes (line blob : Bytes) : Prop :=
  ∃ before algorithm token after,liveTokens line=before ++ algorithm::token::after ∧
    (∀ word∈before,isAuthorizedKeyAlgorithmToken word=false) ∧
    isAuthorizedKeyAlgorithmToken algorithm=true ∧ TokenDecodes token blob

def FileAuthorizes (content blob : Bytes) : Prop :=
  ∃ line∈content.splitOnP (·=10),LineAuthorizes line blob

section
variable {outCapacity : Nat}
variable {blob token : Bytes}

lemma decodeBase64TokenLocal_iff {text : Bytes} :
    decodeBase64TokenLocal text outCapacity=.ok blob ↔
      TokenDecodes text blob ∧ blob.length≤outCapacity := by
  have hs : (Base64.octets []).length≤outCapacity := Nat.zero_le _
  have hf : ∀ s,text.foldlM (decodeBase64Step outCapacity) (.after [] 0)=.ok s ↔ _ :=
    fun s => foldlM_decodeBase64Step_iff hs
  unfold decodeBase64TokenLocal
  constructor
  · intro h
    rcases hr : text.foldlM (decodeBase64Step outCapacity) {} with _ | s
    · rw [hr] at h
      cases h
    obtain ⟨digits,n,hdc,rfl⟩ := (hf s).mp hr
    obtain ⟨letters,ht,hd⟩ := hdc.text_eq
    simp only [hr] at h
    split_ifs at h with hne
    cases h
    exact ⟨⟨letters,digits,n,ht,hd,rfl,List.ne_nil_of_length_pos (Nat.pos_of_ne_zero hne)⟩,hdc.fits⟩
  intro h
  obtain ⟨⟨letters,digits,n,ht,hd,rfl,hne⟩,hft⟩ := h
  have hr := (hf _).mpr ⟨digits,n,⟨⟨letters,ht,hd⟩,fun h0 => absurd h0 (by omega),hft⟩,rfl⟩
  have hst : Base64State.after [] 0={} := rfl
  rw [hst] at hr
  rw [hr]
  exact if_pos (List.length_pos_of_ne_nil hne).ne'

lemma TokenDecodes.unique {blob' : Bytes} (h : TokenDecodes token blob)
    (h' : TokenDecodes token blob') : blob=blob' := by
  have hok := decodeBase64TokenLocal_iff.mpr ⟨h,Nat.le_max_left blob.length blob'.length⟩
  have ho := decodeBase64TokenLocal_iff.mpr ⟨h',Nat.le_max_right blob.length blob'.length⟩
  exact Except.ok.inj (hok.symm.trans ho)

lemma TokenDecodes.char (h : TokenDecodes token blob) {ch : UInt8} (hch : ch∈token) :
    ch∈base64Alphabet ∨ ch=61 := by
  obtain ⟨letters,digits,n,rfl,hdg,-⟩ := h
  rcases mem_append.mp hch with hl | hp
  · have hm : base64Alphabet.idxOf? ch∈digits.map some :=
      hdg ▸ List.mem_map_of_mem hl
    obtain ⟨d,-,hd⟩ := mem_map.mp hm
    obtain ⟨hlt,rfl,-⟩ := List.idxOf?_eq_some_iff.mp hd.symm
    exact .inl (List.getElem_mem hlt)
  · exact .inr (eq_of_mem_replicate hp)

lemma TokenDecodes.head (h : TokenDecodes token blob) : token.head?≠some 35 := by
  intro hh
  have hc := h.char (mem_of_mem_head? hh)
  exact absurd hc (by decide)

lemma algorithm_live {algorithm : Bytes} (h : isAuthorizedKeyAlgorithmToken algorithm=true) :
    algorithm.head?≠some 35 ∧ ∀ blob,¬TokenDecodes algorithm blob := by
  have hm : algorithm.head?≠some 35 ∧ 45∈algorithm := by
    simp only [isAuthorizedKeyAlgorithmToken,Bool.or_eq_true,decide_eq_true_eq] at h
    rcases h with (rfl | rfl) | rfl <;> decide
  exact ⟨hm.1,fun blob hd => absurd (hd.char hm.2) (by decide)⟩
end

section
lemma blobToken_eq (line : Bytes) :
    blobToken line=behindFirst isAuthorizedKeyAlgorithmToken (liveTokens line) := rfl

variable {blob line : Bytes}

lemma lineAuthorizes_iff :
    LineAuthorizes line blob ↔ ∃ token,blobToken line=some token ∧ TokenDecodes token blob := by
  simp only [blobToken_eq,behindFirst_eq_some_iff]
  constructor
  · intro h
    obtain ⟨before,algorithm,token,after,ht,hb,ha,hd⟩ := h
    exact ⟨token,⟨before,algorithm,after,ht,hb,ha⟩,hd⟩
  intro h
  obtain ⟨token,⟨before,algorithm,after,ht,hb,ha⟩,hd⟩ := h
  exact ⟨before,algorithm,token,after,ht,hb,ha,hd⟩

lemma lineAuthorizes_iff_decode : LineAuthorizes line blob ↔
    ∃ token∈blobToken line,decodeBase64TokenLocal token blob.length=.ok blob := by
  rw [lineAuthorizes_iff]
  simp only [decodeBase64TokenLocal_iff,Nat.le_refl,and_true,Option.mem_def]

instance (line blob : Bytes) : Decidable (LineAuthorizes line blob) :=
  decidable_of_iff _ lineAuthorizes_iff_decode.symm

instance (content blob : Bytes) : Decidable (FileAuthorizes content blob) :=
  inferInstanceAs (Decidable (∃ _∈_,_))

lemma LineAuthorizes.congr {line' : Bytes}
    (hw : words isSpaceCharLocal line=words isSpaceCharLocal line') :
    LineAuthorizes line blob ↔ LineAuthorizes line' blob := by
  unfold LineAuthorizes liveTokens
  rw [hw]

lemma not_lineAuthorizes_nil (blob : Bytes) : ¬LineAuthorizes [] blob := by
  intro h
  obtain ⟨before,_,_,_,ht,-⟩ := h
  simp [liveTokens] at ht

lemma lineAuthorizes_stripCr (line blob : Bytes) :
    LineAuthorizes (stripCr line) blob ↔ LineAuthorizes line blob := by
  unfold stripCr
  split_ifs with hl
  · obtain ⟨front,rfl⟩ := List.getLast?_eq_some_iff.mp hl
    rw [List.dropLast_concat]
    exact (LineAuthorizes.congr (words_append_last front rfl)).symm
  · exact Iff.rfl

lemma linePublickeyBlobMatchesRequest_iff {request : PublickeyAuthRequest}
    (hb : request.publickeyBlob.getD []=blob) (hl : blob.length≤emsshMaxHostKeyBlob) :
    ∃ found,linePublickeyBlobMatchesRequest request line=.ok found ∧
      (found.isSome=true ↔ LineAuthorizes line blob) := by
  rw [lineAuthorizes_iff,linePublickeyBlobMatchesRequest]
  rcases htk : blobToken line with _ | token
  · exact ⟨none,rfl,by simp⟩
  cases hd : decodeBase64TokenLocal token emsshMaxHostKeyBlob with
  | error e =>
    refine ⟨none,by simp only [hd],by simp,fun h => ?_⟩
    obtain ⟨_,ht,hdc⟩ := h
    cases ht
    rw [decodeBase64TokenLocal_iff.mpr ⟨hdc,hl⟩] at hd
    cases hd
  | ok out =>
    refine ⟨if out=request.publickeyBlob.getD [] then some () else none,
      by simp only [hd],fun h => ?_,fun h => ?_⟩
    · have ho : out=blob := by
        by_contra hne
        simp [hb,hne] at h
      exact ⟨token,rfl,ho ▸ (decodeBase64TokenLocal_iff.mp hd).1⟩
    obtain ⟨_,ht,hdc⟩ := h
    cases ht
    rw [decodeBase64TokenLocal_iff.mpr ⟨hdc,hl⟩] at hd
    obtain rfl : blob=out := Except.ok.inj hd
    simp [hb]
end

section
variable {α : Type} {lineMax : Nat} {handle : Bytes → Except Err (Option α)}

def scanText (lineMax : Nat) (handle : Bytes → Except Err (Option α)) (line text : Bytes) :
    Except Err (Option α) :=
  match scanPiece lineMax handle line text with
  | .error e => .error e
  | .ok (.inl a) => .ok (some a)
  | .ok (.inr line) => scanEnd handle line

lemma scanPiece_append (line piece rest : Bytes) :
    scanPiece lineMax handle line (piece++rest)=match scanPiece lineMax handle line piece with
      | .error e => .error e
      | .ok (.inl a) => .ok (.inl a)
      | .ok (.inr line) => scanPiece lineMax handle line rest := by
  induction piece generalizing line with
  | nil => rfl
  | cons ch piece ih =>
    simp only [cons_append,scanPiece]
    split_ifs
    · rcases handle (cString (stripCr line)) with _ | found
      · rfl
      cases found with
      | none => exact ih []
      | some a => rfl
    · rfl
    · exact ih (line++[ch])

lemma scanFile_pieces {pieces : List Bytes} (hpc : ∀ piece∈pieces,piece≠[]) (line : Bytes) :
    scanFile lineMax handle line (pieces.map .ok)=scanText lineMax handle line pieces.flatten := by
  induction pieces generalizing line with
  | nil => rfl
  | cons piece pieces ih =>
    have hpi : piece.length≠0 := (List.length_pos_of_ne_nil (hpc piece (by simp))).ne'
    have hr := ih fun p hp => hpc p (mem_cons_of_mem _ hp)
    rw [map_cons,scanFile,if_neg hpi,scanText,flatten_cons,scanPiece_append]
    rcases scanPiece lineMax handle line piece with _ | found
    · rfl
    cases found with
    | inl a => rfl
    | inr line => exact hr line

variable {line : Bytes}

lemma takeWhile_lines_of_long (hlg : lineMax≤line.length) (hln : ∀ x∈line,x≠10)
    (text : Bytes) : ((line++text).splitOnP (·=10)).takeWhile (·.length<lineMax)=[] := by
  obtain ⟨rest,lines,hs⟩ := exists_splitOnP_append hln text
  have hl : lineMax≤(line++rest).length := by rw [length_append]; omega
  rw [hs,List.takeWhile_cons_of_neg (by simpa using hl)]

lemma scanText_finds_iff {P : Bytes → Prop} (hnl : ¬P [])
    (hh : ∀ line,∃ found,handle (cString (stripCr line))=.ok found ∧ (found.isSome=true ↔ P line))
    (text : Bytes) (hl : ∀ x∈line,x≠10) (hln : line.length<lineMax) :
    (∃ a,scanText lineMax handle line text=.ok (some a)) ↔
      ∃ l∈((line++text).splitOnP (·=10)).takeWhile (·.length<lineMax),P l := by
  induction text generalizing line with
  | nil =>
    obtain ⟨found,hf,hP⟩ := hh line
    rw [append_nil,splitOnP_line hl,takeWhile_cons_of_pos (by simpa using hln)]
    simp only [scanText,scanPiece,scanEnd,List.takeWhile_nil,mem_singleton,exists_eq_left]
    by_cases he : line=[]
    · simp [he,hnl]
    rw [if_pos (List.length_pos_of_ne_nil he).ne',hf,← hP,Option.isSome_iff_exists]
    simp
  | cons ch text ih =>
    by_cases hch : ch=10
    · subst hch
      obtain ⟨found,hf,hP⟩ := hh line
      rw [splitOnP_line_cons hl,takeWhile_cons_of_pos (by simpa using hln),List.exists_mem_cons_iff,
        ← hP]
      simp only [scanText,scanPiece,if_true,hf]
      cases found with
      | some a => simp
      | none => simpa [scanText] using ih (forall_mem_nil _) (by simp; omega)
    have hn : ∀ x∈line++[ch],x≠10 := forall_mem_append.mpr ⟨hl,by simpa using hch⟩
    have ha : line++ch::text=line++[ch]++text := by simp
    simp only [ha,scanText,scanPiece,if_neg hch]
    split_ifs with hfl
    · rw [takeWhile_lines_of_long (by simpa using hfl) hn]
      simp
    · exact ih hn (by simp; omega)
end

def ReadsAs (content : Bytes) (reads : List (Except Err Bytes)) : Prop :=
  ∃ pieces : List Bytes,reads=pieces.map .ok ∧ (∀ piece∈pieces,piece≠[]) ∧ pieces.flatten=content

lemma stripCr_noNul {line : Bytes} (h : 0∉line) : 0∉stripCr line := by
  unfold stripCr
  split_ifs
  · exact fun hm => h (List.dropLast_subset line hm)
  · exact h

lemma authorizedKeysFileContainsKey_iff {fs : TextFs} {path content blob : Bytes}
    {reads : List (Except Err Bytes)} {request : PublickeyAuthRequest} (hfs : fs path=.ok reads)
    (hr : ReadsAs content reads) (hn : 0∉content)
    (hb : request.publickeyBlob.getD []=blob) (hle : blob.length≤emsshMaxHostKeyBlob) :
    authorizedKeysFileContainsKey fs path request=.ok true ↔
      ∃ line∈(content.splitOnP (·=10)).takeWhile (·.length<authorizedKeysLineMax),
        LineAuthorizes line blob := by
  obtain ⟨pieces,rfl,hp,rfl⟩ := hr
  have hf := scanText_finds_iff (P := fun line => LineAuthorizes (cString (stripCr line)) blob)
    (not_lineAuthorizes_nil blob) (fun line => linePublickeyBlobMatchesRequest_iff hb hle)
    pieces.flatten (forall_mem_nil _) (show ([] : Bytes).length<authorizedKeysLineMax by decide)
  have hln : ∀ line∈pieces.flatten.splitOnP (·=10),
      (LineAuthorizes (cString (stripCr line)) blob ↔ LineAuthorizes line blob) := by
    intro line hln
    have hli : 0∉line := fun hm => hn ((infix_of_mem_line hln).subset hm)
    rw [cString_eq_self (stripCr_noNul hli),lineAuthorizes_stripCr]
  have hls : (∃ l∈(pieces.flatten.splitOnP (·=10)).takeWhile (·.length<authorizedKeysLineMax),
      LineAuthorizes (cString (stripCr l)) blob) ↔
      ∃ l∈(pieces.flatten.splitOnP (·=10)).takeWhile (·.length<authorizedKeysLineMax),
        LineAuthorizes l blob :=
    exists_congr fun l => and_congr_right fun hl => hln l ((takeWhile_subset _) hl)
  rw [nil_append] at hf
  rw [← hls,← hf,authorizedKeysFileContainsKey,hfs]
  simp only [scanFile_pieces hp]
  cases scanText authorizedKeysLineMax (linePublickeyBlobMatchesRequest request) []
    pieces.flatten with
  | error e => simp
  | ok found => cases found <;> simp

end EMSSHD
