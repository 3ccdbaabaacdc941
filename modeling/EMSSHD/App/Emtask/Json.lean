import EMSSHD.App.Emtask.Config

namespace EMSSHD.Emtask

/-- emtask_panel_buffer_t; the text so far is shorter than the capacity, and one that did not
fit has been cut. -/
structure PanelBuffer where
  text : Bytes
  capacity : Nat
  truncated : Bool

def panelBufferInit (capacity : Nat) : PanelBuffer := ⟨[],capacity,false⟩

/-- emtask_panel_appendf, with the text that the format gives -/
def PanelBuffer.appendf (buf : PanelBuffer) (text : Bytes) : PanelBuffer :=
  if buf.capacity=0 ∨ buf.truncated=true then buf
  else if buf.capacity ≤ buf.text.length then {buf with truncated := true}
  else if buf.capacity-buf.text.length ≤ text.length then {buf with
    text := (buf.text ++ text).take (buf.capacity-1)
    truncated := true}
  else {buf with text := buf.text ++ text}

def hexDigit (n : Nat) : UInt8 := if n < 10 then UInt8.ofNat (48+n) else UInt8.ofNat (87+n)

def jsonEscaped (ch : UInt8) : Bytes :=
  if ch=92 then [92,92]
  else if ch=34 then [92,34]
  else if ch=8 then [92,98]
  else if ch=12 then [92,102]
  else if ch=10 then [92,110]
  else if ch=13 then [92,114]
  else if ch=9 then [92,116]
  else if ch < 32 then [92,117,48,48,hexDigit (ch.toNat/16),hexDigit (ch.toNat%16)]
  else [ch]

def PanelBuffer.appendAll (buf : PanelBuffer) (texts : List Bytes) : PanelBuffer :=
  texts.foldl .appendf buf

/-- The texts that emtask_panel_append_json_string writes -/
def jsonString (text : Bytes) : List Bytes := [34]::(text.map jsonEscaped ++ [[34]])

/-- emtask_panel_append_json_string -/
def PanelBuffer.appendJsonString (buf : PanelBuffer) (text : Bytes) : PanelBuffer :=
  buf.appendAll (jsonString text)

def jsonSkipWs (p : Bytes) : Bytes := p.dropWhile isBlank

/-- emtask_json_find_member_value: what is behind the first quoted key with a colon, wherever it
stands in the text. -/
def jsonFindMemberValue (key : Bytes) : Bytes → Option Bytes
  | [] => none
  | ch::rest =>
    let value := jsonSkipWs (rest.drop (key.length+1))
    if ch=34 ∧ rest.take (key.length+1)=key ++ [34] ∧ value.head?=some 58 then
      some (jsonSkipWs value.tail)
    else jsonFindMemberValue key rest

def jsonUnescape (ch : UInt8) : Option UInt8 :=
  if ch=34 ∨ ch=92 ∨ ch=47 then some ch
  else if ch=98 then some 8
  else if ch=102 then some 12
  else if ch=110 then some 10
  else if ch=114 then some 13
  else if ch=116 then some 9
  else none

/-- The loop of emtask_json_read_string_value behind the opening quote. -/
def jsonReadChars (outCapacity : Nat) : Bytes → Bytes → Except Err Bytes
  | _,[] => .error .invalidArgument
  | out,ch::rest =>
    if ch=34 then .ok out
    else if ch=92 then match rest with
      | [] => .error .invalidArgument
      | escaped::rest => match jsonUnescape escaped with
        | none => .error .invalidArgument
        | some ch =>
          if outCapacity ≤ out.length+1 then .error .bufferTooSmall
          else jsonReadChars outCapacity (out ++ [ch]) rest
    else if outCapacity ≤ out.length+1 then .error .bufferTooSmall
    else jsonReadChars outCapacity (out ++ [ch]) rest

def jsonReadStringValue (value : Bytes) (outCapacity : Nat) : Except Err Bytes :=
  match jsonSkipWs value with
  | [] => .error .invalidArgument
  | ch::rest => if ch=34 then jsonReadChars outCapacity [] rest else .error .invalidArgument

def jsonGetString (json key : Bytes) (outCapacity : Nat) (required : Bool) : Except Err Bytes :=
  match jsonFindMemberValue key json with
  | none => if required then .error .invalidArgument else .ok []
  | some value => jsonReadStringValue value outCapacity

def jsonHasMember (json key : Bytes) : Bool := (jsonFindMemberValue key json).isSome

/-- emtask_json_get_uint; a member that there is not leaves the value as it is. -/
def jsonGetUint (json key : Bytes) (current : Nat) (required : Bool) : Except Err Nat :=
  match jsonFindMemberValue key json with
  | none => if required then .error .invalidArgument else .ok current
  | some value =>
    match (if value.head?=some 34 then jsonReadStringValue value 64 else .ok value) with
    | .error e => .error e
    | .ok text => match strtoul text with
      | none => .error .invalidArgument
      | some (parsed,_) => if 100000000 < parsed then .error .invalidArgument else .ok parsed

/-- emtask_json_get_bool -/
def jsonGetBool (json key : Bytes) (current required : Bool) : Except Err Bool :=
  match jsonFindMemberValue key json with
  | none => if required then .error .invalidArgument else .ok current
  | some value =>
    if value.head?=some 34 then do
      let text ← jsonReadStringValue value 16
      parseBool text
    else if value.take 4=cstr "true" then .ok true
    else if value.take 5=cstr "false" then .ok false
    else if value.head?=some 49 then .ok true
    else if value.head?=some 48 then .ok false
    else .error .invalidArgument

variable {json key out value : Bytes} {ch : UInt8} {outCapacity : Nat}

lemma jsonFindMemberValue_suffix (h : jsonFindMemberValue key json=some value) :
    value <:+ json := by
  induction json with
  | nil => cases h
  | cons ch rest ih =>
    rw [jsonFindMemberValue] at h
    split_ifs at h with hk
    · cases h
      refine ((dropWhile_suffix _).trans ?_)
      refine ((List.tail_suffix _).trans ?_)
      refine ((dropWhile_suffix _).trans ?_)
      exact (List.drop_suffix _ _).trans (List.suffix_cons ch rest)
    · exact (ih h).trans (List.suffix_cons ch rest)

lemma jsonUnescape_ne_zero {out : UInt8} (h : jsonUnescape ch=some out) : out≠0 := by
  unfold jsonUnescape at h
  split_ifs at h with hs
  · cases h
    rcases hs with rfl | rfl | rfl <;> decide
  all_goals
    cases h
    decide

lemma jsonReadChars_quote (outCapacity : Nat) (out rest : Bytes) :
    jsonReadChars outCapacity out (34::rest)=.ok out := by
  rw [jsonReadChars.eq_def]
  exact if_pos rfl

lemma jsonReadChars_escape (outCapacity : Nat) (out : Bytes) (escaped : UInt8) (rest : Bytes) :
    jsonReadChars outCapacity out (92::escaped::rest)=match jsonUnescape escaped with
      | none => .error .invalidArgument
      | some ch => if outCapacity≤out.length+1 then .error .bufferTooSmall
        else jsonReadChars outCapacity (out++[ch]) rest := by
  rw [jsonReadChars.eq_def]
  exact (if_neg (by decide)).trans (if_pos rfl)

lemma jsonReadChars_char (outCapacity : Nat) (out : Bytes) (hq : ch≠34) (hs : ch≠92)
    (rest : Bytes) : jsonReadChars outCapacity out (ch::rest)=
      if outCapacity≤out.length+1 then .error .bufferTooSmall
      else jsonReadChars outCapacity (out++[ch]) rest := by
  rw [jsonReadChars.eq_def]
  exact (if_neg hq).trans (if_neg hs)

lemma jsonReadChars_ok {text : Bytes} (hnl : 0∉text) (ho : 0∉out) (hl : out.length<outCapacity)
    (h : jsonReadChars outCapacity out text=.ok value) : 0∉value ∧ value.length<outCapacity := by
  induction out,text using jsonReadChars.induct outCapacity with
  | case1 | case3 => cases h
  | case2 out rest =>
    rw [jsonReadChars_quote] at h
    cases h
    exact ⟨ho,hl⟩
  | case4 out escaped rest he =>
    rw [jsonReadChars_escape,he] at h
    cases h
  | case5 out escaped rest ch he hf => simp [jsonReadChars_escape,he,hf] at h
  | case6 out escaped rest ch he hr _ ih =>
    have hch : 0≠ch := (jsonUnescape_ne_zero he).symm
    have hn : 0∉out++[ch] := by simp [ho,hch]
    have hrs : 0∉rest := fun hm => hnl (by simp [hm])
    rw [jsonReadChars_escape,he] at h
    simp only [if_neg hr] at h
    exact ih hrs hn (by simp; omega) h
  | case7 out ch rest hq hs hf =>
    rw [jsonReadChars_char _ _ hq hs,if_pos hf] at h
    cases h
  | case8 out ch rest hq hs hr ih =>
    have hch : 0≠ch := fun heq => hnl (by simp [heq])
    have hn : 0∉out++[ch] := by simp [ho,hch]
    have hrs : 0∉rest := fun hm => hnl (by simp [hm])
    rw [jsonReadChars_char _ _ hq hs,if_neg hr] at h
    exact ih hrs hn (by simp; omega) h

lemma jsonReadStringValue_ok (hn : 0∉value) (hc : 0<outCapacity)
    (h : jsonReadStringValue value outCapacity=.ok out) : 0∉out ∧ out.length<outCapacity := by
  have hs : jsonSkipWs value <:+ value := dropWhile_suffix _
  unfold jsonReadStringValue at h
  split at h
  · cases h
  next ch rest hsk =>
  split_ifs at h
  have hr : 0∉rest := fun hm => hn (hs.subset (by simp [hsk,hm]))
  exact jsonReadChars_ok hr not_mem_nil hc h

lemma jsonGetString_required_ok (hn : 0∉json) (hc : 0<outCapacity)
    (h : jsonGetString json key outCapacity true=.ok out) : 0∉out ∧ out.length<outCapacity := by
  unfold jsonGetString at h
  rcases hv : jsonFindMemberValue key json with _ | value
  · rw [hv] at h
    cases h
  rw [hv] at h
  have hs := jsonFindMemberValue_suffix hv
  exact jsonReadStringValue_ok (fun hm => hn (hs.subset hm)) hc h

end EMSSHD.Emtask
