import EMSSHD.App.Emtask.Config
import EMSSHD.Math.Text
import EMSSHD.Platform.TextFile
import Mathlib.Data.LawfulXor.Basic
import Mathlib.Data.List.GetD

namespace EMSSHD.Emtask

/-- emtask_panel_constant_time_equal; the difference is an unsigned int. -/
def constantTimeEqual (lhs rhs : Bytes) : Bool :=
  (List.range (max lhs.length rhs.length)).foldl
    (fun diff i => diff ||| ((lhs.getD i 0).toNat ^^^ (rhs.getD i 0).toNat))
    ((lhs.length ^^^ rhs.length)%2^32)=0

/-- emtask_panel_prefix_equals_nocase -/
def beginsNocase (text front : Bytes) : Bool := sameNocase (text.take front.length) front

def hexValue (ch : UInt8) : Option Nat :=
  if 48 ≤ ch ∧ ch ≤ 57 then some (ch.toNat-48)
  else if 97 ≤ ch ∧ ch ≤ 102 then some (ch.toNat-97+10)
  else if 65 ≤ ch ∧ ch ≤ 70 then some (ch.toNat-65+10)
  else none

def urlChar (ch : UInt8) (rest : Bytes) : UInt8×Bytes :=
  if ch=37 then match rest with
    | hi::lo::tail => match hexValue hi,hexValue lo with
      | some h,some l => (UInt8.ofNat (16*h+l),tail)
      | _,_ => (ch,rest)
    | _ => (ch,rest)
  else (if ch=43 then 32 else ch,rest)

lemma urlChar_length (ch : UInt8) (rest : Bytes) : (urlChar ch rest).2.length ≤ rest.length := by
  unfold urlChar
  split_ifs with hp
  · split
    · split
      · simp only [length_cons]
        omega
      · exact Nat.le_refl _
    · exact Nat.le_refl _
  all_goals exact Nat.le_refl _

/-- The loop of emtask_panel_url_decode: whether the text fits the buffer, and what is
written. -/
def urlDecodeLoop (outCapacity : Nat) (out src : Bytes) : Bool×Bytes :=
  match src with
  | [] => (true,out)
  | ch::rest =>
    if outCapacity ≤ out.length+1 then (false,out)
    else urlDecodeLoop outCapacity (out ++ [(urlChar ch rest).1]) (urlChar ch rest).2
termination_by src.length
decreasing_by
  have hlen := urlChar_length ch rest
  simp only [List.length_cons]
  omega

/-- emtask_panel_url_decode, with the string that is in the buffer afterwards. A text that does
not fit is left without its NUL, so whatever is in the memory behind it goes on with it. -/
def urlDecode (memory src : Bytes) (outCapacity : Nat) : Bool×Bytes :=
  let decoded := urlDecodeLoop outCapacity [] src
  (decoded.1,cString (if decoded.1=true then decoded.2 else decoded.2 ++ memory))

def cutAt (sep : UInt8) (text : Bytes) : Option (Bytes×Bytes) :=
  if sep∈text then some (text.takeWhile (·≠sep),(text.dropWhile (·≠sep)).tail) else none

/-- The loop of emtask_panel_query_value over the parts between the ampersands. -/
def queryValueIn (memory key : Bytes) (outCapacity : Nat) : List Bytes → Bool×Bytes
  | [] => (false,[])
  | part::parts => match cutAt 61 part with
    | none => queryValueIn memory key outCapacity parts
    | some (name,value) =>
      if name=key then urlDecode memory value outCapacity
      else queryValueIn memory key outCapacity parts

def queryValue (memory query key : Bytes) (outCapacity : Nat) : Bool×Bytes :=
  queryValueIn memory key outCapacity (query.splitOnP (·=38))

/-- The loop of emtask_panel_header_value over the lines behind the first. -/
def headerValueIn (name : Bytes) (outCapacity : Nat) : List Bytes → Option Bytes
  | [] => none
  | line::lines =>
    if stripCr line=[] then none
    else match cutAt 58 (stripCr line) with
      | none => headerValueIn name outCapacity lines
      | some (written,value) =>
        if sameNocase written name=true then some (trim (value.take (outCapacity-1)))
        else headerValueIn name outCapacity lines

/-- emtask_panel_header_value -/
def headerValue (request name : Bytes) (outCapacity : Nat) : Option Bytes :=
  headerValueIn name outCapacity (request.splitOnP (·=10)).tail

def base32Value (ch : UInt8) : Option Nat :=
  if 65 ≤ ch ∧ ch ≤ 90 then some (ch.toNat-65)
  else if 97 ≤ ch ∧ ch ≤ 122 then some (ch.toNat-97)
  else if 50 ≤ ch ∧ ch ≤ 55 then some (ch.toNat-50+26)
  else none

structure Base32State where
  acc : Nat := 0
  bits : Nat := 0
  out : Bytes := []

def decodeBase32Step (outCapacity : Nat) (s : Base32State) (ch : UInt8) : Except Err Base32State :=
  if ch=61 ∨ ch=32 ∨ ch=9 ∨ ch=45 ∨ ch=58 then .ok s
  else match base32Value ch with
    | none => .error .malformedPacket
    | some value =>
      let acc := (s.acc*2^5+value)%2^32
      let bits := s.bits+5
      if bits < 8 then .ok {s with acc,bits}
      else if outCapacity ≤ s.out.length then .error .bufferTooSmall
      else .ok {acc,bits := bits-8,out := s.out ++ [UInt8.ofNat (acc/2^(bits-8))]}

def decodeBase32Secret (text : Bytes) (outCapacity : Nat) : Except Err Bytes :=
  match text.foldlM (decodeBase32Step outCapacity) {} with
  | .error e => .error e
  | .ok s => if s.out.length≠0 then .ok s.out else .error .malformedPacket

def paddedDecimal : Nat → Nat → Bytes
  | 0,_ => []
  | k+1,n => UInt8.ofNat (48+n/10^k%10)::paddedDecimal k n

abbrev HmacSha1 := Bytes → Bytes → Option (Fin 20 → UInt8)

/-- emtask_panel_totp_code -/
def totpCode (hmac : HmacSha1) (secret : Bytes) (counter digits : Nat) : Except Err Bytes :=
  if secret.length=0 ∨ digits < 6 ∨ 8 < digits then .error .invalidArgument
  else match hmac secret (beBytes 8 counter) with
    | none => .error .platform
    | some mac =>
      let offset := (mac 19).toNat%16
      let byte (i : Nat) : Nat := (mac (Fin.ofNat 20 (offset+i))).toNat
      let binCode := byte 0%128*2^24+byte 1*2^16+byte 2*2^8+byte 3
      .ok (paddedDecimal digits (binCode%10^digits))

/-- The counters that the loop of emtask_panel_verify_otp tries. -/
def otpCandidates (counter window : Nat) : List Nat :=
  ((List.range window).reverse.filterMap fun i => if counter < i+1 then none else some (counter-(i+1))) ++
    (List.range (window+1)).map (counter+·)

/-- emtask_panel_verify_otp -/
def verifyOtp (hmac : HmacSha1) (global : GlobalConfig) (now : Int) (otp : Bytes) : Bool :=
  if otp=[] then false
  else if otp.all isDigit=false then false
  else if otp.length≠global.panelOtpDigits then false
  else match decodeBase32Secret global.panelOtpSecret 128 with
    | .error _ => false
    | .ok secret =>
      if now < 0 ∨ global.panelOtpStepSec=0 then false
      else (otpCandidates (now.toNat/global.panelOtpStepSec) global.panelOtpWindow).any
        fun candidate => match totpCode hmac secret candidate global.panelOtpDigits with
          | .error _ => false
          | .ok expected => constantTimeEqual expected otp

def bearerToken (request : Bytes) : Bytes :=
  match headerValue request (cstr "Authorization") emtaskMaxText with
  | none => []
  | some header => if beginsNocase header (cstr "Bearer ")=true then trim (header.drop 7) else []

def requestToken (memory request query : Bytes) : Bytes :=
  if bearerToken request≠[] then bearerToken request
  else if (headerValue request (cstr "X-Panel-Token") emtaskMaxText).getD []≠[] then
    (headerValue request (cstr "X-Panel-Token") emtaskMaxText).getD []
  else (queryValue memory query (cstr "token") emtaskMaxText).2

def headerOtp (request : Bytes) : Bytes :=
  match headerValue request (cstr "X-Panel-OTP") 64 with
  | some otp => otp
  | none => (headerValue request (cstr "X-OTP") 64).getD []

def requestOtp (memory request query : Bytes) : Bytes :=
  if headerOtp request≠[] then headerOtp request
  else (queryValue memory query (cstr "otp") 64).2

/-- emtask_panel_verify_request_auth; memory is what is behind its buffers. -/
def verifyRequestAuth (hmac : HmacSha1) (global : GlobalConfig) (now : Int)
    (memory request query : Bytes) : Bool :=
  if global.panelAuth=0 then true
  else
    (global.panelAuth &&& emtaskPanelAuthToken=0 ||
      constantTimeEqual global.panelToken (requestToken memory request query)) &&
    (global.panelAuth &&& emtaskPanelAuthOtp=0 ||
      verifyOtp hmac global now (requestOtp memory request query))

def percentDecode (src : Bytes) : Bytes :=
  match src with
  | [] => []
  | ch::rest => (urlChar ch rest).1::percentDecode (urlChar ch rest).2
termination_by src.length
decreasing_by
  have hlen := urlChar_length ch rest
  simp only [List.length_cons]
  omega

def headerFields (request : Bytes) : List (Bytes×Bytes) :=
  (((request.splitOnP (·=10)).tail.map stripCr).takeWhile (·≠[])).filterMap (cutAt 58)

def queryParams (query : Bytes) : List (Bytes×Bytes) := (query.splitOnP (·=38)).filterMap (cutAt 61)

/-- The request has the token behind Bearer, in its own field or in the query. -/
def TokenPresented (request query token : Bytes) : Prop :=
  (∃ field∈headerFields request,sameNocase field.1 (cstr "Authorization")=true ∧
    beginsNocase (trim (field.2.take 1023)) (cstr "Bearer ")=true ∧
    trim ((trim (field.2.take 1023)).drop 7)=token) ∨
  (∃ field∈headerFields request,sameNocase field.1 (cstr "X-Panel-Token")=true ∧
    trim (field.2.take 1023)=token) ∨
  ∃ value,(cstr "token",value)∈queryParams query ∧ cString (percentDecode value)=token

/-- The request has the one-time password in one of two fields or in the query. -/
def OtpPresented (request query otp : Bytes) : Prop :=
  (∃ field∈headerFields request,(sameNocase field.1 (cstr "X-Panel-OTP")=true ∨
    sameNocase field.1 (cstr "X-OTP")=true) ∧ trim (field.2.take 63)=otp) ∨
  ∃ value,(cstr "otp",value)∈queryParams query ∧ cString ((percentDecode value).take 63)=otp

/-- The code of a counter in the window around the current time step. -/
def CurrentCode (hmac : HmacSha1) (global : GlobalConfig) (now : Int) (otp : Bytes) : Prop :=
  ∃ secret candidate,decodeBase32Secret global.panelOtpSecret 128=.ok secret ∧ 0 ≤ now ∧
    now.toNat/global.panelOtpStepSec ≤ candidate+global.panelOtpWindow ∧
    candidate ≤ now.toNat/global.panelOtpStepSec+global.panelOtpWindow ∧
    totpCode hmac secret candidate global.panelOtpDigits=.ok otp

lemma foldl_or_eq_zero {α : Type} (f : α → Nat) (l : List α) (d : Nat) :
    l.foldl (fun diff x => diff ||| f x) d=0 ↔ d=0 ∧ ∀ x∈l,f x=0 := by
  induction l generalizing d with
  | nil => simp
  | cons x l ih =>
    rw [foldl_cons,ih,Nat.or_eq_zero_iff]
    simp [and_assoc]

lemma constantTimeEqual_iff {lhs rhs : Bytes} (hl : lhs.length<2^32)
    (hr : rhs.length<2^32) : constantTimeEqual lhs rhs=true ↔ lhs=rhs := by
  rw [constantTimeEqual,decide_eq_true_iff,foldl_or_eq_zero,
    Nat.mod_eq_of_lt (Nat.xor_lt_two_pow hl hr),xor_eq_zero_iff]
  constructor
  · intro h
    obtain ⟨hln,hby⟩ := h
    refine List.ext_getElem hln fun i hi hi' => ?_
    have hb := xor_eq_zero_iff.mp (hby i (mem_range.mpr (by omega)))
    rw [List.getD_eq_getElem _ _ hi,List.getD_eq_getElem _ _ hi'] at hb
    exact UInt8.toNat_inj.mp hb
  intro h
  simp [h]

section
lemma percentDecode_length_le (src : Bytes) : (percentDecode src).length ≤ src.length := by
  induction src using percentDecode.induct with
  | case1 => simp [percentDecode]
  | case2 ch rest ih =>
    have hl := urlChar_length ch rest
    rw [percentDecode]
    simp only [length_cons]
    omega

variable {outCapacity : Nat} {name request src value : Bytes}

lemma urlDecodeLoop_eq {out : Bytes} (ho : out.length<outCapacity) (src : Bytes) :
    urlDecodeLoop outCapacity out src=
      (decide ((out++percentDecode src).length<outCapacity),
        (out++percentDecode src).take (outCapacity-1)) := by
  induction out,src using urlDecodeLoop.induct outCapacity with
  | case1 out =>
    rw [urlDecodeLoop,percentDecode,append_nil,take_of_length_le (by omega),decide_eq_true ho]
  | case2 out ch rest hf =>
    have hl : out.length=outCapacity-1 := by omega
    rw [urlDecodeLoop,if_pos hf,← hl,take_left,decide_eq_false]
    simp only [percentDecode,length_append,length_cons]
    omega
  | case3 out ch rest hr ih =>
    rw [urlDecodeLoop,if_neg hr,ih (by simp; omega),percentDecode]
    simp

lemma urlDecode_of_fits (hf : src.length<outCapacity) (memory : Bytes) :
    (urlDecode memory src outCapacity).2=cString (percentDecode src) := by
  have hln := percentDecode_length_le src
  have hr : (percentDecode src).length<outCapacity := by omega
  have hn : ([] : Bytes).length<outCapacity := Nat.zero_lt_of_lt hf
  have hl := urlDecodeLoop_eq hn src
  rw [nil_append,decide_eq_true hr,take_of_length_le (by omega)] at hl
  simp only [urlDecode,hl,if_true]

lemma urlDecode_of_short {memory : Bytes} (hc : 0<outCapacity)
    (hs : (urlDecode memory src outCapacity).2.length<outCapacity-1) :
    (urlDecode memory src outCapacity).2=cString ((percentDecode src).take (outCapacity-1)) := by
  have hnl : ([] : Bytes).length<outCapacity := hc
  have hl := urlDecodeLoop_eq hnl src
  rw [nil_append] at hl
  simp only [urlDecode,hl] at hs ⊢
  split_ifs at hs ⊢ with hr
  · rfl
  -- The text fills the buffer, so the NUL that ends it is one of its own.
  have hn : 0∈(percentDecode src).take (outCapacity-1) := by
    by_contra hn
    rw [cString_append,if_neg hn,length_append,length_take] at hs
    simp only [decide_eq_true_eq] at hr
    omega
  rw [cString_append,if_pos hn]

lemma queryValueIn_cases (memory key : Bytes) (outCapacity : Nat) (parts : List Bytes) :
    (queryValueIn memory key outCapacity parts).2=[] ∨
      ∃ value,(key,value)∈parts.filterMap (cutAt 61) ∧
        queryValueIn memory key outCapacity parts=urlDecode memory value outCapacity := by
  induction parts with
  | nil => exact .inl rfl
  | cons part parts ih =>
    rw [queryValueIn]
    rcases hc : cutAt 61 part with _ | pair
    · simpa [List.filterMap_cons,hc] using ih
    obtain ⟨name,value⟩ := pair
    simp only [List.filterMap_cons,hc]
    split_ifs with hn
    · exact .inr ⟨value,by simp [hn],rfl⟩
    refine ih.imp_right fun h => ?_
    obtain ⟨found,hf,heq⟩ := h
    exact ⟨found,mem_cons_of_mem _ hf,heq⟩

lemma headerValueIn_some {lines : List Bytes}
    (h : headerValueIn name outCapacity lines=some value) :
    ∃ field∈((lines.map stripCr).takeWhile (·≠[])).filterMap (cutAt 58),
      sameNocase field.1 name=true ∧ trim (field.2.take (outCapacity-1))=value := by
  induction lines with
  | nil => cases h
  | cons line lines ih =>
    rw [headerValueIn] at h
    split_ifs at h with he
    rw [map_cons,takeWhile_cons_of_pos (by simpa using he)]
    have hr (hnx : headerValueIn name outCapacity lines=some value) :
        ∃ field∈(stripCr line::(lines.map stripCr).takeWhile (·≠[])).filterMap (cutAt 58),
          sameNocase field.1 name=true ∧ trim (field.2.take (outCapacity-1))=value := by
      obtain ⟨field,hf,hn⟩ := ih hnx
      refine ⟨field,?_,hn⟩
      rw [mem_filterMap] at hf ⊢
      obtain ⟨later,hl,hc⟩ := hf
      exact ⟨later,mem_cons_of_mem _ hl,hc⟩
    rcases hc : cutAt 58 (stripCr line) with _ | field
    · rw [hc] at h
      exact hr h
    rw [hc] at h
    simp only at h
    split_ifs at h with hn
    · cases h
      exact ⟨field,mem_filterMap.mpr ⟨_,mem_cons_self,hc⟩,hn,rfl⟩
    · exact hr h

lemma length_le_of_mem_queryParams {query : Bytes} (h : (name,value)∈queryParams query) :
    value.length≤query.length := by
  obtain ⟨part,hp,hc⟩ := mem_filterMap.mp h
  have hle := (Text.infix_of_mem_line hp).length_le
  unfold cutAt at hc
  split_ifs at hc
  cases hc
  have hd := (dropWhile_suffix (l := part) (·≠61)).length_le
  rw [length_tail]
  omega

lemma headerValue_some (h : headerValue request name outCapacity=some value) :
    ∃ field∈headerFields request,
      sameNocase field.1 name=true ∧ trim (field.2.take (outCapacity-1))=value :=
  headerValueIn_some h

lemma getD_headerValue (h : (headerValue request name outCapacity).getD []≠[]) :
    ∃ field∈headerFields request,
      sameNocase field.1 name=true ∧ trim (field.2.take (outCapacity-1))=
        (headerValue request name outCapacity).getD [] := by
  cases hv : headerValue request name outCapacity with
  | none =>
    rw [hv] at h
    exact absurd rfl h
  | some value => exact headerValue_some hv
end

variable {memory request query : Bytes}

lemma requestToken_presented (hq : query.length<emtaskMaxText)
    (hne : requestToken memory request query≠[]) :
    TokenPresented request query (requestToken memory request query) := by
  unfold requestToken at hne ⊢
  split_ifs at hne ⊢ with hb hf
  · left
    unfold bearerToken at hb ⊢
    rcases hv : headerValue request (cstr "Authorization") emtaskMaxText with _ | header
    · rw [hv] at hb
      exact absurd rfl hb
    rw [hv] at hb
    obtain ⟨field,hf,hn,rfl⟩ := headerValue_some hv
    simp only at hb ⊢
    split_ifs at hb ⊢ with hbg
    · exact ⟨field,hf,hn,hbg,rfl⟩
    · exact absurd rfl hb
  · exact .inr (.inl (getD_headerValue hf))
  right
  right
  rcases queryValueIn_cases memory (cstr "token") emtaskMaxText (query.splitOnP (·=38)) with
    hnn | ⟨value,hv,heq⟩
  · exact absurd hnn hne
  refine ⟨value,hv,?_⟩
  have hl := length_le_of_mem_queryParams hv
  rw [queryValue,heq,urlDecode_of_fits (by omega)]

lemma headerOtp_presented (h : headerOtp request≠[]) : ∃ field∈headerFields request,
    (sameNocase field.1 (cstr "X-Panel-OTP")=true ∨ sameNocase field.1 (cstr "X-OTP")=true) ∧
      trim (field.2.take 63)=headerOtp request := by
  unfold headerOtp at h ⊢
  cases hv : headerValue request (cstr "X-Panel-OTP") 64 with
  | some otp =>
    obtain ⟨field,hf,hn,ht⟩ := headerValue_some hv
    exact ⟨field,hf,.inl hn,ht⟩
  | none =>
    rw [hv] at h
    obtain ⟨field,hf,hn,ht⟩ := getD_headerValue h
    exact ⟨field,hf,.inr hn,ht⟩

lemma requestOtp_presented (hne : requestOtp memory request query≠[])
    (hs : (requestOtp memory request query).length<63) :
    OtpPresented request query (requestOtp memory request query) := by
  unfold requestOtp at hne hs ⊢
  split_ifs at hne hs ⊢ with hh
  · exact .inl (headerOtp_presented hh)
  right
  rcases queryValueIn_cases memory (cstr "otp") 64 (query.splitOnP (·=38)) with
    hn | ⟨value,hv,heq⟩
  · exact absurd hn hne
  refine ⟨value,hv,?_⟩
  rw [queryValue,heq] at hs ⊢
  exact (urlDecode_of_short (by decide) hs).symm

lemma length_paddedDecimal (digits n : Nat) : (paddedDecimal digits n).length=digits := by
  induction digits with
  | zero => rfl
  | succ digits ih => simp [paddedDecimal,ih]

variable {hmac : HmacSha1} {counter : Nat} {global : GlobalConfig} {now : Int}

lemma totpCode_ok {secret code : Bytes} {digits : Nat}
    (h : totpCode hmac secret counter digits=.ok code) : digits≤8 ∧ code.length=digits := by
  unfold totpCode at h
  split_ifs at h with hb
  rcases hr : hmac secret (beBytes 8 counter) with _ | mac
  · rw [hr] at h
    cases h
  rw [hr] at h
  cases h
  exact ⟨by omega,length_paddedDecimal _ _⟩

lemma mem_otpCandidates {window cand : Nat} (h : cand∈otpCandidates counter window) :
    counter ≤ cand+window ∧ cand ≤ counter+window := by
  rcases mem_append.mp h with hb | ha
  · obtain ⟨i,hi,hc⟩ := mem_filterMap.mp hb
    rw [List.mem_reverse,mem_range] at hi
    split_ifs at hc
    cases hc
    omega
  obtain ⟨i,hi,rfl⟩ := mem_map.mp ha
  rw [mem_range] at hi
  omega

lemma verifyOtp_sound {otp : Bytes} (h : verifyOtp hmac global now otp=true) :
    otp≠[] ∧ otp.length≤8 ∧ CurrentCode hmac global now otp := by
  rcases hs : decodeBase32Secret global.panelOtpSecret 128 with _ | secret
  · simp [verifyOtp,hs] at h
  simp only [verifyOtp,hs] at h
  split_ifs at h with he hd hl ht
  obtain ⟨candidate,hcn,hm⟩ := any_eq_true.mp h
  rcases hc : totpCode hmac secret candidate global.panelOtpDigits with _ | expected
  · rw [hc] at hm
    cases hm
  rw [hc] at hm
  obtain ⟨hd,hexpected⟩ := totpCode_ok hc
  have ho : otp.length=global.panelOtpDigits := not_ne_iff.mp hl
  have heq : expected=otp := (constantTimeEqual_iff (by omega) (by omega)).mp hm
  obtain ⟨hlw,hh⟩ := mem_otpCandidates hcn
  exact ⟨he,by omega,secret,candidate,hs,by omega,hlw,hh,heq ▸ hc⟩

lemma TokenPresented.length {token : Bytes} (hq : query.length<emtaskMaxText)
    (h : TokenPresented request query token) : token.length<emtaskMaxText := by
  rcases h with ⟨field,-,-,-,rfl⟩ | ⟨field,-,-,rfl⟩ | ⟨value,hv,rfl⟩
  · have hi := length_trim_le (field.2.take 1023)
    have ho := length_trim_le ((trim (field.2.take 1023)).drop 7)
    rw [length_take] at hi
    rw [length_drop] at ho
    unfold emtaskMaxText
    omega
  · have hi := length_trim_le (field.2.take 1023)
    rw [length_take] at hi
    unfold emtaskMaxText
    omega
  have hc := ( List.takeWhile_prefix (l := percentDecode value) (·≠0)).length_le
  have hd := percentDecode_length_le value
  have hle := length_le_of_mem_queryParams hv
  unfold cString
  omega

/-- A configuration with both checks that the loader takes. -/
structure GlobalConfig.ChecksBoth (global : GlobalConfig) : Prop where
  token : global.panelAuth &&& emtaskPanelAuthToken≠0
  otp : global.panelAuth &&& emtaskPanelAuthOtp≠0
  token_ne : global.panelToken≠[]
  token_fits : global.panelToken.length < emtaskMaxText

lemma verifyRequestAuth_sound (hg : global.ChecksBoth) (hq : query.length<emtaskMaxText)
    (h : verifyRequestAuth hmac global now memory request query=true) :
    TokenPresented request query global.panelToken ∧
      ∃ otp,OtpPresented request query otp ∧ CurrentCode hmac global now otp := by
  have ha : global.panelAuth≠0 := fun hz => hg.token (by rw [hz]; rfl)
  rw [verifyRequestAuth,if_neg ha,Bool.and_eq_true,decide_eq_false hg.token,decide_eq_false hg.otp,
    Bool.false_or,Bool.false_or] at h
  obtain ⟨ht,ho⟩ := h
  constructor
  · have hf : global.panelToken.length<2^32 := hg.token_fits.trans (by decide)
    have hne : requestToken memory request query≠[] := by
      intro he
      rw [he,constantTimeEqual_iff hf (by decide)] at ht
      exact hg.token_ne ht
    have hp := requestToken_presented hq hne
    have hl := (hp.length hq).trans (show emtaskMaxText<2^32 by decide)
    rwa [(constantTimeEqual_iff hf hl).mp ht]
  obtain ⟨hne,hl,hc⟩ := verifyOtp_sound ho
  exact ⟨_,requestOtp_presented hne (by omega),hc⟩

end EMSSHD.Emtask
