import EMSSHD.Core.Wildcard
import EMSSHD.Framework.Call
import EMSSHD.Math.Text
import EMSSHD.Platform.TextFile

namespace EMSSHD.SshdConfig

/-- EMSSH_SSHD_CONFIG_VALUE_MAX -/
def emsshSshdConfigValueMax : Nat := 512

def isSpaceChar (ch : UInt8) : Bool := ch=32 || ch=9 || ch=13 || ch=10
def trimLeft (text : Bytes) : Bytes := text.dropWhile isSpaceChar
def trimRight (text : Bytes) : Bytes := text.rdropWhile isSpaceChar
def lowerChar (ch : UInt8) : UInt8 := if 65≤ch ∧ ch≤90 then ch-65+97 else ch
def strIeq (a b : Bytes) : Bool := a.map lowerChar=b.map lowerChar
def tokens (text : Bytes) : List Bytes := Text.words isSpaceChar text

def firstTokenIsAll (value : Bytes) : Bool :=
  match tokens value with
  | [] => false
  | first::_ => strIeq first (cstr "all")

/-- The loop of parse_uint_in_range, which is the one of parse_local_port_token too. -/
def parseDigits (maxValue : Nat) : Nat → Bytes → Except Err Nat
  | parsed,[] => .ok parsed
  | parsed,ch::rest =>
    if ch<48 ∨ 57<ch then .error .invalidArgument
    else
      let digit := ch.toNat-48
      if (maxValue-digit)/10<parsed then .error .invalidArgument
      else parseDigits maxValue (parsed*10+digit) rest

def parseUintInRange (value : Bytes) (maxValue : Nat) : Except Err Nat := do
  checkThat (value≠[]) .invalidArgument
  let parsed ← parseDigits maxValue 0 value
  checkThat (parsed≠0) .invalidArgument
  pure parsed

def parseLocalPortToken (token : Bytes) : Except Err Nat := parseUintInRange token 65535

/-- ssh_sshd_match_context_t -/
structure MatchContext where
  user : Option Bytes := none
  group : Option Bytes := none
  host : Option Bytes := none
  address : Option Bytes := none
  localAddress : Option Bytes := none
  localPort : Nat := 0
  rdomain : Option Bytes := none
  deriving DecidableEq

def listItems (patternList : Bytes) : List Bytes :=
  Text.words (fun ch => ch=44 || isSpaceChar ch) patternList

def negatedItem (item : Bytes) : Bool×Bytes :=
  if item.head?=some 33 then (true,item.tail) else (false,item)

/-- The loop of list_pattern_matches. -/
def listPatternLoop (value : Bytes) : List Bytes → (sawPositive matchedPositive : Bool) → Bool
  | [],sawPositive,matchedPositive => if sawPositive=false then true else matchedPositive
  | item::items,sawPositive,matchedPositive =>
    let (negated,pattern) := negatedItem item
    if pattern=[] then listPatternLoop value items sawPositive matchedPositive
    else if patternMatchesWildcards pattern value then
      if negated then false else listPatternLoop value items true true
    else listPatternLoop value items (sawPositive || !negated) matchedPositive

def listPatternMatches (patternList : Bytes) : Option Bytes → Bool
  | none => false
  | some value =>
    if value=[] then false else listPatternLoop value (listItems patternList) false false

/-- The loop of match_local_port_list, whose token has room for fifteen characters. -/
def localPortLoop (localPort : Nat) : List Bytes → (sawPositive matchedPositive : Bool) → Bool
  | [],sawPositive,matchedPositive => if sawPositive=false then true else matchedPositive
  | item::items,sawPositive,matchedPositive =>
    let (negated,token) := negatedItem item
    if token.length=0 ∨ 16≤token.length then false
    else match parseLocalPortToken token with
      | .error _ => false
      | .ok parsedPort =>
        if parsedPort=localPort then
          if negated then false else localPortLoop localPort items true true
        else localPortLoop localPort items (sawPositive || !negated) matchedPositive

def matchLocalPortList (patternList : Bytes) (localPort : Nat) : Bool :=
  if patternList=[] ∨ localPort=0 then false
  else localPortLoop localPort (listItems patternList) false false

def criteria : List (String×(MatchContext → Bytes → Bool)) :=
  [("User",fun ctx patternList => listPatternMatches patternList ctx.user),
    ("Group",fun ctx patternList => listPatternMatches patternList ctx.group),
    ("Host",fun ctx patternList => listPatternMatches patternList ctx.host),
    ("Address",fun ctx patternList => listPatternMatches patternList ctx.address),
    ("LocalAddress",fun ctx patternList => listPatternMatches patternList ctx.localAddress),
    ("LocalPort",fun ctx patternList => matchLocalPortList patternList ctx.localPort),
    ("RDomain",fun ctx patternList => listPatternMatches patternList ctx.rdomain)]

def evaluateMatchCriterion (keyword patternList : Bytes) (ctx : Option MatchContext) :
    Except Err Bool :=
  match criteria.find? fun criterion => strIeq keyword (cstr criterion.1) with
  | none => .error .unsupported
  | some criterion => .ok (ctx.any fun ctx => criterion.2 ctx patternList)

/-- The loop of evaluate_match_expression: a keyword and its argument in each round. -/
def matchLoop (ctx : Option MatchContext) : List Bytes → Bool → Except Err Bool
  | [],matched => .ok matched
  | [_],_ => .error .invalidArgument
  | first::argument::rest,matched =>
    let (negateKeyword,keyword) := negatedItem first
    if keyword=[] then .error .invalidArgument
    else match evaluateMatchCriterion keyword argument ctx with
      | .error e => .error e
      | .ok criterionMatch =>
        matchLoop ctx rest (matched && (if negateKeyword then !criterionMatch else criterionMatch))

def evaluateMatchExpression (value : Bytes) (ctx : Option MatchContext) : Except Err Bool := do
  checkThat (value.length≠0 ∧ value.length<emsshSshdConfigValueMax) .invalidArgument
  if firstTokenIsAll value then
    match tokens value with
    | [_] => .ok true
    | _ => .error .invalidArgument
  else matchLoop ctx (tokens value) true

def IsDigit (ch : UInt8) : Prop := 48≤ch ∧ ch≤57

def digitsValue (parsed : Nat) (digits : Bytes) : Nat :=
  digits.foldl (fun acc ch => acc*10+(ch.toNat-48)) parsed

/-- The decimal texts of the numbers from 1 on. -/
structure DecimalText (maxValue : Nat) (text : Bytes) (n : Nat) : Prop where
  nonempty : text≠[]
  digits : ∀ ch∈text,IsDigit ch
  value : digitsValue 0 text=n
  pos : n≠0
  le : n ≤ maxValue

lemma le_digitsValue (parsed : Nat) (digits : Bytes) : parsed≤digitsValue parsed digits := by
  induction digits generalizing parsed with
  | nil => exact Nat.le_refl _
  | cons ch digits ih =>
    have hn := ih (parsed*10+(ch.toNat-48))
    change _≤digitsValue (parsed*10+(ch.toNat-48)) digits
    omega

variable {maxValue n : Nat}

lemma parseDigits_iff {parsed : Nat} {digits : Bytes} (hm : 9 ≤ maxValue)
    (hp : parsed ≤ maxValue) : parseDigits maxValue parsed digits=.ok n ↔
      (∀ ch∈digits,IsDigit ch) ∧ digitsValue parsed digits=n ∧ n ≤ maxValue := by
  induction digits generalizing parsed with
  | nil =>
    simp only [parseDigits,digitsValue,List.foldl_nil,Except.ok.injEq,not_mem_nil]
    constructor
    · rintro rfl
      exact ⟨fun _ h => h.elim,rfl,hp⟩
    · exact fun h => h.2.1
  | cons ch digits ih =>
    rw [parseDigits,forall_mem_cons]
    change _ ↔ _ ∧ digitsValue (parsed*10+(ch.toNat-48)) digits=n ∧ _
    dsimp only
    split_ifs with hd ho
    · refine iff_of_false (fun h => by cases h) fun h => ?_
      obtain ⟨⟨⟨hl,hh⟩,-⟩,-⟩ := h
      exact hd.elim (UInt8.not_lt.mpr hl) (UInt8.not_lt.mpr hh)
    · have hb := le_digitsValue (parsed*10+(ch.toNat-48)) digits
      refine iff_of_false (fun h => by cases h) fun h => ?_
      obtain ⟨⟨⟨-,hh⟩,-⟩,rfl,hle⟩ := h
      have hch : ch.toNat≤57 := UInt8.le_iff_toNat_le.mp hh
      have hdv := Nat.div_lt_iff_lt_mul (show 0<10 by decide) |>.mp ho
      omega
    have hch : IsDigit ch := ⟨UInt8.not_lt.mp fun h => hd (.inl h),
      UInt8.not_lt.mp fun h => hd (.inr h)⟩
    have hc : ch.toNat≤57 := UInt8.le_iff_toNat_le.mp hch.2
    have hdv := Nat.le_div_iff_mul_le (show 0<10 by decide) |>.mp (Nat.not_lt.mp ho)
    rw [ih (by omega)]
    exact ⟨fun h => ⟨⟨hch,h.1⟩,h.2⟩,fun h => ⟨h.1.2,h.2⟩⟩

lemma parseUintInRange_iff {value : Bytes} (hm : 9 ≤ maxValue) :
    parseUintInRange value maxValue=.ok n ↔ DecimalText maxValue value n := by
  unfold parseUintInRange
  rw [checkThat_bind_eq_ok]
  constructor
  · rintro ⟨hne,h⟩
    obtain ⟨parsed,hp,h⟩ := except_bind_ok h
    obtain ⟨hps,hn⟩ := checkThat_bind_eq_ok.mp h
    obtain rfl := Except.ok.inj hn
    obtain ⟨hd,hv,hle⟩ := (parseDigits_iff hm (Nat.zero_le _)).mp hp
    exact ⟨hne,hd,hv,hps,hle⟩
  intro h
  have hp := (parseDigits_iff hm (Nat.zero_le maxValue)).mpr ⟨h.digits,h.value,h.le⟩
  refine ⟨h.nonempty,?_⟩
  rw [hp]
  exact checkThat_bind_eq_ok.mpr ⟨h.pos,rfl⟩

/-- The loop in the unsigned long of a machine. -/
def parseDigitsMachine (width maxValue : Nat) : Nat → Bytes → Except Err Nat
  | parsed,[] => .ok parsed
  | parsed,ch::rest =>
    if ch<48 ∨ 57<ch then .error .invalidArgument
    else
      let digit := ch.toNat-48
      if (2^width+maxValue-digit)%2^width/10<parsed then .error .invalidArgument
      else parseDigitsMachine width maxValue ((parsed*10+digit)%2^width) rest

lemma parseDigitsMachine_eq {width parsed : Nat} {digits : Bytes} (hm : 9 ≤ maxValue)
    (hw : maxValue<2^width) :
    parseDigitsMachine width maxValue parsed digits= parseDigits maxValue parsed digits := by
  induction digits generalizing parsed with
  | nil => rfl
  | cons ch digits ih =>
    rw [parseDigitsMachine,parseDigits]
    dsimp only
    by_cases hd : ch<48 ∨ 57<ch
    · rw [if_pos hd,if_pos hd]
    have hc : ch.toNat≤57 := UInt8.le_iff_toNat_le.mp (UInt8.not_lt.mp fun h => hd (.inr h))
    have hs : (2^width+maxValue-(ch.toNat-48))%2^width=maxValue-(ch.toNat-48) := by
      rw [Nat.add_sub_assoc (by omega),Nat.add_mod_left,Nat.mod_eq_of_lt (by omega)]
    rw [if_neg hd,if_neg hd,hs]
    split_ifs with ho
    · rfl
    have hdv := Nat.le_div_iff_mul_le (show 0<10 by decide) |>.mp (Nat.not_lt.mp ho)
    rw [Nat.mod_eq_of_lt (by omega),ih]

/-- The numbers of the configuration are the decimal texts within their range, and neither the
difference nor the sum of a step leaves the machine's range. -/
theorem config_number_exact (value : Bytes) (width : Nat) (hm : 9 ≤ maxValue)
    (hw : maxValue<2^width) :
    (parseUintInRange value maxValue=.ok n ↔ DecimalText maxValue value n) ∧
      (parseLocalPortToken value=.ok n ↔ DecimalText 65535 value n) ∧
      parseDigitsMachine width maxValue 0 value=parseDigits maxValue 0 value :=
  ⟨parseUintInRange_iff hm,parseUintInRange_iff (by decide),parseDigitsMachine_eq hm hw⟩

theorem config_number_exact_zeros : DecimalText 255 (cstr "000000000000000000000255") 255 ∧
    ¬DecimalText 255 (cstr "256") 256 := by
  constructor
  · exact (config_number_exact _ 8 (by decide) (by decide)).1.mp (by decide)
  intro h
  have hp := (config_number_exact _ 8 (by decide) (by decide)).1.mpr h
  exact absurd hp (by decide)

end EMSSHD.SshdConfig
