import EMSSHD.Platform.SshdConfig.Match

namespace EMSSHD.SshdConfig

open Call

def parseBoolValue (value : Bytes) : Except Err Bool :=
  if ["yes","true","on","1"].any fun text => strIeq value (cstr text) then .ok true
  else if ["no","false","off","0"].any fun text => strIeq value (cstr text) then .ok false
  else .error .invalidArgument

def parsePermitRootLoginValue (value : Bytes) : Except Err PermitRootLogin :=
  if strIeq value (cstr "yes") then .ok .yes
  else if strIeq value (cstr "no") then .ok .no
  else if ["prohibit-password","without-password","forced-commands-only"].any
      fun text => strIeq value (cstr text) then .ok .prohibitPassword
  else .error .invalidArgument

/-- The host that is copied to host_out, if it has room for it. -/
def listenHost (host : Bytes) (hostCapacity : Nat) : Except Err Bytes :=
  if host.length=0 ∨ hostCapacity≤host.length then .error .invalidArgument else .ok host

/-- parse_listen_address: the port that it stores when it is given a place for one, and the host.
The port is stored before the host is looked at. -/
def parseListenAddress (value : Bytes) (hostCapacity : Nat) (wantsPort : Bool) :
    Option Nat×Except Err Bytes :=
  if value=[] then (none,.error .invalidArgument)
  else if value.head?=some 91 then
    let host := value.tail.takeWhile (·≠93)
    let close := value.tail.dropWhile (·≠93)
    if close=[] ∨ host=[] then (none,.error .invalidArgument)
    else if wantsPort=true ∧ close.tail.head?=some 58 ∧ close.tail.tail≠[] then
      match parseUintInRange close.tail.tail 65535 with
      | .error e => (none,.error e)
      | .ok port => (some port,listenHost host hostCapacity)
    else (none,listenHost host hostCapacity)
  else if wantsPort=true ∧ 58∈value ∧ value.rtakeWhile (·≠58)≠[] then
    match parseUintInRange (value.rtakeWhile (·≠58)) 65535 with
    | .error _ => (none,listenHost value hostCapacity)
    | .ok port => (some port,listenHost (value.rdropWhile (·≠58)).dropLast hostCapacity)
  else (none,listenHost value hostCapacity)

def parseSubsystemValue (value : Bytes) (nameCapacity : Nat) : Except Err Bytes :=
  match tokens value with
  | [] => .error .invalidArgument
  | name::_ => if nameCapacity≤name.length then .error .invalidArgument else .ok name

/-- set_string_value -/
def stringValue (src : Bytes) (dstCapacity : Nat) : Except Err Bytes :=
  if src.length=0 ∨ dstCapacity ≤ src.length then .error .invalidArgument else .ok src

/-- A has_ flag of ssh_sshd_config_file_t and the field beside it. -/
structure Setting (α : Type) where
  given : Bool
  value : α
  deriving DecidableEq

/-- ssh_sshd_config_file_t -/
structure SshdConfigFile where
  port : Setting Nat
  listenAddress : Setting Bytes
  maxAuthTries : Setting Nat
  passwordAuthentication : Setting Bool
  pubkeyAuthentication : Setting Bool
  permitRootLogin : Setting PermitRootLogin
  allowUsers : Setting Bytes
  subsystemName : Setting Bytes
  authorizedKeysFile : Setting Bytes
  chrootDirectory : Setting Bytes
  hostKeyFile : Setting Bytes
  deriving DecidableEq

/-- ssh_sshd_config_file_defaults -/
def sshSshdConfigFileDefaults : SshdConfigFile where
  port := ⟨false,0⟩
  listenAddress := ⟨false,[]⟩
  maxAuthTries := ⟨false,0⟩
  passwordAuthentication := ⟨false,false⟩
  pubkeyAuthentication := ⟨false,false⟩
  permitRootLogin := ⟨false,.default⟩
  allowUsers := ⟨false,[]⟩
  subsystemName := ⟨false,[]⟩
  authorizedKeysFile := ⟨false,[]⟩
  chrootDirectory := ⟨false,[]⟩
  hostKeyFile := ⟨false,[]⟩

/-- The keys that parse_one_directive acts on. It accepts all others and does nothing. -/
inductive Keyword where
  | port
  | listenAddress
  | maxAuthTries
  | passwordAuthentication
  | pubkeyAuthentication
  | permitRootLogin
  | allowUsers
  | subsystem
  | authorizedKeysFile
  | chrootDirectory
  | hostKey
  deriving DecidableEq

def Keyword.name : Keyword → String
  | .port => "Port"
  | .listenAddress => "ListenAddress"
  | .maxAuthTries => "MaxAuthTries"
  | .passwordAuthentication => "PasswordAuthentication"
  | .pubkeyAuthentication => "PubkeyAuthentication"
  | .permitRootLogin => "PermitRootLogin"
  | .allowUsers => "AllowUsers"
  | .subsystem => "Subsystem"
  | .authorizedKeysFile => "AuthorizedKeysFile"
  | .chrootDirectory => "ChrootDirectory"
  | .hostKey => "HostKey"

def Keyword.all : List Keyword :=
  [.port,.listenAddress,.maxAuthTries,.passwordAuthentication,.pubkeyAuthentication,
    .permitRootLogin,.allowUsers,.subsystem,.authorizedKeysFile,.chrootDirectory,.hostKey]

def keywordOf (key : Bytes) : Option Keyword :=
  Keyword.all.find? fun keyword => strIeq key (cstr keyword.name)

def storeSetting {α : Type} (parsed : Except Err α)
    (store : Setting α → SshdConfigFile → SshdConfigFile) : Call SshdConfigFile Err Unit := do
  let value ← Call.lift parsed
  Call.modify (store ⟨true,value⟩)

/-- The directive ListenAddress. A port is wanted when none is known, and it is stored even when
the host is refused. -/
def listenAddressDirective (value : Bytes) : Call SshdConfigFile Err Unit := do
  let config ← Call.get
  let parsed := parseListenAddress value emsshSshdConfigValueMax (!config.port.given)
  Call.modify fun c => {c with port := ⟨c.port.given,parsed.1.getD c.port.value⟩}
  let host ← Call.lift parsed.2
  Call.modify fun c => {c with
    listenAddress := ⟨true,host⟩
    port := ⟨c.port.given || c.port.value≠0,c.port.value⟩}

/-- The branches of parse_one_directive. -/
def keywordDirective (value : Bytes) : Keyword → Call SshdConfigFile Err Unit
  | .port => storeSetting (parseUintInRange value 65535) fun v c => {c with port := v}
  | .listenAddress => listenAddressDirective value
  | .maxAuthTries => storeSetting (parseUintInRange value 255) fun v c => {c with maxAuthTries := v}
  | .passwordAuthentication =>
    storeSetting (parseBoolValue value) fun v c => {c with passwordAuthentication := v}
  | .pubkeyAuthentication =>
    storeSetting (parseBoolValue value) fun v c => {c with pubkeyAuthentication := v}
  | .permitRootLogin =>
    storeSetting (parsePermitRootLoginValue value) fun v c => {c with permitRootLogin := v}
  | .allowUsers =>
    storeSetting (stringValue value emsshSshdConfigValueMax) fun v c => {c with allowUsers := v}
  | .subsystem => storeSetting (parseSubsystemValue value emsshSshdConfigValueMax)
      fun v c => {c with subsystemName := v}
  | .authorizedKeysFile => storeSetting (stringValue value emsshSshdConfigValueMax)
      fun v c => {c with authorizedKeysFile := v}
  | .chrootDirectory => storeSetting (stringValue value emsshSshdConfigValueMax)
      fun v c => {c with chrootDirectory := v}
  | .hostKey =>
    storeSetting (stringValue value emsshSshdConfigValueMax) fun v c => {c with hostKeyFile := v}

def parseOneDirective (key value : Bytes) : Call SshdConfigFile Err Unit :=
  match keywordOf key with
  | none => pure ()
  | some keyword => keywordDirective value keyword

def lineText (line : Bytes) : Bytes := trimLeft (trimRight (line.takeWhile (·≠35)))
def isKeyChar (ch : UInt8) : Bool := !isSpaceChar ch && ch≠61

def lineValue (behindKey : Bytes) : Bytes :=
  trimLeft (trimRight (behindKey.tail.dropWhile fun ch => isSpaceChar ch || ch=61))

def unquoted (value : Bytes) : Bytes :=
  if 2≤value.length ∧ (value.head?=some 34 ∧ value.getLast?=some 34 ∨
      value.head?=some 39 ∧ value.getLast?=some 39) then value.tail.dropLast
  else value

/-- parse_line_inplace on a configuration and match_block_active. -/
def parseLineInplace (ctx : Option MatchContext) (line : Bytes) :
    Call (SshdConfigFile×Bool) Err Unit :=
  let text := lineText line
  let behindKey := text.dropWhile isKeyChar
  -- an empty line, and a key with nothing behind it
  if text=[] ∨ behindKey=[] then pure ()
  else if lineValue behindKey=[] then Call.fail .invalidArgument
  else
    let key := text.takeWhile isKeyChar
    let value := unquoted (lineValue behindKey)
    if strIeq key (cstr "Match") then do
      let isMatch ← Call.lift (evaluateMatchExpression value ctx)
      Call.modify fun s => (s.1,isMatch)
    else do
      let s ← Call.get
      if s.2=false then pure () else (parseOneDirective key value).onFst

inductive LineMeaning where
  | nothing
  | unfinished
  | matchBlock (value : Bytes)
  | directive (key value : Bytes)
  deriving DecidableEq

def lineMeaning (line : Bytes) : LineMeaning :=
  let text := lineText line
  let behindKey := text.dropWhile isKeyChar
  if text=[] ∨ behindKey=[] then .nothing
  else if lineValue behindKey=[] then .unfinished
  else
    let key := text.takeWhile isKeyChar
    let value := unquoted (lineValue behindKey)
    if strIeq key (cstr "Match") then .matchBlock value else .directive key value

def LineMeaning.run (ctx : Option MatchContext) : LineMeaning → Call (SshdConfigFile×Bool) Err Unit
  | .nothing => pure ()
  | .unfinished => Call.fail .invalidArgument
  | .matchBlock value => do
    let isMatch ← Call.lift (evaluateMatchExpression value ctx)
    Call.modify fun s => (s.1,isMatch)
  | .directive key value => do
    let s ← Call.get
    if s.2=false then pure () else (parseOneDirective key value).onFst

lemma parseLineInplace_eq (ctx : Option MatchContext) (line : Bytes) :
    parseLineInplace ctx line=(lineMeaning line).run ctx := by
  unfold parseLineInplace lineMeaning
  dsimp only
  split_ifs <;> rfl

def SameSetting (a b : SshdConfigFile) : Keyword → Prop
  | .port => a.port=b.port
  | .listenAddress => a.listenAddress=b.listenAddress
  | .maxAuthTries => a.maxAuthTries=b.maxAuthTries
  | .passwordAuthentication => a.passwordAuthentication=b.passwordAuthentication
  | .pubkeyAuthentication => a.pubkeyAuthentication=b.pubkeyAuthentication
  | .permitRootLogin => a.permitRootLogin=b.permitRootLogin
  | .allowUsers => a.allowUsers=b.allowUsers
  | .subsystem => a.subsystemName=b.subsystemName
  | .authorizedKeysFile => a.authorizedKeysFile=b.authorizedKeysFile
  | .chrootDirectory => a.chrootDirectory=b.chrootDirectory
  | .hostKey => a.hostKeyFile=b.hostKeyFile

lemma SameSetting.refl (a : SshdConfigFile) (keyword : Keyword) : SameSetting a a keyword := by
  cases keyword <;> rfl

lemma SameSetting.trans {a b c : SshdConfigFile} {keyword : Keyword}
    (h : SameSetting a b keyword) (h' : SameSetting b c keyword) : SameSetting a c keyword := by
  cases keyword <;> exact Eq.trans h h'

variable {a b c : SshdConfigFile} {keyword other : Keyword} {value : Bytes}
variable {α : Type}

lemma storeSetting_run (parsed : Except Err α)
    (store : Setting α → SshdConfigFile → SshdConfigFile) (c : SshdConfigFile) :
    (storeSetting parsed store).run c=match parsed with
      | .error e => (.error e,c)
      | .ok v => (.ok (),store ⟨true,v⟩ c) := by
  cases parsed <;> rfl

lemma listenAddressDirective_run (value : Bytes) (c : SshdConfigFile) :
    (listenAddressDirective value).run c=
      let parsed := parseListenAddress value emsshSshdConfigValueMax (!c.port.given)
      let port := parsed.1.getD c.port.value
      match parsed.2 with
      | .error e => (.error e,{c with port := ⟨c.port.given,port⟩})
      | .ok host => (.ok (),{c with
          listenAddress := ⟨true,host⟩
          port := ⟨c.port.given || port≠0,port⟩}) := by
  unfold listenAddressDirective
  rw [run_bind_ok (run_get c),run_bind_ok (run_modify _ c)]
  dsimp only
  cases (parseListenAddress value emsshSshdConfigValueMax (!c.port.given)).2 <;> rfl

lemma parseListenAddress_known (value : Bytes) (cap : Nat) :
    (parseListenAddress value cap false).1=none := by
  unfold parseListenAddress
  simp only [Bool.false_eq_true,false_and,if_false]
  split_ifs <;> rfl

lemma storeSetting_frame {parsed : Except Err α}
    {store : Setting α → SshdConfigFile → SshdConfigFile} (hs : ∀ v,SameSetting a (store v a) other)
    (hr : (storeSetting parsed store).run a=(.ok (),b)) : SameSetting a b other := by
  rw [storeSetting_run] at hr
  rcases parsed with _ | v
  · cases hr
  obtain ⟨-,rfl⟩ := Prod.mk.inj hr
  exact hs _

lemma listenAddressDirective_frame (hr : (listenAddressDirective value).run a=(.ok (),b))
    (ho : other≠.listenAddress) (hp : other=.port → a.port.given=true) : SameSetting a b other := by
  rw [listenAddressDirective_run] at hr
  dsimp only at hr
  split at hr
  case _ e he => cases hr
  case _ host he =>
    obtain ⟨-,rfl⟩ := Prod.mk.inj hr
    cases other
    case port =>
      have hg := hp rfl
      rw [SameSetting,hg,Bool.not_true,parseListenAddress_known,Option.getD_none,Bool.true_or,← hg]
    case listenAddress => exact absurd rfl ho
    all_goals rfl

/-- A directive leaves the settings of the other keywords alone. Only the port may come from a
ListenAddress as well, as long as there is none. -/
theorem keywordDirective_frame (hr : (keywordDirective value keyword).run a=(.ok (),b))
    (ho : other≠keyword) (hp : other=.port → keyword=.listenAddress → a.port.given=true) :
    SameSetting a b other := by
  cases keyword
  case listenAddress =>
    exact listenAddressDirective_frame hr ho fun he => hp he rfl
  all_goals
    rw [keywordDirective] at hr
    refine storeSetting_frame (fun v => ?_) hr
    cases other <;> first | rfl | exact absurd rfl ho

lemma portDirective_given (hr : (keywordDirective value .port).run a=(.ok (),b)) :
    b.port.given=true := by
  rw [keywordDirective,storeSetting_run] at hr
  rcases hp : parseUintInRange value 65535 with _ | v
  · rw [hp] at hr
    cases hr
  rw [hp] at hr
  obtain ⟨-,rfl⟩ := Prod.mk.inj hr
  rfl

lemma keywordDirective_port_given (hr : (keywordDirective value keyword).run a=(.ok (),b))
    (hg : a.port.given=true) : b.port.given=true := by
  by_cases hp : keyword=.port
  · exact portDirective_given (hp ▸ hr)
  have hs : SameSetting a b .port := keywordDirective_frame hr (Ne.symm hp) fun _ _ => hg
  rw [← show a.port=b.port from hs]
  exact hg

variable {earlier later : Bytes}

end EMSSHD.SshdConfig
