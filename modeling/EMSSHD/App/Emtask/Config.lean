import EMSSHD.Core.Status
import Mathlib.Data.List.DropRight

namespace EMSSHD.Emtask

def emtaskMaxText : Nat := 1024
def emtaskMaxPath : Nat := 512
def emtaskMaxTasks : Nat := 32
def emtaskMaxTaskName : Nat := 64
def emtaskPanelAuthToken : Nat := 1
def emtaskPanelAuthOtp : Nat := 2

/-- The settings of emtask_global_config_t that the panel reads. -/
structure GlobalConfig where
  configDir : Bytes
  username : Bytes
  authorizedKeysFile : Bytes
  panelListenAddress : Bytes
  panelToken : Bytes
  panelOtpSecret : Bytes
  panelTasksDbFile : Bytes
  panelAuth : Nat
  panelOtpDigits : Nat
  panelOtpStepSec : Nat
  panelOtpWindow : Nat
  panelPort : Nat
  useConpty : Bool
  panelEnabled : Bool
  bindRetryEnabled : Bool

def panelGlobal : GlobalConfig where
  configDir := cstr "/etc/emtask"
  username := cstr "emtask"
  authorizedKeysFile := cstr "authorized_keys"
  panelListenAddress := cstr "127.0.0.1"
  panelToken := cstr "token"
  panelOtpSecret := cstr "GEZDGNBV"
  panelTasksDbFile := cstr "emtask_tasks.sqlite3"
  panelAuth := 3
  panelOtpDigits := 6
  panelOtpStepSec := 60
  panelOtpWindow := 1
  panelPort := 6024
  useConpty := true
  panelEnabled := true
  bindRetryEnabled := false

def isBlank (ch : UInt8) : Bool := ch=32 || ch=9 || ch=13 || ch=10

/-- emtask_trim: the text between the blanks at its two ends. -/
def trim (text : Bytes) : Bytes := (text.dropWhile isBlank).rdropWhile isBlank

lemma length_trim_le (text : Bytes) : (trim text).length≤text.length :=
  ( List.rdropWhile_prefix _ _).length_le.trans (dropWhile_suffix _).length_le

/-- What emtask_trim leaves in the buffer: it ends the text, and the blanks in front stay. -/
def trimmedBuffer (text : Bytes) : Bytes := text.takeWhile isBlank ++ trim text

def charToLower (ch : UInt8) : UInt8 := if 65 ≤ ch ∧ ch ≤ 90 then ch-65+97 else ch
def sameNocase (lhs rhs : Bytes) : Bool := lhs.map charToLower=rhs.map charToLower

/-- emtask_key_equals, which is strcasecmp -/
def keyEquals (lhs rhs : Bytes) : Bool := sameNocase lhs rhs

def isCSpace (ch : UInt8) : Bool := 9 ≤ ch && ch ≤ 13 || ch=32

def signAndDigits (text : Bytes) : Bool×Bytes :=
  match text with
  | [] => (false,[])
  | ch::rest => if ch=45 then (true,rest) else if ch=43 then (false,rest) else (false,text)

def decimalValue (digits : Bytes) : Nat := digits.foldl (fun acc ch => 10*acc+(ch.toNat-48)) 0

def unsignedLong (negative : Bool) (value : Nat) : Nat :=
  if 2^64 ≤ value then 2^64-1 else if negative=true ∧ value≠0 then 2^64-value else value

def strtoul (text : Bytes) : Option (Nat×Bytes) :=
  let (negative,rest) := signAndDigits (text.dropWhile isCSpace)
  let digits := rest.takeWhile isDigit
  if digits=[] then none
  else some (unsignedLong negative (decimalValue digits),rest.dropWhile isDigit)

/-- emtask_parse_unsigned -/
def parseUnsigned (text : Bytes) : Except Err Nat :=
  match strtoul text with
  | none => .error .invalidArgument
  | some (value,rest) => if rest≠[] ∨ 1000000 < value then .error .invalidArgument else .ok value

def parseBool (text : Bytes) : Except Err Bool :=
  if ["1","true","yes","on"].any (keyEquals text <| cstr ·) then .ok true
  else if ["0","false","no","off"].any (keyEquals text <| cstr ·) then .ok false
  else .error .invalidArgument

end EMSSHD.Emtask
