import EMSSHD.Core.Userauth.Request
import EMSSHD.Platform.TextFile

namespace EMSSHD

def emsshPosixPasswdPath : Bytes := cstr "/etc/passwd"
def emsshPosixShadowPath : Bytes := cstr "/etc/shadow"
def emsshPosixPasswdAuthLineMax : Nat := 2048
def emsshPosixPasswdAuthHashMax : Nat := 512
def emsshPosixPasswdAuthUsernameMax : Nat := 256
def emsshPosixPasswdAuthPasswordMax : Nat := 256

def copyRequestField (data : StringView) (outCapacity : Nat) : Except Err Bytes :=
  if outCapacity<viewLen data+1 then .error .bufferTooSmall else .ok (data.getD []++[0])

def splitAtColon (text : Bytes) : Option (Bytes×Bytes) :=
  if 58∈text then some (text.takeWhile (·≠58),(text.dropWhile (·≠58)).drop 1) else none

def lineExtractHashForUser (line username : Bytes) : Option Bytes :=
  match splitAtColon line with
  | none => none
  | some (user,fields) =>
    if user≠username then none
    else match splitAtColon fields with
      | none => none
      | some (hash,_) => if hash.length=0 then none else some hash

def hashFieldRequiresShadow (hash : Bytes) : Bool :=
  hash∈[cstr "x",cstr "*",cstr "!",cstr "!!"]

def hashFieldIsUsable (hash : Bytes) : Bool :=
  hash.length≠0 && !hashFieldRequiresShadow hash

/-- ssh_posix_passwd_auth_t, with the crypt of the C library. -/
structure PosixPasswdAuth where
  fs : TextFs
  passwdPath : Bytes := emsshPosixPasswdPath
  shadowPath : Bytes := emsshPosixShadowPath
  crypt : (password hash : Bytes) → Option Bytes

def verifyPasswordAgainstHash (auth : PosixPasswdAuth) (password hash : Bytes) : Bool :=
  hash.length≠0 && hash.length<emsshPosixPasswdAuthHashMax && auth.crypt password hash=some hash

def parseLineCopyHashIfMatch (username : Bytes) (hashCapacity : Nat) (line : Bytes) :
    Except Err (Option Bytes) :=
  match lineExtractHashForUser line username with
  | none => .ok none
  | some hash => if hashCapacity<hash.length+1 then .error .bufferTooSmall else .ok (some hash)

def readHashFromFile (auth : PosixPasswdAuth) (path username : Bytes) : Except Err Bytes :=
  match auth.fs path with
  | .error e => .error e
  | .ok pieces =>
    match scanFile emsshPosixPasswdAuthLineMax
      (parseLineCopyHashIfMatch username emsshPosixPasswdAuthHashMax) [] pieces with
    | .error e => .error e
    | .ok none => .error .notFound
    | .ok (some hash) => .ok hash

def accountHash (auth : PosixPasswdAuth) (username : Bytes) : Except Err Bytes :=
  match readHashFromFile auth auth.passwdPath username with
  | .error e => .error e
  | .ok hash =>
    if hashFieldRequiresShadow hash ∧ auth.shadowPath.length≠0
    then readHashFromFile auth auth.shadowPath username else .ok hash

def passwdAuthVerify (auth : PosixPasswdAuth) (username password : Bytes) : Bool :=
  match accountHash auth username with
  | .error _ => false
  | .ok hash => hashFieldIsUsable hash && verifyPasswordAgainstHash auth password hash

def passwdAccount (username : StringView) : Option Bytes :=
  ((copyRequestField username emsshPosixPasswdAuthUsernameMax).toOption).map cString

def sshPosixPasswdAuthCb (auth : PosixPasswdAuth) (request : PasswordAuthRequest) : Bool :=
  match passwdAccount request.username,
    copyRequestField request.password emsshPosixPasswdAuthPasswordMax with
  | some account,.ok password => passwdAuthVerify auth account (cString password)
  | _,_ => false

end EMSSHD
