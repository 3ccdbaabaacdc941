import EMSSHD.Core.Base64Decoder
import EMSSHD.Platform.PosixPasswdAuth

namespace EMSSHD

def linuxServerMaxPath : Nat := 512
def linuxServerMaxUsername : Nat := 128
def authorizedKeysLineMax : Nat := 1024
def isSpaceCharLocal (ch : UInt8) : Bool := ch=32 || ch=9 || ch=13 || ch=10
def blankTokens (text : Bytes) : List Bytes := (text.splitOnP isSpaceCharLocal).filter (·≠[])

def decodeBase64TokenLocal (text : Bytes) (outCapacity : Nat) : Except Err Bytes :=
  match text.foldlM (decodeBase64Step outCapacity) {} with
  | .error e => .error e
  | .ok s => if s.out.length≠0 then .ok s.out else .error .malformedPacket

def isAuthorizedKeyAlgorithmToken (token : Bytes) : Bool :=
  token=cstr "ssh-ed25519" || token=cstr "ssh-rsa" || token=cstr "ecdsa-sha2-nistp256"

def blobToken (line : Bytes) : Option Bytes :=
  let tokens := (blankTokens line).takeWhile fun token => token.head?≠some 35
  ((tokens.dropWhile fun token => !isAuthorizedKeyAlgorithmToken token).drop 1).head?

def linePublickeyBlobMatchesRequest (request : PublickeyAuthRequest) (line : Bytes) :
    Except Err (Option Unit) :=
  match blobToken line with
  | none => .ok none
  | some token => match decodeBase64TokenLocal token emsshMaxHostKeyBlob with
    | .error _ => .ok none
    | .ok blob => .ok (if blob=request.publickeyBlob.getD [] then some () else none)

def authorizedKeysFileContainsKey (fs : TextFs) (path : Bytes) (request : PublickeyAuthRequest) :
    Except Err Bool :=
  match fs path with
  | .error e => .error e
  | .ok pieces =>
    match scanFile authorizedKeysLineMax (linePublickeyBlobMatchesRequest request) [] pieces with
    | .error e => .error e
    | .ok found => .ok found.isSome

def isSafeForPath (ch : UInt8) : Bool :=
  (97 ≤ ch && ch≤122) || (65 ≤ ch && ch≤90) || (48 ≤ ch && ch≤57) || ch=95 || ch=45 || ch=46

def usernameIsSafeForPath (username : Bytes) : Bool :=
  username.length≠0 && username.all isSafeForPath

def buildHomePathForUser (username : Bytes) : Except Err Bytes :=
  if usernameIsSafeForPath username=false then .error .invalidArgument
  else
    let home := if username=cstr "root" then cstr "/root" else cstr "/home/"++username
    if linuxServerMaxPath≤home.length then .error .bufferTooSmall else .ok home

def appendToPath (out text : Bytes) : Except Err Bytes :=
  if linuxServerMaxPath≤out.length+text.length then .error .bufferTooSmall else .ok (out++text)

def expandTemplate (username home : Bytes) : Bytes → Bytes → Except Err Bytes
  | out,[] => .ok out
  | _,[37] => .error .invalidArgument
  | out,37::ch::rest => do
    let text ← if ch=117 then Except.ok username else if ch=104 then .ok home
      else if ch=37 then .ok [37] else .error Err.invalidArgument
    expandTemplate username home (← appendToPath out text) rest
  | out,ch::rest => do expandTemplate username home (← appendToPath out [ch]) rest

def normalizeHostFsPath (input : Bytes) : Except Err Bytes :=
  let path := input.dropWhile (·=47)
  if path.length=0 then .error .invalidArgument
  else if linuxServerMaxPath<path.length+1 then .error .bufferTooSmall
  else .ok path

def expandAuthorizedKeysTemplate (templatePath username : Bytes) : Except Err Bytes := do
  let src := if templatePath.length≠0 then templatePath else cstr ".ssh/authorized_keys"
  if usernameIsSafeForPath username=false then .error .invalidArgument
  let home ← match buildHomePathForUser username with
    | .error _ => Except.error Err.invalidArgument
    | .ok home => .ok home
  let out ← expandTemplate username home [] src
  if out.length=0 then .error .invalidArgument
  let absolute := if out.head?=some 47 then out else home++[47]++out
  if linuxServerMaxPath≤absolute.length then .error .bufferTooSmall
  normalizeHostFsPath absolute

def publickeyAuthorizedByPathList (fs : TextFs) (request : PublickeyAuthRequest)
    (username : Bytes) (pathList : Option Bytes) : Bool :=
  let paths := match pathList with
    | none => cstr ".ssh/authorized_keys .ssh/authorized_keys2"
    | some [] => cstr ".ssh/authorized_keys .ssh/authorized_keys2"
    | some paths => paths
  (blankTokens paths).any fun token =>
    token.length<linuxServerMaxPath && match expandAuthorizedKeysTemplate token username with
      | .error _ => false
      | .ok resolved => authorizedKeysFileContainsKey fs resolved request=.ok true

structure RuntimePolicy where
  passwordAuth : Bool
  publickeyAuth : Bool
  allowUsers : Option Bytes
  permitRootLogin : PermitRootLogin
  authorizedKeysFile : Option Bytes

/-- The context of the callbacks. Loading the configuration depends on the user name as a
C string. -/
structure AuthRuntimeContext where
  hostFs : TextFs
  loadRuntimePolicyForUser : (username : Bytes) → Except Err RuntimePolicy

def copyUsernameRequestLocal (username : StringView) : Except Err Bytes :=
  if viewLen username=0 ∨ linuxServerMaxUsername<viewLen username+1 then .error .invalidArgument
  else .ok (username.getD []++[0])

def usernameAllowedByAllowUsersLocal (allowUsers : Option Bytes) (username : StringView) : Bool :=
  usernameAllowedByAllowUsers allowUsers username

def rootLoginAllowsMethodLocal (permitRootLogin : PermitRootLogin) (username : StringView)
    (isPasswordMethod : Bool) : Bool :=
  !usernameIsRoot username || rootLoginAllows permitRootLogin isPasswordMethod

def keysUser (username : StringView) : Option Bytes :=
  ((copyUsernameRequestLocal username).toOption).map cString

def linuxPublickeyAuthCb (authCtx : AuthRuntimeContext) (request : PublickeyAuthRequest) : Bool :=
  viewLen request.publickeyBlob≠0 && match keysUser request.username with
  | none => false
  | some username => usernameIsSafeForPath username &&
    match authCtx.loadRuntimePolicyForUser username with
    | .error _ => false
    | .ok policy => policy.publickeyAuth &&
      usernameAllowedByAllowUsersLocal policy.allowUsers request.username &&
      rootLoginAllowsMethodLocal policy.permitRootLogin request.username false &&
      publickeyAuthorizedByPathList authCtx.hostFs request username policy.authorizedKeysFile

end EMSSHD
