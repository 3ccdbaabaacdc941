import EMSSHD.App.Emtask.Json
import EMSSHD.Framework.Call

namespace EMSSHD.Emtask

/-- emtask_task_config_t -/
structure TaskConfig where
  name : Bytes
  listenAddress : Bytes
  command : Bytes
  workingDir : Bytes
  port : Nat
  restartLimit : Nat
  restartWindowSec : Nat
  replayBufferBytes : Nat
  useConpty : Bool
  replayOnAttach : Bool
  repaintOnAttach : Bool
  screenSnapshot : Bool
  useSftp : Bool
  deriving DecidableEq

/-- emtask_task_config_defaults, with the values of a platform that is not Windows -/
def taskConfigDefaults : TaskConfig where
  name := []
  listenAddress := []
  command := []
  workingDir := []
  port := 2222
  restartLimit := 8
  restartWindowSec := 60
  replayBufferBytes := 1048576
  useConpty := true
  replayOnAttach := true
  repaintOnAttach := true
  screenSnapshot := true
  useSftp := true

def jsonGetPort (json : Bytes) : Except Err Nat :=
  match jsonGetUint json (cstr "port") 0 true with
  | .error _ => .error .invalidArgument
  | .ok value => if value=0 ∨ 65535 < value then .error .invalidArgument else .ok value

def jsonGetWorkingDir (json : Bytes) : Except Err Bytes := do
  let workingDir ← jsonGetString json (cstr "working_dir") emtaskMaxPath false
  pure (if workingDir=[] then cstr "." else workingDir)

/-- emtask_json_parse_task -/
def jsonParseTask (global : GlobalConfig) (json : Bytes) : Except Err TaskConfig := do
  let task := {taskConfigDefaults with useConpty := global.useConpty}
  let name ← jsonGetString json (cstr "name") emtaskMaxTaskName true
  let command ← jsonGetString json (cstr "command") emtaskMaxText true
  let port ← jsonGetPort json
  let listenAddress ← jsonGetString json (cstr "listen_address") emtaskMaxText false
  let workingDir ← jsonGetWorkingDir json
  let useSftp ← jsonGetBool json (cstr "use_sftp") task.useSftp false
  let useConpty ← jsonGetBool json (cstr "use_conpty") task.useConpty false
  let restartLimit ← jsonGetUint json (cstr "restart_limit") task.restartLimit false
  let restartWindowSec ← jsonGetUint json (cstr "restart_window_sec") task.restartWindowSec false
  let replayBufferBytes ← jsonGetUint json (cstr "replay_buffer_bytes") task.replayBufferBytes false
  let replayOnAttach ← jsonGetBool json (cstr "replay_on_attach") task.replayOnAttach false
  let repaintOnAttach ← jsonGetBool json (cstr "repaint_on_attach") task.repaintOnAttach false
  let screenSnapshot ← jsonGetBool json (cstr "screen_snapshot") task.screenSnapshot false
  pure {task with
    name,listenAddress,command,workingDir,port,restartLimit,restartWindowSec
    replayBufferBytes,useConpty,replayOnAttach,repaintOnAttach,screenSnapshot,useSftp}

def jsonPatched {α : Type} (json : Bytes) (key : String) (current : α) (read : Except Err α) :
    Except Err α :=
  if jsonHasMember json (cstr key)=true then read else .ok current

def patchedMembers : List String := ["command","port","listen_address","working_dir","use_sftp",
  "use_conpty","replay_on_attach","repaint_on_attach","screen_snapshot"]

def jsonGetCommand (json : Bytes) : Except Err Bytes :=
  match jsonGetString json (cstr "command") emtaskMaxText true with
  | .error _ => .error .invalidArgument
  | .ok command => if command=[] then .error .invalidArgument else .ok command

/-- emtask_json_patch_task -/
def jsonPatchTask (json : Bytes) (base : TaskConfig) : Except Err TaskConfig := do
  checkThat (jsonHasMember json (cstr "name")=false) .invalidArgument
  let command ← jsonPatched json "command" base.command (jsonGetCommand json)
  let port ← jsonPatched json "port" base.port (jsonGetPort json)
  let listenAddress ← jsonPatched json "listen_address" base.listenAddress
    (jsonGetString json (cstr "listen_address") emtaskMaxText false)
  let workingDir ← jsonPatched json "working_dir" base.workingDir (jsonGetWorkingDir json)
  let useSftp ← jsonGetBool json (cstr "use_sftp") base.useSftp false
  let useConpty ← jsonGetBool json (cstr "use_conpty") base.useConpty false
  let replayOnAttach ← jsonGetBool json (cstr "replay_on_attach") base.replayOnAttach false
  let repaintOnAttach ← jsonGetBool json (cstr "repaint_on_attach") base.repaintOnAttach false
  let screenSnapshot ← jsonGetBool json (cstr "screen_snapshot") base.screenSnapshot false
  checkThat (patchedMembers.any (jsonHasMember json <| cstr ·)=true) .invalidArgument
  pure {base with
    command,port,listenAddress,workingDir,useSftp,useConpty,replayOnAttach
    repaintOnAttach,screenSnapshot}

/-- emtask_copy_text, as the text in its destination -/
def copyText (capacity : Nat) (text : Bytes) : Except Err Bytes :=
  if capacity < text.length+1 then .error .bufferTooSmall else .ok text

/-- emtask_resolve_path, where a path that begins with a slash is absolute -/
def resolvePath (baseDir value : Bytes) : Except Err Bytes :=
  if value=[] then .ok []
  else if value.head?=some 47 ∨ baseDir=[] then copyText emtaskMaxPath value
  else copyText emtaskMaxPath (baseDir ++ [47] ++ value)

def listenAddressIsWildcard (address : Bytes) : Bool :=
  ["0.0.0.0","::","[::]","*"].any (keyEquals address <| cstr ·)

def listenAddressPairConflicts (lhs rhs : Bytes) : Bool :=
  lhs≠[] && rhs≠[] &&
    (keyEquals lhs rhs || listenAddressIsWildcard lhs || listenAddressIsWildcard rhs)

def addressTokens (text : Bytes) : List Bytes := (text.splitOnP (·=44)).map trim

/-- emtask_listen_addresses_conflict; a text that is too long for the copy counts as a conflict. -/
def listenAddressesConflict (lhs lhsDefault rhs rhsDefault : Bytes) : Bool :=
  let lhsText := if lhs≠[] then lhs else lhsDefault
  let rhsText := if rhs≠[] then rhs else rhsDefault
  emtaskMaxText < lhsText.length+1 || (addressTokens lhsText).any fun l =>
    l≠[] && (emtaskMaxText < rhsText.length+1 ||
      (addressTokens rhsText).any (listenAddressPairConflicts l))

def taskConflictsWithPanel (global : GlobalConfig) (task : TaskConfig) : Bool :=
  global.panelEnabled && task.port=global.panelPort &&
    listenAddressesConflict task.listenAddress (cstr "0.0.0.0") global.panelListenAddress
      (cstr "127.0.0.1")

end EMSSHD.Emtask
