import EMSSHD.Sftp.Realpath

namespace EMSSHD

def emsshSftpMaxHandles : Nat := 16

inductive SftpHandleKind where
  | file
  | dir
  deriving DecidableEq, Repr

/-- The pointer that the file system gives out for an open file, 0 for NULL. -/
abbrev FsHandle := Nat

structure SftpHandleEntry where
  kind : SftpHandleKind
  wireHandle : Bytes
  fsHandle : FsHandle
  pflags : Nat
  path : Bytes
  attrs : FsAttrs
  deriving DecidableEq

/-- sftp_server_session_t. The file system and the policy do not change once they
are installed and are arguments of the handlers. -/
structure SftpServerSession where
  nextHandleId : Nat
  handles : Fin emsshSftpMaxHandles → Option SftpHandleEntry
  deriving DecidableEq

structure FsRead (len : Nat) where
  readLen : Nat
  data : Bytes
  inside : data.length=len

/-- ssh_fs_dirent_t and the end-of-directory flag beside it. -/
structure FsDirent where
  filename : Option Bytes
  longname : Option Bytes
  attrs : FsAttrs
  eof : Bool
  deriving DecidableEq

/-- ssh_fs_statvfs_t -/
structure FsStatvfs where
  bsize : Nat
  frsize : Nat
  blocks : Nat
  bfree : Nat
  bavail : Nat
  files : Nat
  ffree : Nat
  favail : Nat
  fsid : Nat
  flag : Nat
  namemax : Nat
  deriving DecidableEq

/-- ssh_fs_api_t. Each callback may be missing, and all of them share a context. -/
structure FsApi (σ : Type) where
  openFile : Option (Bytes → Nat → Call σ Err FsHandle) := none
  close : Option (FsHandle → Call σ Err Unit) := none
  read : Option (FsHandle → (len : Nat) → Call σ Err (FsRead len)) := none
  write : Option (FsHandle → Bytes → Call σ Err Nat) := none
  readAt : Option (FsHandle → Nat → (len : Nat) → Call σ Err (FsRead len)) := none
  writeAt : Option (FsHandle → Nat → Bytes → Call σ Err Nat) := none
  stat : Option (Bytes → Call σ Err FsAttrs) := none
  lstat : Option (Bytes → Call σ Err FsAttrs) := none
  setstat : Option (Bytes → FsAttrs → Call σ Err Unit) := none
  fsetstat : Option (FsHandle → FsAttrs → Call σ Err Unit) := none
  opendir : Option (Bytes → Call σ Err FsHandle) := none
  readdir : Option (FsHandle → Call σ Err FsDirent) := none
  closedir : Option (FsHandle → Call σ Err Unit) := none
  mkdir : Option (Bytes → FsAttrs → Call σ Err Unit) := none
  rmdir : Option (Bytes → Call σ Err Unit) := none
  remove : Option (Bytes → Call σ Err Unit) := none
  rename : Option (Bytes → Bytes → Call σ Err Unit) := none
  posixRename : Option (Bytes → Bytes → Call σ Err Unit) := none
  fsync : Option (FsHandle → Call σ Err Unit) := none
  hardlink : Option (Bytes → Bytes → Call σ Err Unit) := none
  statvfs : Option (Bytes → Call σ Err FsStatvfs) := none
  fstatvfs : Option (FsHandle → Call σ Err FsStatvfs) := none

inductive FsCall where
  | openFile (path : Bytes) (flags : Nat) (result : Except Err FsHandle)
  | close (handle : FsHandle)
  | read (handle : FsHandle) (len : Nat)
  | write (handle : FsHandle) (data : Bytes)
  | readAt (handle : FsHandle) (offset len : Nat)
  | writeAt (handle : FsHandle) (offset : Nat) (data : Bytes)
  | stat (path : Bytes)
  | lstat (path : Bytes)
  | setstat (path : Bytes) (attrs : FsAttrs)
  | fsetstat (handle : FsHandle) (attrs : FsAttrs)
  | opendir (path : Bytes) (result : Except Err FsHandle)
  | readdir (handle : FsHandle)
  | closedir (handle : FsHandle)
  | mkdir (path : Bytes) (attrs : FsAttrs)
  | rmdir (path : Bytes)
  | remove (path : Bytes)
  | rename (oldPath newPath : Bytes)
  | posixRename (oldPath newPath : Bytes)
  | fsync (handle : FsHandle)
  | hardlink (oldPath newPath : Bytes)
  | statvfs (path : Bytes)
  | fstatvfs (handle : FsHandle)
  deriving DecidableEq

inductive SftpEvent where
  | policy (request : SftpPolicyRequest) (result : Except Err Unit)
  | fs (call : FsCall)
  deriving DecidableEq

structure SftpServing (σ : Type) where
  session : SftpServerSession
  world : σ
  trace : List SftpEvent := []

section
variable {σ α : Type}

def observed (event : Except Err α → SftpEvent) (callback : Call σ Err α) :
    Call (SftpServing σ) Err α :=
  ⟨fun s => ((callback.run s.world).1,
    {s with world := (callback.run s.world).2,
            trace := s.trace++[event (callback.run s.world).1]})⟩

def fsCall (call : FsCall) (callback : Call σ Err α) : Call (SftpServing σ) Err α :=
  observed (fun _ => .fs call) callback

def observedPolicy (policy : Option (SftpPolicy σ)) : Option (SftpPolicy (SftpServing σ)) :=
  policy.map fun check request => observed (.policy request) (check request)
end

section
variable {σ : Type}

def FsApi.closeCallback (api : FsApi σ) : SftpHandleKind → Option (FsHandle → Call σ Err Unit)
  | .file => api.close
  | .dir => api.closedir
end

def closeCall : SftpHandleKind → FsHandle → FsCall
  | .file,handle => .close handle
  | .dir,handle => .closedir handle

section
variable (session : SftpServerSession)

def handleEquals (entry : Option SftpHandleEntry) (handle : StringView) : Bool :=
  match entry,handle with
  | some entry,some handle => entry.wireHandle=handle
  | _,_ => false

def findHandle (handle : StringView) : Option (Fin emsshSftpMaxHandles×SftpHandleEntry) :=
  (List.finRange emsshSftpMaxHandles).findSome? fun i =>
    if handleEquals (session.handles i) handle then (session.handles i).map fun e => (i,e)
    else none

def SftpServerSession.put (i : Fin emsshSftpMaxHandles) (entry : Option SftpHandleEntry) :
    SftpServerSession :=
  {session with handles := Function.update session.handles i entry}

def allocHandle (fsHandle : FsHandle) (kind : SftpHandleKind) (pflags : Nat) (path : Bytes)
    (attrs : FsAttrs) : Option (Bytes×SftpServerSession) :=
  if fsHandle=0 ∨ emsshSftpMaxPath ≤ path.length then none
  else
    ((List.finRange emsshSftpMaxHandles).find? fun i => (session.handles i).isNone).map fun i =>
      let id := session.nextHandleId
      let next := (id+1)%2^32
      let wireHandle := beBytes 4 id
      (wireHandle,
        {session.put i (some ⟨kind,wireHandle,fsHandle,pflags,path,attrs⟩) with
          nextHandleId := if next=0 then 1 else next})
end

def updateFileSizeAfterWrite (attrs : FsAttrs) (offset writtenLen : Nat) : FsAttrs :=
  if writtenLen=0 ∨ 2^64-1-offset<writtenLen then attrs
  else if attrs.flags &&& sshFilexferAttrSize=0 ∨ attrs.size<offset+writtenLen then
    {attrs with flags := attrs.flags ||| sshFilexferAttrSize,size := offset+writtenLen}
  else attrs

def mergeAttrs (dst src : FsAttrs) : FsAttrs :=
  {flags := dst.flags ||| src.flags
   size := if src.flags &&& sshFilexferAttrSize≠0 then src.size else dst.size
   uid := if src.flags &&& sshFilexferAttrUidgid≠0 then src.uid else dst.uid
   gid := if src.flags &&& sshFilexferAttrUidgid≠0 then src.gid else dst.gid
   permissions :=
    if src.flags &&& sshFilexferAttrPermissions≠0 then src.permissions else dst.permissions
   atime := if src.flags &&& sshFilexferAttrAcmodtime≠0 then src.atime else dst.atime
   mtime := if src.flags &&& sshFilexferAttrAcmodtime≠0 then src.mtime else dst.mtime}

variable {session : SftpServerSession} {handle : StringView} {i : Fin emsshSftpMaxHandles}
  {entry : SftpHandleEntry}

lemma findHandle_some (h : findHandle session handle=some (i,entry)) :
    session.handles i=some entry ∧ handle=some entry.wireHandle := by
  unfold findHandle at h
  obtain ⟨j,-,hj⟩ := List.exists_of_findSome?_eq_some h
  split_ifs at hj with heq
  obtain ⟨e,he,hp⟩ := Option.map_eq_some_iff.mp hj
  obtain ⟨rfl,rfl⟩ := Prod.mk.inj hp
  rw [he] at heq
  refine ⟨he,?_⟩
  cases handle with
  | none => exact nomatch heq
  | some bytes => exact congrArg some (of_decide_eq_true heq).symm

lemma findHandle_none (h : findHandle session handle=none) (hi : session.handles i=some entry) :
    handle≠some entry.wireHandle := by
  intro hh
  unfold findHandle at h
  have hs := List.findSome?_eq_none_iff.mp h i (List.mem_finRange i)
  have he : handleEquals (session.handles i) handle=true := by
    rw [hi,hh]
    exact decide_eq_true rfl
  rw [if_pos he,hi] at hs
  exact nomatch hs

lemma allocHandle_some {fsHandle : FsHandle} {kind : SftpHandleKind} {pflags : Nat}
    {path wireHandle : Bytes} {attrs : FsAttrs} {next : SftpServerSession}
    (h : allocHandle session fsHandle kind pflags path attrs=some (wireHandle,next)) :
    ∃ i,session.handles i=none ∧ wireHandle=beBytes 4 session.nextHandleId ∧
      next.handles=Function.update session.handles i
        (some ⟨kind,wireHandle,fsHandle,pflags,path,attrs⟩) ∧
      next.nextHandleId=
        if (session.nextHandleId+1)%2^32=0 then 1 else (session.nextHandleId+1)%2^32 := by
  unfold allocHandle at h
  split_ifs at h with hb
  obtain ⟨i,hi,hp⟩ := Option.map_eq_some_iff.mp h
  obtain ⟨rfl,rfl⟩ := Prod.mk.inj hp
  have hf := find?_some hi
  exact ⟨i,Option.isNone_iff_eq_none.mp hf,rfl,rfl,rfl⟩

end EMSSHD
