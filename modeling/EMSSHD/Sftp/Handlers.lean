import EMSSHD.Sftp.Fs

namespace EMSSHD

def sshFxfRead : Nat := 1
def sshFxfWrite : Nat := 2
def sshFxfAppend : Nat := 4
def sshFxfCreat : Nat := 8
def sshFxfTrunc : Nat := 16
def sshFxfExcl : Nat := 32

def sftpDataResponseOverhead : Nat := 13
def emsshSftpMaxIo : Nat := emsshMaxPayloadSize

def statusMessageFromError (status : Except Err Unit) (fallback : Bytes) : Bytes :=
  match status with
  | .ok _ => cstr "ok"
  | .error .unsupported => cstr "unsupported"
  | .error .security => cstr "permission denied"
  | .error .readOnly => cstr "read only"
  | .error .notFound => cstr "not found"
  | .error .alreadyExists => cstr "already exists"
  | .error .dirNotEmpty => cstr "directory not empty"
  | .error .bufferTooSmall => cstr "buffer too small"
  | .error .bufferOverflow => cstr "buffer overflow"
  | .error .malformedPacket => cstr "bad request"
  | .error .invalidArgument => cstr "bad request"
  | .error .platform => cstr "platform error"
  | .error _ => fallback

def openPflagsAreValid (pflags : Nat) : Bool :=
  let knownFlags :=
    sshFxfRead ||| sshFxfWrite ||| sshFxfAppend ||| sshFxfCreat ||| sshFxfTrunc ||| sshFxfExcl
  let writeOnlyFlags := sshFxfAppend ||| sshFxfCreat ||| sshFxfTrunc ||| sshFxfExcl
  if withoutBits pflags knownFlags≠0 then false
  else if pflags &&& (sshFxfRead ||| sshFxfWrite)=0 then false
  else if pflags &&& writeOnlyFlags≠0 ∧ pflags &&& sshFxfWrite=0 then false
  else if pflags &&& sshFxfExcl≠0 ∧ pflags &&& sshFxfCreat=0 then false
  else true

def finishDataResponseInPlace (responseCapacity requestId : Nat) (data : Bytes) (dataLen : Nat) :
    Except Err Bytes :=
  if uint32Max-9<dataLen ∨ responseCapacity<sftpDataResponseOverhead ∨
      responseCapacity-sftpDataResponseOverhead<dataLen then .error .bufferTooSmall
  else
    .ok (beBytes 4 (dataLen+9)++sshFxpData::(beBytes 4 requestId++
      (beBytes 4 dataLen++data.take dataLen)))

def serverPacketEncode (fields : Encoder) (responseCapacity : Nat) : Except Err Bytes :=
  if responseCapacity<4 then .error .bufferTooSmall
  else match encodedBy fields (responseCapacity-4) with
    | .error e => .error e
    | .ok payload => .ok (beBytes 4 payload.length++payload)

def putExtension (advertise : Bool) (name version : String) : Encoder := do
  Call.onlyIf (advertise=true) (sshBufferPutCstring (cstr name))
  Call.onlyIf (advertise=true) (sshBufferPutCstring (cstr version))

def encodeServerVersion (responseCapacity : Nat)
    (advertisePosixRename advertiseFsync advertiseHardlink advertiseStatvfs advertiseFstatvfs : Bool) :
    Except Err Bytes :=
  serverPacketEncode (do
    sshBufferPutU8 sshFxpVersion
    sshBufferPutU32 sftpVersion3
    putExtension advertisePosixRename "posix-rename@openssh.com" "1"
    putExtension advertiseFsync "fsync@openssh.com" "1"
    putExtension advertiseHardlink "hardlink@openssh.com" "1"
    putExtension advertiseStatvfs "statvfs@openssh.com" "2"
    putExtension advertiseFstatvfs "fstatvfs@openssh.com" "2") responseCapacity

def encodeStatvfsReply (responseCapacity requestId : Nat) (stats : FsStatvfs) :
    Except Err Bytes :=
  serverPacketEncode (do
    sshBufferPutU8 sshFxpExtendedReply
    sshBufferPutU32 requestId
    sshBufferPutU64 stats.bsize
    sshBufferPutU64 stats.frsize
    sshBufferPutU64 stats.blocks
    sshBufferPutU64 stats.bfree
    sshBufferPutU64 stats.bavail
    sshBufferPutU64 stats.files
    sshBufferPutU64 stats.ffree
    sshBufferPutU64 stats.favail
    sshBufferPutU64 stats.fsid
    sshBufferPutU64 stats.flag
    sshBufferPutU64 stats.namemax) responseCapacity

def viewEqualsCstring (view : StringView) (text : String) : Bool :=
  match view with
  | none => false
  | some bytes => bytes=cstr text

section
variable {σ : Type} (fs : Option (FsApi σ)) (policy : Option (SftpPolicy σ))
  (request : Bytes) (responseCapacity : Nat)

def answerStatus (requestId : Nat) (statusCode : FxStatus) (message : String) :
    Call (SftpServing σ) Err Bytes :=
  Call.lift (encodeStatus responseCapacity requestId statusCode (cstr message))

def answerError (requestId : Nat) (e : Err) (fallback : String) :
    Call (SftpServing σ) Err Bytes :=
  Call.lift (encodeStatus responseCapacity requestId (statusFromError (.error e))
    (statusMessageFromError (.error e) (cstr fallback)))

def answerOutcome (requestId : Nat) (outcome : Except Err Unit) (fallback : String) :
    Call (SftpServing σ) Err Bytes :=
  Call.lift (encodeStatus responseCapacity requestId (statusFromError outcome)
    (statusMessageFromError outcome (cstr fallback)))

def closeFsHandle (api : FsApi σ) (kind : SftpHandleKind) (handle : FsHandle) :
    Call (SftpServing σ) Err Unit :=
  match api.closeCallback kind with
  | none => pure ()
  | some close => fsCall (closeCall kind handle) (close handle)

def setEntry (i : Fin emsshSftpMaxHandles) (entry : Option SftpHandleEntry) :
    Call (SftpServing σ) Err Unit :=
  Call.modify fun s => {s with session := s.session.put i entry}

def closeEntry (i : Fin emsshSftpMaxHandles) : Call (SftpServing σ) Err Unit := do
  let s ← Call.get
  match s.session.handles i with
  | none => Call.fail .invalidArgument
  | some entry => do
    let closed ← (match fs with
      | none => pure ()
      | some api => closeFsHandle api entry.kind entry.fsHandle).status
    setEntry i none
    Call.lift closed

def handleInit : Call (SftpServing σ) Err Bytes :=
  match sftpInitDecode request with
  | .error _ => answerStatus responseCapacity 0 .badMessage "bad init"
  | .ok _ =>
    Call.lift (encodeServerVersion responseCapacity (fs.bind FsApi.posixRename).isSome
      (fs.bind FsApi.fsync).isSome (fs.bind FsApi.hardlink).isSome (fs.bind FsApi.statvfs).isSome
      (fs.bind FsApi.fstatvfs).isSome)

def handlePathAttrs (packetType : UInt8) : Call (SftpServing σ) Err Bytes :=
  match (if packetType=sshFxpLstat then sftpLstatRequestDecode request
      else sftpStatRequestDecode request) with
  | .error _ => answerStatus responseCapacity 0 .badMessage "bad stat"
  | .ok attrsRequest =>
    match (if packetType=sshFxpLstat then fs.bind FsApi.lstat else fs.bind FsApi.stat) with
    | none => answerStatus responseCapacity attrsRequest.id .opUnsupported "stat unsupported"
    | some callback => do
      match ← (do
          let path ← Call.lift (copyPath attrsRequest.path)
          policyCheck (observedPolicy policy) {operation := .stat,path}
          fsCall (if packetType=sshFxpLstat then .lstat path else .stat path)
            (callback path)).status with
      | .error e => answerError responseCapacity attrsRequest.id e "stat failed"
      | .ok attrs => Call.lift (sftpAttrsEncode responseCapacity attrsRequest.id attrs)

def statOr (api : FsApi σ) (path : Bytes) (attrs : FsAttrs) : Call (SftpServing σ) Err FsAttrs :=
  match api.stat with
  | none => pure attrs
  | some stat => do
    match ← (fsCall (.stat path) (stat path)).status with
    | .error _ => pure attrs
    | .ok found => pure found

def answerNewHandle (api : FsApi σ) (requestId : Nat) (kind : SftpHandleKind) (pflags : Nat)
    (path : Bytes) (attrs : FsAttrs) (fsHandle : FsHandle) : Call (SftpServing σ) Err Bytes := do
  let s ← Call.get
  match allocHandle s.session fsHandle kind pflags path attrs with
  | none => do
    (closeFsHandle api kind fsHandle).ignore
    answerStatus responseCapacity requestId .failure "no handles"
  | some (wireHandle,session) => do
    Call.modify fun s => {s with session}
    Call.lift (sftpHandleEncode responseCapacity requestId wireHandle)

def setOpenAttrs (api : FsApi σ) (fsHandle : FsHandle) (openAttrs : FsAttrs) :
    Call (SftpServing σ) Err Unit :=
  match api.fsetstat with
  | none => pure ()
  | some fsetstat =>
    Call.onlyIf (openAttrs.flags≠0) (fsCall (.fsetstat fsHandle openAttrs) (fsetstat fsHandle openAttrs))

def openChecked (api : FsApi σ) (openFile : Bytes → Nat → Call σ Err FsHandle) (requestId pflags : Nat)
    (path : Bytes) (requestedAttrs openAttrs : FsAttrs) : Call (SftpServing σ) Err Bytes := do
  match ← (policyCheck (observedPolicy policy)
      {operation := .openFile,path,pflags,attrs := some requestedAttrs}).status with
  | .error e => answerStatus responseCapacity requestId (statusFromError (.error e)) "open denied"
  | .ok _ => do
    match ← (observed (fun r => .fs (.openFile path pflags r)) (openFile path pflags)).status with
    | .error e => answerError responseCapacity requestId e "open failed"
    | .ok fsHandle => do
      match ← (setOpenAttrs api fsHandle openAttrs).status with
      | .error e => do
        (closeFsHandle api .file fsHandle).ignore
        answerError responseCapacity requestId e "open attrs failed"
      | .ok _ => do
        let attrs ← statOr api path openAttrs
        answerNewHandle responseCapacity api requestId .file pflags path attrs fsHandle

def handleOpen : Call (SftpServing σ) Err Bytes :=
  match sftpOpenRequestDecode request with
  | .error _ => answerStatus responseCapacity 0 .badMessage "bad open"
  | .ok openRequest =>
    match fs with
    | none => answerStatus responseCapacity openRequest.id .opUnsupported "open unsupported"
    | some api =>
      match api.openFile with
      | none => answerStatus responseCapacity openRequest.id .opUnsupported "open unsupported"
      | some openFile =>
        match copyPath openRequest.filename with
        | .error e =>
          answerStatus responseCapacity openRequest.id (statusFromError (.error e)) "bad path"
        | .ok path =>
          if openPflagsAreValid openRequest.pflags=false then
            answerStatus responseCapacity openRequest.id .badMessage "bad open flags"
          else match sftpAttrsDecode openRequest.attrs with
            | .error e =>
              answerStatus responseCapacity openRequest.id (statusFromError (.error e)) "bad attrs"
            | .ok requestedAttrs =>
              let openAttrs := {requestedAttrs with
                flags := withoutBits requestedAttrs.flags sshFilexferAttrSize}
              if requestedAttrs.flags≠0 ∧ openRequest.pflags &&& sshFxfWrite=0 then
                answerStatus responseCapacity openRequest.id .permissionDenied "open attrs denied"
              else if openAttrs.flags≠0 ∧ api.fsetstat.isNone then
                answerStatus responseCapacity openRequest.id .opUnsupported "open attrs unsupported"
              else
                openChecked policy responseCapacity api openFile openRequest.id openRequest.pflags
                  path requestedAttrs openAttrs

def handleClose : Call (SftpServing σ) Err Bytes :=
  match sftpCloseRequestDecode request with
  | .error _ => answerStatus responseCapacity 0 .badMessage "bad close"
  | .ok closeRequest => do
    let s ← Call.get
    match findHandle s.session closeRequest.handle with
    | none => answerStatus responseCapacity closeRequest.id .failure "bad handle"
    | some (i,_) => do
      let outcome ← (closeEntry fs i).status
      answerOutcome responseCapacity closeRequest.id outcome "close failed"

def refreshedAttrs (entry : SftpHandleEntry) : Call (SftpServing σ) Err FsAttrs :=
  match fs with
  | none => pure entry.attrs
  | some api => if entry.path=[] then pure entry.attrs else statOr api entry.path entry.attrs

def handleFstat : Call (SftpServing σ) Err Bytes :=
  match sftpFstatRequestDecode request with
  | .error _ => answerStatus responseCapacity 0 .badMessage "bad fstat"
  | .ok fstatRequest => do
    let s ← Call.get
    match findHandle s.session fstatRequest.handle with
    | none => answerStatus responseCapacity fstatRequest.id .failure "bad handle"
    | some (i,entry) => do
      match ← (policyCheck (observedPolicy policy) {operation := .fstat,path := entry.path}).status with
      | .error e =>
        answerStatus responseCapacity fstatRequest.id (statusFromError (.error e)) "fstat denied"
      | .ok _ => do
        let attrs ← refreshedAttrs fs entry
        setEntry i (some {entry with attrs})
        if attrs.flags=0 then
          answerStatus responseCapacity fstatRequest.id .opUnsupported "fstat unsupported"
        else Call.lift (sftpAttrsEncode responseCapacity fstatRequest.id attrs)

def handleSetstat : Call (SftpServing σ) Err Bytes :=
  match sftpSetstatRequestDecode request with
  | (id,.error e) => answerStatus responseCapacity id (statusFromError (.error e)) "bad setstat"
  | (id,.ok (view,attrs)) =>
    match fs.bind FsApi.setstat with
    | none => answerStatus responseCapacity id .opUnsupported "setstat unsupported"
    | some setstat => do
      let outcome ← (do
        let path ← Call.lift (copyPath view)
        policyCheck (observedPolicy policy) {operation := .setstat,path,attrs := some attrs}
        fsCall (.setstat path attrs) (setstat path attrs)).status
      answerOutcome responseCapacity id outcome "setstat failed"

def handleFsetstat : Call (SftpServing σ) Err Bytes :=
  match sftpFsetstatRequestDecode request with
  | (id,.error e) => answerStatus responseCapacity id (statusFromError (.error e)) "bad fsetstat"
  | (id,.ok (handle,attrs)) =>
    match fs.bind FsApi.fsetstat with
    | none => answerStatus responseCapacity id .opUnsupported "fsetstat unsupported"
    | some fsetstat => do
      let s ← Call.get
      match findHandle s.session handle with
      | none => answerStatus responseCapacity id .failure "bad handle"
      | some (i,entry) =>
        if entry.kind≠.file then answerStatus responseCapacity id .failure "bad handle"
        else if entry.pflags &&& sshFxfWrite=0 then
          answerStatus responseCapacity id .permissionDenied "fsetstat denied"
        else do
          match ← (policyCheck (observedPolicy policy)
              ⟨.fsetstat,entry.path,none,entry.pflags,0,0,some attrs⟩).status with
          | .error e => answerStatus responseCapacity id (statusFromError (.error e)) "fsetstat denied"
          | .ok _ => do
            let outcome ← (do
              fsCall (.fsetstat entry.fsHandle attrs) (fsetstat entry.fsHandle attrs)
              setEntry i (some {entry with attrs := mergeAttrs entry.attrs attrs})).status
            answerOutcome responseCapacity id outcome "fsetstat failed"

/-- read_at where there is one, otherwise read. -/
def FsApi.reader (api : FsApi σ) :
    Option (FsHandle → Nat → (len : Nat) → Call (SftpServing σ) Err (FsRead len)) :=
  match api.readAt,api.read with
  | some readAt,_ =>
    some fun handle offset len => fsCall (.readAt handle offset len) (readAt handle offset len)
  | none,some read => some fun handle _ len => fsCall (.read handle len) (read handle len)
  | none,none => none

def handleRead : Call (SftpServing σ) Err Bytes :=
  match sftpReadRequestDecode request with
  | .error _ => answerStatus responseCapacity 0 .badMessage "bad read"
  | .ok readRequest =>
    match fs.bind FsApi.reader with
    | none => answerStatus responseCapacity readRequest.id .opUnsupported "read unsupported"
    | some read => do
      let s ← Call.get
      match findHandle s.session readRequest.handle with
      | none => answerStatus responseCapacity readRequest.id .failure "bad handle"
      | some (_,entry) =>
        if entry.kind≠.file then answerStatus responseCapacity readRequest.id .failure "bad handle"
        else if entry.pflags &&& sshFxfRead=0 then
          answerStatus responseCapacity readRequest.id .permissionDenied "read denied"
        else if responseCapacity ≤ sftpDataResponseOverhead then Call.fail .bufferTooSmall
        else do
          let dataCapacity := responseCapacity-sftpDataResponseOverhead
          let wanted := min (min readRequest.len emsshSftpMaxIo) dataCapacity
          match ← (policyCheck (observedPolicy policy)
              ⟨.read,entry.path,none,entry.pflags,readRequest.offset,wanted,none⟩).status with
          | .error e =>
            answerStatus responseCapacity readRequest.id (statusFromError (.error e)) "read denied"
          | .ok _ => do
            match ← (read entry.fsHandle readRequest.offset wanted).status with
            | .error e => answerError responseCapacity readRequest.id e "read failed"
            | .ok got =>
              if wanted<got.readLen then
                answerStatus responseCapacity readRequest.id .failure "invalid read length"
              else if got.readLen=0 then answerStatus responseCapacity readRequest.id .eof "eof"
              else
                Call.lift (finishDataResponseInPlace responseCapacity readRequest.id got.data
                  got.readLen)

def handleOpendir : Call (SftpServing σ) Err Bytes :=
  match sftpOpendirRequestDecode request with
  | .error _ => answerStatus responseCapacity 0 .badMessage "bad opendir"
  | .ok opendirRequest =>
    match fs with
    | none => answerStatus responseCapacity opendirRequest.id .opUnsupported "opendir unsupported"
    | some api =>
      match api.opendir with
      | none => answerStatus responseCapacity opendirRequest.id .opUnsupported "opendir unsupported"
      | some opendir =>
        match copyPath opendirRequest.path with
        | .error e =>
          answerStatus responseCapacity opendirRequest.id (statusFromError (.error e)) "bad path"
        | .ok path => do
          match ← (policyCheck (observedPolicy policy) {operation := .opendir,path}).status with
          | .error e =>
            answerStatus responseCapacity opendirRequest.id (statusFromError (.error e))
              "opendir denied"
          | .ok _ => do
            match ← (observed (fun r => .fs (.opendir path r)) (opendir path)).status with
            | .error e => answerError responseCapacity opendirRequest.id e "opendir failed"
            | .ok fsHandle => do
              let attrs ← statOr api path {}
              answerNewHandle responseCapacity api opendirRequest.id .dir 0 path attrs fsHandle

def handleReaddir : Call (SftpServing σ) Err Bytes :=
  match sftpReaddirRequestDecode request with
  | .error _ => answerStatus responseCapacity 0 .badMessage "bad readdir"
  | .ok readdirRequest =>
    match fs.bind FsApi.readdir with
    | none => answerStatus responseCapacity readdirRequest.id .opUnsupported "readdir unsupported"
    | some readdir => do
      let s ← Call.get
      match findHandle s.session readdirRequest.handle with
      | none => answerStatus responseCapacity readdirRequest.id .failure "bad handle"
      | some (_,entry) =>
        if entry.kind≠.dir then answerStatus responseCapacity readdirRequest.id .failure "bad handle"
        else do
          match ← (policyCheck (observedPolicy policy)
              {operation := .readdir,path := entry.path}).status with
          | .error e =>
            answerStatus responseCapacity readdirRequest.id (statusFromError (.error e))
              "readdir denied"
          | .ok _ => do
            match ← (fsCall (.readdir entry.fsHandle) (readdir entry.fsHandle)).status with
            | .error e => answerError responseCapacity readdirRequest.id e "readdir failed"
            | .ok dirent =>
              if dirent.eof then answerStatus responseCapacity readdirRequest.id .eof "eof"
              else match dirent.filename with
                | none => answerStatus responseCapacity readdirRequest.id .failure "bad dirent"
                | some filename =>
                  Call.lift (sftpNameOneAttrsEncode responseCapacity readdirRequest.id filename
                    dirent.longname dirent.attrs)

/-- write_at where there is one, otherwise write, and whether it is write_at. -/
def FsApi.writer (api : FsApi σ) :
    Option ((FsHandle → Nat → Bytes → Call (SftpServing σ) Err Nat)×Bool) :=
  match api.writeAt,api.write with
  | some writeAt,_ =>
    some (fun handle offset data => fsCall (.writeAt handle offset data) (writeAt handle offset data),
      true)
  | none,some write => some (fun handle _ data => fsCall (.write handle data) (write handle data),false)
  | none,none => none

def handleWrite : Call (SftpServing σ) Err Bytes :=
  match sftpWriteRequestDecode request with
  | .error _ => answerStatus responseCapacity 0 .badMessage "bad write"
  | .ok writeRequest =>
    match fs.bind FsApi.writer with
    | none => answerStatus responseCapacity writeRequest.id .opUnsupported "write unsupported"
    | some (write,usedWriteAt) => do
      let s ← Call.get
      match findHandle s.session writeRequest.handle with
      | none => answerStatus responseCapacity writeRequest.id .failure "bad handle"
      | some (i,entry) =>
        if entry.kind≠.file then answerStatus responseCapacity writeRequest.id .failure "bad handle"
        else if entry.pflags &&& sshFxfWrite=0 then
          answerStatus responseCapacity writeRequest.id .permissionDenied "write denied"
        else do
          let data := writeRequest.data.getD []
          match ← (policyCheck (observedPolicy policy)
              ⟨.write,entry.path,none,entry.pflags,writeRequest.offset,data.length,none⟩).status with
          | .error e =>
            answerStatus responseCapacity writeRequest.id (statusFromError (.error e)) "write denied"
          | .ok _ => do
            match ← (write entry.fsHandle writeRequest.offset data).status with
            | .error e => answerError responseCapacity writeRequest.id e "write failed"
            | .ok writtenLen =>
              if writtenLen≠data.length then
                answerStatus responseCapacity writeRequest.id .failure "short write"
              else do
                let attrs := updateFileSizeAfterWrite entry.attrs writeRequest.offset writtenLen
                Call.onlyIf (usedWriteAt=true) (setEntry i (some {entry with attrs}))
                answerStatus responseCapacity writeRequest.id .ok "ok"

def handleRemove : Call (SftpServing σ) Err Bytes :=
  match sftpRemoveRequestDecode request with
  | .error _ => answerStatus responseCapacity 0 .badMessage "bad remove"
  | .ok removeRequest =>
    match fs.bind FsApi.remove with
    | none => answerStatus responseCapacity removeRequest.id .opUnsupported "remove unsupported"
    | some remove => do
      let outcome ← (do
        let path ← Call.lift (copyPath removeRequest.path)
        policyCheck (observedPolicy policy) {operation := .remove,path}
        fsCall (.remove path) (remove path)).status
      answerOutcome responseCapacity removeRequest.id outcome "remove failed"

def handleMkdir : Call (SftpServing σ) Err Bytes :=
  match sftpMkdirRequestDecode request with
  | .error _ => answerStatus responseCapacity 0 .badMessage "bad mkdir"
  | .ok mkdirRequest =>
    match fs.bind FsApi.mkdir with
    | none => answerStatus responseCapacity mkdirRequest.id .opUnsupported "mkdir unsupported"
    | some mkdir => do
      let outcome ← (do
        let path ← Call.lift (copyPath mkdirRequest.path)
        let attrs ← Call.lift (sftpAttrsDecode mkdirRequest.attrs)
        policyCheck (observedPolicy policy) {operation := .mkdir,path,attrs := some attrs}
        fsCall (.mkdir path attrs) (mkdir path attrs)).status
      answerOutcome responseCapacity mkdirRequest.id outcome "mkdir failed"

def handleRmdir : Call (SftpServing σ) Err Bytes :=
  match sftpRmdirRequestDecode request with
  | .error _ => answerStatus responseCapacity 0 .badMessage "bad rmdir"
  | .ok rmdirRequest =>
    match fs.bind FsApi.rmdir with
    | none => answerStatus responseCapacity rmdirRequest.id .opUnsupported "rmdir unsupported"
    | some rmdir => do
      let outcome ← (do
        let path ← Call.lift (copyPath rmdirRequest.path)
        policyCheck (observedPolicy policy) {operation := .rmdir,path}
        fsCall (.rmdir path) (rmdir path)).status
      answerOutcome responseCapacity rmdirRequest.id outcome "rmdir failed"

/-- posix_rename takes over where rename reports that the target exists. -/
def renameOrReplace (api : FsApi σ) (rename : Bytes → Bytes → Call σ Err Unit)
    (oldPath newPath : Bytes) : Call (SftpServing σ) Err Unit := do
  match ← (fsCall (.rename oldPath newPath) (rename oldPath newPath)).status with
  | .ok _ => pure ()
  | .error e =>
    match api.posixRename with
    | none => Call.fail e
    | some posixRename =>
      if e=.alreadyExists then
        fsCall (.posixRename oldPath newPath) (posixRename oldPath newPath)
      else Call.fail e

def handleRename : Call (SftpServing σ) Err Bytes :=
  match sftpRenameRequestDecode request with
  | .error _ => answerStatus responseCapacity 0 .badMessage "bad rename"
  | .ok renameRequest =>
    match fs with
    | none => answerStatus responseCapacity renameRequest.id .opUnsupported "rename unsupported"
    | some api =>
      match api.rename with
      | none => answerStatus responseCapacity renameRequest.id .opUnsupported "rename unsupported"
      | some rename => do
        let outcome ← (do
          let oldPath ← Call.lift (copyPath renameRequest.oldPath)
          let newPath ← Call.lift (copyPath renameRequest.newPath)
          policyCheck (observedPolicy policy)
            {operation := .rename,path := oldPath,newPath := some newPath}
          renameOrReplace api rename oldPath newPath).status
        answerOutcome responseCapacity renameRequest.id outcome "rename failed"
end

def oneString (payload : Bytes) : Except Err StringView :=
  (handleFields.run (sshBufferWrap payload)).1

def twoStrings (payload : Bytes) : Except Err (StringView×StringView) :=
  (pathPairFields.run (sshBufferWrap payload)).1

section
variable {σ : Type} (fs : Option (FsApi σ)) (policy : Option (SftpPolicy σ))
  (responseCapacity : Nat) (extendedRequest : SftpExtendedRequest)

def extendedFile : Call (SftpServing σ) Err SftpHandleEntry := do
  let handle ← Call.lift (oneString extendedRequest.payload)
  let s ← Call.get
  match findHandle s.session handle with
  | none => Call.fail .invalidArgument
  | some (_,entry) => do
    Call.require (entry.kind=.file) .invalidArgument
    pure entry

def extendedFsync : Call (SftpServing σ) Err Bytes :=
  match fs.bind FsApi.fsync with
  | none => answerStatus responseCapacity extendedRequest.id .opUnsupported "fsync unsupported"
  | some fsync => do
    let outcome ← (do
      let entry ← extendedFile extendedRequest
      policyCheck (observedPolicy policy)
        {operation := .fsync,path := entry.path,pflags := entry.pflags}
      fsCall (.fsync entry.fsHandle) (fsync entry.fsHandle)).status
    answerOutcome responseCapacity extendedRequest.id outcome "fsync failed"

def extendedStatvfs : Call (SftpServing σ) Err Bytes :=
  match fs.bind FsApi.statvfs with
  | none => answerStatus responseCapacity extendedRequest.id .opUnsupported "statvfs unsupported"
  | some statvfs => do
    match ← (do
        let view ← Call.lift (oneString extendedRequest.payload)
        let path ← Call.lift (copyPath view)
        policyCheck (observedPolicy policy) {operation := .statvfs,path}
        fsCall (.statvfs path) (statvfs path)).status with
    | .error e => answerError responseCapacity extendedRequest.id e "statvfs failed"
    | .ok stats => Call.lift (encodeStatvfsReply responseCapacity extendedRequest.id stats)

def extendedFstatvfs : Call (SftpServing σ) Err Bytes :=
  match fs.bind FsApi.fstatvfs with
  | none => answerStatus responseCapacity extendedRequest.id .opUnsupported "fstatvfs unsupported"
  | some fstatvfs => do
    match ← (do
        let entry ← extendedFile extendedRequest
        policyCheck (observedPolicy policy)
          {operation := .fstatvfs,path := entry.path,pflags := entry.pflags}
        fsCall (.fstatvfs entry.fsHandle) (fstatvfs entry.fsHandle)).status with
    | .error e => answerError responseCapacity extendedRequest.id e "fstatvfs failed"
    | .ok stats => Call.lift (encodeStatvfsReply responseCapacity extendedRequest.id stats)

def extendedPathPair (operation : SftpPolicyOperation) (event : Bytes → Bytes → FsCall)
    (callback : Option (Bytes → Bytes → Call σ Err Unit)) (unsupported fallback : String) :
    Call (SftpServing σ) Err Bytes :=
  match callback with
  | none => answerStatus responseCapacity extendedRequest.id .opUnsupported unsupported
  | some callback => do
    let outcome ← (do
      let views ← Call.lift (twoStrings extendedRequest.payload)
      let oldPath ← Call.lift (copyPath views.1)
      let newPath ← Call.lift (copyPath views.2)
      policyCheck (observedPolicy policy) {operation,path := oldPath,newPath := some newPath}
      fsCall (event oldPath newPath) (callback oldPath newPath)).status
    answerOutcome responseCapacity extendedRequest.id outcome fallback

def extendedHardlink : Call (SftpServing σ) Err Bytes :=
  extendedPathPair policy responseCapacity extendedRequest .hardlink .hardlink
    (fs.bind FsApi.hardlink) "hardlink unsupported" "hardlink failed"

def extendedPosixRename : Call (SftpServing σ) Err Bytes :=
  extendedPathPair policy responseCapacity extendedRequest .rename .posixRename
    (fs.bind FsApi.posixRename) "posix rename unsupported" "posix rename failed"
end

variable {σ : Type} (fs : Option (FsApi σ)) (policy : Option (SftpPolicy σ))
  (request : Bytes) (responseCapacity : Nat)

def handleExtended : Call (SftpServing σ) Err Bytes :=
  match sftpExtendedRequestDecode request with
  | .error _ => answerStatus responseCapacity 0 .badMessage "bad extended"
  | .ok extendedRequest =>
    if viewEqualsCstring extendedRequest.name "fsync@openssh.com" then
      extendedFsync fs policy responseCapacity extendedRequest
    else if viewEqualsCstring extendedRequest.name "statvfs@openssh.com" then
      extendedStatvfs fs policy responseCapacity extendedRequest
    else if viewEqualsCstring extendedRequest.name "fstatvfs@openssh.com" then
      extendedFstatvfs fs policy responseCapacity extendedRequest
    else if viewEqualsCstring extendedRequest.name "hardlink@openssh.com" then
      extendedHardlink fs policy responseCapacity extendedRequest
    else if viewEqualsCstring extendedRequest.name "posix-rename@openssh.com" then
      extendedPosixRename fs policy responseCapacity extendedRequest
    else answerStatus responseCapacity extendedRequest.id .opUnsupported "extension unsupported"

def handleUnsupported : Call (SftpServing σ) Err Bytes :=
  match sftpRequestDecode request with
  | .ok generic => answerStatus responseCapacity generic.id .opUnsupported "unsupported"
  | .error _ => answerStatus responseCapacity 0 .badMessage "bad request"

def sftpServerHandlePacket : Call (SftpServing σ) Err Bytes :=
  match sftpPacketWrap request with
  | .error _ => answerStatus responseCapacity 0 .badMessage "bad packet"
  | .ok packet =>
    if packet.type=sshFxpInit then handleInit fs request responseCapacity
    else if packet.type=sshFxpRealpath then
      handleRealpath (observedPolicy policy) request responseCapacity
    else if packet.type=sshFxpLstat ∨ packet.type=sshFxpStat then
      handlePathAttrs fs policy request responseCapacity packet.type
    else if packet.type=sshFxpOpen then handleOpen fs policy request responseCapacity
    else if packet.type=sshFxpClose then handleClose fs request responseCapacity
    else if packet.type=sshFxpFstat then handleFstat fs policy request responseCapacity
    else if packet.type=sshFxpSetstat then handleSetstat fs policy request responseCapacity
    else if packet.type=sshFxpFsetstat then handleFsetstat fs policy request responseCapacity
    else if packet.type=sshFxpOpendir then handleOpendir fs policy request responseCapacity
    else if packet.type=sshFxpReaddir then handleReaddir fs policy request responseCapacity
    else if packet.type=sshFxpRead then handleRead fs policy request responseCapacity
    else if packet.type=sshFxpWrite then handleWrite fs policy request responseCapacity
    else if packet.type=sshFxpRemove then handleRemove fs policy request responseCapacity
    else if packet.type=sshFxpMkdir then handleMkdir fs policy request responseCapacity
    else if packet.type=sshFxpRmdir then handleRmdir fs policy request responseCapacity
    else if packet.type=sshFxpRename then handleRename fs policy request responseCapacity
    else if packet.type=sshFxpExtended then handleExtended fs policy request responseCapacity
    else handleUnsupported request responseCapacity

def sftpServerSessionInit : SftpServerSession := ⟨1,fun _ => none⟩

/-- The loop of sftp_server_session_deinit over the slots. -/
def closeEntries : List (Fin emsshSftpMaxHandles) → Call (SftpServing σ) Err Unit
  | [] => pure ()
  | i::rest => do
    (closeEntry fs i).ignore
    closeEntries rest

def sftpServerSessionDeinit : Call (SftpServing σ) Err Unit := do
  closeEntries fs (List.finRange emsshSftpMaxHandles)
  Call.modify fun s => {s with session := ⟨0,fun _ => none⟩}

end EMSSHD
