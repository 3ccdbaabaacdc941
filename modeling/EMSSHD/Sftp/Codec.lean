import EMSSHD.Core.Encoder

namespace EMSSHD

def sshFxpInit : UInt8 := 1
def sshFxpVersion : UInt8 := 2
def sshFxpOpen : UInt8 := 3
def sshFxpClose : UInt8 := 4
def sshFxpRead : UInt8 := 5
def sshFxpWrite : UInt8 := 6
def sshFxpLstat : UInt8 := 7
def sshFxpFstat : UInt8 := 8
def sshFxpSetstat : UInt8 := 9
def sshFxpFsetstat : UInt8 := 10
def sshFxpOpendir : UInt8 := 11
def sshFxpReaddir : UInt8 := 12
def sshFxpRemove : UInt8 := 13
def sshFxpMkdir : UInt8 := 14
def sshFxpRmdir : UInt8 := 15
def sshFxpRealpath : UInt8 := 16
def sshFxpStat : UInt8 := 17
def sshFxpRename : UInt8 := 18
def sshFxpStatus : UInt8 := 101
def sshFxpHandle : UInt8 := 102
def sshFxpData : UInt8 := 103
def sshFxpName : UInt8 := 104
def sshFxpAttrs : UInt8 := 105
def sshFxpExtended : UInt8 := 200
def sshFxpExtendedReply : UInt8 := 201
def sftpVersion3 : Nat := 3

inductive FxStatus where
  | ok
  | eof
  | noSuchFile
  | permissionDenied
  | failure
  | badMessage
  | noConnection
  | connectionLost
  | opUnsupported
  deriving DecidableEq, Repr

def FxStatus.code : FxStatus → Nat
  | ok => 0
  | eof => 1
  | noSuchFile => 2
  | permissionDenied => 3
  | failure => 4
  | badMessage => 5
  | noConnection => 6
  | connectionLost => 7
  | opUnsupported => 8

def sshFilexferAttrSize : Nat := 1
def sshFilexferAttrUidgid : Nat := 2
def sshFilexferAttrPermissions : Nat := 4
def sshFilexferAttrAcmodtime : Nat := 8
def sshFilexferAttrExtended : Nat := 2^31
def sftpSupportedAttrFlags : Nat := 15
def withoutBits (flags mask : Nat) : Nat := flags &&& (uint32Max ^^^ mask)

/-- ssh_fs_attrs_t -/
structure FsAttrs where
  flags : Nat := 0
  size : Nat := 0
  uid : Nat := 0
  gid : Nat := 0
  permissions : Nat := 0
  atime : Nat := 0
  mtime : Nat := 0
  deriving DecidableEq

structure SftpPacket where
  type : UInt8
  payload : Bytes
  deriving DecidableEq

structure SftpRequest where
  type : UInt8
  id : Nat
  payload : Bytes
  deriving DecidableEq

structure SftpPathRequest where
  id : Nat
  path : StringView
  deriving DecidableEq

structure SftpInit where
  version : Nat
  extensionData : Bytes
  deriving DecidableEq

structure SftpOpenRequest where
  id : Nat
  filename : StringView
  pflags : Nat
  attrs : Bytes
  deriving DecidableEq

structure SftpHandleRequest where
  id : Nat
  handle : StringView
  deriving DecidableEq

structure SftpReadRequest where
  id : Nat
  handle : StringView
  offset : Nat
  len : Nat
  deriving DecidableEq

structure SftpWriteRequest where
  id : Nat
  handle : StringView
  offset : Nat
  data : StringView
  deriving DecidableEq

structure SftpRenameRequest where
  id : Nat
  oldPath : StringView
  newPath : StringView
  deriving DecidableEq

structure SftpMkdirRequest where
  id : Nat
  path : StringView
  attrs : Bytes
  deriving DecidableEq

structure SftpExtendedRequest where
  id : Nat
  name : StringView
  payload : Bytes
  deriving DecidableEq

def sftpPacketWrap (packet : Bytes) : Except Err SftpPacket :=
  match packet with
  | a::b::c::d::type::payload =>
    let packetLength := beValue [a,b,c,d]
    if packetLength=0 ∨ packetLength+4≠packet.length then .error .malformedPacket
    else .ok ⟨type,payload.take (packetLength-1)⟩
  | _ => .error .malformedPacket

def sftpRequestDecode (packet : Bytes) : Except Err SftpRequest :=
  match sftpPacketWrap packet with
  | .error e => .error e
  | .ok wrapped =>
    if wrapped.payload.length<4 then .error .malformedPacket
    else .ok ⟨wrapped.type,beValue (wrapped.payload.take 4),wrapped.payload.drop 4⟩

def decodePathRequest (packet : Bytes) (expectedType : UInt8) : Except Err SftpPathRequest :=
  match sftpRequestDecode packet with
  | .error e => .error e
  | .ok generic =>
    if generic.type≠expectedType then .error .malformedPacket
    else match sshBufferGetStringView.run (sshBufferWrap generic.payload) with
      | (.error e,_) => .error e
      | (.ok path,payload) =>
        if sshBufferRemainingRead payload≠0 then .error .malformedPacket else .ok ⟨generic.id,path⟩

def sftpRealpathRequestDecode (packet : Bytes) : Except Err SftpPathRequest :=
  decodePathRequest packet sshFxpRealpath

def requireDrained : Call SshBuffer Err Unit := do
  let payload ← Call.get
  Call.require (sshBufferRemainingRead payload=0) .malformedPacket

def remainingView : Call SshBuffer Err Bytes := do
  let payload ← Call.get
  pure (payload.data.drop payload.pos)

def decodeBody {α : Type} (packet : Bytes) (expectedType : UInt8) (fields : Call SshBuffer Err α) :
    Except Err (Nat×α) :=
  match sftpRequestDecode packet with
  | .error e => .error e
  | .ok generic =>
    if generic.type≠expectedType then .error .malformedPacket
    else match (fields.run (sshBufferWrap generic.payload)).1 with
      | .error e => .error e
      | .ok body => .ok (generic.id,body)

def sftpLstatRequestDecode (packet : Bytes) : Except Err SftpPathRequest :=
  decodePathRequest packet sshFxpLstat

def sftpStatRequestDecode (packet : Bytes) : Except Err SftpPathRequest :=
  decodePathRequest packet sshFxpStat

def sftpOpendirRequestDecode (packet : Bytes) : Except Err SftpPathRequest :=
  decodePathRequest packet sshFxpOpendir

def sftpRemoveRequestDecode (packet : Bytes) : Except Err SftpPathRequest :=
  decodePathRequest packet sshFxpRemove

def sftpRmdirRequestDecode (packet : Bytes) : Except Err SftpPathRequest :=
  decodePathRequest packet sshFxpRmdir

def sftpInitDecode (packet : Bytes) : Except Err SftpInit :=
  match sftpPacketWrap packet with
  | .error e => .error e
  | .ok wrapped =>
    if wrapped.type≠sshFxpInit ∨ wrapped.payload.length<4 then .error .malformedPacket
    else .ok ⟨beValue (wrapped.payload.take 4),wrapped.payload.drop 4⟩

def sftpOpenRequestDecode (packet : Bytes) : Except Err SftpOpenRequest :=
  (decodeBody packet sshFxpOpen (do
    let filename ← sshBufferGetStringView
    let pflags ← sshBufferGetU32
    let attrs ← remainingView
    Call.require (4≤attrs.length) .malformedPacket
    pure (filename,pflags,attrs))).map fun r => ⟨r.1,r.2.1,r.2.2.1,r.2.2.2⟩

def handleFields : Call SshBuffer Err StringView := do
  let handle ← sshBufferGetStringView
  requireDrained
  pure handle

def sftpCloseRequestDecode (packet : Bytes) : Except Err SftpHandleRequest :=
  (decodeBody packet sshFxpClose handleFields).map fun r => ⟨r.1,r.2⟩

def sftpFstatRequestDecode (packet : Bytes) : Except Err SftpHandleRequest :=
  (decodeBody packet sshFxpFstat handleFields).map fun r => ⟨r.1,r.2⟩

def sftpReaddirRequestDecode (packet : Bytes) : Except Err SftpHandleRequest :=
  (decodeBody packet sshFxpReaddir handleFields).map fun r => ⟨r.1,r.2⟩

def sftpReadRequestDecode (packet : Bytes) : Except Err SftpReadRequest :=
  (decodeBody packet sshFxpRead (do
    let handle ← sshBufferGetStringView
    let offset ← sshBufferGetU64
    let len ← sshBufferGetU32
    requireDrained
    pure (handle,offset,len))).map fun r => ⟨r.1,r.2.1,r.2.2.1,r.2.2.2⟩

def sftpWriteRequestDecode (packet : Bytes) : Except Err SftpWriteRequest :=
  (decodeBody packet sshFxpWrite (do
    let handle ← sshBufferGetStringView
    let offset ← sshBufferGetU64
    let data ← sshBufferGetStringView
    requireDrained
    pure (handle,offset,data))).map fun r => ⟨r.1,r.2.1,r.2.2.1,r.2.2.2⟩

def sftpMkdirRequestDecode (packet : Bytes) : Except Err SftpMkdirRequest :=
  (decodeBody packet sshFxpMkdir (do
    let path ← sshBufferGetStringView
    let attrs ← remainingView
    Call.require (4≤attrs.length) .malformedPacket
    pure (path,attrs))).map fun r => ⟨r.1,r.2.1,r.2.2⟩

def pathPairFields : Call SshBuffer Err (StringView×StringView) := do
  let oldPath ← sshBufferGetStringView
  let newPath ← sshBufferGetStringView
  requireDrained
  pure (oldPath,newPath)

def sftpRenameRequestDecode (packet : Bytes) : Except Err SftpRenameRequest :=
  (decodeBody packet sshFxpRename pathPairFields).map fun r => ⟨r.1,r.2.1,r.2.2⟩

def sftpExtendedRequestDecode (packet : Bytes) : Except Err SftpExtendedRequest :=
  (decodeBody packet sshFxpExtended (do
    let name ← sshBufferGetStringView
    let payload ← remainingView
    pure (name,payload))).map fun r => ⟨r.1,r.2.1,r.2.2⟩

def skipExtensions : Nat → Call SshBuffer Err Unit
  | 0 => pure ()
  | count+1 => do
    let _ ← sshBufferGetStringView
    let _ ← sshBufferGetStringView
    skipExtensions count

def whenFlag (flags flag : Nat) (field : Call SshBuffer Err Nat) : Call SshBuffer Err Nat :=
  if flags &&& flag≠0 then field else pure 0

def sftpAttrsDecode (encoded : Bytes) : Except Err FsAttrs :=
  ((do
    let wireFlags ← sshBufferGetU32
    Call.require
      (withoutBits wireFlags (sftpSupportedAttrFlags ||| sshFilexferAttrExtended)=0) .unsupported
    let flags := wireFlags &&& sftpSupportedAttrFlags
    let size ← whenFlag flags sshFilexferAttrSize sshBufferGetU64
    let uid ← whenFlag flags sshFilexferAttrUidgid sshBufferGetU32
    let gid ← whenFlag flags sshFilexferAttrUidgid sshBufferGetU32
    let permissions ← whenFlag flags sshFilexferAttrPermissions sshBufferGetU32
    let atime ← whenFlag flags sshFilexferAttrAcmodtime sshBufferGetU32
    let mtime ← whenFlag flags sshFilexferAttrAcmodtime sshBufferGetU32
    Call.onlyIf (wireFlags &&& sshFilexferAttrExtended≠0) (do
      let extendedCount ← sshBufferGetU32
      skipExtensions extendedCount)
    requireDrained
    pure ⟨flags,size,uid,gid,permissions,atime,mtime⟩ :
      Call SshBuffer Err FsAttrs).run (sshBufferWrap encoded)).1

def stringAttrsFields : Call SshBuffer Err (StringView×FsAttrs) := do
  let view ← sshBufferGetStringView
  let attrsView ← remainingView
  let attrs ← Call.lift (sftpAttrsDecode attrsView)
  pure (view,attrs)

/-- The decoders that fill in the id of the request before they read its body,
so that the id is there when the body is malformed. -/
def decodeBodyWithId {α : Type} (packet : Bytes) (expectedType : UInt8)
    (fields : Call SshBuffer Err α) : Nat×Except Err α :=
  match sftpRequestDecode packet with
  | .error e => (0,.error e)
  | .ok generic =>
    if generic.type≠expectedType then (0,.error .malformedPacket)
    else (generic.id,(fields.run (sshBufferWrap generic.payload)).1)

def sftpSetstatRequestDecode (packet : Bytes) : Nat×Except Err (StringView×FsAttrs) :=
  decodeBodyWithId packet sshFxpSetstat stringAttrsFields

def sftpFsetstatRequestDecode (packet : Bytes) : Nat×Except Err (StringView×FsAttrs) :=
  decodeBodyWithId packet sshFxpFsetstat stringAttrsFields

/-- packet_payload_init and packet_finish around the fields of a packet. -/
def sftpPacketEncode (fields : Encoder) (outCapacity : Nat) : Except Err Bytes :=
  if outCapacity<4 then .error .bufferTooSmall
  else match encodedBy fields (outCapacity-4) with
    | .error e => .error e
    | .ok payload =>
      if uint32Max<payload.length then .error .bufferOverflow
      else .ok (beBytes 4 payload.length++payload)

def sftpStatusEncode (outCapacity requestId : Nat) (statusCode : FxStatus)
    (message language : Bytes) : Except Err Bytes :=
  sftpPacketEncode (do
    sshBufferPutU8 sshFxpStatus
    sshBufferPutU32 requestId
    sshBufferPutU32 statusCode.code
    sshBufferPutCstring message
    sshBufferPutCstring language) outCapacity

def putAttrs (attrs : FsAttrs) : Encoder := do
  let flags := attrs.flags &&& sftpSupportedAttrFlags
  sshBufferPutU32 flags
  Call.onlyIf (flags &&& sshFilexferAttrSize≠0) (sshBufferPutU64 attrs.size)
  Call.onlyIf (flags &&& sshFilexferAttrUidgid≠0) (sshBufferPutU32 attrs.uid)
  Call.onlyIf (flags &&& sshFilexferAttrUidgid≠0) (sshBufferPutU32 attrs.gid)
  Call.onlyIf (flags &&& sshFilexferAttrPermissions≠0) (sshBufferPutU32 attrs.permissions)
  Call.onlyIf (flags &&& sshFilexferAttrAcmodtime≠0) (sshBufferPutU32 attrs.atime)
  Call.onlyIf (flags &&& sshFilexferAttrAcmodtime≠0) (sshBufferPutU32 attrs.mtime)

def sftpHandleEncode (outCapacity requestId : Nat) (handle : Bytes) : Except Err Bytes :=
  sftpPacketEncode (do
    sshBufferPutU8 sshFxpHandle
    sshBufferPutU32 requestId
    sshBufferPutString handle) outCapacity

def sftpAttrsEncode (outCapacity requestId : Nat) (attrs : FsAttrs) : Except Err Bytes :=
  sftpPacketEncode (do
    sshBufferPutU8 sshFxpAttrs
    sshBufferPutU32 requestId
    putAttrs attrs) outCapacity

def sftpNameOneAttrsEncode (outCapacity requestId : Nat) (filename : Bytes)
    (longname : Option Bytes) (attrs : FsAttrs) : Except Err Bytes :=
  sftpPacketEncode (do
    sshBufferPutU8 sshFxpName
    sshBufferPutU32 requestId
    sshBufferPutU32 1
    sshBufferPutCstring filename
    sshBufferPutCstring (longname.getD filename)
    putAttrs attrs) outCapacity

def sftpNameOneEncode (outCapacity requestId : Nat) (filename : Bytes) (longname : Option Bytes) :
    Except Err Bytes :=
  sftpNameOneAttrsEncode outCapacity requestId filename longname {}

def attrsWire (attrs : FsAttrs) : Bytes :=
  let flags := attrs.flags &&& sftpSupportedAttrFlags
  beBytes 4 flags++
    ((if flags &&& sshFilexferAttrSize≠0 then beBytes 8 attrs.size else [])++
    ((if flags &&& sshFilexferAttrUidgid≠0 then beBytes 4 attrs.uid else [])++
    ((if flags &&& sshFilexferAttrUidgid≠0 then beBytes 4 attrs.gid else [])++
    ((if flags &&& sshFilexferAttrPermissions≠0 then beBytes 4 attrs.permissions else [])++
    ((if flags &&& sshFilexferAttrAcmodtime≠0 then beBytes 4 attrs.atime else [])++
    (if flags &&& sshFilexferAttrAcmodtime≠0 then beBytes 4 attrs.mtime else []))))))

lemma appends_putAttrs (attrs : FsAttrs) : Appends (putAttrs attrs) (attrsWire attrs) :=
  (appends_putRaw _).bind ((appends_putRaw _).onlyIf.bind ((appends_putRaw _).onlyIf.bind
    ((appends_putRaw _).onlyIf.bind ((appends_putRaw _).onlyIf.bind
      ((appends_putRaw _).onlyIf.bind (appends_putRaw _).onlyIf)))))

variable {fields : Encoder} {src out : Bytes} {outCapacity : Nat}

lemma sftpPacketEncode_eq (hf : Appends fields src)
    (h : sftpPacketEncode fields outCapacity=.ok out) :
    out=beBytes 4 src.length++src ∧ src.length≤uint32Max := by
  unfold sftpPacketEncode at h
  split_ifs at h
  split at h
  case _ e _ => exact nomatch h
  case _ payload hp =>
    have hs := hf.encodedBy hp
    subst hs
    split_ifs at h with hl
    exact ⟨(Except.ok.inj h).symm,Nat.le_of_not_lt hl⟩

lemma sftpPacketWrap_wire (type : UInt8) (payload : Bytes)
    (h : (type::payload).length≤uint32Max) :
    sftpPacketWrap (beBytes 4 (type::payload).length++type::payload)=.ok ⟨type,payload⟩ := by
  have hv : beValue (beBytes 4 (type::payload).length)=(type::payload).length :=
    beValue_beBytes_of_lt 4 _ (Nat.lt_of_le_of_lt h (by decide))
  obtain ⟨a,b,c,d,hf⟩ : ∃ a b c d,beBytes 4 (type::payload).length=[a,b,c,d] := ⟨_,_,_,_,rfl⟩
  rw [hf] at hv ⊢
  unfold sftpPacketWrap
  simp only [cons_append,nil_append]
  rw [hv,if_neg (by simp)]
  simp

lemma sftpRequestDecode_wire (type : UInt8) (id : Nat) (payload : Bytes)
    (h : (type::(beBytes 4 id++payload)).length≤uint32Max) :
    sftpRequestDecode (beBytes 4 (type::(beBytes 4 id++payload)).length++
      type::(beBytes 4 id++payload))=.ok ⟨type,id%256^4,payload⟩ := by
  unfold sftpRequestDecode
  rw [sftpPacketWrap_wire type _ h]
  simp only
  rw [if_neg (by simp),take_left' (beBytes_length 4 id),drop_left' (beBytes_length 4 id),
    beValue_beBytes]

end EMSSHD
