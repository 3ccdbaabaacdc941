import EMSSHD.Sftp.Session

namespace EMSSHD

open Reader

inductive SftpResponse where
  | version (version : Nat) (extensions : List (Bytes×Bytes))
  | status (id code : Nat) (message language : Bytes)
  | handle (id : Nat) (handle : Bytes)
  | data (id : Nat) (data : Bytes)
  | name (id : Nat) (entries : List (Bytes×Bytes×FsAttrs))
  | attrs (id : Nat) (attrs : FsAttrs)
  | extendedReply (id : Nat) (values : List Nat)
  deriving DecidableEq

def readFlagged (flags flag n : Nat) : Reader Nat :=
  if flags &&& flag≠0 then word n else pure 0

def readAttrs : Reader FsAttrs := do
  let flags ← word 4
  let size ← readFlagged flags sshFilexferAttrSize 8
  let uid ← readFlagged flags sshFilexferAttrUidgid 4
  let gid ← readFlagged flags sshFilexferAttrUidgid 4
  let permissions ← readFlagged flags sshFilexferAttrPermissions 4
  let atime ← readFlagged flags sshFilexferAttrAcmodtime 4
  let mtime ← readFlagged flags sshFilexferAttrAcmodtime 4
  pure ⟨flags,size,uid,gid,permissions,atime,mtime⟩

def readWords (n : Nat) : Nat → Reader (List Nat)
  | 0 => pure []
  | count+1 => do
    let value ← word n
    let values ← readWords n count
    pure (value::values)

def readEntries : Nat → Reader (List (Bytes×Bytes×FsAttrs))
  | 0 => pure []
  | count+1 => do
    let filename ← string
    let longname ← string
    let attrs ← readAttrs
    let entries ← readEntries count
    pure ((filename,longname,attrs)::entries)

def readReply (type : UInt8) : Reader SftpResponse :=
  if type=sshFxpStatus then do
    let id ← word 4
    let code ← word 4
    let message ← string
    let language ← string
    pure (.status id code message language)
  else if type=sshFxpHandle then do
    let id ← word 4
    let handle ← string
    pure (.handle id handle)
  else if type=sshFxpData then do
    let id ← word 4
    let data ← string
    pure (.data id data)
  else if type=sshFxpName then do
    let id ← word 4
    let count ← word 4
    let entries ← readEntries count
    pure (.name id entries)
  else if type=sshFxpAttrs then do
    let id ← word 4
    let attrs ← readAttrs
    pure (.attrs id attrs)
  else if type=sshFxpExtendedReply then do
    let id ← word 4
    let values ← readWords 8 11
    pure (.extendedReply id values)
  else fun _ => none

def readPairs : Nat → Bytes → Option (List (Bytes×Bytes))
  | _,[] => some []
  | 0,_ => none
  | fuel+1,input =>
    match string input with
    | none => none
    | some (name,rest) =>
      match string rest with
      | none => none
      | some (value,rest) => (readPairs fuel rest).map ((name,value)::·)

def parseBody : Bytes → Option SftpResponse
  | [] => none
  | type::rest =>
    if type=sshFxpVersion then
      match word 4 rest with
      | none => none
      | some (version,extensions) => (readPairs extensions.length extensions).map (.version version)
    else match readReply type rest with
      | some (reply,[]) => some reply
      | _ => none

def stringWire (bytes : Bytes) : Bytes := beBytes 4 bytes.length++bytes

def extensionWire (advertise : Bool) (name version : String) : Bytes :=
  (if advertise=true then stringWire (cstr name) else [])++
    (if advertise=true then stringWire (cstr version) else [])

def statvfsValues (stats : FsStatvfs) : List Nat :=
  [stats.bsize,stats.frsize,stats.blocks,stats.bfree,stats.bavail,stats.files,stats.ffree,
    stats.favail,stats.fsid,stats.flag,stats.namemax]

namespace SftpAnswer

def body : SftpAnswer → Bytes
  | .version a b c d e => [sshFxpVersion]++(beBytes 4 sftpVersion3++
      (extensionWire a "posix-rename@openssh.com" "1"++(extensionWire b "fsync@openssh.com" "1"++
      (extensionWire c "hardlink@openssh.com" "1"++(extensionWire d "statvfs@openssh.com" "2"++
      extensionWire e "fstatvfs@openssh.com" "2")))))
  | .status id code message => [sshFxpStatus]++(beBytes 4 id++(beBytes 4 code.code++
      (stringWire message++stringWire [])))
  | .handle id wireHandle => [sshFxpHandle]++(beBytes 4 id++stringWire wireHandle)
  | .data id bytes dataLen => [sshFxpData]++(beBytes 4 id++(beBytes 4 dataLen++bytes.take dataLen))
  | .name id filename longname attributes => [sshFxpName]++(beBytes 4 id++(beBytes 4 1++
      (stringWire filename++(stringWire (longname.getD filename)++attrsWire attributes))))
  | .attrs id attributes => [sshFxpAttrs]++(beBytes 4 id++attrsWire attributes)
  | .statvfs id stats => [sshFxpExtendedReply]++(beBytes 4 id++
      (statvfsValues stats).flatMap (beBytes 8))
end SftpAnswer

section
variable {fields : Encoder} {src out : Bytes} {capacity : Nat}

lemma serverPacketEncode_eq (hf : Appends fields src)
    (h : serverPacketEncode fields capacity=.ok out) : out=beBytes 4 src.length++src := by
  unfold serverPacketEncode at h
  split_ifs at h
  split at h
  case _ e _ => exact nomatch h
  case _ payload hp =>
    have hs := hf.encodedBy hp
    subst hs
    exact (Except.ok.inj h).symm

lemma serverPacketEncode_error {e : Err} (hf : Appends fields src)
    (h : serverPacketEncode fields capacity=.error e) : e≠.notFound := by
  unfold serverPacketEncode at h
  rcases encodedBy_cases (capacity-4) hf with hok | ⟨x,hx,hn⟩
  · rw [hok] at h
    split_ifs at h
    rw [← Except.error.inj h]
    decide
  rw [hx] at h
  split_ifs at h
  · rw [← Except.error.inj h]
    decide
  · rwa [← Except.error.inj h]

lemma sftpPacketEncode_error {e : Err} (hf : Appends fields src)
    (h : sftpPacketEncode fields capacity=.error e) : e≠.notFound := by
  unfold sftpPacketEncode at h
  rcases encodedBy_cases (capacity-4) hf with hok | ⟨x,hx,hn⟩
  · simp only [hok] at h
    split_ifs at h
    all_goals
      rw [← Except.error.inj h]
      decide
  simp only [hx] at h
  split_ifs at h
  · rw [← Except.error.inj h]
    decide
  · rwa [← Except.error.inj h]

lemma serverPacketEncode_ok (hf : Writes fields src) (hr : src.length+4 ≤ capacity) :
    serverPacketEncode fields capacity=.ok (beBytes 4 src.length++src) := by
  unfold serverPacketEncode
  rw [if_neg (by omega),hf.encodedBy (by omega)]

lemma sftpPacketEncode_ok (hf : Writes fields src) (hr : src.length+4 ≤ capacity)
    (hl : src.length≤uint32Max) :
    sftpPacketEncode fields capacity=.ok (beBytes 4 src.length++src) := by
  unfold sftpPacketEncode
  rw [if_neg (by omega),hf.encodedBy (by omega)]
  exact if_neg (Nat.not_lt.mpr hl)

lemma sftpPacketEncode_overflow (hf : Appends fields src) (hl : capacity<src.length+4) :
    ∃ e,sftpPacketEncode fields capacity=.error e := by
  unfold sftpPacketEncode
  split_ifs with hfr
  · exact ⟨_,rfl⟩
  obtain ⟨e,he⟩ := encodedBy_overflow hf (by omega : capacity-4<src.length)
  rw [he]
  exact ⟨e,rfl⟩
end

lemma writes_putExtension (advertise : Bool) {name version : String}
    (hn : (cstr name).length≤uint32Max) (hv : (cstr version).length≤uint32Max) :
    Writes (putExtension advertise name version) (extensionWire advertise name version) :=
  (writes_putString hn).onlyIf.bind (writes_putString hv).onlyIf

lemma writes_putAttrs (attrs : FsAttrs) : Writes (putAttrs attrs) (attrsWire attrs) :=
  (writes_putRaw _).bind ((writes_putRaw _).onlyIf.bind ((writes_putRaw _).onlyIf.bind
    ((writes_putRaw _).onlyIf.bind ((writes_putRaw _).onlyIf.bind
      ((writes_putRaw _).onlyIf.bind (writes_putRaw _).onlyIf)))))

def FsAttrs.sent (attrs : FsAttrs) : FsAttrs :=
  let flags := attrs.flags &&& sftpSupportedAttrFlags
  ⟨flags,
    if flags &&& sshFilexferAttrSize≠0 then attrs.size%256^8 else 0,
    if flags &&& sshFilexferAttrUidgid≠0 then attrs.uid%256^4 else 0,
    if flags &&& sshFilexferAttrUidgid≠0 then attrs.gid%256^4 else 0,
    if flags &&& sshFilexferAttrPermissions≠0 then attrs.permissions%256^4 else 0,
    if flags &&& sshFilexferAttrAcmodtime≠0 then attrs.atime%256^4 else 0,
    if flags &&& sshFilexferAttrAcmodtime≠0 then attrs.mtime%256^4 else 0⟩

lemma reads_attrs (attrs : FsAttrs) : Reads readAttrs (attrsWire attrs) attrs.sent := by
  have hf : (attrs.flags &&& sftpSupportedAttrFlags)%256^4=
      attrs.flags &&& sftpSupportedAttrFlags :=
    Nat.mod_eq_of_lt (Nat.lt_of_le_of_lt Nat.and_le_right (by decide))
  have hw := reads_word 4 (attrs.flags &&& sftpSupportedAttrFlags)
  rw [hf] at hw
  exact hw.bind ((reads_word 8 _).ite.bind ((reads_word 4 _).ite.bind ((reads_word 4 _).ite.bind
    ((reads_word 4 _).ite.bind ((reads_word 4 _).ite.bind ((reads_word 4 _).ite.map _))))))

lemma attrsWire_length (attrs : FsAttrs) : (attrsWire attrs).length≤32 := by
  unfold attrsWire
  simp only [length_append,beBytes_length,apply_ite List.length,length_nil]
  split_ifs <;> omega

lemma reads_words (n : Nat) (values : List Nat) :
    Reads (readWords n values.length) (values.flatMap (beBytes n)) (values.map (·%256^n)) := by
  induction values with
  | nil => exact reads_pure []
  | cons value values ih =>
    rw [flatMap_cons]
    exact (reads_word n value).bind (ih.map _)

def extensionReply (advertise : Bool) (name version : String) : List (Bytes×Bytes) :=
  if advertise then [(cstr name,cstr version)] else []

namespace SftpAnswer

def reply : SftpAnswer → SftpResponse
  | .version a b c d e => .version sftpVersion3
      (extensionReply a "posix-rename@openssh.com" "1"++(extensionReply b "fsync@openssh.com" "1"++
      (extensionReply c "hardlink@openssh.com" "1"++(extensionReply d "statvfs@openssh.com" "2"++
      extensionReply e "fstatvfs@openssh.com" "2"))))
  | .status id code message => .status (id%256^4) code.code message []
  | .handle id wireHandle => .handle (id%256^4) wireHandle
  | .data id bytes dataLen => .data (id%256^4) (bytes.take dataLen)
  | .name id filename longname attributes =>
      .name (id%256^4) [(filename,longname.getD filename,attributes.sent)]
  | .attrs id attributes => .attrs (id%256^4) attributes.sent
  | .statvfs id stats => .extendedReply (id%256^4) ((statvfsValues stats).map (·%256^8))

variable {σ : Type} {fs : Option (FsApi σ)} {capacity : Nat} {answer : SftpAnswer}

lemma version_length : ∀ a b c d e,(version a b c d e).body.length≤256 := by
  decide +kernel

lemma version_parse : ∀ a b c d e,
    parseBody (version a b c d e).body=some (version a b c d e).reply := by
  decide +kernel

lemma parseBody_reply {type : UInt8} {src : Bytes} {reply : SftpResponse}
    (ht : type≠sshFxpVersion) (h : Reads (readReply type) src reply) :
    parseBody ([type]++src)=some reply := by
  have hr := h []
  rw [append_nil] at hr
  rw [singleton_append,parseBody,if_neg ht,hr]

lemma parse_body (hln : answer.body.length<256^4) (hs : answer.Sized fs capacity) :
    parseBody answer.body=some answer.reply := by
  cases answer with
  | version a b c d e => exact version_parse a b c d e
  | status id code message =>
    have hc : code.code%256^4=code.code := by cases code <;> rfl
    have hw := reads_word 4 code.code
    rw [hc] at hw
    have hm : message.length<256^4 := by
      have h : message.length≤64 := hs
      omega
    exact parseBody_reply (by decide) ((reads_word 4 id).bind (hw.bind
      ((reads_string hm).bind ((reads_string (by decide)).map _))))
  | handle id wireHandle =>
    have hwr : wireHandle.length<256^4 := by
      have h : wireHandle.length=4 := hs
      omega
    exact parseBody_reply (by decide) ((reads_word 4 id).bind ((reads_string hwr).map _))
  | data id bytes dataLen =>
    have ht : (bytes.take dataLen).length=dataLen := List.length_take_of_le hs.1
    have hd : (bytes.take dataLen).length<256^4 := by
      have h := hs.2.1
      unfold emsshSftpMaxIo emsshMaxPayloadSize at h
      have hle := hs.1
      omega
    have hst := reads_string hd
    rw [ht] at hst
    exact parseBody_reply (by decide) ((reads_word 4 id).bind (hst.map _))
  | name id filename longname attributes =>
    have hl : filename.length<256^4 ∧ (longname.getD filename).length<256^4 := by
      simp only [body,stringWire,length_append] at hln
      omega
    have he : Reads (readEntries 1) (stringWire filename++(stringWire
        (longname.getD filename)++attrsWire attributes))
        [(filename,longname.getD filename,attributes.sent)] :=
      (reads_string hl.1).bind ((reads_string hl.2).bind ((reads_attrs attributes).map _))
    exact parseBody_reply (by decide) ((reads_word 4 id).bind ((reads_word 4 1).bind (he.map _)))
  | attrs id attributes =>
    exact parseBody_reply (by decide) ((reads_word 4 id).bind ((reads_attrs attributes).map _))
  | statvfs id stats =>
    exact parseBody_reply (by decide) ((reads_word 4 id).bind ((reads_words 8 (statvfsValues stats)).map _))

lemma data_length {id dataLen : Nat} {bytes : Bytes} (h : dataLen≤bytes.length) :
    (data id bytes dataLen).body.length=dataLen+9 := by
  have ht : (bytes.take dataLen).length=dataLen := List.length_take_of_le h
  simp only [body,length_append,beBytes_length,ht,length_singleton]
  omega

lemma encode_version (a b c d e : Bool) (capacity : Nat) :
    ∃ fields,(version a b c d e).encode capacity=serverPacketEncode fields capacity ∧
      Writes fields (version a b c d e).body :=
  ⟨_,rfl,(writes_putRaw _).bind ((writes_putRaw _).bind
    ((writes_putExtension a (by decide) (by decide)).bind
    ((writes_putExtension b (by decide) (by decide)).bind
    ((writes_putExtension c (by decide) (by decide)).bind
    ((writes_putExtension d (by decide) (by decide)).bind
    (writes_putExtension e (by decide) (by decide)))))))⟩

lemma encode_statvfs (id : Nat) (stats : FsStatvfs) (capacity : Nat) :
    ∃ fields,(statvfs id stats).encode capacity=serverPacketEncode fields capacity ∧
      Writes fields (statvfs id stats).body := by
  refine ⟨_,rfl,?_⟩
  have hb : (statvfs id stats).body=[sshFxpExtendedReply]++(beBytes 4 id++
      (beBytes 8 stats.bsize++(beBytes 8 stats.frsize++(beBytes 8 stats.blocks++
      (beBytes 8 stats.bfree++(beBytes 8 stats.bavail++(beBytes 8 stats.files++
      (beBytes 8 stats.ffree++(beBytes 8 stats.favail++(beBytes 8 stats.fsid++
      (beBytes 8 stats.flag++beBytes 8 stats.namemax))))))))))) := by
    simp [body,statvfsValues]
  rw [hb]
  exact (writes_putRaw _).bind ((writes_putRaw _).bind ((writes_putRaw _).bind
    ((writes_putRaw _).bind ((writes_putRaw _).bind ((writes_putRaw _).bind
    ((writes_putRaw _).bind ((writes_putRaw _).bind ((writes_putRaw _).bind
    ((writes_putRaw _).bind ((writes_putRaw _).bind ((writes_putRaw _).bind
    (writes_putRaw _))))))))))))

/-- The encoder of every answer but the data of a file. -/
lemma encode_by (answer : SftpAnswer) (capacity : Nat) :
    (∃ id bytes dataLen,answer=data id bytes dataLen) ∨ ∃ fields,Appends fields answer.body ∧
      (answer.encode capacity=serverPacketEncode fields capacity ∨
        answer.encode capacity=sftpPacketEncode fields capacity) := by
  cases answer with
  | version a b c d e =>
    obtain ⟨fields,he,hf⟩ := encode_version a b c d e capacity
    exact .inr ⟨fields,hf.appends,.inl he⟩
  | status id code message =>
    exact .inr ⟨_,(appends_putRaw _).bind ((appends_putRaw _).bind ((appends_putRaw _).bind
      ((appends_putString message).bind (appends_putString [])))),.inr rfl⟩
  | handle id wireHandle =>
    exact .inr ⟨_,(appends_putRaw _).bind ((appends_putRaw _).bind
      (appends_putString wireHandle)),.inr rfl⟩
  | data id bytes dataLen => exact .inl ⟨id,bytes,dataLen,rfl⟩
  | name id filename longname attributes =>
    exact .inr ⟨_,(appends_putRaw _).bind ((appends_putRaw _).bind
      ((appends_putRaw _).bind ((appends_putString filename).bind
        ((appends_putString (longname.getD filename)).bind (appends_putAttrs attributes))))),
      .inr rfl⟩
  | attrs id attributes =>
    exact .inr ⟨_,(appends_putRaw _).bind ((appends_putRaw _).bind (appends_putAttrs attributes)),
      .inr rfl⟩
  | statvfs id stats =>
    obtain ⟨fields,he,hf⟩ := encode_statvfs id stats capacity
    exact .inr ⟨fields,hf.appends,.inl he⟩

lemma encode_eq {response : Bytes} (hs : answer.Sized fs capacity)
    (h : answer.encode capacity=.ok response) :
    response=beBytes 4 answer.body.length++answer.body := by
  rcases encode_by answer capacity with ⟨id,bytes,dataLen,rfl⟩ | ⟨fields,hf,he | he⟩
  · change finishDataResponseInPlace capacity id bytes dataLen=_ at h
    unfold finishDataResponseInPlace at h
    split_ifs at h
    rw [← Except.ok.inj h,data_length hs.1]
    rfl
  · exact serverPacketEncode_eq hf (he.symm.trans h)
  · exact (sftpPacketEncode_eq hf (he.symm.trans h)).1

lemma encode_error {e : Err} (h : answer.encode capacity=.error e) : e≠.notFound := by
  rcases encode_by answer capacity with ⟨id,bytes,dataLen,rfl⟩ | ⟨fields,hf,he | he⟩
  · change finishDataResponseInPlace capacity id bytes dataLen=_ at h
    unfold finishDataResponseInPlace at h
    split_ifs at h
    rw [← Except.error.inj h]
    decide
  · exact serverPacketEncode_error hf (he.symm.trans h)
  · exact sftpPacketEncode_error hf (he.symm.trans h)

def NamesFit : SftpAnswer → Prop
  | .name _ filename longname _ =>
      filename.length+(longname.getD filename).length<emsshMaxPayloadSize
  | _ => True

lemma body_length (hs : answer.Sized fs capacity) (hn : answer.NamesFit) :
    answer.body.length+4≤emsshMaxPacketSize := by
  unfold emsshMaxPacketSize
  cases answer with
  | version a b c d e =>
    have h := version_length a b c d e
    omega
  | status id code message =>
    have h : message.length≤64 := hs
    simp only [body,stringWire,length_append,beBytes_length,length_singleton,length_nil]
    omega
  | handle id wireHandle =>
    have h : wireHandle.length=4 := hs
    simp only [body,stringWire,length_append,beBytes_length,length_singleton]
    omega
  | data id bytes dataLen =>
    have h : bytes.length≤emsshSftpMaxIo := hs.2.1
    unfold emsshSftpMaxIo emsshMaxPayloadSize at h
    rw [data_length hs.1]
    have hle := hs.1
    omega
  | name id filename longname attributes =>
    have h : filename.length+(longname.getD filename).length<emsshMaxPayloadSize := hn
    have ha := attrsWire_length attributes
    unfold emsshMaxPayloadSize at h
    simp only [body,stringWire,length_append,beBytes_length,length_singleton]
    omega
  | attrs id attributes =>
    have ha := attrsWire_length attributes
    simp only [body,length_append,beBytes_length,length_singleton]
    omega
  | statvfs id stats => simp [body,statvfsValues]

lemma encode_ok (hsz : answer.Sized fs capacity) (hr : answer.body.length+4 ≤ capacity)
    (hl : answer.body.length≤uint32Max) :
    answer.encode capacity=.ok (beBytes 4 answer.body.length++answer.body) := by
  have hs : ∀ bytes : Bytes,bytes.length≤answer.body.length → bytes.length≤uint32Max :=
    fun bytes h => h.trans hl
  cases answer with
  | version a b c d e =>
    obtain ⟨fields,he,hf⟩ := encode_version a b c d e capacity
    exact he.trans (serverPacketEncode_ok hf hr)
  | status id code message =>
    have hm := hs message (by simp [body,stringWire]; omega)
    exact sftpPacketEncode_ok ((writes_putRaw _).bind ((writes_putRaw _).bind
      ((writes_putRaw _).bind ((writes_putString hm).bind (writes_putString (by simp))))))
      hr hl
  | handle id wireHandle =>
    have hw := hs wireHandle (by simp [body,stringWire]; omega)
    exact sftpPacketEncode_ok ((writes_putRaw _).bind ((writes_putRaw _).bind
      (writes_putString hw))) hr hl
  | data id bytes dataLen =>
    change finishDataResponseInPlace capacity id bytes dataLen=_
    rw [data_length hsz.1] at hr hl ⊢
    unfold finishDataResponseInPlace sftpDataResponseOverhead
    unfold uint32Max at hl
    rw [if_neg (by unfold uint32Max; omega)]
    rfl
  | name id filename longname attributes =>
    have hfl := hs filename (by simp [body,stringWire]; omega)
    have hln := hs (longname.getD filename) (by simp [body,stringWire]; omega)
    exact sftpPacketEncode_ok ((writes_putRaw _).bind ((writes_putRaw _).bind
      ((writes_putRaw _).bind ((writes_putString hfl).bind
        ((writes_putString hln).bind (writes_putAttrs attributes)))))) hr hl
  | attrs id attributes =>
    exact sftpPacketEncode_ok ((writes_putRaw _).bind ((writes_putRaw _).bind
      (writes_putAttrs attributes))) hr hl
  | statvfs id stats =>
    obtain ⟨fields,he,hf⟩ := encode_statvfs id stats capacity
    exact he.trans (serverPacketEncode_ok hf hr)
end SftpAnswer

section
variable {σ : Type} {fs : Option (FsApi σ)} {policy : Option (SftpPolicy σ)}

/-- The names that the file system gives out are short enough for a packet. A name that
comes without a long name counts twice, as it is sent twice. -/
def ShortNames (fs : Option (FsApi σ)) : Prop :=
  ∀ filename longname,ReaddirGives fs filename longname →
    filename.length+(longname.getD filename).length<emsshMaxPayloadSize

/-- Every request is answered with one packet, which a client can read to its last byte. -/
theorem sftp_request_answered (hnames : ShortNames fs) (request : Bytes) {capacity : Nat}
    (hcapacity : emsshMaxPacketSize ≤ capacity) (s : SftpServing σ) :
    ∃ response reply t,
      (sftpServerHandlePacket fs policy request capacity).run s=(.ok response,t) ∧
      response.length=4+beValue (response.take 4) ∧ parseBody (response.drop 4)=some reply := by
  rcases hrn : (sftpServerHandlePacket fs policy request capacity).run s with ⟨result,t⟩
  obtain ⟨events,answer,-,-,hs,-,hr⟩ := handlePacket_served.of_eq hrn
  have hf : answer.NamesFit := by
    cases answer with
    | name id filename longname attributes =>
      rcases hs with hsh | hg
      · exact hsh.trans (by decide)
      · exact hnames filename longname hg
    | _ => exact trivial
  have hb := SftpAnswer.body_length hs hf
  have hl : answer.body.length<256^4 := by
    unfold emsshMaxPacketSize at hb
    omega
  rcases hr with he | ⟨-,hsm,-⟩
  · rw [SftpAnswer.encode_ok hs (hb.trans hcapacity) (by unfold uint32Max; omega)] at he
    subst he
    refine ⟨_,answer.reply,t,rfl,?_,?_⟩
    · rw [length_append,beBytes_length,take_left' (beBytes_length 4 _),beValue_beBytes_of_lt 4 _ hl]
    rw [drop_left' (beBytes_length 4 _)]
    exact SftpAnswer.parse_body hl hs
  unfold sftpDataResponseOverhead at hsm
  unfold emsshMaxPacketSize at hcapacity
  omega
end

def oneNameFs (name : Bytes) : FsApi Unit where
  opendir := some fun _ => pure 1
  readdir := some fun _ => pure ⟨some name,none,{},false⟩

def opendirRequest : Bytes := [0,0,0,10,11,0,0,0,1,0,0,0,1,97]
def readdirRequest : Bytes := [0,0,0,13,12,0,0,0,2,0,0,0,4,0,0,0,1]

def dirSession : SftpServerSession :=
  {sftpServerSessionInit.put ⟨0,by decide⟩ (some ⟨.dir,[0,0,0,1],1,0,[97],{}⟩) with
    nextHandleId := 2}

lemma readdirServed_error {name : Bytes} {capacity : Nat} (h : capacity<2*name.length+25) :
    ∃ e t,(sftpServerHandlePacket (some (oneNameFs name)) none readdirRequest capacity).run
      ⟨dirSession,(),[]⟩=(.error e,t) := by
  have hf := (appends_putRaw [sshFxpName]).bind ((appends_putRaw (beBytes 4 2)).bind
    ((appends_putRaw (beBytes 4 1)).bind ((appends_putString name).bind
      ((appends_putString name).bind (appends_putAttrs {})))))
  have hl : capacity<([sshFxpName]++(beBytes 4 2++(beBytes 4 1++
      (beBytes 4 name.length++name++(beBytes 4 name.length++name++attrsWire {}))))).length+4 := by
    have ha : (attrsWire {}).length=4 := by decide
    simp only [length_append,beBytes_length,length_singleton,ha]
    omega
  obtain ⟨e,he⟩ := sftpPacketEncode_overflow hf hl
  have hr : ((sftpServerHandlePacket (some (oneNameFs name)) none readdirRequest capacity).run
      ⟨dirSession,(),[]⟩).1=sftpNameOneAttrsEncode capacity 2 name none {} := rfl
  exact ⟨e,_,Prod.ext (hr.trans he) rfl⟩

lemma oneNameFs_gives {name filename : Bytes} {longname : Option Bytes}
    (h : ReaddirGives (some (oneNameFs name)) filename longname) :
    filename=name ∧ longname=none := by
  obtain ⟨api,readdir,handle,world,dirent,ha,hr,hrs,hf,hl⟩ := h
  obtain rfl := Option.some.inj ha
  obtain rfl := Option.some.inj hr
  obtain rfl := Except.ok.inj hrs
  exact ⟨(Option.some.inj hf).symm,hl.symm⟩

theorem sftp_request_answered_readdir : ∃ response reply t,
    (sftpServerHandlePacket (some (oneNameFs [97])) none readdirRequest emsshMaxPacketSize).run
      ⟨dirSession,(),[]⟩=(.ok response,t) ∧
    response.length=4+beValue (response.take 4) ∧ parseBody (response.drop 4)=some reply := by
  have hn : ShortNames (some (oneNameFs [97])) := by
    intro filename longname hg
    obtain ⟨rfl,rfl⟩ := oneNameFs_gives hg
    decide
  exact sftp_request_answered hn readdirRequest (le_refl _) ⟨dirSession,(),[]⟩

/-- A name without a long name is sent twice: one of 20000 bytes ends the session. -/
theorem sftp_request_unanswered : ∃ name : Bytes,
    (∀ filename longname,ReaddirGives (some (oneNameFs name)) filename longname →
      filename.length+(longname.getD []).length<emsshMaxPayloadSize) ∧
    (∃ past,SftpSessionRun (some (oneNameFs name)) none () past dirSession ()) ∧
    ∃ e t,(sftpServerHandlePacket (some (oneNameFs name)) none readdirRequest
      emsshMaxPacketSize).run ⟨dirSession,(),[]⟩=(.error e,t) := by
  refine ⟨List.replicate 20000 97,?_,?_,?_⟩
  · intro filename longname hg
    obtain ⟨rfl,rfl⟩ := oneNameFs_gives hg
    rw [length_replicate]
    decide
  · exact ⟨_,.packet opendirRequest emsshMaxPacketSize .start rfl⟩
  apply readdirServed_error
  rw [length_replicate]
  decide

end EMSSHD
