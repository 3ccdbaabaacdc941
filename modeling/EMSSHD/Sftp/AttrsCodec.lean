import EMSSHD.Core.Parses
import EMSSHD.Framework.Lawful
import EMSSHD.Sftp.Response

namespace EMSSHD

/-- A field of n bytes that is there when its flag is set, and zero otherwise. -/
def FieldFits (flags flag n value : Nat) : Prop :=
  if flags &&& flag≠0 then value<256^n else value=0

def fieldWire (flags flag n value : Nat) : Bytes :=
  if flags &&& flag≠0 then beBytes n value else []

/-- Attributes of the supported kinds, with nothing in the fields that no flag selects. -/
structure FsAttrs.Selected (attrs : FsAttrs) : Prop where
  flags : attrs.flags &&& sftpSupportedAttrFlags=attrs.flags
  size : FieldFits attrs.flags sshFilexferAttrSize 8 attrs.size
  uid : FieldFits attrs.flags sshFilexferAttrUidgid 4 attrs.uid
  gid : FieldFits attrs.flags sshFilexferAttrUidgid 4 attrs.gid
  permissions : FieldFits attrs.flags sshFilexferAttrPermissions 4 attrs.permissions
  atime : FieldFits attrs.flags sshFilexferAttrAcmodtime 4 attrs.atime
  mtime : FieldFits attrs.flags sshFilexferAttrAcmodtime 4 attrs.mtime

def attrsBody (attrs : FsAttrs) : Bytes :=
  fieldWire attrs.flags sshFilexferAttrSize 8 attrs.size++
    (fieldWire attrs.flags sshFilexferAttrUidgid 4 attrs.uid++
    (fieldWire attrs.flags sshFilexferAttrUidgid 4 attrs.gid++
    (fieldWire attrs.flags sshFilexferAttrPermissions 4 attrs.permissions++
    (fieldWire attrs.flags sshFilexferAttrAcmodtime 4 attrs.atime++
    fieldWire attrs.flags sshFilexferAttrAcmodtime 4 attrs.mtime))))

def ExtensionPairs (n : Nat) (text : Bytes) : Prop :=
  ∃ pairs : List (Bytes×Bytes),pairs.length=n ∧
    (∀ pair∈pairs,pair.1.length<256^4 ∧ pair.2.length<256^4) ∧
    text=pairs.flatMap fun pair => stringField pair.1++stringField pair.2

/-- The texts for attributes: a word of flags, the selected fields, and the extensions when a
flag announces them. -/
def AttrsText (attrs : FsAttrs) (text : Bytes) : Prop :=
  ∃ wireFlags extended,text=beBytes 4 wireFlags++(attrsBody attrs++extended) ∧
    wireFlags<256^4 ∧
    withoutBits wireFlags (sftpSupportedAttrFlags ||| sshFilexferAttrExtended)=0 ∧
    attrs.flags=wireFlags &&& sftpSupportedAttrFlags ∧ attrs.Selected ∧
    if wireFlags &&& sshFilexferAttrExtended≠0 then
      ∃ n pairs,n<256^4 ∧ ExtensionPairs n pairs ∧ extended=beBytes 4 n++pairs
    else extended=[]

section
/-- The fields of sftp_attrs_decode in front of the extensions, with the word of flags. -/
def attrsFields : Call SshBuffer Err (Nat×FsAttrs) := do
  let wireFlags ← sshBufferGetU32
  Call.require
    (withoutBits wireFlags (sftpSupportedAttrFlags ||| sshFilexferAttrExtended)=0) .unsupported
  let flags := wireFlags &&& sftpSupportedAttrFlags
  let size ← whenFlag flags sshFilexferAttrSize sshBufferGetU64
  let uid ← whenFlag flags sshFilexferAttrUidgid sshBufferGetU32
  let gid ← whenFlag flags sshFilexferAttrUidgid sshBufferGetU32
  let permissions ← whenFlag flags sshFilexferAttrPermissions sshBufferGetU32
  let atime ← whenFlag flags sshFilexferAttrAcmodtime sshBufferGetU32
  let mtime ← whenFlag flags sshFilexferAttrAcmodtime sshBufferGetU32
  pure (wireFlags,⟨flags,size,uid,gid,permissions,atime,mtime⟩)

def attrsExtensions (wireFlags : Nat) : Call SshBuffer Err Unit :=
  Call.onlyIf (wireFlags &&& sshFilexferAttrExtended≠0) (do
    let extendedCount ← sshBufferGetU32
    skipExtensions extendedCount)

lemma sftpAttrsDecode_eq (encoded : Bytes) : sftpAttrsDecode encoded=
    (((do
      let r ← attrsFields
      attrsExtensions r.1
      pure r.2) >>= fun attrs => Call.get >>= fun b =>
        Call.require (sshBufferRemainingRead b=0) .malformedPacket >>= fun _ => pure attrs).run
      (sshBufferWrap encoded)).1 := by
  simp only [attrsFields,bind_assoc,pure_bind]
  rfl

variable {n : Nat} {text : Bytes}

lemma parses_whenFlag {get : Call SshBuffer Err Nat} (h : Parses get (beBytes n) fun v => v<256^n)
    (flags flag : Nat) :
    Parses (whenFlag flags flag get) (fieldWire flags flag n) (FieldFits flags flag n) := by
  unfold whenFlag fieldWire FieldFits
  split_ifs with hf
  · exact h
  · exact ⟨fun b input hb => ⟨rfl,input,rfl,hb⟩,fun b v rest hv hb => ⟨b,by rw [hv]; rfl,hb⟩⟩

lemma recognizes_attrsFields : Recognizes attrsFields fun r text =>
    text=beBytes 4 r.1++attrsBody r.2 ∧ r.1<256^4 ∧
      withoutBits r.1 (sftpSupportedAttrFlags ||| sshFilexferAttrExtended)=0 ∧
      r.2.flags=r.1 &&& sftpSupportedAttrFlags ∧ r.2.Selected := by
  have hw (flag : Nat) (flags : Nat) := (parses_whenFlag parses_getU32 flags flag).recognizes
  refine (parses_getU32.recognizes.bind fun wireFlags => .require fun _ =>
    (parses_whenFlag parses_getU64 _ sshFilexferAttrSize).recognizes.bind fun size =>
    (hw sshFilexferAttrUidgid _).bind fun uid => (hw sshFilexferAttrUidgid _).bind fun gid =>
    (hw sshFilexferAttrPermissions _).bind fun permissions =>
    (hw sshFilexferAttrAcmodtime _).bind fun atime =>
    (hw sshFilexferAttrAcmodtime _).bind fun mtime => recognizes_pure _).congr ?_
  intro r text
  constructor
  · rintro ⟨wireFlags,_,_,rfl,⟨hf,rfl⟩,hk,size,_,_,rfl,⟨hsz,rfl⟩,uid,_,_,rfl,⟨hu,rfl⟩,
      gid,_,_,rfl,⟨hg,rfl⟩,permissions,_,_,rfl,⟨hp,rfl⟩,atime,_,_,rfl,⟨ha,rfl⟩,
      mtime,_,_,rfl,⟨hm,rfl⟩,rfl,rfl⟩
    refine ⟨?_,hf,hk,rfl,?_,hsz,hu,hg,hp,ha,hm⟩
    · simp [attrsBody]
    · rw [Nat.and_assoc,Nat.and_self]
  obtain ⟨wireFlags,attrs⟩ := r
  obtain ⟨flags,size,uid,gid,permissions,atime,mtime⟩ := attrs
  rintro ⟨rfl,hf,hk,hs,h⟩
  dsimp only at hf hk hs
  subst hs
  exact ⟨wireFlags,_,_,rfl,⟨hf,rfl⟩,hk,size,_,_,rfl,⟨h.size,rfl⟩,uid,_,_,rfl,
    ⟨h.uid,rfl⟩,gid,_,_,rfl,⟨h.gid,rfl⟩,permissions,_,_,rfl,⟨h.permissions,rfl⟩,atime,_,_,rfl,
    ⟨h.atime,rfl⟩,mtime,_,_,(append_nil _).symm,⟨h.mtime,rfl⟩,rfl,rfl⟩

lemma extensionPairs_zero : ExtensionPairs 0 text ↔ text=[] := by
  constructor
  · rintro ⟨pairs,hl,-,rfl⟩
    rw [length_eq_zero_iff.mp hl]
    rfl
  rintro rfl
  exact ⟨[],rfl,forall_mem_nil _,rfl⟩

lemma extensionPairs_succ : ExtensionPairs (n+1) text ↔
    ∃ name data rest : Bytes,text=stringField name++(stringField data++rest) ∧
      name.length<256^4 ∧ data.length<256^4 ∧ ExtensionPairs n rest := by
  constructor
  · rintro ⟨pairs,hl,hf,rfl⟩
    rcases pairs with _ | ⟨pair,pairs⟩
    · cases hl
    obtain ⟨⟨hn,hd⟩,hr⟩ := forall_mem_cons.mp hf
    refine ⟨pair.1,pair.2,_,?_,hn,hd,pairs,Nat.succ.inj hl,hr,rfl⟩
    rw [flatMap_cons,append_assoc]
  rintro ⟨name,data,_,rfl,hn,hd,pairs,rfl,hr,rfl⟩
  refine ⟨(name,data)::pairs,rfl,forall_mem_cons.mpr ⟨⟨hn,hd⟩,hr⟩,?_⟩
  rw [flatMap_cons,append_assoc]

lemma recognizes_skipExtensions (n : Nat) :
    Recognizes (skipExtensions n) fun _ text => ExtensionPairs n text := by
  induction n with
  | zero =>
    refine (recognizes_pure ()).congr fun _ text => ?_
    rw [extensionPairs_zero]
    exact and_iff_right rfl
  | succ n ih =>
    refine (parses_getStringView.recognizes.bind fun _ =>
      parses_getStringView.recognizes.bind fun _ => ih).congr fun _ text => ?_
    rw [extensionPairs_succ]
    constructor
    · rintro ⟨_,_,_,rfl,⟨⟨name,rfl,hn⟩,rfl⟩,_,_,rest,rfl,⟨⟨data,rfl,hd⟩,rfl⟩,hr⟩
      exact ⟨name,data,rest,rfl,hn,hd,hr⟩
    rintro ⟨name,data,rest,rfl,hn,hd,hr⟩
    exact ⟨some name,_,_,rfl,⟨⟨name,rfl,hn⟩,rfl⟩,some data,_,rest,rfl,⟨⟨data,rfl,hd⟩,rfl⟩,hr⟩

lemma recognizes_attrsExtensions (wireFlags : Nat) :
    Recognizes (attrsExtensions wireFlags) fun _ text =>
      if wireFlags &&& sshFilexferAttrExtended≠0 then
        ∃ n pairs,n<256^4 ∧ ExtensionPairs n pairs ∧ text=beBytes 4 n++pairs
      else text=[] := by
  have hp := parses_getU32.recognizes.bind recognizes_skipExtensions
  refine (hp.ite (p := wireFlags &&& sshFilexferAttrExtended≠0)
    (recognizes_pure ())).congr fun _ text => ?_
  split_ifs with hext
  · constructor
    · rintro ⟨n,_,pairs,rfl,⟨hn,rfl⟩,hp⟩
      exact ⟨n,pairs,hn,hp,rfl⟩
    rintro ⟨n,pairs,hn,hp,rfl⟩
    exact ⟨n,_,pairs,rfl,⟨hn,rfl⟩,hp⟩
  · exact and_iff_right rfl

lemma sftpAttrsDecode_iff {encoded : Bytes} {attrs : FsAttrs} :
    sftpAttrsDecode encoded=.ok attrs ↔ AttrsText attrs encoded := by
  have ha := recognizes_attrsFields.bind fun r =>
    (recognizes_attrsExtensions r.1).bind fun _ => recognizes_pure r.2
  rw [sftpAttrsDecode_eq,ha.drained (wrap_unread encoded)]
  constructor
  · rintro ⟨⟨wireFlags,_⟩,_,_,rfl,⟨rfl,hw,hk,hs,hf⟩,_,extended,_,rfl,hext,rfl,rfl⟩
    exact ⟨wireFlags,extended,by simp,hw,hk,hs,hf,hext⟩
  rintro ⟨wireFlags,extended,rfl,hw,hk,hs,hf,hext⟩
  exact ⟨(wireFlags,attrs),_,_,(append_assoc _ _ _).symm,
    ⟨rfl,hw,hk,hs,hf⟩,(),extended,[],by simp,hext,rfl,rfl⟩
end

section
def skipExtension : Call SshBuffer Err StringView := do
  let _ ← sshBufferGetStringView
  sshBufferGetStringView

def skipExtensionsRounds : Nat → SshBuffer → Nat
  | 0,_ => 0
  | count+1,b =>
    match skipExtension.run b with
    | (.ok _,t) => skipExtensionsRounds count t+1
    | (.error _,_) => 1

/-- The rounds of that loop in sftp_attrs_decode. -/
def sftpAttrsDecodeRounds (encoded : Bytes) : Nat :=
  match (do
      let r ← attrsFields
      Call.require (r.1 &&& sshFilexferAttrExtended≠0) .unsupported
      sshBufferGetU32 : Call SshBuffer Err Nat).run (sshBufferWrap encoded) with
  | (.ok extendedCount,b) => skipExtensionsRounds extendedCount b
  | (.error _,_) => 0

lemma skipExtensions_succ (count : Nat) :
    skipExtensions (count+1)=skipExtension >>= fun _ => skipExtensions count := by
  rw [skipExtensions,skipExtension,bind_assoc]

lemma skipExtensionsRounds_counts (count : Nat) (b : SshBuffer) :
    skipExtensionsRounds count b≤count ∧
    (skipExtensions (skipExtensionsRounds count b)).run b=(skipExtensions count).run b ∧
    ∀ k<skipExtensionsRounds count b,∃ t,(skipExtensions k).run b=(.ok (),t) := by
  induction count generalizing b with
  | zero => exact ⟨le_rfl,rfl,fun k hk => absurd hk (Nat.not_lt_zero k)⟩
  | succ count ih =>
    rw [skipExtensionsRounds]
    split
    case _ data t hr =>
      obtain ⟨hle,he,hk⟩ := ih t
      refine ⟨Nat.succ_le_succ hle,?_,fun k hlt => ?_⟩
      · rw [skipExtensions_succ,skipExtensions_succ,Call.run_bind_ok hr,Call.run_bind_ok hr,he]
      cases k with
      | zero => exact ⟨b,rfl⟩
      | succ k =>
        rw [skipExtensions_succ,Call.run_bind_ok hr]
        exact hk k (Nat.lt_of_succ_lt_succ hlt)
    case _ e t hr =>
      refine ⟨Nat.succ_le_succ (Nat.zero_le _),?_,fun k hlt => ?_⟩
      · rw [skipExtensions_succ,skipExtensions_succ,Call.run_bind_error hr,
          Call.run_bind_error hr]
      · obtain rfl := Nat.lt_one_iff.mp hlt
        exact ⟨b,rfl⟩

/-- The loop of sftp_attrs_decode runs for exactly these rounds: they give what all of them
would give, and none before the last one fails. -/
theorem sftpAttrsDecodeRounds_counts {encoded : Bytes} {r : Nat×FsAttrs} {count : Nat}
    {b c : SshBuffer} (hf : attrsFields.run (sshBufferWrap encoded)=(.ok r,b))
    (hx : r.1 &&& sshFilexferAttrExtended≠0) (hc : sshBufferGetU32.run b=(.ok count,c)) :
    sftpAttrsDecodeRounds encoded≤count ∧
    (skipExtensions (sftpAttrsDecodeRounds encoded)).run c=(skipExtensions count).run c ∧
    ∀ k<sftpAttrsDecodeRounds encoded,∃ t,(skipExtensions k).run c=(.ok (),t) := by
  have hr : sftpAttrsDecodeRounds encoded=skipExtensionsRounds count c := by
    rw [sftpAttrsDecodeRounds,Call.run_bind_ok hf,Call.run_bind_ok (Call.run_require_of _ b hx),hc]
  rw [hr]
  exact skipExtensionsRounds_counts count c

variable {b : SshBuffer} {input : Bytes}

lemma skipExtension_takes (hb : b.Unread input) :
    skipExtension.Ensures b (Call.Outcome
      (fun _ t => ∃ rest,t.Unread rest ∧ rest.length+8≤ input.length) fun _ _ => True) := by
  refine .bind (parses_getStringView.takes b input hb) (fun name t ht => ?_) fun _ _ _ => trivial
  obtain ⟨-,rest,hi,hr⟩ := ht
  refine (parses_getStringView.takes t rest hr).mono fun r u hu => ?_
  rcases r with _ | data
  · trivial
  obtain ⟨-,behind,hs,hbh⟩ := hu
  refine ⟨behind,hbh,?_⟩
  rw [hi,hs,stringField,stringField]
  simp only [length_append,beBytes_length]
  omega

lemma skipExtensionsRounds_le (count : Nat) (hb : b.Unread input) :
    skipExtensionsRounds count b≤ input.length/8+1 := by
  induction count generalizing b input with
  | zero => exact Nat.zero_le _
  | succ count ih =>
    have ht := skipExtension_takes hb
    rw [skipExtensionsRounds]
    split
    case _ data t hr =>
      obtain ⟨rest,hrs,hl⟩ := ht.of_eq hr
      have hrn := ih hrs
      omega
    case _ e t hr => omega

lemma sftpAttrsDecodeRounds_le (encoded : Bytes) :
    sftpAttrsDecodeRounds encoded≤encoded.length := by
  have hh := recognizes_attrsFields.bind fun r =>
    Recognizes.require (p := r.1 &&& sshFilexferAttrExtended≠0) (e := .unsupported)
      (c := fun _ => sshBufferGetU32) fun _ => parses_getU32.recognizes
  have ht := hh.takes _ _ (wrap_unread encoded)
  unfold sftpAttrsDecodeRounds
  split
  case _ count b hr =>
    obtain ⟨text,rest,⟨r,u,v,rfl,⟨rfl,-⟩,-,-,rfl⟩,hi,hrs⟩ := ht.of_eq hr
    have hrn := skipExtensionsRounds_le count hrs
    have hl := congrArg List.length hi
    simp only [length_append,beBytes_length] at hl
    omega
  case _ e b hr => exact Nat.zero_le _
end

variable {attrs : FsAttrs}

lemma attrsWire_eq (h : attrs.Selected) :
    attrsWire attrs=beBytes 4 attrs.flags++attrsBody attrs := by
  unfold attrsWire attrsBody fieldWire
  rw [h.flags]

lemma attrsText_attrsWire (h : attrs.Selected) : AttrsText attrs (attrsWire attrs) := by
  have hs : attrs.flags≤15 := by
    rw [← h.flags]
    exact Nat.and_le_right
  have hk : ∀ flags≤15,
      withoutBits flags (sftpSupportedAttrFlags ||| sshFilexferAttrExtended)=0 ∧
        flags &&& sshFilexferAttrExtended=0 := by decide
  obtain ⟨hb,hext⟩ := hk attrs.flags hs
  refine ⟨attrs.flags,[],?_,lt_of_le_of_lt hs (by decide),hb,h.flags.symm,h,?_⟩
  · rw [attrsWire_eq h,append_nil]
  · rw [if_neg (not_not.mpr hext)]

/-- Attributes are read back as they were written, and exactly their texts are accepted. -/
theorem sftpAttrs_codec :
    (∀ attrs : FsAttrs,attrs.Selected →
      (∀ capacity bytes,encodedBy (putAttrs attrs) capacity=.ok bytes →
        sftpAttrsDecode bytes=.ok attrs) ∧
      ∀ capacity≥32,∃ bytes,encodedBy (putAttrs attrs) capacity=.ok bytes) ∧
    (∀ encoded attrs,sftpAttrsDecode encoded=.ok attrs ↔ AttrsText attrs encoded) ∧
    ∀ encoded,sftpAttrsDecodeRounds encoded≤encoded.length := by
  refine ⟨fun attrs h => ⟨fun capacity bytes hb => ?_,fun capacity hc => ?_⟩,
    fun _ _ => sftpAttrsDecode_iff,sftpAttrsDecodeRounds_le⟩
  · have hw : bytes=attrsWire attrs := (appends_putAttrs attrs).encodedBy hb
    rw [hw,sftpAttrsDecode_iff]
    exact attrsText_attrsWire h
  have hl := attrsWire_length attrs
  exact ⟨_,(writes_putAttrs attrs).encodedBy (by omega)⟩

end EMSSHD
