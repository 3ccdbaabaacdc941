import EMSSHD.Core.Parses
import EMSSHD.Core.Transport.Exchange

namespace EMSSHD

open Call

section
variable (lists : AlgorithmSet)

def nameListFields (indices : List NameListIndex) : Bytes :=
  (indices.map fun index => (lists index).getD []).flatMap stringField

def kexinitWire (cookie : Bytes) (firstKexPacketFollows : Bool) : Bytes :=
  [sshMsgKexinit]++(cookie++(nameListFields lists NameListIndex.all++
    ([if firstKexPacketFollows then 1 else 0]++beBytes 4 0)))

def ListsFit (indices : List NameListIndex) : Prop :=
  ∀ index∈indices,sshNameListIsValid (lists index)=true ∧ ((lists index).getD []).length ≤ uint32Max
end

section
variable (lists : AlgorithmSet) (cookie : Bytes) (firstKexPacketFollows : Bool)

lemma appendsWhen_putNameLists (indices : List NameListIndex) :
    AppendsWhen (ListsFit lists indices) (sshKexinitEncode.putNameLists lists indices)
      (nameListFields lists indices) := by
  induction indices with
  | nil => exact writes_pure.appends.when.weaken fun _ _ h => absurd h not_mem_nil
  | cons index rest ih =>
    have ho := ((appendsWhen_putString ((lists index).getD [])).bind ih).require
      (p := sshNameListIsValid (lists index)=true) .invalidArgument
    apply ho.weaken
    intro h
    exact forall_mem_cons.mpr ⟨⟨h.1,h.2.1⟩,h.2.2⟩

lemma appendsWhen_kexinitEncode :
    AppendsWhen (ListsFit lists NameListIndex.all)
      (sshKexinitEncode cookie lists firstKexPacketFollows)
      (kexinitWire lists cookie firstKexPacketFollows) := by
  have ha := (appends_putRaw [sshMsgKexinit]).when.bind ((appends_putRaw cookie).when.bind
    ((appendsWhen_putNameLists lists NameListIndex.all).bind
      ((appends_putRaw [if firstKexPacketFollows then 1 else 0]).when.bind
        (appends_putRaw (beBytes 4 0)).when)))
  exact ha.weaken fun h => h.2.2.1

variable {lists}

lemma writes_putNameLists {indices : List NameListIndex} (h : ListsFit lists indices) :
    Writes (sshKexinitEncode.putNameLists lists indices) (nameListFields lists indices) := by
  induction indices with
  | nil => exact writes_pure
  | cons index rest ih =>
    obtain ⟨⟨hv,hl⟩,hr⟩ := forall_mem_cons.mp h
    exact ((writes_putString hl).bind (ih hr)).require hv

lemma writes_kexinitEncode (h : ListsFit lists NameListIndex.all) :
    Writes (sshKexinitEncode cookie lists firstKexPacketFollows)
      (kexinitWire lists cookie firstKexPacketFollows) :=
  (writes_putRaw [sshMsgKexinit]).bind ((writes_putRaw cookie).bind
    ((writes_putNameLists h).bind
      ((writes_putRaw [if firstKexPacketFollows then 1 else 0]).bind
        (writes_putRaw (beBytes 4 0)))))
end

section
variable {b : SshBuffer} {input : Bytes} {indices : List NameListIndex} {lists : AlgorithmSet}

lemma readNameList_takes (index : NameListIndex) (k : Kexinit) (hb : b.Unread input) :
    (readNameList index).Ensures (b,k) (Outcome
      (fun _ t => ∃ view rest,(sshNameListIsValid view=true ∧ ViewFits view) ∧
        input=stringField (view.getD [])++rest ∧ t.1.Unread rest ∧
        t.2={k with nameLists := Function.update k.nameLists index view})
      fun _ _ => True) := by
  apply (parses_getStringView.readInto k hb).bind
  · intro _ t ht
    obtain ⟨view,rest,hf,hi,hr,hk⟩ := ht
    apply bindGet
    apply Ensures.require
    · intro hv
      rw [hk] at hv
      simp only [Function.update_self] at hv
      exact ⟨view,rest,⟨hv,hf⟩,hi,hr,hk⟩
    intro _
    trivial
  intro _ _ _
  trivial

/-- What has been read of the lists, and that nothing else has changed. -/
structure ListsRead (indices : List NameListIndex) (k k' : Kexinit) : Prop where
  fits : ∀ index∈indices,sshNameListIsValid (k'.nameLists index)=true ∧
    ViewFits (k'.nameLists index)
  kept : ∀ index,index∉indices → k'.nameLists index=k.nameLists index
  others : k'={k with nameLists := k'.nameLists}

lemma readNameLists_takes (hn : indices.Nodup) (k : Kexinit) (hb : b.Unread input) :
    (readNameLists indices).Ensures (b,k) (Outcome
      (fun _ t => ∃ rest,input=nameListFields t.2.nameLists indices++rest ∧ t.1.Unread rest ∧
        ListsRead indices k t.2)
      fun _ _ => True) := by
  induction indices generalizing b input k with
  | nil => exact ⟨input,rfl,hb,fun _ h => absurd h not_mem_nil,fun _ _ => rfl,rfl⟩
  | cons index indices ih =>
    obtain ⟨hf,hn⟩ := List.nodup_cons.mp hn
    apply (readNameList_takes index k hb).bind
    · intro _ t ht
      obtain ⟨view,rest,hv,hin,hrs,hk⟩ := ht
      rcases t with ⟨b',k'⟩
      change k'=_ at hk
      apply (ih hn k' hrs).mono
      intro r u hu
      rcases r with _ | _
      · trivial
      obtain ⟨later,hl,hun,hr⟩ := hu
      have hi : u.2.nameLists index=view := by
        rw [hr.kept index hf,hk]
        exact Function.update_self ..
      refine ⟨later,?_,hun,?_,?_,?_⟩
      · rw [hin,hl,nameListFields,nameListFields,map_cons,flatMap_cons,hi,append_assoc]
      · rw [forall_mem_cons,hi]
        exact ⟨hv,hr.fits⟩
      · intro other ho
        rw [mem_cons,not_or] at ho
        rw [hr.kept other ho.2,hk]
        exact Function.update_of_ne ho.1 ..
      · rw [hr.others,hk]
    intro _ _ _
    trivial

/-- A payload, as the encoding of a record with lists that are valid. -/
structure Encodes (payload : Bytes) (k : Kexinit) : Prop where
  wire : payload=kexinitWire k.nameLists k.cookie k.firstKexPacketFollows
  cookie : k.cookie.length=sshKexCookieLen
  reserved : k.reserved=0
  fits : ∀ index,sshNameListIsValid (k.nameLists index)=true ∧ ViewFits (k.nameLists index)

lemma kexinitDecode_encodes (payload : Bytes) :
    sshKexinitDecode.Ensures (sshBufferWrap payload,{})
      (Outcome (fun _ t => Encodes payload t.2) fun _ _ => True) := by
  have hid := Ensures.onFst (s := (sshBufferWrap payload,({} : Kexinit)))
    (parses_getU8.takes _ payload (wrap_unread payload))
  refine .bind hid (fun messageId t ht => ?_) fun _ _ _ => trivial
  obtain ⟨⟨_,afterId,hp,had⟩,_⟩ := ht
  refine .bindRequire (fun hkx => ?_) fun _ => trivial
  refine .bind ((parses_getRaw _).readInto t.2 had) (fun _ t ht => ?_) fun _ _ _ => trivial
  obtain ⟨cookie,afterCookie,hck,hi,hat,hk⟩ := ht
  refine .bind (readNameLists_takes (by decide) t.2 hat) (fun _ t' ht' => ?_) fun _ _ _ => trivial
  obtain ⟨afterLists,hl,har,hrd⟩ := ht'
  refine .bind (parses_getBool.readInto t'.2 har) (fun _ t'' ht'' => ?_) fun _ _ _ => trivial
  obtain ⟨follows,afterFollows,_,hf,haf,hk''⟩ := ht''
  refine .bind (parses_getU32.readInto t''.2 haf) (fun _ u hu => ?_) fun _ _ _ => trivial
  obtain ⟨reserved,afterReserved,_,hr,ha,hu⟩ := hu
  refine .bindGet (.bindRequire (fun hz => ?_) fun _ => trivial)
  apply (expectEnd_ends .malformedPacket u.2 ha).mono
  intro r v hv
  rcases r with _ | _
  · trivial
  obtain ⟨he,hv⟩ := hv
  have hc : t'.2.cookie=cookie := by rw [hrd.others,hk]
  rw [hu] at hz
  change Encodes payload v.2
  rw [hv,hu,hk'']
  refine ⟨?_,?_,hz,fun index => hrd.fits index (NameListIndex.mem_all index)⟩
  · change payload=kexinitWire t'.2.nameLists t'.2.cookie follows
    change reserved=0 at hz
    rw [hp,hkx,hi,hl,hf,hr,he,hz,hc,append_nil]
    rfl
  change t'.2.cookie.length=_
  rw [hc,hck]

lemma kexinitOf_encodes {payload : Bytes} {k : Kexinit} (h : kexinitOf payload=.ok k) :
    Encodes payload k := by
  apply decodedBy_ensures (P := Encodes payload) h
  apply (kexinitDecode_encodes payload).mono
  intro r t ht hr
  cases r with
  | error e => cases hr
  | ok _ => exact ht

lemma readNameLists_succeeds (hf : ListsFit lists indices) (k : Kexinit) {rest : Bytes}
    (hb : b.Unread (nameListFields lists indices++rest)) :
    ∃ t,(readNameLists indices).run (b,k)=(.ok (),t) ∧ t.1.Unread rest := by
  induction indices generalizing b k with
  | nil => exact ⟨(b,k),rfl,hb⟩
  | cons index indices ih =>
    obtain ⟨⟨hv,hl⟩,hf⟩ := forall_mem_cons.mp hf
    rw [nameListFields,map_cons,flatMap_cons,append_assoc] at hb
    have hvw : ViewFits (some ((lists index).getD [])) := by
      refine ⟨_,rfl,?_⟩
      unfold uint32Max at hl
      omega
    obtain ⟨b',hg,hb'⟩ := parses_getStringView.yields b _ _ hvw hb
    obtain ⟨t,hr,ht⟩ := ih hf
      {k with nameLists := Function.update k.nameLists index (some ((lists index).getD []))} hb'
    refine ⟨t,?_,ht⟩
    have hs : sshNameListIsValid (Function.update k.nameLists index
        (some ((lists index).getD [])) index)=true := by
      rw [Function.update_self]
      exact hv
    have ho : (readNameList index).run (b,k)=(.ok (),(b',
        {k with nameLists := Function.update k.nameLists index (some ((lists index).getD []))})) := by
      rw [readNameList,run_bind_ok (readInto_run hg),run_bind_ok (run_get _)]
      exact run_require_of _ _ hs
    rw [readNameLists,run_bind_ok ho,hr]

lemma kexinitOf_succeeds {cookie : Bytes} (follows : Bool)
    (hc : cookie.length=sshKexCookieLen) (hf : ListsFit lists NameListIndex.all) :
    ∃ k,kexinitOf (kexinitWire lists cookie follows)=.ok k := by
  have hb := wrap_unread (kexinitWire lists cookie follows)
  obtain ⟨b1,h1,hb1⟩ := getU8_unread hb
  obtain ⟨b2,h2,hb2⟩ := (parses_getRaw _).yields b1 cookie _ hc hb1
  obtain ⟨⟨b3,k3⟩,h3,hb3⟩ := readNameLists_succeeds hf {({} : Kexinit) with cookie := cookie} hb2
  obtain ⟨b4,h4,hb4⟩ := parses_getBool.yields b3 follows _ trivial hb3
  rw [← append_nil (beBytes 4 0)] at hb4
  obtain ⟨b5,h5,hb5⟩ := parses_getU32.yields b4 0 [] (by decide) hb4
  have hr : sshKexinitDecode.run (sshBufferWrap (kexinitWire lists cookie follows),{})=
      (.ok (),(b5,{k3 with firstKexPacketFollows := follows,reserved := 0})) := by
    rw [sshKexinitDecode,run_bind_ok (onFst_run h1),run_bind_ok (run_require_of _ _ rfl),
      run_bind_ok (readInto_run h2),
      run_bind_ok h3,run_bind_ok (readInto_run h4),run_bind_ok (readInto_run h5),
      run_bind_ok (run_get _),run_bind_ok (run_require_of _ _ rfl)]
    exact expectEnd_run _ hb5
  rw [kexinitOf,decodedBy,decodePayload,hr]
  exact ⟨_,rfl⟩
end

variable {lists : AlgorithmSet} {cookie later payload : Bytes} {k : Kexinit}

lemma kexinitWire_append_inj {lists' : AlgorithmSet} {cookie' : Bytes} {follows follows' : Bool}
    (hck : cookie.length=cookie'.length) (hft : ∀ index,((lists index).getD []).length<256^4)
    (hf : ∀ index,((lists' index).getD []).length<256^4)
    (h : kexinitWire lists cookie follows++later=kexinitWire lists' cookie' follows') :
    cookie=cookie' ∧ (∀ index,(lists index).getD []=(lists' index).getD []) ∧
      follows=follows' ∧ later=[] := by
  simp only [kexinitWire,append_assoc,cons_append,nil_append] at h
  obtain ⟨hc,hr⟩ := List.append_inj (List.cons.inj h).2 hck
  obtain ⟨hl,he⟩ := stringFields_append_inj (by simp) (by simpa using fun index _ => hft index)
    (by simpa using fun index _ => hf index) hr
  obtain ⟨hfl,hz⟩ := List.cons.inj he
  refine ⟨hc,?_,?_,List.append_right_eq_self.mp hz⟩
  · intro index
    exact List.map_inj_left.mp hl index (NameListIndex.mem_all index)
  · cases follows <;> cases follows' <;> simp_all

lemma Encodes.lengths (h : Encodes payload k) (index : NameListIndex) :
    ((k.nameLists index).getD []).length<256^4 := by
  obtain ⟨data,hd,hl⟩ := (h.fits index).2
  rw [hd]
  exact hl

lemma Encodes.nothing_follows {k' : Kexinit} (h : Encodes payload k)
    (h' : Encodes (payload++later) k') : later=[] := by
  have hc : k.cookie.length=k'.cookie.length := h.cookie.trans h'.cookie.symm
  have hs := h'.wire
  rw [h.wire] at hs
  exact (kexinitWire_append_inj hc h.lengths h'.lengths hs).2.2.2

lemma Encodes.encodedBy (h : Encodes payload k) :
    encodedBy (sshKexinitEncode k.cookie k.nameLists k.firstKexPacketFollows) payload.length=
      .ok payload := by
  have hf : ListsFit k.nameLists NameListIndex.all := by
    intro index _
    have hl := h.lengths index
    refine ⟨(h.fits index).1,?_⟩
    unfold uint32Max
    omega
  have hw := writes_kexinitEncode k.cookie k.firstKexPacketFollows hf
  rw [← h.wire] at hw
  exact hw.encodedBy (Nat.le_refl _)

def kexinitFor (cookie : Bytes) (lists : AlgorithmSet) (follows : Bool) : Kexinit where
  cookie := cookie
  nameLists index := some ((lists index).getD [])
  firstKexPacketFollows := follows
  reserved := 0

lemma kexinitOf_wire (follows : Bool) (hck : cookie.length=sshKexCookieLen)
    (hft : ListsFit lists NameListIndex.all) :
    kexinitOf (kexinitWire lists cookie follows)=.ok (kexinitFor cookie lists follows) := by
  obtain ⟨k,hk⟩ := kexinitOf_succeeds follows hck hft
  have he := kexinitOf_encodes hk
  have hl (index : NameListIndex) : ((lists index).getD []).length<256^4 := by
    have hln := (hft index (NameListIndex.mem_all index)).2
    unfold uint32Max at hln
    omega
  have hw := he.wire
  rw [← append_nil (kexinitWire lists cookie follows)] at hw
  obtain ⟨hc,hls,hf,_⟩ := kexinitWire_append_inj (hck.trans he.cookie.symm) hl he.lengths hw
  have hn : k.nameLists=fun index => some ((lists index).getD []) := by
    funext index
    obtain ⟨data,hd,_⟩ := (he.fits index).2
    rw [hls,hd]
    rfl
  have hr := he.reserved
  rw [hk,kexinitFor]
  rcases k with ⟨_,_,_,_⟩
  simp only at hc hf hn hr
  rw [hc,hf,hn,hr]

/-- Encoding and decoding a KEXINIT undo each other, and no payload that is accepted is a
proper beginning of another one. -/
theorem kexinit_codec :
    (∀ (cookie : Vector UInt8 sshKexCookieLen) (lists : AlgorithmSet) (follows : Bool),
      (∀ (capacity : Nat) (out : Bytes),
        encodedBy (sshKexinitEncode cookie.toList lists follows) capacity=.ok out →
          kexinitOf out=.ok (kexinitFor cookie.toList lists follows)) ∧
      ((∀ index,sshNameListIsValid (lists index)=true ∧
          ((lists index).getD []).length ≤ uint32Max) →
        ∀ capacity,(kexinitWire lists cookie.toList follows).length ≤ capacity →
          ∃ out,encodedBy (sshKexinitEncode cookie.toList lists follows) capacity=.ok out)) ∧
    (∀ (payload : Bytes) (k : Kexinit),kexinitOf payload=.ok k →
      encodedBy (sshKexinitEncode k.cookie k.nameLists k.firstKexPacketFollows) payload.length=
        .ok payload) ∧
    (∀ (payload later : Bytes) (k k' : Kexinit),kexinitOf payload=.ok k →
      kexinitOf (payload++later)=.ok k' → later=[]) ∧
    ∀ (payload payload' : Bytes) (k : Kexinit),kexinitOf payload=.ok k →
      kexinitOf payload'=.ok k → payload=payload' := by
  refine ⟨?_,?_,?_,?_⟩
  · intro cookie lists follows
    constructor
    · intro capacity out he
      obtain ⟨hf,ho⟩ := (appendsWhen_kexinitEncode lists cookie.toList follows).encodedBy he
      rw [ho]
      exact kexinitOf_wire follows cookie.length_toList hf
    intro hf capacity hr
    have hw := writes_kexinitEncode cookie.toList follows fun index _ => hf index
    exact ⟨_,hw.encodedBy hr⟩
  · intro payload k h
    exact (kexinitOf_encodes h).encodedBy
  · intro payload later k k' h h'
    exact (kexinitOf_encodes h).nothing_follows (kexinitOf_encodes h')
  intro payload payload' k h h'
  rw [(kexinitOf_encodes h).wire,(kexinitOf_encodes h').wire]

/-- The default lists go through. -/
theorem kexinit_codec_defaults :
    ∃ out,encodedBy (sshKexinitEncode (List.replicate 16 0) defaultNameLists false)
        emsshMaxKexinitPayload=.ok out ∧
      kexinitOf out=.ok (kexinitFor (List.replicate 16 0) defaultNameLists false) := by
  have hl : ∀ index,sshNameListIsValid (defaultNameLists index)=true ∧
      ((defaultNameLists index).getD []).length ≤ uint32Max := by
    intro index
    cases index <;> decide
  have hc : (Vector.replicate 16 (0 : UInt8)).toList=List.replicate 16 0 := by decide
  obtain ⟨hd,he⟩ := kexinit_codec.1 (Vector.replicate 16 0) defaultNameLists false
  obtain ⟨out,ho⟩ := he hl emsshMaxKexinitPayload (by decide +kernel)
  rw [← hc]
  exact ⟨out,ho,hd _ _ ho⟩

end EMSSHD
