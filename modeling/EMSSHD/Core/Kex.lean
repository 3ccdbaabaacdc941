import EMSSHD.Core.NameList
import EMSSHD.Core.Transport.Channel
import EMSSHD.Math.Ranking

namespace EMSSHD

open Call

open Ranking

/-- The ten name lists of a KEXINIT, ssh_kexinit_name_list_index_t. -/
inductive NameListIndex where
  | kexAlgorithms
  | serverHostKeyAlgorithms
  | encryptionClientToServer
  | encryptionServerToClient
  | macClientToServer
  | macServerToClient
  | compressionClientToServer
  | compressionServerToClient
  | languagesClientToServer
  | languagesServerToClient
  deriving DecidableEq

namespace NameListIndex

def all : List NameListIndex :=
  [kexAlgorithms,serverHostKeyAlgorithms,encryptionClientToServer,encryptionServerToClient,
    macClientToServer,macServerToClient,compressionClientToServer,compressionServerToClient,
    languagesClientToServer,languagesServerToClient]

lemma mem_all (index : NameListIndex) : index∈all := by
  cases index <;> decide

def isLanguages : NameListIndex → Bool
  | languagesClientToServer | languagesServerToClient => true
  | _ => false
end NameListIndex

def sshKexCookieLen : Nat := 16

structure Kexinit where
  cookie : Bytes := []
  nameLists : NameListIndex → StringView := fun _ => none
  firstKexPacketFollows : Bool := false
  reserved : Nat := 0

/-- ssh_kexinit_algorithm_set_t; a missing list is an empty one. -/
abbrev AlgorithmSet := NameListIndex → Option Bytes

/-- ssh_kex_negotiation_t -/
abbrev Negotiation := NameListIndex → StringView

def defaultNameLists : AlgorithmSet
  | .kexAlgorithms => some (cstr "curve25519-sha256,ecdh-sha2-nistp256")
  | .serverHostKeyAlgorithms => some (cstr "ssh-ed25519,ecdsa-sha2-nistp256,rsa-sha2-256")
  | .encryptionClientToServer | .encryptionServerToClient => some (cstr "aes128-ctr")
  | .macClientToServer | .macServerToClient => some (cstr "hmac-sha2-256")
  | .compressionClientToServer | .compressionServerToClient => some (cstr "none")
  | .languagesClientToServer | .languagesServerToClient => some []

def readNameList (index : NameListIndex) : Decoder Kexinit Unit := do
  readInto sshBufferGetStringView fun v k =>
    {k with nameLists := Function.update k.nameLists index v}
  let s ← Call.get
  Call.require (sshNameListIsValid (s.2.nameLists index)=true) .malformedPacket

def readNameLists : List NameListIndex → Decoder Kexinit Unit
  | [] => pure ()
  | index::rest => do
    readNameList index
    readNameLists rest

def sshKexinitDecode : Decoder Kexinit Unit := do
  let messageId ← Call.onFst sshBufferGetU8
  Call.require (messageId=sshMsgKexinit) .malformedPacket
  readInto (getRaw sshKexCookieLen) fun v k => {k with cookie := v}
  readNameLists NameListIndex.all
  readInto sshBufferGetBool fun v k => {k with firstKexPacketFollows := v}
  readInto sshBufferGetU32 fun v k => {k with reserved := v}
  let s ← Call.get
  Call.require (s.2.reserved=0) .malformedPacket
  expectEnd .malformedPacket

def kexinitOf (payload : Bytes) : Except Err Kexinit := decodedBy sshKexinitDecode {} payload

def clientHasItem (client item : Bytes) : Bool :=
  (scanItems client fun clientItem => if item=clientItem then some () else none).isSome

def selectFirstMatch (client : StringView) (serverList : Option Bytes) (allowEmpty : Bool) :
    Except Err StringView :=
  let server := serverList.getD []
  if sshNameListIsValid (some server)=false then .error .invalidArgument
  else if sshNameListIsValid client=false then .error .malformedPacket
  else if server.length=0 ∨ (client.getD []).length=0 then
    if allowEmpty then .ok none else .error .unsupported
  else match scanItems server fun item =>
      if clientHasItem (client.getD []) item then some item else none with
    | some item => .ok (some item)
    | none => .error .unsupported

def negotiateOne (client : Kexinit) (server : AlgorithmSet) (index : NameListIndex) :
    Except Err StringView :=
  selectFirstMatch (client.nameLists index) (server index) index.isLanguages

def negotiateLists (client : Kexinit) (server : AlgorithmSet) :
    List NameListIndex → Negotiation → Except Err Negotiation
  | [],negotiation => .ok negotiation
  | index::rest,negotiation => match negotiateOne client server index with
    | .error e => .error e
    | .ok selected => negotiateLists client server rest
      (Function.update negotiation index selected)

def sshKexNegotiate (client : Kexinit) (serverAlgorithms : Option AlgorithmSet) :
    Except Err Negotiation :=
  negotiateLists client (serverAlgorithms.getD defaultNameLists) NameListIndex.all fun _ => none

def namesIn (list : Bytes) : List Bytes := if list=[] then [] else nameItems list

lemma clientHasItem_eq (client item : Bytes) :
    clientHasItem client item=decide (item∈nameItems client) := by
  rw [clientHasItem,scanItems_eq]
  rw [Bool.eq_iff_iff,List.findSome?_isSome_iff,decide_eq_true_iff]
  constructor
  · rintro ⟨x,hx,hs⟩
    by_cases hix : item=x
    · rwa [hix]
    · simp [hix] at hs
  intro hm
  exact ⟨item,hm,by simp⟩

lemma scan_server_eq (client server : Bytes) :
    (scanItems server fun item => if clientHasItem client item then some item else none)=
      firstCommon (nameItems server) (nameItems client) := by
  rw [scanItems_eq,firstCommon]
  generalize nameItems server=items
  induction items with
  | nil => rfl
  | cons item rest ih =>
    rw [List.findSome?_cons,clientHasItem_eq]
    by_cases hm : item∈nameItems client
    · rw [List.find?_cons_of_pos (by simpa using hm)]
      simp [hm]
    rw [List.find?_cons_of_neg (by simpa using hm)]
    simpa [hm] using ih

lemma nameListIsValid_getD (list : StringView) :
    sshNameListIsValid (some (list.getD []))=sshNameListIsValid list := by
  cases list <;> rfl

section
variable (client : Kexinit) (server : AlgorithmSet)

def clientNames (index : NameListIndex) : List Bytes := namesIn ((client.nameLists index).getD [])
def serverNames (index : NameListIndex) : List Bytes := namesIn ((server index).getD [])

/-- There is no common name where one is needed: in each of the first eight lists, and in
those of the languages when neither side leaves them empty. -/
def Mismatch (index : NameListIndex) : Prop :=
  Apart (clientNames client index) (serverNames server index) ∧
  ¬(index.isLanguages=true ∧
    ((client.nameLists index).getD []=[] ∨ (server index).getD []=[]))

/-- Every list is a valid name list. -/
structure ValidLists : Prop where
  client : ∀ index,sshNameListIsValid (client.nameLists index)=true
  server : ∀ index,sshNameListIsValid (server index)=true

variable {client server} (hvalid : ValidLists client server)

include hvalid in
lemma negotiateOne_eq (index : NameListIndex) : negotiateOne client server index=
    match firstCommon (serverNames server index) (clientNames client index) with
    | some item => .ok (some item)
    | none => if index.isLanguages=true ∧
        ((client.nameLists index).getD []=[] ∨ (server index).getD []=[])
      then .ok none else .error .unsupported := by
  have hs : sshNameListIsValid (some ((server index).getD []))=true := by
    rw [nameListIsValid_getD]
    exact hvalid.server index
  have hc := hvalid.client index
  unfold negotiateOne selectFirstMatch clientNames serverNames
  simp only [hs,hc,Bool.true_eq_false,if_false,length_eq_zero_iff]
  by_cases he : (server index).getD []=[] ∨ (client.nameLists index).getD []=[]
  · have hn : firstCommon (namesIn ((server index).getD []))
        (namesIn ((client.nameLists index).getD []))=none := by
      apply firstCommon_eq_none.mpr
      intro x hx hy
      rcases he with h | h
      · rw [h] at hx
        cases hx
      rw [h] at hy
      cases hy
    rw [if_pos he,hn]
    cases index.isLanguages with
    | false => simp
    | true => simp [or_comm.mp he]
  obtain ⟨hsr,hcl⟩ := not_or.mp he
  have hf : ¬(index.isLanguages=true ∧
      ((client.nameLists index).getD []=[] ∨ (server index).getD []=[])) :=
    fun h => he (or_comm.mp h.2)
  rw [if_neg he,scan_server_eq,namesIn,namesIn,if_neg hsr,if_neg hcl,if_neg hf]

variable {index : NameListIndex} {indices : List NameListIndex}

include hvalid in
lemma negotiateOne_fails (h : Mismatch client server index) :
    negotiateOne client server index=.error .unsupported := by
  have hn := firstCommon_eq_none.mpr h.1.symm
  rw [negotiateOne_eq hvalid,hn]
  exact if_neg h.2

include hvalid in
lemma negotiateOne_selects (h : ¬Mismatch client server index) :
    negotiateOne client server index=
      .ok (firstCommon (serverNames server index) (clientNames client index)) := by
  rw [negotiateOne_eq hvalid]
  cases hf : firstCommon (serverNames server index) (clientNames client index) with
  | some item => rfl
  | none =>
    have ha := (firstCommon_eq_none.mp hf).symm
    have hm : index.isLanguages=true ∧
        ((client.nameLists index).getD []=[] ∨ (server index).getD []=[]) := by
      by_contra hno
      exact h ⟨ha,hno⟩
    exact if_pos hm

include hvalid in
lemma negotiateLists_selects (neg : Negotiation)
    (h : ∀ index∈indices,¬Mismatch client server index) :
    negotiateLists client server indices neg=.ok fun index => if index∈indices
      then firstCommon (serverNames server index) (clientNames client index)
      else neg index := by
  induction indices generalizing neg with
  | nil => simp [negotiateLists]
  | cons first rest ih =>
    have hf := negotiateOne_selects hvalid (h first mem_cons_self)
    have hr := ih (Function.update neg first
      (firstCommon (serverNames server first) (clientNames client first)))
      fun index hi => h index (mem_cons_of_mem _ hi)
    rw [negotiateLists,hf]
    refine hr.trans (congrArg Except.ok (funext fun index => ?_))
    by_cases hm : index∈rest
    · simp [hm]
    by_cases ho : index=first
    · simp [ho]
    · simp [hm,ho]

include hvalid in
lemma negotiateLists_fails (neg : Negotiation)
    (h : ∃ index∈indices,Mismatch client server index) :
    negotiateLists client server indices neg=.error .unsupported := by
  induction indices generalizing neg with
  | nil =>
    obtain ⟨index,hi,_⟩ := h
    cases hi
  | cons first rest ih =>
    by_cases hf : Mismatch client server first
    · rw [negotiateLists,negotiateOne_fails hvalid hf]
    obtain ⟨index,hi,hm⟩ := h
    have hmm : index∈rest := (mem_cons.mp hi).resolve_left fun heq => hf (heq ▸ hm)
    rw [negotiateLists,negotiateOne_selects hvalid hf]
    exact ih _ ⟨index,hmm,hm⟩
end

def ListsValid (indices : List NameListIndex) (k : Kexinit) : Prop :=
  ∀ index∈indices,sshNameListIsValid (k.nameLists index)=true

lemma readNameList_valid (indices : List NameListIndex) (index : NameListIndex)
    (s : SshBuffer×Kexinit) (h : ListsValid indices s.2) :
    (readNameList index).Ensures s (fun r t => r=.ok () → ListsValid (index::indices) t.2) := by
  have hr : (readInto sshBufferGetStringView fun v (k : Kexinit) =>
      {k with nameLists := Function.update k.nameLists index v}).Ensures s
        (fun _ t => ∀ other∈indices,other≠index →
          sshNameListIsValid (t.2.nameLists other)=true) := by
    have hg : (Call.onFst sshBufferGetStringView : Decoder Kexinit StringView).Ensures s
        (fun _ t => t.2=s.2) := rfl
    apply Ensures.bind hg
    · intro v t ht other hi hne
      have hs : (Function.update t.2.nameLists index v) other=s.2.nameLists other := by
        rw [Function.update_of_ne hne,ht]
      show sshNameListIsValid ((Function.update t.2.nameLists index v) other)=true
      rw [hs]
      exact h other hi
    intro e t ht other hi _
    rw [ht]
    exact h other hi
  apply Ensures.bind hr
  · intro _ t ht
    apply bindGet
    apply Ensures.require
    · intro hvalid _ other hi
      by_cases ho : other=index
      · rw [ho]
        exact hvalid
      · exact ht other ((mem_cons.mp hi).resolve_left ho) ho
    intro _
    exact nofun
  intro e t _
  exact nofun

lemma readNameLists_valid (indices done : List NameListIndex) (s : SshBuffer×Kexinit)
    (h : ListsValid done s.2) :
    (readNameLists indices).Ensures s (fun r t => r=.ok () →
      ∀ index,index∈indices ∨ index∈done → sshNameListIsValid (t.2.nameLists index)=true) := by
  induction indices generalizing done s with
  | nil =>
    intro _ index hi
    exact h index (hi.resolve_left not_mem_nil)
  | cons first rest ih =>
    apply Ensures.bind (readNameList_valid done first s h)
    · intro _ t ht
      apply (ih (first::done) t (ht rfl)).mono
      intro r u hu hr index hi
      apply hu hr index
      rcases hi with hi | hi
      · rcases mem_cons.mp hi with hi | hi
        · exact .inr (mem_cons.mpr (.inl hi))
        · exact .inl hi
      · exact .inr (mem_cons_of_mem _ hi)
    intro e t _
    exact nofun

lemma readInto_lists {α : Type} {get : Call SshBuffer Err α} {set : α → Kexinit → Kexinit}
    {next : Decoder Kexinit Unit} {s : SshBuffer×Kexinit} {P : Kexinit → Prop}
    (hs : ∀ a k,(set a k).nameLists=k.nameLists)
    (hn : ∀ t,t.2.nameLists=s.2.nameLists → next.Ensures t (fun r u => r=.ok () → P u.2)) :
    (readInto get set >>= fun _ => next).Ensures s (fun r u => r=.ok () → P u.2) := by
  have hg : (Call.onFst get : Decoder Kexinit α).Ensures s (fun _ t => t.2=s.2) := rfl
  have hr : (readInto get set).Ensures s (fun _ t => t.2.nameLists=s.2.nameLists) := by
    apply Ensures.bind hg
    · intro a t ht
      show (set a t.2).nameLists=_
      rw [hs,ht]
    intro e t ht
    rw [ht]
  exact hr.bind (fun _ t ht => hn t ht) fun _ _ _ => nofun

lemma kexinitDecode_valid (s : SshBuffer×Kexinit) :
    sshKexinitDecode.Ensures s (fun r t => r=.ok () →
      ∀ index,sshNameListIsValid (t.2.nameLists index)=true) := by
  have hs {α : Type} (c : Decoder Kexinit α) (t : SshBuffer×Kexinit) :
      c.Ensures t (fun _ _ => True) := trivial
  refine .bind (hs _ _) (fun messageId t _ => ?_) (fun _ _ _ => nofun)
  refine .bind (hs _ _) (fun _ t _ => ?_) (fun _ _ _ => nofun)
  refine .bind (hs _ _) (fun _ t _ => ?_) (fun _ _ _ => nofun)
  have hl := readNameLists_valid NameListIndex.all [] t (forall_mem_nil _)
  refine .bind hl (fun _ u hu => ?_) (fun _ _ _ => nofun)
  have hvalid (index : NameListIndex) : sshNameListIsValid (u.2.nameLists index)=true :=
    hu rfl index (.inl (NameListIndex.mem_all index))
  apply readInto_lists (P := fun k => ∀ index,sshNameListIsValid (k.nameLists index)=true)
  · exact fun _ _ => rfl
  intro v hv
  apply readInto_lists (P := fun k => ∀ index,sshNameListIsValid (k.nameLists index)=true)
  · exact fun _ _ => rfl
  intro w hw
  apply bindGet
  apply bindRequire
  · intro _
    apply bindGet
    apply Ensures.require
    · intro _ _ index
      rw [hw,hv]
      exact hvalid index
    intro _
    exact nofun
  intro _
  exact nofun

lemma kexinitOf_valid {payload : Bytes} {client : Kexinit} (h : kexinitOf payload=.ok client)
    (index : NameListIndex) : sshNameListIsValid (client.nameLists index)=true := by
  have ha := decodedBy_ensures
    (P := fun k => ∀ index,sshNameListIsValid (k.nameLists index)=true) h (kexinitDecode_valid _)
  exact ha index

lemma defaultNameLists_valid (index : NameListIndex) :
    sshNameListIsValid (defaultNameLists index)=true := by
  cases index <;> decide

/-- Negotiation fails exactly when it has to, and what it selects is what the client selects:
the first name of the client's list that is in the server's list. -/
structure AgreesWithClient (client : Kexinit) (serverAlgorithms : Option AlgorithmSet) : Prop where
  fails : sshKexNegotiate client serverAlgorithms=.error .unsupported ↔
    ∃ index,Mismatch client (serverAlgorithms.getD defaultNameLists) index
  selects : ∀ negotiation,sshKexNegotiate client serverAlgorithms=.ok negotiation → ∀ index,
    negotiation index=firstCommon (clientNames client index)
      (serverNames (serverAlgorithms.getD defaultNameLists) index)

/-- The two sides agree exactly when there is nothing to agree on, or when in every list
with a common name some common name is ranked first by both. -/
theorem negotiate_agrees_iff (payload : Bytes) (client : Kexinit)
    (serverAlgorithms : Option AlgorithmSet) (hdecode : kexinitOf payload=.ok client)
    (hserver : ∀ set,serverAlgorithms=some set → ∀ index,sshNameListIsValid (set index)=true) :
    AgreesWithClient client serverAlgorithms ↔
      (∃ index,Mismatch client (serverAlgorithms.getD defaultNameLists) index) ∨
      ∀ index,Apart (clientNames client index)
          (serverNames (serverAlgorithms.getD defaultNameLists) index) ∨
        AgreeOnTop (clientNames client index)
          (serverNames (serverAlgorithms.getD defaultNameLists) index) := by
  have hvalid : ValidLists client (serverAlgorithms.getD defaultNameLists) := by
    refine ⟨kexinitOf_valid hdecode,fun index => ?_⟩
    cases hs : serverAlgorithms with
    | none => exact defaultNameLists_valid index
    | some set => exact hserver set hs index
  by_cases hms : ∃ index,Mismatch client (serverAlgorithms.getD defaultNameLists) index
  · have hf : sshKexNegotiate client serverAlgorithms=.error .unsupported := by
      obtain ⟨index,hm⟩ := hms
      exact negotiateLists_fails hvalid _ ⟨index,NameListIndex.mem_all index,hm⟩
    refine ⟨fun _ => .inl hms,fun _ => ⟨⟨fun _ => hms,fun _ => hf⟩,?_⟩⟩
    intro negotiation hok
    rw [hf] at hok
    cases hok
  have hnn : ∀ index∈NameListIndex.all,
      ¬Mismatch client (serverAlgorithms.getD defaultNameLists) index :=
    fun index _ hm => hms ⟨index,hm⟩
  have hr := negotiateLists_selects hvalid (fun _ => none) hnn
  simp only [NameListIndex.mem_all,if_true] at hr
  have hok : sshKexNegotiate client serverAlgorithms=.ok fun index =>
      firstCommon (serverNames (serverAlgorithms.getD defaultNameLists) index)
        (clientNames client index) := hr
  have hag (index : NameListIndex) :
      firstCommon (serverNames (serverAlgorithms.getD defaultNameLists) index)
          (clientNames client index)=
        firstCommon (clientNames client index)
          (serverNames (serverAlgorithms.getD defaultNameLists) index) ↔
      Apart (clientNames client index)
          (serverNames (serverAlgorithms.getD defaultNameLists) index) ∨
        AgreeOnTop (clientNames client index)
          (serverNames (serverAlgorithms.getD defaultNameLists) index) := by
    by_cases ha : Apart (clientNames client index)
        (serverNames (serverAlgorithms.getD defaultNameLists) index)
    · rw [firstCommon_eq_none.mpr ha,firstCommon_eq_none.mpr ha.symm]
      exact ⟨fun _ => .inl ha,fun _ => rfl⟩
    rw [firstCommon_comm_iff ha]
    exact ⟨.inr,fun h => h.resolve_left ha⟩
  constructor
  · intro h
    exact .inr fun index => (hag index).mp (h.selects _ hok index)
  intro h
  have hal := h.resolve_left hms
  refine ⟨⟨fun hf => ?_,fun h => absurd h hms⟩,?_⟩
  · rw [hok] at hf
    cases hf
  intro negotiation hn index
  rw [hok] at hn
  rw [← Except.ok.inj hn]
  exact (hag index).mpr (hal index)

def kexinitPayload (kexAlgorithms : Bytes) : Bytes :=
  sshMsgKexinit::(List.replicate sshKexCookieLen 0++
    ((NameListIndex.all.map (Function.update defaultNameLists .kexAlgorithms
      (some kexAlgorithms))).flatMap fun list => beBytes 4 (list.getD []).length++list.getD [])++
    [0,0,0,0,0])

def kexinitWith (kexAlgorithms : Bytes) : Kexinit :=
  (decodePayload sshKexinitDecode {} (kexinitPayload kexAlgorithms)).2

lemma kexinitOf_with {kexAlgorithms : Bytes}
    (h : (decodePayload sshKexinitDecode {} (kexinitPayload kexAlgorithms)).1=.ok ()) :
    kexinitOf (kexinitPayload kexAlgorithms)=.ok (kexinitWith kexAlgorithms) := by
  rw [kexinitOf,decodedBy,h]
  rfl

theorem negotiate_agrees_iff_default :
    AgreesWithClient (kexinitWith (cstr "curve25519-sha256")) none := by
  have hd : kexinitOf (kexinitPayload (cstr "curve25519-sha256"))=
      .ok (kexinitWith (cstr "curve25519-sha256")) := kexinitOf_with (by decide +kernel)
  have ha : ∀ index∈NameListIndex.all,
      Apart (clientNames (kexinitWith (cstr "curve25519-sha256")) index)
          (serverNames defaultNameLists index) ∨
        AgreeOnTop (clientNames (kexinitWith (cstr "curve25519-sha256")) index)
          (serverNames defaultNameLists index) := by
    decide +kernel
  apply (negotiate_agrees_iff _ _ none hd nofun).mpr
  exact .inr fun index => ha index index.mem_all

/-- A client that prefers the other key exchange gets the server's choice. -/
theorem server_preference_wins :
    kexinitOf (kexinitPayload (cstr "ecdh-sha2-nistp256,curve25519-sha256"))=
        .ok (kexinitWith (cstr "ecdh-sha2-nistp256,curve25519-sha256")) ∧
      (sshKexNegotiate (kexinitWith (cstr "ecdh-sha2-nistp256,curve25519-sha256")) none).map
        (fun negotiation => negotiation .kexAlgorithms)=.ok (some (cstr "curve25519-sha256")) ∧
      firstCommon
        (clientNames (kexinitWith (cstr "ecdh-sha2-nistp256,curve25519-sha256")) .kexAlgorithms)
        (serverNames defaultNameLists .kexAlgorithms)=some (cstr "ecdh-sha2-nistp256") := by
  exact ⟨kexinitOf_with (by decide +kernel),by decide +kernel,by decide +kernel⟩

end EMSSHD
