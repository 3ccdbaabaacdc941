import EMSSHD.Sftp.Handlers

namespace EMSSHD

variable {σ α β : Type}

/-- A function of the adapter: the callback of the backend, where there is one. -/
def portable (callback : Option α) (call : α → Call σ Err β) : Call σ Err β :=
  match callback with
  | none => Call.fail .unsupported
  | some callback => call callback

/-- The ssh_fs_api_t of ssh_portable_fs_init over a backend. -/
def sshPortableFsInit (ops : FsApi σ) : FsApi σ where
  openFile := some fun path flags => portable ops.openFile (· path flags)
  close := some fun handle => portable ops.close (· handle)
  read := some fun handle len => portable ops.read (· handle len)
  write := some fun handle buf => portable ops.write (· handle buf)
  readAt := some fun handle offset len => portable ops.readAt (· handle offset len)
  writeAt := some fun handle offset buf => portable ops.writeAt (· handle offset buf)
  stat := some fun path => portable ops.stat (· path)
  lstat := some fun path => portable ops.lstat (· path)
  setstat := some fun path attrs => portable ops.setstat (· path attrs)
  fsetstat := some fun handle attrs => portable ops.fsetstat (· handle attrs)
  opendir := some fun path => portable ops.opendir (· path)
  readdir := some fun handle => portable ops.readdir (· handle)
  closedir := some fun handle => portable ops.closedir (· handle)
  mkdir := some fun path attrs => portable ops.mkdir (· path attrs)
  rmdir := some fun path => portable ops.rmdir (· path)
  remove := some fun path => portable ops.remove (· path)
  rename := some fun oldPath newPath => portable ops.rename (· oldPath newPath)
  posixRename := some fun oldPath newPath => portable ops.posixRename (· oldPath newPath)
  fsync := some fun handle => portable ops.fsync (· handle)
  hardlink := some fun oldPath newPath => portable ops.hardlink (· oldPath newPath)
  statvfs := some fun path => portable ops.statvfs (· path)
  fstatvfs := some fun handle => portable ops.fstatvfs (· handle)

/-- The operations of ssh_portable_fs_ops_t. -/
inductive FsOperation where
  | openFile | close | read | write | readAt | writeAt | stat | lstat | setstat | fsetstat
  | opendir | readdir | closedir | mkdir | rmdir | remove | rename | posixRename | fsync
  | hardlink | statvfs | fstatvfs
  deriving DecidableEq

def FsApi.provided (ops : FsApi σ) : FsOperation → Bool
  | .openFile => ops.openFile.isSome
  | .close => ops.close.isSome
  | .read => ops.read.isSome
  | .write => ops.write.isSome
  | .readAt => ops.readAt.isSome
  | .writeAt => ops.writeAt.isSome
  | .stat => ops.stat.isSome
  | .lstat => ops.lstat.isSome
  | .setstat => ops.setstat.isSome
  | .fsetstat => ops.fsetstat.isSome
  | .opendir => ops.opendir.isSome
  | .readdir => ops.readdir.isSome
  | .closedir => ops.closedir.isSome
  | .mkdir => ops.mkdir.isSome
  | .rmdir => ops.rmdir.isSome
  | .remove => ops.remove.isSome
  | .rename => ops.rename.isSome
  | .posixRename => ops.posixRename.isSome
  | .fsync => ops.fsync.isSome
  | .hardlink => ops.hardlink.isSome
  | .statvfs => ops.statvfs.isSome
  | .fstatvfs => ops.fstatvfs.isSome

def kept (keep : Bool) (callback : Option α) : Option α := if keep then callback else none

/-- The table with the other operations taken out. -/
def FsApi.only (fs : FsApi σ) (keep : FsOperation → Bool) : FsApi σ where
  openFile := kept (keep .openFile) fs.openFile
  close := kept (keep .close) fs.close
  read := kept (keep .read) fs.read
  write := kept (keep .write) fs.write
  readAt := kept (keep .readAt) fs.readAt
  writeAt := kept (keep .writeAt) fs.writeAt
  stat := kept (keep .stat) fs.stat
  lstat := kept (keep .lstat) fs.lstat
  setstat := kept (keep .setstat) fs.setstat
  fsetstat := kept (keep .fsetstat) fs.fsetstat
  opendir := kept (keep .opendir) fs.opendir
  readdir := kept (keep .readdir) fs.readdir
  closedir := kept (keep .closedir) fs.closedir
  mkdir := kept (keep .mkdir) fs.mkdir
  rmdir := kept (keep .rmdir) fs.rmdir
  remove := kept (keep .remove) fs.remove
  rename := kept (keep .rename) fs.rename
  posixRename := kept (keep .posixRename) fs.posixRename
  fsync := kept (keep .fsync) fs.fsync
  hardlink := kept (keep .hardlink) fs.hardlink
  statvfs := kept (keep .statvfs) fs.statvfs
  fstatvfs := kept (keep .fstatvfs) fs.fstatvfs

/-- The operations that the handler of a packet looks at, given which ones are there. -/
def lookedAt (provided : FsOperation → Bool) (request : Bytes) : List FsOperation :=
  match sftpPacketWrap request with
  | .error _ => []
  | .ok packet =>
    if packet.type=sshFxpInit then [.posixRename,.fsync,.hardlink,.statvfs,.fstatvfs]
    else if packet.type=sshFxpRealpath then []
    else if packet.type=sshFxpLstat ∨ packet.type=sshFxpStat then [.lstat,.stat]
    else if packet.type=sshFxpOpen then [.openFile,.fsetstat,.stat,.close]
    else if packet.type=sshFxpClose then [.close,.closedir]
    else if packet.type=sshFxpFstat then [.stat]
    else if packet.type=sshFxpSetstat then [.setstat]
    else if packet.type=sshFxpFsetstat then [.fsetstat]
    else if packet.type=sshFxpOpendir then [.opendir,.stat,.closedir]
    else if packet.type=sshFxpReaddir then [.readdir]
    else if packet.type=sshFxpRead then if provided .readAt then [.readAt] else [.readAt,.read]
    else if packet.type=sshFxpWrite then if provided .writeAt then [.writeAt] else [.writeAt,.write]
    else if packet.type=sshFxpRemove then [.remove]
    else if packet.type=sshFxpMkdir then [.mkdir]
    else if packet.type=sshFxpRmdir then [.rmdir]
    else if packet.type=sshFxpRename then [.rename,.posixRename]
    else if packet.type=sshFxpExtended then [.posixRename,.fsync,.hardlink,.statvfs,.fstatvfs]
    else []

section
variable (fs : FsApi σ) (policy : Option (SftpPolicy σ)) (request : Bytes) (capacity : Nat)

lemma ite_looked {p : Prop} [Decidable p] {l l1 l2 : List FsOperation} {a b c d : α}
    (h : l=if p then l1 else l2) (h1 : l=l1 → a=b) (h2 : l=l2 → c=d) :
    (if p then a else c)=if p then b else d := by
  by_cases hp : p
  · rw [if_pos hp] at h ⊢
    rw [if_pos hp,h1 h]
  · rw [if_neg hp] at h ⊢
    rw [if_neg hp,h2 h]

variable {provided : FsOperation → Bool}

/-- The positional operations are there that are said to be. -/
def FsApi.Positional (fs : FsApi σ) (provided : FsOperation → Bool) : Prop :=
  (provided .readAt=true → fs.readAt.isSome=true) ∧ (provided .writeAt=true → fs.writeAt.isSome=true)

/-- A packet is handled as if the operations were not there that its handler does not look at. -/
lemma handlePacket_only (hp : fs.Positional provided) :
    sftpServerHandlePacket (some fs) policy request capacity=sftpServerHandlePacket
      (some (fs.only (·∈lookedAt provided request))) policy request capacity := by
  generalize hl : lookedAt provided request=l
  unfold lookedAt at hl
  unfold sftpServerHandlePacket
  generalize sftpPacketWrap request=wrapped at hl ⊢
  rcases wrapped with e | packet
  · rfl
  -- One branch for each handler, in the order of the dispatch.
  refine ite_looked hl.symm ?_ fun h => ite_looked h ?_ fun h => ite_looked h ?_ fun h =>
    ite_looked h ?_ fun h => ite_looked h ?_ fun h => ite_looked h ?_ fun h => ite_looked h ?_
    fun h => ite_looked h ?_ fun h => ite_looked h ?_ fun h => ite_looked h ?_ fun h =>
    ite_looked h ?read fun h => ite_looked h ?write fun h => ite_looked h ?_ fun h =>
    ite_looked h ?_ fun h => ite_looked h ?_ fun h => ite_looked h ?_ fun h => ite_looked h ?_
    fun _ => rfl
  case read =>
    rintro rfl
    have hs : (fs.only (·∈if provided .readAt then [.readAt] else [.readAt,.read])).reader=
        fs.reader := by
      unfold FsApi.reader FsApi.only kept
      cases ha : provided .readAt with
      | false => rfl
      | true =>
        obtain ⟨readAt,hs⟩ := Option.isSome_iff_exists.1 (hp.1 ha)
        simp [hs]
    simp only [handleRead,Option.bind_some,hs]
  case write =>
    rintro rfl
    have hs : (fs.only (·∈if provided .writeAt then [.writeAt] else [.writeAt,.write])).writer=
        fs.writer := by
      unfold FsApi.writer FsApi.only kept
      cases ha : provided .writeAt with
      | false => rfl
      | true =>
        obtain ⟨writeAt,hs⟩ := Option.isSome_iff_exists.1 (hp.2 ha)
        simp [hs]
    simp only [handleWrite,Option.bind_some,hs]
  all_goals
    rintro rfl
    rfl

lemma handlePacket_congr {fs fs2 : FsApi σ} (h : fs.Positional provided)
    (h2 : fs2.Positional provided) (ho : fs.only (·∈lookedAt provided request)=
      fs2.only (·∈lookedAt provided request)) :
    sftpServerHandlePacket (some fs) policy request capacity=
      sftpServerHandlePacket (some fs2) policy request capacity := by
  rw [handlePacket_only fs _ _ _ h,handlePacket_only fs2 _ _ _ h2,ho]

/-- Among operations that are there the adapter has the callbacks of the backend. -/
lemma portable_only {l : List FsOperation} (h : ∀ o∈l,fs.provided o=true) :
    (sshPortableFsInit fs).only (·∈l)=fs.only (·∈l) := by
  cases fs
  unfold FsApi.only
  congr 1
  all_goals
    unfold kept
    split_ifs with hm
    · obtain ⟨callback,hc⟩ := Option.isSome_iff_exists.1 (h _ (of_decide_eq_true hm))
      dsimp only at hc
      subst hc
      rfl
    · rfl

lemma handlePacket_portable (h : ∀ o∈lookedAt fs.provided request,fs.provided o=true) :
    sftpServerHandlePacket (some (sshPortableFsInit fs)) policy request capacity=
      sftpServerHandlePacket (some fs) policy request capacity :=
  handlePacket_congr _ _ _ ⟨fun _ => rfl,fun _ => rfl⟩ ⟨id,id⟩ (portable_only fs h)

def Provided (provided : FsOperation → Bool) (l : List FsOperation) : Prop := ∀ o∈l,provided o=true

lemma Provided.ite {p : Prop} [Decidable p] {l1 l2 : List FsOperation} (h1 : Provided provided l1)
    (h2 : Provided provided l2) : Provided provided (if p then l1 else l2) := by
  split_ifs
  · exact h1
  · exact h2

/-- The sequential operations are looked at only where the positional ones are not there. -/
lemma provided_looked (h : ∀ o,o≠.read → o≠.write → provided o=true) :
    Provided provided (lookedAt provided request) := by
  unfold lookedAt
  rw [h .readAt nofun nofun,h .writeAt nofun nofun]
  simp only [if_true]
  split
  · exact nofun
  repeat' apply Provided.ite
  all_goals
    intro o ho
    apply h o <;> (rintro rfl; simp at ho)
end

/-- The answers to a sequence of packets, each with the room there is for its answer. -/
def sftpAnswers (fs : Option (FsApi σ)) (policy : Option (SftpPolicy σ)) :
    List (Bytes×Nat) → SftpServing σ → List (Except Err Bytes)
  | [],_ => []
  | (request,capacity)::rest,s =>
    let served := (sftpServerHandlePacket fs policy request capacity).run s
    served.1::sftpAnswers fs policy rest served.2

lemma sftpAnswers_congr {fs fs2 : Option (FsApi σ)} (policy : Option (SftpPolicy σ))
    {requests : List (Bytes×Nat)} (h : ∀ r∈requests,
      sftpServerHandlePacket fs policy r.1 r.2=sftpServerHandlePacket fs2 policy r.1 r.2)
    (s : SftpServing σ) : sftpAnswers fs policy requests s=sftpAnswers fs2 policy requests s := by
  induction requests generalizing s with
  | nil => rfl
  | cons r rest ih =>
    obtain ⟨hr,h⟩ := forall_mem_cons.1 h
    rw [sftpAnswers,sftpAnswers,hr,ih h]

/-- What a client sees of an answer: all of it, except for the text of a status. -/
def seen (answer : Except Err Bytes) : Except Err Bytes :=
  answer.map fun response =>
    if (response.drop 4).head?=some sshFxpStatus then (response.drop 4).take 9 else response

/-- What the client of a new session sees. -/
def sessionSeen (fs : FsApi σ) (policy : Option (SftpPolicy σ)) (requests : List (Bytes×Nat))
    (world : σ) : List (Except Err Bytes) :=
  (sftpAnswers (some fs) policy requests ⟨sftpServerSessionInit,world,[]⟩).map seen

/-- A backend that provides these operations. It opens every file, reads and writes. -/
def sampleFs (provided : FsOperation → Bool) : FsApi Unit :=
  FsApi.only {sshPortableFsInit {} with
    openFile := some fun _ _ => pure 1
    opendir := some fun _ => pure 1
    read := some fun _ len => pure ⟨1,List.replicate len 97,List.length_replicate⟩
    write := some fun _ data => pure data.length} provided

lemma sampleFs_provided (provided : FsOperation → Bool) :
    (sampleFs provided).provided=provided := by
  funext o
  cases hp : provided o
  all_goals
    cases o
    all_goals
      simp only [FsApi.provided,sampleFs,FsApi.only,kept,hp]
      rfl

lemma sampleFs_only {provided other : FsOperation → Bool} {l : List FsOperation}
    (h : ∀ o∈l,provided o=other o) :
    (sampleFs provided).only (·∈l)=(sampleFs other).only (·∈l) ∧
    (sshPortableFsInit (sampleFs provided)).only (·∈l)=
      (sshPortableFsInit (sampleFs other)).only (·∈l) := by
  unfold FsApi.only
  constructor
  all_goals
    congr 1
    all_goals
      unfold kept
      split_ifs with hm
      · simp only [sampleFs,FsApi.only,sshPortableFsInit,h _ (of_decide_eq_true hm)]
      · rfl

/-- A request on an empty path, or on a handle that nobody has. -/
def emptyName (type : UInt8) (rest : Bytes) : Bytes :=
  beBytes 4 (9+rest.length)++type::([0,0,0,7,0,0,0,0]++rest)

def extensionAlone (name : String) : Bytes :=
  beBytes 4 (9+(cstr name).length)++200::([0,0,0,7]++beBytes 4 (cstr name).length++cstr name)

def openFirst : Bytes := [0,0,0,18,3,0,0,0,7,0,0,0,1,97,0,0,0,3,0,0,0,0]
def closeFirst : Bytes := [0,0,0,13,4,0,0,0,8,0,0,0,4,0,0,0,1]
def readFirst : Bytes := [0,0,0,25,5,0,0,0,8,0,0,0,4,0,0,0,1,0,0,0,0,0,0,0,0,0,0,0,1]
def writeFirst : Bytes := [0,0,0,25,6,0,0,0,8,0,0,0,4,0,0,0,1,0,0,0,0,0,0,0,0,0,0,0,0]

/-- The operations without read and write, and packets by whose answers a client can tell that the
operation is missing, with the operations they need to get that far. -/
def probes : List (FsOperation×List Bytes×List FsOperation) :=
  [(.openFile,[emptyName 3 [0,0,0,1,0,0,0,0]],[]),
    (.stat,[emptyName 17 []],[]),
    (.lstat,[emptyName 7 []],[]),
    (.setstat,[emptyName 9 [0,0,0,0]],[]),
    (.fsetstat,[emptyName 10 [0,0,0,0]],[]),
    (.opendir,[emptyName 11 []],[]),
    (.readdir,[emptyName 12 []],[]),
    (.mkdir,[emptyName 14 [0,0,0,0]],[]),
    (.rmdir,[emptyName 15 []],[]),
    (.remove,[emptyName 13 []],[]),
    (.rename,[emptyName 18 [0,0,0,0]],[]),
    (.posixRename,[extensionAlone "posix-rename@openssh.com"],[]),
    (.fsync,[extensionAlone "fsync@openssh.com"],[]),
    (.hardlink,[extensionAlone "hardlink@openssh.com"],[]),
    (.statvfs,[extensionAlone "statvfs@openssh.com"],[]),
    (.fstatvfs,[extensionAlone "fstatvfs@openssh.com"],[]),
    (.close,[openFirst,closeFirst],[.openFile,.fsetstat,.stat]),
    (.closedir,[[0,0,0,10,11,0,0,0,7,0,0,0,1,97],closeFirst],[.opendir,.stat]),
    (.readAt,[emptyName 5 (List.replicate 12 0),openFirst,readFirst],[.openFile,.fsetstat,.stat]),
    (.writeAt,[emptyName 6 (List.replicate 12 0),openFirst,writeFirst],[.openFile,.fsetstat,.stat])]

def probeSeen (fs : FsApi Unit) (packets : List Bytes) : List (Except Err Bytes) :=
  sessionSeen fs none (packets.map (·,256)) ()

def probeLooks (packets : List Bytes) : List FsOperation :=
  (packets.flatMap (lookedAt fun _ => false)).dedup

set_option maxRecDepth 4000 in
/-- Over every choice among the operations that the handlers look at. -/
lemma probes_tell : ∀ p∈probes,∀ l∈(probeLooks p.2.1).sublists,p.1∉l → (∀ o∈p.2.2,o∈l) →
    probeSeen (sshPortableFsInit (sampleFs (·∈l))) p.2.1≠probeSeen (sampleFs (·∈l)) p.2.1 := by
  decide +kernel

lemma probes_all (o : FsOperation) (hr : o≠.read) (hw : o≠.write) : ∃ p∈probes,p.1=o := by
  cases o
  all_goals first | contradiction | decide +kernel

lemma probes_need : ∀ p∈probes,∀ n∈p.2.2,n∈probeLooks p.2.1 ∧ ∃ q∈probes,q.1=n ∧ q.2.2=[] := by
  decide +kernel

section
variable {provided other : FsOperation → Bool} {packets : List Bytes}

lemma probeSeen_congr (h : ∀ o∈probeLooks packets,provided o=other o) :
    probeSeen (sampleFs provided) packets=probeSeen (sampleFs other) packets ∧
    probeSeen (sshPortableFsInit (sampleFs provided)) packets=
      probeSeen (sshPortableFsInit (sampleFs other)) packets := by
  have hl : ∀ r∈packets.map (·,256),∀ o∈lookedAt (fun _ => false) r.1,provided o=other o := by
    intro r hr o ho
    obtain ⟨packet,hm,rfl⟩ := mem_map.1 hr
    exact h o (List.mem_dedup.2 (List.mem_flatMap.2 ⟨packet,hm,ho⟩))
  have hn (fs : FsApi Unit) : fs.Positional fun _ => false := ⟨nofun,nofun⟩
  constructor
  all_goals
    refine congrArg (List.map seen) (sftpAnswers_congr none ?_ _)
    intro r hr
    apply handlePacket_congr _ _ _ (hn _) (hn _)
  · exact (sampleFs_only (hl r hr)).1
  · exact (sampleFs_only (hl r hr)).2

lemma provided_of_probe {p : FsOperation×List Bytes×List FsOperation} (hp : p∈probes)
    (hn : ∀ n∈p.2.2,provided n=true)
    (h : probeSeen (sshPortableFsInit (sampleFs provided)) p.2.1=probeSeen (sampleFs provided) p.2.1) :
    provided p.1=true := by
  by_contra ho
  have hl : ∀ o∈probeLooks p.2.1,
      provided o=decide (o∈(probeLooks p.2.1).filter provided) := by
    intro o hm
    simp [hm]
  obtain ⟨ha,hb⟩ := probeSeen_congr hl
  refine probes_tell p hp _ (List.mem_sublists.2 List.filter_sublist) ?_ ?_ (hb.symm.trans (h.trans ha))
  · exact fun hm => ho (List.mem_filter.1 hm).2
  · exact fun n hm => List.mem_filter.2 ⟨(probes_need p hp n hm).1,hn n hm⟩
end

/-- A session over the adapter is the session over the backend if the backend has every operation
that the handlers of its packets look at. Of the operations that a backend provides, only read behind
read_at and write behind write_at may be missing for that to hold for all sessions. -/
theorem portable_transparent (provided : FsOperation → Bool) :
    (∀ {σ : Type} (ops : FsApi σ),ops.provided=provided → ∀ (policy : Option (SftpPolicy σ))
      (requests : List (Bytes×Nat)) (s : SftpServing σ),
      (∀ r∈requests,∀ o∈lookedAt provided r.1,provided o=true) →
      sftpAnswers (some (sshPortableFsInit ops)) policy requests s=
        sftpAnswers (some ops) policy requests s) ∧
    ((∀ {σ : Type} (ops : FsApi σ),ops.provided=provided → ∀ policy requests world,
        sessionSeen (sshPortableFsInit ops) policy requests world=
          sessionSeen ops policy requests world) ↔
      ∀ o,o≠.read → o≠.write → provided o=true) := by
  refine ⟨?_,?_,?_⟩
  · rintro σ ops rfl policy requests s h
    exact sftpAnswers_congr policy (fun r hr => handlePacket_portable ops _ _ _ (h r hr)) s
  · intro h
    have hp : ∀ p∈probes,(∀ n∈p.2.2,provided n=true) → provided p.1=true := fun p hp hn =>
      provided_of_probe hp hn (h _ (sampleFs_provided provided) none _ ())
    intro o hr hw
    obtain ⟨p,hm,rfl⟩ := probes_all o hr hw
    refine hp p hm fun n hn => ?_
    obtain ⟨q,hq,rfl,he⟩ := (probes_need p hm n hn).2
    refine hp q hq ?_
    rw [he]
    exact nofun
  · rintro h σ ops rfl policy requests world
    refine congrArg (List.map seen) (sftpAnswers_congr policy (fun r _ => ?_) _)
    exact handlePacket_portable ops _ _ _ (provided_looked _ h)

/-- A backend that only opens files and reads them from the beginning to the end. -/
def sequentialFs : FsApi Unit := sampleFs (·∈[.openFile,.read])

def readingPackets : List (Bytes×Nat) := [([0,0,0,5,1,0,0,0,3],256),(openFirst,64),(readFirst,64)]

/-- The length and the type of an answer. -/
def answerTypes (fs : FsApi Unit) : List (Nat×UInt8) :=
  (sftpAnswers (some fs) none readingPackets ⟨sftpServerSessionInit,(),[]⟩).map fun answer =>
    let response := answer.toOption.getD []
    (response.length,(response.drop 4).headD 0)

theorem portable_transparent_twice : sftpAnswers (some (sshPortableFsInit
      (sshPortableFsInit sequentialFs))) none readingPackets ⟨sftpServerSessionInit,(),[]⟩=
    sftpAnswers (some (sshPortableFsInit sequentialFs)) none readingPackets
      ⟨sftpServerSessionInit,(),[]⟩ :=
  (portable_transparent _).1 _ rfl none readingPackets _ fun _ _ o _ => by cases o <;> rfl

/-- Directly the file is read. Through the adapter five extensions are advertised that the backend
does not have, and the read is answered with a status. -/
theorem portable_read_refused : answerTypes sequentialFs=[(9,2),(17,102),(14,103)] ∧
    answerTypes (sshPortableFsInit sequentialFs)=[(154,2),(17,102),(32,101)] := by
  decide +kernel

end EMSSHD
