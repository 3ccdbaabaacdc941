import EMSSHD.Platform.SshdConfig.Load

namespace EMSSHD.SshdConfig

open Call

section
/-- A printable character that is neither a quote nor a comment sign nor an equals sign. -/
def PlainChar (ch : UInt8) : Prop := 33≤ch ∧ ch≤126 ∧ ch∉[34,35,39,61]

def HostChar (ch : UInt8) : Prop := PlainChar ch ∧ ch≠91 ∧ ch≠93

variable {ch : UInt8}

lemma PlainChar.not_space (h : PlainChar ch) : isSpaceChar ch=false := by
  obtain ⟨hlw,-,-⟩ := h
  have hl : 33≤ch.toNat := UInt8.le_iff_toNat_le.mp hlw
  have hne : ∀ n : UInt8,n.toNat<33 → ch≠n := fun n hn he => by
    rw [he] at hl
    omega
  simp [isSpaceChar,hne 32 (by decide),hne 9 (by decide),hne 13 (by decide),hne 10 (by decide)]

lemma PlainChar.ne (h : PlainChar ch) : ch≠34 ∧ ch≠35 ∧ ch≠39 ∧ ch≠61 := by
  simpa using h.2.2

lemma PlainChar.ne_line (h : PlainChar ch) : ch≠0 ∧ ch≠10 := by
  have hl : 33≤ch.toNat := UInt8.le_iff_toNat_le.mp h.1
  refine ⟨fun he => ?_,fun he => ?_⟩ <;>
  · rw [he] at hl
    revert hl
    decide

lemma PlainChar.isKeyChar (h : PlainChar ch) : isKeyChar ch=true := by
  simp [SshdConfig.isKeyChar,h.not_space,h.ne.2.2.2]

lemma IsDigit.plainChar (h : IsDigit ch) : PlainChar ch := by
  have hl : 48≤ch.toNat := UInt8.le_iff_toNat_le.mp h.1
  have hh : ch.toNat≤57 := UInt8.le_iff_toNat_le.mp h.2
  refine ⟨UInt8.le_iff_toNat_le.mpr (Nat.le_trans (by decide) hl),
    UInt8.le_iff_toNat_le.mpr (Nat.le_trans hh (by decide)),fun hm => ?_⟩
  simp only [mem_cons,not_mem_nil,or_false] at hm
  rcases hm with rfl | rfl | rfl | rfl <;> simp at hl hh

variable {key value : Bytes}

lemma trimLeft_plain (hv : ∀ ch∈value,PlainChar ch) (rest : Bytes) (hne : value≠[]) :
    trimLeft (value++rest)=value++rest := by
  rcases value with _ | ⟨ch,value⟩
  · exact absurd rfl hne
  have hch := (hv ch mem_cons_self).not_space
  rw [trimLeft,cons_append,dropWhile_cons_of_neg (by simp [hch])]

lemma trimRight_plain (front : Bytes) (hv : ∀ ch∈value,PlainChar ch) (hne : value≠[]) :
    trimRight (front++value)=front++value := by
  rw [trimRight,List.rdropWhile_eq_self_iff]
  intro hl
  have hls := (hv _ (List.getLast_mem hne)).not_space
  rw [List.getLast_append_of_ne_nil hl hne,hls]
  decide

lemma lineMeaning_plain (hke : ∀ ch∈key,PlainChar ch) (hky : key≠[])
    (hv : ∀ ch∈value,PlainChar ch) (hvl : value≠[]) (hm : strIeq key (cstr "Match")=false) :
    lineMeaning (key++32::value)=.directive key value := by
  have hn : ∀ ch∈key++32::value,decide (ch≠35)=true := by
    intro ch hch
    rcases mem_append.mp hch with h | h
    · exact decide_eq_true (hke ch h).ne.2.1
    rcases mem_cons.mp h with rfl | h
    · decide
    · exact decide_eq_true (hv ch h).ne.2.1
  have ht : lineText (key++32::value)=key++32::value := by
    have hr : trimRight (key++32::value)=key++32::value := by
      have h := trimRight_plain (key++[32]) hv hvl
      rwa [append_assoc] at h
    rw [lineText,List.takeWhile_eq_self_iff.mpr hn,hr,trimLeft_plain hke _ hky]
  have hk : ∀ ch∈key,isKeyChar ch=true := fun ch hch => (hke ch hch).isKeyChar
  have hs : isKeyChar 32=false := by decide
  have hb : (key++32::value).dropWhile isKeyChar=32::value := by
    rw [List.dropWhile_append_of_pos hk,dropWhile_cons_of_neg (by simp [hs])]
  have htk : (key++32::value).takeWhile isKeyChar=key := by
    rw [List.takeWhile_append_of_pos hk,List.takeWhile_cons_of_neg (by simp [hs]),append_nil]
  have hl : lineValue (32::value)=value := by
    have hd : value.dropWhile (fun ch => isSpaceChar ch || ch=61)=value := by
      rcases value with _ | ⟨ch,value⟩
      · rfl
      have hch := hv ch mem_cons_self
      exact dropWhile_cons_of_neg (by simp [hch.not_space,hch.ne.2.2.2])
    have hr := trimRight_plain [] hv hvl
    have hlf := trimLeft_plain hv [] hvl
    rw [nil_append] at hr
    rw [append_nil] at hlf
    rw [lineValue,tail_cons,hd,hr,hlf]
  have hq : unquoted value=value := by
    have hh : ∀ ch,value.head?=some ch → PlainChar ch := fun ch h =>
      hv ch (mem_of_mem_head? h)
    refine if_neg fun h => ?_
    rcases h.2 with h | h
    · exact (hh _ h.1).ne.1 rfl
    · exact (hh _ h.1).ne.2.2.1 rfl
  unfold lineMeaning
  dsimp only
  rw [ht,hb,hl,htk,hq,hm]
  simp [hky,hvl]
end

section
def portLine (number : Bytes) : Bytes := cstr "Port"++32::number
def addressLine (address : Bytes) : Bytes := cstr "ListenAddress"++32::address

variable {ctx : Option MatchContext} {before : List Bytes} {number address : Bytes} {a : Nat}

lemma plain_port : ∀ ch∈cstr "Port",PlainChar ch := by
  unfold PlainChar
  decide +kernel

lemma plain_listenAddress : ∀ ch∈cstr "ListenAddress",PlainChar ch := by
  unfold PlainChar
  decide +kernel

lemma lineMeaning_portLine (hn : DecimalText 65535 number a) :
    lineMeaning (portLine number)=.directive (cstr "Port") number :=
  lineMeaning_plain plain_port (by decide) (fun ch hch => (hn.digits ch hch).plainChar)
    hn.nonempty (by decide)

lemma lineMeaning_addressLine (ha : ∀ ch∈address,PlainChar ch) (hne : address≠[]) :
    lineMeaning (addressLine address)=.directive (cstr "ListenAddress") address :=
  lineMeaning_plain plain_listenAddress (by decide) ha hne (by decide)

lemma loadLine_portLine (hn : DecimalText 65535 number a)
    (ha : inEffect ctx before=true) (c : SshdConfigFile) :
    (loadLine ctx before (portLine number)).run c=(.ok (),{c with port := ⟨true,a⟩}) := by
  have hp : parseUintInRange number 65535=.ok a := (parseUintInRange_iff (by decide)).mpr hn
  have hg : Gives (portLine number) .port number := ⟨_,lineMeaning_portLine hn,by decide⟩
  rw [hg.loadLine ha,keywordDirective,storeSetting_run,hp]

lemma loadLine_addressLine (ha : ∀ ch∈address,PlainChar ch) (hne : address≠[])
    (hac : inEffect ctx before=true) (c : SshdConfigFile) :
    (loadLine ctx before (addressLine address)).run c=(listenAddressDirective address).run c := by
  have hg : Gives (addressLine address) .listenAddress address :=
    ⟨_,lineMeaning_addressLine ha hne,by decide⟩
  rw [hg.loadLine hac,keywordDirective]

def lastField (address : Bytes) : Bytes := address.rtakeWhile (·≠58)

lemma parseListenAddress_whole (hne : address≠[]) (hh : address.head?≠some 91)
    (hostCapacity : Nat) :
    parseListenAddress address hostCapacity false=(none,listenHost address hostCapacity) := by
  unfold parseListenAddress
  rw [if_neg hne,if_neg hh,if_neg (fun h => Bool.false_ne_true h.1)]

lemma parseListenAddress_literal (hne : address≠[]) (hh : address.head?≠some 91)
    (hf : ∀ n,¬DecimalText 65535 (lastField address) n) (hostCapacity : Nat) (wantsPort : Bool) :
    parseListenAddress address hostCapacity wantsPort=(none,listenHost address hostCapacity) := by
  unfold parseListenAddress
  rw [if_neg hne,if_neg hh]
  split_ifs with hw
  · cases hp : parseUintInRange (address.rtakeWhile (·≠58)) 65535 with
    | error e => rfl
    | ok n => exact absurd ((parseUintInRange_iff (by decide)).mp hp) (hf n)
  · rfl

lemma parseListenAddress_port {n : Nat} (hh : address.head?≠some 91) (hc : 58∈address)
    (hf : DecimalText 65535 (lastField address) n) (hostCapacity : Nat) :
    parseListenAddress address hostCapacity true=
      (some n,listenHost (address.rdropWhile (·≠58)).dropLast hostCapacity) := by
  have hp : parseUintInRange (address.rtakeWhile (·≠58)) 65535=.ok n :=
    (parseUintInRange_iff (by decide)).mpr hf
  unfold parseListenAddress
  rw [if_neg (List.ne_nil_of_mem hc),if_neg hh,if_pos ⟨rfl,hc,hf.nonempty⟩,hp]

variable {host : Bytes} {hostCapacity : Nat}

lemma listenHost_ok {stored : Bytes} (h : listenHost host hostCapacity=.ok stored) :
    stored=host ∧ host.length<hostCapacity := by
  unfold listenHost at h
  split_ifs at h with hb
  exact ⟨(Except.ok.inj h).symm,Nat.not_le.mp fun hle => hb (.inr hle)⟩

lemma listenHost_of_lt (hne : host≠[]) (hl : host.length<hostCapacity) :
    listenHost host hostCapacity=.ok host := by
  refine if_neg fun h => ?_
  exact h.elim (fun h => hne (length_eq_zero_iff.mp h)) (Nat.not_le.mpr hl)

lemma listenAddressDirective_ok {c d : SshdConfigFile}
    (hr : (listenAddressDirective address).run c=(.ok (),d)) :
    ∃ host,(parseListenAddress address emsshSshdConfigValueMax (!c.port.given)).2=.ok host ∧
      d.listenAddress=⟨true,host⟩ := by
  rw [listenAddressDirective_run] at hr
  dsimp only at hr
  split at hr
  case _ e he => cases hr
  case _ host he =>
    obtain ⟨-,rfl⟩ := Prod.mk.inj hr
    exact ⟨host,he,rfl⟩
end

section
def fileText (lines : List Bytes) : Bytes := lines.flatMap (·++[10])
def PlainLine (line : Bytes) : Prop := 0∉line ∧ 10∉line

/-- Every file of these lines, however it is read, is accepted and gives this listen address. -/
def ListensOn (ctx : Option MatchContext) (lines : List Bytes) (host : Bytes) : Prop :=
  ∀ (fs : TextFs) (path : Bytes) (chunks : List Bytes) (config : SshdConfigFile),
    fs path=.ok (chunks.map .ok) → (∀ chunk∈chunks,0<chunk.length ∧ chunk.length≤512) →
    chunks.flatten=fileText lines →
    ∃ s,(sshSshdConfigFileLoadWithMatchContext (some fs) (some path) ctx).run (config,[])=
      (.ok (),s) ∧ s.1.listenAddress=⟨true,host⟩

variable {ctx : Option MatchContext} {lines : List Bytes} {host : Bytes}

lemma splitOnP_fileText (hl : ∀ line∈lines,PlainLine line) :
    (fileText lines).splitOnP (·=10)=lines++[[]] := by
  induction lines with
  | nil => rfl
  | cons line lines ih =>
    obtain ⟨hln,hr⟩ := forall_mem_cons.mp hl
    have hp : ∀ ch∈line,ch≠10 := fun ch hch he => hln.2 (he ▸ hch)
    have ht : fileText (line::lines)=line++10::fileText lines := by
      rw [fileText,flatMap_cons,append_assoc]
      rfl
    rw [ht,Text.splitOnP_line_cons hp,ih hr]
    rfl

lemma fileText_noNul (hl : ∀ line∈lines,PlainLine line) : 0∉fileText lines := by
  intro hz
  obtain ⟨line,hln,hm⟩ := List.mem_flatMap.mp hz
  rcases mem_append.mp hm with h | h
  · exact (hl line hln).1 h
  revert h
  decide

lemma loadLines_fileText (hl : ∀ line∈lines,PlainLine line) (c : SshdConfigFile) :
    (loadLines ctx [] ((fileText lines).splitOnP (·=10))).run c=(loadLines ctx [] lines).run c := by
  rw [splitOnP_fileText hl,loadLines_append,run_bind]
  rcases (loadLines ctx [] lines).run c with ⟨_ | _,_⟩ <;> rfl

lemma exists_chunks (text : Bytes) :
    ∃ chunks : List Bytes,(∀ chunk∈chunks,0<chunk.length ∧ chunk.length≤512) ∧
      chunks.flatten=text := by
  induction text with
  | nil => exact ⟨[],forall_mem_nil _,rfl⟩
  | cons ch text ih =>
    obtain ⟨chunks,hc,rfl⟩ := ih
    exact ⟨[ch]::chunks,forall_mem_cons.mpr ⟨by simp,hc⟩,rfl⟩

lemma listensOn_iff (hln : ∀ line∈lines,PlainLine line) :
    ListensOn ctx lines host ↔
      ∃ c,(loadLines ctx [] lines).run sshSshdConfigFileDefaults=(.ok (),c) ∧
        c.listenAddress=⟨true,host⟩ := by
  have hld : ∀ (fs : TextFs) (path : Bytes) (chunks : List Bytes) (config : SshdConfigFile),
      fs path=.ok (chunks.map .ok) → (∀ chunk∈chunks,0<chunk.length ∧ chunk.length≤512) →
      chunks.flatten=fileText lines → ∃ events,
        (sshSshdConfigFileLoadWithMatchContext (some fs) (some path) ctx).run (config,[])=
          (((loadLines ctx [] lines).run sshSshdConfigFileDefaults).1,
            (((loadLines ctx [] lines).run sshSshdConfigFileDefaults).2,events)) := by
    intro fs path chunks config hfs hch ht
    obtain ⟨k,hk⟩ := load_opened hfs ctx config
    rw [takeReads_lines (fun chunk h => (hch chunk h).1) (ht ▸ fileText_noNul hln),ht] at hk
    rw [← loadLines_fileText hln,each_parseLineInplace []]
    exact ⟨_,hk⟩
  constructor
  · intro h
    obtain ⟨chunks,hch,ht⟩ := exists_chunks (fileText lines)
    let fs : TextFs := fun _ => .ok (chunks.map .ok)
    obtain ⟨s,hs,ha⟩ := h fs [] chunks sshSshdConfigFileDefaults rfl hch ht
    obtain ⟨events,hr⟩ := hld fs [] chunks sshSshdConfigFileDefaults rfl hch ht
    obtain ⟨hok,hst⟩ := Prod.mk.inj (hr.symm.trans hs)
    refine ⟨s.1,Prod.ext hok ?_,ha⟩
    rw [← hst]
  intro h fs path chunks config hfs hch ht
  obtain ⟨c,hc,ha⟩ := h
  obtain ⟨events,hr⟩ := hld fs path chunks config hfs hch ht
  rw [hc] at hr
  exact ⟨_,hr,ha⟩
end

variable {ctx : Option MatchContext} {before lines : List Bytes} {line number host address : Bytes}
  {a : Nat}

/-- A line that is accepted and says nothing of ports, addresses and Match blocks. -/
def Neutral (line : Bytes) : Prop :=
  PlainLine line ∧ line.length<configLineMax ∧
    (lineMeaning line=.nothing ∨ ∃ key value,lineMeaning line=.directive key value ∧
      keywordOf key≠some .port ∧ keywordOf key≠some .listenAddress ∧
      ∀ c,((parseOneDirective key value).run c).1=.ok ())

/-- With other lines around them, the two lines give the host in either order, and so does the
ListenAddress line without the Port line. -/
def OrderFree (number address host : Bytes) : Prop :=
  ∀ (ctx : Option MatchContext) (front middle back : List Bytes),
    (∀ line∈front++middle++back,Neutral line) →
    ListensOn ctx (front++portLine number::(middle++addressLine address::back)) host ∧
      ListensOn ctx (front++addressLine address::(middle++portLine number::back)) host ∧
      ListensOn ctx (front++addressLine address::back) host

/-- The addresses with their hosts: a name or an IPv4 address and a port, or an IPv6 literal
without brackets. -/
inductive ListenText : Bytes → Bytes → Prop
  | withPort {host number : Bytes} {b : Nat} : host≠[] → (∀ ch∈host,HostChar ch ∧ ch≠58) →
      DecimalText 65535 number b → ListenText host (host++58::number)
  | literal {host : Bytes} : (∀ ch∈host,HostChar ch) → 2≤host.count 58 → ListenText host host

/-- A line that is accepted and leaves the listen address alone. -/
structure Quiet (line : Bytes) : Prop where
  plain : PlainLine line
  short : line.length<configLineMax
  noMatch : matchValue line=none
  keeps : ∀ (ctx : Option MatchContext) (before : List Bytes) (c : SshdConfigFile),
    inEffect ctx before=true → ∃ d,(loadLine ctx before line).run c=(.ok (),d) ∧
      d.listenAddress=c.listenAddress

lemma Neutral.quiet (h : Neutral line) : Quiet line := by
  obtain ⟨hp,hs,hm | ⟨key,value,hm,-,ha,hok⟩⟩ := h
  · refine ⟨hp,hs,by rw [matchValue,hm],fun ctx before c _ => ⟨c,?_,rfl⟩⟩
    unfold loadLine
    rw [hm]
    rfl
  refine ⟨hp,hs,by rw [matchValue,hm],fun ctx before c hac => ?_⟩
  have hr : (loadLine ctx before line).run c= (.ok (),((loadLine ctx before line).run c).2) := by
    refine Prod.ext ?_ rfl
    unfold loadLine
    rw [hm]
    dsimp only
    rw [Call.onlyIf,if_pos hac]
    exact hok c
  have hst : ¬Sets ctx before line .listenAddress := by
    intro h
    obtain ⟨key',value',hmn,hk,-⟩ := h
    rw [hm] at hmn
    obtain ⟨rfl,-⟩ := LineMeaning.directive.inj hmn
    exact ha hk
  obtain ⟨hsm,-⟩ := loadLine_keeps hr hst fun h => by cases h
  exact ⟨_,hr,hsm.symm⟩

lemma plainLine_of_plain {key value : Bytes} (hk : ∀ ch∈key,PlainChar ch)
    (hv : ∀ ch∈value,PlainChar ch) : PlainLine (key++32::value) := by
  have hne : ∀ ch∈key++32::value,ch≠0 ∧ ch≠10 := by
    intro ch hch
    rcases mem_append.mp hch with h | h
    · exact (hk ch h).ne_line
    rcases mem_cons.mp h with rfl | h
    · decide
    · exact (hv ch h).ne_line
  exact ⟨fun h => (hne 0 h).1 rfl,fun h => (hne 10 h).2 rfl⟩

lemma quiet_portLine (hn : DecimalText 65535 number a)
    (hs : (portLine number).length<configLineMax) : Quiet (portLine number) := by
  refine ⟨plainLine_of_plain plain_port fun ch hch => (hn.digits ch hch).plainChar,hs,
    by rw [matchValue,lineMeaning_portLine hn],fun ctx before c ha => ?_⟩
  exact ⟨_,loadLine_portLine hn ha c,rfl⟩

lemma loadLines_quiet (hq : ∀ line∈lines,Quiet line) (ha : inEffect ctx before=true)
    (c : SshdConfigFile) :
    ∃ d,(loadLines ctx before lines).run c=(.ok (),d) ∧ d.listenAddress=c.listenAddress ∧
      inEffect ctx (before++lines)=true := by
  induction lines generalizing before c with
  | nil => exact ⟨c,rfl,rfl,by rwa [append_nil]⟩
  | cons line lines ih =>
    obtain ⟨hl,hr⟩ := forall_mem_cons.mp hq
    obtain ⟨d,hd,hsm⟩ := hl.keeps ctx before c ha
    have hs : inEffect ctx (before++[line])=true := by rw [inEffect_snoc_other hl.noMatch,ha]
    obtain ⟨e,he,hk,hen⟩ := ih hr hs d
    refine ⟨e,?_,hk.trans hsm,by rwa [append_assoc] at hen⟩
    rw [loadLines,run_bind_ok (run_require_of _ c hl.short),run_bind_ok hd,he]

lemma ListenText.chars (h : ListenText host address) : ∀ ch∈address,HostChar ch := by
  cases h with
  | withPort hne hh hn =>
    intro ch hch
    rcases mem_append.mp hch with hch | hch
    · exact (hh ch hch).1
    rcases mem_cons.mp hch with rfl | hch
    · unfold HostChar PlainChar
      decide
    have hd := hn.digits ch hch
    have hhg : ch.toNat≤57 := UInt8.le_iff_toNat_le.mp hd.2
    refine ⟨hd.plainChar,fun he => ?_,fun he => ?_⟩ <;>
    · rw [he] at hhg
      revert hhg
      decide
  | literal hh hc => exact hh

lemma ListenText.colon (h : ListenText host address) : 58∈address := by
  cases h with
  | withPort hne hh hn => exact mem_append_right _ mem_cons_self
  | literal hh hc => exact List.count_pos_iff.mp (Nat.lt_of_lt_of_le (by decide) hc)

lemma head_ne_bracket (hh : ∀ ch∈host,HostChar ch) : host.head?≠some 91 := fun h =>
  (hh 91 (mem_of_mem_head? h)).2.1 rfl

lemma plainLine_addressLine (ha : ∀ ch∈address,HostChar ch) : PlainLine (addressLine address) :=
  plainLine_of_plain plain_listenAddress fun ch hch => (ha ch hch).1

lemma listensOn_literal {front back : List Bytes} (hh : ∀ ch∈host,HostChar ch)
    (hne : host≠[]) (hl : host.length<emsshSshdConfigValueMax)
    (hfl : ∀ n,¬DecimalText 65535 (lastField host) n) (hf : ∀ line∈front,Quiet line)
    (hb : ∀ line∈back,Quiet line) : ListensOn ctx (front++addressLine host::back) host := by
  have hp : ∀ ch∈host,PlainChar ch := fun ch hch => (hh ch hch).1
  have hln : ∀ line∈front++addressLine host::back,PlainLine line := by
    intro line hli
    rcases mem_append.mp hli with h | h
    · exact (hf line h).plain
    rcases mem_cons.mp h with rfl | h
    · exact plainLine_addressLine hh
    · exact (hb line h).plain
  have hs : (addressLine host).length<configLineMax := by
    have hk : (cstr "ListenAddress").length=13 := by decide
    rw [addressLine,length_append,length_cons,hk]
    unfold emsshSshdConfigValueMax at hl
    unfold configLineMax
    omega
  have ho : matchValue (addressLine host)=none := by rw [matchValue,lineMeaning_addressLine hp hne]
  refine (listensOn_iff hln).mpr ?_
  obtain ⟨c,hc,-,ha⟩ := @loadLines_quiet ctx [] front hf rfl sshSshdConfigFileDefaults
  rw [nil_append] at ha
  have hr := loadLine_addressLine hp hne ha c
  rw [listenAddressDirective_run] at hr
  dsimp only at hr
  rw [parseListenAddress_literal hne (head_ne_bracket hh) hfl,listenHost_of_lt hne hl] at hr
  have hst : inEffect ctx (front++[addressLine host])=true := by rw [inEffect_snoc_other ho,ha]
  obtain ⟨e,he,hsm,-⟩ := loadLines_quiet hb hst
    {c with
      listenAddress := ⟨true,host⟩
      port := ⟨c.port.given || (Option.none.getD c.port.value)≠0,Option.none.getD c.port.value⟩}
  refine ⟨e,?_,hsm⟩
  rw [loadLines_append,run_bind_ok hc,nil_append,loadLines,run_bind_ok (run_require_of _ c hs),
    run_bind_ok hr,he]

lemma listensOn_known (hn : DecimalText 65535 number a) (ha : ∀ ch∈address,HostChar ch)
    (hne : address≠[]) (h : ListensOn none [portLine number,addressLine address] host) :
    address=host ∧ address.length<emsshSshdConfigValueMax := by
  have hpl : ∀ ch∈address,PlainChar ch := fun ch hch => (ha ch hch).1
  have hpr : PlainLine (portLine number) :=
    plainLine_of_plain plain_port fun ch hch => (hn.digits ch hch).plainChar
  have hac : inEffect none ([]++[portLine number])=true := by
    have ho : matchValue (portLine number)=none := by rw [matchValue,lineMeaning_portLine hn]
    rw [inEffect_snoc_other ho]
    rfl
  obtain ⟨e,he,hs⟩ := (listensOn_iff (by simp [hpr,plainLine_addressLine ha])).mp h
  obtain ⟨c,hc,he⟩ := loadLines_cons_ok he
  obtain ⟨d,hd,he⟩ := loadLines_cons_ok he
  obtain ⟨-,rfl⟩ := Prod.mk.inj he
  rw [loadLine_portLine hn rfl] at hc
  obtain ⟨-,rfl⟩ := Prod.mk.inj hc
  rw [loadLine_addressLine hpl hne hac] at hd
  obtain ⟨stored,hp,hw⟩ := listenAddressDirective_ok hd
  rw [Bool.not_true,parseListenAddress_whole hne (head_ne_bracket ha)] at hp
  obtain ⟨hwh,hl⟩ := listenHost_ok hp
  rw [hw,hwh] at hs
  exact ⟨(Setting.mk.inj hs).2,hl⟩

lemma listensOn_alone (hh : ∀ ch∈host,HostChar ch) (hc : 58∈host)
    (h : ListensOn none [addressLine host] host) (n : Nat) :
    ¬DecimalText 65535 (lastField host) n := by
  intro hf
  have hpl : ∀ ch∈host,PlainChar ch := fun ch hch => (hh ch hch).1
  have hne : host≠[] := List.ne_nil_of_mem hc
  obtain ⟨e,he,hs⟩ := (listensOn_iff (by simp [plainLine_addressLine hh])).mp h
  obtain ⟨d,hd,he⟩ := loadLines_cons_ok he
  obtain ⟨-,rfl⟩ := Prod.mk.inj he
  rw [loadLine_addressLine hpl hne rfl] at hd
  obtain ⟨stored,hp,hw⟩ := listenAddressDirective_ok hd
  rw [show (!sshSshdConfigFileDefaults.port.given)=true from rfl,
    parseListenAddress_port (head_ne_bracket hh) hc hf] at hp
  obtain ⟨hct,-⟩ := listenHost_ok hp
  rw [hw] at hs
  have hsm : host=(host.rdropWhile (·≠58)).dropLast := (Setting.mk.inj hs).2 ▸ hct
  have hl := congrArg List.length hsm
  have hle : (host.rdropWhile (·≠58)).length≤host.length := (List.rdropWhile_prefix _ _).length_le
  have hps := length_pos_iff.mpr hne
  rw [List.length_dropLast] at hl
  omega

/-- The listen address is the host, in either order and without a Port line, exactly for a literal
that fits and does not end in a port number. A port at the end of an address is only taken off when
no Port line has been read before. -/
theorem orderFree_iff (hnumber : DecimalText 65535 number a)
    (hshort : (portLine number).length<configLineMax) (htext : ListenText host address) :
    OrderFree number address host ↔ address=host ∧ host.length<emsshSshdConfigValueMax ∧
      ∀ n,¬DecimalText 65535 (lastField host) n := by
  have hne : address≠[] := List.ne_nil_of_mem htext.colon
  constructor
  · intro h
    obtain ⟨hp,-,ha⟩ := h none [] [] [] (forall_mem_nil _)
    obtain ⟨rfl,hl⟩ := listensOn_known hnumber htext.chars hne hp
    exact ⟨rfl,hl,listensOn_alone htext.chars htext.colon ha⟩
  intro h ctx front middle back hn
  obtain ⟨rfl,hl,hf⟩ := h
  have hpr := quiet_portLine hnumber hshort
  have hq : ∀ line∈front++middle++back,Quiet line := fun line hln =>
    (hn line hln).quiet
  rw [append_assoc] at hq
  obtain ⟨hfr,hr⟩ := forall_mem_append.mp hq
  obtain ⟨hm,hb⟩ := forall_mem_append.mp hr
  have hbf : ∀ line∈front++portLine number::middle,Quiet line :=
    forall_mem_append.mpr ⟨hfr,forall_mem_cons.mpr ⟨hpr,hm⟩⟩
  have haf : ∀ line∈middle++portLine number::back,Quiet line :=
    forall_mem_append.mpr ⟨hm,forall_mem_cons.mpr ⟨hpr,hb⟩⟩
  have hp : ListensOn ctx ((front++portLine number::middle)++addressLine address::back)
      address := listensOn_literal htext.chars hne hl hf hbf hb
  rw [append_assoc,cons_append] at hp
  exact ⟨hp,listensOn_literal htext.chars hne hl hf hfr haf,
    listensOn_literal htext.chars hne hl hf hfr hb⟩

lemma decimalText_22 : DecimalText 65535 (cstr "22") 22 :=
  (parseUintInRange_iff (by decide)).mp (by decide)

theorem orderFree_linkLocal : OrderFree (cstr "22") (cstr "fe80::a") (cstr "fe80::a") := by
  have hc : ∀ ch∈cstr "fe80::a",HostChar ch := by
    unfold HostChar PlainChar
    decide +kernel
  refine (orderFree_iff decimalText_22 (by decide) (.literal hc (by decide))).mpr
    ⟨rfl,by decide,fun n hn => ?_⟩
  have hp := (parseUintInRange_iff (by decide)).mpr hn
  revert hp
  rw [show parseUintInRange (lastField (cstr "fe80::a")) 65535=.error .invalidArgument by decide]
  exact fun h => by cases h

/-- Behind a Port line the port stays in the listen address, and a literal may lose its end. -/
theorem not_orderFree_ipv4 :
    ¬OrderFree (cstr "22") (cstr "10.0.0.1:2222") (cstr "10.0.0.1") ∧
      ((loadLines none [] [portLine (cstr "22"),addressLine (cstr "10.0.0.1:2222")]).run
        sshSshdConfigFileDefaults).2.listenAddress=⟨true,cstr "10.0.0.1:2222"⟩ ∧
      ((loadLines none [] [addressLine (cstr "10.0.0.1:2222"),portLine (cstr "22")]).run
        sshSshdConfigFileDefaults).2.listenAddress=⟨true,cstr "10.0.0.1"⟩ ∧
      ((loadLines none [] [addressLine (cstr "::1")]).run sshSshdConfigFileDefaults).2.listenAddress=
        ⟨true,cstr ":"⟩ := by
  refine ⟨fun h => ?_,by decide +kernel,by decide +kernel,by decide +kernel⟩
  have hc : ∀ ch∈cstr "10.0.0.1:2222",HostChar ch := by
    unfold HostChar PlainChar
    decide +kernel
  have hp := (h none [] [] [] (forall_mem_nil _)).1
  have hs := (listensOn_known decimalText_22 hc (by decide) hp).1
  revert hs
  decide

end EMSSHD.SshdConfig
