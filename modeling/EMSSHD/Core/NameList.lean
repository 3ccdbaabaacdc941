import EMSSHD.Core.Status
import EMSSHD.Math.Path
import EMSSHD.Math.Text

namespace EMSSHD

def sshNameCharIsValid (c : UInt8) : Bool := 33 ≤ c && c≤126 && c≠44

/-- The loop of ssh_name_list_is_valid. -/
def nameListLoop : (previousWasComma : Bool) → Bytes → Bool
  | _,[] => true
  | previousWasComma,c::rest =>
    if c=44 then !previousWasComma && nameListLoop true rest
    else sshNameCharIsValid c && nameListLoop false rest

def sshNameListIsValid (list : StringView) : Bool :=
  match list.getD [] with
  | [] => true
  | c::rest => c≠44 && (c::rest).getLast?≠some 44 && nameListLoop false (c::rest)

variable {α : Type}

/-- The scan of a name list at its commas: body is called with each item in turn, until it
has a result. Here i is the position in the list and start that of the current item. -/
def itemLoop (list : Bytes) (body : Bytes → Option α) : (rounds i start : Nat) → Option α
  | 0,_,_ => none
  | rounds+1,i,start =>
    if i=list.length ∨ list[i]?=some 44 then
      match body ((list.drop start).take (i-start)) with
      | some a => some a
      | none => itemLoop list body rounds (i+1) (i+1)
    else itemLoop list body rounds (i+1) start

def scanItems (list : Bytes) (body : Bytes → Option α) : Option α :=
  itemLoop list body (list.length+1) 0 0

def nameItems (list : Bytes) : List Bytes := list.splitOnP (·=44)

private lemma current_item (before item tail : Bytes) :
    ((before++(item++tail)).drop before.length).take
      (before.length+item.length-before.length)=item := by
  simp

-- before is scanned, item is what has been seen of the current item, rest is to come
private lemma itemLoop_eq (body : Bytes → Option α) (before item rest : Bytes)
    (hitem : ∀ c∈item,c≠44) :
    itemLoop (before++(item++rest)) body (rest.length+1) (before.length+item.length)
      before.length=(nameItems (item++rest)).findSome? body := by
  induction rest generalizing before item with
  | nil =>
    have ho : nameItems item=[item] := List.splitOnP_eq_singleton (by simpa using hitem)
    have he : before.length+item.length=(before++(item++[])).length := by simp
    rw [itemLoop,if_pos (.inl he),current_item,append_nil,ho]
    cases hb : body item with
    | none => simp [itemLoop,hb]
    | some a => simp [hb]
  | cons c rest ih =>
    have hlt : before.length+item.length≠(before++(item++c::rest)).length := by
      simp only [length_append,length_cons]
      omega
    have hg : (before++(item++c::rest))[before.length+item.length]?=some c := by
      rw [← append_assoc,List.getElem?_append_right (by simp)]
      simp
    by_cases hc : c=44
    · have hf : nameItems (item++c::rest)=item::nameItems rest :=
        List.splitOnP_append_cons_of_forall_mem (by simpa using hitem) c (by simpa using hc) rest
      have hn := ih (before++item++[c]) [] (by simp)
      rw [itemLoop,if_pos (.inr (by rw [hg,hc])),current_item,hf]
      cases hb : body item with
      | some a => simp [hb]
      | none =>
        simp only [List.findSome?_cons,hb]
        simpa [Nat.add_assoc] using hn
    have hn := ih before (item++[c]) ?_
    · rw [itemLoop,if_neg ?_]
      · simpa [Nat.add_assoc] using hn
      rw [hg]
      simp only [Option.some.injEq,not_or]
      exact ⟨hlt,hc⟩
    intro x hx
    rcases mem_append.mp hx with hx | hx
    · exact hitem x hx
    rw [mem_singleton.mp hx]
    exact hc

lemma scanItems_eq (list : Bytes) (body : Bytes → Option α) :
    scanItems list body=(nameItems list).findSome? body :=
  itemLoop_eq body [] [] list (by simp)

/-- The loop of name_list_contains_view, where p is what is left of the list. -/
def containsLoop (name : Bytes) : (rounds : Nat) → (p : Bytes) → Bool
  | 0,_ => false
  | rounds+1,p =>
    if p=[] then false
    else if p.takeWhile (·≠44)=name then true
    else containsLoop name rounds (p.dropWhile (·≠44)).tail

lemma containsLoop_eq {name : Bytes} (hn : name≠[]) (rounds : Nat) (p : Bytes)
    (hr : p.length ≤ rounds) : containsLoop name rounds p=(nameItems p).contains name := by
  induction rounds generalizing p with
  | zero =>
    obtain rfl := length_eq_zero_iff.mp (Nat.le_zero.mp hr)
    simpa [containsLoop,nameItems] using hn
  | succ rounds ih =>
    by_cases hp : p=[]
    · simpa [containsLoop,nameItems,hp] using hn
    obtain ⟨token,ht,rfl | ⟨rest,rfl⟩⟩ := Text.line_cases 44 p
    · have hls := ih [] (Nat.zero_le _)
      have hw : p.takeWhile (·≠44)=p := by simpa using ht
      have hd : p.dropWhile (·≠44)=[] := by simpa using ht
      have ho : nameItems p=[p] := Text.splitOnP_line ht
      rw [containsLoop,if_neg hp,hw,hd,List.tail_nil,hls,ho]
      by_cases heq : p=name
      · simp [heq]
      · simp [heq,Ne.symm heq,nameItems,hn]
    have hl : rest.length ≤ rounds := by
      rw [length_append,length_cons] at hr
      omega
    have hf : nameItems (token++44::rest)=token::nameItems rest := Text.splitOnP_line_cons ht rest
    have hdr : (token++44::rest).dropWhile (·≠44)=44::rest := by
      rw [List.dropWhile_append_of_pos fun x hx => decide_eq_true (ht x hx)]
      simp
    rw [containsLoop,if_neg hp,Text.takeWhile_line ht,hdr,tail_cons,ih rest hl,hf]
    by_cases heq : token=name
    · simp [heq]
    · simp [heq,Ne.symm heq]

lemma nameItems_comma (rest : Bytes) : nameItems (44::rest)=[]::nameItems rest :=
  Text.splitOnP_line_cons (forall_mem_nil _) rest

lemma nameItems_cons {c : UInt8} (hc : c≠44) (rest : Bytes) :
    ∃ first,nameItems (c::rest)=(c::first)::(nameItems rest).tail := by
  obtain ⟨first,more,hr⟩ := exists_cons_of_ne_nil (List.splitOnP_ne_nil (·=44) rest)
  refine ⟨first,?_⟩
  simp [nameItems,List.splitOnP_cons_eq_if_modifyHead,hc,hr]

variable {list : Bytes}

lemma nameItems_tail_nonempty {comma : Bool} (hl : nameListLoop comma list=true)
    (hls : list.getLast?≠some 44) : []∉(nameItems list).tail := by
  induction list generalizing comma with
  | nil => simp [nameItems]
  | cons c rest ih =>
    by_cases hc : c=44
    · rw [hc,nameItems_comma,tail_cons]
      simp only [nameListLoop,hc,if_pos,Bool.and_eq_true] at hl
      rcases rest with _ | ⟨d,more⟩
      · exact absurd (by rw [hc]; rfl) hls
      have hd : d≠44 := by
        intro hd
        simp [nameListLoop,hd] at hl
      obtain ⟨first,hitems⟩ := nameItems_cons hd more
      have ht := ih hl.2 (by rwa [List.getLast?_cons_cons] at hls)
      rw [hitems,tail_cons] at ht
      rw [hitems]
      simp [ht]
    obtain ⟨first,hitems⟩ := nameItems_cons hc rest
    simp only [nameListLoop,if_neg hc,Bool.and_eq_true] at hl
    rw [hitems,tail_cons]
    apply ih hl.2
    cases rest with
    | nil => simp
    | cons d more => rwa [List.getLast?_cons_cons] at hls

lemma nameItems_nonempty (hv : sshNameListIsValid (some list)=true) (hl : list≠[]) :
    []∉nameItems list := by
  rcases list with _ | ⟨c,rest⟩
  · exact absurd rfl hl
  simp only [sshNameListIsValid,Option.getD_some,Bool.and_eq_true,decide_eq_true_eq] at hv
  obtain ⟨⟨hc,hls⟩,hlp⟩ := hv
  obtain ⟨first,hitems⟩ := nameItems_cons hc rest
  have ht := nameItems_tail_nonempty hlp hls
  rw [hitems,tail_cons] at ht
  rw [hitems]
  simp [ht]

/-- The scan for a name of ssh_name_list_contains_token and of name_list_contains. -/
def scanFor (list name : Bytes) : Bool :=
  (scanItems list fun item => if item=name then some () else none).isSome

def sshNameListContainsToken (list : StringView) (token : Bytes) : Bool :=
  list.elim false fun list => token≠[] && list≠[] && scanFor list token

/-- name_list_contains of the transport -/
def nameListContains (list : StringView) (name : Bytes) : Bool := list.elim false (scanFor · name)

lemma scanFor_iff {name : Bytes} : scanFor list name=true ↔ name∈nameItems list := by
  rw [scanFor,scanItems_eq,List.findSome?_isSome_iff]
  constructor
  · rintro ⟨item,hi,hs⟩
    split_ifs at hs with he
    · exact he ▸ hi
    · cases hs
  intro h
  exact ⟨name,h,by rw [if_pos rfl]; rfl⟩

/-- Names of printable characters, of which none is a blank or a comma. -/
def AreNames (items : List Bytes) : Prop :=
  ∀ item∈items,item≠[] ∧ ∀ c∈item,33≤c ∧ c≤126 ∧ c≠44

lemma nameListLoop_chars {comma : Bool} (h : nameListLoop comma list=true) :
    ∀ c∈list,c≠44 → 33≤c ∧ c≤126 ∧ c≠44 := by
  induction list generalizing comma with
  | nil => exact forall_mem_nil _
  | cons c rest ih =>
    rw [nameListLoop] at h
    split_ifs at h with hc
    · obtain ⟨-,h⟩ := Bool.and_eq_true_iff.mp h
      exact forall_mem_cons.mpr ⟨fun hne => absurd hc hne,ih h⟩
    obtain ⟨hv,h⟩ := Bool.and_eq_true_iff.mp h
    exact forall_mem_cons.mpr ⟨fun _ => by simpa [sshNameCharIsValid,and_assoc] using hv,ih h⟩

lemma nameListLoop_item {item : Bytes} (hi : ∀ c∈item,33≤c ∧ c≤126 ∧ c≠44) (rest : Bytes) :
    nameListLoop false (item++rest)=nameListLoop false rest := by
  induction item with
  | nil => rfl
  | cons c item ih =>
    obtain ⟨⟨hl,hh,hc⟩,hi⟩ := forall_mem_cons.mp hi
    have hv : sshNameCharIsValid c=true := by simp [sshNameCharIsValid,hl,hh,hc]
    rw [cons_append,nameListLoop,if_neg hc,hv,Bool.true_and,ih hi]

lemma nameListLoop_names {items : List Bytes} (hn : AreNames items) (hne : items≠[]) :
    ∃ c rest,[44].intercalate items=c::rest ∧ c≠44 ∧ (c::rest).getLast?≠some 44 ∧
      nameListLoop false (c::rest)=true := by
  induction items with
  | nil => exact absurd rfl hne
  | cons item items ih =>
    obtain ⟨⟨hi,hv⟩,hrn⟩ := forall_mem_cons.mp hn
    obtain ⟨c,more,rfl⟩ := exists_cons_of_ne_nil hi
    have hc : c≠44 := (hv c mem_cons_self).2.2
    rw [intercalate_cons_eq]
    split_ifs with he
    · rw [append_nil]
      refine ⟨c,more,rfl,hc,fun hl => (hv 44 (List.mem_of_getLast? hl)).2.2 rfl,?_⟩
      rw [← append_nil (c::more),nameListLoop_item hv]
      rfl
    obtain ⟨d,rest,hd,hdc,hl,hr⟩ := ih hrn he
    rw [hd]
    refine ⟨c,more++44::d::rest,rfl,hc,?_,?_⟩
    · rw [← cons_append,List.getLast?_append_cons,List.getLast?_cons_cons]
      exact hl
    rw [← cons_append,nameListLoop_item hv,nameListLoop,if_pos rfl]
    rw [nameListLoop,if_neg hdc] at hr ⊢
    exact hr

lemma sshNameListIsValid_iff : sshNameListIsValid (some list)=true ↔
    ∃ items,AreNames items ∧ list=[44].intercalate items := by
  constructor
  · intro hv
    by_cases hl : list=[]
    · exact ⟨[],forall_mem_nil _,hl⟩
    have hs : nameItems list=list.splitOn 44 := by
      unfold nameItems List.splitOn
      congr 1
    refine ⟨nameItems list,fun item hi => ⟨fun he => nameItems_nonempty hv hl (he ▸ hi),?_⟩,?_⟩
    · obtain ⟨c,rest,rfl⟩ := exists_cons_of_ne_nil hl
      have hp := (Bool.and_eq_true_iff.mp hv).2
      intro x hx
      exact nameListLoop_chars hp x ((Text.infix_of_mem_line hi).subset hx)
        (by simpa using Text.forall_mem_piece hi x hx)
    · rw [hs,List.intercalate_splitOn]
  rintro ⟨items,hn,rfl⟩
  by_cases he : items=[]
  · rw [he]
    rfl
  obtain ⟨c,rest,hj,hc,hl,hp⟩ := nameListLoop_names hn he
  rw [hj]
  simp [sshNameListIsValid,hc,hl,hp]

/-- The three scans agree on what is in a list, and a list is accepted when names have been
joined by commas. -/
theorem name_list_membership (list : Bytes) {name : Bytes} (hn : name≠[]) :
    (sshNameListContainsToken (some list) name=true ↔ name∈nameItems list) ∧
    (nameListContains (some list) name=true ↔ name∈nameItems list) ∧
    (containsLoop name list.length list=true ↔ name∈nameItems list) ∧
    (sshNameListIsValid (some list)=true ↔ ∃ items,AreNames items ∧ list=[44].intercalate items) := by
  refine ⟨?_,scanFor_iff,?_,sshNameListIsValid_iff⟩
  · by_cases hl : list=[]
    · simp [sshNameListContainsToken,hl,nameItems,hn]
    · simp [sshNameListContainsToken,hl,hn,scanFor_iff]
  · rw [containsLoop_eq hn _ _ le_rfl,List.contains_iff_mem]

theorem name_list_membership_last : cstr "ed25519"∈nameItems (cstr "rsa,ed25519") ∧
    cstr "ed"∉nameItems (cstr "rsa,ed25519") := by
  constructor
  · exact (name_list_membership _ (by decide)).1.mp (by decide)
  intro h
  exact absurd ((name_list_membership _ (by decide)).1.mpr h) (by decide)

end EMSSHD
