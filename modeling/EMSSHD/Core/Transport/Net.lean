import EMSSHD.Core.Packet.Protected

namespace EMSSHD

/-- EMSSH_NET_IO_TIMEOUT -/
def emsshNetIoTimeout : Int := -2

/-- The platform under a session: the bytes the peer has on the way, the results
that net->read and net->write have in store, the bytes written so far, and the
outputs of the random generator when there is one. -/
structure PlatformState where
  incoming : Bytes
  reads : List Int
  outgoing : Bytes
  writes : List Int
  fills : Option (List RngFill)

def nextChunk (n : Int) (len : Nat) (incoming : Bytes) : Bytes := incoming.take (min n.toNat len)

/-- The loop of net_read_exact over the results in store. A positive result n
stands for a read of up to n bytes; a read at the end of the stream returns 0. -/
def netReadLoop (len : Nat) : List Int → (incoming done : Bytes) → Except Err Bytes×Bytes×List Int
  | [],incoming,done => if done.length<len then (.error .closed,incoming,[]) else (.ok done,incoming,[])
  | n::reads,incoming,done =>
    if done.length<len then
      if n=0 then (.error .closed,incoming,reads)
      else if n=emsshNetIoTimeout then
        if done.length=0 then (.error .notFound,incoming,reads)
        else netReadLoop len reads incoming done
      else if n<0 then (.error .platform,incoming,reads)
      else if (nextChunk n (len-done.length) incoming).length=0 then
        (.error .closed,incoming,reads)
      else netReadLoop len reads
        (incoming.drop (nextChunk n (len-done.length) incoming).length)
        (done++nextChunk n (len-done.length) incoming)
    else (.ok done,incoming,n::reads)

def netReadExact (len : Nat) : Call PlatformState Err Bytes :=
  ⟨fun w =>
    let r := netReadLoop len w.reads w.incoming []
    (r.1,{w with incoming := r.2.1,reads := r.2.2})⟩

/-- The loop of net_write_all; rest is what is still to be written. -/
def netWriteLoop : List Int → (rest written : Bytes) → Except Err Unit×Bytes×List Int
  | [],rest,written => if rest.length=0 then (.ok (),written,[]) else (.error .closed,written,[])
  | n::writes,rest,written =>
    if rest.length=0 then (.ok (),written,n::writes)
    else if n=0 then (.error .closed,written,writes)
    else if n<0 then (.error .platform,written,writes)
    else netWriteLoop writes (rest.drop n.toNat) (written++rest.take n.toNat)

def netWriteAll (buf : Bytes) : Call PlatformState Err Unit :=
  ⟨fun w =>
    let r := netWriteLoop w.writes buf w.outgoing
    (r.1,{w with outgoing := r.2.1,writes := r.2.2})⟩

section
variable {writes : List Int} {buf rest : Bytes} {w : PlatformState}

private lemma netWriteLoop_positive (written : Bytes) (hp : ∀ n∈writes,0<n)
    (hc : rest.length≤writes.length) :
    ∃ later,netWriteLoop writes rest written=(.ok (),written++rest,later) ∧
      (∀ n∈later,0<n) ∧ writes.length≤later.length+rest.length := by
  induction writes generalizing rest written with
  | nil =>
    have hr : rest=[] := length_eq_zero_iff.mp (Nat.le_zero.mp hc)
    exact ⟨[],by rw [hr,netWriteLoop,if_pos length_nil,append_nil],nofun,by simp⟩
  | cons n writes ih =>
    obtain ⟨hn,hp⟩ := forall_mem_cons.mp hp
    rw [length_cons] at hc
    rw [netWriteLoop]
    by_cases hr : rest.length=0
    · refine ⟨n::writes,?_,forall_mem_cons.mpr ⟨hn,hp⟩,by omega⟩
      rw [if_pos hr,length_eq_zero_iff.mp hr,append_nil]
    have hln : (rest.drop n.toNat).length=rest.length-n.toNat := length_drop
    obtain ⟨later,hrn,hl,hlf⟩ := ih (written++rest.take n.toNat) hp
      (show (rest.drop n.toNat).length≤writes.length by omega)
    refine ⟨later,?_,hl,by rw [length_cons]; omega⟩
    rw [if_neg hr,if_neg (by omega),if_neg (by omega),hrn,append_assoc,take_append_drop]

lemma netWriteAll_positive (hp : ∀ n∈w.writes,0<n) (hc : buf.length≤w.writes.length) :
    ∃ later,(netWriteAll buf).run w=
        (.ok (),{w with outgoing := w.outgoing++buf,writes := later}) ∧
      (∀ n∈later,0<n) ∧ w.writes.length≤later.length+buf.length := by
  obtain ⟨later,hr,hl⟩ := netWriteLoop_positive w.outgoing hp hc
  exact ⟨later,by simp only [netWriteAll,hr],hl⟩

private lemma netWriteLoop_ok {later : List Int} {written out : Bytes}
    (h : netWriteLoop writes rest written=(.ok (),out,later)) : out=written++rest := by
  induction writes generalizing rest written with
  | nil =>
    rw [netWriteLoop] at h
    split_ifs at h with hr
    · cases h
      rw [length_eq_zero_iff.mp hr,append_nil]
    · cases h
  | cons n writes ih =>
    rw [netWriteLoop] at h
    split_ifs at h with hr
    · cases h
      rw [length_eq_zero_iff.mp hr,append_nil]
    · cases h
    · cases h
    · rw [ih h,append_assoc,take_append_drop]

lemma netWriteAll_ok {u : PlatformState} (h : (netWriteAll buf).run w=(.ok (),u)) :
    u.outgoing=w.outgoing++buf ∧ u.incoming=w.incoming := by
  rcases hl : netWriteLoop w.writes buf w.outgoing with ⟨r,out,later⟩
  simp only [netWriteAll,hl] at h
  cases h
  exact ⟨netWriteLoop_ok hl,rfl⟩

lemma netWriteLoop_error {writes' : List Int} {written out : Bytes} {e : Err}
    (h : netWriteLoop writes rest written=(.error e,out,writes')) : e≠.notFound := by
  induction writes generalizing rest written with
  | nil =>
    rw [netWriteLoop] at h
    split_ifs at h
    · cases h
    · cases h
      decide
  | cons n writes ih =>
    rw [netWriteLoop] at h
    split_ifs at h
    · cases h
    · cases h
      decide
    · cases h
      decide
    · exact ih h

lemma netWriteAll_error {u : PlatformState} {e : Err}
    (h : (netWriteAll buf).run w=(.error e,u)) : e≠.notFound := by
  rcases hl : netWriteLoop w.writes buf w.outgoing with ⟨r,out,later⟩
  simp only [netWriteAll,hl] at h
  cases h
  exact netWriteLoop_error hl
end

def chunkSum (reads : List Int) : Nat := (reads.map Int.toNat).sum

/-- With these results a read of need bytes is complete, and not before the
last of them: none is an end or an error, and only the last one fills up. -/
structure CompletesRead (need : Nat) (reads : List Int) : Prop where
  good : ∀ n∈reads,n=emsshNetIoTimeout ∨ 0<n
  short : chunkSum reads.dropLast<need
  full : need ≤ chunkSum reads

variable {len need : Nat} {reads reads' used : List Int} {stream done data rest : Bytes}

lemma netReadLoop_done (h : len≤done.length) :
    netReadLoop len reads stream done=(.ok done,stream,reads) := by
  cases reads with
  | nil | cons => rw [netReadLoop,if_neg (by omega)]

private lemma netReadLoop_error {e : Err}
    (h : netReadLoop len reads stream done=(.error e,rest,reads')) :
    e=.closed ∨ e=.platform ∨
      e=.notFound ∧ done=[] ∧ rest=stream ∧ reads=emsshNetIoTimeout::reads' := by
  induction reads generalizing stream done with
  | nil =>
    rw [netReadLoop] at h
    split_ifs at h
    · cases h
      exact .inl rfl
    · cases h
  | cons n reads ih =>
    rw [netReadLoop] at h
    split_ifs at h with h1 h2 h3 h4 h5 h6
    · cases h
      exact .inl rfl
    · cases h
      exact .inr (.inr ⟨rfl,length_eq_zero_iff.mp h4,rfl,by rw [h3]⟩)
    -- behind the first byte no read ends with a timeout
    · exact (ih h).imp_right (·.imp_right fun hn => absurd (congrArg List.length hn.2.1) h4)
    · cases h
      exact .inr (.inl rfl)
    · cases h
      exact .inl rfl
    · refine (ih h).imp_right (·.imp_right fun hn => ?_)
      exact absurd (congrArg List.length (List.append_eq_nil_iff.mp hn.2.1).2) h6
    · cases h

private lemma nextChunk_length (n : Int) (need : Nat) (stream : Bytes) :
    (nextChunk n need stream).length=min (min n.toNat need) stream.length := by
  rw [nextChunk,length_take]

private lemma take_chunk (n : Int) (need : Nat) (stream : Bytes) :
    nextChunk n need stream++
      (stream.drop (nextChunk n need stream).length).take
        (need-(nextChunk n need stream).length)=stream.take need := by
  have hk : (nextChunk n need stream).length≤need := by
    rw [nextChunk_length]
    omega
  have hc : nextChunk n need stream=stream.take (nextChunk n need stream).length := by
    rw [nextChunk,length_take,List.take_eq_take_iff]
    omega
  generalize (nextChunk n need stream).length=k at hk hc
  rw [hc,← List.take_add,Nat.add_sub_cancel' hk]

private lemma chunkSum_cons (n : Int) (reads : List Int) :
    chunkSum (n::reads)=n.toNat+chunkSum reads := by
  simp [chunkSum]

private lemma dropLast_cons_of_full (n : Int) (h0 : 0<need) (h : need ≤ chunkSum used) :
    (n::used).dropLast=n::used.dropLast := by
  cases used with
  | nil =>
    change need≤0 at h
    omega
  | cons m used => rfl

lemma completesRead_cons {n : Int} (hn : n=emsshNetIoTimeout ∨ 0<n) (hl : n.toNat<need) :
    CompletesRead need (n::used) ↔ CompletesRead (need-n.toNat) used := by
  have hr : 0<need-n.toNat := by omega
  constructor
  · intro h
    have hf := h.full
    have hs := h.short
    rw [chunkSum_cons] at hf
    rw [dropLast_cons_of_full n hr (by omega),chunkSum_cons] at hs
    exact ⟨(forall_mem_cons.mp h.good).2,by omega,by omega⟩
  intro h
  have hf := h.full
  have hs := h.short
  refine ⟨forall_mem_cons.mpr ⟨hn,h.good⟩,?_,?_⟩
  · rw [dropLast_cons_of_full n hr hf,chunkSum_cons]
    omega
  rw [chunkSum_cons]
  omega

lemma completesRead_single {n : Int} (hn : 0<n) (hnd : 0<need) (hf : need≤n.toNat) :
    CompletesRead need [n] := by
  refine ⟨List.forall_mem_singleton.mpr (.inr hn),hnd,?_⟩
  rw [chunkSum_cons]
  omega

lemma CompletesRead.last {n : Int} (h : CompletesRead need (n::used)) (hl : need≤n.toNat) :
    used=[] := by
  rcases used with _ | ⟨m,used⟩
  · rfl
  have hs : chunkSum (n::(m::used).dropLast)<need := h.short
  rw [chunkSum_cons] at hs
  omega

lemma netReadLoop_ok (h : netReadLoop len reads stream done=(.ok data,rest,reads'))
    (hle : len=done.length+need) (hnd : 0<need) :
    ∃ used,reads=used++reads' ∧ (done=[] → used.head?≠some emsshNetIoTimeout) ∧
      CompletesRead need used ∧ need ≤ stream.length ∧
      data=done++stream.take need ∧ rest=stream.drop need := by
  induction reads generalizing stream done need with
  | nil =>
    rw [netReadLoop,if_pos (by omega)] at h
    cases h
  | cons n reads ih =>
    rw [netReadLoop,if_pos (by omega)] at h
    split_ifs at h with h1 h2 h3 h4 h5
    · cases h
    · cases h
    · obtain ⟨used,rfl,_,hc,hl,hd,hr⟩ := ih h hle hnd
      have hz : n.toNat=0 := by rw [h2]; rfl
      refine ⟨n::used,rfl,?_,(completesRead_cons (.inl h2) (by omega)).mpr ?_,hl,hd,hr⟩
      · intro he
        exact absurd (congrArg List.length he) h3
      · rwa [hz,Nat.sub_zero]
    · cases h
    · cases h
    have hn : len-done.length=need := by omega
    rw [hn] at h h5
    have hk := nextChunk_length n need stream
    have ht := take_chunk n need stream
    set chunk := nextChunk n need stream with hch
    have hp : 0<n := by omega
    have hf (used : List Int) : (n::used).head?≠some emsshNetIoTimeout :=
      fun he => h2 (Option.some.inj he)
    by_cases hrs : need-chunk.length=0
    · rw [netReadLoop_done (by rw [length_append]; omega)] at h
      cases h
      have hc : chunk.length=need := by omega
      refine ⟨[n],rfl,fun _ => hf [],completesRead_single hp hnd (by omega),by omega,?_,by rw [hc]⟩
      rw [← ht,hc,Nat.sub_self,List.take_zero,append_nil]
    have hln : len=(done++chunk).length+(need-chunk.length) := by
      rw [length_append]
      omega
    obtain ⟨used,rfl,_,hcm,hl,hd,hr⟩ := ih h hln (by omega)
    rw [length_drop] at hl
    have hc : chunk.length=n.toNat := by omega
    rw [hc] at hcm
    refine ⟨n::used,rfl,fun _ => hf used,
      (completesRead_cons (.inr hp) (by omega)).mpr hcm,by omega,?_,?_⟩
    · rw [hd,append_assoc,ht]
    · rw [hr,drop_drop,Nat.add_sub_cancel' (by omega)]

lemma netReadLoop_completes (hc : CompletesRead need used)
    (hst : done=[] → used.head?≠some emsshNetIoTimeout) (hle : len=done.length+need)
    (hs : need ≤ stream.length) :
    netReadLoop len (used++reads) stream done=
      (.ok (done++stream.take need),stream.drop need,reads) := by
  induction used generalizing stream done need with
  | nil =>
    have hsh := hc.short
    have hf : need≤0 := hc.full
    omega
  | cons n used ih =>
    have hnd : 0<need := Nat.zero_lt_of_lt hc.short
    rw [cons_append,netReadLoop,if_pos (by omega)]
    rcases (forall_mem_cons.mp hc.good).1 with hn | hn
    · have h0 : done.length≠0 := by
        intro h0
        exact hst (length_eq_zero_iff.mp h0) (by rw [hn]; rfl)
      have hz : n.toNat=0 := by rw [hn]; rfl
      have hr := (completesRead_cons (.inl hn) (by omega)).mp hc
      rw [hz,Nat.sub_zero] at hr
      rw [if_neg (by rw [hn]; decide),if_pos hn,if_neg h0]
      apply ih hr _ hle hs
      intro he
      exact absurd (congrArg List.length he) h0
    have hk := nextChunk_length n need stream
    have ht := take_chunk n need stream
    have hne : n≠emsshNetIoTimeout := by unfold emsshNetIoTimeout; omega
    have hd : len-done.length=need := by omega
    rw [hd]
    set chunk := nextChunk n need stream with hch
    rw [if_neg (by omega),if_neg hne,if_neg (by omega),if_neg (by omega)]
    by_cases hl : need≤n.toNat
    · have hw : chunk.length=need := by omega
      rw [hc.last hl,nil_append,netReadLoop_done (by rw [length_append]; omega),hw]
      rw [hw,Nat.sub_self,List.take_zero,append_nil] at ht
      rw [ht]
    have hp : chunk.length=n.toNat := by omega
    have hr := (completesRead_cons (.inr hn) (by omega)).mp hc
    have hln : len=(done++chunk).length+(need-n.toNat) := by
      rw [length_append]
      omega
    rw [ih hr _ hln (by rw [length_drop]; omega),append_assoc,← hp,ht,drop_drop,
      Nat.add_sub_cancel' (by omega)]
    intro he
    rw [List.append_eq_nil_iff] at he
    have hem : chunk.length=0 := congrArg List.length he.2
    omega

variable {e : Err} {n : Nat} {w : PlatformState} {later : List Int}

lemma netReadExact_zero (w : PlatformState) : (netReadExact 0).run w=(.ok [],w) := by
  simp only [netReadExact,netReadLoop_done (show 0≤([] : Bytes).length from Nat.zero_le _)]

lemma netReadExact_completes (hc : CompletesRead n used) (hs : used.head?≠some emsshNetIoTimeout)
    (hl : n≤w.incoming.length) (hr : w.reads=used++later) :
    (netReadExact n).run w=
      (.ok (w.incoming.take n),{w with incoming := w.incoming.drop n,reads := later}) := by
  have h := @netReadLoop_completes n n later used w.incoming [] hc (fun _ => hs) (Nat.zero_add n).symm hl
  rw [← hr] at h
  simp only [netReadExact,h]
  rfl

private lemma completesRead_of_positive (hp : ∀ n∈reads,0<n) (hnd : 0<need)
    (hcn : need ≤ reads.length) :
    ∃ used later,reads=used++later ∧ CompletesRead need used ∧ used.length≤need := by
  induction reads generalizing need with
  | nil => exact absurd hcn (by rw [length_nil]; omega)
  | cons n reads ih =>
    obtain ⟨hn,hp⟩ := forall_mem_cons.mp hp
    rw [length_cons] at hcn
    by_cases hl : need≤n.toNat
    · exact ⟨[n],reads,rfl,completesRead_single hn hnd hl,by rw [length_singleton]; omega⟩
    obtain ⟨used,later,hs,hc,hln⟩ := ih hp (show 0<need-n.toNat by omega) (by omega)
    have ha := (completesRead_cons (.inr hn) (by omega)).mpr hc
    exact ⟨n::used,later,by rw [hs]; rfl,ha,by rw [length_cons]; omega⟩

lemma netReadExact_positive (hp : ∀ m∈w.reads,0 < m) (hcn : n≤w.reads.length)
    (ha : n≤w.incoming.length) :
    ∃ later,(netReadExact n).run w=
        (.ok (w.incoming.take n),{w with incoming := w.incoming.drop n,reads := later}) ∧
      (∀ m∈later,0 < m) ∧ w.reads.length≤later.length+n := by
  rcases Nat.eq_zero_or_pos n with rfl | hn
  · exact ⟨w.reads,netReadExact_zero w,hp,Nat.le_refl _⟩
  obtain ⟨used,later,hs,hc,hl⟩ := completesRead_of_positive hp hn hcn
  have hst : used.head?≠some emsshNetIoTimeout := by
    intro hh
    have hmm : emsshNetIoTimeout∈w.reads := by
      rw [hs]
      exact mem_append_left _ (mem_of_mem_head? hh)
    exact absurd (hp _ hmm) (by decide)
  refine ⟨later,netReadExact_completes hc hst ha hs,fun m hm => ?_,?_⟩
  · exact hp m (by rw [hs]; exact mem_append_right _ hm)
  rw [hs,length_append]
  omega

lemma netReadExact_front {front behind : Bytes} (hn : front.length=n)
    (hi : w.incoming=front++behind) (hp : ∀ m∈w.reads,0 < m) (hc : n≤w.reads.length) :
    ∃ later,(netReadExact n).run w=(.ok front,{w with incoming := behind,reads := later}) ∧
      (∀ m∈later,0 < m) ∧ w.reads.length≤later.length+n := by
  have ha : n≤w.incoming.length := by
    rw [hi,length_append]
    omega
  obtain ⟨later,hr,hl⟩ := netReadExact_positive hp hc ha
  rw [hi,take_left' hn,drop_left' hn] at hr
  exact ⟨later,hr,hl⟩

lemma netReadExact_timeout (hn : 0<n) (hr : w.reads=emsshNetIoTimeout::later) :
    (netReadExact n).run w=(.error .notFound,{w with reads := later}) := by
  have h : netReadLoop n w.reads w.incoming []=(.error .notFound,w.incoming,later) := by
    rw [hr,netReadLoop,if_pos (show ([] : Bytes).length<n from hn),if_neg (by decide),if_pos rfl,
      if_pos length_nil]
  simp only [netReadExact,h]

lemma netReadExact_spec (n : Nat) (hn : 0<n) (w : PlatformState) :
    (netReadExact n).Ensures w (Call.Outcome
      (fun data u => n≤w.incoming.length ∧ data=w.incoming.take n ∧
        ∃ used later,w.reads=used++later ∧ used.head?≠some emsshNetIoTimeout ∧
          CompletesRead n used ∧ u={w with incoming := w.incoming.drop n,reads := later})
      (fun e u => e=.closed ∨ e=.platform ∨ e=.notFound ∧
        ∃ later,w.reads=emsshNetIoTimeout::later ∧ u={w with reads := later})) := by
  rcases h : netReadLoop n w.reads w.incoming [] with ⟨r,rest,later⟩
  have hrn : (netReadExact n).run w=(r,{w with incoming := rest,reads := later}) := by
    simp only [netReadExact,h]
  refine .of_run hrn ?_
  cases r with
  | ok data =>
    obtain ⟨used,hu,hs,hc,hl,hd,hr⟩ := netReadLoop_ok h (Nat.zero_add n).symm hn
    refine ⟨hl,hd,used,later,hu,hs rfl,hc,?_⟩
    rw [hr]
  | error e =>
    refine (netReadLoop_error h).imp_right (·.imp_right ?_)
    rintro ⟨he,_,rfl,hu⟩
    exact ⟨he,later,hu,rfl⟩

/-- What a read takes, and that it does not fail for want of room. -/
lemma netReadExact_taken (n : Nat) (w : PlatformState) :
    (netReadExact n).Ensures w (Call.Outcome
      (fun _ u => w.incoming.length=u.incoming.length+n) fun e _ => e≠.bufferTooSmall) := by
  rcases Nat.eq_zero_or_pos n with rfl | hn
  · exact .of_run (netReadExact_zero w) rfl
  refine (netReadExact_spec n hn w).mono fun r u h => ?_
  cases r with
  | ok data =>
    obtain ⟨hl,_,_,_,_,_,_,rfl⟩ := h
    have hd : (w.incoming.drop n).length=w.incoming.length-n := length_drop
    show w.incoming.length=(w.incoming.drop n).length+n
    omega
  | error e =>
    rcases h with rfl | rfl | ⟨rfl,_⟩ <;> exact nofun

end EMSSHD
