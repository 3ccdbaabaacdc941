import EMSSHD.Core.Buffer

namespace EMSSHD

open Call

def sshPacketMinPadding : Nat := 4
def sshPacketMinBlockSize : Nat := 8

def normalizedBlockSize (blockSize : Nat) : Nat :=
  if blockSize<sshPacketMinBlockSize then sshPacketMinBlockSize else blockSize

def padToMinimum (blockSize : Nat) : Nat → Nat → Nat
  | 0,paddingLen => paddingLen
  | fuel+1,paddingLen =>
    if paddingLen<sshPacketMinPadding then padToMinimum blockSize fuel (paddingLen+blockSize)
    else paddingLen

def sshPacketPaddingLen (payloadLen blockSize : Nat) : Nat :=
  let blockSize := normalizedBlockSize blockSize
  let totalWithoutPadding := 4+1+payloadLen
  let paddingLen := blockSize-totalWithoutPadding%blockSize
  let paddingLen := if paddingLen=blockSize then 0 else paddingLen
  -- every round adds at least one byte, so the minimum bounds the rounds
  padToMinimum blockSize sshPacketMinPadding paddingLen

def sshPacketEncodedLen (payloadLen blockSize : Nat) : Nat :=
  4+1+payloadLen+sshPacketPaddingLen payloadLen blockSize

lemma normalizedBlockSize_ge (blockSize : Nat) : 8≤normalizedBlockSize blockSize := by
  unfold normalizedBlockSize sshPacketMinBlockSize
  split_ifs <;> omega

private lemma padToMinimum_eq (blockSize fuel paddingLen : Nat) (h : 8≤blockSize) :
    padToMinimum blockSize (fuel+1) paddingLen=
      if paddingLen<4 then paddingLen+blockSize else paddingLen := by
  by_cases hp : paddingLen<sshPacketMinPadding
  · have hn : ¬paddingLen+blockSize<sshPacketMinPadding := by
      unfold sshPacketMinPadding
      omega
    rw [padToMinimum,if_pos hp,if_pos (show paddingLen<4 from hp)]
    cases fuel with
    | zero => rfl
    | succ fuel => rw [padToMinimum,if_neg hn]
  · rw [padToMinimum,if_neg hp,if_neg (show ¬paddingLen<4 from hp)]

private lemma complement_mod (total block : Nat) (hb : 0<block) :
    (total+(block-total%block))%block=0 := by
  have hlt := Nat.mod_lt total hb
  have hsp := Nat.div_add_mod total block
  have hs : total+(block-total%block)=block*(total/block+1) := by
    rw [Nat.mul_add,Nat.mul_one]
    omega
  rw [hs,Nat.mul_mod_right]

lemma paddingLen_spec (payloadLen blockSize : Nat) :
    4 ≤ sshPacketPaddingLen payloadLen blockSize ∧
    sshPacketPaddingLen payloadLen blockSize<normalizedBlockSize blockSize+4 ∧
    sshPacketEncodedLen payloadLen blockSize%normalizedBlockSize blockSize=0 := by
  have hb := normalizedBlockSize_ge blockSize
  set block := normalizedBlockSize blockSize with hbl
  set total := 4+1+payloadLen with ht
  have hlt := Nat.mod_lt total (show 0<block by omega)
  set start := if block-total%block=block then 0 else block-total%block with hst
  have hl : sshPacketPaddingLen payloadLen blockSize=if start<4 then start+block else start :=
    padToMinimum_eq block 3 start hb
  have hsm : start<block := by rw [hst]; split_ifs <;> omega
  have hm : (total+start)%block=0 := by
    by_cases hz : total%block=0
    · rw [hst,hz,Nat.sub_zero,if_pos rfl,Nat.add_zero,hz]
    rw [hst,if_neg (by omega)]
    exact complement_mod total block (by omega)
  have hg : sshPacketEncodedLen payloadLen blockSize=
      total+sshPacketPaddingLen payloadLen blockSize := rfl
  rw [hg,hl]
  split_ifs with hs
  · refine ⟨by omega,by omega,?_⟩
    rw [← Nat.add_assoc,Nat.add_mod_right,hm]
  · exact ⟨by omega,by omega,hm⟩

lemma paddingLen_fits (payloadLen blockSize : Nat) (h : blockSize≤252) :
    sshPacketPaddingLen payloadLen blockSize≤255 := by
  obtain ⟨_,hlt,_⟩ := paddingLen_spec payloadLen blockSize
  have hn : normalizedBlockSize blockSize≤252 := by
    unfold normalizedBlockSize sshPacketMinBlockSize
    split_ifs <;> omega
  omega

abbrev RngFill := (len : Nat) → Except Err (Vector UInt8 len)

def paddingBytes (rng : Option RngFill) (paddingLen : Nat) : Except Err Bytes :=
  match rng with
  | some fill =>
    match fill paddingLen with
    | .ok padding => .ok padding.toList
    | .error _ => .error .platform
  | none => .ok (List.replicate paddingLen 0)

lemma paddingBytes_length {rng : Option RngFill} {n : Nat} {pad : Bytes}
    (h : paddingBytes rng n=.ok pad) : pad.length=n := by
  rcases rng with _ | fill
  · cases h
    exact length_replicate
  rw [paddingBytes] at h
  rcases hf : fill n with _ | v
  · simp [hf] at h
  simp only [hf,Except.ok.injEq] at h
  rw [← h,Vector.length_toList]

def encodePlainInto (payload : Bytes) (blockSize : Nat) (rng : Option RngFill) :
    Call SshBuffer Err Bytes := do
  Call.require (payload.length≤emsshMaxPayloadSize) .malformedPacket
  let paddingLen := sshPacketPaddingLen payload.length blockSize
  let writer ← Call.get
  Call.require (4+1+payload.length+paddingLen≤writer.capacity) .bufferTooSmall
  sshBufferPutU32 (1+payload.length+paddingLen)
  sshBufferPutU8 (UInt8.ofNat paddingLen)
  sshBufferPutBytes payload
  let padding ← Call.lift (paddingBytes rng paddingLen)
  -- the padding is written behind the writer's back, then len is moved over it
  Call.modify fun w => {w with data := blit w.data w.len padding,len := w.len+paddingLen}
  let writer ← Call.get
  pure writer.contents

def sshPacketEncodePlain (outCapacity : Nat) (payload : Bytes) (blockSize : Nat)
    (rng : Option RngFill) : Except Err Bytes :=
  ((encodePlainInto payload blockSize rng).run (sshBufferInit (List.replicate outCapacity 0))).1

def decodePlainFrom (packet : Bytes) : Call SshBuffer Err Bytes := do
  Call.require (4+1+sshPacketMinPadding≤packet.length) .malformedPacket
  Call.require (packet.length≤emsshMaxPacketSize+4) .malformedPacket
  let packetLength ← sshBufferGetU32
  Call.require (packetLength+4=packet.length) .malformedPacket
  let paddingLen ← sshBufferGetU8
  Call.require (sshPacketMinPadding≤paddingLen.toNat) .malformedPacket
  Call.require (paddingLen.toNat+1≤packetLength) .malformedPacket
  pure ((packet.drop 5).take (packetLength-1-paddingLen.toNat))

def sshPacketDecodePlain (packet : Bytes) : Except Err Bytes :=
  ((decodePlainFrom packet).run (sshBufferWrap packet)).1

def plainFrame (payload pad : Bytes) : Bytes :=
  beBytes 4 (1+payload.length+pad.length)++(UInt8.ofNat pad.length::(payload++pad))

lemma plainFrame_length (payload pad : Bytes) :
    (plainFrame payload pad).length=5+payload.length+pad.length := by
  simp [plainFrame]
  omega

lemma plainFrame_inj {a b pad pad' : Bytes} (h : plainFrame a pad=plainFrame b pad') :
    UInt8.ofNat pad.length=UInt8.ofNat pad'.length ∧ a++pad=b++pad' := by
  have ht := (List.append_inj h (by simp)).2
  exact List.cons.inj ht

section
variable {outCapacity blockSize : Nat} {payload pad out : Bytes} {rng : Option RngFill}

private lemma encodePlainInto_result (hl : payload.length≤emsshMaxPayloadSize)
    (hc : sshPacketEncodedLen payload.length blockSize≤outCapacity) {w : SshBuffer}
    (hw : w.Written [] outCapacity) :
    ((encodePlainInto payload blockSize rng).run w).1=
      (paddingBytes rng (sshPacketPaddingLen payload.length blockSize)).map (plainFrame payload) := by
  have hro : 4+1+payload.length+sshPacketPaddingLen payload.length blockSize≤outCapacity := hc
  have hrm : 4+1+payload.length+sshPacketPaddingLen payload.length blockSize≤w.capacity := by
    rw [SshBuffer.capacity,hw.storage]
    exact hro
  set n := sshPacketPaddingLen payload.length blockSize with hn
  obtain ⟨w1,h1,hw1⟩ := putRaw_written (beBytes 4 (1+payload.length+n)) hw (by simp; omega)
  obtain ⟨w2,h2,hw2⟩ := putRaw_written [UInt8.ofNat n] hw1 (by simp; omega)
  obtain ⟨w3,h3,hw3⟩ := putRaw_written payload hw2 (by simp; omega)
  rw [encodePlainInto,run_bind_ok (run_require_of _ w hl),run_bind_ok (run_get w),
    run_bind_ok (run_require_of _ w hrm),sshBufferPutU32,run_bind_ok h1,sshBufferPutU8,
    run_bind_ok h2,sshBufferPutBytes,run_bind_ok h3]
  rcases hr : paddingBytes rng n with _ | pad
  · rfl
  have hp := paddingBytes_length hr
  have hw4 := hw3.blit pad (by simp; omega)
  rw [hp] at hw4
  rw [run_bind_ok (run_lift _ w3),run_bind_ok (run_modify _ w3)]
  change Except.ok (SshBuffer.contents _)=Except.ok (plainFrame payload pad)
  rw [hw4.contents,plainFrame,hp]
  simp

private lemma encodePlain_eq : sshPacketEncodePlain outCapacity payload blockSize rng=
    if payload.length≤emsshMaxPayloadSize then
      if sshPacketEncodedLen payload.length blockSize≤outCapacity then
        (paddingBytes rng (sshPacketPaddingLen payload.length blockSize)).map (plainFrame payload)
      else .error .bufferTooSmall
    else .error .malformedPacket := by
  have hw := init_written (List.replicate outCapacity 0)
  rw [sshPacketEncodePlain]
  generalize sshBufferInit (List.replicate outCapacity 0)=w at hw
  rw [length_replicate] at hw
  split_ifs with hl hc
  · exact encodePlainInto_result hl hc hw
  · have hcp : ¬4+1+payload.length+sshPacketPaddingLen payload.length blockSize≤w.capacity := by
      rw [SshBuffer.capacity,hw.storage]
      exact hc
    rw [encodePlainInto,run_bind_ok (run_require_of _ w hl),run_bind_ok (run_get w),
      run_bind_error (run_require_not _ w hcp)]
  · rw [encodePlainInto,run_bind_error (run_require_not _ w hl)]

/-- Encoding succeeds exactly on payloads within the limit that fit the output,
when the generator does not fail, and then yields the frame of the payload. -/
theorem encodePlain_ok_iff :
    sshPacketEncodePlain outCapacity payload blockSize rng=.ok out ↔
      payload.length≤emsshMaxPayloadSize ∧
      sshPacketEncodedLen payload.length blockSize≤outCapacity ∧
      ∃ pad,paddingBytes rng (sshPacketPaddingLen payload.length blockSize)=.ok pad ∧
        out=plainFrame payload pad := by
  rw [encodePlain_eq]
  split_ifs with hl hc
  · cases paddingBytes rng (sshPacketPaddingLen payload.length blockSize) with
    | error e => simp [Except.map]
    | ok pad => simp [Except.map,hl,hc,eq_comm]
  · simp [hc]
  · simp [hl]

lemma paddingBytes_error {n : Nat} {e : Err} (h : paddingBytes rng n=.error e) : e=.platform := by
  rcases rng with _ | fill
  · cases h
  rw [paddingBytes] at h
  cases hf : fill n with
  | ok v => simp [hf] at h
  | error x =>
    simp only [hf,Except.error.injEq] at h
    exact h.symm

lemma encodePlain_error {e : Err}
    (h : sshPacketEncodePlain outCapacity payload blockSize rng=.error e) : e≠.notFound := by
  rw [encodePlain_eq] at h
  split_ifs at h
  · cases hp : paddingBytes rng (sshPacketPaddingLen payload.length blockSize) with
    | ok pad =>
      rw [hp] at h
      cases h
    | error x =>
      rw [hp,paddingBytes_error hp] at h
      cases h
      decide
  all_goals
    cases h
    decide
end

variable {packet payload pad head rest : Bytes} {x : UInt8}

private lemma decodePlainFrom_result (hln : 9≤packet.length)
    (hm : packet.length≤emsshMaxPacketSize+4) (hh : head.length=4) (hp : packet=head++(x::rest)) :
    sshPacketDecodePlain packet=
      if beValue head+4=packet.length ∧ 4≤x.toNat ∧ x.toNat+1≤beValue head
      then .ok (rest.take (beValue head-1-x.toNat)) else .error .malformedPacket := by
  have hw := wrap_unread packet
  rw [sshPacketDecodePlain]
  generalize sshBufferWrap packet=w at hw
  have hd : packet.drop 5=rest := by
    have hs : packet=(head++[x])++rest := by simp [hp]
    rw [hs,drop_left' (by simp [hh])]
  rw [hp] at hw
  obtain ⟨w1,h1,hw1⟩ := getU32_unread hh hw
  obtain ⟨w2,h2,hw2⟩ := getU8_unread hw1
  have hl : 4+1+sshPacketMinPadding≤packet.length := hln
  rw [decodePlainFrom,run_bind_ok (run_require_of _ w hl),run_bind_ok (run_require_of _ w hm),
    run_bind_ok h1]
  by_cases hc : beValue head+4=packet.length
  · rw [run_bind_ok (run_require_of _ w1 hc),run_bind_ok h2]
    by_cases hx : sshPacketMinPadding≤x.toNat
    · rw [run_bind_ok (run_require_of _ w2 hx)]
      by_cases hy : x.toNat+1≤beValue head
      · rw [run_bind_ok (run_require_of _ w2 hy),if_pos ⟨hc,hx,hy⟩,hd]
        rfl
      · rw [run_bind_error (run_require_not _ w2 hy),if_neg (fun h => hy h.2.2)]
    · rw [run_bind_error (run_require_not _ w2 hx),if_neg (fun h => hx h.2.1)]
  · rw [run_bind_error (run_require_not _ w1 hc),if_neg (fun h => hc h.1)]

lemma decodePlain_frame (hm : 4≤pad.length) (hmx : pad.length≤255)
    (hln : 5+payload.length+pad.length≤emsshMaxPacketSize+4) :
    sshPacketDecodePlain (plainFrame payload pad)=.ok payload := by
  have hl := plainFrame_length payload pad
  have hs : 1+payload.length+pad.length<256^4 := by
    unfold emsshMaxPacketSize at hln
    omega
  have hv := beValue_beBytes_of_lt 4 _ hs
  have hx : (UInt8.ofNat pad.length).toNat=pad.length := by
    simp
    omega
  have hr : sshPacketDecodePlain (plainFrame payload pad)=_ :=
    decodePlainFrom_result (by omega) (by omega) (beBytes_length 4 _) rfl
  rw [hr,hv,hx,hl,if_pos]
  · rw [take_left' (by omega)]
  · omega

private lemma head_split (h : 9≤packet.length) :
    ∃ head x rest,head.length=4 ∧ packet=head++(x::rest) := by
  refine ⟨packet.take 4,packet[4],packet.drop 5,?_,?_⟩
  · rw [length_take]
    omega
  · rw [List.getElem_cons_drop,take_append_drop]

private lemma decodePlain_limits (packet : Bytes) :
    9≤packet.length ∧ packet.length≤emsshMaxPacketSize+4 ∨
      sshPacketDecodePlain packet=.error .malformedPacket := by
  by_cases hl : 4+1+sshPacketMinPadding≤packet.length
  · by_cases hm : packet.length≤emsshMaxPacketSize+4
    · exact .inl ⟨hl,hm⟩
    right
    rw [sshPacketDecodePlain,decodePlainFrom,run_bind_ok (run_require_of _ _ hl),
      run_bind_error (run_require_not _ _ hm)]
  right
  rw [sshPacketDecodePlain,decodePlainFrom,run_bind_error (run_require_not _ _ hl)]

lemma decodePlain_error {e : Err} (h : sshPacketDecodePlain packet=.error e) :
    e=.malformedPacket := by
  rcases decodePlain_limits packet with ⟨hl,hm⟩ | he
  · obtain ⟨head,x,rest,hh,hp⟩ := head_split hl
    rw [decodePlainFrom_result hl hm hh hp] at h
    split_ifs at h
    exact (Except.error.inj h).symm
  rw [he] at h
  exact (Except.error.inj h).symm

lemma decodePlain_ok (h : sshPacketDecodePlain packet=.ok payload) :
    packet.length≤emsshMaxPacketSize+4 ∧
      ∃ pad,packet=plainFrame payload pad ∧ 4≤pad.length ∧ pad.length≤255 := by
  rcases decodePlain_limits packet with ⟨hln,hm⟩ | he
  · obtain ⟨head,x,rest,hh,hp⟩ := head_split hln
    rw [decodePlainFrom_result hln hm hh hp] at h
    have hb := x.toNat_lt
    have hl := congrArg List.length hp
    rw [length_append,length_cons,hh] at hl
    split_ifs at h with hc
    have hpy := Except.ok.inj h
    have hk : payload.length=beValue head-1-x.toNat := by
      rw [← hpy,length_take]
      omega
    have hx : (rest.drop (beValue head-1-x.toNat)).length=x.toNat := by
      rw [length_drop]
      omega
    have hs : 1+payload.length+x.toNat=beValue head := by omega
    refine ⟨hm,rest.drop (beValue head-1-x.toNat),?_,by omega,by omega⟩
    rw [plainFrame,hx,hs,← hpy,take_append_drop,← hh,beBytes_beValue]
    simpa using hp
  rw [he] at h
  cases h

/-- The cast of the padding length to its byte loses nothing, or the decoder
refuses the packet. -/
def PaddingSurvives (payloadLen blockSize : Nat) : Prop :=
  sshPacketPaddingLen payloadLen blockSize≤255 ∨
  sshPacketPaddingLen payloadLen blockSize%256<sshPacketMinPadding ∨
  emsshMaxPacketSize+4<sshPacketEncodedLen payloadLen blockSize

instance (payloadLen blockSize : Nat) : Decidable (PaddingSurvives payloadLen blockSize) :=
  inferInstanceAs (Decidable (_ ∨ _ ∨ _))

lemma decodePlain_survives {got : Bytes} {blockSize : Nat}
    (hs : PaddingSurvives payload.length blockSize)
    (hp : pad.length=sshPacketPaddingLen payload.length blockSize)
    (h : sshPacketDecodePlain (plainFrame payload pad)=.ok got) : got=payload := by
  obtain ⟨hm,pad',he,hmn,hf⟩ := decodePlain_ok h
  obtain ⟨hb,ha⟩ := plainFrame_inj he
  have hmd : pad.length%256=pad'.length := by
    have hn := congrArg UInt8.toNat hb
    simp only [UInt8.toNat_ofNat'] at hn
    omega
  rw [plainFrame_length] at hm
  rcases hs with hs | hs | hs
  · have hl := congrArg List.length ha
    rw [length_append,length_append] at hl
    exact (List.append_inj_left ha (by omega)).symm
  · unfold sshPacketMinPadding at hs
    omega
  unfold sshPacketEncodedLen at hs
  omega

end EMSSHD
