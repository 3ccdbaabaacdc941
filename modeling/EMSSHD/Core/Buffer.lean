import EMSSHD.Core.Status
import EMSSHD.Framework.Call

namespace EMSSHD

open Call

/-- ssh_buffer_t. The storage is the whole array, so its length is the capacity;
the first len bytes are written and the first pos bytes are read. -/
structure SshBuffer where
  data : Bytes
  len : Nat
  pos : Nat
  deriving DecidableEq

namespace SshBuffer

def capacity (b : SshBuffer) : Nat := b.data.length
def contents (b : SshBuffer) : Bytes := b.data.take b.len
end SshBuffer

def sshBufferInit (storage : Bytes) : SshBuffer := ⟨storage,0,0⟩
def sshBufferWrap (storage : Bytes) : SshBuffer := ⟨storage,storage.length,0⟩
def sshBufferRemainingRead (b : SshBuffer) : Nat := if b.len<b.pos then 0 else b.len-b.pos

def sshBufferRemainingWrite (b : SshBuffer) : Nat :=
  if b.capacity<b.len then 0 else b.capacity-b.len

def putRaw (src : Bytes) : Call SshBuffer Err Unit := do
  let b ← Call.get
  Call.require (src.length ≤ sshBufferRemainingWrite b) .bufferOverflow
  Call.modify fun b => {b with data := blit b.data b.len src,len := b.len+src.length}

def sshBufferPutU8 (value : UInt8) : Call SshBuffer Err Unit := putRaw [value]

def sshBufferPutBool (value : Bool) : Call SshBuffer Err Unit :=
  sshBufferPutU8 (if value then 1 else 0)

def sshBufferPutU32 (value : Nat) : Call SshBuffer Err Unit := putRaw (beBytes 4 value)
def sshBufferPutU64 (value : Nat) : Call SshBuffer Err Unit := putRaw (beBytes 8 value)
def sshBufferPutBytes (data : Bytes) : Call SshBuffer Err Unit := putRaw data

def sshBufferPutString (data : Bytes) : Call SshBuffer Err Unit := do
  Call.require (data.length≤uint32Max) .invalidArgument
  sshBufferPutU32 data.length
  sshBufferPutBytes data

def sshBufferPutCstring (value : Bytes) : Call SshBuffer Err Unit := sshBufferPutString value

def getRaw (n : Nat) : Call SshBuffer Err Bytes := do
  let b ← Call.get
  Call.require (n ≤ sshBufferRemainingRead b) .bufferUnderflow
  Call.modify fun b => {b with pos := b.pos+n}
  pure ((b.data.drop b.pos).take n)

def sshBufferGetU8 : Call SshBuffer Err UInt8 := do
  let raw ← getRaw 1
  pure (raw.headD 0)

def sshBufferGetBool : Call SshBuffer Err Bool := do
  let raw ← sshBufferGetU8
  Call.require (raw=0 ∨ raw=1) .malformedPacket
  pure (raw≠0)

def sshBufferGetU32 : Call SshBuffer Err Nat := do
  let raw ← getRaw 4
  pure (beValue raw)

def sshBufferGetU64 : Call SshBuffer Err Nat := do
  let raw ← getRaw 8
  pure (beValue raw)

def sshBufferGetStringView : Call SshBuffer Err StringView := do
  let len ← sshBufferGetU32
  let raw ← getRaw len
  pure (some raw)

section
/-- The first bytes of a storage of cap bytes are w, and w is all that is written. -/
structure SshBuffer.Written (b : SshBuffer) (w : Bytes) (cap : Nat) : Prop where
  contents : b.contents=w
  len : b.len=w.length
  storage : b.data.length=cap

lemma init_written (storage : Bytes) :
    (sshBufferInit storage).Written [] storage.length := ⟨rfl,rfl,rfl⟩

variable {b : SshBuffer} {w : Bytes} {cap : Nat}

lemma SshBuffer.Written.blit (hb : b.Written w cap) (src : Bytes)
    (h : w.length+src.length ≤ cap) :
    SshBuffer.Written {b with data := blit b.data b.len src,len := b.len+src.length}
      (w++src) cap := by
  obtain ⟨hw,hl,hs⟩ := hb
  refine ⟨?_,?_,?_⟩
  · rw [← hw]
    exact blit_take b.data src b.len (by omega)
  · simp [hl]
  · exact (blit_length b.data src b.len (by omega)).trans hs

lemma putRaw_written (src : Bytes) (hb : b.Written w cap) (h : w.length+src.length ≤ cap) :
    ∃ c,(putRaw src).run b=(.ok (),c) ∧ c.Written (w++src) cap := by
  have hr : src.length ≤ sshBufferRemainingWrite b := by
    have hl := hb.len
    have hs := hb.storage
    unfold sshBufferRemainingWrite SshBuffer.capacity
    split_ifs <;> omega
  refine ⟨{b with data := blit b.data b.len src,len := b.len+src.length},?_,hb.blit src h⟩
  rw [putRaw,run_bind_ok (run_get b),run_bind_ok (run_require_of _ b hr)]
  rfl

lemma putRaw_spec (src : Bytes) (hb : b.Written w cap) :
    (putRaw src).Ensures b
      (Outcome (fun _ c => c.Written (w++src) cap) (fun e _ => e=.bufferOverflow)) := by
  refine .bindGet (.bindRequire (fun hr => ?_) (fun _ => rfl))
  apply hb.blit src
  have hl := hb.len
  have hs := hb.storage
  have hc := congrArg List.length hb.contents
  rw [SshBuffer.contents,length_take] at hc
  unfold sshBufferRemainingWrite SshBuffer.capacity at hr
  split_ifs at hr <;> omega

end

/-- What a reader of a full buffer has still before it. -/
structure SshBuffer.Unread (b : SshBuffer) (rest : Bytes) : Prop where
  len : b.len=b.data.length
  rest : b.data.drop b.pos=rest

lemma wrap_unread (storage : Bytes) : (sshBufferWrap storage).Unread storage :=
  ⟨rfl,rfl⟩

variable {b : SshBuffer} {a rest : Bytes}

lemma SshBuffer.Unread.remaining (hb : b.Unread rest) : sshBufferRemainingRead b=rest.length := by
  have hl := congrArg List.length hb.rest
  have hn := hb.len
  rw [length_drop] at hl
  unfold sshBufferRemainingRead
  split_ifs <;> omega

lemma getRaw_unread (hb : b.Unread (a++rest)) :
    ∃ c,(getRaw a.length).run b=(.ok a,c) ∧ c.Unread rest := by
  have hr : a.length ≤ sshBufferRemainingRead b := by
    rw [hb.remaining,length_append]
    omega
  refine ⟨{b with pos := b.pos+a.length},?_,hb.len,?_⟩
  · rw [getRaw,run_bind_ok (run_get b),run_bind_ok (run_require_of _ b hr),
      run_bind_ok (run_modify _ b),hb.rest,take_left' rfl]
    rfl
  change b.data.drop (b.pos+a.length)=rest
  rw [← drop_drop,hb.rest,drop_left' rfl]

lemma getU8_unread {x : UInt8} (hb : b.Unread (x::rest)) :
    ∃ c,sshBufferGetU8.run b=(.ok x,c) ∧ c.Unread rest := by
  obtain ⟨c,hc,hu⟩ := getRaw_unread (a := [x]) hb
  refine ⟨c,?_,hu⟩
  change (getRaw 1).run b=_ at hc
  rw [sshBufferGetU8,run_bind_ok hc]
  rfl

lemma getU32_unread (ha : a.length=4) (hb : b.Unread (a++rest)) :
    ∃ c,sshBufferGetU32.run b=(.ok (beValue a),c) ∧ c.Unread rest := by
  obtain ⟨c,hc,hu⟩ := getRaw_unread hb
  rw [ha] at hc
  refine ⟨c,?_,hu⟩
  rw [sshBufferGetU32,run_bind_ok hc]
  rfl

lemma getStringView_unread (ha : a.length<2^32) (hb : b.Unread (beBytes 4 a.length++(a++rest))) :
    ∃ c,sshBufferGetStringView.run b=(.ok (some a),c) ∧ c.Unread rest := by
  obtain ⟨c,hc,hu⟩ := getU32_unread (beBytes_length 4 a.length) hb
  obtain ⟨d,hd,hv⟩ := getRaw_unread hu
  rw [beValue_beBytes_of_lt 4 a.length (by omega)] at hc
  refine ⟨d,?_,hv⟩
  rw [sshBufferGetStringView,run_bind_ok hc,run_bind_ok hd]
  rfl

end EMSSHD
