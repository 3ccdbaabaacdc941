import EMSSHD.Math.Bytes

namespace EMSSHD

/-- The failure codes of ssh_status_t. SSH_OK is the ok side of a result. -/
inductive Err where
  | invalidArgument
  | bufferTooSmall
  | bufferOverflow
  | bufferUnderflow
  | malformedPacket
  | unsupported
  | platform
  | security
  | closed
  | notFound
  | alreadyExists
  | dirNotEmpty
  | readOnly
  deriving DecidableEq, Repr

def emsshMaxPacketSize : Nat := 35000
def emsshMaxPayloadSize : Nat := 32768
def emsshSftpMaxPacketSize : Nat := 131072

def emsshMaxCipherKey : Nat := 64
def emsshMaxCipherIv : Nat := 32
def emsshMaxMacKey : Nat := 64
def emsshMaxMac : Nat := 64
def emsshMaxKexPublicKey : Nat := 256
def emsshMaxHostKeyBlob : Nat := 512
def emsshMaxSignature : Nat := 512
def emsshMaxExchangeHash : Nat := 64
def uint32Max : Nat := 2^32-1

/-- ssh_string_view_t; none is the NULL view of a zeroed record. -/
abbrev StringView := Option Bytes

def cstr (s : String) : Bytes := s.toUTF8.data.toList
def viewEqualsCstr (view : StringView) (value : Bytes) : Bool := view=some value

end EMSSHD
