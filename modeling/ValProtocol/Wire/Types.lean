/-
  ValProtocol.Wire.Types
  ──────────────────────
  Constants and enumerations shared by the whole library
  (`include/val_protocol.h`, `include/val_errors.h`, `include/val_wire.h`).

  Integers that the C code keeps in `uint16_t`/`uint32_t`/`uint64_t` are
  `Nat` here; every place where the C code narrows or wraps writes the
  reduction out.
-/
import ValProtocol.Lib.LittleEndian

namespace ValProtocol

/-- A byte string: a buffer, a file's content or a C string without its NUL. -/
abbrev Bytes := List UInt8

/-! ## §1. Sizes and limits. -/

/-- `VAL_WIRE_HEADER_SIZE`. -/
def wireHeaderSize : Nat := 8
/-- `VAL_WIRE_TRAILER_SIZE`. -/
def wireTrailerSize : Nat := 4
/-- `VAL_WIRE_HANDSHAKE_SIZE`. -/
def wireHandshakeSize : Nat := 44
/-- `VAL_WIRE_META_SIZE`. -/
def wireMetaSize : Nat := 264
/-- `VAL_WIRE_RESUME_RESP_SIZE`. -/
def wireResumeRespSize : Nat := 24
/-- `VAL_WIRE_VERIFY_REQ_PAYLOAD_SIZE`. -/
def wireVerifyReqPayloadSize : Nat := 16
/-- `VAL_MIN_PACKET_SIZE`. -/
def minPacketSize : Nat := 512
/-- `VAL_MAX_PACKET_SIZE`. -/
def maxPacketSize : Nat := 2 * 1024 * 1024
/-- `VAL_MAX_FILENAME`. -/
def maxFilename : Nat := 127
/-- `VAL_MAX_PATH`. -/
def maxPath : Nat := 127
/-- `VAL_MAGIC`, the bytes `VAL\0`. -/
def magic : Nat := 0x56414C00
/-- `VAL_VERSION_MAJOR`. -/
def versionMajor : Nat := 0
/-- `VAL_VERSION_MINOR`. -/
def versionMinor : Nat := 7
/-- `UINT64_MAX`, the mark of a DATA frame without an offset and of a
skipped file. -/
def uint64Max : Nat := 2 ^ 64 - 1

/-! ## §2. Status codes. -/

/-- `val_status_t`.  `other` is a value outside the enumerators, which the
peer can put into a VERIFY response. -/
inductive Status where
  | ok
  | skipped
  | invalidArg
  | noMemory
  | io
  | timeout
  | protocol
  | crc
  | resumeVerify
  | incompatibleVersion
  | packetSizeMismatch
  | featureNegotiation
  | aborted
  | performance
  | other (code : Nat)
  deriving Repr, DecidableEq

/-- The value of a status in a 32-bit wire field (two's complement). -/
def Status.toWire : Status → Nat
  | .ok => 0
  | .skipped => 1
  | .invalidArg => 2 ^ 32 - 1
  | .noMemory => 2 ^ 32 - 2
  | .io => 2 ^ 32 - 3
  | .timeout => 2 ^ 32 - 4
  | .protocol => 2 ^ 32 - 5
  | .crc => 2 ^ 32 - 6
  | .resumeVerify => 2 ^ 32 - 7
  | .incompatibleVersion => 2 ^ 32 - 8
  | .packetSizeMismatch => 2 ^ 32 - 9
  | .featureNegotiation => 2 ^ 32 - 10
  | .aborted => 2 ^ 32 - 11
  | .performance => 2 ^ 32 - 15
  | .other code => code

/-- `(val_status_t)(int32_t)VAL_GET_LE32(buf)`. -/
def Status.ofWire (v : Nat) : Status :=
  ([.ok, .skipped, .invalidArg, .noMemory, .io, .timeout, .protocol, .crc,
    .resumeVerify, .incompatibleVersion, .packetSizeMismatch,
    .featureNegotiation, .aborted, .performance].find?
      (fun st => st.toWire == v)).getD (.other v)

/-! ## §3. Packet types. -/

/-- `val_packet_type_t` together with `VAL_PKT_CANCEL`; `unknown` is any
other type byte a frame can carry. -/
inductive PacketType where
  | hello
  | sendMeta
  | resumeReq
  | resumeResp
  | data
  | dataAck
  | verify
  | done
  | error
  | eot
  | eotAck
  | doneAck
  | dataNak
  | cancel
  | unknown (byte : UInt8)
  deriving Repr, DecidableEq

/-- `(uint8_t)type`. -/
def PacketType.toByte : PacketType → UInt8
  | .hello => 1
  | .sendMeta => 2
  | .resumeReq => 3
  | .resumeResp => 4
  | .data => 5
  | .dataAck => 6
  | .verify => 7
  | .done => 8
  | .error => 9
  | .eot => 10
  | .eotAck => 11
  | .doneAck => 12
  | .dataNak => 13
  | .cancel => 0x18
  | .unknown b => b

/-- `(val_packet_type_t)type_byte`. -/
def PacketType.ofByte (b : UInt8) : PacketType :=
  match b.toNat with
  | 1 => .hello
  | 2 => .sendMeta
  | 3 => .resumeReq
  | 4 => .resumeResp
  | 5 => .data
  | 6 => .dataAck
  | 7 => .verify
  | 8 => .done
  | 9 => .error
  | 10 => .eot
  | 11 => .eotAck
  | 12 => .doneAck
  | 13 => .dataNak
  | 0x18 => .cancel
  | _ => .unknown b

/-- The enumerators proper: what a caller of the encoder can pass. -/
def PacketType.isNamed : PacketType → Bool
  | .unknown _ => false
  | _ => true

/-- A named type survives the trip through its byte. -/
@[simp] theorem PacketType.ofByte_toByte {t : PacketType} (h : t.isNamed = true) :
    PacketType.ofByte t.toByte = t := by
  cases t <;> first | rfl | simp [PacketType.isNamed] at h

/-! ## §4. Resume and validation enumerations. -/

/-- `val_resume_mode_t`. -/
inductive ResumeMode where
  | never
  | skipExisting
  | tail
  deriving Repr, DecidableEq

/-- `val_resume_action_t`. -/
inductive ResumeAction where
  | startZero
  | startOffset
  | verifyFirst
  | skipFile
  | abortFile
  deriving Repr, DecidableEq

/-- `(uint32_t)action`. -/
def ResumeAction.toWire : ResumeAction → Nat
  | .startZero => 0
  | .startOffset => 1
  | .verifyFirst => 2
  | .skipFile => 3
  | .abortFile => 4

/-- The `switch (rr.action)` of the sender; `none` is its `default`. -/
def ResumeAction.ofWire : Nat → Option ResumeAction
  | 0 => some .startZero
  | 1 => some .startOffset
  | 2 => some .verifyFirst
  | 3 => some .skipFile
  | 4 => some .abortFile
  | _ => none

@[simp] theorem ResumeAction.ofWire_toWire (a : ResumeAction) :
    ResumeAction.ofWire a.toWire = some a := by
  cases a <;> rfl

/-- `val_validation_action_t`; `other` is any value outside the enum. -/
inductive ValidationAction where
  | accept
  | skip
  | abort
  | other (value : Int)
  deriving Repr, DecidableEq

end ValProtocol
