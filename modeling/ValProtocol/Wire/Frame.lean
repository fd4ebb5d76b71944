/-
  ValProtocol.Wire.Frame
  ──────────────────────
  The packet layer of `src/val_core.c`: what `val__internal_send_packet_core`
  puts on the wire (lines 718-866) and how `val_internal_recv_packet`
  interprets a complete frame (lines 880-1073).

  A frame is an 8-byte header, `content_len` bytes of content and a 4-byte
  CRC over both.  `Frame` is the header and content; `Frame.bytes` adds the
  trailer.  The content length of the C code is a `uint16_t`, so the content
  is the staged payload cut to its length modulo 2^16 (`cutContent`): below
  65536 nothing is lost, from there on the tail of the payload is.
-/
import ValProtocol.Wire.Crc32
import ValProtocol.Wire.Codec

namespace ValProtocol

open LittleEndian

/-! ## §1. Frames. -/

/-- A frame as it travels: header fields and content. -/
structure Frame where
  type : UInt8
  flags : UInt8
  typeData : Nat
  content : Bytes
  deriving Repr, DecidableEq

/-- `val_serialize_frame_header`. -/
def serializeFrameHeader (type flags : UInt8) (contentLen typeData : Nat) : Bytes :=
  type :: flags :: (putLe 2 contentLen ++ putLe 4 typeData)

/-- Header followed by content: what the trailer CRC covers. -/
def Frame.body (f : Frame) : Bytes :=
  serializeFrameHeader f.type f.flags f.content.length f.typeData ++ f.content

/-- The bytes handed to the transport. -/
def Frame.bytes (provider : Option CrcProvider) (f : Frame) : Bytes :=
  f.body ++ putLe 4 (internalCrc32 provider f.body).toNat

/-- `VAL_DATA_OFFSET_PRESENT`. -/
def dataOffsetPresent : UInt8 := 1
/-- `VAL_ACK_DONE_FILE`. -/
def ackDoneFile : UInt8 := 2
/-- `VAL_ACK_EOT`. -/
def ackEot : UInt8 := 4

/-! ## §2. Encoding. -/

/-- The content staged behind the header, before `content_len` cuts it. -/
def stageContent (type : PacketType) (payload : Bytes) (offset : Nat)
    (includeDataOffset : Bool) : Bytes :=
  match type with
  | .data => if includeDataOffset then putLe 8 offset ++ payload else payload
  | .dataAck | .doneAck | .eotAck =>
      -- low word in the header; the high word is only sent when nonzero
      if offset / 2 ^ 32 % 2 ^ 32 ≠ 0 then putLe 4 (offset / 2 ^ 32) else []
  | .dataNak =>
      let reason := if payload.length ≥ 4 then getLe (payload.take 4) else 1
      putLe 4 (offset / 2 ^ 32) ++ (putLe 4 reason ++ putLe 4 0)
  | _ => payload

/-- `content_len` is a `uint16_t`: only that many staged bytes are sent. -/
def cutContent (staged : Bytes) : Bytes := staged.take (staged.length % 2 ^ 16)

/-- The `flags` byte. -/
def frameFlags (type : PacketType) (includeDataOffset : Bool) : UInt8 :=
  match type with
  | .data => if includeDataOffset then dataOffsetPresent else 0
  | .doneAck => ackDoneFile
  | .eotAck => ackEot
  | _ => 0

/-- The `type_data` word: the low half of an acknowledged offset. -/
def frameTypeData (type : PacketType) (offset : Nat) : Nat :=
  match type with
  | .dataAck | .doneAck | .eotAck | .dataNak => offset % 2 ^ 32
  | _ => 0

/-- The frame the encoder builds. -/
def buildFrame (type : PacketType) (payload : Bytes) (offset : Nat)
    (includeDataOffset : Bool) : Frame where
  type := type.toByte
  flags := frameFlags type includeDataOffset
  typeData := frameTypeData type offset
  content := cutContent (stageContent type payload offset includeDataOffset)

/-- The encoder up to the transport call: the content must fit the MTU `P`. -/
def encodeFrame (P : Nat) (type : PacketType) (payload : Bytes) (offset : Nat)
    (includeDataOffset : Bool) : Except Status Frame :=
  let f := buildFrame type payload offset includeDataOffset
  if f.content.length > P - wireHeaderSize - wireTrailerSize then
    .error .invalidArg
  else .ok f

/-- The transport as the encoder sees it: `is_connected` (any nonzero answer
counts as connected) and the return value of `send`. -/
structure SendHooks where
  isConnected : Bool
  send : Bytes → Int

/-- `val__internal_send_packet_core`: the returned status and the bytes that
were handed to the transport. -/
def sendPacketCore (hooks : SendHooks) (provider : Option CrcProvider) (P : Nat)
    (type : PacketType) (payload : Bytes) (offset : Nat)
    (includeDataOffset : Bool) : Status × Bytes :=
  if hooks.isConnected = false then (.io, [])
  else
    match encodeFrame P type payload offset includeDataOffset with
    | .error st => (st, [])
    | .ok f =>
        let bytes := f.bytes provider
        if hooks.send bytes ≠ bytes.length then (.io, bytes) else (.ok, bytes)

/-! ## §3. Decoding a complete frame. -/

/-- What `val_internal_recv_packet` reports with `VAL_OK`. -/
structure Packet where
  type : PacketType
  payload : Bytes
  len : Nat
  off : Nat
  deriving Repr, DecidableEq

/-- The offset out-parameter.  For an explicit DATA frame with fewer than 8
content bytes the C code reads the missing ones from the stale receive
buffer; a caller with a buffer then gets `VAL_ERR_PROTOCOL`, and the callers
without one ignore DATA frames. -/
def frameOffset (f : Frame) : Nat :=
  match PacketType.ofByte f.type with
  | .data =>
      if f.flags &&& dataOffsetPresent != 0 then getLe (f.content.take 8)
      else uint64Max
  | .dataAck | .doneAck | .eotAck | .dataNak =>
      let high := if f.content.length ≥ 4 then getLe (f.content.take 4) else 0
      high * 2 ^ 32 + f.typeData
  | _ => 0

/-- Is the frame DATA with an explicit offset prefix? -/
def Frame.hasOffset (f : Frame) : Bool :=
  PacketType.ofByte f.type == .data && f.flags &&& dataOffsetPresent != 0

/-- `val_internal_recv_packet` on a frame whose CRC is right.  `out` is the
payload buffer: `none` for a NULL pointer, otherwise its capacity. -/
def recvFrame (P : Nat) (out : Option Nat) (f : Frame) : Except Status Packet :=
  let type := PacketType.ofByte f.type
  let off := frameOffset f
  -- the length check comes right after the header, before anything is copied
  if f.content.length > P - wireHeaderSize - wireTrailerSize then
    .error .protocol
  else
    match out with
    | none | some 0 => .ok ⟨type, [], f.content.length, off⟩
    | some cap =>
        if f.hasOffset then
          if f.content.length < 8 then .error .protocol
          else if f.content.length - 8 > cap then .error .invalidArg
          else .ok ⟨type, f.content.drop 8, f.content.length - 8, off⟩
        else if f.content.length > cap then .error .invalidArg
        else .ok ⟨type, f.content, f.content.length, off⟩

/-- A frame that is read whole is refused for its lengths only. -/
theorem recvFrame_refuses {P : Nat} {out : Option Nat} {f : Frame} {st : Status}
    (h : recvFrame P out f = .error st) : st = .protocol ∨ st = .invalidArg := by
  simp only [recvFrame] at h
  split at h
  · cases h
    exact Or.inl rfl
  split at h
  · cases h
  · cases h
  split at h
  · -- an offset field in front
    split at h
    · cases h
      exact Or.inl rfl
    split at h
    · cases h
      exact Or.inr rfl
    · cases h
  · split at h
    · cases h
      exact Or.inr rfl
    · cases h

/-! ## §4. Lengths and cuts. -/

@[simp] theorem serializeFrameHeader_length (t fl : UInt8) (n d : Nat) :
    (serializeFrameHeader t fl n d).length = 8 := by
  simp [serializeFrameHeader]

@[simp] theorem Frame.body_length (f : Frame) :
    f.body.length = 8 + f.content.length := by
  simp [Frame.body]

@[simp] theorem Frame.bytes_length (p : Option CrcProvider) (f : Frame) :
    (f.bytes p).length = 12 + f.content.length := by
  simp [Frame.bytes]; omega

@[simp] theorem cutContent_length (s : Bytes) :
    (cutContent s).length = s.length % 2 ^ 16 := by
  rw [cutContent, List.length_take]
  exact Nat.min_eq_left (Nat.mod_le _ _)

/-- Up to 65535 bytes nothing is cut. -/
theorem cutContent_of_lt {s : Bytes} (h : s.length < 2 ^ 16) : cutContent s = s := by
  rw [cutContent, Nat.mod_eq_of_lt h, List.take_length]

theorem cutContent_length_lt (s : Bytes) : (cutContent s).length < 2 ^ 16 := by
  rw [cutContent_length]
  exact Nat.mod_lt _ (by decide)

/-- The content of every frame the encoder builds fits the 16-bit field. -/
theorem buildFrame_content_lt (t : PacketType) (p : Bytes) (o : Nat) (i : Bool) :
    (buildFrame t p o i).content.length < 2 ^ 16 :=
  cutContent_length_lt _

theorem buildFrame_typeData_lt (t : PacketType) (p : Bytes) (o : Nat) (i : Bool) :
    (buildFrame t p o i).typeData < 2 ^ 32 := by
  have hmod : o % 2 ^ 32 < 2 ^ 32 := Nat.mod_lt _ (by decide)
  cases t <;> simp only [buildFrame, frameTypeData] <;> first | exact hmod | decide

end ValProtocol
