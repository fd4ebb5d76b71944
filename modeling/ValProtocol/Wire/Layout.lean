/-
  ValProtocol.Wire.Layout
  ───────────────────────
  `src/val_wire.c` lines 27-192 on the buffers it works on: each function
  stores or loads fields at positions numbered by hand, through the macros of
  `ByteOrder`, in the C types of `include/val_wire.h` and
  `include/val_protocol.h`.

    • `…Layout`  — what the documentation puts where,
    • `…_follows` — the two functions of a structure store and load exactly
      these fields,
    • `payload_codecs_exact` — every pair is inverse, byte for byte, in every
      build,
    • `…_eq` — on the wire these are the encoders and decoders of `Codec`.

  A `val_status_t` and a `val_resume_action_t` take 32 bits; the tests for
  null pointers are left out.
-/
import ValProtocol.Lib.Layouts
import ValProtocol.Wire.ByteOrder
import ValProtocol.Wire.Stream

namespace ValProtocol.Layout

open LittleEndian Layouts

/-- `VAL_WIRE_VERIFY_RESP_SIZE`. -/
def wireVerifyRespSize : Nat := 8
/-- `VAL_WIRE_ERROR_PAYLOAD_SIZE`. -/
def wireErrorPayloadSize : Nat := 8

/-! ## §1. The frame header. -/

/-- The four values of a frame header. -/
structure FrameHeader where
  type : UInt8
  flags : UInt8
  contentLen : UInt16
  typeData : UInt32
  deriving Repr, DecidableEq

/-- `val_serialize_frame_header`. -/
def serializeFrameHeader (t : Target) (h : FrameHeader) (wire : Memory UInt8) : Memory UInt8 :=
  let wire := wire.write 0 [h.type]
  let wire := wire.write 1 [h.flags]
  let wire := t.putLe16 wire 2 h.contentLen
  t.putLe32 wire 4 h.typeData

/-- `val_deserialize_frame_header`. -/
def deserializeFrameHeader (t : Target) (wire : Memory UInt8) : FrameHeader where
  type := wire 0
  flags := wire 1
  contentLen := t.getLe16 wire 2
  typeData := t.getLe32 wire 4

/-- The header comment of `val_wire.h`, lines 32-37.  The 24-byte header that
`docs/` still shows belongs to an older format. -/
def frameHeaderLayout (h : FrameHeader) : List (Slot UInt8) :=
  [⟨0, [h.type]⟩, ⟨1, [h.flags]⟩, ⟨2, putLe 2 h.contentLen.toNat⟩, ⟨4, putLe 4 h.typeData.toNat⟩]

def frameHeaderCodec : Codec Target FrameHeader UInt8 where
  size := wireHeaderSize
  encode := serializeFrameHeader
  decode := deserializeFrameHeader

theorem frameHeader_follows : frameHeaderCodec.Follows frameHeaderLayout id where
  tiles := by
    intro h
    simp [frameHeaderLayout, Tiles, frameHeaderCodec, wireHeaderSize]
  encode_eq := by
    intro t h wire
    simp [frameHeaderCodec, serializeFrameHeader, store, frameHeaderLayout]
  decode_eq := by
    intro t h wire hm
    simp only [frameHeaderLayout, holds_cons, putLe_length, List.length_singleton,
      Memory.read_one, List.cons.injEq, and_true] at hm
    obtain ⟨htype, hflags, hlen, hdata, -⟩ := hm
    show deserializeFrameHeader t wire = h
    rw [deserializeFrameHeader, htype, hflags, t.getLe16_of_read hlen, t.getLe32_of_read hdata]
  holds_decode := by
    intro t wire
    simp [frameHeaderCodec, deserializeFrameHeader, frameHeaderLayout]
  clear_local _ _ hw := hw

/-! ## §2. HELLO. -/

/-- `val_handshake_t`. -/
structure Handshake where
  magic : UInt32
  versionMajor : UInt8
  versionMinor : UInt8
  reserved : UInt16
  packetSize : UInt32
  features : UInt32
  required : UInt32
  requested : UInt32
  txMaxWindowPackets : UInt16
  rxMaxWindowPackets : UInt16
  ackStridePackets : UInt8
  reservedCapabilities : Vector UInt8 3
  supportedFeatures16 : UInt16
  requiredFeatures16 : UInt16
  requestedFeatures16 : UInt16
  reserved2 : UInt32
  deriving Repr, DecidableEq

/-- `val_serialize_handshake`. -/
def serializeHandshake (t : Target) (hs : Handshake) (wire : Memory UInt8) : Memory UInt8 :=
  let wire := t.putLe32 wire 0 hs.magic
  let wire := wire.write 4 [hs.versionMajor]
  let wire := wire.write 5 [hs.versionMinor]
  let wire := t.putLe16 wire 6 hs.reserved
  let wire := t.putLe32 wire 8 hs.packetSize
  let wire := t.putLe32 wire 12 hs.features
  let wire := t.putLe32 wire 16 hs.required
  let wire := t.putLe32 wire 20 hs.requested
  -- the flow-control capabilities, where the mode fields used to be
  let wire := t.putLe16 wire 24 hs.txMaxWindowPackets
  let wire := t.putLe16 wire 26 hs.rxMaxWindowPackets
  let wire := wire.write 28 [hs.ackStridePackets]
  let wire := wire.write 29 [hs.reservedCapabilities[0]]
  let wire := wire.write 30 [hs.reservedCapabilities[1]]
  let wire := wire.write 31 [hs.reservedCapabilities[2]]
  let wire := t.putLe16 wire 32 hs.supportedFeatures16
  let wire := t.putLe16 wire 34 hs.requiredFeatures16
  let wire := t.putLe16 wire 36 hs.requestedFeatures16
  -- padding in front of `reserved2`
  let wire := wire.write 38 [0]
  let wire := wire.write 39 [0]
  t.putLe32 wire 40 hs.reserved2

/-- `val_deserialize_handshake`. -/
def deserializeHandshake (t : Target) (wire : Memory UInt8) : Handshake where
  magic := t.getLe32 wire 0
  versionMajor := wire 4
  versionMinor := wire 5
  reserved := t.getLe16 wire 6
  packetSize := t.getLe32 wire 8
  features := t.getLe32 wire 12
  required := t.getLe32 wire 16
  requested := t.getLe32 wire 20
  txMaxWindowPackets := t.getLe16 wire 24
  rxMaxWindowPackets := t.getLe16 wire 26
  ackStridePackets := wire 28
  reservedCapabilities := #v[wire 29, wire 30, wire 31]
  supportedFeatures16 := t.getLe16 wire 32
  requiredFeatures16 := t.getLe16 wire 34
  requestedFeatures16 := t.getLe16 wire 36
  reserved2 := t.getLe32 wire 40

/-- The fields of `val_handshake_t` in their order, at their natural
alignment: bytes 38 and 39 belong to none. -/
def handshakeLayout (hs : Handshake) : List (Slot UInt8) :=
  [⟨0, putLe 4 hs.magic.toNat⟩, ⟨4, [hs.versionMajor]⟩, ⟨5, [hs.versionMinor]⟩,
   ⟨6, putLe 2 hs.reserved.toNat⟩, ⟨8, putLe 4 hs.packetSize.toNat⟩,
   ⟨12, putLe 4 hs.features.toNat⟩, ⟨16, putLe 4 hs.required.toNat⟩,
   ⟨20, putLe 4 hs.requested.toNat⟩, ⟨24, putLe 2 hs.txMaxWindowPackets.toNat⟩,
   ⟨26, putLe 2 hs.rxMaxWindowPackets.toNat⟩, ⟨28, [hs.ackStridePackets]⟩,
   ⟨29, [hs.reservedCapabilities[0]]⟩, ⟨30, [hs.reservedCapabilities[1]]⟩,
   ⟨31, [hs.reservedCapabilities[2]]⟩, ⟨32, putLe 2 hs.supportedFeatures16.toNat⟩,
   ⟨34, putLe 2 hs.requiredFeatures16.toNat⟩, ⟨36, putLe 2 hs.requestedFeatures16.toNat⟩,
   ⟨38, [0]⟩, ⟨39, [0]⟩, ⟨40, putLe 4 hs.reserved2.toNat⟩]

/-- The bytes in front of `reserved2` cleared. -/
def clearPadding (wire : Memory UInt8) : Memory UInt8 := wire.write 38 [0, 0]

def handshakeCodec : Codec Target Handshake UInt8 where
  size := wireHandshakeSize
  encode := serializeHandshake
  decode := deserializeHandshake

theorem handshake_follows : handshakeCodec.Follows handshakeLayout clearPadding where
  tiles := by
    intro hs
    simp [handshakeLayout, Tiles, handshakeCodec, wireHandshakeSize]
  encode_eq := by
    intro t hs wire
    simp [handshakeCodec, serializeHandshake, store, handshakeLayout]
  decode_eq := by
    intro t hs wire hm
    simp only [handshakeLayout, holds_cons, putLe_length, List.length_singleton,
      Memory.read_one, List.cons.injEq, and_true] at hm
    obtain ⟨hmagic, hmajor, hminor, hres, hsize, hfeat, hreq, hask, htx, hrx, hstride,
      hcap0, hcap1, hcap2, hsup16, hreq16, hask16, -, -, hres2, -⟩ := hm
    -- the array is filled byte by byte
    have hcaps : #v[wire 29, wire 30, wire 31] = hs.reservedCapabilities := by
      rw [hcap0, hcap1, hcap2]
      apply Vector.ext
      intro i hi
      match i, hi with
      | 0, _ => rfl
      | 1, _ => rfl
      | 2, _ => rfl
    show deserializeHandshake t wire = hs
    rw [deserializeHandshake, t.getLe32_of_read hmagic, hmajor, hminor, t.getLe16_of_read hres,
      t.getLe32_of_read hsize, t.getLe32_of_read hfeat, t.getLe32_of_read hreq,
      t.getLe32_of_read hask, t.getLe16_of_read htx, t.getLe16_of_read hrx, hstride, hcaps,
      t.getLe16_of_read hsup16, t.getLe16_of_read hreq16, t.getLe16_of_read hask16,
      t.getLe32_of_read hres2]
  holds_decode := by
    intro t wire
    -- the two cleared bytes are read by no field of the value
    have hbefore : ∀ a n, a + n ≤ 38 → (clearPadding wire).read a n = wire.read a n := by
      intro a n h
      exact wire.read_write_before h
    have hbehind : (clearPadding wire).read 40 4 = wire.read 40 4 :=
      wire.read_write_behind (by simp)
    show Holds (clearPadding wire) (handshakeLayout (deserializeHandshake t wire))
    simp only [handshakeLayout, deserializeHandshake, holds_cons, List.length_singleton,
      Target.putLe_getLe16, Target.putLe_getLe32, Memory.read_length]
    simp (disch := decide) only [hbefore, hbehind, Memory.read_one, true_and]
    exact ⟨rfl, rfl, rfl, rfl, rfl, holds_nil _⟩
  clear_local := by
    intro w w' hw
    exact Memory.read_write_congr 38 [0, 0] hw

/-! ## §3. SEND_META. -/

/-- `val_meta_payload_t`. -/
structure MetaPayload where
  filename : Vector UInt8 (maxFilename + 1)
  senderPath : Vector UInt8 (maxPath + 1)
  fileSize : UInt64
  deriving Repr, DecidableEq

/-- `val_serialize_meta`. -/
def serializeMeta (t : Target) (m : MetaPayload) (wire : Memory UInt8) : Memory UInt8 :=
  let wire := wire.write 0 m.filename.toList
  let wire := wire.write (maxFilename + 1) m.senderPath.toList
  t.putLe64 wire ((maxFilename + 1) + (maxPath + 1)) m.fileSize

/-- `val_deserialize_meta`. -/
def deserializeMeta (t : Target) (wire : Memory UInt8) : MetaPayload where
  filename := wire.readVector 0 (maxFilename + 1)
  senderPath := wire.readVector (maxFilename + 1) (maxPath + 1)
  fileSize := t.getLe64 wire ((maxFilename + 1) + (maxPath + 1))

/-- The fields of `val_meta_payload_t` in their order. -/
def metaLayout (m : MetaPayload) : List (Slot UInt8) :=
  [⟨0, m.filename.toList⟩, ⟨128, m.senderPath.toList⟩, ⟨256, putLe 8 m.fileSize.toNat⟩]

def metaCodec : Codec Target MetaPayload UInt8 where
  size := wireMetaSize
  encode := serializeMeta
  decode := deserializeMeta

theorem meta_follows : metaCodec.Follows metaLayout id where
  tiles := by
    intro m
    have hname : m.filename.toList.length = 128 := m.filename.length_toList
    have hpath : m.senderPath.toList.length = 128 := m.senderPath.length_toList
    simp [metaLayout, Tiles, metaCodec, wireMetaSize, hname, hpath]
  encode_eq := by
    intro t m wire
    simp [metaCodec, serializeMeta, store, metaLayout, maxFilename, maxPath]
  decode_eq := by
    intro t m wire hm
    simp only [metaLayout, holds_cons, putLe_length, Vector.length_toList] at hm
    obtain ⟨hname, hpath, hsize, -⟩ := hm
    have hname' : wire.readVector 0 (maxFilename + 1) = m.filename :=
      Memory.readVector_eq hname
    have hpath' : wire.readVector (maxFilename + 1) (maxPath + 1) = m.senderPath :=
      Memory.readVector_eq hpath
    have hsize' : t.getLe64 wire ((maxFilename + 1) + (maxPath + 1)) = m.fileSize :=
      t.getLe64_of_read hsize
    show deserializeMeta t wire = m
    rw [deserializeMeta, hname', hpath', hsize']
  holds_decode := by
    intro t wire
    simp [metaCodec, deserializeMeta, metaLayout, maxFilename, maxPath]
  clear_local _ _ hw := hw

/-! ## §4. RESUME_RESP. -/

/-- `val_resume_resp_t`. -/
structure ResumeResp where
  action : UInt32
  resumeOffset : UInt64
  verifyCrc : UInt32
  verifyLength : UInt64
  deriving Repr, DecidableEq

/-- `val_serialize_resume_resp`. -/
def serializeResumeResp (t : Target) (r : ResumeResp) (wire : Memory UInt8) : Memory UInt8 :=
  let wire := t.putLe32 wire 0 r.action
  let wire := t.putLe64 wire 4 r.resumeOffset
  let wire := t.putLe32 wire 12 r.verifyCrc
  t.putLe64 wire 16 r.verifyLength

/-- `val_deserialize_resume_resp`. -/
def deserializeResumeResp (t : Target) (wire : Memory UInt8) : ResumeResp where
  action := t.getLe32 wire 0
  resumeOffset := t.getLe64 wire 4
  verifyCrc := t.getLe32 wire 12
  verifyLength := t.getLe64 wire 16

/-- The fields of `val_resume_resp_t` in their order, packed. -/
def resumeRespLayout (r : ResumeResp) : List (Slot UInt8) :=
  [⟨0, putLe 4 r.action.toNat⟩, ⟨4, putLe 8 r.resumeOffset.toNat⟩,
   ⟨12, putLe 4 r.verifyCrc.toNat⟩, ⟨16, putLe 8 r.verifyLength.toNat⟩]

def resumeRespCodec : Codec Target ResumeResp UInt8 where
  size := wireResumeRespSize
  encode := serializeResumeResp
  decode := deserializeResumeResp

theorem resumeResp_follows : resumeRespCodec.Follows resumeRespLayout id where
  tiles := by
    intro r
    simp [resumeRespLayout, Tiles, resumeRespCodec, wireResumeRespSize]
  encode_eq := by
    intro t r wire
    simp [resumeRespCodec, serializeResumeResp, store, resumeRespLayout]
  decode_eq := by
    intro t r wire hm
    simp only [resumeRespLayout, holds_cons, putLe_length] at hm
    obtain ⟨haction, hoff, hcrc, hlen, -⟩ := hm
    show deserializeResumeResp t wire = r
    rw [deserializeResumeResp, t.getLe32_of_read haction, t.getLe64_of_read hoff,
      t.getLe32_of_read hcrc, t.getLe64_of_read hlen]
  holds_decode := by
    intro t wire
    simp [resumeRespCodec, deserializeResumeResp, resumeRespLayout]
  clear_local _ _ hw := hw

/-! ## §5. VERIFY request and response. -/

/-- The three values of a VERIFY request. -/
structure VerifyRequest where
  offset : UInt64
  crc : UInt32
  length : UInt32
  deriving Repr, DecidableEq

/-- `val_serialize_verify_request`. -/
def serializeVerifyRequest (t : Target) (v : VerifyRequest) (wire : Memory UInt8) :
    Memory UInt8 :=
  let wire := t.putLe64 wire 0 v.offset
  let wire := t.putLe32 wire 8 v.crc
  t.putLe32 wire 12 v.length

/-- `val_deserialize_verify_request`. -/
def deserializeVerifyRequest (t : Target) (wire : Memory UInt8) : VerifyRequest where
  offset := t.getLe64 wire 0
  crc := t.getLe32 wire 8
  length := t.getLe32 wire 12

/-- `offset(8) + crc(4) + length(4)`, `val_wire.h` line 24. -/
def verifyRequestLayout (v : VerifyRequest) : List (Slot UInt8) :=
  [⟨0, putLe 8 v.offset.toNat⟩, ⟨8, putLe 4 v.crc.toNat⟩, ⟨12, putLe 4 v.length.toNat⟩]

def verifyRequestCodec : Codec Target VerifyRequest UInt8 where
  size := wireVerifyReqPayloadSize
  encode := serializeVerifyRequest
  decode := deserializeVerifyRequest

theorem verifyRequest_follows : verifyRequestCodec.Follows verifyRequestLayout id where
  tiles := by
    intro v
    simp [verifyRequestLayout, Tiles, verifyRequestCodec, wireVerifyReqPayloadSize]
  encode_eq := by
    intro t v wire
    simp [verifyRequestCodec, serializeVerifyRequest, store, verifyRequestLayout]
  decode_eq := by
    intro t v wire hm
    simp only [verifyRequestLayout, holds_cons, putLe_length] at hm
    obtain ⟨hoff, hcrc, hlen, -⟩ := hm
    show deserializeVerifyRequest t wire = v
    rw [deserializeVerifyRequest, t.getLe64_of_read hoff, t.getLe32_of_read hcrc,
      t.getLe32_of_read hlen]
  holds_decode := by
    intro t wire
    simp [verifyRequestCodec, deserializeVerifyRequest, verifyRequestLayout]
  clear_local _ _ hw := hw

/-- The two values of a VERIFY response. -/
structure VerifyResponse where
  result : Int32
  receiverCrc : UInt32
  deriving Repr, DecidableEq

/-- `val_serialize_verify_response`. -/
def serializeVerifyResponse (t : Target) (v : VerifyResponse) (wire : Memory UInt8) :
    Memory UInt8 :=
  let wire := t.putLe32 wire 0 v.result.toUInt32
  t.putLe32 wire 4 v.receiverCrc

/-- `val_deserialize_verify_response`. -/
def deserializeVerifyResponse (t : Target) (wire : Memory UInt8) : VerifyResponse where
  -- the same 32 bits, now with a sign
  result := (t.getLe32 wire 0).toInt32
  receiverCrc := t.getLe32 wire 4

/-- `status(4) + receiver_crc(4)`, `val_wire.h` line 25. -/
def verifyResponseLayout (v : VerifyResponse) : List (Slot UInt8) :=
  [⟨0, putLe 4 v.result.toUInt32.toNat⟩, ⟨4, putLe 4 v.receiverCrc.toNat⟩]

def verifyResponseCodec : Codec Target VerifyResponse UInt8 where
  size := wireVerifyRespSize
  encode := serializeVerifyResponse
  decode := deserializeVerifyResponse

theorem verifyResponse_follows : verifyResponseCodec.Follows verifyResponseLayout id where
  tiles := by
    intro v
    simp [verifyResponseLayout, Tiles, verifyResponseCodec, wireVerifyRespSize]
  encode_eq := by
    intro t v wire
    simp [verifyResponseCodec, serializeVerifyResponse, store, verifyResponseLayout]
  decode_eq := by
    intro t v wire hm
    simp only [verifyResponseLayout, holds_cons, putLe_length] at hm
    obtain ⟨hresult, hcrc, -⟩ := hm
    show deserializeVerifyResponse t wire = v
    rw [deserializeVerifyResponse, t.getLe32_of_read hresult, t.getLe32_of_read hcrc,
      Int32.toInt32_toUInt32]
  holds_decode := by
    intro t wire
    simp [verifyResponseCodec, deserializeVerifyResponse, verifyResponseLayout]
  clear_local _ _ hw := hw

/-! ## §6. ERROR. -/

/-- `val_error_payload_t`. -/
structure ErrorPayload where
  code : Int32
  detail : UInt32
  deriving Repr, DecidableEq

/-- `val_serialize_error_payload`. -/
def serializeErrorPayload (t : Target) (p : ErrorPayload) (wire : Memory UInt8) :
    Memory UInt8 :=
  let wire := t.putLe32 wire 0 p.code.toUInt32
  t.putLe32 wire 4 p.detail

/-- `val_deserialize_error_payload`. -/
def deserializeErrorPayload (t : Target) (wire : Memory UInt8) : ErrorPayload where
  code := (t.getLe32 wire 0).toInt32
  detail := t.getLe32 wire 4

/-- The fields of `val_error_payload_t` in their order. -/
def errorPayloadLayout (p : ErrorPayload) : List (Slot UInt8) :=
  [⟨0, putLe 4 p.code.toUInt32.toNat⟩, ⟨4, putLe 4 p.detail.toNat⟩]

def errorPayloadCodec : Codec Target ErrorPayload UInt8 where
  size := wireErrorPayloadSize
  encode := serializeErrorPayload
  decode := deserializeErrorPayload

theorem errorPayload_follows : errorPayloadCodec.Follows errorPayloadLayout id where
  tiles := by
    intro p
    simp [errorPayloadLayout, Tiles, errorPayloadCodec, wireErrorPayloadSize]
  encode_eq := by
    intro t p wire
    simp [errorPayloadCodec, serializeErrorPayload, store, errorPayloadLayout]
  decode_eq := by
    intro t p wire hm
    simp only [errorPayloadLayout, holds_cons, putLe_length] at hm
    obtain ⟨hcode, hdetail, -⟩ := hm
    show deserializeErrorPayload t wire = p
    rw [deserializeErrorPayload, t.getLe32_of_read hcode, t.getLe32_of_read hdetail,
      Int32.toInt32_toUInt32]
  holds_decode := by
    intro t wire
    simp [errorPayloadCodec, deserializeErrorPayload, errorPayloadLayout]
  clear_local _ _ hw := hw

/-! ## §7. Every structure. -/

/-- **The payload codecs are inverse and layout-exact**, in every build. -/
theorem payload_codecs_exact :
    frameHeaderCodec.Exact frameHeaderLayout id
    ∧ handshakeCodec.Exact handshakeLayout clearPadding
    ∧ metaCodec.Exact metaLayout id
    ∧ resumeRespCodec.Exact resumeRespLayout id
    ∧ verifyRequestCodec.Exact verifyRequestLayout id
    ∧ verifyResponseCodec.Exact verifyResponseLayout id
    ∧ errorPayloadCodec.Exact errorPayloadLayout id :=
  ⟨frameHeader_follows.exact, handshake_follows.exact, meta_follows.exact,
   resumeResp_follows.exact, verifyRequest_follows.exact, verifyResponse_follows.exact,
   errorPayload_follows.exact⟩

/-- The error payload of the endianness test, sent by a big-endian machine. -/
example : (serializeErrorPayload ⟨.big, .bigEndian, by decide⟩ ⟨-7, 0xABCDEF12⟩
      (fun _ => 0)).read 0 8 = [0xF9, 0xFF, 0xFF, 0xFF, 0x12, 0xEF, 0xCD, 0xAB] := by
  decide

/-! ## §8. The encoders and decoders of `Codec`. -/

/-- A field of the bytes at the start of a buffer. -/
theorem slice_read (wire : Memory UInt8) {k j n : Nat} (h : k + j ≤ n) :
    slice k j (wire.read 0 n) = wire.read k j := by
  rw [slice, wire.read_part h, Nat.zero_add]

theorem serializeFrameHeader_eq (t : Target) (h : FrameHeader) (wire : Memory UInt8) :
    serializeFrameHeader t h wire
      = wire.write 0 (ValProtocol.serializeFrameHeader h.type h.flags h.contentLen.toNat
          h.typeData.toNat) := by
  have hblock : block (frameHeaderLayout h)
      = ValProtocol.serializeFrameHeader h.type h.flags h.contentLen.toNat h.typeData.toNat := by
    simp [block, frameHeaderLayout, ValProtocol.serializeFrameHeader]
  exact frameHeader_follows.encode_bytes t hblock wire

/-- The header of a frame as it is read. -/
theorem deserializeFrameHeader_eq (t : Target) (wire : Memory UInt8) (content : Bytes) :
    let h := deserializeFrameHeader t wire
    Frame.ofParts (wire.read 0 wireHeaderSize) content
        = ⟨h.type, h.flags, h.typeData.toNat, content⟩
      ∧ getLe (slice 2 2 (wire.read 0 wireHeaderSize)) = h.contentLen.toNat := by
  have hlen : slice 2 2 (wire.read 0 wireHeaderSize) = wire.read 2 2 :=
    slice_read wire (by decide)
  have hdata : slice 4 4 (wire.read 0 wireHeaderSize) = wire.read 4 4 :=
    slice_read wire (by decide)
  refine ⟨?_, ?_⟩
  · rw [Frame.ofParts, hdata, ← t.getLe32_toNat]
    rfl
  · rw [hlen, ← t.getLe16_toNat]
    rfl

/-- The numbers in the fields; the three reserved bytes are one number. -/
def Handshake.nat (hs : Handshake) : ValProtocol.Handshake where
  magic := hs.magic.toNat
  versionMajor := hs.versionMajor.toNat
  versionMinor := hs.versionMinor.toNat
  reserved := hs.reserved.toNat
  packetSize := hs.packetSize.toNat
  features := hs.features.toNat
  required := hs.required.toNat
  requested := hs.requested.toNat
  txMaxWindowPackets := hs.txMaxWindowPackets.toNat
  rxMaxWindowPackets := hs.rxMaxWindowPackets.toNat
  ackStridePackets := hs.ackStridePackets.toNat
  reservedCapabilities := getLe hs.reservedCapabilities.toList
  supportedFeatures16 := hs.supportedFeatures16.toNat
  requiredFeatures16 := hs.requiredFeatures16.toNat
  requestedFeatures16 := hs.requestedFeatures16.toNat
  reserved2 := hs.reserved2.toNat

theorem Handshake.reserved_bytes (hs : Handshake) :
    putLe 3 (getLe hs.reservedCapabilities.toList)
      = [hs.reservedCapabilities[0], hs.reservedCapabilities[1], hs.reservedCapabilities[2]] := by
  have hlen : hs.reservedCapabilities.toList.length = 3 := Vector.length_toList
  have hput := putLe_getLe hs.reservedCapabilities.toList
  rw [hlen] at hput
  rw [hput]
  apply List.ext_getElem hlen
  intro i _ hi
  match i, hi with
  | 0, _ => rfl
  | 1, _ => rfl
  | 2, _ => rfl

theorem serializeHandshake_eq (t : Target) (hs : Handshake) (wire : Memory UInt8) :
    serializeHandshake t hs wire = wire.write 0 (ValProtocol.serializeHandshake hs.nat) := by
  have hpad : putLe 2 0 = [0, 0] := rfl
  have hblock : block (handshakeLayout hs) = ValProtocol.serializeHandshake hs.nat := by
    simp [block, handshakeLayout, ValProtocol.serializeHandshake, Handshake.nat,
      hs.reserved_bytes, hpad]
  exact handshake_follows.encode_bytes t hblock wire

theorem deserializeHandshake_eq (t : Target) (wire : Memory UInt8) :
    (deserializeHandshake t wire).nat
      = ValProtocol.deserializeHandshake (wire.read 0 wireHandshakeSize) := by
  simp (disch := decide) only [ValProtocol.deserializeHandshake, slice_read]
  simp only [deserializeHandshake, Handshake.nat, Target.getLe16_toNat, Target.getLe32_toNat,
    Memory.read_one, getLe_one]
  rfl

/-- The numbers in the fields. -/
def MetaPayload.nat (m : MetaPayload) : ValProtocol.MetaPayload where
  filename := m.filename.toList
  senderPath := m.senderPath.toList
  fileSize := m.fileSize.toNat

theorem serializeMeta_eq (t : Target) (m : MetaPayload) (wire : Memory UInt8) :
    serializeMeta t m wire = wire.write 0 (ValProtocol.serializeMeta m.nat) := by
  have hblock : block (metaLayout m) = ValProtocol.serializeMeta m.nat := by
    simp [block, metaLayout, ValProtocol.serializeMeta, MetaPayload.nat]
  exact meta_follows.encode_bytes t hblock wire

theorem deserializeMeta_eq (t : Target) (wire : Memory UInt8) :
    (deserializeMeta t wire).nat = ValProtocol.deserializeMeta (wire.read 0 wireMetaSize) := by
  simp (disch := decide) only [ValProtocol.deserializeMeta, slice_read]
  simp only [deserializeMeta, MetaPayload.nat, Target.getLe64_toNat, Memory.readVector_toList]

/-- The numbers in the fields. -/
def ResumeResp.nat (r : ResumeResp) : ValProtocol.ResumeResp where
  action := r.action.toNat
  resumeOffset := r.resumeOffset.toNat
  verifyCrc := r.verifyCrc.toNat
  verifyLength := r.verifyLength.toNat

theorem serializeResumeResp_eq (t : Target) (r : ResumeResp) (wire : Memory UInt8) :
    serializeResumeResp t r wire = wire.write 0 (ValProtocol.serializeResumeResp r.nat) := by
  have hblock : block (resumeRespLayout r) = ValProtocol.serializeResumeResp r.nat := by
    simp [block, resumeRespLayout, ValProtocol.serializeResumeResp, ResumeResp.nat]
  exact resumeResp_follows.encode_bytes t hblock wire

theorem deserializeResumeResp_eq (t : Target) (wire : Memory UInt8) :
    (deserializeResumeResp t wire).nat
      = ValProtocol.deserializeResumeResp (wire.read 0 wireResumeRespSize) := by
  simp (disch := decide) only [ValProtocol.deserializeResumeResp, slice_read]
  simp only [deserializeResumeResp, ResumeResp.nat, Target.getLe32_toNat, Target.getLe64_toNat]

/-- The numbers in the fields. -/
def VerifyRequest.nat (v : VerifyRequest) : ValProtocol.VerifyRequest where
  offset := v.offset.toNat
  crc := v.crc.toNat
  length := v.length.toNat

theorem serializeVerifyRequest_eq (t : Target) (v : VerifyRequest) (wire : Memory UInt8) :
    serializeVerifyRequest t v wire = wire.write 0 (ValProtocol.serializeVerifyRequest v.nat) := by
  have hblock : block (verifyRequestLayout v) = ValProtocol.serializeVerifyRequest v.nat := by
    simp [block, verifyRequestLayout, ValProtocol.serializeVerifyRequest, VerifyRequest.nat]
  exact verifyRequest_follows.encode_bytes t hblock wire

theorem deserializeVerifyRequest_eq (t : Target) (wire : Memory UInt8) :
    (deserializeVerifyRequest t wire).nat
      = ValProtocol.deserializeVerifyRequest (wire.read 0 wireVerifyReqPayloadSize) := by
  simp (disch := decide) only [ValProtocol.deserializeVerifyRequest, slice_read]
  simp only [deserializeVerifyRequest, VerifyRequest.nat, Target.getLe32_toNat,
    Target.getLe64_toNat]

/-- A status as the C enumeration holds it. -/
def statusWord (st : Status) : Int32 := (UInt32.ofNat st.toWire).toInt32

theorem statusWord_toNat {st : Status} (h : st.toWire < 2 ^ 32) :
    (statusWord st).toUInt32.toNat = st.toWire := by
  rw [statusWord, UInt32.toUInt32_toInt32, UInt32.toNat_ofNat_of_lt' h]

theorem serializeVerifyResponse_eq (t : Target) {st : Status} (h : st.toWire < 2 ^ 32)
    (crc : UInt32) (wire : Memory UInt8) :
    serializeVerifyResponse t ⟨statusWord st, crc⟩ wire
      = wire.write 0 (ValProtocol.serializeVerifyResponse st crc.toNat) := by
  have hblock : block (verifyResponseLayout ⟨statusWord st, crc⟩)
      = ValProtocol.serializeVerifyResponse st crc.toNat := by
    simp [block, verifyResponseLayout, ValProtocol.serializeVerifyResponse, statusWord_toNat h]
  exact verifyResponse_follows.encode_bytes t hblock wire

theorem serializeErrorPayload_eq (t : Target) {code : Status} (h : code.toWire < 2 ^ 32)
    (detail : UInt32) (wire : Memory UInt8) :
    serializeErrorPayload t ⟨statusWord code, detail⟩ wire
      = wire.write 0 (ValProtocol.serializeErrorPayload code detail.toNat) := by
  have hblock : block (errorPayloadLayout ⟨statusWord code, detail⟩)
      = ValProtocol.serializeErrorPayload code detail.toNat := by
    simp [block, errorPayloadLayout, ValProtocol.serializeErrorPayload, statusWord_toNat h]
  exact errorPayload_follows.encode_bytes t hblock wire

end ValProtocol.Layout
