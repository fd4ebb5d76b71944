/-
  ValProtocol.Wire.Codec
  ──────────────────────
  The payload encoders and decoders of `src/val_wire.c`.

  Every structure is written as the concatenation of its little-endian
  fields and read back by position, as the C code does.  The round trips
  (`deserialize… (serialize… x) = x`) hold whenever each field fits its
  wire width.
-/
import ValProtocol.Wire.Types

namespace ValProtocol

open LittleEndian

/-! ## §1. HELLO. -/

/-- `val_handshake_t`. -/
structure Handshake where
  magic : Nat
  versionMajor : Nat
  versionMinor : Nat
  reserved : Nat
  packetSize : Nat
  features : Nat
  required : Nat
  requested : Nat
  txMaxWindowPackets : Nat
  rxMaxWindowPackets : Nat
  ackStridePackets : Nat
  reservedCapabilities : Nat
  supportedFeatures16 : Nat
  requiredFeatures16 : Nat
  requestedFeatures16 : Nat
  reserved2 : Nat
  deriving Repr, DecidableEq

/-- Every field fits its wire width (what the C types guarantee). -/
structure Handshake.Fits (h : Handshake) : Prop where
  magic : h.magic < 256 ^ 4
  versionMajor : h.versionMajor < 256 ^ 1
  versionMinor : h.versionMinor < 256 ^ 1
  reserved : h.reserved < 256 ^ 2
  packetSize : h.packetSize < 256 ^ 4
  features : h.features < 256 ^ 4
  required : h.required < 256 ^ 4
  requested : h.requested < 256 ^ 4
  txMaxWindowPackets : h.txMaxWindowPackets < 256 ^ 2
  rxMaxWindowPackets : h.rxMaxWindowPackets < 256 ^ 2
  ackStridePackets : h.ackStridePackets < 256 ^ 1
  reservedCapabilities : h.reservedCapabilities < 256 ^ 3
  supportedFeatures16 : h.supportedFeatures16 < 256 ^ 2
  requiredFeatures16 : h.requiredFeatures16 < 256 ^ 2
  requestedFeatures16 : h.requestedFeatures16 < 256 ^ 2
  reserved2 : h.reserved2 < 256 ^ 4

/-- `val_serialize_handshake`; bytes 38 and 39 are zero padding.  The three
`reserved_capabilities` bytes are one 24-bit field here. -/
def serializeHandshake (h : Handshake) : Bytes :=
  putLe 4 h.magic ++ (putLe 1 h.versionMajor ++ (putLe 1 h.versionMinor ++
  (putLe 2 h.reserved ++ (putLe 4 h.packetSize ++ (putLe 4 h.features ++
  (putLe 4 h.required ++ (putLe 4 h.requested ++
  (putLe 2 h.txMaxWindowPackets ++ (putLe 2 h.rxMaxWindowPackets ++
  (putLe 1 h.ackStridePackets ++ (putLe 3 h.reservedCapabilities ++
  (putLe 2 h.supportedFeatures16 ++ (putLe 2 h.requiredFeatures16 ++
  (putLe 2 h.requestedFeatures16 ++ (putLe 2 0 ++
  putLe 4 h.reserved2)))))))))))))))

/-- `val_deserialize_handshake`. -/
def deserializeHandshake (w : Bytes) : Handshake where
  magic := getLe (slice 0 4 w)
  versionMajor := getLe (slice 4 1 w)
  versionMinor := getLe (slice 5 1 w)
  reserved := getLe (slice 6 2 w)
  packetSize := getLe (slice 8 4 w)
  features := getLe (slice 12 4 w)
  required := getLe (slice 16 4 w)
  requested := getLe (slice 20 4 w)
  txMaxWindowPackets := getLe (slice 24 2 w)
  rxMaxWindowPackets := getLe (slice 26 2 w)
  ackStridePackets := getLe (slice 28 1 w)
  reservedCapabilities := getLe (slice 29 3 w)
  supportedFeatures16 := getLe (slice 32 2 w)
  requiredFeatures16 := getLe (slice 34 2 w)
  requestedFeatures16 := getLe (slice 36 2 w)
  reserved2 := getLe (slice 40 4 w)

@[simp] theorem serializeHandshake_length (h : Handshake) :
    (serializeHandshake h).length = wireHandshakeSize := by
  simp [serializeHandshake, wireHandshakeSize]

theorem deserialize_serializeHandshake {h : Handshake} (hf : h.Fits) :
    deserializeHandshake (serializeHandshake h) = h := by
  obtain ⟨h1, h2, h3, h4, h5, h6, h7, h8, h9, h10, h11, h12, h13, h14, h15, h16⟩ := hf
  cases h
  simp only [deserializeHandshake, serializeHandshake]
  simp (disch := simp) only [slice_skip, slice_here, slice_all, putLe_length,
    Nat.reduceSub, getLe_putLe]
  simp only [Nat.mod_eq_of_lt h1, Nat.mod_eq_of_lt h2, Nat.mod_eq_of_lt h3,
    Nat.mod_eq_of_lt h4, Nat.mod_eq_of_lt h5, Nat.mod_eq_of_lt h6,
    Nat.mod_eq_of_lt h7, Nat.mod_eq_of_lt h8, Nat.mod_eq_of_lt h9,
    Nat.mod_eq_of_lt h10, Nat.mod_eq_of_lt h11, Nat.mod_eq_of_lt h12,
    Nat.mod_eq_of_lt h13, Nat.mod_eq_of_lt h14, Nat.mod_eq_of_lt h15,
    Nat.mod_eq_of_lt h16]

/-! ## §2. SEND_META. -/

/-- `val_meta_payload_t`: two 128-byte string fields and the size. -/
structure MetaPayload where
  filename : Bytes
  senderPath : Bytes
  fileSize : Nat
  deriving Repr, DecidableEq

/-- The string fields have their array sizes, the size its 64 bits. -/
structure MetaPayload.Fits (m : MetaPayload) : Prop where
  filename : m.filename.length = maxFilename + 1
  senderPath : m.senderPath.length = maxPath + 1
  fileSize : m.fileSize < 256 ^ 8

/-- `val_serialize_meta`. -/
def serializeMeta (m : MetaPayload) : Bytes :=
  m.filename ++ (m.senderPath ++ putLe 8 m.fileSize)

/-- `val_deserialize_meta`. -/
def deserializeMeta (w : Bytes) : MetaPayload where
  filename := slice 0 (maxFilename + 1) w
  senderPath := slice (maxFilename + 1) (maxPath + 1) w
  fileSize := getLe (slice ((maxFilename + 1) + (maxPath + 1)) 8 w)

theorem serializeMeta_length {m : MetaPayload} (hf : m.Fits) :
    (serializeMeta m).length = wireMetaSize := by
  simp [serializeMeta, hf.filename, hf.senderPath, maxFilename, maxPath, wireMetaSize]

theorem deserialize_serializeMeta {m : MetaPayload} (hf : m.Fits) :
    deserializeMeta (serializeMeta m) = m := by
  obtain ⟨hn, hp, hs⟩ := hf
  have hname : slice 0 (maxFilename + 1) (serializeMeta m) = m.filename :=
    slice_here hn
  have hpath : slice (maxFilename + 1) (maxPath + 1) (serializeMeta m)
      = m.senderPath := by
    rw [serializeMeta, slice_skip (le_of_eq hn), hn, Nat.sub_self, slice_here hp]
  have hsize : slice ((maxFilename + 1) + (maxPath + 1)) 8 (serializeMeta m)
      = putLe 8 m.fileSize := by
    rw [serializeMeta, slice_skip (by omega), hn, Nat.add_sub_cancel_left,
        slice_skip (le_of_eq hp), hp, Nat.sub_self, slice_all (putLe_length _ _)]
  cases m
  simp only [deserializeMeta, hname, hpath, hsize, getLe_putLe_of_lt hs]

/-! ## §3. RESUME_RESP. -/

/-- `val_resume_resp_t`; the action is kept as its wire number. -/
structure ResumeResp where
  action : Nat
  resumeOffset : Nat
  verifyCrc : Nat
  verifyLength : Nat
  deriving Repr, DecidableEq

/-- Every field fits its wire width. -/
structure ResumeResp.Fits (r : ResumeResp) : Prop where
  action : r.action < 256 ^ 4
  resumeOffset : r.resumeOffset < 256 ^ 8
  verifyCrc : r.verifyCrc < 256 ^ 4
  verifyLength : r.verifyLength < 256 ^ 8

/-- `val_serialize_resume_resp`. -/
def serializeResumeResp (r : ResumeResp) : Bytes :=
  putLe 4 r.action ++ (putLe 8 r.resumeOffset ++ (putLe 4 r.verifyCrc ++
  putLe 8 r.verifyLength))

/-- `val_deserialize_resume_resp`. -/
def deserializeResumeResp (w : Bytes) : ResumeResp where
  action := getLe (slice 0 4 w)
  resumeOffset := getLe (slice 4 8 w)
  verifyCrc := getLe (slice 12 4 w)
  verifyLength := getLe (slice 16 8 w)

@[simp] theorem serializeResumeResp_length (r : ResumeResp) :
    (serializeResumeResp r).length = wireResumeRespSize := by
  simp [serializeResumeResp, wireResumeRespSize]

theorem deserialize_serializeResumeResp {r : ResumeResp} (hf : r.Fits) :
    deserializeResumeResp (serializeResumeResp r) = r := by
  obtain ⟨h1, h2, h3, h4⟩ := hf
  cases r
  simp only [deserializeResumeResp, serializeResumeResp]
  simp (disch := simp) only [slice_skip, slice_here, slice_all, putLe_length,
    Nat.reduceSub, getLe_putLe]
  simp only [Nat.mod_eq_of_lt h1, Nat.mod_eq_of_lt h2, Nat.mod_eq_of_lt h3,
    Nat.mod_eq_of_lt h4]

/-! ## §4. VERIFY request and response. -/

/-- The three values of a VERIFY request. -/
structure VerifyRequest where
  offset : Nat
  crc : Nat
  length : Nat
  deriving Repr, DecidableEq

/-- Every field fits its wire width. -/
structure VerifyRequest.Fits (v : VerifyRequest) : Prop where
  offset : v.offset < 256 ^ 8
  crc : v.crc < 256 ^ 4
  length : v.length < 256 ^ 4

/-- `val_serialize_verify_request`. -/
def serializeVerifyRequest (v : VerifyRequest) : Bytes :=
  putLe 8 v.offset ++ (putLe 4 v.crc ++ putLe 4 v.length)

/-- `val_deserialize_verify_request`. -/
def deserializeVerifyRequest (w : Bytes) : VerifyRequest where
  offset := getLe (slice 0 8 w)
  crc := getLe (slice 8 4 w)
  length := getLe (slice 12 4 w)

@[simp] theorem serializeVerifyRequest_length (v : VerifyRequest) :
    (serializeVerifyRequest v).length = wireVerifyReqPayloadSize := by
  simp [serializeVerifyRequest, wireVerifyReqPayloadSize]

theorem deserialize_serializeVerifyRequest {v : VerifyRequest} (hf : v.Fits) :
    deserializeVerifyRequest (serializeVerifyRequest v) = v := by
  obtain ⟨h1, h2, h3⟩ := hf
  cases v
  simp only [deserializeVerifyRequest, serializeVerifyRequest]
  simp (disch := simp) only [slice_skip, slice_here, slice_all, putLe_length,
    Nat.reduceSub, getLe_putLe]
  simp only [Nat.mod_eq_of_lt h1, Nat.mod_eq_of_lt h2, Nat.mod_eq_of_lt h3]

/-- `val_serialize_verify_response`. -/
def serializeVerifyResponse (result : Status) (receiverCrc : Nat) : Bytes :=
  putLe 4 result.toWire ++ putLe 4 receiverCrc

@[simp] theorem serializeVerifyResponse_length (st : Status) (c : Nat) :
    (serializeVerifyResponse st c).length = 8 := by
  simp [serializeVerifyResponse]

/-- The status word of a VERIFY response, as the sender reads it. -/
theorem verifyResponse_status (st : Status) (c : Nat) (h : st.toWire < 2 ^ 32) :
    getLe ((serializeVerifyResponse st c).take 4) = st.toWire := by
  rw [serializeVerifyResponse,
      show (putLe 4 st.toWire ++ putLe 4 c).take 4
        = slice 0 4 (putLe 4 st.toWire ++ putLe 4 c) from rfl,
      slice_here (putLe_length _ _), getLe_putLe_of_lt (by simpa using h)]

/-! ## §5. ERROR. -/

/-- `val_serialize_error_payload`. -/
def serializeErrorPayload (code : Status) (detail : Nat) : Bytes :=
  putLe 4 code.toWire ++ putLe 4 detail

end ValProtocol
