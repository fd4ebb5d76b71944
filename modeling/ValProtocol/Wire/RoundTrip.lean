/-
  ValProtocol.Wire.RoundTrip
  ──────────────────────────
  Encoder against decoder.

    • `roundTrips_iff`  — a frame the encoder accepts is read back as it was
      sent exactly when its staged content fits the 16-bit length field (and
      the caller's buffer holds what the decoder counts as payload),
    • `recvSeq_sends`   — a stream of such frames is read back frame by
      frame, however the transport cuts it into chunks.
-/
import ValProtocol.Wire.Stream

namespace ValProtocol

open LittleEndian

/-! ## §1. What the receiver should get. -/

/-- The arguments of one `val_internal_send_packet_ex` call. -/
structure Send where
  type : PacketType
  payload : Bytes
  offset : Nat
  includeDataOffset : Bool

/-- The payload the decoder hands out: acknowledgement content is the encoded
high word (and NAK reason), everything else is the caller's payload. -/
def Send.delivered (s : Send) : Bytes :=
  match s.type with
  | .dataAck | .doneAck | .eotAck | .dataNak =>
      stageContent s.type s.payload s.offset s.includeDataOffset
  | _ => s.payload

/-- The offset the decoder reports. -/
def Send.deliveredOffset (s : Send) : Nat :=
  match s.type with
  | .data => if s.includeDataOffset then s.offset else uint64Max
  | .dataAck | .doneAck | .eotAck | .dataNak => s.offset
  | _ => 0

/-- The packet a faithful link delivers for a call. -/
def Send.packet (s : Send) : Packet :=
  ⟨s.type, s.delivered, s.delivered.length, s.deliveredOffset⟩

/-- The content before the 16-bit cut. -/
def Send.staged (s : Send) : Bytes :=
  stageContent s.type s.payload s.offset s.includeDataOffset

/-- The frame on the wire. -/
def Send.frame (s : Send) : Frame :=
  buildFrame s.type s.payload s.offset s.includeDataOffset

/-- The arguments are ones a caller can pass: an enumerator and a `uint64_t`. -/
structure Send.Valid (s : Send) : Prop where
  named : s.type.isNamed = true
  offset_lt : s.offset < 2 ^ 64

/-- Is the call DATA with an explicit offset? -/
def Send.explicitData (s : Send) : Bool :=
  s.type == .data && s.includeDataOffset

/-- Is the call an acknowledgement, with the offset split over header and
content? -/
def Send.isAck (s : Send) : Bool :=
  match s.type with
  | .dataAck | .doneAck | .eotAck | .dataNak => true
  | _ => false

/-! ## §2. One frame through the decoder. -/

/-- The two halves of a 64-bit offset make it whole again. -/
theorem offset_halves {o : Nat} (ho : o < 2 ^ 64) :
    o / 2 ^ 32 % 2 ^ 32 * 2 ^ 32 + o % 2 ^ 32 = o := by
  have : o / 2 ^ 32 < 2 ^ 32 := by omega
  rw [Nat.mod_eq_of_lt this, Nat.mul_comm, Nat.div_add_mod]

theorem getLe_high (o : Nat) (rest : Bytes) :
    getLe ((putLe 4 (o / 2 ^ 32) ++ rest).take 4) = o / 2 ^ 32 % 2 ^ 32 := by
  have htake : (putLe 4 (o / 2 ^ 32) ++ rest).take 4 = putLe 4 (o / 2 ^ 32) := by
    have hlen : (putLe 4 (o / 2 ^ 32)).length = 4 := putLe_length _ _
    conv_lhs => rw [← hlen]
    exact List.take_left
  rw [htake, getLe_putLe]
  norm_num

/-- Acknowledgement content is at most 12 bytes. -/
theorem Send.staged_ack_length {s : Send} (h : s.isAck = true) :
    s.staged.length ≤ 12 := by
  obtain ⟨type, payload, offset, incl⟩ := s
  cases type with
  | dataAck | doneAck | eotAck => simp only [staged, stageContent]; split <;> simp
  | dataNak => simp [staged, stageContent]
  | data | hello | sendMeta | resumeReq | resumeResp | verify | done | error | eot
  | cancel | unknown b => cases h

/-- DATA: the flag decides whether an offset is read from the content. -/
theorem frameOffset_data (payload : Bytes) (offset : Nat) (incl : Bool) :
    frameOffset (buildFrame .data payload offset incl)
      = if incl then getLe ((buildFrame .data payload offset incl).content.take 8)
        else uint64Max := by
  have htype : PacketType.ofByte PacketType.data.toByte = .data := rfl
  have hflag : (frameFlags .data incl &&& dataOffsetPresent != 0) = incl := by
    cases incl <;> decide
  simp only [frameOffset, buildFrame, htype, hflag]

/-- The reported offset is the one sent. -/
theorem frameOffset_frame {s : Send} (hv : s.Valid) (hlt : s.staged.length < 2 ^ 16) :
    frameOffset s.frame = s.deliveredOffset := by
  obtain ⟨type, payload, offset, incl⟩ := s
  have ho : offset < 2 ^ 64 := hv.offset_lt
  have hcut : (buildFrame type payload offset incl).content
      = stageContent type payload offset incl := cutContent_of_lt hlt
  -- acknowledgements: the high word is absent exactly when it is zero
  have hack : ∀ c : Bytes,
      c = (if offset / 2 ^ 32 % 2 ^ 32 ≠ 0 then putLe 4 (offset / 2 ^ 32) else []) →
      (if c.length ≥ 4 then getLe (c.take 4) else 0) * 2 ^ 32 + offset % 2 ^ 32
        = offset := by
    intro c hc
    by_cases hh : offset / 2 ^ 32 % 2 ^ 32 = 0
    · rw [if_neg (by simpa using hh)] at hc
      subst hc
      have hlow := offset_halves ho
      rw [hh] at hlow
      rw [if_neg (by simp)]
      exact hlow
    · rw [if_pos hh] at hc
      have hlen : c.length ≥ 4 := by rw [hc, putLe_length]
      have hget : getLe (c.take 4) = offset / 2 ^ 32 % 2 ^ 32 := by
        rw [hc, ← List.append_nil (putLe 4 (offset / 2 ^ 32))]
        exact getLe_high offset []
      rw [if_pos hlen, hget]
      exact offset_halves ho
  cases type with
  | unknown b => cases hv.named
  | data =>
      cases incl with
      | false => rw [Send.frame, frameOffset_data]; rfl
      | true =>
          have hlen : (putLe 8 offset).length = 8 := putLe_length _ _
          have htake : (putLe 8 offset ++ payload).take 8 = putLe 8 offset := by
            conv_lhs => rw [← hlen]
            exact List.take_left
          rw [Send.frame, frameOffset_data, hcut]
          show getLe ((putLe 8 offset ++ payload).take 8) = offset
          rw [htake, getLe_putLe_of_lt (by simpa using ho)]
  | dataAck | doneAck | eotAck => exact hack _ hcut
  | dataNak =>
      have hlen : (stageContent .dataNak payload offset incl).length ≥ 4 := by
        simp [stageContent]
      show (if (buildFrame .dataNak payload offset incl).content.length ≥ 4
          then getLe ((buildFrame .dataNak payload offset incl).content.take 4) else 0)
          * 2 ^ 32 + offset % 2 ^ 32 = offset
      rw [hcut, if_pos hlen]
      show getLe ((putLe 4 (offset / 2 ^ 32) ++ _).take 4) * 2 ^ 32 + _ = _
      rw [getLe_high]
      exact offset_halves ho
  | hello | sendMeta | resumeReq | resumeResp | verify | done | error | eot | cancel => rfl

/-- Explicit offsets are exactly what the decoder strips. -/
theorem hasOffset_frame {s : Send} (hv : s.Valid) :
    s.frame.hasOffset = s.explicitData := by
  obtain ⟨type, payload, offset, incl⟩ := s
  cases type with
  | unknown b => cases hv.named
  | data =>
      have htype : PacketType.ofByte PacketType.data.toByte = .data := rfl
      have hflag : (frameFlags .data incl &&& dataOffsetPresent != 0) = incl := by
        cases incl <;> decide
      simp only [Send.frame, buildFrame, Frame.hasOffset, htype, hflag,
        Send.explicitData]
  | hello | sendMeta | resumeReq | resumeResp | verify | done | error | eot | cancel
  | dataAck | doneAck | eotAck | dataNak => rfl

/-- Apart from explicit DATA the delivered payload is the staged content. -/
theorem Send.staged_of_not_explicit {s : Send} (h : s.explicitData = false) :
    s.staged = s.delivered := by
  obtain ⟨type, payload, offset, incl⟩ := s
  cases type with
  | data =>
      cases incl with
      | false => rfl
      | true => cases h
  | hello | sendMeta | resumeReq | resumeResp | verify | done | error | eot | cancel
  | dataAck | doneAck | eotAck | dataNak | unknown b => rfl

theorem Send.staged_of_explicit {s : Send} (h : s.explicitData = true) :
    s.staged = putLe 8 s.offset ++ s.payload ∧ s.delivered = s.payload := by
  obtain ⟨type, payload, offset, incl⟩ := s
  simp only [explicitData, Bool.and_eq_true, beq_iff_eq] at h
  obtain ⟨rfl, rfl⟩ := h
  exact ⟨rfl, rfl⟩

/-- **The decoder undoes the encoder** while the staged content fits the
16-bit length, the MTU and the caller's buffer. -/
theorem recvFrame_frame {s : Send} (hv : s.Valid) {P cap : Nat}
    (hlt : s.staged.length < 2 ^ 16)
    (hfit : s.staged.length ≤ P - wireHeaderSize - wireTrailerSize)
    (hpos : 0 < cap) (hcap : s.delivered.length ≤ cap) :
    recvFrame P (some cap) s.frame = .ok s.packet := by
  have hcut : s.frame.content = s.staged := cutContent_of_lt hlt
  have htype : PacketType.ofByte s.frame.type = s.type :=
    PacketType.ofByte_toByte hv.named
  obtain ⟨c, rfl⟩ : ∃ c, cap = c + 1 := ⟨cap - 1, by omega⟩
  simp only [recvFrame, hcut, htype, hasOffset_frame hv, frameOffset_frame hv hlt,
    Nat.not_lt.mpr hfit, gt_iff_lt, if_false]
  cases he : s.explicitData with
  | true =>
      obtain ⟨hst, hdel⟩ := Send.staged_of_explicit he
      have hlen : s.staged.length = s.payload.length + 8 := by
        rw [hst, List.length_append, putLe_length]; omega
      have hdrop : s.staged.drop 8 = s.payload := by
        rw [hst, List.drop_append, putLe_length]
        simp
      rw [hdel] at hcap
      rw [if_pos rfl, if_neg (by omega), if_neg (by omega), hdrop, hlen,
        Send.packet, hdel]
      rfl
  | false =>
      rw [Send.staged_of_not_explicit he]
      rw [if_neg (by simp), if_neg (by omega)]
      rfl

/-! ## §3. Round trips over a transport. -/

/-- What the round trip must give back: the type; the payload of DATA and of
raw control packets; the offset where the packet carries one; the sentinel
for DATA without offset. -/
structure Send.Recovered (s : Send) (pkt : Packet) : Prop where
  type_eq : pkt.type = s.type
  payload_eq : s.type ≠ .dataAck → s.type ≠ .doneAck → s.type ≠ .eotAck →
    s.type ≠ .dataNak → pkt.payload = s.payload ∧ pkt.len = s.payload.length
  offset_eq : s.explicitData = true ∨ s.type = .dataAck ∨ s.type = .doneAck
    ∨ s.type = .eotAck ∨ s.type = .dataNak → pkt.off = s.offset
  sentinel_eq : s.type = .data → s.includeDataOffset = false → pkt.off = uint64Max

/-- Any transport that keeps delivering and leaves the time gives back what
was sent. -/
def RoundTrips (provider : Option CrcProvider) (P cap : Nat) (s : Send)
    (bytes : Bytes) : Prop :=
  ∀ (toMs : Nat) (t : Transport) (rest : Bytes), t.Live → t.Patient toMs →
    t.stream = bytes ++ rest →
    ∃ N, ∀ fuel, N ≤ fuel → ∃ pkt t',
      recvPacket fuel provider P (some cap) toMs t = some (.ok pkt, t')
      ∧ s.Recovered pkt

/-- The bytes at hand at once, and a clock that stands still. -/
def feed (bytes : Bytes) : Transport where
  stream := bytes
  chunk := fun _ => some (bytes.length + 1)
  clock := fun _ => 0
  calls := 0
  reads := 0

theorem feed_live (bytes : Bytes) : (feed bytes).Live where
  noError := fun _ => Option.some_ne_none _
  progress := fun i => ⟨i, Nat.le_refl i, bytes.length + 1, by omega, rfl⟩

theorem feed_patient (bytes : Bytes) : (feed bytes).Patient 1 := by
  intro i j _
  simp only [feed]
  decide

/-- The transport adds nothing: a round trip is one through the frame
decoder. -/
theorem roundTrips_iff_recvFrame {sender provider : Option CrcProvider}
    (hagree : SameCrc sender provider) {P cap : Nat} {s : Send}
    (hfit : s.frame.content.length ≤ P - wireHeaderSize - wireTrailerSize) :
    RoundTrips provider P cap s (s.frame.bytes sender)
      ↔ ∃ pkt, recvFrame P (some cap) s.frame = .ok pkt ∧ s.Recovered pkt := by
  constructor
  · intro h
    obtain ⟨N, hN⟩ := h 1 (feed (s.frame.bytes sender)) [] (feed_live _) (feed_patient _)
      (List.append_nil _).symm
    obtain ⟨r, t', ⟨M, hM⟩, hdone⟩ := recvPacket_spec hagree P (some cap) 1
      (buildFrame_content_lt _ _ _ _) (buildFrame_typeData_lt _ _ _ _) hfit
      (feed_live (s.frame.bytes sender)) (List.append_nil _).symm
    obtain ⟨pkt, t₂, hrun, hrec⟩ := hN (max N M) (by omega)
    rw [hM (max N M) (by omega)] at hrun
    rcases hdone with ⟨hr, _, _⟩ | ⟨_, hnp⟩
    · obtain ⟨hres, _⟩ := Prod.mk.inj (Option.some.inj hrun)
      exact ⟨pkt, hr.symm.trans hres, hrec⟩
    · exact absurd (feed_patient _) hnp
  · rintro ⟨pkt, hpkt, hrec⟩ toMs t rest hl hp hst
    obtain ⟨r, t', ⟨M, hM⟩, hdone⟩ := recvPacket_spec hagree P (some cap) toMs
      (buildFrame_content_lt _ _ _ _) (buildFrame_typeData_lt _ _ _ _) hfit hl hst
    rcases hdone with ⟨hr, _, _⟩ | ⟨_, hnp⟩
    · refine ⟨M, fun fuel hf => ⟨pkt, t', ?_, hrec⟩⟩
      rw [hM fuel hf, hr]
      exact congrArg (fun x => some (x, t')) hpkt
    · exact absurd hp hnp

/-! ## §4. Exactly which frames come back. -/

/-- The staged content fits the length field, and the buffer takes what the
decoder counts as payload (the offset prefix is only stripped when there is a
buffer; the high word of an acknowledgement is counted). -/
def Send.Fits (s : Send) (cap : Nat) : Prop :=
  match s.type with
  | .data =>
      s.payload.length + (if s.includeDataOffset then 8 else 0) < 2 ^ 16
      ∧ (s.includeDataOffset = true → 0 < cap)
  | .dataAck | .doneAck | .eotAck => cap = 0 ∨ s.offset < 2 ^ 32 ∨ 4 ≤ cap
  | .dataNak => cap = 0 ∨ 12 ≤ cap
  | _ => s.payload.length < 2 ^ 16

/-- The length `recvFrame` reports on success, and the room it needed. -/
theorem recvFrame_ok_len {P cap : Nat} {f : Frame} {pkt : Packet}
    (h : recvFrame P (some cap) f = .ok pkt) :
    (cap = 0 ∧ pkt.len = f.content.length)
    ∨ (0 < cap ∧ f.hasOffset = true ∧ pkt.len + 8 = f.content.length ∧ pkt.len ≤ cap)
    ∨ (0 < cap ∧ f.hasOffset = false ∧ pkt.len = f.content.length ∧ pkt.len ≤ cap) := by
  simp only [recvFrame] at h
  split at h
  · cases h
  · cases cap with
    | zero =>
        cases h
        exact Or.inl ⟨rfl, rfl⟩
    | succ c =>
        -- with an offset the first eight bytes are not payload
        cases ho : f.hasOffset with
        | true =>
            simp only [ho, if_true] at h
            split at h
            · cases h
            · split at h
              · cases h
              · cases h
                refine Or.inr (Or.inl ⟨by omega, rfl, ?_, ?_⟩)
                · show f.content.length - 8 + 8 = _
                  omega
                · show f.content.length - 8 ≤ _
                  omega
        | false =>
            simp only [ho, Bool.false_eq_true, if_false] at h
            split at h
            · cases h
            · cases h
              refine Or.inr (Or.inr ⟨by omega, rfl, rfl, ?_⟩)
              show f.content.length ≤ _
              omega

/-- With a buffer the reported length is that of the payload. -/
theorem recvFrame_payload_length {P cap : Nat} (hcap : 0 < cap) {f : Frame} {pkt : Packet}
    (h : recvFrame P (some cap) f = .ok pkt) : pkt.payload.length = pkt.len := by
  obtain ⟨c, rfl⟩ : ∃ c, cap = c + 1 := ⟨cap - 1, by omega⟩
  simp only [recvFrame] at h
  split at h
  · cases h
  · split at h
    · split at h
      · cases h
      · split at h
        · cases h
        · cases h
          exact List.length_drop
    · split at h
      · cases h
      · cases h
        rfl

/-- The packet of `recvFrame_frame` is what was sent. -/
theorem Send.packet_recovered (s : Send) : s.Recovered s.packet := by
  obtain ⟨type, payload, offset, incl⟩ := s
  constructor
  · rfl
  · intro h1 h2 h3 h4
    cases type <;> first | exact ⟨rfl, rfl⟩ | contradiction
  · intro h
    rcases h with h | h | h | h | h
    · simp only [explicitData, Bool.and_eq_true, beq_iff_eq] at h
      obtain ⟨rfl, rfl⟩ := h
      rfl
    all_goals
      simp only at h
      subst h
      rfl
  · intro h1 h2
    simp only at h1 h2
    subst h1 h2
    rfl

theorem Send.not_isAck_iff (s : Send) :
    s.isAck = false ↔ s.type ≠ .dataAck ∧ s.type ≠ .doneAck ∧ s.type ≠ .eotAck
      ∧ s.type ≠ .dataNak := by
  obtain ⟨type, payload, offset, incl⟩ := s
  cases type <;> simp [isAck]

/-- The staged length, and `Fits` in terms of it. -/
theorem Send.staged_length_of_not_isAck {s : Send} (h : s.isAck = false) :
    s.staged.length = s.payload.length + (if s.explicitData then 8 else 0) := by
  obtain ⟨type, payload, offset, incl⟩ := s
  cases type with
  | dataAck | doneAck | eotAck | dataNak => cases h
  | data =>
      cases incl with
      | false => simp [staged, stageContent, explicitData]
      | true => simp [staged, stageContent, explicitData]; omega
  | hello | sendMeta | resumeReq | resumeResp | verify | done | error | eot | cancel
  | unknown b => simp [staged, stageContent, explicitData]

theorem Send.fits_iff {s : Send} {cap : Nat} (hv : s.Valid) :
    s.Fits cap ↔
      if s.isAck then cap = 0 ∨ s.staged.length ≤ cap
      else s.staged.length < 2 ^ 16 ∧ (s.explicitData = true → 0 < cap) := by
  obtain ⟨type, payload, offset, incl⟩ := s
  have hhigh : offset / 2 ^ 32 % 2 ^ 32 ≠ 0 ↔ ¬ offset < 2 ^ 32 := by
    have := hv.offset_lt
    simp only at this
    omega
  have hack : (cap = 0 ∨ offset < 2 ^ 32 ∨ 4 ≤ cap) ↔
      (cap = 0 ∨ (if offset / 2 ^ 32 % 2 ^ 32 ≠ 0 then putLe 4 (offset / 2 ^ 32)
        else ([] : Bytes)).length ≤ cap) := by
    by_cases h : offset < 2 ^ 32
    · rw [if_neg (by rw [hhigh]; exact not_not_intro h), List.length_nil]
      omega
    · rw [if_pos (by rw [hhigh]; exact h), putLe_length]
      omega
  cases type with
  | dataAck | doneAck | eotAck => exact hack
  | dataNak => simp [Fits, isAck, staged, stageContent]
  | data =>
      cases incl with
      | false => simp [Fits, isAck, staged, stageContent, explicitData]
      | true =>
          simp [Fits, isAck, staged, stageContent, explicitData, Nat.add_comm]
  | hello | sendMeta | resumeReq | resumeResp | verify | done | error | eot | cancel
  | unknown b => simp [Fits, isAck, staged, stageContent, explicitData]

/-- With no buffer the decoder reports the content length and the offset. -/
theorem recvFrame_frame_nobuf {s : Send} (hv : s.Valid) {P : Nat}
    (hlt : s.staged.length < 2 ^ 16)
    (hfit : s.staged.length ≤ P - wireHeaderSize - wireTrailerSize) :
    recvFrame P (some 0) s.frame
      = .ok ⟨s.type, [], s.staged.length, s.deliveredOffset⟩ := by
  have hcut : s.frame.content = s.staged := cutContent_of_lt hlt
  have htype : PacketType.ofByte s.frame.type = s.type :=
    PacketType.ofByte_toByte hv.named
  simp only [recvFrame, hcut, htype, frameOffset_frame hv hlt,
    Nat.not_lt.mpr hfit, if_false]

/-- Acknowledgements come back unless a buffer is given that is too small
for their content. -/
theorem recvFrame_ack_iff {s : Send} (hv : s.Valid) (hack : s.isAck = true)
    {P cap : Nat} (hfit : s.staged.length ≤ P - wireHeaderSize - wireTrailerSize) :
    (∃ pkt, recvFrame P (some cap) s.frame = .ok pkt ∧ s.Recovered pkt)
      ↔ cap = 0 ∨ s.staged.length ≤ cap := by
  have hlt : s.staged.length < 2 ^ 16 := by
    have := Send.staged_ack_length hack
    omega
  have hclen : s.frame.content.length = s.staged.length :=
    congrArg List.length (cutContent_of_lt hlt)
  have hex : s.explicitData = false := by
    obtain ⟨type, payload, offset, incl⟩ := s
    cases type <;> first | rfl | cases hack
  constructor
  · rintro ⟨pkt, hpkt, -⟩
    rcases recvFrame_ok_len hpkt with ⟨h0, -⟩ | ⟨-, ho, -, -⟩ | ⟨-, -, hl, hle⟩
    · exact Or.inl h0
    · rw [hasOffset_frame hv, hex] at ho
      cases ho
    · rw [hl, hclen] at hle
      exact Or.inr hle
  · intro h
    rcases Nat.eq_zero_or_pos cap with h0 | hpos
    · subst h0
      have hr := s.packet_recovered
      refine ⟨_, recvFrame_frame_nobuf hv hlt hfit, rfl, fun h1 h2 h3 h4 => ?_,
        hr.offset_eq, hr.sentinel_eq⟩
      rw [s.not_isAck_iff.mpr ⟨h1, h2, h3, h4⟩] at hack
      cases hack
    · rw [Send.staged_of_not_explicit hex] at h
      exact ⟨_, recvFrame_frame hv hlt hfit hpos (by omega), s.packet_recovered⟩

/-- DATA and raw control packets come back exactly when nothing is cut. -/
theorem recvFrame_raw_iff {s : Send} (hv : s.Valid) (hack : s.isAck = false)
    {P cap : Nat} (hfit : s.staged.length ≤ P - wireHeaderSize - wireTrailerSize)
    (hcap : s.payload.length ≤ cap) :
    (∃ pkt, recvFrame P (some cap) s.frame = .ok pkt ∧ s.Recovered pkt)
      ↔ s.staged.length < 2 ^ 16 ∧ (s.explicitData = true → 0 < cap) := by
  obtain ⟨n1, n2, n3, n4⟩ := s.not_isAck_iff.mp hack
  have hclen : s.frame.content.length = s.staged.length % 2 ^ 16 := cutContent_length _
  have hst := Send.staged_length_of_not_isAck hack
  have hdel : s.delivered = s.payload := by
    obtain ⟨type, payload, offset, incl⟩ := s
    cases type <;> first | rfl | cases hack
  constructor
  · rintro ⟨pkt, hpkt, hrec⟩
    obtain ⟨-, hlen⟩ := hrec.payload_eq n1 n2 n3 n4
    have hm : s.staged.length % 2 ^ 16 < 2 ^ 16 := Nat.mod_lt _ (by decide)
    rcases recvFrame_ok_len hpkt with ⟨h0, hl⟩ | ⟨hpos, ho, hl, -⟩ | ⟨hpos, ho, hl, -⟩
    · -- no buffer, so no payload: the reported length counts the prefix
      rw [hlen, hclen] at hl
      cases hex : s.explicitData with
      | true =>
          simp only [hex, if_true] at hst
          omega
      | false =>
          simp only [hex, Bool.false_eq_true, if_false] at hst
          exact ⟨by omega, fun h => absurd h (by simp)⟩
    · rw [hasOffset_frame hv] at ho
      simp only [ho, if_true] at hst
      rw [hlen, hclen] at hl
      exact ⟨by omega, fun _ => hpos⟩
    · rw [hasOffset_frame hv] at ho
      simp only [ho, Bool.false_eq_true, if_false] at hst
      rw [hlen, hclen] at hl
      exact ⟨by omega, fun _ => hpos⟩
  · rintro ⟨hlt, hexp⟩
    rcases Nat.eq_zero_or_pos cap with h0 | hpos
    · subst h0
      have hex : s.explicitData = false := by
        cases hex : s.explicitData with
        | true => exact absurd (hexp hex) (by omega)
        | false => rfl
      simp only [hex, Bool.false_eq_true, if_false] at hst
      have hnil : s.payload = [] := List.length_eq_zero_iff.mp (by omega)
      have hr := s.packet_recovered
      refine ⟨_, recvFrame_frame_nobuf hv hlt hfit, rfl, fun _ _ _ _ => ⟨hnil.symm, ?_⟩,
        hr.offset_eq, hr.sentinel_eq⟩
      show s.staged.length = _
      omega
    · exact ⟨_, recvFrame_frame hv hlt hfit hpos (by rw [hdel]; exact hcap),
        s.packet_recovered⟩

/-- The frames the decoder gives back are those that fit. -/
theorem recvFrame_recovered_iff {s : Send} (hv : s.Valid) {P cap : Nat}
    (hfit : s.staged.length ≤ P - wireHeaderSize - wireTrailerSize)
    (hcap : s.payload.length ≤ cap) :
    (∃ pkt, recvFrame P (some cap) s.frame = .ok pkt ∧ s.Recovered pkt)
      ↔ s.Fits cap := by
  rw [Send.fits_iff hv]
  cases hack : s.isAck with
  | true => rw [if_pos rfl]; exact recvFrame_ack_iff hv hack hfit
  | false => rw [if_neg (by simp)]; exact recvFrame_raw_iff hv hack hfit hcap

/-! ## §5. The encoder's whole range. -/

/-- `val__internal_send_packet_core` on a `Send`. -/
def Send.run (s : Send) (hooks : SendHooks) (provider : Option CrcProvider)
    (P : Nat) : Status × Bytes :=
  sendPacketCore hooks provider P s.type s.payload s.offset s.includeDataOffset

/-- A send that returns `VAL_OK` put its whole frame on the wire. -/
theorem Send.run_ok {s : Send} {hooks : SendHooks} {provider : Option CrcProvider}
    {P : Nat} (h : (s.run hooks provider P).1 = .ok) :
    (s.run hooks provider P).2 = s.frame.bytes provider
    ∧ s.frame.content.length ≤ P - wireHeaderSize - wireTrailerSize := by
  simp only [Send.run, sendPacketCore, encodeFrame] at h ⊢
  split at h
  · cases h
  · by_cases hbig : (buildFrame s.type s.payload s.offset s.includeDataOffset).content.length
        > P - wireHeaderSize - wireTrailerSize
    · simp only [hbig, if_true] at h
      cases h
    · simp only [hbig, if_false] at h ⊢
      split at h
      · cases h
      · rename_i hconn hsent
        rw [if_neg hconn, if_neg hsent]
        exact ⟨rfl, by rw [Send.frame]; omega⟩

/-- A transport that takes everything. -/
def openHooks : SendHooks where
  isConnected := true
  send := fun bytes => bytes.length

theorem Send.run_openHooks {s : Send} (provider : Option CrcProvider) {P : Nat}
    (h : s.frame.content.length ≤ P - wireHeaderSize - wireTrailerSize) :
    s.run openHooks provider P = (.ok, s.frame.bytes provider) := by
  have hbig : ¬ (buildFrame s.type s.payload s.offset s.includeDataOffset).content.length
      > P - wireHeaderSize - wireTrailerSize := Nat.not_lt.mpr h
  simp only [Send.run, sendPacketCore, encodeFrame, openHooks, hbig, if_false,
    Bool.true_eq_false, ne_eq, not_true_eq_false]
  rfl

/-- **Round trip of everything the encoder accepts.**  For every admitted
MTU and every call within it that returned `VAL_OK`, the receiver gets back
what was sent if and only if the staged content fits the 16-bit length field
and the buffer takes what the decoder counts as payload. -/
theorem roundTrips_iff {sender provider : Option CrcProvider}
    (hagree : SameCrc sender provider) (hooks : SendHooks) {P cap : Nat}
    (hmin : minPacketSize ≤ P) (_hmax : P ≤ maxPacketSize) {s : Send} (hv : s.Valid)
    (hlen : s.payload.length + (if s.explicitData then 8 else 0) ≤ P - 12)
    (hcap : s.payload.length ≤ cap) (hok : (s.run hooks sender P).1 = .ok) :
    RoundTrips provider P cap s (s.run hooks sender P).2 ↔ s.Fits cap := by
  obtain ⟨hbytes, hcontent⟩ := Send.run_ok hok
  have hfit : s.staged.length ≤ P - wireHeaderSize - wireTrailerSize := by
    simp only [wireHeaderSize, wireTrailerSize, minPacketSize] at *
    cases hack : s.isAck with
    | true =>
        have := Send.staged_ack_length hack
        omega
    | false =>
        rw [Send.staged_length_of_not_isAck hack]
        omega
  rw [hbytes, roundTrips_iff_recvFrame hagree hcontent]
  exact recvFrame_recovered_iff hv hfit hcap

theorem roundTrips_small_data :
    RoundTrips none 512 3 ⟨.data, [1, 2, 3], 7, true⟩
      ((⟨.data, [1, 2, 3], 7, true⟩ : Send).run openHooks none 512).2 := by
  have hagree : SameCrc none none := fun _ => rfl
  have hv : (⟨.data, [1, 2, 3], 7, true⟩ : Send).Valid := ⟨rfl, by decide⟩
  have hok := congrArg Prod.fst (Send.run_openHooks none
    (s := ⟨.data, [1, 2, 3], 7, true⟩) (P := 512) (by decide))
  exact (roundTrips_iff hagree openHooks (by decide) (by decide) hv (by decide)
    (by decide) hok).mpr ⟨by decide, fun _ => by decide⟩

/-- The first length the 16-bit field cannot hold: 65536 payload bytes leave
as an empty frame. -/
theorem roundTrips_fails_at_65536 :
    let s : Send := ⟨.data, List.replicate 65536 0, 0, false⟩
    minPacketSize ≤ 65548 ∧ 65548 ≤ maxPacketSize ∧ s.Valid
      ∧ s.payload.length + (if s.explicitData then 8 else 0) ≤ 65548 - 12
      ∧ s.payload.length ≤ 65536 ∧ (s.run openHooks none 65548).1 = .ok
      ∧ ¬ RoundTrips none 65548 65536 s (s.run openHooks none 65548).2 := by
  intro s
  have hv : s.Valid := ⟨rfl, Nat.two_pow_pos 64⟩
  have hlen : s.payload.length = 65536 := List.length_replicate
  have hcontent : s.frame.content.length ≤ 65548 - wireHeaderSize - wireTrailerSize := by
    have := buildFrame_content_lt s.type s.payload s.offset s.includeDataOffset
    show (buildFrame s.type s.payload s.offset s.includeDataOffset).content.length ≤ 65536
    omega
  have hfit : s.staged.length ≤ 65548 - wireHeaderSize - wireTrailerSize := hlen.le
  have hrun := Send.run_openHooks none hcontent
  have hexp : s.explicitData = false := rfl
  refine ⟨by decide, by decide, hv, ?_, hlen.le, by rw [hrun], ?_⟩
  · rw [hexp, hlen]
    decide
  rw [hrun, roundTrips_iff_recvFrame (fun _ => rfl) hcontent,
    recvFrame_recovered_iff hv hfit hlen.le]
  rintro ⟨hlt, -⟩
  rw [hlen] at hlt
  exact absurd hlt (by decide)

/-! ## §6. Streams of frames. -/

/-- A sequence of sends whose content needs no cut and fits the MTU. -/
def Send.Whole (P : Nat) (s : Send) : Prop :=
  s.Valid ∧ s.staged.length ≤ 65535
    ∧ s.staged.length ≤ P - wireHeaderSize - wireTrailerSize

/-- A whole packet is read back into a buffer of the size of the MTU. -/
theorem recvFrame_whole {s : Send} {P cap : Nat} (hw : s.Whole P) (hP : 0 < P)
    (hcap : P ≤ cap) : recvFrame P (some cap) s.frame = .ok s.packet := by
  obtain ⟨hv, hlt, hfit⟩ := hw
  refine recvFrame_frame hv (by omega) hfit (by omega) ?_
  cases hex : s.explicitData with
  | true =>
      obtain ⟨h1, h2⟩ := Send.staged_of_explicit hex
      rw [h1, List.length_append] at hfit
      rw [h2]
      omega
  | false =>
      rw [← Send.staged_of_not_explicit hex]
      omega

/-- One call on a stream that starts with the frame of `s`. -/
theorem recvPacket_send {sender provider : Option CrcProvider}
    (hagree : SameCrc sender provider) {P cap : Nat} (toMs : Nat)
    (hP : 0 < P) (hcap : P ≤ cap)
    {s : Send} (hw : s.Whole P) {t : Transport} (hl : t.Live) {rest : Bytes}
    (hst : t.stream = s.frame.bytes sender ++ rest) :
    ∃ r t', (∃ N, ∀ fuel, N ≤ fuel →
        recvPacket fuel provider P (some cap) toMs t = some (r, t'))
      ∧ ((r = .ok s.packet ∧ t'.stream = rest ∧ t.SameHooks t')
          ∨ (r = .error .timeout ∧ ¬ t.Patient toMs)) := by
  have hcut : s.frame.content = s.staged := cutContent_of_lt (Nat.lt_succ_of_le hw.2.1)
  obtain ⟨r, t', hrun, hdone⟩ := recvPacket_spec hagree P (some cap) toMs
    (buildFrame_content_lt _ _ _ _) (buildFrame_typeData_lt _ _ _ _)
    (by rw [← Send.frame, hcut]; exact hw.2.2) hl hst
  refine ⟨r, t', hrun, ?_⟩
  rcases hdone with ⟨hr, hs, hh⟩ | hto
  · refine Or.inl ⟨hr.trans ?_, hs, hh⟩
    exact recvFrame_whole hw hP hcap
  · exact Or.inr hto

/-- A stream of whole frames is read frame by frame. -/
theorem recvSeq_frames {sender provider : Option CrcProvider}
    (hagree : SameCrc sender provider) {P cap : Nat} (toMs : Nat)
    (hmin : minPacketSize ≤ P) (hcap : P ≤ cap) (rest : Bytes) :
    ∀ (sends : List Send), (∀ s ∈ sends, s.Whole P) →
    ∀ t : Transport, t.Live →
      t.stream = (sends.map (fun s => s.frame.bytes sender)).flatten ++ rest →
      ∃ N, ∀ fuel, N ≤ fuel → ∃ out,
        recvSeq fuel provider P (some cap) toMs sends.length t = some out
        ∧ (out.2 ≠ some .timeout ∨ t.Patient toMs →
            out = (sends.map Send.packet, none)) := by
  intro sends
  induction sends with
  | nil =>
      intro _ t _ _
      exact ⟨0, fun _ _ => ⟨_, rfl, fun _ => rfl⟩⟩
  | cons s sends ih =>
      intro hw t hl hst
      rw [List.map_cons, List.flatten_cons, List.append_assoc] at hst
      obtain ⟨r, t', ⟨N, hN⟩, hres⟩ := recvPacket_send hagree toMs
        (by simp only [minPacketSize] at hmin; omega) hcap (hw s (by simp)) hl hst
      rcases hres with ⟨hr, hst', hh⟩ | ⟨hr, hnp⟩
      · -- the head frame is read; the rest is the induction hypothesis
        obtain ⟨M, hM⟩ := ih (fun x hx => hw x (by simp [hx])) t' (hh.live hl) hst'
        refine ⟨max N M, fun fuel hf => ?_⟩
        obtain ⟨out, hout, hval⟩ := hM fuel (by omega)
        refine ⟨(s.packet :: out.1, out.2), ?_, fun h => ?_⟩
        · simp only [List.length_cons, recvSeq, hN fuel (by omega), hr, hout,
            Option.map_some]
        · rw [hval (h.imp id hh.patient)]
          rfl
      · refine ⟨N, fun fuel hf => ⟨([], some .timeout), ?_, fun h => ?_⟩⟩
        · simp only [List.length_cons, recvSeq, hN fuel hf, hr]
        · rcases h with h | h
          · exact absurd rfl h
          · exact absurd h hnp

/-- **Framing survives fragmentation.**  However the transport cuts the
stream, successive calls return exactly the packets that were sent, in
order; only a call that runs out of time can end the sequence early. -/
theorem recvSeq_sends {sender provider : Option CrcProvider}
    (hagree : SameCrc sender provider) (hooks : SendHooks) {P cap : Nat} (toMs : Nat)
    (hmin : minPacketSize ≤ P) (hcap : P ≤ cap) {sends : List Send}
    (hsends : ∀ s ∈ sends, s.Valid ∧ s.staged.length ≤ 65535
      ∧ (s.run hooks sender P).1 = .ok)
    {t : Transport} (hl : t.Live) {rest : Bytes}
    (hst : t.stream = (sends.map (fun s => (s.run hooks sender P).2)).flatten ++ rest) :
    ∃ N, ∀ fuel, N ≤ fuel → ∃ out,
      recvSeq fuel provider P (some cap) toMs sends.length t = some out
      ∧ (out.2 ≠ some .timeout ∨ t.Patient toMs →
          out = (sends.map Send.packet, none)) := by
  have hbytes : sends.map (fun s => (s.run hooks sender P).2)
      = sends.map (fun s => s.frame.bytes sender) :=
    List.map_congr_left fun s hs => (Send.run_ok (hsends s hs).2.2).1
  rw [hbytes] at hst
  refine recvSeq_frames hagree toMs hmin hcap rest sends (fun s hs => ?_) t hl hst
  obtain ⟨hv, hlt, hok⟩ := hsends s hs
  refine ⟨hv, hlt, ?_⟩
  have hcut : s.frame.content = s.staged := cutContent_of_lt (Nat.lt_succ_of_le hlt)
  have hfit := (Send.run_ok hok).2
  rwa [hcut] at hfit

/-- One byte at a time. -/
def trickle (bytes : Bytes) : Transport :=
  { feed bytes with chunk := fun _ => some 1 }

theorem recvSeq_trickle :
    let sends : List Send := [⟨.data, [1, 2, 3], 7, true⟩, ⟨.dataAck, [], 2 ^ 40, false⟩]
    ∃ N, ∀ fuel, N ≤ fuel →
      recvSeq fuel none 512 (some 512) 1 2
        (trickle (sends.map (fun s => (s.run openHooks none 512).2)).flatten)
        = some ([⟨.data, [1, 2, 3], 3, 7⟩, ⟨.dataAck, [0, 1, 0, 0], 4, 2 ^ 40⟩], none) := by
  intro sends
  have hl : (trickle (sends.map (fun s => (s.run openHooks none 512).2)).flatten).Live :=
    ⟨fun _ => Option.some_ne_none _, fun i => ⟨i, Nat.le_refl i, 1, by omega, rfl⟩⟩
  have hp := feed_patient (sends.map (fun s => (s.run openHooks none 512).2)).flatten
  have hsends : ∀ s ∈ sends, s.Valid ∧ s.staged.length ≤ 65535
      ∧ (s.run openHooks none 512).1 = .ok := by
    intro s hs
    simp only [sends, List.mem_cons, List.not_mem_nil, or_false] at hs
    rcases hs with rfl | rfl <;>
      exact ⟨⟨rfl, by decide⟩, by decide,
        congrArg Prod.fst (Send.run_openHooks none (by decide))⟩
  obtain ⟨N, hN⟩ := recvSeq_sends (fun _ => rfl) openHooks 1 (by decide) (Nat.le_refl 512)
    hsends hl (List.append_nil _).symm
  refine ⟨N, fun fuel hf => ?_⟩
  obtain ⟨out, hout, hval⟩ := hN fuel hf
  rw [hval (Or.inr hp)] at hout
  exact hout

end ValProtocol
