/-
  ValProtocol.Wire.Corruption
  ───────────────────────────
  What the frame CRC detects.

  The table-driven `val_crc32` (`src/val_core.c` lines 129-160) is the
  reflected register of `ReflectedCrc` fed with the bits of the message,
  least significant bit of each byte first, and a frame passes the trailer
  check of `val_internal_recv_packet` (lines 963-974) exactly when the
  register, fed with header, content AND trailer, holds a fixed residue.

    • `crc32UpdateState_feed` — the byte loop is the bit-serial register,
    • `residue_of_check`      — a frame that passes leaves the residue,
    • `burst_detected`        — a burst of at most 32 bits that spares the
      length field is reported as `VAL_ERR_CRC`, wherever it falls.
-/
import ValProtocol.Lib.ReflectedCrc
import ValProtocol.Wire.RoundTrip

namespace ValProtocol

open LittleEndian ReflectedCrc

/-! ## §1. The table is the register. -/

/-- The polynomial of `crc32_init_table`. -/
def crc32Poly : BitVec 32 := 0xEDB88320#32

theorem crc32Poly_msb : crc32Poly.msb = true := by decide

/-- The bits of a byte, least significant first. -/
def byteBits (b : UInt8) : List Bool := (List.range 8).map b.toBitVec.getLsbD

/-- A byte string as one bit string. -/
def bitString (bs : Bytes) : List Bool := bs.flatMap byteBits

@[simp] theorem byteBits_length (b : UInt8) : (byteBits b).length = 8 := by
  simp [byteBits]

theorem bitString_cons (b : UInt8) (bs : Bytes) :
    bitString (b :: bs) = byteBits b ++ bitString bs := rfl

theorem bitString_append (a b : Bytes) : bitString (a ++ b) = bitString a ++ bitString b :=
  List.flatMap_append

@[simp] theorem bitString_length (bs : Bytes) : (bitString bs).length = 8 * bs.length := by
  induction bs with
  | nil => rfl
  | cons b bs ih =>
      rw [bitString_cons, List.length_append, byteBits_length, ih, List.length_cons]
      omega

/-- One round of the table's loop is one step of the register. -/
theorem crc32Round_toBitVec (c : UInt32) :
    (crc32Round c).toBitVec = shift crc32Poly c.toBitVec := by
  have hlow : (c &&& 1 != 0) = c.toBitVec.getLsbD 0 := by
    have hand : (c &&& 1).toBitVec = (BitVec.ofBool (c.toBitVec.getLsbD 0)).setWidth 32 := by
      rw [UInt32.toBitVec_and]
      exact BitVec.and_one_eq_setWidth_ofBool_getLsbD
    have hne : (c &&& 1 != 0) = ((c &&& 1).toBitVec != 0#32) := by
      rw [bne, bne, Bool.eq_iff_iff]
      simp [← UInt32.toBitVec_inj]
    rw [hne, hand]
    cases c.toBitVec.getLsbD 0 <;> rfl
  unfold crc32Round shift
  rw [hlow]
  split <;> rfl

/-- A table entry is eight steps. -/
theorem crc32Table_toBitVec (i : Nat) :
    (crc32Table i).toBitVec = shifts crc32Poly 8 (BitVec.ofNat 32 i) := by
  have hstart : (UInt32.ofNat i).toBitVec = BitVec.ofNat 32 i := rfl
  simp only [crc32Table, List.range, List.range.loop, List.foldl_cons, List.foldl_nil,
    crc32Round_toBitVec, shifts_succ, shifts_zero, hstart]

/-- The low byte of a register. -/
def lowByte (x : BitVec 32) : BitVec 32 := x &&& 0xFF#32

theorem getLsbD_lowByte (x : BitVec 32) (i : Nat) :
    (lowByte x).getLsbD i = (decide (i < 8) && x.getLsbD i) := by
  have hmask : (0xFF : Nat) = 2 ^ 8 - 1 := rfl
  rw [lowByte, BitVec.getLsbD_and, BitVec.getLsbD_ofNat, hmask, Nat.testBit_two_pow_sub_one]
  by_cases h : i < 32
  · simp [h, Bool.and_comm]
  · simp [h, BitVec.getLsbD_of_ge x i (by omega)]

/-- **Eight steps by the table**: the low byte is looked up, the rest moves
down. -/
theorem shifts_eight (x : BitVec 32) :
    shifts crc32Poly 8 x = shifts crc32Poly 8 (lowByte x) ^^^ (x >>> 8) := by
  have hsplit : x = lowByte x ^^^ (x ^^^ lowByte x) := by
    rw [BitVec.xor_comm x, ← BitVec.xor_assoc, BitVec.xor_self, BitVec.zero_xor]
  have hclear : ∀ i < 8, (x ^^^ lowByte x).getLsbD i = false := by
    intro i hi
    simp [getLsbD_lowByte, hi]
  have hhigh : (x ^^^ lowByte x) >>> 8 = x >>> 8 := by
    apply BitVec.eq_of_getLsbD_eq
    intro i _
    simp [getLsbD_lowByte]
  calc shifts crc32Poly 8 x
      = shifts crc32Poly 8 (lowByte x ^^^ (x ^^^ lowByte x)) := by rw [← hsplit]
    _ = shifts crc32Poly 8 (lowByte x) ^^^ shifts crc32Poly 8 (x ^^^ lowByte x) :=
        shifts_xor ..
    _ = shifts crc32Poly 8 (lowByte x) ^^^ (x >>> 8) := by
        rw [shifts_of_low_clear hclear, hhigh]

theorem pack_byteBits (b : UInt8) :
    (pack (byteBits b) : BitVec 32) = b.toBitVec.setWidth 32 := by
  apply BitVec.eq_of_getLsbD_eq
  intro i hi
  rw [getLsbD_pack _ hi, BitVec.getLsbD_setWidth]
  by_cases h : i < 8
  · rw [List.getD_eq_getElem _ _ (by rw [byteBits_length]; exact h)]
    simp [byteBits, hi]
  · rw [List.getD_eq_default _ _ (by rw [byteBits_length]; omega)]
    simp [BitVec.getLsbD_of_ge b.toBitVec i (by omega)]

/-- One byte of the loop is eight message bits. -/
theorem crc32Byte_feed (c : UInt32) (b : UInt8) :
    (crc32Byte c b).toBitVec = ReflectedCrc.feed crc32Poly c.toBitVec (byteBits b) := by
  have hhigh : (b.toBitVec.setWidth 32) >>> 8 = 0#32 := by
    apply BitVec.eq_of_getLsbD_eq
    intro i _
    simp
  rw [feed_eq_shifts _ _ (by rw [byteBits_length]; decide), byteBits_length, pack_byteBits,
    shifts_eight, BitVec.ushiftRight_xor_distrib, hhigh, BitVec.xor_zero]
  rw [crc32Byte, UInt32.toBitVec_xor, crc32Table_toBitVec]
  congr 2
  -- the index is the low byte of the register with the message byte in it
  show BitVec.ofNat 32 ((c ^^^ b.toUInt32) &&& 0xFF).toBitVec.toNat = _
  rw [BitVec.ofNat_toNat, BitVec.setWidth_eq, UInt32.toBitVec_and, UInt32.toBitVec_xor]
  rfl

/-- **The byte loop is the bit-serial register.** -/
theorem crc32UpdateState_feed (st : UInt32) (data : Bytes) :
    (crc32UpdateState st data).toBitVec = ReflectedCrc.feed crc32Poly st.toBitVec (bitString data) := by
  induction data generalizing st with
  | nil => rfl
  | cons b data ih =>
      have hstep : crc32UpdateState st (b :: data)
          = crc32UpdateState (crc32Byte st b) data := rfl
      rw [hstep, ih, crc32Byte_feed, bitString_cons, feed_append]

/-! ## §2. The trailer check. -/

/-- A bit of a number, read from the bytes that denote it. -/
theorem getD_bitString (bs : Bytes) (i : Nat) :
    (bitString bs).getD i false = (getLe bs).testBit i := by
  induction bs generalizing i with
  | nil => simp [bitString, getLe]
  | cons b bs ih =>
      have hb : b.toNat < 2 ^ 8 := b.toNat_lt
      have hsum : getLe (b :: bs) = 2 ^ 8 * getLe bs + b.toNat := by
        show b.toNat + 256 * getLe bs = _
        omega
      rw [bitString_cons, hsum, Nat.testBit_two_pow_mul_add _ hb]
      by_cases h : i < 8
      · rw [List.getD_append _ _ _ _ (by rw [byteBits_length]; exact h), if_pos h,
          List.getD_eq_getElem _ _ (by rw [byteBits_length]; exact h)]
        simp [byteBits, BitVec.getLsbD]
      · rw [List.getD_append_right _ _ _ _ (by rw [byteBits_length]; omega), if_neg h,
          byteBits_length, ih]

theorem pack_bitString (bs : Bytes) :
    (pack (bitString bs) : BitVec 32) = BitVec.ofNat 32 (getLe bs) := by
  apply BitVec.eq_of_getLsbD_eq
  intro i hi
  rw [getLsbD_pack _ hi, getD_bitString, BitVec.getLsbD_ofNat]
  simp [hi]

/-- What the register holds behind a frame with the right trailer. -/
def crc32Residue : BitVec 32 := shifts crc32Poly 32 (BitVec.allOnes 32)

/-- **A frame that passes the check leaves the residue.** -/
theorem residue_of_check {body trailer : Bytes} (hlen : trailer.length = wireTrailerSize)
    (hcheck : getLe trailer = (crc32 body).toNat) :
    ReflectedCrc.feed crc32Poly (BitVec.allOnes 32) (bitString (body ++ trailer))
      = crc32Residue := by
  have hinit : crc32InitState.toBitVec = BitVec.allOnes 32 := by decide
  have hlen' : (bitString trailer).length = 32 := by
    rw [bitString_length, hlen]
    rfl
  have hpack : (pack (bitString trailer) : BitVec 32) = (crc32 body).toBitVec := by
    rw [pack_bitString, hcheck]
    exact BitVec.ofNat_toNat ..
  have hcrc : (crc32 body).toBitVec
      = (crc32UpdateState crc32InitState body).toBitVec ^^^ BitVec.allOnes 32 := by
    rw [crc32_eq_finalize, crc32FinalizeState, UInt32.toBitVec_xor]
    congr 1
  rw [bitString_append, feed_append, feed_eq_shifts _ _ (by omega), hlen', hpack, hcrc,
    crc32UpdateState_feed, hinit, ← BitVec.xor_assoc, BitVec.xor_self, BitVec.zero_xor]
  rfl

/-! ## §3. Bursts. -/

/-- A corruption of a frame that leaves the two `content_len` bytes alone and
whose changed bits lie within 32 consecutive ones. -/
structure BurstError (frame corrupted : Bytes) : Prop where
  length_eq : corrupted.length = frame.length
  changed : corrupted ≠ frame
  lengthField : slice 2 2 corrupted = slice 2 2 frame
  burst : ∃ start, DiffersWithin start 32 (bitString frame) (bitString corrupted)

theorem bitString_inj {a b : Bytes} (hlen : a.length = b.length)
    (h : bitString a = bitString b) : a = b := by
  have hvalue : getLe a = getLe b := by
    apply Nat.eq_of_testBit_eq
    intro i
    rw [← getD_bitString, ← getD_bitString, h]
  rw [← putLe_getLe a, ← putLe_getLe b, hlen, hvalue]

/-- A burst cannot lead from one frame that passes the check to another. -/
theorem BurstError.check_fails {body trailer body' trailer' : Bytes}
    (h : BurstError (body ++ trailer) (body' ++ trailer'))
    (hlen : trailer.length = wireTrailerSize) (hlen' : trailer'.length = wireTrailerSize)
    (hcheck : getLe trailer = (crc32 body).toNat) :
    getLe trailer' ≠ (crc32 body').toNat := by
  intro hcheck'
  obtain ⟨start, hburst⟩ := h.burst
  have hsame : bitString (body ++ trailer) = bitString (body' ++ trailer') := by
    apply feed_inj_of_burst crc32Poly_msb (BitVec.allOnes 32) _ hburst
    · rw [residue_of_check hlen hcheck, residue_of_check hlen' hcheck']
    · rw [bitString_length, bitString_length, h.length_eq]
  exact h.changed (bitString_inj h.length_eq hsame.symm)

/-- What the encoder hands to the transport is one whole frame. -/
theorem Send.run_bytes {s : Send} {hooks : SendHooks} {provider : Option CrcProvider} {P : Nat}
    (hne : (s.run hooks provider P).2 ≠ []) :
    (s.run hooks provider P).2 = s.frame.bytes provider
    ∧ s.frame.content.length ≤ P - wireHeaderSize - wireTrailerSize := by
  simp only [Send.run, sendPacketCore, encodeFrame] at hne ⊢
  by_cases hconn : hooks.isConnected = false
  · rw [if_pos hconn] at hne
    exact absurd rfl hne
  · by_cases hbig : (buildFrame s.type s.payload s.offset s.includeDataOffset).content.length
        > P - wireHeaderSize - wireTrailerSize
    · rw [if_neg hconn, if_pos hbig] at hne
      exact absurd rfl hne
    · rw [if_neg hconn, if_neg hbig, Send.frame]
      dsimp only
      refine ⟨?_, by omega⟩
      split <;> rfl

/-- **A burst is reported as a CRC error**: a frame the encoder handed to the
transport, with a burst on it, is read to its end and rejected, unless the
clock ends the call before. -/
theorem burst_detected {s : Send} {hooks : SendHooks} {P P' : Nat}
    {corrupted rest : Bytes} {out : Option Nat} {toMs : Nat} {t : Transport}
    (hsent : (s.run hooks none P).2 ≠ []) (hP : P ≤ P')
    (herr : BurstError (s.run hooks none P).2 corrupted)
    (hl : t.Live) (hstream : t.stream = corrupted ++ rest) :
    ∃ r t', (∃ N, ∀ fuel, N ≤ fuel → recvPacket fuel none P' out toMs t = some (r, t'))
      ∧ ReadsTo toMs (.error .crc) rest t r t' := by
  obtain ⟨hbytes, hfit⟩ := Send.run_bytes hsent
  rw [hbytes] at herr
  have hcontent := buildFrame_content_lt s.type s.payload s.offset s.includeDataOffset
  have hdata := buildFrame_typeData_lt s.type s.payload s.offset s.includeDataOffset
  rw [← Send.frame] at hcontent hdata
  generalize s.frame = f at herr hcontent hdata hfit
  obtain ⟨-, -, hlenField, -⟩ := header_fields f.type f.flags hcontent hdata
  -- the corrupted bytes, cut where the frame's parts end
  obtain ⟨header, content, trailer, rfl, hheader, hlenc, htrailer⟩ :
      ∃ header content trailer : Bytes, corrupted = header ++ content ++ trailer
        ∧ header.length = wireHeaderSize ∧ content.length = f.content.length
        ∧ trailer.length = wireTrailerSize := by
    have hlen := herr.length_eq
    rw [Frame.bytes_length] at hlen
    refine ⟨corrupted.take 8, (corrupted.drop 8).take f.content.length,
      (corrupted.drop 8).drop f.content.length, ?_, ?_, ?_, ?_⟩
    · rw [List.append_assoc, List.take_append_drop, List.take_append_drop]
    all_goals
      simp only [List.length_take, List.length_drop, wireHeaderSize, wireTrailerSize]
      omega
  have hcl : getLe (slice 2 2 header) = content.length := by
    have hfield := herr.lengthField
    rw [f.bytes_parts, List.append_assoc, slice_left (by rw [hheader]; decide),
      slice_left (by rw [serializeFrameHeader_length]; decide)] at hfield
    rw [hfield, hlenField, hlenc]
  have hbad : checkParts none P' out header content trailer = .error .crc := by
    rw [checkParts, if_pos]
    apply herr.check_fails (putLe_length 4 _) htrailer
    exact getLe_putLe_of_lt (by simpa using (internalCrc32 none f.body).toNat_lt)
  rw [← hbad]
  apply recvPacket_parts none P' out toMs hheader htrailer hcl _ hl
  · rw [hstream, List.append_assoc, List.append_assoc]
  · omega

/-- An EOT frame with the last bit of its header and the first bit of its
trailer turned over. -/
theorem burst_detected_eot :
    let s : Send := ⟨.eot, [], 0, false⟩
    let corrupted : Bytes := [10, 0, 0, 0, 0, 0, 0, 0x80, 160, 195, 226, 244]
    BurstError (s.run openHooks none 512).2 corrupted
      ∧ ∃ r t', (∃ N, ∀ fuel, N ≤ fuel →
            recvPacket fuel none 512 (some 512) 1 (feed corrupted) = some (r, t'))
          ∧ ReadsTo 1 (.error .crc) [] (feed corrupted) r t' := by
  intro s corrupted
  have herr : BurstError (s.run openHooks none 512).2 corrupted := by
    refine ⟨by decide +kernel, by decide +kernel, by decide +kernel, 63, ?_⟩
    exact .of_ends (by decide +kernel) (by decide +kernel)
  refine ⟨herr, burst_detected (s := s) ?_ (Nat.le_refl 512) herr (feed_live _) ?_⟩
  · decide +kernel
  · rw [List.append_nil]
    rfl

end ValProtocol
