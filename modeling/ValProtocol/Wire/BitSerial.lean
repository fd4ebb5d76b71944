/-
  ValProtocol.Wire.BitSerial
  ──────────────────────────
  `val_crc32` and its streaming form (`src/val_core.c` lines 129-183) against
  the CRC-32 of IEEE 802.3, computed a bit at a time: reflected polynomial
  `0xEDB88320`, initial value `0xFFFFFFFF`, final complement.

    • `bitSerial_feed`  — the reference is the register of `ReflectedCrc`,
    • `crc32UpdateState_chunks` — a state goes through chunks as through the
      bytes in them,
    • `crc32_ieee`      — table and reference agree, in one piece or in any
      chunks.
-/
import ValProtocol.Wire.Corruption

namespace ValProtocol

open ReflectedCrc

/-! ## §1. The reference. -/

/-- One message bit: it is added at the low end, and the register is divided. -/
def bitStep (c : UInt32) (bit : Bool) : UInt32 :=
  let c := c ^^^ (if bit then 1 else 0)
  if c &&& 1 = 1 then (c >>> 1) ^^^ 0xEDB88320 else c >>> 1

/-- The bits of a message, byte by byte, each from its least significant bit. -/
def messageBits (data : Bytes) : List Bool :=
  data.flatMap (fun b => (List.range 8).map (fun k => b.toNat.testBit k))

/-- **CRC-32/IEEE** a bit at a time. -/
def bitSerialCrc32 (data : Bytes) : UInt32 :=
  ~~~ (messageBits data).foldl bitStep 0xFFFFFFFF

/-! ## §2. Agreement. -/

theorem messageBits_eq (data : Bytes) : messageBits data = bitString data := rfl

/-- One bit of the reference is one step of the register. -/
theorem bitStep_feedBit (c : UInt32) (bit : Bool) :
    (bitStep c bit).toBitVec = feedBit crc32Poly c.toBitVec bit := by
  have hbit : (c ^^^ (if bit then 1 else 0)).toBitVec = c.toBitVec ^^^ ofBit bit := by
    cases bit <;> rfl
  have hround : bitStep c bit = crc32Round (c ^^^ (if bit then 1 else 0)) := by
    unfold bitStep crc32Round
    dsimp only
    generalize c ^^^ (if bit then 1 else 0) = d
    have hlow : d &&& 1 = 1 ↔ (d &&& 1 != 0) = true := by
      have hmod : (d &&& 1).toNat = d.toNat % 2 := by
        rw [UInt32.toNat_and]
        exact Nat.and_one_is_mod _
      rw [bne_iff_ne, ne_eq, ← UInt32.toNat_inj, ← UInt32.toNat_inj, hmod]
      show d.toNat % 2 = 1 ↔ ¬ d.toNat % 2 = 0
      omega
    -- the two tests of the low bit say the same
    by_cases hd : d &&& 1 = 1
    · rw [if_pos hd, if_pos (hlow.mp hd), UInt32.xor_comm]
    · rw [if_neg hd, if_neg (fun h => hd (hlow.mpr h))]
  rw [hround, crc32Round_toBitVec, hbit]
  rfl

theorem bitSerial_feed (c : UInt32) (bits : List Bool) :
    (bits.foldl bitStep c).toBitVec = ReflectedCrc.feed crc32Poly c.toBitVec bits := by
  -- on the message bits, whatever the register holds
  induction bits generalizing c with
  | nil => rfl
  | cons bit bits ih =>
      rw [List.foldl_cons, ih, bitStep_feedBit]
      rfl

/-- The table does eight bits at once. -/
theorem crc32UpdateState_bitSerial (state : UInt32) (data : Bytes) :
    crc32UpdateState state data = (messageBits data).foldl bitStep state := by
  apply UInt32.toBitVec_inj.mp
  rw [crc32UpdateState_feed, bitSerial_feed, messageBits_eq]

/-- The final XOR is the complement. -/
theorem xor_allOnes (c : UInt32) : c ^^^ 0xFFFFFFFF = ~~~c := by
  apply UInt32.toBitVec_inj.mp
  rw [UInt32.toBitVec_xor, UInt32.toBitVec_not, BitVec.not_def, BitVec.xor_comm]
  rfl

/-- Chunk after chunk is byte after byte. -/
theorem crc32UpdateState_chunks (state : UInt32) (chunks : List Bytes) :
    chunks.foldl crc32UpdateState state = crc32UpdateState state chunks.flatten := by
  induction chunks generalizing state with
  | nil => rfl
  | cons chunk chunks ih =>
      rw [List.foldl_cons, ih, List.flatten_cons, crc32UpdateState_append]

/-- **The table-driven CRC is CRC-32/IEEE**, computed at once or through any
chunks. -/
theorem crc32_ieee (data : Bytes) :
    crc32 data = bitSerialCrc32 data
    ∧ ∀ chunks : List Bytes, chunks.flatten = data →
      crc32FinalizeState (chunks.foldl crc32UpdateState crc32InitState) = crc32 data := by
  constructor
  · rw [crc32_eq_finalize, crc32UpdateState_bitSerial]
    exact xor_allOnes _
  · rintro chunks rfl
    rw [crc32UpdateState_chunks, crc32_eq_finalize]

end ValProtocol
