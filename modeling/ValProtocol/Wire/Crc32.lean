/-
  ValProtocol.Wire.Crc32
  ──────────────────────
  The table-driven CRC-32 of `src/val_core.c` (lines 125-183), its streaming
  form, and the session adapter that prefers a configured provider.

    • `crc32UpdateState_append` — the streaming state of a concatenation is
      the state of the parts in order,
    • `crc32_eq_finalize`       — the one-shot and the streaming form agree.
-/
import ValProtocol.Wire.Types

namespace ValProtocol

/-! ## §1. The table and the byte step. -/

/-- One round of the inner loop of `crc32_init_table`. -/
def crc32Round (c : UInt32) : UInt32 :=
  if c &&& 1 != 0 then (0xEDB88320 : UInt32) ^^^ (c >>> 1) else c >>> 1

/-- `crc32_table[i]`: eight rounds from `i`. -/
def crc32Table (i : Nat) : UInt32 :=
  (List.range 8).foldl (fun c _ => crc32Round c) (UInt32.ofNat i)

/-- `c = crc32_table[(c ^ p[i]) & 0xFF] ^ (c >> 8)`. -/
def crc32Byte (c : UInt32) (b : UInt8) : UInt32 :=
  crc32Table ((c ^^^ b.toUInt32) &&& 0xFF).toNat ^^^ (c >>> 8)

/-- `val_crc32`. -/
def crc32 (data : Bytes) : UInt32 :=
  data.foldl crc32Byte 0xFFFFFFFF ^^^ 0xFFFFFFFF

/-! ## §2. The streaming form. -/

/-- `val_crc32_init_state`. -/
def crc32InitState : UInt32 := 0xFFFFFFFF

/-- `val_crc32_update_state`. -/
def crc32UpdateState (state : UInt32) (data : Bytes) : UInt32 :=
  data.foldl crc32Byte state

/-- `val_crc32_finalize_state`. -/
def crc32FinalizeState (state : UInt32) : UInt32 := state ^^^ 0xFFFFFFFF

theorem crc32UpdateState_append (st : UInt32) (a b : Bytes) :
    crc32UpdateState (crc32UpdateState st a) b = crc32UpdateState st (a ++ b) := by
  simp only [crc32UpdateState, List.foldl_append]

theorem crc32_eq_finalize (data : Bytes) :
    crc32 data = crc32FinalizeState (crc32UpdateState crc32InitState data) := rfl

example : crc32 [0x31, 0x32, 0x33, 0x34, 0x35, 0x36, 0x37, 0x38, 0x39] = 0xCBF43926 := by
  decide +kernel

/-! ## §3. The session adapter. -/

/-- `crc32_func_t`: seed and data to the CRC. -/
abbrev CrcProvider := UInt32 → Bytes → UInt32

/-- `val_internal_crc32`. -/
def internalCrc32 (provider : Option CrcProvider) (data : Bytes) : UInt32 :=
  match provider with
  | some p => p 0xFFFFFFFF data
  | none => crc32 data

/-- What the header demands of a provider: IEEE 802.3 CRC-32, seeded with
`0xFFFFFFFF`, final XOR applied. -/
def StandardProvider (provider : Option CrcProvider) : Prop :=
  ∀ p, provider = some p → ∀ d, p 0xFFFFFFFF d = crc32 d

theorem internalCrc32_eq {provider : Option CrcProvider}
    (h : StandardProvider provider) (d : Bytes) :
    internalCrc32 provider d = crc32 d := by
  cases hp : provider with
  | none => rfl
  | some p => exact h p hp d

/-- Both sides compute the same checksum. -/
def SameCrc (a b : Option CrcProvider) : Prop :=
  ∀ d, internalCrc32 a d = internalCrc32 b d

theorem StandardProvider.sameCrc {a b : Option CrcProvider}
    (ha : StandardProvider a) (hb : StandardProvider b) : SameCrc a b := by
  intro d
  rw [internalCrc32_eq ha, internalCrc32_eq hb]

theorem standardProvider_none : StandardProvider none := by
  intro p hp
  cases hp

end ValProtocol
