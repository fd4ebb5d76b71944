/-
  ValProtocol.Wire.ByteOrder
  ──────────────────────────
  `VAL_PUT_LE16/32/64` and `VAL_GET_LE16/32/64`
  (`include/val_byte_order.h` lines 79-296) in their three bodies: a store
  through a pointer on little-endian machines, shifts and masks on big-endian
  ones, and the choice between the two at run time.

    • `Target.putWord_eq`, `Target.getWord_eq` — whatever body was compiled,
      the bytes of the word are in the buffer from the lowest on,
    • `Target.getLe16_of_read` … — a word is read back from its bytes,
    • `Target.putLe_getLe16` … — and its bytes from the word.
-/
import ValProtocol.Lib.Memory
import ValProtocol.Wire.Types

namespace ValProtocol

open LittleEndian

/-! ## §1. Machines and builds. -/

/-- The order in which a machine keeps the bytes of an integer. -/
inductive ByteOrder where
  | little
  | big
  deriving Repr, DecidableEq

/-- The bytes of an unsigned object of `w` bytes. -/
def ByteOrder.object : ByteOrder → Nat → Nat → Bytes
  | .little, w, v => putLe w v
  | .big, w, v => (putLe w v).reverse

/-- The unsigned object kept in these bytes. -/
def ByteOrder.value : ByteOrder → Bytes → Nat
  | .little, bs => getLe bs
  | .big, bs => getLe bs.reverse

/-- The bodies the macros have under `#if VAL_LITTLE_ENDIAN`,
`#elif VAL_BIG_ENDIAN` and `#else`. -/
inductive Branch where
  | littleEndian
  | bigEndian
  | runtime
  deriving Repr, DecidableEq

/-- A build for a machine.  `VAL_LITTLE_ENDIAN` is detected from the
compiler's own macros, so it is set on little-endian machines only. -/
structure Target where
  machine : ByteOrder
  branch : Branch
  detected : branch = .littleEndian → machine = .little

/-- `val_runtime_is_little_endian`: the first byte of `0x00FF` in memory. -/
def Target.runtimeIsLittleEndian (t : Target) : Bool :=
  (t.machine.object 2 0x00FF).headD 0 == 0xFF

/-! ## §2. Stores and loads. -/

/-- `*((uintN_t *)(void *)(buf)) = val`. -/
def Target.storeObject (t : Target) (w : Nat) (wire : Memory UInt8) (a v : Nat) : Memory UInt8 :=
  wire.write a (t.machine.object w v)

/-- `*((const uintN_t *)(const void *)(buf))`. -/
def Target.loadObject (t : Target) (w : Nat) (wire : Memory UInt8) (a : Nat) : Nat :=
  t.machine.value (wire.read a w)

/-- `(buf)[i] = (uint8_t)((__v >> 8 * i) & 0xFFu)` for every `i` below `w`. -/
def storeBytes (w : Nat) (wire : Memory UInt8) (a v : Nat) : Memory UInt8 :=
  wire.write a ((List.range w).map (fun i => UInt8.ofNat ((v >>> (8 * i)) &&& 0xFF)))

/-- `(buf)[0] | (buf)[1] << 8 | …`, over the bytes below `w`. -/
def loadBytes (w : Nat) (wire : Memory UInt8) (a : Nat) : Nat :=
  (List.range w).foldl (fun acc i => acc ||| (wire (a + i)).toNat <<< (8 * i)) 0

/-- `VAL_PUT_LE16`, `32` and `64`, by the number of bytes. -/
def Target.putWord (t : Target) (w : Nat) (wire : Memory UInt8) (a v : Nat) : Memory UInt8 :=
  match t.branch with
  | .littleEndian => t.storeObject w wire a v
  | .bigEndian => storeBytes w wire a v
  | .runtime =>
      if t.runtimeIsLittleEndian then t.storeObject w wire a v else storeBytes w wire a v

/-- `VAL_GET_LE16`, `32` and `64`, by the number of bytes. -/
def Target.getWord (t : Target) (w : Nat) (wire : Memory UInt8) (a : Nat) : Nat :=
  match t.branch with
  | .littleEndian => t.loadObject w wire a
  | .bigEndian => loadBytes w wire a
  | .runtime => if t.runtimeIsLittleEndian then t.loadObject w wire a else loadBytes w wire a

/-- `VAL_PUT_LE16(wire + a, val)`. -/
def Target.putLe16 (t : Target) (wire : Memory UInt8) (a : Nat) (val : UInt16) : Memory UInt8 :=
  t.putWord 2 wire a val.toNat
/-- `VAL_PUT_LE32(wire + a, val)`. -/
def Target.putLe32 (t : Target) (wire : Memory UInt8) (a : Nat) (val : UInt32) : Memory UInt8 :=
  t.putWord 4 wire a val.toNat
/-- `VAL_PUT_LE64(wire + a, val)`. -/
def Target.putLe64 (t : Target) (wire : Memory UInt8) (a : Nat) (val : UInt64) : Memory UInt8 :=
  t.putWord 8 wire a val.toNat
/-- `VAL_GET_LE16(wire + a)`. -/
def Target.getLe16 (t : Target) (wire : Memory UInt8) (a : Nat) : UInt16 :=
  UInt16.ofNat (t.getWord 2 wire a)
/-- `VAL_GET_LE32(wire + a)`. -/
def Target.getLe32 (t : Target) (wire : Memory UInt8) (a : Nat) : UInt32 :=
  UInt32.ofNat (t.getWord 4 wire a)
/-- `VAL_GET_LE64(wire + a)`. -/
def Target.getLe64 (t : Target) (wire : Memory UInt8) (a : Nat) : UInt64 :=
  UInt64.ofNat (t.getWord 8 wire a)

/-! ## §3. Every body has the same effect. -/

theorem Target.runtimeIsLittleEndian_iff (t : Target) :
    t.runtimeIsLittleEndian = true ↔ t.machine = .little := by
  unfold runtimeIsLittleEndian
  cases t.machine with
  | little => decide
  | big => decide

theorem Target.storeObject_eq {t : Target} (h : t.machine = .little) (w : Nat)
    (wire : Memory UInt8) (a v : Nat) : t.storeObject w wire a v = wire.write a (putLe w v) := by
  rw [storeObject, h]
  rfl

theorem Target.loadObject_eq {t : Target} (h : t.machine = .little) (w : Nat)
    (wire : Memory UInt8) (a : Nat) : t.loadObject w wire a = getLe (wire.read a w) := by
  rw [loadObject, h]
  rfl

theorem storeBytes_eq (w : Nat) (wire : Memory UInt8) (a v : Nat) :
    storeBytes w wire a v = wire.write a (putLe w v) := by
  rw [storeBytes, ← putLe_eq_shifts]

theorem loadBytes_eq (w : Nat) (wire : Memory UInt8) (a : Nat) :
    loadBytes w wire a = getLe (wire.read a w) :=
  getLe_eq_shifts (fun i => wire (a + i)) w

/-- **A word is stored from its lowest byte on**, in every build. -/
theorem Target.putWord_eq (t : Target) (w : Nat) (wire : Memory UInt8) (a v : Nat) :
    t.putWord w wire a v = wire.write a (putLe w v) := by
  unfold putWord
  cases hbranch : t.branch with
  | littleEndian => exact storeObject_eq (t.detected hbranch) w wire a v
  | bigEndian => exact storeBytes_eq w wire a v
  | runtime =>
      -- an object is stored whole only where the machine's order is the wire's
      dsimp only
      split
      · rename_i hlittle
        exact storeObject_eq (t.runtimeIsLittleEndian_iff.mp hlittle) w wire a v
      · exact storeBytes_eq w wire a v

/-- **A word is loaded from its lowest byte on**, in every build. -/
theorem Target.getWord_eq (t : Target) (w : Nat) (wire : Memory UInt8) (a : Nat) :
    t.getWord w wire a = getLe (wire.read a w) := by
  unfold getWord
  cases hbranch : t.branch with
  | littleEndian => exact loadObject_eq (t.detected hbranch) w wire a
  | bigEndian => exact loadBytes_eq w wire a
  | runtime =>
      dsimp only
      split
      · rename_i hlittle
        exact loadObject_eq (t.runtimeIsLittleEndian_iff.mp hlittle) w wire a
      · exact loadBytes_eq w wire a

theorem Target.getWord_lt (t : Target) (w : Nat) (wire : Memory UInt8) (a : Nat) :
    t.getWord w wire a < 256 ^ w := by
  have h := getLe_lt (wire.read a w)
  rwa [Memory.read_length, ← t.getWord_eq] at h

/-! ## §4. The words of the wire formats. -/

/-- Storing the number that some bytes denote restores them. -/
theorem putLe_getLe_read (w : Nat) (wire : Memory UInt8) (a : Nat) :
    putLe w (getLe (wire.read a w)) = wire.read a w := by
  have h := putLe_getLe (wire.read a w)
  rwa [Memory.read_length] at h

section

variable (t : Target) {wire : Memory UInt8} {a : Nat}

@[simp] theorem Target.putLe16_eq (v : UInt16) : t.putLe16 wire a v = wire.write a (putLe 2 v.toNat) :=
  t.putWord_eq 2 wire a v.toNat

@[simp] theorem Target.putLe32_eq (v : UInt32) : t.putLe32 wire a v = wire.write a (putLe 4 v.toNat) :=
  t.putWord_eq 4 wire a v.toNat

@[simp] theorem Target.putLe64_eq (v : UInt64) : t.putLe64 wire a v = wire.write a (putLe 8 v.toNat) :=
  t.putWord_eq 8 wire a v.toNat

theorem Target.getLe16_of_read {v : UInt16} (h : wire.read a 2 = putLe 2 v.toNat) :
    t.getLe16 wire a = v := by
  rw [getLe16, t.getWord_eq, h, getLe_putLe_of_lt v.toNat_lt, UInt16.ofNat_toNat]

theorem Target.getLe32_of_read {v : UInt32} (h : wire.read a 4 = putLe 4 v.toNat) :
    t.getLe32 wire a = v := by
  rw [getLe32, t.getWord_eq, h, getLe_putLe_of_lt v.toNat_lt, UInt32.ofNat_toNat]

theorem Target.getLe64_of_read {v : UInt64} (h : wire.read a 8 = putLe 8 v.toNat) :
    t.getLe64 wire a = v := by
  rw [getLe64, t.getWord_eq, h, getLe_putLe_of_lt v.toNat_lt, UInt64.ofNat_toNat]

theorem Target.getLe16_toNat : (t.getLe16 wire a).toNat = getLe (wire.read a 2) := by
  rw [getLe16, UInt16.toNat_ofNat_of_lt' (t.getWord_lt 2 wire a), t.getWord_eq]

theorem Target.getLe32_toNat : (t.getLe32 wire a).toNat = getLe (wire.read a 4) := by
  rw [getLe32, UInt32.toNat_ofNat_of_lt' (t.getWord_lt 4 wire a), t.getWord_eq]

theorem Target.getLe64_toNat : (t.getLe64 wire a).toNat = getLe (wire.read a 8) := by
  rw [getLe64, UInt64.toNat_ofNat_of_lt' (t.getWord_lt 8 wire a), t.getWord_eq]

@[simp] theorem Target.putLe_getLe16 : putLe 2 (t.getLe16 wire a).toNat = wire.read a 2 := by
  rw [t.getLe16_toNat, putLe_getLe_read]

@[simp] theorem Target.putLe_getLe32 : putLe 4 (t.getLe32 wire a).toNat = wire.read a 4 := by
  rw [t.getLe32_toNat, putLe_getLe_read]

@[simp] theorem Target.putLe_getLe64 : putLe 8 (t.getLe64 wire a).toNat = wire.read a 8 := by
  rw [t.getLe64_toNat, putLe_getLe_read]

end

end ValProtocol
