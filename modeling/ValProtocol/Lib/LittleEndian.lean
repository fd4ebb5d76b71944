/-
  ValProtocol.Lib.LittleEndian
  ────────────────────────────
  Fixed-width little-endian numbers over byte lists.

  `putLe w v` is the string a `w`-byte store of `v` leaves behind, `getLe`
  the number a byte string denotes.  The two are inverse up to the width:

    • `getLe_putLe`  — reading back a store gives `v mod 256^w`,
    • `putLe_getLe`  — storing what was read gives the same bytes,
    • `getLe_lt`     — a `w`-byte string denotes a number below `256^w`,
    • `putLe_eq_shifts`, `getLe_eq_shifts` — the same by shifts and masks.

  `slice off w bs` is the field of `w` bytes at position `off`; `slice_skip`
  and `slice_here` walk a concatenation of fields to the one that is read.
-/
import Mathlib.Data.List.Basic
import Mathlib.Tactic.Ring

namespace LittleEndian

/-- The `w` low bytes of `v`, least significant first. -/
def putLe : Nat → Nat → List UInt8
  | 0, _ => []
  | w + 1, v => UInt8.ofNat v :: putLe w (v / 256)

/-- The number a byte string denotes, least significant byte first. -/
def getLe : List UInt8 → Nat
  | [] => 0
  | b :: bs => b.toNat + 256 * getLe bs

@[simp] theorem putLe_length (w v : Nat) : (putLe w v).length = w := by
  induction w generalizing v with
  | zero => rfl
  | succ w ih => simp [putLe, ih]

/-- Reading back a `w`-byte store gives the value modulo `256^w`. -/
theorem getLe_putLe (w v : Nat) : getLe (putLe w v) = v % 256 ^ w := by
  induction w generalizing v with
  | zero => simp [putLe, getLe, Nat.mod_one]
  | succ w ih =>
      have hb : (UInt8.ofNat v).toNat = v % 256 := by simp
      show (UInt8.ofNat v).toNat + 256 * getLe (putLe w (v / 256)) = _
      rw [hb, ih, pow_succ, Nat.mul_comm (256 ^ w) 256, Nat.mod_mul]

/-- A value that fits the width is read back unchanged. -/
theorem getLe_putLe_of_lt {w v : Nat} (h : v < 256 ^ w) :
    getLe (putLe w v) = v := by
  rw [getLe_putLe, Nat.mod_eq_of_lt h]

theorem getLe_lt (bs : List UInt8) : getLe bs < 256 ^ bs.length := by
  induction bs with
  | nil => simp [getLe]
  | cons b bs ih =>
      have hb : b.toNat < 256 := b.toNat_lt
      simp only [getLe, List.length_cons, pow_succ]
      omega

/-- Storing what was read restores the bytes. -/
theorem putLe_getLe (bs : List UInt8) : putLe bs.length (getLe bs) = bs := by
  induction bs with
  | nil => rfl
  | cons b bs ih =>
      have hb : b.toNat < 256 := b.toNat_lt
      have hdiv : (b.toNat + 256 * getLe bs) / 256 = getLe bs := by omega
      have hlow : UInt8.ofNat (b.toNat + 256 * getLe bs) = b := by
        apply UInt8.toNat_inj.mp
        simp only [UInt8.toNat_ofNat']
        omega
      show UInt8.ofNat (b.toNat + 256 * getLe bs)
          :: putLe bs.length ((b.toNat + 256 * getLe bs) / 256) = _
      rw [hdiv, hlow, ih]

@[simp] theorem putLe_one (b : UInt8) : putLe 1 b.toNat = [b] :=
  congrArg (fun x => [x]) (UInt8.ofNat_toNat)

@[simp] theorem getLe_one (b : UInt8) : getLe [b] = b.toNat := by
  show b.toNat + 256 * 0 = b.toNat
  rw [Nat.mul_zero, Nat.add_zero]

theorem getLe_append (xs ys : List UInt8) :
    getLe (xs ++ ys) = getLe xs + 256 ^ xs.length * getLe ys := by
  induction xs with
  | nil => simp [getLe]
  | cons x xs ih =>
      show x.toNat + 256 * getLe (xs ++ ys) = x.toNat + 256 * getLe xs + _
      rw [ih, List.length_cons, pow_succ]
      ring

/-! ## Shifts and masks. -/

/-- Byte `i` of a store is the value shifted down by `8 * i` bits and masked. -/
theorem putLe_eq_shifts (w v : Nat) :
    putLe w v = (List.range w).map (fun i => UInt8.ofNat ((v >>> (8 * i)) &&& 0xFF)) := by
  have hmask : ∀ x : Nat, UInt8.ofNat (x &&& 0xFF) = UInt8.ofNat x := by
    intro x
    apply UInt8.toNat_inj.mp
    have hx : x &&& 0xFF = x % 256 := Nat.and_two_pow_sub_one_eq_mod x 8
    simp [hx]
  simp only [hmask]
  -- on the width: the bytes behind the first are those of `v / 256`
  induction w generalizing v with
  | zero => rfl
  | succ w ih =>
      have hshift : ∀ i, v >>> (8 * (i + 1)) = (v / 256) >>> (8 * i) := by
        intro i
        rw [Nat.mul_succ, Nat.add_comm, Nat.shiftRight_add, Nat.shiftRight_eq_div_pow v 8]
      rw [List.range_succ_eq_map, List.map_cons, List.map_map]
      show UInt8.ofNat v :: putLe w (v / 256) = _
      rw [ih]
      congr 1
      apply List.map_congr_left
      intro i _
      show _ = UInt8.ofNat (v >>> (8 * (i + 1)))
      rw [hshift]

/-- Bytes shifted up to their places and joined by OR. -/
theorem getLe_eq_shifts (b : Nat → UInt8) (w : Nat) :
    (List.range w).foldl (fun acc i => acc ||| (b i).toNat <<< (8 * i)) 0
      = getLe ((List.range w).map b) := by
  induction w with
  | zero => rfl
  | succ w ih =>
      have hlt : getLe ((List.range w).map b) < 2 ^ (8 * w) := by
        have h := getLe_lt ((List.range w).map b)
        rwa [List.length_map, List.length_range, show (256 : Nat) = 2 ^ 8 from rfl,
          ← pow_mul] at h
      -- the next byte goes where all the bits so far are zero
      have hor : getLe ((List.range w).map b) ||| (b w).toNat <<< (8 * w)
          = getLe ((List.range w).map b) + 2 ^ (8 * w) * (b w).toNat := by
        rw [Nat.or_comm, ← Nat.shiftLeft_add_eq_or_of_lt hlt, Nat.shiftLeft_eq]
        ring
      rw [List.range_succ, List.foldl_append, List.map_append, getLe_append, ih]
      show getLe ((List.range w).map b) ||| (b w).toNat <<< (8 * w) = _
      rw [hor, List.length_map, List.length_range, pow_mul]
      show _ + 256 ^ w * _ = _ + 256 ^ w * ((b w).toNat + 256 * 0)
      rw [Nat.mul_zero, Nat.add_zero]

/-! ## Fields at fixed positions. -/

/-- The `w` bytes at position `off`. -/
def slice (off w : Nat) (bs : List UInt8) : List UInt8 := (bs.drop off).take w

/-- A field behind `a` is the same field of the rest. -/
theorem slice_skip {off w : Nat} {a b : List UInt8} (h : a.length ≤ off) :
    slice off w (a ++ b) = slice (off - a.length) w b := by
  simp only [slice, List.drop_append, List.drop_eq_nil_of_le h, List.nil_append]

/-- The leading field of a concatenation. -/
theorem slice_here {w : Nat} {a b : List UInt8} (h : a.length = w) :
    slice 0 w (a ++ b) = a := by
  simp only [slice, List.drop_zero, ← h, List.take_left]

/-- A field inside the front of a concatenation. -/
theorem slice_left {off w : Nat} {a b : List UInt8} (h : off + w ≤ a.length) :
    slice off w (a ++ b) = slice off w a := by
  rw [slice, slice, List.drop_append_of_le_length (by omega),
    List.take_append_of_le_length (by rw [List.length_drop]; omega)]

/-- A field that is the whole string. -/
theorem slice_all {w : Nat} {a : List UInt8} (h : a.length = w) :
    slice 0 w a = a := by
  simp only [slice, List.drop_zero, ← h, List.take_length]

end LittleEndian
