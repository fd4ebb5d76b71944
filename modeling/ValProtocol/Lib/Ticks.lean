/-
  ValProtocol.Lib.Ticks
  ─────────────────────
  A 32-bit tick counter that wraps, and the deadline test `now ≥ start + d`
  in plain unsigned arithmetic.

    • `passed_of_sameSide`    — on the same side of the wrap as the deadline
      the test says whether `d` ticks have gone by,
    • `passed_of_wrongSide` — on the other side it says the opposite.
-/
import Mathlib.Tactic.Ring

namespace Ticks

/-- The counter `e` ticks after it stood at `start`. -/
def after (start : UInt32) (e : Nat) : UInt32 := UInt32.ofNat (start.toNat + e)

/-- The counter has wrapped since `start` exactly when the deadline has. -/
def SameSide (start d : UInt32) (e : Nat) : Prop :=
  start.toNat + e < 2 ^ 32 ↔ start.toNat + d.toNat < 2 ^ 32

instance (start d : UInt32) (e : Nat) : Decidable (SameSide start d e) :=
  inferInstanceAs (Decidable (_ ↔ _))

theorem after_toNat (start : UInt32) (e : Nat) :
    (after start e).toNat = (start.toNat + e) % 2 ^ 32 := UInt32.toNat_ofNat'

section Test

variable {start d : UInt32} {e : Nat}

theorem passed_of_sameSide (he : e < 2 ^ 31) (hd : d.toNat < 2 ^ 31)
    (h : SameSide start d e) : start + d ≤ after start e ↔ d.toNat ≤ e := by
  have hlt := start.toNat_lt
  unfold SameSide at h
  rw [UInt32.le_iff_toNat_le, UInt32.toNat_add, after_toNat]
  omega

theorem passed_of_wrongSide (he : e < 2 ^ 31) (hd : d.toNat < 2 ^ 31)
    (h : ¬ SameSide start d e) : start + d ≤ after start e ↔ e < d.toNat := by
  have hlt := start.toNat_lt
  unfold SameSide at h
  rw [UInt32.le_iff_toNat_le, UInt32.toNat_add, after_toNat]
  omega

end Test

end Ticks
