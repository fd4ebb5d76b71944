/-
  ValProtocol.Lib.Memory
  ──────────────────────
  A buffer as a function from addresses to cells, with block writes and
  reads.  What a buffer held before anything was written to it is arbitrary.

    • `Memory.read_write` — a read inside the last write gives what was
      written, whatever the buffer held before,
    • `Memory.read_write_before`, `Memory.read_write_behind` — a read in front
      of it or behind it does not see it,
    • `Memory.write_append` — two adjacent blocks are one.
-/
import Mathlib.Data.List.Basic

/-- A buffer of cells of type `α`. -/
def Memory (α : Type*) := Nat → α

namespace Memory

variable {α : Type*}

/-- `memcpy` of `xs` to address `base`. -/
def write (m : Memory α) (base : Nat) (xs : List α) : Memory α := fun a =>
  if base ≤ a then (xs[a - base]?).getD (m a) else m a

/-- The `n` cells from `base` on. -/
def read (m : Memory α) (base n : Nat) : List α := (List.range n).map (fun i => m (base + i))

@[simp] theorem read_length (m : Memory α) (base n : Nat) : (m.read base n).length = n := by
  simp [read]

@[simp] theorem read_one (m : Memory α) (a : Nat) : m.read a 1 = [m a] := rfl

/-- A cell inside the last write. -/
theorem write_apply (m : Memory α) {base i : Nat} {xs : List α} (h : i < xs.length) :
    m.write base xs (base + i) = xs[i] := by
  unfold write
  rw [if_pos (Nat.le_add_right _ _), Nat.add_sub_cancel_left, List.getElem?_eq_getElem h,
    Option.getD_some]

/-- **A read inside the last write.** -/
theorem read_write (m : Memory α) (base : Nat) {k n : Nat} {xs : List α}
    (h : k + n ≤ xs.length) :
    (m.write base xs).read (base + k) n = (xs.drop k).take n := by
  apply List.ext_getElem
  · rw [read_length, List.length_take, List.length_drop]
    omega
  · intro i h1 h2
    rw [read_length] at h1
    have hi : k + i < xs.length := by omega
    simp only [read, List.getElem_map, List.getElem_range, List.getElem_take, List.getElem_drop]
    rw [Nat.add_assoc, write_apply m hi]

/-- Reading what was written. -/
theorem read_write_self (m : Memory α) (base : Nat) (xs : List α) :
    (m.write base xs).read base xs.length = xs := by
  have h := m.read_write base (show 0 + xs.length ≤ xs.length by omega)
  rwa [Nat.add_zero, List.drop_zero, List.take_length] at h

/-- **A read in front of the last write.** -/
theorem read_write_before (m : Memory α) {base start n : Nat} {xs : List α} (h : start + n ≤ base) :
    (m.write base xs).read start n = m.read start n := by
  unfold read
  apply List.map_congr_left
  intro i hi
  rw [List.mem_range] at hi
  unfold write
  rw [if_neg (by omega)]

/-- A cell behind the last write. -/
theorem write_apply_behind (m : Memory α) {base a : Nat} {xs : List α}
    (h : base + xs.length ≤ a) : m.write base xs a = m a := by
  unfold write
  rw [if_pos (by omega), List.getElem?_eq_none (by omega), Option.getD_none]

/-- A read behind the last write. -/
theorem read_write_behind (m : Memory α) {base start n : Nat} {xs : List α}
    (h : base + xs.length ≤ start) : (m.write base xs).read start n = m.read start n := by
  unfold read
  apply List.map_congr_left
  intro i _
  exact m.write_apply_behind (by omega)

@[simp] theorem write_nil (m : Memory α) (base : Nat) : m.write base [] = m := by
  funext a
  unfold write
  rw [List.getElem?_nil, Option.getD_none, ite_self]

/-- **Two adjacent blocks are one.** -/
theorem write_append (m : Memory α) (base : Nat) (xs ys : List α) :
    (m.write base xs).write (base + xs.length) ys = m.write base (xs ++ ys) := by
  funext a
  unfold write
  by_cases hbase : base ≤ a
  · by_cases hsecond : base + xs.length ≤ a
    · have hnone : xs[a - base]? = none := List.getElem?_eq_none (by omega)
      rw [if_pos hsecond, if_pos hbase, if_pos hbase, List.getElem?_append_right (by omega),
        hnone, Option.getD_none, Nat.sub_sub]
    · rw [if_neg hsecond, if_pos hbase, if_pos hbase, List.getElem?_append_left (by omega)]
  · rw [if_neg (by omega), if_neg hbase, if_neg hbase]

/-- Two adjacent reads are one. -/
theorem read_append (m : Memory α) (base n k : Nat) :
    m.read base n ++ m.read (base + n) k = m.read base (n + k) := by
  unfold read
  rw [List.range_add, List.map_append, List.map_map]
  congr 1
  apply List.map_congr_left
  intro i _
  show m (base + n + i) = m (base + (n + i))
  rw [Nat.add_assoc]

/-- Two reads give the same when the cells are the same. -/
theorem read_eq_iff {m m' : Memory α} {base n : Nat} :
    m.read base n = m'.read base n ↔ ∀ i < n, m (base + i) = m' (base + i) := by
  unfold read
  rw [List.map_inj_left]
  simp only [List.mem_range]

/-- A write carries an agreement over, inside and outside of what it covers. -/
theorem read_write_congr {m m' : Memory α} {base n : Nat} (start : Nat) (xs : List α)
    (h : m.read base n = m'.read base n) :
    (m.write start xs).read base n = (m'.write start xs).read base n := by
  rw [read_eq_iff] at h ⊢
  intro i hi
  unfold write
  rw [h i hi]

/-- A part of a read. -/
theorem read_part (m : Memory α) {base n k j : Nat} (h : k + j ≤ n) :
    ((m.read base n).drop k).take j = m.read (base + k) j := by
  obtain ⟨d, rfl⟩ := Nat.exists_eq_add_of_le h
  have hcut : m.read base (k + j + d)
      = m.read base k ++ (m.read (base + k) j ++ m.read (base + k + j) d) := by
    rw [m.read_append, m.read_append, Nat.add_assoc]
  have hskip : (m.read base k).length = k := m.read_length base k
  have hkeep : (m.read (base + k) j).length = j := m.read_length (base + k) j
  rw [hcut, List.drop_left' hskip, List.take_left' hkeep]

/-- The `n` cells from `base` on, as an array of that size. -/
def readVector (m : Memory α) (base n : Nat) : Vector α n :=
  ⟨(m.read base n).toArray, by simp⟩

@[simp] theorem readVector_toList (m : Memory α) (base n : Nat) :
    (m.readVector base n).toList = m.read base n := rfl

/-- The array that was stored is the array that is read. -/
theorem readVector_eq {m : Memory α} {base n : Nat} {v : Vector α n}
    (h : m.read base n = v.toList) : m.readVector base n = v := by
  apply Vector.toList_inj.mp
  rw [readVector_toList, h]

/-- A read cell by cell. -/
theorem read_cons_iff (m : Memory α) {base : Nat} {x : α} {xs : List α} :
    m.read base (x :: xs).length = x :: xs ↔ m base = x ∧ m.read (base + 1) xs.length = xs := by
  have hcons : m.read base (x :: xs).length = m base :: m.read (base + 1) xs.length := by
    simp only [read, List.length_cons, List.range_succ_eq_map, List.map_cons, List.map_map,
      Nat.add_zero]
    congr 1
    apply List.map_congr_left
    intro i _
    show m (base + (i + 1)) = m (base + 1 + i)
    rw [Nat.add_assoc, Nat.add_comm 1]
  rw [hcons, List.cons.injEq]

end Memory
