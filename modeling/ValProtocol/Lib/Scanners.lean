/-
  ValProtocol.Lib.Scanners
  ────────────────────────
  Loops that walk through memory until they meet a stop character or their
  output is full, and a field such a loop is meant to stay inside.

  Nothing bounds a walk but what it reads: `onField` decides from the cells
  of the field alone whether it ends there.

    • `Scanner.ends_spec`  — a walk that the field ends reads nothing behind
      the field, and what it yields depends on the field only,
    • `Scanner.leaves_spec` — any other walk reads the cell behind the field.
-/
import ValProtocol.Lib.Memory

/-- `stop` is looked at first, then whether the output so far is `full`; any
other character appends what it emits. -/
structure Scanner (α β : Type*) where
  stop : α → Bool
  full : List β → Bool
  emit : α → List β

/-- A walk in front of a cell. -/
structure Scanner.Walk (β : Type*) where
  addr : Nat
  out : List β

namespace Scanner

variable {α β : Type*} (sc : Scanner α β) (m : Memory α)

/-! ## §1. Walks. -/

/-- One cell on, unless the loop is left there. -/
def step (w : Walk β) : Option (Walk β) :=
  if sc.stop (m w.addr) || sc.full w.out then none
  else some ⟨w.addr + 1, w.out ++ sc.emit (m w.addr)⟩

/-- `n` cells on. -/
def run : Nat → Walk β → Option (Walk β)
  | 0, w => some w
  | n + 1, w => (sc.step m w).bind (run n)

/-- No cell from `limit` on is read. -/
def StaysBelow (limit : Nat) (w : Walk β) : Prop :=
  ∀ n w', sc.run m n w = some w' → w'.addr < limit

/-- The loop is left with this output. -/
def Yields (w : Walk β) (out : List β) : Prop :=
  ∃ n w', sc.run m n w = some w' ∧ sc.step m w' = none ∧ w'.out = out

/-- The walk through the cells of a field: its output, or `none` when the field
does not end it. -/
def onField (sc : Scanner α β) : List β → List α → Option (List β)
  | _, [] => none
  | out, c :: cs => if sc.stop c || sc.full out then some out else onField sc (out ++ sc.emit c) cs

variable {sc m}

/-- A walk yields one thing. -/
theorem Yields.unique {w : Walk β} {a b : List β} (ha : sc.Yields m w a)
    (hb : sc.Yields m w b) : a = b := by
  obtain ⟨n, u, hn, hu, rfl⟩ := ha
  obtain ⟨k, v, hk, hv, rfl⟩ := hb
  -- each run is told by its first cell, so the two go on together
  induction n generalizing w k with
  | zero =>
      obtain rfl := Option.some.inj hn
      cases k with
      | zero =>
          obtain rfl := Option.some.inj hk
          rfl
      | succ k =>
          rw [run, hu] at hk
          cases hk
  | succ n ih =>
      rw [run] at hn
      obtain ⟨w₁, hstep, hn⟩ := Option.bind_eq_some_iff.mp hn
      cases k with
      | zero =>
          obtain rfl := Option.some.inj hk
          rw [hstep] at hv
          cases hv
      | succ k =>
          rw [run, hstep] at hk
          exact ih hn k hk

/-! ## §2. A field in memory. -/

/-- A walk that leaves at once. -/
theorem yields_here {w : Walk β} (h : sc.step m w = none) :
    sc.StaysBelow m (w.addr + 1) w ∧ sc.Yields m w w.out := by
  refine ⟨?_, 0, w, rfl, h, rfl⟩
  intro n w' hrun
  cases n with
  | zero =>
      obtain rfl := Option.some.inj hrun
      exact Nat.lt_succ_self _
  | succ n =>
      rw [run, h] at hrun
      cases hrun

/-- **A walk the field ends.** -/
theorem ends_spec : ∀ (field : List α) (w : Walk β) {out : List β},
    m.read w.addr field.length = field → sc.onField w.out field = some out →
    sc.StaysBelow m (w.addr + field.length) w ∧ sc.Yields m w out := by
  intro field
  induction field with
  | nil =>
      intro w out _ h
      cases h
  | cons c cs ih =>
      intro w out hread h
      obtain ⟨hc, hcs⟩ := (Memory.read_cons_iff m).mp hread
      rw [List.length_cons]
      by_cases hleft : (sc.stop c || sc.full w.out) = true
      · rw [onField, if_pos hleft] at h
        obtain rfl := Option.some.inj h
        have hstep : sc.step m w = none := by
          rw [step, hc, if_pos hleft]
        obtain ⟨hbelow, hyields⟩ := yields_here hstep
        refine ⟨?_, hyields⟩
        intro n w' hrun
        have := hbelow n w' hrun
        omega
      · -- one cell on, the induction is on the field
        rw [onField, if_neg hleft] at h
        have hstep : sc.step m w = some ⟨w.addr + 1, w.out ++ sc.emit c⟩ := by
          rw [step, hc, if_neg hleft]
        obtain ⟨hbelow, n, w', hrun, hend, hout⟩ := ih ⟨w.addr + 1, w.out ++ sc.emit c⟩ hcs h
        refine ⟨?_, n + 1, w', by rw [run, hstep]; exact hrun, hend, hout⟩
        intro k v hk
        cases k with
        | zero =>
            obtain rfl := Option.some.inj hk
            omega
        | succ k =>
            rw [run, hstep] at hk
            have : v.addr < w.addr + 1 + cs.length := hbelow k v hk
            omega

/-- **A walk the field does not end** comes to the cell behind it. -/
theorem leaves_spec : ∀ (field : List α) (w : Walk β),
    m.read w.addr field.length = field → sc.onField w.out field = none →
    sc.run m field.length w
      = some ⟨w.addr + field.length, w.out ++ field.flatMap sc.emit⟩ := by
  intro field
  induction field with
  | nil =>
      intro w _ _
      simp [run]
  | cons c cs ih =>
      intro w hread h
      obtain ⟨hc, hcs⟩ := (Memory.read_cons_iff m).mp hread
      rw [onField] at h
      split at h
      · cases h
      · rename_i hleft
        -- the field does not end it here, so it takes the next cell
        have hstep : sc.step m w = some ⟨w.addr + 1, w.out ++ sc.emit c⟩ := by
          rw [step, hc, if_neg hleft]
        have hrest := ih ⟨w.addr + 1, w.out ++ sc.emit c⟩ hcs h
        rw [List.length_cons, run, hstep, Option.bind_some, hrest, List.flatMap_cons,
          List.append_assoc, Nat.add_assoc, Nat.add_comm 1]

/-- The field decides whether the walk stays inside. -/
theorem staysBelow_iff (sc : Scanner α β) {field : List α} (w : Walk β)
    (hread : m.read w.addr field.length = field) :
    sc.StaysBelow m (w.addr + field.length) w ↔ (sc.onField w.out field).isSome = true := by
  rcases h : sc.onField w.out field with _ | out
  · refine iff_of_false ?_ (by simp)
    intro hstays
    exact Nat.lt_irrefl _ (hstays _ _ (leaves_spec field w hread h))
  · exact iff_of_true (ends_spec field w hread h).1 rfl

end Scanner
