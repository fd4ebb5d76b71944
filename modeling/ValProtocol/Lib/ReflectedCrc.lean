/-
  ValProtocol.Lib.ReflectedCrc
  ────────────────────────────
  The shift register behind a reflected CRC of any width, one bit at a time.

  `shift poly` divides the register by `x` modulo the polynomial; a message
  bit enters at the low end before the shift.  Three facts carry the theory:

    • `feed_xor`    — the register is linear over GF(2) in its start and in
      the message,
    • `shift_eq_zero` — with the top coefficient set, a shift loses nothing,
    • `feed_eq_shifts` — a message no longer than the register may be added
      to it at once.

  Together they give the burst theorem:

    • `feed_inj_of_burst` — two messages that differ only inside one window
      of the register's width and leave the same register behind are equal.
-/
import Mathlib.Data.List.GetD
import Mathlib.Logic.Function.Iterate
import Mathlib.Tactic.Set

namespace ReflectedCrc

variable {w : Nat}

/-! ## §1. The register. -/

/-- One step without input. -/
def shift (poly c : BitVec w) : BitVec w :=
  if c.getLsbD 0 then poly ^^^ (c >>> 1) else c >>> 1

/-- A message bit at the low end of the register. -/
def ofBit (b : Bool) : BitVec w := if b then 1#w else 0#w

/-- One step with a message bit. -/
def feedBit (poly c : BitVec w) (b : Bool) : BitVec w := shift poly (c ^^^ ofBit b)

/-- A whole message, first bit first. -/
def feed (poly c : BitVec w) (bits : List Bool) : BitVec w := bits.foldl (feedBit poly) c

/-- `n` steps without input. -/
def shifts (poly : BitVec w) (n : Nat) (c : BitVec w) : BitVec w := (shift poly)^[n] c

/-- A message as a register content: bit `i` at position `i`. -/
def pack : List Bool → BitVec w
  | [] => 0#w
  | b :: bs => ofBit b ^^^ (pack bs <<< 1)

@[simp] theorem feed_nil (poly c : BitVec w) : feed poly c [] = c := rfl

@[simp] theorem feed_cons (poly c : BitVec w) (b : Bool) (bs : List Bool) :
    feed poly c (b :: bs) = feed poly (feedBit poly c b) bs := rfl

theorem feed_append (poly c : BitVec w) (xs ys : List Bool) :
    feed poly c (xs ++ ys) = feed poly (feed poly c xs) ys :=
  List.foldl_append

@[simp] theorem shifts_zero (poly c : BitVec w) : shifts poly 0 c = c := rfl

theorem shifts_succ (poly c : BitVec w) (n : Nat) :
    shifts poly (n + 1) c = shifts poly n (shift poly c) := rfl

@[simp] theorem ofBit_false : ofBit false = 0#w := rfl

/-! ## §2. Linearity. -/

theorem shift_xor (poly a b : BitVec w) :
    shift poly (a ^^^ b) = shift poly a ^^^ shift poly b := by
  have hshift : (a ^^^ b) >>> 1 = (a >>> 1) ^^^ (b >>> 1) := BitVec.ushiftRight_xor_distrib ..
  unfold shift
  rw [hshift, BitVec.getLsbD_xor]
  generalize a >>> 1 = x
  generalize b >>> 1 = y
  have htwice : poly ^^^ x ^^^ (poly ^^^ y) = x ^^^ y := by
    rw [BitVec.xor_comm poly x, BitVec.xor_assoc, ← BitVec.xor_assoc poly, BitVec.xor_self,
      BitVec.zero_xor]
  -- the polynomial enters once, or twice and cancels
  cases a.getLsbD 0 <;> cases b.getLsbD 0
  · rfl
  · show poly ^^^ (x ^^^ y) = x ^^^ (poly ^^^ y)
    ac_rfl
  · show poly ^^^ (x ^^^ y) = poly ^^^ x ^^^ y
    ac_rfl
  · exact htwice.symm

@[simp] theorem shift_zero (poly : BitVec w) : shift poly 0#w = 0#w := by
  simp [shift]

theorem shifts_xor (poly : BitVec w) (n : Nat) (a b : BitVec w) :
    shifts poly n (a ^^^ b) = shifts poly n a ^^^ shifts poly n b := by
  induction n generalizing a b with
  | zero => rfl
  | succ n ih => rw [shifts_succ, shifts_succ, shifts_succ, shift_xor, ih]

theorem ofBit_xor (a b : Bool) : (ofBit (a ^^ b) : BitVec w) = ofBit a ^^^ ofBit b := by
  cases a <;> cases b <;> simp [ofBit]

/-- **Linearity** in the start and in the message. -/
theorem feed_xor (poly a b : BitVec w) {xs ys : List Bool} (h : xs.length = ys.length) :
    feed poly (a ^^^ b) (List.zipWith xor xs ys) = feed poly a xs ^^^ feed poly b ys := by
  induction xs generalizing a b ys with
  | nil =>
      have hys : ys = [] := List.length_eq_zero_iff.mp h.symm
      subst hys
      rfl
  | cons x xs ih =>
      obtain ⟨y, ys, rfl⟩ := List.exists_cons_of_length_eq_add_one h.symm
      have hstep : feedBit poly (a ^^^ b) (x ^^ y) = feedBit poly a x ^^^ feedBit poly b y := by
        unfold feedBit
        rw [← shift_xor, ofBit_xor]
        congr 1
        ac_rfl
      simp only [List.zipWith_cons_cons, feed_cons]
      rw [hstep]
      exact ih _ _ (Nat.succ.inj h)

/-! ## §3. Nothing is lost. -/

/-- With the top coefficient set only the empty register shifts to zero. -/
theorem shift_eq_zero {poly : BitVec w} (hpoly : poly.msb = true) {c : BitVec w}
    (h : shift poly c = 0#w) : c = 0#w := by
  unfold shift at h
  split at h
  · -- the shift leaves the top bit free, the polynomial sets it
    exfalso
    have hmsb := congrArg BitVec.msb h
    rw [BitVec.msb_xor, hpoly, BitVec.msb_ushiftRight] at hmsb
    simp at hmsb
  · rename_i hlow
    ext i hi
    cases i with
    | zero =>
        rw [BitVec.getElem_zero, ← BitVec.getLsbD_eq_getElem]
        exact Bool.eq_false_iff.mpr hlow
    | succ i =>
        have hbit := congrArg (fun v => v.getLsbD i) h
        simp only [BitVec.getLsbD_ushiftRight, BitVec.getLsbD_zero] at hbit
        rw [BitVec.getElem_zero, ← BitVec.getLsbD_eq_getElem, Nat.add_comm i 1]
        exact hbit

theorem shifts_eq_zero {poly : BitVec w} (hpoly : poly.msb = true) {n : Nat} {c : BitVec w}
    (h : shifts poly n c = 0#w) : c = 0#w := by
  induction n generalizing c with
  | zero => exact h
  | succ n ih => exact shift_eq_zero hpoly (ih h)

/-- Low bits that are clear are simply shifted out. -/
theorem shifts_of_low_clear {poly c : BitVec w} {n : Nat} (h : ∀ i < n, c.getLsbD i = false) :
    shifts poly n c = c >>> n := by
  induction n generalizing c with
  | zero => simp
  | succ n ih =>
      have hstep : shift poly c = c >>> 1 := by
        rw [shift, h 0 (by omega)]
        rfl
      have hrest : ∀ i < n, (c >>> 1).getLsbD i = false := by
        intro i hi
        rw [BitVec.getLsbD_ushiftRight]
        exact h (1 + i) (by omega)
      rw [shifts_succ, hstep, ih hrest, ← BitVec.shiftRight_add, Nat.add_comm]

/-! ## §4. Short messages. -/

/-- A message bit that enters later may stand above the low end now. -/
theorem shift_xor_shiftLeft (poly c d : BitVec w) (hd : d.msb = false) :
    shift poly (c ^^^ (d <<< 1)) = shift poly c ^^^ d := by
  have hlow : (d <<< 1).getLsbD 0 = false := by simp
  have hback : (d <<< 1) >>> 1 = d := by
    apply BitVec.eq_of_getLsbD_eq
    intro i hi
    by_cases htop : i = w - 1
    · -- the top bit of `d` is clear
      have hclear : d.getLsbD i = false := by
        rw [htop, ← hd, BitVec.msb_eq_getLsbD_last]
      rw [hclear, BitVec.getLsbD_ushiftRight, BitVec.getLsbD_shiftLeft]
      simp only [show ¬ 1 + i < w by omega, decide_false, Bool.false_and]
    · rw [BitVec.getLsbD_ushiftRight, BitVec.getLsbD_shiftLeft]
      simp only [show 1 + i < w by omega, show ¬ 1 + i < 1 by omega, decide_true, decide_false,
        Bool.not_false, Bool.true_and, Nat.add_sub_cancel_left]
  rw [shift_xor]
  congr 1
  rw [shift, hlow, if_neg Bool.false_ne_true, hback]

theorem getLsbD_ofBit (b : Bool) {i : Nat} (hi : i < w) :
    (ofBit b : BitVec w).getLsbD i = (decide (i = 0) && b) := by
  cases b with
  | false => simp
  | true => simp [ofBit, BitVec.getLsbD_one, show 0 < w by omega]

theorem getLsbD_pack (bs : List Bool) {i : Nat} (hi : i < w) :
    (pack bs : BitVec w).getLsbD i = bs.getD i false := by
  induction bs generalizing i with
  | nil => simp [pack]
  | cons b bs ih =>
      rw [pack, BitVec.getLsbD_xor, getLsbD_ofBit b hi, BitVec.getLsbD_shiftLeft]
      cases i with
      | zero => simp
      | succ i => simp [hi, ih (show i < w by omega)]

/-- **A short message enters at once**: a message no longer than the register
is added to it before the steps. -/
theorem feed_eq_shifts (poly c : BitVec w) {bs : List Bool} (hlen : bs.length ≤ w) :
    feed poly c bs = shifts poly bs.length (c ^^^ pack bs) := by
  induction bs generalizing c with
  | nil => simp [pack]
  | cons b bs ih =>
      have hlen' : bs.length + 1 ≤ w := hlen
      have htop : (pack bs : BitVec w).msb = false := by
        rw [BitVec.msb_eq_getLsbD_last, getLsbD_pack bs (by omega), List.getD_eq_default]
        omega
      rw [feed_cons, ih _ (by omega), List.length_cons, shifts_succ, pack, ← BitVec.xor_assoc,
        shift_xor_shiftLeft _ _ _ htop]
      rfl

/-! ## §5. Bursts. -/

/-- A quiet message only shifts. -/
theorem feed_quiet (poly c : BitVec w) {bs : List Bool} (h : ∀ b ∈ bs, b = false) :
    feed poly c bs = shifts poly bs.length c := by
  induction bs generalizing c with
  | nil => rfl
  | cons b bs ih =>
      have hb : b = false := h b (List.mem_cons_self ..)
      rw [feed_cons, ih _ (fun d hd => h d (List.mem_cons_of_mem _ hd)), List.length_cons,
        shifts_succ, feedBit, hb, ofBit_false, BitVec.xor_zero]

theorem shifts_of_zero (poly : BitVec w) (n : Nat) : shifts poly n 0#w = 0#w := by
  induction n with
  | zero => rfl
  | succ n ih => rw [shifts_succ, shift_zero, ih]

/-- A short message that leaves an empty register empty is quiet. -/
theorem quiet_of_feed_eq_zero {poly : BitVec w} (hpoly : poly.msb = true) {bs : List Bool}
    (hlen : bs.length ≤ w) (h : feed poly 0#w bs = 0#w) : ∀ b ∈ bs, b = false := by
  rw [feed_eq_shifts poly 0#w hlen, BitVec.zero_xor] at h
  have hpack : (pack bs : BitVec w) = 0#w := shifts_eq_zero hpoly h
  intro b hb
  obtain ⟨i, hi, rfl⟩ := List.mem_iff_getElem.mp hb
  have hbit := getLsbD_pack (w := w) bs (show i < w by omega)
  rw [hpack, BitVec.getLsbD_zero, List.getD_eq_getElem _ _ hi] at hbit
  exact hbit.symm

/-- Positions outside `[start, start + len)` agree. -/
def DiffersWithin (start len : Nat) (xs ys : List Bool) : Prop :=
  ∀ i, xs[i]? ≠ ys[i]? → start ≤ i ∧ i < start + len

/-- Messages that agree before and behind the window. -/
theorem DiffersWithin.of_ends {start len : Nat} {xs ys : List Bool}
    (hbefore : xs.take start = ys.take start)
    (hbehind : xs.drop (start + len) = ys.drop (start + len)) :
    DiffersWithin start len xs ys := by
  intro i hne
  by_contra hout
  by_cases h : i < start
  · have := congrArg (fun l => l[i]?) hbefore
    simp only [List.getElem?_take, h, if_true] at this
    exact hne this
  · have := congrArg (fun l => l[i - (start + len)]?) hbehind
    simp only [List.getElem?_drop, show start + len + (i - (start + len)) = i by omega] at this
    exact hne this

/-- **The burst theorem.** -/
theorem feed_inj_of_burst {poly : BitVec w} (hpoly : poly.msb = true) (c : BitVec w)
    {xs ys : List Bool} (hlen : xs.length = ys.length) {start : Nat}
    (hburst : DiffersWithin start w xs ys) (h : feed poly c xs = feed poly c ys) : xs = ys := by
  -- the difference of the two messages leaves the empty register empty
  set es := List.zipWith xor xs ys with hes
  have hzero : feed poly 0#w es = 0#w := by
    have hlin := feed_xor poly c c hlen
    rwa [BitVec.xor_self, h, BitVec.xor_self] at hlin
  have hset : ∀ i (hi : i < es.length), es[i] = true → start ≤ i ∧ i < start + w := by
    intro i hi hbit
    apply hburst
    intro heq
    have hx : i < xs.length := by
      rw [hes, List.length_zipWith] at hi
      omega
    have hy : i < ys.length := by omega
    rw [List.getElem?_eq_getElem hx, List.getElem?_eq_getElem hy, Option.some.injEq] at heq
    simp [hes, heq] at hbit
  -- before, inside and behind the window
  have hcut : es = es.take start ++ ((es.drop start).take w ++ es.drop (start + w)) := by
    rw [← List.drop_drop, List.take_append_drop, List.take_append_drop]
  have hbefore : ∀ b ∈ es.take start, b = false := by
    intro b hb
    obtain ⟨i, hi, rfl⟩ := List.mem_iff_getElem.mp hb
    rw [List.length_take] at hi
    rw [List.getElem_take]
    by_contra hne
    have := hset i (by omega) (by simpa using hne)
    omega
  have hbehind : ∀ b ∈ es.drop (start + w), b = false := by
    intro b hb
    obtain ⟨i, hi, rfl⟩ := List.mem_iff_getElem.mp hb
    rw [List.length_drop] at hi
    rw [List.getElem_drop]
    by_contra hne
    have := hset (start + w + i) (by omega) (by simpa using hne)
    omega
  have hinside : ∀ b ∈ (es.drop start).take w, b = false := by
    rw [hcut, feed_append, feed_append, feed_quiet _ _ hbefore, shifts_of_zero,
      feed_quiet _ _ hbehind] at hzero
    exact quiet_of_feed_eq_zero hpoly (List.length_take_le ..) (shifts_eq_zero hpoly hzero)
  have hquiet : ∀ b ∈ es, b = false := by
    intro b hb
    rw [hcut, List.mem_append, List.mem_append] at hb
    rcases hb with hb | hb | hb
    · exact hbefore b hb
    · exact hinside b hb
    · exact hbehind b hb
  -- a quiet difference is no difference
  apply List.ext_getElem hlen
  intro i hx hy
  have hi : i < es.length := by
    rw [hes, List.length_zipWith]
    omega
  have hbit := hquiet es[i] (List.getElem_mem hi)
  simp only [hes, List.getElem_zipWith] at hbit
  simpa using hbit

end ReflectedCrc
