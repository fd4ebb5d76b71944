/-
  ValProtocol.Session.Rtt
  ───────────────────────
  The adaptive timeouts: `val_internal_init_timing`,
  `val_internal_record_rtt` and `val_internal_get_timeout` (`src/val_core.c`
  lines 456-558) with the bounds of `val_sanitize_timeouts_pair` (lines
  317-337).

    • `Estimate.step`  — a sample moves the estimate inside the range of the
      samples, rounding included,
    • `rtt_bounded`    — over every sequence of samples no cast loses a bit,
      the estimate stays in the range of the samples, and every timeout is
      the exact multiple of it, clamped to the sanitized bounds.
-/
import Mathlib.Data.List.Induction
import ValProtocol.Data.Karn

namespace ValProtocol

/-! ## §1. The functions. -/

/-- `val_sanitize_timeouts_pair`: the lower bound and the upper bound. -/
def sanitizeTimeoutsPair (inMin inMax : Nat) : Nat × Nat :=
  let minTo := if inMin ≠ 0 then inMin else 200
  let maxTo := if inMax ≠ 0 then inMax else 8000
  if minTo > maxTo then (maxTo, minTo) else (minTo, maxTo)

/-- `s->timing` with its bounds. -/
structure Rtt where
  timing : Timing
  minTimeoutMs : Nat
  maxTimeoutMs : Nat
  deriving Repr, DecidableEq

/-- `val_internal_init_timing` from the configured bounds. -/
def initTiming (inMin inMax : Nat) : Rtt :=
  let bounds := sanitizeTimeoutsPair inMin inMax
  ⟨⟨bounds.2 / 2, bounds.2 / 4, 0⟩, bounds.1, bounds.2⟩

/-- `val_operation_type_t`; `other` is the default branch. -/
inductive Operation where
  | handshake
  | metadata
  | dataAck
  | verify
  | doneAck
  | eotAck
  | dataRecv
  | other
  deriving Repr, DecidableEq

/-- `mul`. -/
def Operation.mul : Operation → Nat
  | .handshake => 5
  | .metadata => 4
  | .dataAck => 3
  | .verify => 3
  | .doneAck => 4
  | .eotAck => 4
  | .dataRecv => 6
  | .other => 3

/-- `val__clamp_u32`. -/
def clampU32 (v lo hi : Nat) : Nat := if v < lo then lo else if v > hi then hi else v

/-- `val_internal_get_timeout`, in 64 bits up to the saturation at 32. -/
def Rtt.getTimeout (s : Rtt) (op : Operation) : Nat :=
  let base := (s.timing.srtt + 4 * s.timing.rttvar % 2 ^ 64) % 2 ^ 64
  let rto := base * op.mul % 2 ^ 64
  -- saturated before the cast
  let rto := if rto > 0xFFFFFFFF then 0xFFFFFFFF else rto
  let rto32 := rto % 2 ^ 32
  let bounds := sanitizeTimeoutsPair s.minTimeoutMs s.maxTimeoutMs
  clampU32 rto32 bounds.1 bounds.2

/-- A call of `val_internal_record_rtt`: `in_retransmit`, and the time measured. -/
abbrev RttCall := Bool × UInt32

def Rtt.record (s : Rtt) (c : RttCall) : Rtt :=
  { s with timing := recordRtt s.timing c.1 c.2.toNat }

/-- The timing of a session after these calls. -/
def Rtt.run (inMin inMax : UInt32) (calls : List RttCall) : Rtt :=
  calls.foldl Rtt.record (initTiming inMin.toNat inMax.toNat)

/-- The samples that are taken, 0 counted as 1. -/
def takenSamples (calls : List RttCall) : List Nat :=
  (calls.filter (fun c => !c.1)).map (fun c => if c.2.toNat = 0 then 1 else c.2.toNat)

/-- `diff`. -/
def rttDiff (t : Timing) (rtt : Nat) : Nat := if t.srtt > rtt then t.srtt - rtt else rtt - t.srtt

/-- The sums of an update fit 64 bits, and what is stored of them 32. -/
structure Lossless (t : Timing) (rtt : Nat) : Prop where
  rttvar_sum : 3 * t.rttvar + rttDiff t rtt < 2 ^ 64
  rttvar_cast : (3 * t.rttvar + rttDiff t rtt) / 4 < 2 ^ 32
  srtt_sum : 7 * t.srtt + rtt < 2 ^ 64
  srtt_cast : (7 * t.srtt + rtt) / 8 < 2 ^ 32

/-! ## §2. The estimate. -/

/-- What holds of the estimate after `samples`. -/
structure Estimate (samples : List Nat) (t : Timing) : Prop where
  srtt_lt : t.srtt < 2 ^ 32
  rttvar_lt : t.rttvar < 2 ^ 32
  taken_iff : t.samplesTaken = 0 ↔ samples = []
  within : samples ≠ [] → ∀ lo hi, (∀ x ∈ samples, lo ≤ x ∧ x ≤ hi) →
    lo ≤ t.srtt ∧ t.srtt ≤ hi ∧ t.rttvar ≤ hi

/-- Two times differ by no more than the longer one. -/
theorem rttDiff_le {t : Timing} {rtt hi : Nat} (h1 : t.srtt ≤ hi) (h2 : rtt ≤ hi) :
    rttDiff t rtt ≤ hi := by
  unfold rttDiff
  split <;> omega

theorem lossless_of_lt {t : Timing} {rtt : Nat} (h1 : t.srtt < 2 ^ 32) (h2 : t.rttvar < 2 ^ 32)
    (hrtt : rtt < 2 ^ 32) : Lossless t rtt := by
  have hdiff : rttDiff t rtt ≤ 2 ^ 32 - 1 := rttDiff_le (by omega) (by omega)
  constructor
  · omega
  · omega
  · omega
  · omega

/-- An update without the casts. -/
theorem recordRtt_eq {t : Timing} {measured rtt : Nat}
    (hrtt : (if measured = 0 then 1 else measured) = rtt) (h : Lossless t rtt)
    (htaken : t.samplesTaken ≠ 0) :
    recordRtt t false measured
      = { srtt := (7 * t.srtt + rtt) / 8
          rttvar := (3 * t.rttvar + rttDiff t rtt) / 4
          samplesTaken := if t.samplesTaken < 255 then t.samplesTaken + 1 else t.samplesTaken } := by
  unfold recordRtt
  rw [if_neg Bool.false_ne_true]
  dsimp only
  rw [hrtt, if_neg htaken]
  show Timing.mk ((7 * t.srtt + rtt) / 8 % 2 ^ 32) ((3 * t.rttvar + rttDiff t rtt) / 4 % 2 ^ 32) _ = _
  rw [Nat.mod_eq_of_lt h.srtt_cast, Nat.mod_eq_of_lt h.rttvar_cast]

/-- **A sample** moves the estimate inside the range of the samples. -/
theorem Estimate.step {samples : List Nat} {t : Timing} (h : Estimate samples t)
    {measured rtt : Nat} (hrtt : (if measured = 0 then 1 else measured) = rtt)
    (hlt : rtt < 2 ^ 32) : Estimate (samples ++ [rtt]) (recordRtt t false measured) := by
  have hne : samples ++ [rtt] ≠ [] := by simp
  by_cases htaken : t.samplesTaken = 0
  · -- the first sample
    obtain rfl := h.taken_iff.mp htaken
    have hfirst : recordRtt t false measured = ⟨rtt, rtt / 2, 1⟩ := by
      unfold recordRtt
      rw [if_neg Bool.false_ne_true]
      dsimp only
      rw [hrtt, if_pos htaken]
    rw [hfirst]
    refine ⟨hlt, ?_, iff_of_false Nat.one_ne_zero hne, ?_⟩
    · show rtt / 2 < 2 ^ 32
      omega
    · intro _ lo hi hall
      obtain ⟨hlo, hhi⟩ := hall rtt (by simp)
      refine ⟨hlo, hhi, ?_⟩
      show rtt / 2 ≤ hi
      omega
  · have hsome : samples ≠ [] := fun hnil => htaken (h.taken_iff.mpr hnil)
    -- a later sample: the means of numbers in a range stay in the range
    have hloss := lossless_of_lt h.srtt_lt h.rttvar_lt hlt
    rw [recordRtt_eq hrtt hloss htaken]
    refine ⟨hloss.srtt_cast, hloss.rttvar_cast, iff_of_false ?_ hne, ?_⟩
    · -- the counter stops at 255
      show ¬ (if t.samplesTaken < 255 then t.samplesTaken + 1 else t.samplesTaken) = 0
      split <;> omega
    · intro _ lo hi hall
      obtain ⟨hlo, hhi⟩ := hall rtt (by simp)
      obtain ⟨h1, h2, h3⟩ := h.within hsome lo hi
        (fun x hx => hall x (List.mem_append_left _ hx))
      have hdiff : rttDiff t rtt ≤ hi := rttDiff_le h2 hhi
      refine ⟨?_, ?_, ?_⟩
      · show lo ≤ (7 * t.srtt + rtt) / 8
        omega
      · show (7 * t.srtt + rtt) / 8 ≤ hi
        omega
      · show (3 * t.rttvar + rttDiff t rtt) / 4 ≤ hi
        omega

/-! ## §3. The bounds. -/

/-- The bounds are in order and no zero, and 32 bits are enough for them. -/
theorem sanitizeTimeoutsPair_spec (inMin inMax : UInt32) :
    let b := sanitizeTimeoutsPair inMin.toNat inMax.toNat
    0 < b.1 ∧ b.1 ≤ b.2 ∧ b.2 < 2 ^ 32 := by
  have h1 := inMin.toNat_lt
  have h2 := inMax.toNat_lt
  simp only [sanitizeTimeoutsPair]
  repeat' split
  all_goals
    dsimp only
    omega

/-- Sanitizing them again changes nothing. -/
theorem sanitizeTimeoutsPair_again {lo hi : Nat} (h0 : 0 < lo) (h : lo ≤ hi) :
    sanitizeTimeoutsPair lo hi = (lo, hi) := by
  have hlo : lo ≠ 0 := by omega
  have hhi : hi ≠ 0 := by omega
  have hord : ¬ lo > hi := by omega
  simp only [sanitizeTimeoutsPair, hlo, hhi, hord, ne_eq, not_false_eq_true, if_true, if_false]

theorem clampU32_mem {lo hi : Nat} (h : lo ≤ hi) (v : Nat) :
    lo ≤ clampU32 v lo hi ∧ clampU32 v lo hi ≤ hi := by
  unfold clampU32
  repeat' split
  all_goals omega

/-- A saturation above the upper bound does not show. -/
theorem clampU32_min {lo hi top : Nat} (h : lo ≤ hi) (htop : hi ≤ top) (v : Nat) :
    clampU32 (min v top) lo hi = clampU32 v lo hi := by
  unfold clampU32
  repeat' split
  all_goals omega

theorem Operation.mul_le (op : Operation) : op.mul ≤ 6 := by
  cases op <;> decide

/-- **The timeout** without its overflow checks. -/
theorem Rtt.getTimeout_eq {s : Rtt} (h1 : s.timing.srtt < 2 ^ 32) (h2 : s.timing.rttvar < 2 ^ 32)
    (h0 : 0 < s.minTimeoutMs) (hle : s.minTimeoutMs ≤ s.maxTimeoutMs)
    (hlt : s.maxTimeoutMs < 2 ^ 32) (op : Operation) :
    s.getTimeout op = clampU32 (op.mul * (s.timing.srtt + 4 * s.timing.rttvar))
      s.minTimeoutMs s.maxTimeoutMs := by
  -- two 32-bit estimates and a factor of at most 6 leave 64 bits alone
  have hbase : (s.timing.srtt + 4 * s.timing.rttvar % 2 ^ 64) % 2 ^ 64
      = s.timing.srtt + 4 * s.timing.rttvar := by omega
  have hmul : (s.timing.srtt + 4 * s.timing.rttvar) * op.mul < 2 ^ 64 := by
    have hop := op.mul_le
    calc (s.timing.srtt + 4 * s.timing.rttvar) * op.mul
        ≤ (s.timing.srtt + 4 * s.timing.rttvar) * 6 := Nat.mul_le_mul_left _ hop
      _ < 2 ^ 64 := by omega
  have hsat : ∀ v : Nat, (if v > 0xFFFFFFFF then 0xFFFFFFFF else v) % 2 ^ 32
      = min v 0xFFFFFFFF := by
    intro v
    split <;> omega
  unfold Rtt.getTimeout
  dsimp only
  rw [hbase, Nat.mod_eq_of_lt hmul, hsat, sanitizeTimeoutsPair_again h0 hle,
    clampU32_min hle (by omega), Nat.mul_comm]

/-! ## §4. Runs. -/

section Run

variable (inMin inMax : UInt32)

theorem Rtt.run_snoc (calls : List RttCall) (c : RttCall) :
    Rtt.run inMin inMax (calls ++ [c]) = (Rtt.run inMin inMax calls).record c := by
  unfold Rtt.run
  rw [List.foldl_append]
  rfl

theorem takenSamples_snoc (calls : List RttCall) (c : RttCall) :
    takenSamples (calls ++ [c]) = takenSamples calls
      ++ if c.1 then [] else [if c.2.toNat = 0 then 1 else c.2.toNat] := by
  unfold takenSamples
  rw [List.filter_append, List.map_append]
  cases hc : c.1 <;> simp [hc]

/-- The bounds stay, and the estimate is one of the samples taken. -/
theorem Rtt.run_spec (calls : List RttCall) :
    Estimate (takenSamples calls) (Rtt.run inMin inMax calls).timing
    ∧ (Rtt.run inMin inMax calls).minTimeoutMs = (sanitizeTimeoutsPair inMin.toNat inMax.toNat).1
    ∧ (Rtt.run inMin inMax calls).maxTimeoutMs
        = (sanitizeTimeoutsPair inMin.toNat inMax.toNat).2 := by
  -- from the first call on: the last one is `record` of the run before it
  induction calls using List.reverseRecOn with
  | nil =>
      obtain ⟨-, -, hlt⟩ := sanitizeTimeoutsPair_spec inMin inMax
      refine ⟨⟨?_, ?_, iff_of_true rfl rfl, fun hne => absurd rfl hne⟩, rfl, rfl⟩
      · show (sanitizeTimeoutsPair inMin.toNat inMax.toNat).2 / 2 < 2 ^ 32
        omega
      · show (sanitizeTimeoutsPair inMin.toNat inMax.toNat).2 / 4 < 2 ^ 32
        omega
  | append_singleton calls c ih =>
      obtain ⟨hest, hmin, hmax⟩ := ih
      rw [Rtt.run_snoc, takenSamples_snoc]
      refine ⟨?_, hmin, hmax⟩
      show Estimate _ (recordRtt (Rtt.run inMin inMax calls).timing c.1 c.2.toNat)
      by_cases hflag : c.1 = true
      · -- in retransmission nothing is sampled
        rw [if_pos hflag, List.append_nil, recordRtt, if_pos hflag]
        exact hest
      · rw [if_neg hflag, Bool.eq_false_of_not_eq_true hflag]
        have hlt := c.2.toNat_lt
        exact hest.step rfl (by split <;> omega)

/-- **The adaptive timeouts**: no call loses a bit; once a sample is taken the
smoothed time lies between the least and the greatest sample and the variation
is no more than the greatest; and a timeout is the exact multiple, clamped to
the sanitized bounds. -/
theorem rtt_bounded (calls : List RttCall) :
    (∀ before c after, calls = before ++ c :: after →
      Lossless (Rtt.run inMin inMax before).timing (if c.2.toNat = 0 then 1 else c.2.toNat))
    ∧ (∀ lo hi, (takenSamples calls).min? = some lo → (takenSamples calls).max? = some hi →
      lo ≤ (Rtt.run inMin inMax calls).timing.srtt
      ∧ (Rtt.run inMin inMax calls).timing.srtt ≤ hi
      ∧ (Rtt.run inMin inMax calls).timing.rttvar ≤ hi)
    ∧ ∀ op,
      let lo := (sanitizeTimeoutsPair inMin.toNat inMax.toNat).1
      let hi := (sanitizeTimeoutsPair inMin.toNat inMax.toNat).2
      let t := (Rtt.run inMin inMax calls).timing
      lo ≤ (Rtt.run inMin inMax calls).getTimeout op
      ∧ (Rtt.run inMin inMax calls).getTimeout op ≤ hi
      ∧ (Rtt.run inMin inMax calls).getTimeout op
          = clampU32 (op.mul * (t.srtt + 4 * t.rttvar)) lo hi := by
  refine ⟨?_, ?_, ?_⟩
  · -- what call `c` finds is the run of the calls before it
    rintro before c after -
    obtain ⟨hest, -, -⟩ := Rtt.run_spec inMin inMax before
    have hlt := c.2.toNat_lt
    exact lossless_of_lt hest.srtt_lt hest.rttvar_lt (by split <;> omega)
  · -- the least and the greatest sample are a range of all samples
    intro lo hi hlo hhi
    obtain ⟨hest, -, -⟩ := Rtt.run_spec inMin inMax calls
    have hne : takenSamples calls ≠ [] := by
      intro hnil
      rw [hnil] at hlo
      cases hlo
    apply hest.within hne
    intro x hx
    exact ⟨(List.min?_eq_some_iff.mp hlo).2 x hx, (List.max?_eq_some_iff.mp hhi).2 x hx⟩
  · intro op
    obtain ⟨hest, hmin, hmax⟩ := Rtt.run_spec inMin inMax calls
    obtain ⟨h0, hle, hlt⟩ := sanitizeTimeoutsPair_spec inMin inMax
    have heq := Rtt.getTimeout_eq hest.srtt_lt hest.rttvar_lt (by rw [hmin]; exact h0)
      (by rw [hmin, hmax]; exact hle) (by rw [hmax]; exact hlt) op
    rw [hmin, hmax] at heq
    have hmem := clampU32_mem hle
      (op.mul * ((Rtt.run inMin inMax calls).timing.srtt
        + 4 * (Rtt.run inMin inMax calls).timing.rttvar))
    dsimp only
    rw [heq]
    exact ⟨hmem.1, hmem.2, rfl⟩

end Run

end ValProtocol
