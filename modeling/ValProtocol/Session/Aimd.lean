/-
  ValProtocol.Session.Aimd
  ────────────────────────
  The congestion window against its specification
  (`docs/protocol-specification.md` section 5.3.2, `src/val_core.c` lines
  2093-2155).

  The specification resets a counter whenever it reaches its threshold, the
  code only when the window changes.  At a window of 1, or at the cap, the
  code's counter therefore runs on and in the end wraps.

    • `Controller`    — the documented rule,
    • `Tracks.signal` — one error or success: the counters agree, or they do
      not matter where the window stands,
    • `aimd_refines`  — so the windows of every sequence are the same.
-/
import ValProtocol.Session.Config

namespace ValProtocol

/-! ## §1. The documented controller. -/

inductive Signal where
  | error
  | success
  deriving Repr, DecidableEq

/-- The thresholds and the negotiated cap. -/
structure AimdRule where
  degrade : Nat
  recovery : Nat
  cap : Nat
  deriving Repr, DecidableEq

structure Controller where
  cwnd : Nat
  errors : Nat
  successes : Nat
  deriving Repr, DecidableEq

/-- Additive increase, multiplicative decrease. -/
def Controller.signal (r : AimdRule) (c : Controller) : Signal → Controller
  | .error =>
      if c.errors + 1 ≥ r.degrade then ⟨max 1 (c.cwnd / 2), 0, 0⟩
      else ⟨c.cwnd, c.errors + 1, 0⟩
  | .success =>
      if c.successes + 1 ≥ r.recovery then ⟨min (c.cwnd + 1) r.cap, 0, 1⟩
      else ⟨c.cwnd, 0, c.successes + 1⟩

/-- The window before the first signal and behind each. -/
def Controller.windows (r : AimdRule) : Controller → List Signal → List Nat
  | c, [] => [c.cwnd]
  | c, s :: rest => c.cwnd :: (c.signal r s).windows r rest

/-- The controller keeps its window between 1 and the cap. -/
structure Controller.Within (r : AimdRule) (c : Controller) : Prop where
  pos : 1 ≤ c.cwnd
  le_cap : c.cwnd ≤ r.cap

theorem Controller.Within.signal {r : AimdRule} {c : Controller} (h : c.Within r) (s : Signal) :
    (c.signal r s).Within r := by
  have hpos := h.pos
  have hle := h.le_cap
  cases s with
  | error =>
      show Within r (if c.errors + 1 ≥ r.degrade then (⟨max 1 (c.cwnd / 2), 0, 0⟩ : Controller)
        else ⟨c.cwnd, c.errors + 1, 0⟩)
      split
      · -- halved, but no less than 1
        refine ⟨Nat.le_max_left _ _, ?_⟩
        show max 1 (c.cwnd / 2) ≤ r.cap
        omega
      · exact ⟨hpos, hle⟩
  | success =>
      show Within r (if c.successes + 1 ≥ r.recovery
        then (⟨min (c.cwnd + 1) r.cap, 0, 1⟩ : Controller) else ⟨c.cwnd, 0, c.successes + 1⟩)
      split
      · refine ⟨?_, Nat.min_le_right _ _⟩
        show 1 ≤ min (c.cwnd + 1) r.cap
        omega
      · exact ⟨hpos, hle⟩

theorem Controller.Within.windows {r : AimdRule} {c : Controller} (h : c.Within r)
    (signals : List Signal) : ∀ w ∈ c.windows r signals, 1 ≤ w ∧ w ≤ r.cap := by
  induction signals generalizing c with
  | nil =>
      intro w hw
      rw [List.mem_singleton.mp hw]
      exact ⟨h.pos, h.le_cap⟩
  | cons s rest ih =>
      intro w hw
      rcases List.mem_cons.mp hw with rfl | hw
      · exact ⟨h.pos, h.le_cap⟩
      · exact ih (h.signal s) w hw

/-! ## §2. The code. -/

def Flow.signal (cfg : TxFlowConfig) (fl : Flow) : Signal → Flow
  | .error => recordTransmissionError cfg fl
  | .success => recordTransmissionSuccess cfg fl

/-- `current_window_packets` before the first signal and behind each. -/
def Flow.windows (cfg : TxFlowConfig) : Flow → List Signal → List Nat
  | fl, [] => [fl.currentWindow]
  | fl, s :: rest => fl.currentWindow :: (fl.signal cfg s).windows cfg rest

/-- The rule a configuration asks for under a negotiated cap. -/
def TxFlowConfig.rule (cfg : TxFlowConfig) (cap : Nat) : AimdRule :=
  ⟨cfg.errorThreshold, cfg.successThreshold, cap⟩

/-- **The session tracks the controller.**  A counter that has run past the
controller's is one that can change nothing. -/
structure Tracks (r : AimdRule) (fl : Flow) (c : Controller) : Prop where
  window_eq : fl.currentWindow = c.cwnd
  cap_eq : fl.negotiatedWindow = r.cap
  within : c.Within r
  errors_eq : fl.consecutiveErrors = c.errors ∨ c.cwnd = 1
  errors_lt : c.errors < r.degrade
  successes_eq : fl.consecutiveSuccesses = c.successes ∨ c.cwnd = r.cap
  successes_lt : c.successes < max 2 r.recovery

section Signals

variable {cfg : TxFlowConfig} {cap : Nat} {fl : Flow} {c : Controller}

theorem TxFlowConfig.errorThreshold_pos (cfg : TxFlowConfig) : 1 ≤ cfg.errorThreshold := by
  unfold TxFlowConfig.errorThreshold
  split <;> omega

theorem TxFlowConfig.errorThreshold_lt (h : cfg.degradeErrorThreshold < 2 ^ 16) :
    cfg.errorThreshold < 2 ^ 16 := by
  unfold TxFlowConfig.errorThreshold
  split <;> omega

theorem TxFlowConfig.successThreshold_lt (h : cfg.recoverySuccessThreshold < 2 ^ 16) :
    cfg.successThreshold < 2 ^ 16 := by
  unfold TxFlowConfig.successThreshold
  split <;> omega

/-- **What an error does** to the window and the counters. -/
theorem recordTransmissionError_steps (cfg : TxFlowConfig) (fl : Flow) (hpos : 1 ≤ fl.currentWindow) :
    ∃ w e, recordTransmissionError cfg fl
        = { fl with currentWindow := w, consecutiveErrors := e, consecutiveSuccesses := 0 }
      ∧ (((fl.consecutiveErrors + 1) % 2 ^ 32 < cfg.errorThreshold ∧ w = fl.currentWindow
            ∧ e = (fl.consecutiveErrors + 1) % 2 ^ 32)
        ∨ (cfg.errorThreshold ≤ (fl.consecutiveErrors + 1) % 2 ^ 32 ∧ fl.currentWindow ≠ 1
            ∧ w = max 1 (fl.currentWindow / 2) ∧ e = 0)
        ∨ (fl.currentWindow = 1 ∧ w = 1 ∧ e = (fl.consecutiveErrors + 1) % 2 ^ 32)) := by
  have hne : fl.currentWindow ≠ 0 := by omega
  -- the code resets the counter only where the window really changes
  by_cases hthr : (fl.consecutiveErrors + 1) % 2 ^ 32 ≥ cfg.errorThreshold
  · by_cases hone : fl.currentWindow = 1
    · refine ⟨1, _, ?_, Or.inr (Or.inr ⟨hone, rfl, rfl⟩)⟩
      simp only [recordTransmissionError, hthr, if_true, hone]
      simp
    · refine ⟨_, _, ?_, Or.inr (Or.inl ⟨hthr, hone, rfl, rfl⟩)⟩
      have hhalf : max 1 (fl.currentWindow / 2) ≠ fl.currentWindow := by omega
      simp only [recordTransmissionError, hthr, if_true, hne, ne_eq, not_false_eq_true, hhalf]
  · refine ⟨_, _, ?_, Or.inl ⟨by omega, rfl, rfl⟩⟩
    simp only [recordTransmissionError, hthr, if_false]

/-- **What a success does.** -/
theorem recordTransmissionSuccess_steps (cfg : TxFlowConfig) (fl : Flow)
    (hpos : 1 ≤ fl.currentWindow) (hle : fl.currentWindow ≤ fl.negotiatedWindow) (hlt : fl.negotiatedWindow < 2 ^ 16) :
    ∃ w n, recordTransmissionSuccess cfg fl
        = { fl with currentWindow := w, consecutiveErrors := 0, consecutiveSuccesses := n }
      ∧ (((fl.consecutiveSuccesses + 1) % 2 ^ 32 < cfg.successThreshold ∧ w = fl.currentWindow
            ∧ n = (fl.consecutiveSuccesses + 1) % 2 ^ 32)
        ∨ (cfg.successThreshold ≤ (fl.consecutiveSuccesses + 1) % 2 ^ 32
            ∧ fl.currentWindow < fl.negotiatedWindow ∧ w = fl.currentWindow + 1 ∧ n = 1)
        ∨ (fl.currentWindow = fl.negotiatedWindow ∧ w = fl.currentWindow
            ∧ n = (fl.consecutiveSuccesses + 1) % 2 ^ 32)) := by
  have hne : fl.currentWindow ≠ 0 := by omega
  have hcap : fl.negotiatedWindow ≠ 0 := by omega
  -- likewise, where there is room under the cap
  by_cases hthr : (fl.consecutiveSuccesses + 1) % 2 ^ 32 ≥ cfg.successThreshold
  · by_cases hroom : fl.currentWindow < fl.negotiatedWindow
    · refine ⟨_, _, ?_, Or.inr (Or.inl ⟨hthr, hroom, rfl, rfl⟩)⟩
      have hnew : min ((fl.currentWindow + 1) % 2 ^ 16) fl.negotiatedWindow
          = fl.currentWindow + 1 := by
        rw [Nat.mod_eq_of_lt (by omega)]
        omega
      simp only [recordTransmissionSuccess, hthr, if_true, hne, hcap, ne_eq, not_false_eq_true,
        hroom, hnew, Nat.succ_ne_self]
    · refine ⟨_, _, ?_, Or.inr (Or.inr ⟨by omega, rfl, rfl⟩)⟩
      simp only [recordTransmissionSuccess, hthr, if_true, hne, hcap, ne_eq, not_false_eq_true,
        hroom, if_false]
  · refine ⟨_, _, ?_, Or.inl ⟨by omega, rfl, rfl⟩⟩
    simp only [recordTransmissionSuccess, hthr, if_false]

theorem Tracks.error (h : Tracks (cfg.rule cap) fl c) (hthr : cfg.errorThreshold < 2 ^ 16) :
    Tracks (cfg.rule cap) (recordTransmissionError cfg fl) (c.signal (cfg.rule cap) .error) := by
  have hpos := h.within.pos
  have hwin := h.window_eq
  have hthr1 := cfg.errorThreshold_pos
  have herr : c.errors < cfg.errorThreshold := h.errors_lt
  have hwithin := h.within.signal .error
  obtain ⟨w, e, heq, hcase⟩ := recordTransmissionError_steps cfg fl (by omega)
  rw [heq]
  -- at one packet the counters may differ, and neither side can shrink
  by_cases hreach : c.errors + 1 ≥ cfg.errorThreshold
  · have hsig : c.signal (cfg.rule cap) .error = ⟨max 1 (c.cwnd / 2), 0, 0⟩ := if_pos hreach
    rw [hsig] at hwithin ⊢
    refine ⟨?_, h.cap_eq, hwithin, ?_, hthr1, Or.inl rfl, by show 0 < max 2 _; omega⟩
    · show w = max 1 (c.cwnd / 2)
      rcases h.errors_eq with hsame | hone
      · -- the counters agree, and the code reaches the threshold too
        rw [hsame, Nat.mod_eq_of_lt (by omega)] at hcase
        omega
      · omega
    · show e = 0 ∨ max 1 (c.cwnd / 2) = 1
      rcases h.errors_eq with hsame | hone
      · rw [hsame, Nat.mod_eq_of_lt (by omega)] at hcase
        omega
      · omega
  · have hsig : c.signal (cfg.rule cap) .error = ⟨c.cwnd, c.errors + 1, 0⟩ := if_neg hreach
    rw [hsig] at hwithin ⊢
    refine ⟨?_, h.cap_eq, hwithin, ?_, ?_, Or.inl rfl, by show 0 < max 2 _; omega⟩
    · show w = c.cwnd
      rcases h.errors_eq with hsame | hone
      · rw [hsame, Nat.mod_eq_of_lt (by omega)] at hcase
        omega
      · omega
    · show e = c.errors + 1 ∨ c.cwnd = 1
      rcases h.errors_eq with hsame | hone
      · rw [hsame, Nat.mod_eq_of_lt (by omega)] at hcase
        omega
      · exact Or.inr hone
    · show c.errors + 1 < cfg.errorThreshold
      omega

theorem Tracks.success (h : Tracks (cfg.rule cap) fl c) (hcap : cap < 2 ^ 16)
    (hthr : cfg.successThreshold < 2 ^ 16) :
    Tracks (cfg.rule cap) (recordTransmissionSuccess cfg fl)
      (c.signal (cfg.rule cap) .success) := by
  have hpos := h.within.pos
  have hle : c.cwnd ≤ cap := h.within.le_cap
  have hwin := h.window_eq
  have hneg : fl.negotiatedWindow = cap := h.cap_eq
  have hthr1 := cfg.errorThreshold_pos
  have hsucc : c.successes < max 2 cfg.successThreshold := h.successes_lt
  have hseq : fl.consecutiveSuccesses = c.successes ∨ c.cwnd = cap := h.successes_eq
  have hwithin := h.within.signal .success
  obtain ⟨w, n, heq, hcase⟩ :=
    recordTransmissionSuccess_steps cfg fl (by omega) (by omega) (by omega)
  rw [heq]
  -- under the cap the counters agree; at the cap neither side can grow
  by_cases hreach : c.successes + 1 ≥ cfg.successThreshold
  · have hsig : c.signal (cfg.rule cap) .success = ⟨min (c.cwnd + 1) cap, 0, 1⟩ :=
      if_pos hreach
    rw [hsig] at hwithin ⊢
    refine ⟨?_, h.cap_eq, hwithin, Or.inl rfl, hthr1, ?_, by show 1 < max 2 _; omega⟩
    · show w = min (c.cwnd + 1) cap
      rcases hseq with hsame | hfull
      · -- the counters agree, and the code reaches the threshold too
        rw [hsame, Nat.mod_eq_of_lt (by omega)] at hcase
        omega
      · omega
    · show n = 1 ∨ min (c.cwnd + 1) cap = cap
      rcases hseq with hsame | hfull
      · rw [hsame, Nat.mod_eq_of_lt (by omega)] at hcase
        omega
      · omega
  · have hsig : c.signal (cfg.rule cap) .success = ⟨c.cwnd, 0, c.successes + 1⟩ :=
      if_neg hreach
    rw [hsig] at hwithin ⊢
    refine ⟨?_, h.cap_eq, hwithin, Or.inl rfl, hthr1, ?_, ?_⟩
    · show w = c.cwnd
      rcases hseq with hsame | hfull
      · rw [hsame, Nat.mod_eq_of_lt (by omega)] at hcase
        omega
      · omega
    · show n = c.successes + 1 ∨ c.cwnd = cap
      rcases hseq with hsame | hfull
      · rw [hsame, Nat.mod_eq_of_lt (by omega)] at hcase
        omega
      · exact Or.inr hfull
    · show c.successes + 1 < max 2 cfg.successThreshold
      omega

/-- **One signal.** -/
theorem Tracks.signal (h : Tracks (cfg.rule cap) fl c) (hcap : cap < 2 ^ 16)
    (herr : cfg.errorThreshold < 2 ^ 16) (hsucc : cfg.successThreshold < 2 ^ 16) (s : Signal) :
    Tracks (cfg.rule cap) (fl.signal cfg s) (c.signal (cfg.rule cap) s) := by
  cases s with
  | error => exact h.error herr
  | success => exact h.success hcap hsucc

theorem Tracks.windows (h : Tracks (cfg.rule cap) fl c) (hcap : cap < 2 ^ 16)
    (herr : cfg.errorThreshold < 2 ^ 16) (hsucc : cfg.successThreshold < 2 ^ 16)
    (signals : List Signal) : fl.windows cfg signals = c.windows (cfg.rule cap) signals := by
  -- the two states move together, so the windows agree one by one
  induction signals generalizing fl c with
  | nil =>
      show [fl.currentWindow] = [c.cwnd]
      rw [h.window_eq]
  | cons s rest ih =>
      show fl.currentWindow :: _ = c.cwnd :: _
      rw [h.window_eq, ih (h.signal hcap herr hsucc s)]

end Signals

/-- **AIMD refines its specification**: from any window inside the cap, the
windows of every sequence of errors and successes are the controller's, and
stay inside the cap. -/
theorem aimd_refines (cfg : TxFlowConfig) (hdegrade : cfg.degradeErrorThreshold < 2 ^ 16)
    (hrecovery : cfg.recoverySuccessThreshold < 2 ^ 16) (cap cwnd : Nat) (hcap : cap < 2 ^ 16)
    (hlow : 1 ≤ cwnd) (hhigh : cwnd ≤ cap) (flag : Bool) (signals : List Signal) :
    Flow.windows cfg ⟨cap, cwnd, 0, 0, flag⟩ signals
        = Controller.windows (cfg.rule cap) ⟨cwnd, 0, 0⟩ signals
      ∧ ∀ w ∈ Flow.windows cfg ⟨cap, cwnd, 0, 0, flag⟩ signals, 1 ≤ w ∧ w ≤ cap := by
  have hwithin : Controller.Within (cfg.rule cap) ⟨cwnd, 0, 0⟩ := ⟨hlow, hhigh⟩
  have hstart : Tracks (cfg.rule cap) ⟨cap, cwnd, 0, 0, flag⟩ ⟨cwnd, 0, 0⟩ :=
    ⟨rfl, rfl, hwithin, Or.inl rfl, cfg.errorThreshold_pos, Or.inl rfl,
      Nat.lt_of_lt_of_le Nat.zero_lt_two (Nat.le_max_left _ _)⟩
  have heq := hstart.windows hcap (TxFlowConfig.errorThreshold_lt hdegrade)
    (TxFlowConfig.successThreshold_lt hrecovery) signals
  rw [heq]
  exact ⟨rfl, hwithin.windows signals⟩

/-- Thresholds of 2 and 1 under a cap of 3. -/
theorem aimd_refines_short :
    Flow.windows ⟨3, 2, 2, 1⟩ ⟨3, 2, 0, 0, false⟩ [.success, .success, .error, .error, .error]
        = Controller.windows (TxFlowConfig.rule ⟨3, 2, 2, 1⟩ 3) ⟨2, 0, 0⟩
          [.success, .success, .error, .error, .error]
      ∧ ∀ w ∈ Flow.windows ⟨3, 2, 2, 1⟩ ⟨3, 2, 0, 0, false⟩
          [.success, .success, .error, .error, .error], 1 ≤ w ∧ w ≤ 3 :=
  aimd_refines ⟨3, 2, 2, 1⟩ (by decide) (by decide) 3 2 (by decide) (by decide) (by decide) false
    [.success, .success, .error, .error, .error]

end ValProtocol
