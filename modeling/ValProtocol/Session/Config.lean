/-
  ValProtocol.Session.Config
  ──────────────────────────
  The session configuration (`val_config_t`, `include/val_protocol.h`) as far
  as the protocol logic reads it, what `val_session_create` accepts of it
  (`src/val_core.c` lines 579-609), and the AIMD congestion window
  (`val_internal_record_transmission_error` / `_success`, lines 2093-2155).

    • `Flow.Bounded.recordError`, `Flow.Bounded.recordSuccess` — the window
      stays between 1 and the negotiated cap.
-/
import ValProtocol.Wire.Types

namespace ValProtocol

/-! ## §1. Configuration. -/

/-- `config.retries`: `uint8_t` budgets. -/
structure RetryConfig where
  handshakeRetries : Nat
  metaRetries : Nat
  dataRetries : Nat
  ackRetries : Nat
  deriving Repr, DecidableEq

/-- `val_tx_flow_config_t`: `uint16_t` fields, 0 meaning the default. -/
structure TxFlowConfig where
  windowCapPackets : Nat
  initialCwndPackets : Nat
  degradeErrorThreshold : Nat
  recoverySuccessThreshold : Nat
  deriving Repr, DecidableEq

/-- `val_resume_config_t`. -/
structure ResumeConfig where
  mode : ResumeMode
  tailCapBytes : Nat
  minVerifyBytes : Nat
  mismatchSkip : Bool
  deriving Repr, DecidableEq

/-- `val_config_t`.  `longBits` is the width of the platform's `long`, which
some of the file offsets pass through. -/
structure Config where
  packetSize : Nat
  retries : RetryConfig
  txFlow : TxFlowConfig
  resume : ResumeConfig
  requiredFeatures : Nat
  requestedFeatures : Nat
  longBits : Nat
  deriving Repr, DecidableEq

/-- The field values have their C types, and `val_session_create` accepts
the packet size. -/
structure Config.Accepted (c : Config) : Prop where
  packetSize_min : minPacketSize ≤ c.packetSize
  packetSize_max : c.packetSize ≤ maxPacketSize
  handshakeRetries_lt : c.retries.handshakeRetries < 2 ^ 8
  metaRetries_lt : c.retries.metaRetries < 2 ^ 8
  dataRetries_lt : c.retries.dataRetries < 2 ^ 8
  ackRetries_lt : c.retries.ackRetries < 2 ^ 8
  windowCap_lt : c.txFlow.windowCapPackets < 2 ^ 16
  initialCwnd_lt : c.txFlow.initialCwndPackets < 2 ^ 16
  degrade_lt : c.txFlow.degradeErrorThreshold < 2 ^ 16
  recovery_lt : c.txFlow.recoverySuccessThreshold < 2 ^ 16
  tailCap_lt : c.resume.tailCapBytes < 2 ^ 32
  minVerify_lt : c.resume.minVerifyBytes < 2 ^ 32
  required_lt : c.requiredFeatures < 2 ^ 32
  requested_lt : c.requestedFeatures < 2 ^ 32
  longBits_ok : c.longBits = 32 ∨ c.longBits = 64

/-! ## §2. The congestion window. -/

/-- The flow-control fields of the session. -/
structure Flow where
  negotiatedWindow : Nat
  currentWindow : Nat
  consecutiveErrors : Nat
  consecutiveSuccesses : Nat
  inRetransmit : Bool
  deriving Repr, DecidableEq

/-- Errors before the window is halved. -/
def TxFlowConfig.errorThreshold (cfg : TxFlowConfig) : Nat :=
  if cfg.degradeErrorThreshold = 0 then 3 else cfg.degradeErrorThreshold

/-- Successes before the window grows. -/
def TxFlowConfig.successThreshold (cfg : TxFlowConfig) : Nat :=
  if cfg.recoverySuccessThreshold = 0 then 10 else cfg.recoverySuccessThreshold

/-- `val_internal_record_transmission_error`: halve after enough errors. -/
def recordTransmissionError (cfg : TxFlowConfig) (fl : Flow) : Flow :=
  let fl := { fl with
    consecutiveErrors := (fl.consecutiveErrors + 1) % 2 ^ 32, consecutiveSuccesses := 0 }
  if fl.consecutiveErrors ≥ cfg.errorThreshold then
    let cur := if fl.currentWindow ≠ 0 then fl.currentWindow else 1
    let newW := max 1 (cur / 2)
    if newW ≠ cur then { fl with currentWindow := newW, consecutiveErrors := 0 } else fl
  else fl

/-- `val_internal_record_transmission_success`: one more packet after enough
successes, up to the negotiated cap. -/
def recordTransmissionSuccess (cfg : TxFlowConfig) (fl : Flow) : Flow :=
  let fl := { fl with
    consecutiveSuccesses := (fl.consecutiveSuccesses + 1) % 2 ^ 32, consecutiveErrors := 0 }
  if fl.consecutiveSuccesses ≥ cfg.successThreshold then
    let cur := if fl.currentWindow ≠ 0 then fl.currentWindow else 1
    let cap := if fl.negotiatedWindow ≠ 0 then fl.negotiatedWindow else cur
    if cur < cap then
      let newW := min ((cur + 1) % 2 ^ 16) cap
      if newW ≠ cur then { fl with currentWindow := newW, consecutiveSuccesses := 1 } else fl
    else fl
  else fl

/-- The window the code works with: a stored 0 counts as 1. -/
def Flow.window (fl : Flow) : Nat := if fl.currentWindow ≠ 0 then fl.currentWindow else 1

/-- The congestion window respects the negotiated cap. -/
structure Flow.Bounded (fl : Flow) : Prop where
  cap_lt : fl.negotiatedWindow < 2 ^ 16
  window_pos : 1 ≤ fl.currentWindow
  window_le : fl.currentWindow ≤ fl.negotiatedWindow

/-- An error leaves the window alone or halves it. -/
theorem recordTransmissionError_cases (cfg : TxFlowConfig) (fl : Flow) :
    (recordTransmissionError cfg fl).currentWindow = fl.currentWindow
    ∨ (recordTransmissionError cfg fl).currentWindow = max 1 (fl.window / 2) := by
  simp only [recordTransmissionError]
  rw [← Flow.window]
  split
  · split
    · exact Or.inr rfl
    · exact Or.inl rfl
  · exact Or.inl rfl

/-- A success leaves the window alone or adds one packet below the cap. -/
theorem recordTransmissionSuccess_cases (cfg : TxFlowConfig) {fl : Flow}
    (hcap : fl.negotiatedWindow < 2 ^ 16) :
    (recordTransmissionSuccess cfg fl).currentWindow = fl.currentWindow
    ∨ (fl.window < fl.negotiatedWindow
        ∧ (recordTransmissionSuccess cfg fl).currentWindow = fl.window + 1) := by
  simp only [recordTransmissionSuccess]
  rw [← Flow.window]
  by_cases hneg : fl.negotiatedWindow = 0
  · -- without a negotiated cap the window is its own cap
    simp only [hneg, ne_eq, not_true_eq_false, if_false, Nat.lt_irrefl]
    split <;> exact Or.inl rfl
  · simp only [ne_eq, hneg, not_false_eq_true, if_true]
    split
    · split
      · rename_i hlt
        have hnew : min ((fl.window + 1) % 2 ^ 16) fl.negotiatedWindow = fl.window + 1 := by
          rw [Nat.mod_eq_of_lt (by omega)]
          omega
        rw [hnew]
        exact Or.inr ⟨hlt, by rw [if_pos (by omega)]⟩
      · exact Or.inl rfl
    · exact Or.inl rfl

@[simp] theorem recordTransmissionError_negotiated (cfg : TxFlowConfig) (fl : Flow) :
    (recordTransmissionError cfg fl).negotiatedWindow = fl.negotiatedWindow := by
  simp only [recordTransmissionError]
  repeat' split
  all_goals rfl

@[simp] theorem recordTransmissionSuccess_negotiated (cfg : TxFlowConfig) (fl : Flow) :
    (recordTransmissionSuccess cfg fl).negotiatedWindow = fl.negotiatedWindow := by
  simp only [recordTransmissionSuccess]
  repeat' split
  all_goals rfl

theorem Flow.Bounded.window_eq {fl : Flow} (h : fl.Bounded) : fl.window = fl.currentWindow := by
  have := h.window_pos
  rw [Flow.window, if_pos (by omega)]

theorem Flow.Bounded.recordError {fl : Flow} (cfg : TxFlowConfig) (h : fl.Bounded) :
    (recordTransmissionError cfg fl).Bounded := by
  have hpos := h.window_pos
  have hle := h.window_le
  refine ⟨by simpa using h.cap_lt, ?_, ?_⟩
  all_goals
    rcases recordTransmissionError_cases cfg fl with hw | hw
    · simp only [hw, recordTransmissionError_negotiated]
      omega
    · simp only [hw, recordTransmissionError_negotiated, h.window_eq]
      omega

theorem Flow.Bounded.recordSuccess {fl : Flow} (cfg : TxFlowConfig) (h : fl.Bounded) :
    (recordTransmissionSuccess cfg fl).Bounded := by
  have hpos := h.window_pos
  have hle := h.window_le
  refine ⟨by simpa using h.cap_lt, ?_, ?_⟩
  all_goals
    rcases recordTransmissionSuccess_cases cfg h.cap_lt with hw | ⟨hlt, hw⟩
    · simp only [hw, recordTransmissionSuccess_negotiated]
      omega
    · rw [h.window_eq] at hlt hw
      simp only [hw, recordTransmissionSuccess_negotiated]
      omega

end ValProtocol
