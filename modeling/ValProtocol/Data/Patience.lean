/-
  ValProtocol.Data.Patience
  ─────────────────────────
  How many silent waits the data phase survives (`src/val_sender.c` lines
  741-756, 801-910 and 497-576).

  `wait_for_window_ack` fails with `VAL_ERR_TIMEOUT` once `tries` is used up.
  The counter is set at three places: for the first window (extended for a
  deep resume, in eight bits), for every later window, and on each DATA_ACK
  that advances `last_acked` — there from `ack_retries` as it stands, without
  the "at least one" of the other two.

    • `patience_iff`       — over every run of the data phase, a timeout ends
      it only behind `max 1 ack_retries` others, exactly when no timeout
      falls on one of the two budgets that are too small,
    • `patience_exhausted` — a single lost ACK behind a partial one.
-/
import ValProtocol.Data.Cursor

namespace ValProtocol

/-! ## §1. Counting silent waits. -/

/-- Where `tries` was last set. -/
inductive Budget where
  /-- the first window of the data phase -/
  | first
  /-- a DATA_ACK that advanced `last_acked`, short of `target_ack` -/
  | short
  /-- a later window -/
  | whole
  deriving Repr, DecidableEq

/-- The data phase with the timeouts since it began, or since the last
DATA_ACK that advanced `last_acked`. -/
structure Silence where
  phase : DataResult
  silent : Nat
  budget : Budget
  deriving Repr, DecidableEq

/-- The offset of a DATA_ACK that advances `last_acked`. -/
def advancingAck (io : SendFile) (d : SendData) (f : Frame) : Option Nat :=
  match recvControl io.mtu 32 f with
  | .error _ => none
  | .ok p => if p.type = .dataAck ∧ d.lastAcked < p.off then some p.off else none

/-- The data phase up to its first wait. -/
def Silence.start (cfg : Config) (io : SendFile) (flow : Flow) : Silence :=
  ⟨(startData cfg io flow).2, 0, .first⟩

/-- One input. -/
def Silence.step (cfg : Config) (io : SendFile) (s : Silence) (i : WaitInput) : Silence :=
  match s.phase with
  | .wait d =>
      let phase := ((i.move cfg io d).run io).2
      match i with
      | .timeout => ⟨phase, s.silent + 1, s.budget⟩
      | .frame f =>
          match advancingAck io d f with
          | some off => ⟨phase, 0, if off < d.targetAck then .short else .whole⟩
          | none => ⟨phase, s.silent, s.budget⟩
  | _ => s

/-- A run of inputs. -/
def Silence.run (cfg : Config) (io : SendFile) (s : Silence) (is : List WaitInput) : Silence :=
  is.foldl (Silence.step cfg io) s

/-- The waits an ACK is given at least. -/
def Config.patience (cfg : Config) : Nat := max 1 cfg.retries.ackRetries

/-- **The data phase tolerates silent waits**: it times out only behind
`patience` others, and the first silent wait always sends the window again. -/
structure Tolerant (cfg : Config) (io : SendFile) (s : Silence) (is : List WaitInput) :
    Prop where
  late : (s.run cfg io is).phase = .fail .timeout → cfg.patience + 1 ≤ (s.run cfg io is).silent
  restarts : ∀ pre post d, is = pre ++ .timeout :: post →
    (s.run cfg io pre).phase = .wait d → (s.run cfg io pre).silent = 0 →
    ∃ d', onAckTimeout cfg d = .fill d' ∧ d'.nextToSend = d.lastAcked ∧ d'.inflight = 0

/-- `first_ack_extra_tries`. -/
def SendFile.extraTries (io : SendFile) : Nat :=
  if io.resumeOff > 0 then min (io.resumeOff / (256 * 1024 * 1024)) 6 else 0

/-- What `tries` starts from there; the first window's extra tries are added
in `uint8_t`. -/
def Budget.tries (cfg : Config) (io : SendFile) : Budget → Nat
  | .first => (cfg.patience + io.extraTries) % 2 ^ 8
  | .short => cfg.retries.ackRetries
  | .whole => cfg.patience

/-- The input is no timeout on a budget that is too small: one set by a
partial ACK when `ack_retries` is 0, or the first one when adding the extra
tries overflowed and what was left of it is used up. -/
def Silence.spares (cfg : Config) (io : SendFile) (s : Silence) (i : WaitInput) : Bool :=
  match s.phase, i with
  | .wait _, .timeout =>
      match s.budget with
      | .first =>
          decide (cfg.patience + io.extraTries < 2 ^ 8
            ∨ s.silent ≠ cfg.patience + io.extraTries - 2 ^ 8)
      | .short => decide (cfg.retries.ackRetries ≠ 0)
      | .whole => true
  | _, _ => true

/-- No input of the run is one. -/
def Silence.spared (cfg : Config) (io : SendFile) : Silence → List WaitInput → Bool
  | _, [] => true
  | s, i :: is => s.spares cfg io i && (s.step cfg io i).spared cfg io is

/-! ## §2. What an input does to `tries`. -/

/-- The tries a move goes on with. -/
inductive MoveTries (k : Nat) : Move → Prop where
  | stay {d : SendData} : d.tries = k → MoveTries k (.stay d)
  | fill {d : SendData} : d.tries = k → MoveTries k (.fill d)
  | finish (flow : Flow) : MoveTries k (.finish flow)
  | stop (st : Status) : MoveTries k (.stop st)

theorem MoveTries.run {io : SendFile} {k : Nat} {m : Move} (h : MoveTries k m) {d : SendData}
    (hd : (m.run io).2 = .wait d) : d.tries = k := by
  cases h with
  | stay h =>
      cases hd
      exact h
  | @fill d₀ h =>
      rcases fillAndWait_cases io d₀ with ⟨st, hst⟩ | hw
      · rw [Move.run, hst] at hd
        cases hd
      · rw [Move.run, hw] at hd
        cases hd
        show (fillLoop io d₀.win d₀).1.tries = k
        rw [(fillLoop_filled io d₀.win d₀).tries_eq, h]
  | finish flow => cases hd
  | stop st => cases hd

section Input

variable {cfg : Config} {io : SendFile} {d : SendData}

/-- Only a move that stops with a timeout fails with one. -/
theorem Move.run_timeout {m : Move} (h : (m.run io).2 = .fail .timeout) :
    m = .stop .timeout := by
  rcases Move.run_fail h with hstop | ⟨d, b, hp⟩
  · exact hstop
  · exfalso
    rcases sendDataPacket_error hp with hst | hst
    all_goals cases hst

theorem recvControl_no_timeout {mtu cap : Nat} {f : Frame} :
    recvControl mtu cap f ≠ .error .timeout := by
  intro h
  rcases recvControl_refuses h with hst | hst
  all_goals cases hst

theorem windowTries_started (cfg : Config) (io : SendFile) {d : SendData}
    (h : d.firstAckGrace = false) : windowTries cfg io d = cfg.patience := by
  unfold windowTries Config.patience
  rw [h, if_neg (fun hc => by cases hc.1)]
  split <;> omega

theorem windowTries_init (hn : cfg.retries.ackRetries < 2 ^ 8) (flow : Flow) :
    windowTries cfg io (initData io flow) = (cfg.patience + io.extraTries) % 2 ^ 8 := by
  unfold windowTries Config.patience SendFile.extraTries initData
  dsimp only
  by_cases hr : io.resumeOff > 0
  · have htries : (if cfg.retries.ackRetries ≠ 0 then cfg.retries.ackRetries else 1)
        = max 1 cfg.retries.ackRetries := by split <;> omega
    rw [if_pos ⟨decide_eq_true hr, rfl⟩, if_pos hr, htries]
  · rw [if_neg (fun hc => hr (of_decide_eq_true hc.1)), if_neg hr]
    split <;> omega

/-- The budget an advancing DATA_ACK sets. -/
theorem onAckFrame_advancing (cfg : Config) {f : Frame} {off : Nat} (h : advancingAck io d f = some off) :
    onAckFrame cfg io d f ≠ .stop .timeout
      ∧ MoveTries ((if off < d.targetAck then Budget.short else .whole).tries cfg io)
          (onAckFrame cfg io d f) := by
  unfold advancingAck at h
  unfold onAckFrame
  cases hp : recvControl io.mtu 32 f with
  | error st =>
      rw [hp] at h
      cases h
  | ok p =>
      rw [hp] at h
      dsimp only at h ⊢
      split at h
      · rename_i hadv
        cases h
        rw [hadv.1]
        dsimp only
        unfold onDataAck
        rw [if_neg (by omega)]
        dsimp only
        by_cases htarget : p.off < d.targetAck
        · have hshort : (advance cfg io d p.off).lastAcked
              < (advance cfg io d p.off).targetAck := htarget
          rw [if_pos hshort, if_pos htarget]
          exact ⟨(fun h => by cases h), .stay rfl⟩
        · have hwhole : ¬ (advance cfg io d p.off).lastAcked
              < (advance cfg io d p.off).targetAck := htarget
          rw [if_neg hwhole, if_neg htarget]
          unfold dataLoop
          split
          · have hwindow := windowTries_started cfg io (d := advance cfg io d p.off) rfl
            exact ⟨(fun h => by cases h), .fill hwindow⟩
          · exact ⟨(fun h => by cases h), .finish _⟩
      · cases h

/-- No other frame touches the counter. -/
theorem onAckFrame_other (cfg : Config) {f : Frame} (h : advancingAck io d f = none) :
    onAckFrame cfg io d f ≠ .stop .timeout ∧ MoveTries d.tries (onAckFrame cfg io d f) := by
  unfold advancingAck at h
  unfold onAckFrame
  cases hp : recvControl io.mtu 32 f with
  | error st =>
      refine ⟨?_, .stop _⟩
      intro hst
      cases hst
      exact recvControl_no_timeout hp
  | ok p =>
      rw [hp] at h
      dsimp only at h ⊢
      split
      · exact ⟨(fun h => by cases h), .stop _⟩
      · exact ⟨(fun h => by cases h), .fill rfl⟩
      · rename_i htype
        have hstale : p.off ≤ d.lastAcked := by
          by_contra hlt
          rw [if_pos ⟨htype, by omega⟩] at h
          cases h
        unfold onDataAck
        rw [if_pos hstale]
        exact ⟨(fun h => by cases h), .stay rfl⟩
      · exact ⟨(fun h => by cases h), .stop _⟩
      · exact ⟨(fun h => by cases h), .stay rfl⟩

/-- A silent wait uses a try and goes back to `last_acked`. -/
theorem onAckTimeout_tries (cfg : Config) {k : Nat} (h : d.tries = k + 1) :
    ∃ d', onAckTimeout cfg d = .fill d' ∧ d'.tries = k ∧ d'.nextToSend = d.lastAcked
      ∧ d'.inflight = 0 := by
  unfold onAckTimeout
  rw [if_neg (by omega)]
  refine ⟨_, rfl, ?_, rfl, rfl⟩
  show d.tries - 1 = k
  omega

end Input

/-! ## §3. The budget along a run. -/

/-- The counter and the silent waits make up the budget. -/
inductive Silence.Sound (cfg : Config) (io : SendFile) : Silence → Prop where
  | wait {d : SendData} {silent : Nat} {b : Budget} :
      d.tries + silent = b.tries cfg io → Sound cfg io ⟨.wait d, silent, b⟩
  | ended {phase : DataResult} {silent : Nat} {b : Budget} :
      (∀ d, phase ≠ .wait d) →
      (phase = .fail .timeout → cfg.patience + 1 ≤ silent) →
      Sound cfg io ⟨phase, silent, b⟩

section Run

variable {cfg : Config} {io : SendFile}

theorem SendFile.extraTries_le (io : SendFile) : io.extraTries ≤ 6 := by
  unfold SendFile.extraTries
  split
  · exact Nat.min_le_right _ _
  · omega

/-- A timeout on a spent budget is spared exactly when the budget held
enough. -/
theorem Silence.spares_spent (hn : cfg.retries.ackRetries < 2 ^ 8) {d : SendData}
    {silent : Nat} {b : Budget} (h : silent = b.tries cfg io) :
    Silence.spares cfg io ⟨.wait d, silent, b⟩ .timeout = true ↔ cfg.patience ≤ silent := by
  have hextra := io.extraTries_le
  unfold Silence.spares
  dsimp only
  cases b with
  | first =>
      have htries : silent = (cfg.patience + io.extraTries) % 2 ^ 8 := h
      have hmax : cfg.patience < 2 ^ 8 := by
        unfold Config.patience
        omega
      rw [decide_eq_true_iff]
      omega
  | short =>
      have htries : silent = cfg.retries.ackRetries := h
      unfold Config.patience
      rw [decide_eq_true_iff, htries]
      omega
  | whole => exact iff_of_true rfl (Nat.le_of_eq h.symm)

/-- Behind a move that is no timeout. -/
theorem Silence.Sound.of_move {m : Move} {k silent : Nat} {b : Budget}
    (hm : MoveTries k m) (hk : k + silent = b.tries cfg io) (hstop : m ≠ .stop .timeout) :
    Silence.Sound cfg io ⟨(m.run io).2, silent, b⟩ := by
  cases hr : (m.run io).2 with
  | wait d =>
      apply Silence.Sound.wait
      rw [hm.run hr, hk]
  | complete flow => exact .ended (fun d h => by cases h) (fun h => by cases h)
  | fail st =>
      refine .ended (fun d h => by cases h) ?_
      intro h
      rw [← hr] at h
      exact absurd (Move.run_timeout h) hstop

theorem Silence.start_sound (hn : cfg.retries.ackRetries < 2 ^ 8) (flow : Flow) :
    Silence.Sound cfg io (Silence.start cfg io flow) := by
  unfold Silence.start startData dataLoop
  have hk : windowTries cfg io (initData io flow) + 0 = Budget.first.tries cfg io := by
    rw [windowTries_init hn, Nat.add_zero]
    rfl
  split
  · exact .of_move (.fill rfl) hk (fun h => by cases h)
  · exact .of_move (.finish _) hk (fun h => by cases h)

/-- A run that is over stays as it is. -/
theorem Silence.step_over {s : Silence} (h : ∀ d, s.phase ≠ .wait d) (i : WaitInput) :
    s.step cfg io i = s := by
  unfold Silence.step
  split
  · rename_i d hd
    exact absurd hd (h d)
  · rfl

theorem Silence.run_over {s : Silence} (h : ∀ d, s.phase ≠ .wait d) (is : List WaitInput) :
    s.run cfg io is = s := by
  unfold Silence.run
  induction is with
  | nil => rfl
  | cons i is ih =>
      rw [List.foldl_cons, Silence.step_over h]
      exact ih

/-- **One input** that the budgets are enough for. -/
theorem Silence.Sound.step (hn : cfg.retries.ackRetries < 2 ^ 8) {s : Silence}
    (h : s.Sound cfg io) {i : WaitInput} (hi : s.spares cfg io i = true) :
    (s.step cfg io i).Sound cfg io := by
  cases h with
  | ended hphase hlate =>
      rw [Silence.step_over hphase]
      exact .ended hphase hlate
  | @wait d silent b htries =>
      cases i with
      | frame f =>
          show Silence.Sound cfg io (Silence.step cfg io ⟨.wait d, silent, b⟩ (.frame f))
          unfold Silence.step
          dsimp only
          cases hack : advancingAck io d f with
          | none =>
              obtain ⟨hstop, hmove⟩ := onAckFrame_other cfg hack
              exact .of_move hmove htries hstop
          | some off =>
              obtain ⟨hstop, hmove⟩ := onAckFrame_advancing cfg hack
              exact .of_move hmove (Nat.add_zero _) hstop
      | timeout =>
          show Silence.Sound cfg io ⟨((onAckTimeout cfg d).run io).2, silent + 1, b⟩
          rcases Nat.eq_zero_or_eq_succ_pred d.tries with hzero | hsucc
          · -- the last try is gone, and so is the whole budget
            have hstop : onAckTimeout cfg d = .stop .timeout := if_pos hzero
            rw [hstop]
            refine .ended (fun d h => by cases h) ?_
            intro _
            have hspent : silent = b.tries cfg io := by omega
            have henough := (Silence.spares_spent hn hspent).mp hi
            omega
          · obtain ⟨d', hfill, hk, -, -⟩ := onAckTimeout_tries cfg hsucc
            rw [hfill]
            exact .of_move (.fill hk) (by omega) (fun h => by cases h)

/-- **A timeout that is not spared** fails at once, too early. -/
theorem Silence.Sound.unspared (hn : cfg.retries.ackRetries < 2 ^ 8) {s : Silence}
    (h : s.Sound cfg io) {i : WaitInput} (hi : s.spares cfg io i = false) :
    (s.step cfg io i).phase = .fail .timeout
      ∧ (s.step cfg io i).silent < cfg.patience + 1 := by
  cases h with
  | ended hphase hlate =>
      unfold Silence.spares at hi
      split at hi
      · rename_i d hd
        exact absurd hd (hphase d)
      · cases hi
  | @wait d silent b htries =>
      cases i with
      | frame f => cases hi
      | timeout =>
          have hextra := io.extraTries_le
          -- not spared means that the budget is used up by the waits before
          have hspent : silent = b.tries cfg io := by
            unfold Silence.spares at hi
            dsimp only at hi
            cases b with
            | first =>
                rw [decide_eq_false_iff_not] at hi
                have hval : Budget.first.tries cfg io
                    = (cfg.patience + io.extraTries) % 2 ^ 8 := rfl
                have hmax : cfg.patience < 2 ^ 8 := by
                  unfold Config.patience
                  omega
                omega
            | short =>
                rw [decide_eq_false_iff_not] at hi
                have hval : Budget.short.tries cfg io = cfg.retries.ackRetries := rfl
                omega
            | whole => cases hi
          have hzero : d.tries = 0 := by omega
          have hshort : ¬ cfg.patience ≤ silent := by
            rw [← Silence.spares_spent hn hspent, hi]
            exact Bool.false_ne_true
          have hstop : onAckTimeout cfg d = .stop .timeout := if_pos hzero
          show ((onAckTimeout cfg d).run io).2 = .fail .timeout ∧ silent + 1 < cfg.patience + 1
          rw [hstop]
          exact ⟨rfl, by omega⟩

/-- The first silent wait of a budget that is enough starts the window again. -/
theorem Silence.Sound.restart (hn : cfg.retries.ackRetries < 2 ^ 8) {s : Silence}
    (h : s.Sound cfg io) (hi : s.spares cfg io .timeout = true) {d : SendData}
    (hd : s.phase = .wait d) (hzero : s.silent = 0) :
    ∃ d', onAckTimeout cfg d = .fill d' ∧ d'.nextToSend = d.lastAcked ∧ d'.inflight = 0 := by
  cases h with
  | ended hphase hlate => exact absurd hd (hphase d)
  | @wait d₀ silent b htries =>
      cases hd
      have hzero' : silent = 0 := hzero
      rcases Nat.eq_zero_or_eq_succ_pred d.tries with hnone | hsucc
      · have henough := (Silence.spares_spent hn (by omega)).mp hi
        have hpos : 1 ≤ cfg.patience := Nat.le_max_left _ _
        omega
      · obtain ⟨d', hfill, -, hnext, hfree⟩ := onAckTimeout_tries cfg hsucc
        exact ⟨d', hfill, hnext, hfree⟩

theorem tolerant_iff_spared (hn : cfg.retries.ackRetries < 2 ^ 8) (is : List WaitInput)
    {s : Silence} (hs : s.Sound cfg io) :
    Tolerant cfg io s is ↔ s.spared cfg io is = true := by
  induction is generalizing s with
  | nil =>
      refine ⟨fun _ => rfl, fun _ => ⟨?_, ?_⟩⟩
      · intro hfail
        have hfail' : s.phase = .fail .timeout := hfail
        cases hs with
        | wait htries => cases hfail'
        | ended hphase hlate => exact hlate hfail'
      · intro pre post d h
        cases pre <;> cases h
  | cons i is ih =>
      have hrun : ∀ l, s.run cfg io (i :: l) = (s.step cfg io i).run cfg io l := fun _ => rfl
      unfold Silence.spared
      rw [Bool.and_eq_true]
      cases hi : s.spares cfg io i with
      | false =>
          -- the run ends here, before its time
          obtain ⟨hfail, hearly⟩ := hs.unspared hn hi
          have hover : (s.step cfg io i).run cfg io is = s.step cfg io i :=
            Silence.run_over (by rw [hfail]; exact fun d h => by cases h) is
          constructor
          · intro h
            have hlate := h.late
            rw [hrun, hover] at hlate
            have := hlate hfail
            omega
          · intro h
            cases h.1
      | true =>
          have hnext := ih (hs.step hn hi)
          constructor
          · intro h
            refine ⟨rfl, hnext.mp ⟨h.late, ?_⟩⟩
            intro pre post d hsplit
            exact h.restarts (i :: pre) post d (by rw [hsplit]; rfl)
          · intro h
            have hrest := hnext.mpr h.2
            refine ⟨hrest.late, ?_⟩
            intro pre post d hsplit
            cases pre with
            | nil =>
                cases hsplit
                exact fun hd hzero => hs.restart hn hi hd hzero
            | cons j pre =>
                cases hsplit
                exact hrest.restarts pre post d rfl

end Run

/-- **The data phase and silent waits.**  For every `ack_retries`, resume
offset, window and file, and every run of the data phase against any peer: it
ends with `VAL_ERR_TIMEOUT` only at the `max 1 ack_retries + 1`st timeout since
it began or since the last DATA_ACK that advanced `last_acked`, and the first
silent wait always sends the window again, if and only if the budgets spare
every timeout of the run. -/
theorem patience_iff (cfg : Config) (hn : cfg.retries.ackRetries < 2 ^ 8) (io : SendFile)
    (flow : Flow) (is : List WaitInput) :
    Tolerant cfg io (Silence.start cfg io flow) is
      ↔ (Silence.start cfg io flow).spared cfg io is = true :=
  tolerant_iff_spared hn is (Silence.start_sound hn flow)

/-- Two silent waits and a NAK behind a partial ACK. -/
theorem patience_small :
    quickDegrade.retries.ackRetries < 2 ^ 8
      ∧ Tolerant quickDegrade smallFile (Silence.start quickDegrade smallFile twoPackets)
          [.frame (sendBare .dataAck 492).frame, .timeout, .frame (sendNak 492).frame,
            .timeout] := by
  refine ⟨by decide, ?_⟩
  apply (patience_iff quickDegrade (by decide) smallFile twoPackets _).mpr
  decide +kernel

/-- `ack_retries` of 0. -/
def noAckRetries : Config := { quickDegrade with retries := ⟨3, 3, 3, 0⟩ }

/-- **A single lost ACK that ends the transfer**: the first packet of the
window is acknowledged, the ACK of the second is lost, and the timeout finds
the counter at 0. -/
theorem patience_exhausted :
    ¬ Tolerant noAckRetries smallFile (Silence.start noAckRetries smallFile twoPackets)
        [.frame (sendBare .dataAck 492).frame, .timeout] := by
  intro h
  have hspared := (tolerant_iff_spared (by decide) _
    (Silence.start_sound (by decide) twoPackets)).mp h
  revert hspared
  decide +kernel

end ValProtocol
