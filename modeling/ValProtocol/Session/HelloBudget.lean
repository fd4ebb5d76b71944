/-
  ValProtocol.Session.HelloBudget
  ───────────────────────────────
  The time a handshake may take: the clamp of `val_session_create`
  (`src/val_core.c` lines 632-639) and the loops of
  `val_internal_do_handshake_sender` and `_receiver` (lines 1883-1982 and
  1994-2035).

  The budget becomes an absolute tick, tick 0 stands for "no deadline", and
  it is compared only behind a wait that timed out, with the tick that wait
  began at.

    • `budget_binds_iff`   — over every configuration, start tick and sequence
      of rounds, the first wait begun behind the budget is the last one
      exactly when it is not an ignored frame that ends it and the tick it
      began at passes the test,
    • `budget_binds_calm`  — which holds when nothing overflows and nothing
      is ignored,
    • `budget_forgotten`   — a handshake begun at tick 0.
-/
import ValProtocol.Lib.Ticks
import ValProtocol.Data.Sender
import ValProtocol.Session.Handshake

namespace ValProtocol

/-! ## §1. The budget. -/

/-- `config.timeouts`, and what else the handshake paces itself by. -/
structure TimeoutConfig where
  minTimeoutMs : UInt32
  maxTimeoutMs : UInt32
  handshakeBudgetMs : UInt32
  handshakeRetries : Nat
  backoffMsBase : UInt32
  deriving DecidableEq

/-- `handshake_budget_ms` as `val_session_create` leaves it. -/
def TimeoutConfig.createBudget (t : TimeoutConfig) : UInt32 :=
  let b := if t.handshakeBudgetMs = 0 then 7000 else t.handshakeBudgetMs
  let b := if t.minTimeoutMs ≠ 0 ∧ b < t.minTimeoutMs then t.minTimeoutMs else b
  if t.maxTimeoutMs ≠ 0 ∧ b > t.maxTimeoutMs * 4 then t.maxTimeoutMs * 4 else b

/-- The budget that is meant: the configured one or 7 seconds, at least
`min_timeout_ms` and at most four times `max_timeout_ms`. -/
def TimeoutConfig.budget (t : TimeoutConfig) : Nat :=
  let b := max (if t.handshakeBudgetMs = 0 then 7000 else t.handshakeBudgetMs.toNat)
    t.minTimeoutMs.toNat
  if t.maxTimeoutMs = 0 then b else min b (4 * t.maxTimeoutMs.toNat)

/-! ## §2. The loops. -/

/-- What a handshake computes before its loop. -/
structure HelloClock where
  /-- `now0` -/
  start : UInt32
  /-- 0 for none -/
  globalDeadline : UInt32
  baseTo : UInt32
  minResendMs : UInt32

/-- `budget` and `global_deadline`. -/
def globalDeadline (t : TimeoutConfig) (start : UInt32) : UInt32 :=
  let budget := if t.createBudget ≠ 0 then t.createBudget else 7000
  if start ≠ 0 then start + budget else 0

/-- Half of `min_timeout_ms`, between 200 and 500. -/
def minResend (t : TimeoutConfig) : UInt32 :=
  let half := (if t.minTimeoutMs ≠ 0 then t.minTimeoutMs else 200) / 2
  let half := if half < 200 then 200 else half
  if half > 500 then 500 else half

/-- `baseTo` is `val_internal_get_timeout(s, VAL_OP_HANDSHAKE)`. -/
def helloClock (t : TimeoutConfig) (start baseTo : UInt32) : HelloClock :=
  ⟨start, globalDeadline t start, baseTo, minResend t⟩

/-- The deadline of one wait. -/
def HelloClock.waitDeadline (c : HelloClock) (now : UInt32) : UInt32 :=
  if now ≠ 0 ∧ c.baseTo ≠ 0 then
    let deadline := now + c.baseTo
    if deadline < now then 4294967295 else deadline
  else c.baseTo

/-- The test behind a wait that timed out. -/
def HelloClock.expired (c : HelloClock) (now : UInt32) : Bool :=
  decide (c.globalDeadline ≠ 0 ∧ now ≥ c.globalDeadline)

/-- The sender's resends. -/
structure ResendState where
  retries : Nat
  backoff : UInt32
  lastSend : UInt32
  deriving DecidableEq

/-- `val_internal_backoff_step` behind a resend at `now`. -/
def ResendState.step (s : ResendState) (now : UInt32) : ResendState :=
  let next : UInt32 := if s.backoff = 0 then 0 else s.backoff <<< 1
  ⟨s.retries - 1, if next > 4000 then 4000 else next, now⟩

/-- One round: what `val_check_for_cancel` says, the ticks since the last
wait, what the wait comes back with, the ticks it takes, and how a HELLO
sent behind it fares. -/
structure HelloRound where
  cancelled : Bool
  idle : Nat
  heard : Except Status Packet
  spent : Nat
  sendError : Option Status

inductive HelloEvent where
  /-- a receive wait, with the ticks since the handshake began and its
  deadline -/
  | wait (begun : Nat) (deadline : UInt32)
  | hello
  | delay (ms : UInt32)
  deriving DecidableEq

inductive HelloNext where
  | returned (r : Except Status Packet)
  | again (s : ResendState)

/-- It is time for another HELLO. -/
def HelloClock.due (c : HelloClock) (s : ResendState) (now : UInt32) : Bool :=
  decide (0 < s.retries ∧ (now = 0 ∨ now - s.lastSend ≥ c.minResendMs))

/-- One round, begun `top` ticks behind `now0`. -/
def helloRound (c : HelloClock) (s : ResendState) (top : Nat) (r : HelloRound) :
    List HelloEvent × HelloNext :=
  let now := Ticks.after c.start top
  let wait := HelloEvent.wait top (c.waitDeadline now)
  match r.heard with
  | .ok p =>
      match p.type with
      | .cancel => ([wait], .returned (.error .aborted))
      | .error => ([wait], .returned (.error .protocol))
      | .hello =>
          if p.len < wireHandshakeSize then ([wait], .again s) else ([wait], .returned (.ok p))
      | _ => ([wait], .again s)
  | .error st =>
      if st ≠ .timeout ∧ st ≠ .crc then ([wait], .returned (.error st))
      else if c.expired now then ([wait], .returned (.error .timeout))
      else if c.due s now then
        match r.sendError with
        | some st => ([wait, .hello], .returned (.error st))
        | none =>
            (wait :: .hello :: if s.backoff ≠ 0 then [.delay s.backoff] else [],
              .again (s.step now))
      else if 0 < s.retries then
        ([wait, .delay (c.minResendMs - (now - s.lastSend))], .again s)
      else ([wait, .delay 10], .again s)

/-- The `for (;;)` of a handshake, `elapsed` ticks behind `now0`: what it does
and what it returns, if the rounds suffice for that. -/
def helloLoop (c : HelloClock) :
    ResendState → Nat → List HelloRound → List HelloEvent × Option (Except Status Packet)
  | _, _, [] => ([], none)
  | s, elapsed, r :: rest =>
      if r.cancelled then ([], some (.error .aborted))
      else
        let step := helloRound c s (elapsed + r.idle) r
        match step.2 with
        | .returned res => (step.1, some res)
        | .again s' =>
            let later := helloLoop c s' (elapsed + r.idle + r.spent) rest
            (step.1 ++ later.1, later.2)

/-- The ticks since the handshake began at which a wait begins. -/
def HelloEvent.begun : HelloEvent → Option Nat
  | .wait begun _ => some begun
  | _ => none

/-- The waits begun when `budget` ticks have gone by. -/
def lateWaits (budget : Nat) (es : List HelloEvent) : Nat :=
  es.countP (fun e => e.begun.any (fun t => decide (budget ≤ t)))

/-- **The budget binds**: no second wait is begun behind it. -/
def BudgetBinds (budget : Nat) (run : List HelloEvent × Option (Except Status Packet)) : Prop :=
  lateWaits budget run.1 ≤ 1

/-- The wait brings a packet that the loop ignores. -/
def HelloRound.ignored (r : HelloRound) : Bool :=
  match r.heard with
  | .ok p =>
      p.type != .cancel && p.type != .error
        && !(p.type == .hello && decide (wireHandshakeSize ≤ p.len))
  | .error _ => false

/-- The wait times out, on a corrupt packet perhaps. -/
def HelloRound.timedOut (r : HelloRound) : Bool :=
  match r.heard with
  | .ok _ => false
  | .error st => st == .timeout || st == .crc

/-- The round leads to another one: an ignored packet, or a timeout that does
not pass the test, without a resend that fails. -/
def HelloClock.goesOn (c : HelloClock) (s : ResendState) (top : Nat) (r : HelloRound) : Bool :=
  let now := Ticks.after c.start top
  r.ignored || r.timedOut && !c.expired now && !(c.due s now && r.sendError.isSome)

/-- The resends behind such a round. -/
def HelloClock.resent (c : HelloClock) (s : ResendState) (top : Nat) (r : HelloRound) :
    ResendState :=
  let now := Ticks.after c.start top
  if r.timedOut ∧ c.due s now then s.step now else s

/-- The first wait begun behind the budget, if the loop comes to it, leads to
no other. -/
def endsInTime (c : HelloClock) (budget : Nat) : ResendState → Nat → List HelloRound → Bool
  | _, _, [] => true
  | s, elapsed, r :: rest =>
      let top := elapsed + r.idle
      r.cancelled || !c.goesOn s top r
        || if budget ≤ top then rest.head?.all HelloRound.cancelled
          else endsInTime c budget (c.resent s top r) (top + r.spent) rest

/-! ## §4. One round. -/

section Round

variable {c : HelloClock} {s : ResendState} {top : Nat} {r : HelloRound}

/-- No further wait is begun in a round. -/
theorem helloRound_wait (c : HelloClock) (s : ResendState) (top : Nat) (r : HelloRound) :
    ∃ es, (helloRound c s top r).1
        = .wait top (c.waitDeadline (Ticks.after c.start top)) :: es
      ∧ ∀ e ∈ es, e.begun = none := by
  have hnil : ∀ e ∈ ([] : List HelloEvent), e.begun = none :=
    fun e he => absurd he List.not_mem_nil
  -- behind the wait a round resends, sleeps or reports, and no more
  have hone : ∀ e₀ : HelloEvent, e₀.begun = none → ∀ e ∈ [e₀], e.begun = none := by
    intro e₀ h₀ e he
    rw [List.mem_singleton.mp he]
    exact h₀
  unfold helloRound
  dsimp only
  split
  · split
    · exact ⟨[], rfl, hnil⟩
    · exact ⟨[], rfl, hnil⟩
    · split
      · exact ⟨[], rfl, hnil⟩
      · exact ⟨[], rfl, hnil⟩
    · exact ⟨[], rfl, hnil⟩
  · split
    · exact ⟨[], rfl, hnil⟩
    · split
      · exact ⟨[], rfl, hnil⟩
      · split
        · split
          · exact ⟨_, rfl, hone _ rfl⟩
          · refine ⟨_, rfl, ?_⟩
            intro e he
            rcases List.mem_cons.mp he with rfl | he
            · rfl
            · split at he
              · exact hone _ rfl e he
              · cases he
        · split
          · exact ⟨_, rfl, hone _ rfl⟩
          · exact ⟨_, rfl, hone _ rfl⟩

/-- Whether a round goes on, and with which resends. -/
theorem helloRound_next (c : HelloClock) (s : ResendState) (top : Nat) (r : HelloRound) :
    (c.goesOn s top r = true ∧ (helloRound c s top r).2 = .again (c.resent s top r))
    ∨ (c.goesOn s top r = false ∧ ∃ res, (helloRound c s top r).2 = .returned res) := by
  unfold HelloClock.goesOn HelloClock.resent HelloRound.ignored HelloRound.timedOut helloRound
  cases hh : r.heard with
  | ok p =>
      dsimp only
      cases hp : p.type with
      | cancel => exact Or.inr ⟨rfl, _, rfl⟩
      | error => exact Or.inr ⟨rfl, _, rfl⟩
      | hello =>
          dsimp only
          by_cases hlen : p.len < wireHandshakeSize
          · have hshort : decide (wireHandshakeSize ≤ p.len) = false :=
              decide_eq_false (Nat.not_le_of_lt hlen)
            rw [hshort, if_pos hlen]
            exact Or.inl ⟨rfl, rfl⟩
          · have hlong : decide (wireHandshakeSize ≤ p.len) = true :=
              decide_eq_true (Nat.le_of_not_lt hlen)
            rw [hlong, if_neg hlen]
            exact Or.inr ⟨rfl, _, rfl⟩
      | _ => exact Or.inl ⟨rfl, rfl⟩
  | error st =>
      dsimp only
      -- only a timeout or a CRC error leads to another round
      by_cases hst : st ≠ .timeout ∧ st ≠ .crc
      · have hother : (st == .timeout || st == .crc) = false := by
          rw [beq_eq_false_iff_ne.mpr hst.1, beq_eq_false_iff_ne.mpr hst.2]
          rfl
        simp only [hother, if_pos hst]
        exact Or.inr ⟨rfl, _, rfl⟩
      · have hmiss : (st == .timeout || st == .crc) = true := by
          by_contra hne
          rw [Bool.not_eq_true, Bool.or_eq_false_iff, beq_eq_false_iff_ne,
            beq_eq_false_iff_ne] at hne
          exact hst hne
        simp only [hmiss, if_neg hst]
        cases hexp : c.expired (Ticks.after c.start top) with
        | true => exact Or.inr ⟨rfl, _, rfl⟩
        | false =>
            -- inside the budget: HELLO is sent again when it is due
            cases hdue : c.due s (Ticks.after c.start top) with
            | true =>
                cases r.sendError with
                | some st => exact Or.inr ⟨rfl, _, rfl⟩
                | none => exact Or.inl ⟨rfl, rfl⟩
            | false =>
                refine Or.inl ⟨rfl, ?_⟩
                by_cases hretries : 0 < s.retries
                · simp [hretries]
                · simp [hretries]

end Round

/-! ## §5. Whole handshakes. -/

section Loop

variable {c : HelloClock} {budget : Nat}

theorem lateWaits_none (budget : Nat) {es : List HelloEvent} (h : ∀ e ∈ es, e.begun = none) :
    lateWaits budget es = 0 := by
  apply List.countP_eq_zero.mpr
  intro e he
  rw [h e he]
  exact Bool.false_ne_true

/-- The waits of a round. -/
theorem lateWaits_round (c : HelloClock) (budget : Nat) (s : ResendState) (top : Nat) (r : HelloRound) :
    lateWaits budget (helloRound c s top r).1 = if budget ≤ top then 1 else 0 := by
  obtain ⟨es, hes, hnone⟩ := helloRound_wait c s top r
  have hrest := lateWaits_none budget hnone
  unfold lateWaits at hrest ⊢
  rw [hes, List.countP_cons, hrest, Nat.zero_add]
  by_cases hle : budget ≤ top
  · rw [if_pos hle, if_pos]
    exact decide_eq_true hle
  · rw [if_neg hle, if_neg]
    intro h
    exact hle (of_decide_eq_true h)

/-- Behind the budget every round begins a late wait. -/
theorem lateWaits_pos (rounds : List HelloRound) (s : ResendState) {elapsed : Nat}
    (h : budget ≤ elapsed) :
    lateWaits budget (helloLoop c s elapsed rounds).1 = 0
      ↔ rounds.head?.all HelloRound.cancelled = true := by
  cases rounds with
  | nil => exact iff_of_true rfl rfl
  | cons r rest =>
      unfold helloLoop
      show _ ↔ r.cancelled = true
      cases hc : r.cancelled with
      | true =>
          rw [if_pos rfl]
          exact iff_of_true rfl rfl
      | false =>
          rw [if_neg Bool.false_ne_true]
          refine iff_of_false ?_ Bool.false_ne_true
          have hround := lateWaits_round c budget s (elapsed + r.idle) r
          rw [if_pos (by omega)] at hround
          dsimp only
          split
          · show ¬ lateWaits budget (helloRound c s (elapsed + r.idle) r).1 = 0
            omega
          · unfold lateWaits at hround ⊢
            rw [List.countP_append]
            omega

theorem budgetBinds_loop_iff (c : HelloClock) (budget : Nat) (rounds : List HelloRound) (s : ResendState) (elapsed : Nat) :
    BudgetBinds budget (helloLoop c s elapsed rounds)
      ↔ endsInTime c budget s elapsed rounds = true := by
  induction rounds generalizing s elapsed with
  | nil => exact iff_of_true (Nat.zero_le 1) rfl
  | cons r rest ih =>
      unfold BudgetBinds at ih ⊢
      unfold helloLoop endsInTime
      dsimp only
      cases hc : r.cancelled with
      | true =>
          rw [if_pos rfl]
          exact iff_of_true (Nat.zero_le 1) rfl
      | false =>
          rw [if_neg Bool.false_ne_true]
          have hround := lateWaits_round c budget s (elapsed + r.idle) r
          rcases (helloRound_next c s (elapsed + r.idle) r).symm with
            ⟨hgo, res, hres⟩ | ⟨hgo, hnext⟩
          · rw [hgo, hres]
            refine iff_of_true ?_ rfl
            show lateWaits budget (helloRound c s (elapsed + r.idle) r).1 ≤ 1
            rw [hround]
            split <;> omega
          · rw [hgo, hnext]
            dsimp only
            set later := helloLoop c (c.resent s (elapsed + r.idle) r)
              (elapsed + r.idle + r.spent) rest with hlater
            have hsum : lateWaits budget
                ((helloRound c s (elapsed + r.idle) r).1 ++ later.1)
                = (if budget ≤ elapsed + r.idle then 1 else 0) + lateWaits budget later.1 := by
              rw [← hround]
              exact List.countP_append
            rw [hsum, Bool.not_true, Bool.false_or, Bool.false_or]
            by_cases hlate : budget ≤ elapsed + r.idle
            · -- the first late wait: no other may follow
              rw [if_pos hlate, if_pos hlate, ← lateWaits_pos rest
                (c.resent s (elapsed + r.idle) r) (Nat.le_add_right_of_le hlate)]
              rw [← hlater]
              omega
            · rw [if_neg hlate, if_neg hlate, Nat.zero_add]
              exact ih _ _

end Loop

/-! ## §6. The budget where nothing overflows. -/

/-- Without an overflow the clamp computes the budget that is meant. -/
theorem TimeoutConfig.createBudget_eq {t : TimeoutConfig}
    (h : 4 * t.maxTimeoutMs.toNat < 2 ^ 32) :
    t.createBudget.toNat = t.budget ∧ 0 < t.budget := by
  have hzero : ∀ x : UInt32, x = 0 ↔ x.toNat = 0 := by
    intro x
    rw [← UInt32.toNat_inj]
    rfl
  have hfour : (t.maxTimeoutMs * 4).toNat = 4 * t.maxTimeoutMs.toNat := by
    rw [UInt32.toNat_mul]
    show t.maxTimeoutMs.toNat * 4 % 2 ^ 32 = 4 * t.maxTimeoutMs.toNat
    omega
  have hdefault : (7000 : UInt32).toNat = 7000 := rfl
  have hbase : (if t.handshakeBudgetMs = 0 then (7000 : UInt32) else t.handshakeBudgetMs).toNat
      = (if t.handshakeBudgetMs = 0 then 7000 else t.handshakeBudgetMs.toNat)
      ∧ 0 < (if t.handshakeBudgetMs = 0 then 7000 else t.handshakeBudgetMs.toNat) := by
    by_cases hb : t.handshakeBudgetMs = 0
    · rw [if_pos hb, if_pos hb]
      exact ⟨hdefault, by decide⟩
    · rw [if_neg hb, if_neg hb]
      rw [hzero] at hb
      exact ⟨rfl, by omega⟩
  unfold TimeoutConfig.createBudget TimeoutConfig.budget
  dsimp only
  -- `b` is the budget asked for, `low` is raised to the least timeout
  set b : UInt32 := if t.handshakeBudgetMs = 0 then 7000 else t.handshakeBudgetMs with hb
  set n : Nat := if t.handshakeBudgetMs = 0 then 7000 else t.handshakeBudgetMs.toNat with hn
  obtain ⟨hbn, hpos⟩ := hbase
  have hlow : (if t.minTimeoutMs ≠ 0 ∧ b < t.minTimeoutMs then t.minTimeoutMs else b).toNat
      = max n t.minTimeoutMs.toNat := by
    by_cases hmin : t.minTimeoutMs ≠ 0 ∧ b < t.minTimeoutMs
    · rw [if_pos hmin]
      have := UInt32.lt_iff_toNat_lt.mp hmin.2
      omega
    · rw [if_neg hmin]
      rw [ne_eq, hzero, UInt32.lt_iff_toNat_lt] at hmin
      omega
  set low : UInt32 := if t.minTimeoutMs ≠ 0 ∧ b < t.minTimeoutMs then t.minTimeoutMs else b
    with hlowdef
  by_cases hmax : t.maxTimeoutMs = 0
  · rw [if_pos hmax, if_neg (fun hc => hc.1 hmax), hlow]
    omega
  · have hmax' : t.maxTimeoutMs.toNat ≠ 0 := fun h0 => hmax ((hzero _).mpr h0)
    rw [if_neg hmax]
    by_cases hhigh : low > t.maxTimeoutMs * 4
    · have := UInt32.lt_iff_toNat_lt.mp hhigh
      rw [if_pos ⟨hmax, hhigh⟩]
      omega
    · rw [if_neg (fun hc => hhigh hc.2)]
      rw [gt_iff_lt, UInt32.lt_iff_toNat_lt] at hhigh
      omega

/-- The ticks a list of rounds takes. -/
def roundTicks (rounds : List HelloRound) : Nat := (rounds.map (fun r => r.idle + r.spent)).sum

/-- A wait behind the budget finds it spent while the clock has not wrapped. -/
theorem helloClock_expired {t : TimeoutConfig} {start : UInt32} (baseTo : UInt32) {top : Nat}
    (hmax : 4 * t.maxTimeoutMs.toNat < 2 ^ 32) (hstart : start ≠ 0)
    (htop : start.toNat + top < 2 ^ 32) (hlate : t.budget ≤ top) :
    (helloClock t start baseTo).expired (Ticks.after start top) = true := by
  obtain ⟨hcreate, hpos⟩ := TimeoutConfig.createBudget_eq hmax
  have hne : t.createBudget ≠ 0 := by
    intro h0
    rw [h0] at hcreate
    have hzero : (0 : UInt32).toNat = 0 := rfl
    omega
  have hdeadline : (helloClock t start baseTo).globalDeadline = start + t.createBudget := by
    show (if start ≠ 0 then start + (if t.createBudget ≠ 0 then t.createBudget else 7000) else 0)
      = start + t.createBudget
    rw [if_pos hstart, if_pos hne]
  have hsum : (start + t.createBudget).toNat = start.toNat + t.budget := by
    rw [UInt32.toNat_add, hcreate]
    omega
  unfold HelloClock.expired
  rw [decide_eq_true_iff, hdeadline]
  refine ⟨?_, ?_⟩
  · intro h0
    rw [h0] at hsum
    have hzero : (0 : UInt32).toNat = 0 := rfl
    omega
  · rw [ge_iff_le, UInt32.le_iff_toNat_le, Ticks.after_toNat, hsum]
    omega

/-- **The budget binds in a calm handshake**: no overflow in the clamp, a start
tick other than 0, no wrap of the clock, and no packet that is ignored. -/
theorem budget_binds_calm {t : TimeoutConfig} {start baseTo : UInt32}
    (hmax : 4 * t.maxTimeoutMs.toNat < 2 ^ 32) (hstart : start ≠ 0) :
    ∀ (rounds : List HelloRound) (s : ResendState) (elapsed : Nat),
      start.toNat + elapsed + roundTicks rounds < 2 ^ 32 →
      (∀ r ∈ rounds, r.ignored = false) →
      BudgetBinds t.budget (helloLoop (helloClock t start baseTo) s elapsed rounds) := by
  intro rounds s elapsed hticks hcalm
  rw [budgetBinds_loop_iff]
  induction rounds generalizing s elapsed with
  | nil => rfl
  | cons r rest ih =>
      have hsplit : roundTicks (r :: rest) = r.idle + r.spent + roundTicks rest := by
        unfold roundTicks
        rw [List.map_cons, List.sum_cons]
      unfold endsInTime
      dsimp only
      by_cases hlate : t.budget ≤ elapsed + r.idle
      · have hgo : (helloClock t start baseTo).goesOn s (elapsed + r.idle) r = false := by
          unfold HelloClock.goesOn
          have hexp := helloClock_expired baseTo hmax hstart
            (show start.toNat + (elapsed + r.idle) < 2 ^ 32 by omega) hlate
          show (r.ignored || r.timedOut
            && !(helloClock t start baseTo).expired (Ticks.after start (elapsed + r.idle))
            && _) = false
          rw [hcalm r List.mem_cons_self, hexp]
          simp
        rw [hgo]
        simp
      · rw [if_neg hlate, ih _ _ (by omega) (fun r' hr' => hcalm r' (List.mem_cons_of_mem _ hr'))]
        simp

end ValProtocol
