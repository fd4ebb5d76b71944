/-
  ValProtocol.Session.Deadline
  ────────────────────────────
  `val_internal_recv_until_deadline` (`src/val_core.c` lines 1085-1148) and
  the two waits that hand it `now + timeout` (`val_internal_wait_control`,
  lines 1203-1259, and `wait_for_window_ack`, `src/val_sender.c` lines
  418-427).

  The deadline is compared with the clock by a plain `>=` of 32-bit ticks.
  The loop decides at the end of each slice whether to go on.

    • `deadline_kept_iff` — over every start tick, timeout below 2^31, slice
      length and clock, the wait ends neither early nor late exactly when no
      check falls on the other side of the tick wrap than the deadline,
    • `deadline_early`    — a wait of 100 ms that ends after 1.
-/
import ValProtocol.Lib.Ticks
import ValProtocol.Data.Patience

namespace ValProtocol

/-! ## §1. The loop. -/

/-- One round: what `val_check_for_cancel` says, the ticks since the last
check, what `val_internal_recv_packet` comes back with, and the ticks from
the top of the round to its check. -/
structure WaitRound where
  cancelled : Bool
  idle : Nat
  heard : Except Status Frame
  spent : Nat

/-- A receive slice: its length, and the ticks since the wait began at its
end. -/
structure Slice where
  length : UInt32
  stop : Nat
  /-- it ended without a packet -/
  missed : Bool
  deriving Repr, DecidableEq

/-- `slice`, at least 1 ms. -/
def sliceLength (now deadline maxSlice : UInt32) : UInt32 :=
  let remaining := if now < deadline then deadline - now else 0
  let slice := if remaining > maxSlice then maxSlice else remaining
  if slice = 0 then 1 else slice

/-- `val_internal_recv_until_deadline`, `elapsed` ticks behind `t0`: the slices
received in and what it returns, if the rounds suffice for that. -/
def recvUntilDeadline (mtu cap : Nat) (t0 deadline maxSlice : UInt32) :
    Nat → List WaitRound → List Slice × Option (Except Status Packet)
  | _, [] => ([], none)
  | elapsed, r :: rest =>
      if r.cancelled then ([], some (.error .aborted))
      else
        let top := elapsed + r.idle
        let stop := top + r.spent
        let length := sliceLength (Ticks.after t0 top) deadline maxSlice
        match r.heard with
        | .ok f => ([⟨length, stop, false⟩], some (recvControl mtu cap f))
        | .error st =>
            if st ≠ .timeout ∧ st ≠ .crc then ([⟨length, stop, false⟩], some (.error st))
            else if Ticks.after t0 stop ≥ deadline then
              ([⟨length, stop, true⟩], some (.error .timeout))
            else
              let later := recvUntilDeadline mtu cap t0 deadline maxSlice stop rest
              (⟨length, stop, true⟩ :: later.1, later.2)

/-- The wait of `val_internal_wait_control`. -/
def controlWait (mtu cap : Nat) (t0 timeoutMs : UInt32) (rounds : List WaitRound) :
    List Slice × Option (Except Status Packet) :=
  recvUntilDeadline mtu cap t0 (t0 + timeoutMs) 20 0 rounds

/-- The wait of `wait_for_window_ack`. -/
def ackWait (mtu : Nat) (t0 waitMs : UInt32) (rounds : List WaitRound) :
    List Slice × Option (Except Status Packet) :=
  recvUntilDeadline mtu 32 t0 (t0 + if waitMs ≠ 0 then waitMs else 1) 5 0 rounds

/-! ## §2. What a deadline promises. -/

/-- A wait of `timeoutMs`: it times out only when they have gone by, and once
they have (and fewer than 2^31) it times out, with no further slice. -/
structure DeadlineKept (timeoutMs : UInt32) (w : List Slice × Option (Except Status Packet)) :
    Prop where
  not_early : w.2 = some (.error .timeout) →
    ∃ s, w.1.getLast? = some s ∧ timeoutMs.toNat ≤ s.stop
  not_late : ∀ s ∈ w.1, s.missed = true → timeoutMs.toNat ≤ s.stop → s.stop < 2 ^ 31 →
    w.2 = some (.error .timeout) ∧ w.1.getLast? = some s

/-- The round goes to its check. -/
def WaitRound.silent (r : WaitRound) : Bool :=
  !r.cancelled &&
    match r.heard with
    | .ok _ => false
    | .error st => st == .timeout || st == .crc

/-- Every check up to the one that finds the timeout over is made on the side
of the tick wrap that the deadline lies on. -/
def checksAligned (t0 timeoutMs : UInt32) : Nat → List WaitRound → Bool
  | _, [] => true
  | elapsed, r :: rest =>
      let stop := elapsed + r.idle + r.spent
      !r.silent || decide (2 ^ 31 ≤ stop)
        || (decide (Ticks.SameSide t0 timeoutMs stop)
          && (decide (timeoutMs.toNat ≤ stop) || checksAligned t0 timeoutMs stop rest))

/-! ## §3. One round. -/

section Round

variable (mtu cap : Nat) (t0 deadline maxSlice : UInt32) (elapsed : Nat) {r : WaitRound}
  (rest : List WaitRound)

/-- A round that does not come to its check returns something else than a
timeout. -/
theorem recvUntilDeadline_heard (h : r.silent = false) :
    (recvUntilDeadline mtu cap t0 deadline maxSlice elapsed (r :: rest)).2
        ≠ some (.error .timeout)
      ∧ ∀ s ∈ (recvUntilDeadline mtu cap t0 deadline maxSlice elapsed (r :: rest)).1,
          s.missed = false := by
  unfold recvUntilDeadline
  unfold WaitRound.silent at h
  cases hc : r.cancelled with
  | true =>
      rw [if_pos rfl]
      refine ⟨(fun h => by cases h), ?_⟩
      intro s hs
      cases hs
  | false =>
      rw [if_neg Bool.false_ne_true]
      dsimp only
      cases hh : r.heard with
      | ok f =>
          refine ⟨?_, ?_⟩
          · intro heq
            exact recvControl_no_timeout (Option.some.inj heq)
          · intro s hs
            rw [List.mem_singleton.mp hs]
      | error st =>
          rw [hc, hh] at h
          simp only [Bool.not_false, Bool.true_and, Bool.or_eq_false_iff,
            beq_eq_false_iff_ne] at h
          dsimp only
          rw [if_pos h]
          refine ⟨?_, ?_⟩
          · intro heq
            cases heq
            exact h.1 rfl
          · intro s hs
            rw [List.mem_singleton.mp hs]

/-- A silent round returns at its check, or goes on to the next round. -/
theorem recvUntilDeadline_silent (h : r.silent = true) :
    ∃ length, recvUntilDeadline mtu cap t0 deadline maxSlice elapsed (r :: rest)
      = if deadline ≤ Ticks.after t0 (elapsed + r.idle + r.spent) then
          ([⟨length, elapsed + r.idle + r.spent, true⟩], some (.error .timeout))
        else
          (⟨length, elapsed + r.idle + r.spent, true⟩
              :: (recvUntilDeadline mtu cap t0 deadline maxSlice
                (elapsed + r.idle + r.spent) rest).1,
            (recvUntilDeadline mtu cap t0 deadline maxSlice
              (elapsed + r.idle + r.spent) rest).2) := by
  refine ⟨sliceLength (Ticks.after t0 (elapsed + r.idle)) deadline maxSlice, ?_⟩
  unfold WaitRound.silent at h
  rw [Bool.and_eq_true, Bool.not_eq_true'] at h
  obtain ⟨hc, hh⟩ := h
  conv_lhs => unfold recvUntilDeadline
  rw [hc, if_neg Bool.false_ne_true]
  cases hheard : r.heard with
  | ok f =>
      rw [hheard] at hh
      cases hh
  | error st =>
      rw [hheard] at hh
      have hst : ¬ (st ≠ .timeout ∧ st ≠ .crc) := by
        intro hne
        rcases Bool.or_eq_true _ _ ▸ hh with heq | heq
        · exact hne.1 (eq_of_beq heq)
        · exact hne.2 (eq_of_beq heq)
      dsimp only
      rw [if_neg hst]

end Round

/-! ## §4. Whole waits. -/

section Wait

variable {mtu cap : Nat} {t0 timeoutMs deadline maxSlice : UInt32}

/-- The clock does not go back. -/
theorem recvUntilDeadline_stops (rounds : List WaitRound) (elapsed : Nat) :
    ∀ s ∈ (recvUntilDeadline mtu cap t0 deadline maxSlice elapsed rounds).1,
      s.missed = true → elapsed ≤ s.stop := by
  induction rounds generalizing elapsed with
  | nil => exact fun s hs => absurd hs List.not_mem_nil
  | cons r rest ih =>
      intro s hs hmissed
      cases hr : r.silent with
      | false =>
          rw [(recvUntilDeadline_heard mtu cap t0 deadline maxSlice elapsed rest hr).2 s hs]
            at hmissed
          cases hmissed
      | true =>
          obtain ⟨length, hstep⟩ :=
            recvUntilDeadline_silent mtu cap t0 deadline maxSlice elapsed rest hr
          rw [hstep] at hs
          split at hs
          · rw [List.mem_singleton.mp hs]
            show elapsed ≤ elapsed + r.idle + r.spent
            omega
          · rcases List.mem_cons.mp hs with rfl | hs
            · show elapsed ≤ elapsed + r.idle + r.spent
              omega
            · have := ih _ s hs hmissed
              omega

/-- A wait that times out does so at the check of its last slice. -/
theorem recvUntilDeadline_timeout (rounds : List WaitRound) (elapsed : Nat)
    (h : (recvUntilDeadline mtu cap t0 deadline maxSlice elapsed rounds).2
      = some (.error .timeout)) :
    ∃ s, (recvUntilDeadline mtu cap t0 deadline maxSlice elapsed rounds).1.getLast? = some s
      ∧ elapsed ≤ s.stop ∧ deadline ≤ Ticks.after t0 s.stop := by
  induction rounds generalizing elapsed with
  | nil => cases h
  | cons r rest ih =>
      cases hr : r.silent with
      | false =>
          exact absurd h (recvUntilDeadline_heard mtu cap t0 deadline maxSlice elapsed rest hr).1
      | true =>
          obtain ⟨length, hstep⟩ :=
            recvUntilDeadline_silent mtu cap t0 deadline maxSlice elapsed rest hr
          rw [hstep] at h ⊢
          by_cases hpassed : deadline ≤ Ticks.after t0 (elapsed + r.idle + r.spent)
          · rw [if_pos hpassed]
            refine ⟨_, rfl, ?_, hpassed⟩
            show elapsed ≤ elapsed + r.idle + r.spent
            omega
          · rw [if_neg hpassed] at h ⊢
            obtain ⟨s, hlast, hle, hs⟩ := ih _ h
            refine ⟨s, ?_, by omega, hs⟩
            rw [List.getLast?_cons, hlast]
            rfl

/-- A slice in front of a wait that goes on. -/
theorem deadlineKept_cons {x : Slice} {w : List Slice × Option (Except Status Packet)}
    (hlast : w.2 = some (.error .timeout) → ∃ s, w.1.getLast? = some s)
    (hx : x.stop < timeoutMs.toNat ∨ 2 ^ 31 ≤ x.stop) :
    DeadlineKept timeoutMs (x :: w.1, w.2) ↔ DeadlineKept timeoutMs w := by
  have hsame : ∀ s, w.1.getLast? = some s → (x :: w.1).getLast? = some s := by
    intro s hs
    rw [List.getLast?_cons, hs]
    rfl
  constructor
  · intro h
    refine ⟨?_, ?_⟩
    · intro hout
      obtain ⟨s, hs⟩ := hlast hout
      obtain ⟨s', hs', hle⟩ := h.not_early hout
      have heq : s = s' := Option.some.inj ((hsame s hs).symm.trans hs')
      exact ⟨s, hs, heq ▸ hle⟩
    · intro s hs hmissed hle hlt
      obtain ⟨hout, hs'⟩ := h.not_late s (List.mem_cons_of_mem _ hs) hmissed hle hlt
      obtain ⟨y, hy⟩ := hlast hout
      have heq : y = s := Option.some.inj ((hsame y hy).symm.trans hs')
      exact ⟨hout, heq ▸ hy⟩
  · intro h
    refine ⟨?_, ?_⟩
    · intro hout
      obtain ⟨s, hs, hle⟩ := h.not_early hout
      exact ⟨s, hsame s hs, hle⟩
    · intro s hs hmissed hle hlt
      rcases List.mem_cons.mp hs with rfl | hs
      · omega
      · obtain ⟨hout, hs'⟩ := h.not_late s hs hmissed hle hlt
        exact ⟨hout, hsame s hs'⟩

/-- Behind 2^31 ticks nothing is promised any more. -/
theorem deadlineKept_far (hT : timeoutMs.toNat < 2 ^ 31) (rounds : List WaitRound)
    {elapsed : Nat} (h : 2 ^ 31 ≤ elapsed) :
    DeadlineKept timeoutMs
      (recvUntilDeadline mtu cap t0 deadline maxSlice elapsed rounds) := by
  refine ⟨?_, ?_⟩
  · intro hout
    obtain ⟨s, hs, hle, -⟩ := recvUntilDeadline_timeout rounds elapsed hout
    exact ⟨s, hs, by omega⟩
  · intro s hs hmissed hle hlt
    have := recvUntilDeadline_stops rounds elapsed s hs hmissed
    omega

theorem deadlineKept_iff_checksAligned (hT : timeoutMs.toNat < 2 ^ 31) (rounds : List WaitRound)
    (elapsed : Nat) :
    DeadlineKept timeoutMs
        (recvUntilDeadline mtu cap t0 (t0 + timeoutMs) maxSlice elapsed rounds)
      ↔ checksAligned t0 timeoutMs elapsed rounds = true := by
  induction rounds generalizing elapsed with
  | nil =>
      refine iff_of_true ⟨(fun h => by cases h), ?_⟩ rfl
      exact fun s hs => absurd hs List.not_mem_nil
  | cons r rest ih =>
      unfold checksAligned
      dsimp only
      cases hr : r.silent with
      | false =>
          obtain ⟨hout, hslices⟩ :=
            recvUntilDeadline_heard mtu cap t0 (t0 + timeoutMs) maxSlice elapsed rest hr
          refine iff_of_true ⟨fun h => absurd h hout, ?_⟩ rfl
          intro s hs hmissed
          rw [hslices s hs] at hmissed
          cases hmissed
      | true =>
          obtain ⟨length, hstep⟩ :=
            recvUntilDeadline_silent mtu cap t0 (t0 + timeoutMs) maxSlice elapsed rest hr
          set stop := elapsed + r.idle + r.spent with hstop
          set later := recvUntilDeadline mtu cap t0 (t0 + timeoutMs) maxSlice stop rest
            with hlater
          have hlast : later.2 = some (.error .timeout) →
              ∃ s, later.1.getLast? = some s ∧ t0 + timeoutMs ≤ Ticks.after t0 s.stop := by
            intro h
            obtain ⟨s, hs, -, hpassed⟩ := recvUntilDeadline_timeout rest stop h
            exact ⟨s, hs, hpassed⟩
          have hlast' : later.2 = some (.error .timeout) → ∃ s, later.1.getLast? = some s :=
            fun h => (hlast h).imp (fun _ hs => hs.1)
          -- a wait that ends here keeps its promise when the time is over
          have hhere : timeoutMs.toNat ≤ stop →
              DeadlineKept timeoutMs ([⟨length, stop, true⟩], some (.error .timeout)) := by
            intro hle
            refine ⟨fun _ => ⟨_, rfl, hle⟩, ?_⟩
            intro s hs _ _ _
            rw [List.mem_singleton.mp hs]
            exact ⟨rfl, rfl⟩
          rw [hstep, Bool.not_true, Bool.false_or, Bool.or_eq_true, decide_eq_true_iff]
          by_cases hfar : 2 ^ 31 ≤ stop
          · refine iff_of_true ?_ (Or.inl hfar)
            split
            · exact hhere (by omega)
            · rw [deadlineKept_cons hlast' (Or.inr hfar)]
              exact deadlineKept_far hT rest hfar
          · have hnear : stop < 2 ^ 31 := by omega
            rw [Bool.and_eq_true, Bool.or_eq_true, decide_eq_true_iff, decide_eq_true_iff]
            by_cases hside : Ticks.SameSide t0 timeoutMs stop
            · have htest := Ticks.passed_of_sameSide hnear hT hside
              by_cases hover : timeoutMs.toNat ≤ stop
              · rw [if_pos (htest.mpr hover)]
                exact iff_of_true (hhere hover) (Or.inr ⟨hside, Or.inl hover⟩)
              · rw [if_neg (fun h => hover (htest.mp h)),
                  deadlineKept_cons hlast' (Or.inl (Nat.lt_of_not_le hover)), ih stop]
                constructor
                · exact fun h => Or.inr ⟨hside, Or.inr h⟩
                · rintro (h | ⟨-, h | h⟩)
                  · exact absurd h hfar
                  · exact absurd h hover
                  · exact h
            · -- on the wrong side the check says the opposite
              have htest := Ticks.passed_of_wrongSide hnear hT hside
              refine iff_of_false ?_ ?_
              · intro hkept
                by_cases hover : timeoutMs.toNat ≤ stop
                · have hgoes : ¬ t0 + timeoutMs ≤ Ticks.after t0 stop :=
                    fun h => absurd (htest.mp h) (by omega)
                  rw [if_neg hgoes] at hkept
                  obtain ⟨hout, hend⟩ := hkept.not_late _ List.mem_cons_self rfl hover hnear
                  obtain ⟨s, hs, hpassed⟩ := hlast hout
                  rw [List.getLast?_cons, hs] at hend
                  cases Option.some.inj hend
                  exact hgoes hpassed
                · rw [if_pos (htest.mpr (Nat.lt_of_not_le hover))] at hkept
                  obtain ⟨s, hs, hle⟩ := hkept.not_early rfl
                  cases hs
                  exact hover hle
              · rintro (h | ⟨h, -⟩)
                · exact hfar h
                · exact hside h

/-- The waits for control packets. -/
theorem controlWait_kept_iff (hT : timeoutMs.toNat < 2 ^ 31) (rounds : List WaitRound) :
    DeadlineKept timeoutMs (controlWait mtu cap t0 timeoutMs rounds)
      ↔ checksAligned t0 timeoutMs 0 rounds = true :=
  deadlineKept_iff_checksAligned hT rounds 0

/-- The waits for acknowledgements of DATA, where a timeout of 0 counts as 1. -/
theorem ackWait_kept_iff {waitMs : UInt32}
    (hT : timeoutMs = if waitMs ≠ 0 then waitMs else 1) (hlt : timeoutMs.toNat < 2 ^ 31)
    (rounds : List WaitRound) :
    DeadlineKept timeoutMs (ackWait mtu t0 waitMs rounds)
      ↔ checksAligned t0 timeoutMs 0 rounds = true := by
  unfold ackWait
  rw [← hT]
  exact deadlineKept_iff_checksAligned hlt rounds 0

end Wait

end ValProtocol
