/-
  ValProtocol.Session.ControlWait
  ───────────────────────────────
  `val_internal_wait_control` (`src/val_core.c` lines 1182-1259), the engine of
  every control exchange, with `val_internal_backoff_step`
  (`src/val_internal.h` lines 325-339), and the two waits that time an
  exchange, `val_internal_wait_done_ack` and `val_internal_wait_eot_ack`
  (lines 1261-1298).

  A round is `val_check_for_cancel` and one `val_internal_recv_until_deadline`,
  which absorbs the slices it loses to timeouts and CRC errors and reports a
  timeout once its deadline has passed.

    • `controlWait_outcome` — what a round can bring,
    • `WaitContract`        — how a sequence of rounds is answered,
    • `control_wait`        — the engine keeps the contract, and the two waits
      sample an exchange exactly when nothing was sent again.
-/
import ValProtocol.Data.Karn
import ValProtocol.Session.Deadline

namespace ValProtocol

/-! ## §1. The engine. -/

/-- The locals of the wait, and `timing.in_retransmit`.  `resends` counts the
calls of `on_timeout`, `delays` are the sleeps. -/
structure WaitState where
  retries : Nat
  backoffMs : Nat
  inRetransmit : Bool
  resends : Nat
  delays : List Nat
  deriving Repr, DecidableEq

/-- `val_internal_backoff_step`. -/
def WaitState.backoffStep (w : WaitState) : WaitState :=
  if w.retries = 0 then w
  else
    let next := if w.backoffMs = 0 then 0 else w.backoffMs * 2 % 2 ^ 32
    { w with
      delays := if w.backoffMs ≠ 0 then w.delays ++ [w.backoffMs] else w.delays
      backoffMs := if next > 4000 then 4000 else next
      retries := w.retries - 1 }

/-- At the head of the loop. -/
def WaitState.start (retries backoffMs : Nat) : WaitState := ⟨retries, backoffMs, false, 0, []⟩

/-- `val_internal_wait_control`: `none` for a local cancel, otherwise what the
receive returns; `onTimeout k` is the status of the call number `k`.  There is
no result while the rounds do not end the wait. -/
def waitControl (accept : Packet → Int) (onTimeout : Option (Nat → Status)) :
    WaitState → List (Option (Except Status Packet)) →
      Option (Except Status Packet) × WaitState
  | w, [] => (none, w)
  | w, none :: _ => (some (.error .aborted), w)
  | w, some (.ok p) :: rest =>
      if p.type = .cancel then (some (.error .aborted), w)
      else if p.type = .error then (some (.error .protocol), w)
      else if accept p > 0 then (some (.ok p), w)
      else if accept p < 0 then (some (.error .protocol), w)
      else waitControl accept onTimeout w rest
  | w, some (.error st) :: rest =>
      if (st ≠ .timeout ∧ st ≠ .crc) ∨ w.retries = 0 then (some (.error st), w)
      else
        let w := { w with inRetransmit := true }
        match onTimeout with
        | none => waitControl accept onTimeout w.backoffStep rest
        | some resend =>
            let w := { w with resends := w.resends + 1 }
            if resend w.resends ≠ .ok then (some (.error (resend w.resends)), w)
            else waitControl accept onTimeout w.backoffStep rest

/-- `accept_done_ack_cb`. -/
def acceptDoneAck (p : Packet) : Int := if p.type = .doneAck then 1 else 0

/-- `accept_eot_ack_cb`. -/
def acceptEotAck (p : Packet) : Int :=
  if p.type = .doneAck then 0 else if p.type = .eotAck then 1 else 0

/-- What a timed wait returns and leaves behind. -/
structure TimedWait where
  result : Option (Except Status Packet)
  state : WaitState
  timing : Timing

/-- Behind `val_internal_wait_control`: the exchange is sampled from `t0` to
`now`, where both clocks have ticked. -/
def timedWait (accept : Packet → Int) (retries backoffMs : Nat) (resend : Nat → Status)
    (t0 now : UInt32) (timing : Timing) (rounds : List (Option (Except Status Packet))) :
    TimedWait :=
  let r := waitControl accept (some resend) (.start retries backoffMs) rounds
  let timing := match r.1 with
    | some (.ok _) =>
        if t0 ≠ 0 ∧ r.2.inRetransmit = false ∧ now ≠ 0
          then recordRtt timing r.2.inRetransmit (now - t0).toNat else timing
    | _ => timing
  ⟨r.1, r.2, timing⟩

/-- `val_internal_wait_done_ack`; `resend` is `retry_send_done_cb`. -/
def waitDoneAck (cfg : Config) : Nat → (Nat → Status) → UInt32 → UInt32 → Timing →
    List (Option (Except Status Packet)) → TimedWait :=
  timedWait acceptDoneAck cfg.retries.ackRetries

/-- `val_internal_wait_eot_ack`; `resend` is `retry_send_eot_cb`. -/
def waitEotAck (cfg : Config) : Nat → (Nat → Status) → UInt32 → UInt32 → Timing →
    List (Option (Except Status Packet)) → TimedWait :=
  timedWait acceptEotAck cfg.retries.ackRetries

/-! ## §2. What a round brings. -/

/-- An error that is no reason to send again. -/
abbrev FinalError := { st : Status // st ≠ .timeout ∧ st ≠ .crc }

inductive Outcome where
  | cancelled
  | packet (p : Packet)
  | timeout
  | failed (st : FinalError)
  deriving DecidableEq

def Outcome.result : Outcome → Option (Except Status Packet)
  | .cancelled => none
  | .packet p => some (.ok p)
  | .timeout => some (.error .timeout)
  | .failed st => some (.error st)

/-- A control frame that is read whole is no CRC error. -/
theorem recvControl_ne_crc (mtu cap : Nat) (f : Frame) : recvControl mtu cap f ≠ .error .crc := by
  intro h
  rcases recvControl_refuses h with hst | hst
  all_goals cases hst

/-- **What `val_internal_recv_until_deadline` returns** is an outcome: it never
reports a CRC error. -/
theorem controlWait_outcome (mtu cap : Nat) (t0 timeoutMs : UInt32) (rounds : List WaitRound)
    {r : Except Status Packet} (h : (controlWait mtu cap t0 timeoutMs rounds).2 = some r) :
    ∃ o : Outcome, o.result = some r := by
  -- only a CRC error has no outcome of its own
  suffices H : r ≠ .error .crc by
    cases r with
    | ok p => exact ⟨.packet p, rfl⟩
    | error st =>
        by_cases htimeout : st = .timeout
        · exact ⟨.timeout, by rw [htimeout]; rfl⟩
        · have hcrc : st ≠ .crc := fun hst => H (by rw [hst])
          exact ⟨.failed ⟨st, htimeout, hcrc⟩, rfl⟩
  unfold controlWait at h
  generalize t0 + timeoutMs = deadline at h
  generalize (0 : Nat) = elapsed at h
  -- every round returns, or leaves the same deadline to the rest
  induction rounds generalizing elapsed with
  | nil => cases h
  | cons w rest ih =>
      unfold recvUntilDeadline at h
      split at h
      · cases h
        exact fun h => by cases h
      · dsimp only at h
        split at h
        · cases h
          exact recvControl_ne_crc _ _ _
        · split at h
          · rename_i hst
            cases h
            exact fun h => by cases h; exact hst.2 rfl
          · split at h
            · cases h
              exact fun h => by cases h
            · exact ih _ h

/-! ## §3. The contract. -/

/-- How an outcome ends a wait, whatever came before: nothing for a timeout and
for a packet that is ignored. -/
def Outcome.ends (accept : Packet → Int) : Outcome → Option (Except Status Packet)
  | .cancelled => some (.error .aborted)
  | .timeout => none
  | .failed st => some (.error st)
  | .packet p =>
      if p.type = .cancel then some (.error .aborted)
      else if p.type = .error then some (.error .protocol)
      else if 0 < accept p then some (.ok p)
      else if accept p < 0 then some (.error .protocol)
      else none

def timeouts (os : List Outcome) : Nat := os.countP (· == .timeout)

/-- Nothing of this ends the wait. -/
def Quiet (accept : Packet → Int) (os : List Outcome) : Prop := ∀ o ∈ os, o.ends accept = none

/-- Behind `n` tolerated timeouts: one resend for each, one retry less for
each, and the flag is up if there was one. -/
structure WaitState.Tolerated (retries n : Nat) (w : WaitState) : Prop where
  retries_eq : w.retries = retries - n
  resends_eq : w.resends = n
  flag_iff : w.inRetransmit = true ↔ 0 < n

/-- **The contract of a control wait** over the outcomes `os`. -/
structure WaitContract (accept : Packet → Int) (retries : Nat) (os : List Outcome)
    (r : Option (Except Status Packet) × WaitState) : Prop where
  /-- the first outcome that ends a wait decides, behind enough retries -/
  decided : ∀ pre o post res, os = pre ++ o :: post → Quiet accept pre →
    timeouts pre ≤ retries → o.ends accept = some res →
    r.1 = some res ∧ r.2.Tolerated retries (timeouts pre)
  /-- or the timeout behind the last retry -/
  exhausted : ∀ pre post, os = pre ++ .timeout :: post → Quiet accept pre →
    timeouts pre = retries → r.1 = some (.error .timeout) ∧ r.2.Tolerated retries retries
  /-- otherwise the wait goes on -/
  waiting : Quiet accept os → timeouts os ≤ retries →
    r.1 = none ∧ r.2.Tolerated retries (timeouts os)

section Contract

variable {accept : Packet → Int} {resend : Nat → Status} {retries n : Nat} {w : WaitState}

theorem timeouts_cons (o : Outcome) (os : List Outcome) :
    timeouts (o :: os) = timeouts os + if o = .timeout then 1 else 0 := by
  unfold timeouts
  rw [List.countP_cons]
  simp

theorem WaitState.Tolerated.start (retries backoffMs : Nat) :
    (WaitState.start retries backoffMs).Tolerated retries 0 :=
  ⟨rfl, rfl, by simp [WaitState.start]⟩

/-- What a round with an ending outcome returns. -/
theorem waitControl_ends {o : Outcome} {res : Except Status Packet}
    (h : o.ends accept = some res) (w : WaitState) (rest : List (Option (Except Status Packet))) :
    waitControl accept (some resend) w (o.result :: rest) = (some res, w) := by
  cases o with
  | cancelled =>
      cases h
      rfl
  | timeout => cases h
  | failed st =>
      cases h
      show waitControl accept (some resend) w (some (.error st) :: rest) = _
      unfold waitControl
      rw [if_pos (Or.inl st.2)]
  | packet p =>
      show waitControl accept (some resend) w (some (.ok p) :: rest) = _
      rw [waitControl]
      simp only [Outcome.ends] at h
      split_ifs at h with h1 h2 h3 h4
      · cases h
        rw [if_pos h1]
      · cases h
        rw [if_neg h1, if_pos h2]
      · cases h
        rw [if_neg h1, if_neg h2, if_pos h3]
      · cases h
        rw [if_neg h1, if_neg h2, if_neg h3, if_pos h4]

/-- An ignored packet costs nothing. -/
theorem waitControl_ignored {o : Outcome} (h : o.ends accept = none) (ho : o ≠ .timeout)
    (w : WaitState) (rest : List (Option (Except Status Packet))) :
    waitControl accept (some resend) w (o.result :: rest)
      = waitControl accept (some resend) w rest := by
  cases o with
  | cancelled => cases h
  | timeout => exact absurd rfl ho
  | failed st => cases h
  | packet p =>
      have hnot : p.type ≠ .cancel ∧ p.type ≠ .error ∧ ¬ 0 < accept p ∧ ¬ accept p < 0 := by
        simp only [Outcome.ends] at h
        split_ifs at h with h1 h2 h3 h4
        exact ⟨h1, h2, h3, h4⟩
      obtain ⟨h1, h2, h3, h4⟩ := hnot
      show waitControl accept (some resend) w (some (.ok p) :: rest) = _
      rw [waitControl, if_neg h1, if_neg h2, if_neg h3, if_neg h4]

/-- A timeout with retries left is tolerated. -/
theorem waitControl_tolerates (hok : ∀ k, resend k = .ok) (hw : w.Tolerated retries n)
    (hn : n < retries) (rest : List (Option (Except Status Packet))) :
    ∃ w' : WaitState, w'.Tolerated retries (n + 1)
      ∧ waitControl accept (some resend) w (Outcome.timeout.result :: rest)
        = waitControl accept (some resend) w' rest := by
  have hleft : w.retries ≠ 0 := by
    rw [hw.retries_eq]
    omega
  refine ⟨WaitState.backoffStep { w with inRetransmit := true, resends := w.resends + 1 }, ?_, ?_⟩
  · unfold WaitState.backoffStep
    rw [if_neg hleft]
    refine ⟨?_, ?_, ?_⟩
    · -- `backoff_step` takes the retry, and only because one is left
      show w.retries - 1 = retries - (n + 1)
      rw [hw.retries_eq]
      omega
    · show w.resends + 1 = n + 1
      rw [hw.resends_eq]
    · show true = true ↔ 0 < n + 1
      simp
  · show waitControl accept (some resend) w (some (.error .timeout) :: rest) = _
    rw [waitControl]
    simp only [ne_eq, not_true_eq_false, false_and, hleft, or_self, if_false, hok]

/-- The timeout behind the last retry. -/
theorem waitControl_exhausted (hw : w.Tolerated retries retries)
    (rest : List (Option (Except Status Packet))) :
    waitControl accept (some resend) w (Outcome.timeout.result :: rest)
      = (some (.error .timeout), w) := by
  have hleft : w.retries = 0 := by
    rw [hw.retries_eq, Nat.sub_self]
  show waitControl accept (some resend) w (some (.error .timeout) :: rest) = _
  rw [waitControl, if_pos (Or.inr hleft)]

/-- **Quiet rounds** are passed over, and only their timeouts count. -/
theorem waitControl_quiet (hok : ∀ k, resend k = .ok) (pre : List Outcome)
    (hquiet : Quiet accept pre) (hw : w.Tolerated retries n) (hn : n + timeouts pre ≤ retries)
    (rest : List (Option (Except Status Packet))) :
    ∃ w' : WaitState, w'.Tolerated retries (n + timeouts pre)
      ∧ waitControl accept (some resend) w (pre.map Outcome.result ++ rest)
        = waitControl accept (some resend) w' rest := by
  -- on the quiet outcomes; `n` timeouts have been tolerated before them
  induction pre generalizing w n with
  | nil => exact ⟨w, hw, rfl⟩
  | cons o pre ih =>
      have hrest : Quiet accept pre := fun x hx => hquiet x (List.mem_cons_of_mem _ hx)
      have ho := hquiet o List.mem_cons_self
      rw [timeouts_cons] at hn ⊢
      rw [List.map_cons, List.cons_append]
      -- a timeout costs a retry, an ignored packet nothing
      by_cases htimeout : o = .timeout
      · subst htimeout
        rw [if_pos rfl] at hn ⊢
        obtain ⟨w₁, hw₁, hstep⟩ := waitControl_tolerates hok hw (by omega)
          (pre.map Outcome.result ++ rest)
        obtain ⟨w', hw', hrun⟩ := ih hrest hw₁ (by omega)
        refine ⟨w', ?_, hstep.trans hrun⟩
        rwa [show n + (timeouts pre + 1) = n + 1 + timeouts pre by omega]
      · rw [if_neg htimeout, Nat.add_zero] at hn ⊢
        rw [waitControl_ignored ho htimeout]
        exact ih hrest hw hn

/-- **The engine keeps the contract.** -/
theorem waitControl_contract (hok : ∀ k, resend k = .ok) (retries backoffMs : Nat)
    (os : List Outcome) :
    WaitContract accept retries os
      (waitControl accept (some resend) (.start retries backoffMs) (os.map Outcome.result)) := by
  have hstart := WaitState.Tolerated.start retries backoffMs
  constructor
  · -- past the quiet rounds the ending outcome is next
    rintro pre o post res rfl hquiet hle hends
    obtain ⟨w, hw, hrun⟩ := waitControl_quiet hok pre hquiet hstart (by omega)
      (o.result :: post.map Outcome.result)
    rw [List.map_append, List.map_cons, hrun, waitControl_ends hends]
    rw [Nat.zero_add] at hw
    exact ⟨rfl, hw⟩
  · rintro pre post rfl hquiet heq
    obtain ⟨w, hw, hrun⟩ := waitControl_quiet hok pre hquiet hstart (by omega)
      (Outcome.timeout.result :: post.map Outcome.result)
    rw [Nat.zero_add, heq] at hw
    rw [List.map_append, List.map_cons, hrun, waitControl_exhausted hw]
    exact ⟨rfl, hw⟩
  · intro hquiet hle
    obtain ⟨w, hw, hrun⟩ := waitControl_quiet hok os hquiet hstart (by omega) []
    rw [List.append_nil] at hrun
    rw [Nat.zero_add] at hw
    rw [hrun]
    exact ⟨rfl, hw⟩

end Contract

/-! ## §4. Sampling. -/

/-- **An exchange is sampled** when it is answered and nothing was sent again,
with both clocks running, and only then. -/
structure Sampled (t0 now : UInt32) (timing : Timing) (r : TimedWait) : Prop where
  taken : ∀ p, r.result = some (.ok p) → r.state.resends = 0 → t0 ≠ 0 → now ≠ 0 →
    r.timing = recordRtt timing false (now - t0).toNat
  left : r.timing ≠ timing → (∃ p, r.result = some (.ok p)) ∧ r.state.resends = 0

/-- The flag is up exactly when something was sent again. -/
def WaitState.Flagged (w : WaitState) : Prop := w.inRetransmit = true ↔ 0 < w.resends

theorem waitControl_flagged (accept : Packet → Int) (resend : Nat → Status) {w : WaitState}
    (hw : w.Flagged) (rounds : List (Option (Except Status Packet))) :
    (waitControl accept (some resend) w rounds).2.Flagged := by
  induction rounds generalizing w with
  | nil => exact hw
  | cons round rest ih =>
      -- only a tolerated error touches the flag, and it sends again at once
      rcases round with - | st | p
      · exact hw
      · rw [waitControl]
        split
        · exact hw
        · have hresent : WaitState.Flagged
              { w with inRetransmit := true, resends := w.resends + 1 } := by
            show true = true ↔ 0 < w.resends + 1
            simp
          have hstep : ∀ w : WaitState, w.Flagged → w.backoffStep.Flagged := by
            intro w hw
            unfold WaitState.backoffStep
            split <;> exact hw
          dsimp only
          split
          · exact hresent
          · exact ih (hstep _ hresent)
      · rw [waitControl]
        split_ifs
        all_goals first
          | exact hw
          | exact ih hw

theorem timedWait_sampled (accept : Packet → Int) (retries backoffMs : Nat)
    (resend : Nat → Status) (t0 now : UInt32) (timing : Timing)
    (rounds : List (Option (Except Status Packet))) :
    Sampled t0 now timing (timedWait accept retries backoffMs resend t0 now timing rounds) := by
  have hstart : (WaitState.start retries backoffMs).Flagged := by
    show false = true ↔ 0 < 0
    simp
  have hflag := waitControl_flagged accept resend hstart rounds
  unfold timedWait
  generalize waitControl accept (some resend) (.start retries backoffMs) rounds = r at hflag ⊢
  obtain ⟨res, w⟩ := r
  have hflag' : w.inRetransmit = true ↔ 0 < w.resends := hflag
  constructor
  · rintro p hres hzero ht0 hnow
    have hdown : w.inRetransmit = false := by
      rw [Bool.eq_false_iff]
      intro hup
      exact absurd (hflag'.mp hup) (by rw [show w.resends = 0 from hzero]; omega)
    obtain rfl : res = some (.ok p) := hres
    dsimp only
    rw [if_pos ⟨ht0, hdown, hnow⟩, hdown]
  · intro hne
    rcases res with - | st | p
    · exact absurd rfl hne
    · exact absurd rfl hne
    · dsimp only at hne
      split at hne
      · rename_i htaken
        refine ⟨⟨p, rfl⟩, ?_⟩
        show w.resends = 0
        by_contra hpos
        have hup := hflag'.mpr (by omega)
        rw [htaken.2.1] at hup
        cases hup
      · exact absurd rfl hne

/-- **Control waits**: over every sequence of outcomes, and with every resend
going out, the engine keeps its contract, and the waits for DONE_ACK and
EOT_ACK sample an exchange only if no timeout was tolerated in it. -/
theorem control_wait (accept : Packet → Int) (resend : Nat → Status) (hok : ∀ k, resend k = .ok)
    (retries backoffMs : Nat) (os : List Outcome) :
    WaitContract accept retries os
        (waitControl accept (some resend) (.start retries backoffMs) (os.map Outcome.result))
      ∧ ∀ (cfg : Config) (t0 now : UInt32) (timing : Timing),
        Sampled t0 now timing
            (waitDoneAck cfg backoffMs resend t0 now timing (os.map Outcome.result))
          ∧ Sampled t0 now timing
            (waitEotAck cfg backoffMs resend t0 now timing (os.map Outcome.result)) :=
  ⟨waitControl_contract hok retries backoffMs os, fun _ _ _ _ =>
    ⟨timedWait_sampled _ _ _ _ _ _ _ _, timedWait_sampled _ _ _ _ _ _ _ _⟩⟩

/-- One retry, and a DONE_ACK behind a timeout and a stray DATA_ACK. -/
theorem control_wait_retried :
    let os : List Outcome := [.timeout, .packet ⟨.dataAck, [], 0, 5⟩, .packet ⟨.doneAck, [], 0, 9⟩]
    WaitContract acceptDoneAck 1 os
        (waitControl acceptDoneAck (some fun _ => .ok) (.start 1 100) (os.map Outcome.result))
      ∧ ∀ (cfg : Config) (t0 now : UInt32) (timing : Timing),
        Sampled t0 now timing
            (waitDoneAck cfg 100 (fun _ => .ok) t0 now timing (os.map Outcome.result))
          ∧ Sampled t0 now timing
            (waitEotAck cfg 100 (fun _ => .ok) t0 now timing (os.map Outcome.result)) :=
  control_wait acceptDoneAck (fun _ => .ok) (fun _ => rfl) 1 100
    [.timeout, .packet ⟨.dataAck, [], 0, 5⟩, .packet ⟨.doneAck, [], 0, 9⟩]

end ValProtocol
