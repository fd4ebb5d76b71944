/-
  ValProtocol.Data.Karn
  ─────────────────────
  RTT sampling in the data phase (`val_internal_record_rtt`, `src/val_core.c`
  lines 480-513, and `src/val_sender.c` lines 457-507 and 818-907).

  Karn's rule forbids to sample an acknowledgement of data that was sent
  more than once.  `in_retransmit` is meant to enforce it, but the flag is
  cleared behind every fill, so it is never set in a wait, and the sample is
  taken before the test for a stale ACK.

    • `unflagged_wait` — the flag is clear whenever an ACK is taken,
    • `karn_rule`      — along every run whose timed DATA_ACKs advance and
      come in a window that nothing went back into, the rule holds,
    • `karn_violated`  — a run in which it does not.
-/
import ValProtocol.Lib.Flights
import ValProtocol.Data.Patience

namespace ValProtocol

/-! ## §1. The estimator. -/

/-- `s->timing`, as far as sampling changes it. -/
structure Timing where
  srtt : Nat
  rttvar : Nat
  samplesTaken : Nat
  deriving Repr, DecidableEq

/-- `val_internal_record_rtt`. -/
def recordRtt (t : Timing) (inRetransmit : Bool) (measured : Nat) : Timing :=
  if inRetransmit then t
  else
    let rtt := if measured = 0 then 1 else measured
    if t.samplesTaken = 0 then ⟨rtt, rtt / 2, 1⟩
    else
      let diff := if t.srtt > rtt then t.srtt - rtt else rtt - t.srtt
      { srtt := (7 * t.srtt + rtt) / 8 % 2 ^ 32
        rttvar := (3 * t.rttvar + diff) / 4 % 2 ^ 32
        samplesTaken := if t.samplesTaken < 255 then t.samplesTaken + 1 else t.samplesTaken }

/-! ## §2. The data phase with its clock. -/

/-- An input, the tick at which it is taken, and the tick behind the fill it
leads to. -/
structure TimedInput where
  input : WaitInput
  now : UInt32
  filled : UInt32
  deriving Repr, DecidableEq

structure Timed where
  phase : DataResult
  timing : Timing
  /-- the tick behind the last fill -/
  t0 : UInt32
  windowStart : Nat
  /-- every DATA packet handed over so far -/
  sent : List Send
  /-- the highest `next_to_send` that a NAK or a timeout went back from -/
  wentBack : Nat

/-- The offset of a DATA_ACK. -/
def ackOffset (io : SendFile) : WaitInput → Option Nat
  | .timeout => none
  | .frame f =>
      match recvControl io.mtu 32 f with
      | .error _ => none
      | .ok p => if p.type = .dataAck then some p.off else none

/-- A DATA_ACK is timed from the last fill, unless that was at tick 0. -/
def Timed.sample (s : Timed) (d : SendData) (now : UInt32) : Timing :=
  if s.t0 ≠ 0 ∧ d.flow.inRetransmit = false then
    recordRtt s.timing d.flow.inRetransmit (now - s.t0).toNat
  else s.timing

def Timed.step (cfg : Config) (io : SendFile) (s : Timed) (l : TimedInput) : Option Timed :=
  match s.phase with
  | .wait d =>
      let acked := ackOffset io l.input
      let timing := if acked.isSome then s.sample d l.now else s.timing
      let move := l.input.move cfg io d
      let r := move.run io
      match move with
      | .fill d' =>
          some {
            phase := r.2, timing := timing, t0 := l.filled
            -- a DATA_ACK starts a window, a NAK and a timeout restart it
            windowStart := if acked.isSome then d'.lastAcked else s.windowStart
            sent := s.sent ++ r.1
            wentBack := if d'.nextToSend < d.nextToSend then max s.wentBack d.nextToSend
              else s.wentBack }
      | _ => some { s with phase := r.2, timing := timing, sent := s.sent ++ r.1 }
  | _ => none

/-- The data phase up to its first wait. -/
def Timed.start (cfg : Config) (io : SendFile) (flow : Flow) (timing : Timing)
    (filled : UInt32) : Timed where
  phase := (startData cfg io flow).2
  timing := timing
  t0 := filled
  windowStart := io.resumeOff
  sent := (startData cfg io flow).1
  wentBack := 0

/-! ## §3. The rule. -/

/-- The first position behind a packet. -/
def Send.stop (p : Send) : Nat := p.offset + p.payload.length

/-- How often a position of the file was sent. -/
def sentTimes (ps : List Send) (x : Nat) : Nat := Flights.hits Send.offset Send.stop x ps

/-- **Karn's rule** for a DATA_ACK at `off`: it advances, nothing from the
start of the window on was sent twice, and neither was anything the ACK
newly covers. -/
structure KarnRule (s : Timed) (d : SendData) (off : Nat) : Prop where
  advances : d.lastAcked < off
  packets : ∀ x, s.windowStart ≤ x → s.sent.countP (fun p => decide (p.offset = x)) ≤ 1
  bytes : ∀ x, s.windowStart ≤ x → sentTimes s.sent x ≤ 1
  answered : ∀ x, d.lastAcked ≤ x → x < off → sentTimes s.sent x ≤ 1

/-- An input that changes the estimate is a DATA_ACK within the rule. -/
def Timed.Obeys (cfg : Config) (io : SendFile) (s : Timed) (l : TimedInput) : Prop :=
  ∀ d s', s.phase = .wait d → s.step cfg io l = some s' →
    s'.timing.srtt ≠ s.timing.srtt ∨ s'.timing.rttvar ≠ s.timing.rttvar →
    ∃ off, ackOffset io l.input = some off ∧ KarnRule s d off

/-- A DATA_ACK that is timed advances, and no NAK or timeout went back from
beyond the start of its window. -/
def Timed.clean (io : SendFile) (s : Timed) (l : TimedInput) : Bool :=
  match s.phase with
  | .wait d =>
      match ackOffset io l.input with
      | some off => decide (s.t0 = 0 ∨ d.lastAcked < off ∧ s.wentBack ≤ s.windowStart)
      | none => true
  | _ => true

/-! ## §4. What a run has sent. -/

/-- The fill loop sends a chain from `next_to_send` on. -/
theorem fillLoop_chain (io : SendFile) (fuel : Nat) (d : SendData) :
    Flights.Chain Send.offset Send.stop d.nextToSend (fillLoop io fuel d).2.1
      (fillLoop io fuel d).1.nextToSend
      ∧ ∀ p ∈ (fillLoop io fuel d).2.1, p.offset < p.stop := by
  induction fuel generalizing d with
  | zero => exact ⟨.nil _, fun p hp => absurd hp List.not_mem_nil⟩
  | succ fuel ih =>
      rw [fillLoop_succ]
      split
      · cases hp : sendDataPacket io d (d.nextToSend == d.lastAcked) with
        | error st => exact ⟨.nil _, fun p hp => absurd hp List.not_mem_nil⟩
        | ok r =>
            obtain ⟨d', sent⟩ := r
            dsimp only
            rcases sendDataPacket_cases hp with ⟨rfl, rfl⟩ | ⟨n, hpos, -, -, hlen, rfl, rfl⟩
            · exact ih d'
            · obtain ⟨hchain, hne⟩ := ih (d.sent n)
              set p : Send := ⟨.data, (io.content.drop d.readPos).take n, d.nextToSend,
                d.nextToSend == d.lastAcked⟩ with hpdef
              -- each packet begins where the one before it stops
              have hstop : p.stop = (d.sent n).nextToSend := by
                show d.nextToSend + ((io.content.drop d.readPos).take n).length
                  = d.nextToSend + n
                rw [hlen]
              have hlt : p.offset < p.stop := by
                rw [hstop]
                show d.nextToSend < d.nextToSend + n
                omega
              rw [← hstop] at hchain
              refine ⟨.cons hlt hchain, ?_⟩
              intro q hq
              rcases List.mem_cons.mp hq with rfl | hq
              · exact hlt
              · exact hne q hq
      · exact ⟨.nil _, fun p hp => absurd hp List.not_mem_nil⟩

/-- While the sender waits. -/
structure Timed.WaitSound (s : Timed) (d : SendData) : Prop where
  fresh : Flights.Fresh Send.offset Send.stop s.wentBack d.nextToSend s.sent
  nonempty : ∀ p ∈ s.sent, p.offset < p.stop
  window_le : s.windowStart ≤ d.lastAcked
  unflagged : d.flow.inRetransmit = false

def Timed.Sound (s : Timed) : Prop := ∀ d, s.phase = .wait d → s.WaitSound d

/-- What a move decided in `d` goes on with. -/
inductive MoveFrom (d : SendData) : Move → Prop where
  | stay {d' : SendData} : d'.nextToSend = d.nextToSend → d.lastAcked ≤ d'.lastAcked →
      (d.flow.inRetransmit = false → d'.flow.inRetransmit = false) → MoveFrom d (.stay d')
  | fill {d' : SendData} : d.lastAcked ≤ d'.lastAcked → MoveFrom d (.fill d')
  | finish (flow : Flow) : MoveFrom d (.finish flow)
  | stop (st : Status) : MoveFrom d (.stop st)

section Input

variable {cfg : Config} {io : SendFile} {d : SendData}

theorem onDataAck_from (off : Nat) : MoveFrom d (onDataAck cfg io d off) := by
  unfold onDataAck
  split
  · exact .stay rfl (Nat.le_refl _) id
  · rename_i hlt
    have hle : d.lastAcked ≤ off := Nat.le_of_not_le hlt
    dsimp only
    split
    · exact .stay rfl hle (fun _ => rfl)
    · unfold dataLoop
      split
      · exact .fill hle
      · exact .finish _

theorem onDataNak_from (off : Nat) : MoveFrom d (onDataNak cfg io d off) := by
  refine .fill ?_
  show d.lastAcked ≤ if off > d.lastAcked ∧ off ≤ io.size then off else d.lastAcked
  split <;> omega

theorem WaitInput.move_from (cfg : Config) (io : SendFile) (d : SendData) (i : WaitInput) :
    MoveFrom d (i.move cfg io d) := by
  cases i with
  | timeout =>
      show MoveFrom d (onAckTimeout cfg d)
      unfold onAckTimeout
      split
      · exact .stop _
      · exact .fill (Nat.le_refl _)
  | frame f =>
      show MoveFrom d (onAckFrame cfg io d f)
      unfold onAckFrame
      split
      · exact .stop _
      · split
        · exact .stop _
        · exact onDataNak_from _
        · exact onDataAck_from _
        · exact .stop _
        · exact .stay rfl (Nat.le_refl _) id

end Input

section Run

variable {cfg : Config} {io : SendFile}

/-- A fill from `d'` behind what was sent before. -/
theorem fillAndWait_fresh {r : Nat} {sent : List Send} {d d' : SendData}
    (hfresh : Flights.Fresh Send.offset Send.stop r d'.nextToSend sent)
    (hne : ∀ p ∈ sent, p.offset < p.stop) (hd : (fillAndWait io d').2 = .wait d) :
    Flights.Fresh Send.offset Send.stop r d.nextToSend (sent ++ (fillAndWait io d').1)
      ∧ (∀ p ∈ sent ++ (fillAndWait io d').1, p.offset < p.stop)
      ∧ d.lastAcked = d'.lastAcked ∧ d.flow.inRetransmit = false := by
  obtain ⟨hchain, hsends⟩ := fillLoop_chain io d'.win d'
  have hacked := (fillLoop_filled io d'.win d').lastAcked_eq
  rcases fillAndWait_cases io d' with ⟨st, hst⟩ | hwait
  · rw [hst] at hd
    cases hd
  · rw [hwait] at hd
    cases hd
    rw [fillAndWait_sends]
    exact ⟨hfresh.chain hchain, List.forall_mem_append.mpr ⟨hne, hsends⟩, hacked, rfl⟩

theorem Timed.start_sound (flow : Flow) (timing : Timing) (filled : UInt32) :
    (Timed.start cfg io flow timing filled).Sound := by
  intro d hd
  have hd' : ((dataLoop cfg io (initData io flow)).run io).2 = .wait d := hd
  cases hm : dataLoop cfg io (initData io flow) with
  | fill d' =>
      rw [hm] at hd'
      have hacked : d'.lastAcked = io.resumeOff := by
        unfold dataLoop at hm
        split at hm <;> cases hm
        rfl
      obtain ⟨hfresh, hne, hlast, hflag⟩ := fillAndWait_fresh (r := 0)
        (Flights.Fresh.nil 0 d'.nextToSend) (fun p hp => absurd hp List.not_mem_nil) hd'
      have hsent : (Timed.start cfg io flow timing filled).sent
          = [] ++ (fillAndWait io d').1 := by
        show ((dataLoop cfg io (initData io flow)).run io).1 = _
        rw [hm]
        rfl
      rw [← hsent] at hfresh hne
      refine ⟨hfresh, hne, ?_, hflag⟩
      show io.resumeOff ≤ d.lastAcked
      omega
  | stay d' =>
      unfold dataLoop at hm
      split at hm <;> cases hm
  | finish flow =>
      rw [hm] at hd'
      cases hd'
  | stop st =>
      rw [hm] at hd'
      cases hd'

/-- **One input.** -/
theorem Timed.Sound.step {s s' : Timed} (h : s.Sound) {l : TimedInput}
    (hs : s.step cfg io l = some s') : s'.Sound := by
  unfold Timed.step at hs
  split at hs
  · rename_i d hphase
    have hd := h d hphase
    have hwindow := hd.window_le
    have hfrom := l.input.move_from cfg io d
    intro d₁ hd₁
    dsimp only at hs
    split at hs
    · rename_i d' hmove
      rw [hmove] at hfrom hs
      cases hs
      cases hfrom with
      | fill hle =>
          have hwait : (fillAndWait io d').2 = .wait d₁ := hd₁
          obtain ⟨hfresh, hne, hlast, hflag⟩ := fillAndWait_fresh
            (hd.fresh.jump d'.nextToSend) hd.nonempty hwait
          refine ⟨hfresh, hne, ?_, hflag⟩
          show (if (ackOffset io l.input).isSome then d'.lastAcked else s.windowStart)
            ≤ d₁.lastAcked
          split <;> omega
    · rename_i hmove
      cases hs
      -- no window is filled: what was sent stays as it was
      cases hm : l.input.move cfg io d with
      | fill d' => exact absurd hm (hmove d')
      | stay d' =>
          rw [hm] at hfrom hd₁
          cases hd₁
          cases hfrom with
          | stay hnext hle hflag =>
              have hsent : s.sent ++ ((Move.stay d₁).run io).1 = s.sent := List.append_nil _
              refine ⟨?_, ?_, Nat.le_trans hwindow hle, hflag hd.unflagged⟩
              · show Flights.Fresh Send.offset Send.stop s.wentBack d₁.nextToSend
                  (s.sent ++ ((Move.stay d₁).run io).1)
                rw [hsent, hnext]
                exact hd.fresh
              · show ∀ p ∈ s.sent ++ ((Move.stay d₁).run io).1, p.offset < p.stop
                rw [hsent]
                exact hd.nonempty
      | finish flow =>
          rw [hm] at hd₁
          cases hd₁
      | stop st =>
          rw [hm] at hd₁
          cases hd₁
  · cases hs

/-- Runs of the data phase from its first wait on. -/
def Timed.Reached (cfg : Config) (io : SendFile) (flow : Flow) (timing : Timing)
    (filled : UInt32) (adm : Timed → TimedInput → Bool) (s : Timed) : Prop :=
  Lts.Reach (Timed.step cfg io) (fun s l => adm s l = true)
    (Timed.start cfg io flow timing filled) s

variable {flow : Flow} {timing : Timing} {filled : UInt32} {adm : Timed → TimedInput → Bool}

theorem Timed.Reached.sound {s : Timed} (h : Timed.Reached cfg io flow timing filled adm s) :
    s.Sound :=
  Lts.Reach.invariant (I := Timed.Sound) (Timed.start_sound flow timing filled)
    (fun _ _ _ hI _ hs => hI.step hs) h

/-- **The flag is never set in a wait**: whatever was sent again, an ACK is
taken with `in_retransmit` clear. -/
theorem unflagged_wait {s : Timed} (h : Timed.Reached cfg io flow timing filled adm s)
    {d : SendData} (hd : s.phase = .wait d) : d.flow.inRetransmit = false :=
  (h.sound d hd).unflagged

/-- An input that is no timed DATA_ACK leaves the estimate alone. -/
theorem Timed.step_timing {s s' : Timed} {d : SendData} {l : TimedInput}
    (hphase : s.phase = .wait d) (hs : s.step cfg io l = some s')
    (h : s'.timing ≠ s.timing) : ∃ off, ackOffset io l.input = some off ∧ s.t0 ≠ 0 := by
  have htiming : s'.timing
      = if (ackOffset io l.input).isSome then s.sample d l.now else s.timing := by
    unfold Timed.step at hs
    rw [hphase] at hs
    dsimp only at hs
    split at hs
    all_goals
      cases hs
      rfl
  cases hack : ackOffset io l.input with
  | none =>
      rw [hack, Option.isSome_none, if_neg Bool.false_ne_true] at htiming
      exact absurd htiming h
  | some off =>
      refine ⟨off, rfl, ?_⟩
      intro ht0
      rw [hack, Option.isSome_some, if_pos rfl] at htiming
      unfold Timed.sample at htiming
      rw [if_neg (fun hc => hc.1 ht0)] at htiming
      exact h htiming

/-- **Karn's rule.**  For every file, resume offset, window, MTU and estimator
state, and every run of the data phase (ACKs, NAKs, timeouts and clock
readings in any order) whose timed DATA_ACKs are clean: the estimate changes
only on a DATA_ACK that advances `last_acked`, in a window of which nothing
was sent twice, and that answers nothing that was. -/
theorem karn_rule {cfg : Config} {io : SendFile} {flow : Flow} {timing : Timing}
    {filled : UInt32} {s : Timed}
    (h : Timed.Reached cfg io flow timing filled (Timed.clean io) s) {l : TimedInput}
    (hl : s.clean io l = true) : s.Obeys cfg io l := by
  intro d s' hphase hs hchange
  have hd := h.sound d hphase
  have hne : s'.timing ≠ s.timing := by
    intro heq
    rw [heq] at hchange
    rcases hchange with hchange | hchange
    · exact hchange rfl
    · exact hchange rfl
  obtain ⟨off, hack, ht0⟩ := Timed.step_timing hphase hs hne
  unfold Timed.clean at hl
  rw [hphase] at hl
  dsimp only at hl
  rw [hack] at hl
  rcases of_decide_eq_true hl with hzero | ⟨hadv, hback⟩
  · exact absurd hzero ht0
  · -- behind the mark nothing was sent twice, and the window starts there
    have hbytes : ∀ x, s.windowStart ≤ x → sentTimes s.sent x ≤ 1 :=
      fun x hx => hd.fresh.once x (Nat.le_trans hback hx)
    refine ⟨off, hack, hadv, ?_, hbytes, ?_⟩
    · intro x hx
      exact Nat.le_trans (Flights.starts_le_hits hd.nonempty x) (hbytes x hx)
    · intro x hx _
      exact hbytes x (Nat.le_trans hd.window_le hx)

end Run

/-- No sample has been taken yet. -/
def untimed : Timing := ⟨0, 0, 0⟩

/-- A small file whose first packets left at tick 100. -/
def timedSmall : Timed := Timed.start quickDegrade smallFile twoPackets untimed 100

/-- The ACK of the second packet. -/
def secondAck : TimedInput := ⟨.frame (sendBare .dataAck 992).frame, 150, 160⟩

/-- Both packets of the first window acknowledged one by one. -/
theorem karn_rule_small :
    ∃ s, Timed.Reached quickDegrade smallFile twoPackets untimed 100 (Timed.clean smallFile) s
      ∧ s.clean smallFile secondAck = true ∧ s.Obeys quickDegrade smallFile secondAck := by
  obtain ⟨s, hs, hclean⟩ := Lts.Reach.exists_of_foldlM (Timed.step quickDegrade smallFile)
    (Timed.clean smallFile) timedSmall (fun s => s.clean smallFile secondAck)
    [⟨.frame (sendBare .dataAck 492).frame, 140, 0⟩] (a := true) (by decide +kernel)
  exact ⟨s, hs, hclean, karn_rule hs hclean⟩

/-- The state waits, the input changes the estimate in it, and its window's
first byte was sent twice. -/
def Timed.misled (s : Timed) (l : TimedInput) : Bool :=
  (s.step quickDegrade smallFile l).any (fun s' => s'.timing.srtt != s.timing.srtt)
    && s.windowStart == 0 && sentTimes s.sent 0 == 2

/-- **A sample of data sent twice**: the first window times out and is sent
again, and the ACK that arrives then, perhaps that of the first
transmission, is timed from the second. -/
theorem karn_violated :
    ¬ ∀ s l, Timed.Reached quickDegrade smallFile twoPackets untimed 100 (fun _ _ => true) s →
      s.Obeys quickDegrade smallFile l := by
  intro h
  obtain ⟨s, hs, hmisled⟩ := Lts.Reach.exists_of_foldlM (Timed.step quickDegrade smallFile)
    (fun _ _ => true) timedSmall (fun s => s.misled secondAck)
    [⟨.timeout, 0, 140⟩] (a := true) (by decide +kernel)
  unfold Timed.misled at hmisled
  rw [Bool.and_eq_true, Bool.and_eq_true, Option.any_eq_true] at hmisled
  obtain ⟨⟨⟨s', hstep, hchange⟩, hstart⟩, htwice⟩ := hmisled
  cases hphase : s.phase with
  | wait d =>
      obtain ⟨off, -, hrule⟩ := h s secondAck hs d s' hphase hstep (Or.inl (bne_iff_ne.mp hchange))
      have honce := hrule.bytes 0 (Nat.le_of_eq (eq_of_beq hstart))
      rw [eq_of_beq htwice] at honce
      omega
  | complete flow =>
      unfold Timed.step at hstep
      rw [hphase] at hstep
      cases hstep
  | fail st =>
      unfold Timed.step at hstep
      rw [hphase] at hstep
      cases hstep

end ValProtocol
