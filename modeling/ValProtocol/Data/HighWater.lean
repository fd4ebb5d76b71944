/-
  ValProtocol.Data.HighWater
  ──────────────────────────
  The sender against its own acknowledgement mark: over every sequence of
  timeouts, DATA_ACKs and DATA_NAKs, does the fill loop always start with
  `last_acked ≤ next_to_send ≤ file_size`?

  `wait_for_window_ack` takes any DATA_ACK above `last_acked`.  After a
  rewind the window may be shorter than before, and a late ACK of the earlier
  transmission then lies beyond `next_to_send`: the next fill starts behind
  the mark and leaves the offset out.

    • `fills_good_iff_orderly` — the order holds at every fill of a run
      exactly when no DATA_ACK falls strictly between `next_to_send` and the
      end of the file,
    • `fills_overtaken`        — a run where one does.
-/
import ValProtocol.Data.Sender

namespace ValProtocol

/-! ## §1. Runs of the sender alone. -/

/-- What can happen in `wait_for_window_ack`. -/
inductive AckEvent where
  | timeout
  | ack (off : Nat)
  | nak (off : Nat)
  deriving Repr, DecidableEq

/-- The sender's answer to an event; acknowledgements arrive as frames. -/
def AckEvent.move (cfg : Config) (io : SendFile) (d : SendData) : AckEvent → Move
  | .timeout => onAckTimeout cfg d
  | .ack off => onAckFrame cfg io d (sendBare .dataAck off).frame
  | .nak off => onAckFrame cfg io d (sendNak off).frame

/-- The offset an event names. -/
def AckEvent.off : AckEvent → Nat
  | .timeout => 0
  | .ack off => off
  | .nak off => off

/-- The state in which a move starts the fill loop. -/
def Move.fillStart : Move → List SendData
  | .fill d => [d]
  | _ => []

/-- The states in which the fill loop starts along a run. -/
def fillStarts (cfg : Config) (io : SendFile) : List AckEvent → Move → List SendData
  | [], m => m.fillStart
  | e :: es, m =>
      m.fillStart ++
        match (m.run io).2 with
        | .wait d => fillStarts cfg io es (e.move cfg io d)
        | _ => []

/-- No offset exceeds the largest value `next_to_send` has had so far. -/
def echoed (cfg : Config) (io : SendFile) : List AckEvent → Nat → Move → Bool
  | [], _, _ => true
  | e :: es, high, m =>
      match (m.run io).2 with
      | .wait d =>
          decide (e.off ≤ max high d.nextToSend)
            && echoed cfg io es (max high d.nextToSend) (e.move cfg io d)
      | _ => true

/-- A DATA_ACK at or below `next_to_send`, or for the whole file. -/
def AckEvent.inOrder (io : SendFile) (d : SendData) : AckEvent → Bool
  | .ack off => decide (off ≤ d.nextToSend ∨ io.size ≤ off)
  | _ => true

/-- Every DATA_ACK of the run is in order when it is taken. -/
def orderly (cfg : Config) (io : SendFile) : List AckEvent → Move → Bool
  | [], _ => true
  | e :: es, m =>
      match (m.run io).2 with
      | .wait d => e.inOrder io d && orderly cfg io es (e.move cfg io d)
      | _ => true

/-- The fill loop starts as it should: not behind the mark, and its first
packet names the mark. -/
structure FillGood (io : SendFile) (d : SendData) : Prop where
  lastAcked_le : d.lastAcked ≤ d.nextToSend
  nextToSend_le : d.nextToSend ≤ io.size
  first_explicit : ∀ s, (fillLoop io d.win d).2.1.head? = some s →
    s.includeDataOffset = true ∧ s.offset = d.lastAcked

/-! ## §2. The order between two waits. -/

/-- The order while the sender waits. -/
structure WaitOrder (io : SendFile) (d : SendData) : Prop where
  lastAcked_le : d.lastAcked ≤ d.nextToSend
  nextToSend_le : d.nextToSend ≤ io.size
  target_eq : d.targetAck = d.nextToSend

/-- The order when a move has been decided. -/
inductive MoveOrder (io : SendFile) : Move → Prop where
  | stay {d : SendData} : WaitOrder io d → MoveOrder io (.stay d)
  | fill {d : SendData} : d.nextToSend = d.lastAcked → d.lastAcked ≤ io.size →
      MoveOrder io (.fill d)
  | finish (flow : Flow) : MoveOrder io (.finish flow)
  | stop (st : Status) : MoveOrder io (.stop st)

/-- A fill from the mark sends the mark first. -/
theorem fillLoop_head {io : SendFile} {fuel : Nat} {d : SendData} {s : Send}
    (hnext : d.nextToSend = d.lastAcked)
    (h : (fillLoop io fuel d).2.1.head? = some s) :
    s.includeDataOffset = true ∧ s.offset = d.lastAcked := by
  induction fuel with
  | zero => cases h
  | succ fuel ih =>
      rw [fillLoop_succ] at h
      split at h
      · cases hp : sendDataPacket io d (d.nextToSend == d.lastAcked) with
        | error st => simp [hp] at h
        | ok r =>
            obtain ⟨d', sent⟩ := r
            simp only [hp] at h
            rcases sendDataPacket_cases hp with
              ⟨rfl, rfl⟩ | ⟨n, _, _, _, _, rfl, rfl⟩
            · exact ih (by simpa using h)
            · simp only [Option.toList_some, List.singleton_append, List.head?_cons,
                Option.some.injEq] at h
              subst h
              exact ⟨by simp [hnext], hnext⟩
      · cases h

theorem fillGood_of_mark {io : SendFile} {d : SendData}
    (hnext : d.nextToSend = d.lastAcked) (hsize : d.lastAcked ≤ io.size) :
    FillGood io d :=
  ⟨by omega, by omega, fun _ h => fillLoop_head hnext h⟩

/-- Carrying a move out restores the order of a waiting sender. -/
theorem MoveOrder.run {io : SendFile} {m : Move} (h : MoveOrder io m) {d : SendData}
    (hd : (m.run io).2 = .wait d) : WaitOrder io d := by
  cases h with
  | stay h =>
      cases hd
      exact h
  | @fill d₀ hnext hsize =>
      have hf := fillLoop_filled io d₀.win d₀
      rcases fillAndWait_cases io d₀ with ⟨st, hst⟩ | hw
      · rw [Move.run, hst] at hd
        cases hd
      · rw [Move.run, hw] at hd
        cases hd
        refine ⟨?_, hf.nextToSend_size (by omega), rfl⟩
        show (fillLoop io d₀.win d₀).1.lastAcked ≤ (fillLoop io d₀.win d₀).1.nextToSend
        have := hf.lastAcked_eq
        have := hf.nextToSend_le
        omega
  | finish flow => cases hd
  | stop st => cases hd

/-- The fill a move starts is a good one. -/
theorem MoveOrder.fillStart_good {io : SendFile} {m : Move} (h : MoveOrder io m) :
    ∀ d ∈ m.fillStart, FillGood io d := by
  intro d hd
  cases h with
  | fill hnext hsize =>
      rw [Move.fillStart, List.mem_singleton] at hd
      subst hd
      exact fillGood_of_mark hnext hsize
  | stay h => cases hd
  | finish flow => cases hd
  | stop st => cases hd

/-! ## §3. One event. -/

section Event

variable (cfg : Config) {io : SendFile} {d : SendData}

theorem onAckTimeout_order (h : WaitOrder io d) : MoveOrder io (onAckTimeout cfg d) := by
  simp only [onAckTimeout]
  split
  · exact .stop _
  · exact .fill rfl (Nat.le_trans h.lastAcked_le h.nextToSend_le)

/-- A NAK never moves the mark past the end of the file. -/
theorem onDataNak_order (h : WaitOrder io d) (off : Nat) :
    MoveOrder io (onDataNak cfg io d off) := by
  refine .fill rfl ?_
  show (if off > d.lastAcked ∧ off ≤ io.size then off else d.lastAcked) ≤ io.size
  have := h.lastAcked_le
  have := h.nextToSend_le
  split <;> omega

theorem onDataAck_order (h : WaitOrder io d) {off : Nat}
    (hoff : off ≤ d.nextToSend ∨ io.size ≤ off) :
    MoveOrder io (onDataAck cfg io d off) := by
  have hla := h.lastAcked_le
  have hsz := h.nextToSend_le
  have htg := h.target_eq
  simp only [onDataAck]
  split
  · exact .stay ⟨hla, hsz, htg⟩
  · split
    · rename_i hlt
      have hlt' : off < d.targetAck := hlt
      exact .stay ⟨show off ≤ d.nextToSend by omega, hsz, htg⟩
    · rename_i hge
      have hge' : ¬ off < d.targetAck := hge
      simp only [dataLoop]
      split
      · rename_i hlt
        have hlt' : off < io.size := hlt
        exact .fill (show d.nextToSend = off by omega) (show off ≤ io.size by omega)
      · exact .finish _

/-- An ACK between `next_to_send` and the end of the file starts a fill
behind the mark. -/
theorem onDataAck_overtakes (h : WaitOrder io d) {off : Nat}
    (hlow : d.nextToSend < off) (hhigh : off < io.size) :
    ∃ d', onDataAck cfg io d off = .fill d' ∧ ¬ FillGood io d' := by
  have hla := h.lastAcked_le
  have htg := h.target_eq
  refine ⟨{ advance cfg io d off with
    tries := windowTries cfg io (advance cfg io d off) }, ?_, fun hgood => ?_⟩
  · have h1 : ¬ off ≤ d.lastAcked := by omega
    have h2 : ¬ (advance cfg io d off).lastAcked < (advance cfg io d off).targetAck :=
      show ¬ off < d.targetAck by omega
    have h3 : (advance cfg io d off).lastAcked < io.size := hhigh
    simp only [onDataAck, h1, h2, if_false, dataLoop, h3, if_true]
  · have hle : off ≤ d.nextToSend := hgood.lastAcked_le
    omega

end Event

/-! ## §4. Whole runs. -/

theorem AckEvent.move_order (cfg : Config) {io : SendFile} (hmtu : minPacketSize ≤ io.mtu)
    {d : SendData} (h : WaitOrder io d) {e : AckEvent} (hoff : e.off < 2 ^ 64)
    (hin : e.inOrder io d = true) : MoveOrder io (e.move cfg io d) := by
  cases e with
  | timeout => exact onAckTimeout_order cfg h
  | ack off =>
      have hoff' : off < 2 ^ 64 := hoff
      rw [AckEvent.move, onAckFrame_ack cfg d hmtu hoff']
      exact onDataAck_order cfg h (of_decide_eq_true hin)
  | nak off =>
      have hoff' : off < 2 ^ 64 := hoff
      rw [AckEvent.move, onAckFrame_nak cfg d hmtu hoff']
      exact onDataNak_order cfg h off

/-- Along a run: the fills are good exactly when the ACKs are in order. -/
theorem fillStarts_good_iff {cfg : Config} {io : SendFile} (hmtu : minPacketSize ≤ io.mtu)
    (hsize : io.size < 2 ^ 63) :
    ∀ (es : List AckEvent) (high : Nat) (m : Move), MoveOrder io m → high ≤ io.size →
      echoed cfg io es high m = true →
      ((∀ d ∈ fillStarts cfg io es m, FillGood io d) ↔ orderly cfg io es m = true) := by
  intro es
  induction es with
  | nil =>
      intro high m hm _ _
      simp only [fillStarts, orderly, iff_true]
      exact hm.fillStart_good
  | cons e es ih =>
      intro high m hm hhigh hecho
      cases hr : (m.run io).2 with
      | complete flow =>
          simp only [fillStarts, orderly, hr, List.append_nil, iff_true]
          exact hm.fillStart_good
      | fail st =>
          simp only [fillStarts, orderly, hr, List.append_nil, iff_true]
          exact hm.fillStart_good
      | wait d =>
          have hd := hm.run hr
          simp only [echoed, hr, Bool.and_eq_true, decide_eq_true_eq] at hecho
          obtain ⟨hoff, hrest⟩ := hecho
          have hmax : max high d.nextToSend ≤ io.size :=
            Nat.max_le.mpr ⟨hhigh, hd.nextToSend_le⟩
          have hoff64 : e.off < 2 ^ 64 := by omega
          simp only [fillStarts, orderly, hr, Bool.and_eq_true, List.forall_mem_append]
          cases hin : e.inOrder io d with
          | true =>
              have hnext := AckEvent.move_order cfg hmtu hd hoff64 hin
              rw [ih _ _ hnext hmax hrest]
              exact ⟨fun h => ⟨rfl, h.2⟩, fun h => ⟨hm.fillStart_good, h.2⟩⟩
          | false =>
              -- only an ACK can be out of order, and it starts a bad fill at once
              cases e with
              | timeout => cases hin
              | nak off => cases hin
              | ack off =>
                  simp only [AckEvent.inOrder, decide_eq_false_iff_not, not_or,
                    Nat.not_le] at hin
                  obtain ⟨d', hfill, hbad⟩ :=
                    onDataAck_overtakes cfg hd hin.1 hin.2
                  have hoff' : off < 2 ^ 64 := hoff64
                  have hmove : AckEvent.move cfg io d (.ack off) = .fill d' := by
                    rw [AckEvent.move, onAckFrame_ack cfg d hmtu hoff', hfill]
                  have hmem : d' ∈ fillStarts cfg io es (.fill d') := by
                    cases es <;> simp [fillStarts, Move.fillStart]
                  rw [hmove]
                  exact ⟨fun h => absurd (h.2 d' hmem) hbad,
                    fun h => absurd h.1 (by simp)⟩

/-- The data phase of a fresh file starts in order. -/
theorem dataLoop_init_order (cfg : Config) {io : SendFile} (flow : Flow)
    (hr : io.resumeOff ≤ io.size) : MoveOrder io (dataLoop cfg io (initData io flow)) := by
  simp only [dataLoop]
  split
  · exact .fill rfl hr
  · exact .finish _

/-- **The sender and its acknowledgement mark.**  For every file, start
offset, MTU, window and AIMD configuration and every run of timeouts,
DATA_ACKs and DATA_NAKs that name nothing the sender has not reached: every
fill loop starts with `last_acked ≤ next_to_send ≤ file_size` and with an
explicit offset equal to `last_acked`, if and only if no DATA_ACK is taken
strictly between `next_to_send` and the end of the file. -/
theorem fills_good_iff_orderly (cfg : Config) (flow : Flow) {io : SendFile}
    (hmtu : minPacketSize ≤ io.mtu) (hsize : io.size < 2 ^ 63)
    (hr : io.resumeOff < io.size) {es : List AckEvent}
    (hecho : echoed cfg io es io.resumeOff (dataLoop cfg io (initData io flow)) = true) :
    (∀ d ∈ fillStarts cfg io es (dataLoop cfg io (initData io flow)), FillGood io d)
      ↔ orderly cfg io es (dataLoop cfg io (initData io flow)) = true :=
  fillStarts_good_iff hmtu hsize es _ _ (dataLoop_init_order cfg flow hr.le) hr.le hecho

/-- A window of at most two packets that one error halves. -/
def quickDegrade : Config where
  packetSize := 512
  retries := ⟨3, 3, 3, 3⟩
  txFlow := ⟨2, 2, 1, 0⟩
  resume := ⟨.never, 0, 0, false⟩
  requiredFeatures := 0
  requestedFeatures := 0
  longBits := 64

theorem quickDegrade_accepted : quickDegrade.Accepted where
  packetSize_min := by decide
  packetSize_max := by decide
  handshakeRetries_lt := by decide
  metaRetries_lt := by decide
  dataRetries_lt := by decide
  ackRetries_lt := by decide
  windowCap_lt := by decide
  initialCwnd_lt := by decide
  degrade_lt := by decide
  recovery_lt := by decide
  tailCap_lt := by decide
  minVerify_lt := by decide
  required_lt := by decide
  requested_lt := by decide
  longBits_ok := Or.inr rfl

/-- 1500 bytes over a 512-byte MTU. -/
def smallFile : SendFile where
  content := List.replicate 1500 0
  mtu := 512
  resumeOff := 0

theorem smallFile_size : smallFile.size = 1500 := List.length_replicate

theorem smallFile_resume : smallFile.resumeOff < smallFile.size := by
  rw [smallFile_size]
  decide

/-- A window of two packets, nothing counted yet. -/
def twoPackets : Flow := ⟨2, 2, 0, 0, false⟩

/-- A run in order: the first window is acknowledged packet by packet. -/
theorem fills_good_acked :
    orderly quickDegrade smallFile [.ack 492, .ack 992, .ack 1484]
        (dataLoop quickDegrade smallFile (initData smallFile twoPackets)) = true
    ∧ ∀ d ∈ fillStarts quickDegrade smallFile [.ack 492, .ack 992, .ack 1484]
        (dataLoop quickDegrade smallFile (initData smallFile twoPackets)),
      FillGood smallFile d := by
  have horder : orderly quickDegrade smallFile [.ack 492, .ack 992, .ack 1484]
      (dataLoop quickDegrade smallFile (initData smallFile twoPackets)) = true := by
    decide +kernel
  refine ⟨horder, ?_⟩
  exact (fills_good_iff_orderly quickDegrade twoPackets (by decide)
    (by rw [smallFile_size]; decide) smallFile_resume (by decide +kernel)).mpr horder

/-- The window shrinks from two packets to one on a timeout; the ACK of the
second packet of the first transmission then overtakes the sender. -/
theorem fills_overtaken :
    echoed quickDegrade smallFile [.timeout, .ack 992] 0
        (dataLoop quickDegrade smallFile (initData smallFile twoPackets)) = true
    ∧ ¬ ∀ d ∈ fillStarts quickDegrade smallFile [.timeout, .ack 992]
        (dataLoop quickDegrade smallFile (initData smallFile twoPackets)),
      FillGood smallFile d := by
  have hecho : echoed quickDegrade smallFile [.timeout, .ack 992] 0
      (dataLoop quickDegrade smallFile (initData smallFile twoPackets)) = true := by
    decide +kernel
  have hout : orderly quickDegrade smallFile [.timeout, .ack 992]
      (dataLoop quickDegrade smallFile (initData smallFile twoPackets)) = false := by
    decide +kernel
  refine ⟨hecho, fun hgood => ?_⟩
  have hstart := dataLoop_init_order quickDegrade twoPackets
    (Nat.le_of_lt smallFile_resume)
  have hsize : smallFile.size < 2 ^ 63 := by
    rw [smallFile_size]
    decide
  have hin := (fillStarts_good_iff (by decide) hsize [.timeout, .ack 992] 0
    (dataLoop quickDegrade smallFile (initData smallFile twoPackets)) hstart
    (Nat.zero_le _) hecho).mp hgood
  exact Bool.noConfusion (hout.symm.trans hin)

end ValProtocol
