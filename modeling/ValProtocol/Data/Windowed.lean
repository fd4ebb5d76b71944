/-
  ValProtocol.Data.Windowed
  ─────────────────────────
  One file over a lossy link, with any window.

  Only the first DATA packet of a fill names its offset; the others are
  appended wherever the receiver stands.  `Intact` is the joint invariant of
  a transfer in which each of them is taken at the position it was read at.

    • `intact_run`           — it holds in every such run,
    • `windowed_integrity`   — so a file both sides finish is exact,
    • `windowed_corruption`  — a run in which a retransmitted window is
      appended twice and both sides finish with `VAL_OK`.
-/
import ValProtocol.Data.System
import ValProtocol.Data.HighWater

namespace ValProtocol

/-! ## §1. The joint invariant. -/

/-- What the receiver has accepted so far. -/
def DataSys.written (s : DataSys) : Nat := s.rcv.data.written

/-- The transfer so far. -/
structure Intact (c : DataParams) (existing : Bytes) (s : DataSys) : Prop where
  file_ok : FileOk c existing s.rcv
  flight_ok : ∀ p ∈ s.toRcv, FlightOk c.io s.written p ∨ p = sendBare .done c.io.size
  acks_ok : ∀ p ∈ s.toSnd, AckOk s.written p
  snd_ok : ∀ d, s.snd = .data d → SendOk c.io s.written d
  done_ok : s.doneSent = true → c.io.size ≤ s.written
  done_flight : ∀ p ∈ s.toRcv, p.type = .done → s.doneSent = true
  done_wait : ∀ n flow, s.snd = .doneWait n flow → s.doneSent = true
  done_rcv : ∀ d, s.rcv = .complete d → s.doneSent = true

/-- Once DONE has been sent the receiver holds the whole file. -/
theorem Intact.complete {c : DataParams} {e : Bytes} {s : DataSys} (h : Intact c e s)
    (hd : s.doneSent = true) :
    s.rcv.data.file = e ++ c.io.content.drop c.io.resumeOff := by
  obtain ⟨k, hfile, h1, h2, -⟩ := h.file_ok.file_eq
  have hw : c.io.size ≤ s.rcv.data.written := h.done_ok hd
  rw [hfile, List.take_of_length_le]
  rw [List.length_drop]
  simp only [SendFile.size] at hw h2
  omega

/-! ## §2. Sender steps. -/

/-- What one sender step keeps. -/
structure SendStepOk (c : DataParams) (written : Nat) (doneSent : Bool)
    (r : List Send × SendPhase) : Prop where
  flight_ok : ∀ p ∈ r.1, FlightOk c.io written p ∨ p = sendBare .done c.io.size
  snd_ok : ∀ d, r.2 = .data d → SendOk c.io written d
  done_ok : (∃ p ∈ r.1, p.type = .done) → c.io.size ≤ written
  done_wait : ∀ n flow, r.2 = .doneWait n flow →
    doneSent = true ∨ ∃ p ∈ r.1, p.type = .done

theorem DataSend.not_done {io : SendFile} {p : Send} (h : DataSend io p) :
    p.type ≠ .done := by
  rw [h.type_eq]
  decide

/-- A sound sender step keeps the invariant. -/
theorem Intact.sent {c : DataParams} {e : Bytes} {s : DataSys} (h : Intact c e s)
    {r : List Send × SendPhase} (hr : SendStepOk c s.written s.doneSent r) :
    Intact c e (s.sent r) := by
  have hany : (s.sent r).doneSent = true ↔ s.doneSent = true ∨ ∃ p ∈ r.1, p.type = .done := by
    simp [DataSys.sent, List.any_eq_true]
  refine ⟨h.file_ok, fun p hp => ?_, h.acks_ok, hr.snd_ok, fun hd => ?_, fun p hp ht => ?_,
    fun n flow hn => ?_, fun d hd => hany.mpr (Or.inl (h.done_rcv d hd))⟩
  · rcases List.mem_append.mp hp with hp | hp
    · exact h.flight_ok p hp
    · exact hr.flight_ok p hp
  · rcases hany.mp hd with hd | hd
    · exact h.done_ok hd
    · exact hr.done_ok hd
  · rcases List.mem_append.mp hp with hp | hp
    · exact hany.mpr (Or.inl (h.done_flight p hp ht))
    · exact hany.mpr (Or.inr ⟨p, hp, ht⟩)
  · exact hany.mpr (hr.done_wait n flow hn)

/-- Carrying out a sound move is a sound sender step. -/
theorem MoveOk.step {c : DataParams} {w : Nat} {m : Move} (h : MoveOk c.io w m)
    (done : Bool) : SendStepOk c w done (afterData c (m.run c.io)) := by
  obtain ⟨hflight, hwait, hcomplete⟩ := h.run
  have hdata : ∀ p ∈ (m.run c.io).1, p.type ≠ .done := fun p hp => (hflight p hp).1.not_done
  cases hres : (m.run c.io).2 with
  | wait d =>
      simp only [afterData, hres]
      refine ⟨fun p hp => Or.inl (hflight p hp), fun d' hd' => ?_, fun ⟨p, hp, ht⟩ => ?_,
        nofun⟩
      · cases hd'
        exact hwait d hres
      · exact absurd ht (hdata p hp)
  | complete flow =>
      simp only [afterData, hres]
      refine ⟨fun p hp => ?_, nofun, fun _ => hcomplete flow hres,
        fun n flow _ => Or.inr ⟨sendBare .done c.io.size, by simp, rfl⟩⟩
      rcases List.mem_append.mp hp with hp | hp
      · exact Or.inl (hflight p hp)
      · exact Or.inr (List.mem_singleton.mp hp)
  | fail st =>
      simp only [afterData, hres]
      exact ⟨fun p hp => Or.inl (hflight p hp), nofun,
        fun ⟨p, hp, ht⟩ => absurd ht (hdata p hp), nofun⟩

/-- A sender step that sends nothing and leaves the data phase. -/
theorem SendStepOk.quiet {c : DataParams} {w : Nat} {done : Bool} {ph : SendPhase}
    (hdata : ∀ d, ph ≠ .data d) (hwait : ∀ n flow, ph = .doneWait n flow → done = true) :
    SendStepOk c w done ([], ph) :=
  ⟨fun _ hp => absurd hp (List.not_mem_nil), fun d hd => absurd hd (hdata d),
    fun ⟨_, hp, _⟩ => absurd hp (List.not_mem_nil), fun n flow hn => Or.inl (hwait n flow hn)⟩

/-- A sender step that returns. -/
theorem SendStepOk.gone {c : DataParams} {w : Nat} {done : Bool} (st : Status) :
    SendStepOk c w done ([], .returned st) := by
  apply SendStepOk.quiet
  · intro d hd
    cases hd
  · intro n flow hn
    cases hn

/-- A DONE_ACK does not move the data phase. -/
theorem onAckFrame_doneAck {c : DataParams} (hc : c.Ok) (d : SendData) {off : Nat}
    (hoff : off < 2 ^ 64) :
    onAckFrame c.sndCfg c.io d (sendBare .doneAck off).frame = .stay d := by
  obtain ⟨q, hq, ht, -⟩ := recvControl_ack (s := sendBare .doneAck off)
    ⟨rfl, hoff⟩ rfl hc.mtu_min (show 12 ≤ 32 by omega)
  have ht' : q.type = .doneAck := ht
  simp only [onAckFrame, hq, ht']

section Sender

variable {c : DataParams} {e : Bytes} {s : DataSys}

/-- Every acknowledgement in flight is harmless. -/
theorem onFrame_ok (hc : c.Ok) (h : Intact c e s) {p : Send} (hp : AckOk s.written p) :
    SendStepOk c s.written s.doneSent (s.snd.onFrame c p.frame) := by
  obtain ⟨off, hoff, hp⟩ := hp
  have hsize := hc.size_lt
  have hw : s.written ≤ c.io.size := h.file_ok.written_le
  cases hs : s.snd with
  | data d =>
      have hd := h.snd_ok d hs
      rcases hp with rfl | rfl
      · rw [SendPhase.onFrame, onAckFrame_ack c.sndCfg d hc.mtu_min (by omega)]
        exact (onDataAck_ok c.sndCfg hoff hd).step _
      · rw [SendPhase.onFrame, onAckFrame_doneAck hc d (by omega)]
        exact (MoveOk.stay hd).step _
  | doneWait n flow =>
      have hdone := h.done_wait n flow hs
      simp only [SendPhase.onFrame]
      split
      · exact .gone _
      · split
        · exact .gone _
        · apply SendStepOk.quiet
          · intro d hd
            cases hd
          · exact fun _ _ _ => hdone
  | returned st => exact .gone st

theorem onTimeout_ok (hc : c.Ok) (h : Intact c e s) :
    SendStepOk c s.written s.doneSent (s.snd.onTimeout c) := by
  have hw : s.written ≤ c.io.size := h.file_ok.written_le
  cases hs : s.snd with
  | data d =>
      exact (onAckTimeout_ok c.sndCfg hc.size_lt hw (h.snd_ok d hs)).step _
  | doneWait n flow =>
      have hdone := h.done_wait n flow hs
      simp only [SendPhase.onTimeout]
      split
      · exact .gone _
      · refine ⟨fun p hp => Or.inr (List.mem_singleton.mp hp), nofun,
          fun _ => h.done_ok hdone, fun _ _ _ => Or.inl hdone⟩
  | returned st => exact .gone st

end Sender

/-! ## §3. Receiver steps and the environment. -/

/-- A sound receiver step keeps the invariant. -/
theorem Intact.answered {c : DataParams} {e : Bytes} {s : DataSys} (h : Intact c e s)
    {r : List Send × RecvResult} (hr : RecvStepOk c e s.written r)
    (hdone : ∀ d, r.2 = .complete d → s.doneSent = true) :
    Intact c e (s.answered r) := by
  have hw : s.written ≤ (s.answered r).written := hr.written_le
  refine ⟨hr.file_ok, fun p hp => ?_, fun p hp => ?_, fun d hd => ?_, fun hd => ?_,
    h.done_flight, h.done_wait, hdone⟩
  · exact (h.flight_ok p hp).imp (FlightOk.mono hw) id
  · rcases List.mem_append.mp hp with hp | hp
    · exact (h.acks_ok p hp).mono hw
    · exact hr.acks_ok p hp
  · exact (h.snd_ok d hd).mono hw
  · exact Nat.le_trans (h.done_ok hd) hw

/-- The channels may lose and copy what they hold. -/
theorem Intact.channels {c : DataParams} {e : Bytes} {s : DataSys} (h : Intact c e s)
    (toRcv toSnd : List Send) (h1 : ∀ p ∈ toRcv, p ∈ s.toRcv) (h2 : ∀ p ∈ toSnd, p ∈ s.toSnd) :
    Intact c e { s with toRcv := toRcv, toSnd := toSnd } :=
  ⟨h.file_ok, fun p hp => h.flight_ok p (h1 p hp), fun p hp => h.acks_ok p (h2 p hp),
    h.snd_ok, h.done_ok, fun p hp => h.done_flight p (h1 p hp), h.done_wait, h.done_rcv⟩

/-- DONE ends the data loop. -/
theorem onDataFrame_done {c : DataParams} (hc : c.Ok) (d : RecvData) (short : Option Nat) :
    onDataFrame c.rcvCfg c.io.mtu d (sendBare .done c.io.size).frame short
      = ([sendBare .doneAck d.written],
          .complete { d with tries := c.rcvCfg.retries.dataRetries }) := by
  have hmin := hc.mtu_min
  have hsize := hc.size_lt
  simp only [minPacketSize] at hmin
  have hwhole : (sendBare .done c.io.size).Whole c.io.mtu :=
    ⟨⟨rfl, show c.io.size < 2 ^ 64 by omega⟩, Nat.zero_le _, Nat.zero_le _⟩
  simp only [onDataFrame, recvFrame_whole hwhole (by omega) (Nat.le_refl _)]
  rfl

/-- The position at which the receiver takes a packet without an offset is
the one the sender read it at. -/
def DataSys.inPlace (s : DataSys) : DataLabel → Bool
  | .rcvRecv _ =>
      match s.rcv, s.toRcv with
      | .wait d, p :: _ =>
          decide (p.type = .data → p.includeDataOffset = false → p.offset = d.written)
      | _, _ => true
  | _ => true

def InPlace (s : DataSys) (l : DataLabel) : Prop := s.inPlace l = true

/-- **One step.** -/
theorem intact_step {c : DataParams} (hc : c.Ok) {e : Bytes} {s s' : DataSys}
    {l : DataLabel} (h : Intact c e s) (hplace : InPlace s l)
    (hs : s.step c l = some s') : Intact c e s' := by
  cases l with
  | sndRecv =>
      simp only [DataSys.step] at hs
      split at hs
      · cases hs
      rename_i p rest hto
      split at hs
      · cases hs
      · cases hs
        have h' := h.channels s.toRcv rest (fun p hp => hp)
          (fun q hq => by rw [hto]; exact List.mem_cons_of_mem p hq)
        exact h'.sent (onFrame_ok hc h' (h.acks_ok p (by rw [hto]; exact List.mem_cons_self)))
  | sndTimeout =>
      simp only [DataSys.step] at hs
      split at hs
      · cases hs
      · cases hs
        exact h.sent (onTimeout_ok hc h)
  | rcvRecv short =>
      simp only [DataSys.step] at hs
      split at hs
      · rename_i d p rest hrcv hto
        cases hs
        have h' := h.channels rest s.toSnd
          (fun q hq => by rw [hto]; exact List.mem_cons_of_mem p hq) (fun q hq => hq)
        have hw : s.written = d.written := by rw [DataSys.written, hrcv]; rfl
        have hfile : FileOk c e (.wait d) := hrcv ▸ h.file_ok
        have hmem : p ∈ s.toRcv := by rw [hto]; exact List.mem_cons_self
        have hp := h.flight_ok p hmem
        rw [hw] at hp
        rcases hp with hp | rfl
        · -- DATA: the chunk is in its place, so the prefix grows by it
          simp only [InPlace, DataSys.inPlace, hrcv, hto, decide_eq_true_eq] at hplace
          have hr := onDataFrame_data_ok hc hfile hp (hplace hp.1.type_eq) short
          rw [← hw] at hr
          refine h'.answered hr fun d' hd' => ?_
          -- DATA never completes the file, only DONE does
          simp only [onDataFrame, hp.1.recv hc] at hd'
          exact absurd hd' (onData_not_complete _ _ _ _)
        · -- DONE behind the last chunk
          rw [onDataFrame_done hc]
          refine h'.answered ?_ fun _ _ => h.done_flight _ hmem rfl
          show RecvStepOk c e s.written _
          rw [hw]
          refine RecvStepOk.keep hfile ⟨rfl, rfl⟩ fun q hq => ?_
          exact ⟨d.written, Nat.le_refl _, Or.inr (List.mem_singleton.mp hq)⟩
      · cases hs
  | rcvTimeout =>
      simp only [DataSys.step] at hs
      split at hs
      · rename_i d hrcv
        cases hs
        have hw : s.written = d.written := by rw [DataSys.written, hrcv]; rfl
        have hfile : FileOk c e (.wait d) := hrcv ▸ h.file_ok
        simp only [onDataTimeout]
        split
        · refine h.answered ?_ fun _ hd => by cases hd
          rw [hw]
          exact RecvStepOk.keep hfile ⟨rfl, rfl⟩ fun q hq => absurd hq (List.not_mem_nil)
        · refine h.answered ?_ fun _ hd => by cases hd
          rw [hw]
          exact RecvStepOk.keep hfile ⟨rfl, rfl⟩ fun q hq => absurd hq (List.not_mem_nil)
      · cases hs
  | loseToRcv i | loseToSnd i | copyToRcv i j | copyToSnd i j =>
      obtain ⟨toRcv, toSnd, rfl, h1, h2⟩ := env_step rfl hs
      exact h.channels toRcv toSnd h1 h2

/-! ## §4. Whole runs. -/

/-- The first window goes out over empty channels. -/
theorem intact_init {c : DataParams} (hc : c.Ok) (flow : Flow) (e : Bytes) :
    Intact c e (DataSys.init c flow e) := by
  have hr := hc.resume_lt
  have hbegin : SendOk c.io c.io.resumeOff (initData c.io flow) :=
    ⟨Nat.le_refl _, Nat.le_refl _, Nat.le_refl _, Nat.le_of_lt hr, rfl, rfl⟩
  have hmove := (dataLoop_ok c.sndCfg hbegin).step (c := c) false
  have hempty : Intact c e
      { snd := .returned .ok,
        rcv := .wait (initRecv c.rcvCfg e c.io.resumeOff c.io.size),
        toRcv := [], toSnd := [], doneSent := false } := by
    refine ⟨⟨Nat.le_refl _, 0, by simp [RecvResult.data, initRecv], Nat.le_refl _,
      Nat.le_of_lt hr, fun _ => rfl⟩, ?_, ?_, nofun, nofun, ?_, nofun, nofun⟩
    all_goals exact fun p hp => absurd hp (List.not_mem_nil)
  exact hempty.sent hmove

/-- **The invariant along every run** in which packets without an offset are
taken in place. -/
theorem intact_run {c : DataParams} (hc : c.Ok) (flow : Flow) (e : Bytes) {s : DataSys}
    (h : Lts.Reach (DataSys.step c) InPlace (DataSys.init c flow e) s) : Intact c e s :=
  h.invariant (intact_init hc flow e) fun _ _ _ hi ha hs => intact_step hc hi ha hs

/-- **End-to-end integrity of one file.**  In every run whose steps all take
packets without an offset in place, a file that both sides finish is its
first `resume_off` bytes followed by exactly the sender's bytes. -/
theorem windowed_integrity {c : DataParams} (hc : c.Ok) (flow : Flow) {e : Bytes}
    {s : DataSys} (h : Lts.Reach (DataSys.step c) InPlace (DataSys.init c flow e) s)
    (_hsnd : s.snd = .returned .ok) {d : RecvData} (hrcv : s.rcv = .complete d) :
    d.file = e ++ c.io.content.drop c.io.resumeOff := by
  have hi := intact_run hc flow e h
  have hfile := hi.complete (hi.done_rcv d hrcv)
  rw [hrcv] at hfile
  exact hfile

/-! ## §5. A clean run and a corrupted one. -/

/-- Two packets to send, a window of two. -/
def twoPacketTransfer : DataParams where
  sndCfg := { quickDegrade with txFlow := ⟨2, 2, 0, 0⟩ }
  rcvCfg := quickDegrade
  io := { content := List.replicate 992 0, mtu := 512, resumeOff := 0 }

theorem twoPacketTransfer_ok : twoPacketTransfer.Ok := by
  have hsize : twoPacketTransfer.io.size = 992 := List.length_replicate
  refine ⟨by decide, by decide, ?_, ?_⟩
  · rw [hsize]; decide
  · rw [hsize]; decide

/-- How a run ended. -/
def DataSys.outcome (s : DataSys) : SendPhase × Bool × Nat :=
  (s.snd, (match s.rcv with | .complete _ => true | _ => false), s.rcv.data.file.length)

theorem DataSys.complete_of_outcome {s : DataSys} {ph : SendPhase} {n : Nat}
    (h : s.outcome = (ph, true, n)) :
    s.snd = ph ∧ ∃ d, s.rcv = .complete d ∧ d.file.length = n := by
  simp only [DataSys.outcome, Prod.mk.injEq] at h
  obtain ⟨h1, h2, h3⟩ := h
  cases hr : s.rcv with
  | complete d =>
      rw [hr] at h3
      exact ⟨h1, d, rfl, h3⟩
  | wait d => simp [hr] at h2
  | fail d st => simp [hr] at h2

theorem windowed_integrity_run :
    ∃ s d, Lts.Reach (DataSys.step twoPacketTransfer) InPlace
        (DataSys.init twoPacketTransfer twoPackets []) s
      ∧ s.snd = .returned .ok ∧ s.rcv = .complete d
      ∧ d.file = [] ++ twoPacketTransfer.io.content.drop twoPacketTransfer.io.resumeOff := by
  have hrun : (([.rcvRecv none, .rcvRecv none, .sndRecv, .sndRecv, .rcvRecv none,
      .sndRecv] : List DataLabel).foldlM
        (Lts.checked (DataSys.step twoPacketTransfer) DataSys.inPlace)
        (DataSys.init twoPacketTransfer twoPackets [])).map DataSys.outcome
      = some (.returned .ok, true, 992) := by
    decide +kernel
  obtain ⟨s, hs, hout⟩ := Option.map_eq_some_iff.mp hrun
  obtain ⟨hsnd, d, hrcv, -⟩ := DataSys.complete_of_outcome hout
  have hreach := Lts.Reach.of_foldlM hs
  exact ⟨s, d, hreach, hsnd, hrcv,
    windowed_integrity twoPacketTransfer_ok twoPackets hreach hsnd hrcv⟩

/-- The environment of a lossy FIFO link makes no copies. -/
def DataLabel.noCopy : DataLabel → Bool
  | .copyToRcv _ _ => false
  | .copyToSnd _ _ => false
  | _ => true

/-- Both packets arrive, their acknowledgements are late, the sender times
out and repeats the window: the second packet of the repetition carries no
offset and is appended once more.  Nothing is lost, and both sides finish
with `VAL_OK`. -/
theorem windowed_corruption :
    ∃ s d, Lts.Reach (DataSys.step twoPacketTransfer) (fun _ l => l.noCopy = true)
        (DataSys.init twoPacketTransfer twoPackets []) s
      ∧ s.snd = .returned .ok ∧ s.rcv = .complete d
      ∧ d.file ≠ [] ++ twoPacketTransfer.io.content.drop twoPacketTransfer.io.resumeOff := by
  have hrun : (([.rcvRecv none, .rcvRecv none, .sndTimeout, .rcvRecv none, .rcvRecv none,
      .sndRecv, .sndRecv, .rcvRecv none, .sndRecv, .sndRecv, .sndRecv] :
        List DataLabel).foldlM
        (Lts.checked (DataSys.step twoPacketTransfer) (fun _ l => l.noCopy))
        (DataSys.init twoPacketTransfer twoPackets [])).map DataSys.outcome
      = some (.returned .ok, true, 1492) := by
    decide +kernel
  obtain ⟨s, hs, hout⟩ := Option.map_eq_some_iff.mp hrun
  obtain ⟨hsnd, d, hrcv, hlen⟩ := DataSys.complete_of_outcome hout
  refine ⟨s, d, Lts.Reach.of_foldlM hs, hsnd, hrcv, fun hfile => ?_⟩
  have hsize : ([] ++ twoPacketTransfer.io.content.drop
      twoPacketTransfer.io.resumeOff).length = 992 := by
    decide +kernel
  rw [hfile, hsize] at hlen
  cases hlen

end ValProtocol
