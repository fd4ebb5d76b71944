/-
  ValProtocol.Session.Occupancy
  ─────────────────────────────
  How full the sender's window can get (`send_file_data_adaptive`,
  `src/val_sender.c` lines 818-907, and `wait_for_window_ack`).

  `inflight` is counted up by each packet sent, computed anew from bytes by
  each DATA_ACK that advances, and cleared by a rewind.  `win` is taken from
  the session at the start of a file and at a rewind, and from nowhere else.

    • `Greeted.of_reach` — what a handshake with any peer leaves behind, every
      later step of the session keeps,
    • `Occupied.step`    — one event of the data phase keeps the bounds,
    • `occupancy`        — so they hold in every state of every data phase
      behind a completed handshake.
-/
import ValProtocol.Data.Patience
import ValProtocol.Session.Capabilities
import ValProtocol.Session.StaleMemory

namespace ValProtocol

/-! ## §1. The sending session against any peer. -/

/-- One input; `val_send_files` is not called while it runs. -/
def SendState.step (env : SendEnv) (s : SendState) : SendInput → Option SendState
  | .call batch => if s.pc = .idle then some (s.call env batch).2 else none
  | .frame f => some (s.onFrame env f).2
  | .timeout timer => some (s.onTimeout env timer).2

/-- What a completed handshake leaves behind. -/
structure SendState.Greeted (s : SendState) : Prop where
  flow_ok : s.flow.Bounded
  mtu_min : minPacketSize ≤ s.mtu

/-- The invariant of `Capabilities`, with whatever cap and packet size this
peer has brought. -/
def SendState.Settled (env : SendEnv) (s : SendState) : Prop :=
  ∃ cap mtu, cap < 2 ^ 16 ∧ minPacketSize ≤ mtu ∧ s.Capable env cap mtu

section Session

variable {env : SendEnv} {s : SendState}

/-- The window a handshake starts with. -/
theorem adoptPeerHello_bounded {cfg : Config} (hcfg : cfg.Accepted) {flow : Flow}
    {peer : Handshake} {n : Negotiated} (h : adoptPeerHello cfg flow peer = .ok n) :
    n.flow.Bounded := by
  simp only [adoptPeerHello] at h
  generalize (if peer.packetSize < cfg.packetSize then peer.packetSize else cfg.packetSize)
    = size at h
  repeat' split at h
  all_goals cases h
  exact initialFlow_bounded hcfg peer flow

/-- A HELLO of any peer. -/
theorem SendState.Settled.onHello {cap mtu n : Nat} {f : Frame} (hcfg : env.cfg.Accepted)
    (hcap : cap < 2 ^ 16) (hmtu : minPacketSize ≤ mtu) (h : s.Capable env cap mtu)
    (hpc : s.pc = .helloWait n) : (s.onFrame env f).2.Settled env := by
  have hstay : s.Settled env := ⟨cap, mtu, hcap, hmtu, h⟩
  have hstop : ∀ st, (s.ret st).Settled env := fun st => ⟨cap, mtu, hcap, hmtu, h.ret st⟩
  have hpc' : s.onFrame env f = s.onHelloFrame env f := by
    unfold SendState.onFrame
    rw [hpc]
  rw [hpc']
  unfold SendState.onHelloFrame
  split
  · exact hstop _
  · split
    · exact hstop _
    · exact hstop _
    · split
      · exact hstay
      · split
        · exact hstop _
        · -- the peer's offer is adopted
          rename_i neg hadopt
          have hlegal := adoptPeerHello_mtu hadopt
          have hbounded := adoptPeerHello_bounded hcfg hadopt
          refine ⟨neg.flow.negotiatedWindow, neg.mtu, hbounded.cap_lt, hlegal, ?_⟩
          apply And.left
          refine SendState.Lands.begin ⟨by simp, fun _ => rfl, fun _ => ⟨rfl, hbounded⟩, ?_, ?_⟩
            rfl hlegal
          · intro io d hp
            rw [show s.pc = _ from hp] at hpc
            cases hpc
          · intro content n' endOff payload hp
            rw [show s.pc = _ from hp] at hpc
            cases hpc
    · exact hstay

/-- **One input** keeps what the handshake settled. -/
theorem SendState.Settled.step {s' : SendState} {i : SendInput} (hcfg : env.cfg.Accepted)
    (h : s.Settled env) (hstep : s.step env i = some s') : s'.Settled env := by
  obtain ⟨cap, mtu, hcap, hmtu, hs⟩ := h
  cases i with
  | call batch =>
      unfold SendState.step at hstep
      dsimp only at hstep
      split at hstep
      · cases hstep
        exact ⟨cap, mtu, hcap, hmtu, (hs.call hmtu batch).1⟩
      · cases hstep
  | frame f =>
      cases hstep
      -- only a HELLO in the handshake can bring another cap or packet size
      by_cases hgreet : (∃ n, s.pc = .helloWait n) ∧ PacketType.ofByte f.type = .hello
      · obtain ⟨⟨n, hpc⟩, -⟩ := hgreet
        exact SendState.Settled.onHello hcfg hcap hmtu hs hpc
      · exact ⟨cap, mtu, hcap, hmtu, (hs.onOther hmtu hcap hgreet).1⟩
  | timeout timer =>
      cases hstep
      exact ⟨cap, mtu, hcap, hmtu, (hs.onTimeout hmtu timer).1⟩

/-- **Behind a completed handshake**, in every run against any peer. -/
theorem SendState.Greeted.of_reach (hcfg : env.cfg.Accepted)
    (hreach : Lts.Reach (SendState.step env) (fun _ _ => True) (.fresh env.cfg) s)
    (hdone : s.handshakeDone = true) : s.Greeted := by
  have hfresh : (SendState.fresh env.cfg).Settled env := by
    refine ⟨0, minPacketSize, by decide, le_refl _, ?_⟩
    refine ⟨fun _ => ⟨rfl, Or.inl rfl⟩, (fun h => by cases h), (fun h => by cases h), ?_, ?_⟩
    · intro io d hp
      cases hp
    · intro content n endOff payload hp
      cases hp
  have hsettled : s.Settled env :=
    hreach.invariant hfresh (fun _ _ _ h _ hstep => h.step hcfg hstep)
  obtain ⟨cap, mtu, hcap, hmtu, hs⟩ := hsettled
  refine ⟨(hs.flow_ok hdone).bounded, ?_⟩
  rw [hs.mtu_eq hdone]
  exact hmtu

end Session

/-! ## §2. The data phase with its bursts. -/

/-- What happens in the data phase: an input of the wait, a frame that is lost
to its CRC until the deadline, or a performance trip of the health check, which
counts as a transmission error and lets the data loop go on. -/
inductive DataEvent where
  | input (i : WaitInput)
  | corrupt
  | trip
  deriving Repr, DecidableEq

def DataEvent.move (cfg : Config) (io : SendFile) (d : SendData) : DataEvent → Move
  | .input i => i.move cfg io d
  | .corrupt => if d.tries = 0 then .stop .crc else onAckTimeout cfg d
  | .trip => .stay { d with flow := recordTransmissionError cfg.txFlow d.flow }

/-- A DATA_ACK that advances makes the sender compute `inflight` anew. -/
def DataEvent.recounts (io : SendFile) (d : SendData) : DataEvent → Bool
  | .input (.frame f) => (advancingAck io d f).isSome
  | _ => false

structure Occupancy where
  phase : DataResult
  /-- the locals at the head of the last fill loop -/
  head : SendData
  /-- the packets sent between the last two entries to `wait_for_window_ack` -/
  burst : List Send
  /-- `inflight` has been computed anew since -/
  recounted : Bool

/-- A move; one that fills enters the wait again. -/
def Occupancy.go (io : SendFile) (x : Occupancy) : Move → Occupancy
  | .fill d => ⟨((Move.fill d).run io).2, d, ((Move.fill d).run io).1, false⟩
  | m => { x with phase := (m.run io).2 }

/-- The data phase up to its first wait. -/
def Occupancy.start (cfg : Config) (io : SendFile) (flow : Flow) : Occupancy :=
  .go io ⟨.complete flow, initData io flow, [], false⟩ (dataLoop cfg io (initData io flow))

def Occupancy.step (cfg : Config) (io : SendFile) (x : Occupancy) (e : DataEvent) : Occupancy :=
  match x.phase with
  | .wait d =>
      .go io { x with recounted := x.recounted || e.recounts io d } (e.move cfg io d)
  | _ => x

def Occupancy.run (cfg : Config) (io : SendFile) (x : Occupancy) (es : List DataEvent) :
    Occupancy :=
  es.foldl (Occupancy.step cfg io) x

/-! ## §3. The bounds. -/

/-- **The window is never overfull**, with `cap` negotiated. -/
structure Occupied (cap : Nat) (io : SendFile) (x : Occupancy) : Prop where
  /-- at every point of the fill loop -/
  filling : ∀ k, 1 ≤ (fillLoop io k x.head).1.win ∧ (fillLoop io k x.head).1.win ≤ cap
    ∧ (fillLoop io k x.head).1.inflight ≤ (fillLoop io k x.head).1.win
    ∧ (fillLoop io k x.head).1.inflight = (fillLoop io k x.head).2.1.length
  /-- between two entries to the wait -/
  burst_le : x.burst.length ≤ x.head.win ∧ ∀ p ∈ x.burst, p.type = .data
  /-- in the wait -/
  waiting : ∀ d, x.phase = .wait d → d.flow.negotiatedWindow = cap ∧ d.win = x.head.win
    ∧ 1 ≤ d.win ∧ d.win ≤ cap ∧ d.inflight ≤ d.win
    ∧ d.inflight = if x.recounted
        then (d.nextToSend - d.lastAcked + io.maxPayload - 1) / io.maxPayload
        else x.burst.length

/-! ## §4. One event. -/

section Events

variable {cfg : Config} {io : SendFile} {cap : Nat} {d : SendData}

/-- The fill loop counts what it sends. -/
theorem fillLoop_inflight (io : SendFile) (fuel : Nat) (d : SendData) :
    (fillLoop io fuel d).1.inflight = d.inflight + (fillLoop io fuel d).2.1.length := by
  induction fuel generalizing d with
  | zero => rfl
  | succ fuel ih =>
      rw [fillLoop_succ]
      split
      · split
        · rfl
        · rename_i d' sent hp
          have hrest := ih d'
          -- a round that sends nothing counts nothing
          rcases sendDataPacket_cases hp with ⟨rfl, rfl⟩ | ⟨n, -, -, -, -, rfl, rfl⟩
          · simpa using hrest
          · show (fillLoop io fuel (d.sent n)).1.inflight = _
            have hone : (d.sent n).inflight = d.inflight + 1 := rfl
            simp only [Option.toList_some, List.length_append, List.length_singleton]
            omega
      · rfl

/-- Where a fill starts: an empty window inside its bounds. -/
structure SendData.Opening (cap : Nat) (io : SendFile) (d : SendData) : Prop where
  capped : d.Capped cap io
  win_pos : 1 ≤ d.win
  empty : d.inflight = 0

/-- Where the sender waits: everything sent is asked for. -/
structure SendData.Waiting (cap : Nat) (io : SendFile) (d : SendData) : Prop where
  capped : d.Capped cap io
  win_pos : 1 ≤ d.win
  target_eq : d.targetAck = d.nextToSend

/-- What a move starts from. -/
def Move.Opening (cap : Nat) (io : SendFile) : Move → Prop
  | .fill d => d.Opening cap io
  | _ => True

theorem dataLoop_opening (cfg : Config) (h : d.Opening cap io) : (dataLoop cfg io d).Opening cap io := by
  unfold dataLoop
  split
  · exact ⟨⟨h.capped.flow_ok, h.capped.win_le, h.capped.inflight_le, h.capped.span_le⟩,
      h.win_pos, h.empty⟩
  · trivial

theorem initData_opening (io : SendFile) {flow : Flow} (h : flow.Capped cap) :
    (initData io flow).Opening cap io := by
  have hpos := h.bounded.window_pos
  refine ⟨initData_capped h, ?_, rfl⟩
  show 1 ≤ if flow.currentWindow ≠ 0 then flow.currentWindow else _
  rw [if_pos (by omega)]
  exact hpos

theorem rewind_opening (cfg : Config) (h : d.Capped cap io) (seek : Int) :
    (rewind cfg d seek).Opening cap io := by
  refine ⟨rewind_capped cfg h seek, ?_, rfl⟩
  show 1 ≤ Flow.window _
  unfold Flow.window
  split <;> omega

theorem onAckTimeout_opening (h : d.Capped cap io) : (onAckTimeout cfg d).Opening cap io := by
  unfold onAckTimeout
  split
  · trivial
  · have hr := rewind_opening cfg h (toSigned 64 d.lastAcked)
    exact ⟨⟨hr.capped.flow_ok, hr.capped.win_le, hr.capped.inflight_le, hr.capped.span_le⟩,
      hr.win_pos, hr.empty⟩

/-- The packets that the bytes behind `last_acked` need. -/
def SendData.needed (io : SendFile) (d : SendData) : Nat :=
  (d.nextToSend - d.lastAcked + io.maxPayload - 1) / io.maxPayload

/-- The wait goes on with the same window, and `inflight` is computed anew or
left alone with what it counts. -/
structure SendData.Continues (cap : Nat) (io : SendFile) (d : SendData) (recounts : Bool)
    (d' : SendData) : Prop where
  waiting : d'.Waiting cap io
  win_eq : d'.win = d.win
  counted : recounts = true → d'.inflight = d'.needed io
  left : recounts = false → d'.inflight = d.inflight ∧ d'.needed io = d.needed io

/-- What an event makes of the wait at `d`. -/
def Move.Follows (cap : Nat) (io : SendFile) (d : SendData) (recounts : Bool) : Move → Prop
  | .fill d' => d'.Opening cap io
  | .stay d' => d.Continues cap io recounts d'
  | _ => True

theorem Move.Follows.of_opening {recounts : Bool} {m : Move} (h : m.Opening cap io)
    (hm : ∀ d', m ≠ .stay d') : m.Follows cap io d recounts := by
  cases m with
  | stay d' => exact absurd rfl (hm d')
  | fill d' => exact h
  | finish flow => trivial
  | stop st => trivial

/-- A DATA_ACK that advances. -/
theorem advance_follows (h : d.Waiting cap io) {off : Nat} (hoff : d.lastAcked < off)
    (hmax : 0 < io.maxPayload) (hcap : cap < 2 ^ 16) :
    (onDataAck cfg io d off).Follows cap io d true := by
  have hadv := advance_capped cfg h.capped hoff hmax hcap
  have hneed : (advance cfg io d off).inflight = (advance cfg io d off).needed io := by
    have hle := hadv.inflight_le
    have hwin := hadv.win_le
    show _ / io.maxPayload % 2 ^ 32 = (d.nextToSend - off + io.maxPayload - 1) / io.maxPayload
    have hout : (if d.nextToSend > off then d.nextToSend - off else 0) = d.nextToSend - off := by
      split <;> omega
    rw [hout]
    -- at most `inflight` packets were outstanding, so nothing is cut off
    have hspan := h.capped.span_le
    have hceil : (d.nextToSend - off + io.maxPayload - 1) / io.maxPayload ≤ d.inflight := by
      rw [Nat.div_le_iff_le_mul_add_pred hmax, Nat.mul_comm]
      omega
    have hin := h.capped.inflight_le
    have hlow := h.capped.win_le
    exact Nat.mod_eq_of_lt (by omega)
  unfold onDataAck
  rw [if_neg (by omega)]
  dsimp only
  split
  · exact ⟨⟨hadv, h.win_pos, h.target_eq⟩, rfl, fun _ => hneed, fun h => by cases h⟩
  · rename_i htarget
    -- the whole window is acknowledged: nothing is outstanding
    have hempty : (advance cfg io d off).inflight = 0 := by
      have htarget' : ¬ off < d.targetAck := htarget
      rw [h.target_eq] at htarget'
      rw [hneed]
      show (d.nextToSend - off + io.maxPayload - 1) / io.maxPayload = 0
      apply Nat.div_eq_of_lt
      omega
    apply Move.Follows.of_opening
    · exact dataLoop_opening cfg ⟨hadv, h.win_pos, hempty⟩
    · intro d' heq
      unfold dataLoop at heq
      split at heq <;> cases heq

/-- **One event** opens a window or leaves the wait as it is. -/
theorem DataEvent.move_follows (cfg : Config) (h : d.Waiting cap io) (hmax : 0 < io.maxPayload)
    (hcap : cap < 2 ^ 16) (e : DataEvent) :
    (e.move cfg io d).Follows cap io d (e.recounts io d) := by
  have hback : (onAckTimeout cfg d).Follows cap io d false := by
    apply Move.Follows.of_opening (onAckTimeout_opening h.capped)
    intro d' heq
    unfold onAckTimeout at heq
    split at heq <;> cases heq
  have hstay : (Move.stay d).Follows cap io d false :=
    ⟨h, rfl, (fun h => by cases h), fun _ => ⟨rfl, rfl⟩⟩
  cases e with
  | corrupt =>
      show (if d.tries = 0 then Move.stop .crc else onAckTimeout cfg d).Follows cap io d false
      split
      · trivial
      · exact hback
  | trip =>
      have hflow := h.capped.flow_ok.recordError cfg.txFlow
      exact ⟨⟨⟨hflow, h.capped.win_le, h.capped.inflight_le, h.capped.span_le⟩, h.win_pos,
        h.target_eq⟩, rfl, (fun h => by cases h), fun _ => ⟨rfl, rfl⟩⟩
  | input i =>
      cases i with
      | timeout => exact hback
      | frame f =>
          show (onAckFrame cfg io d f).Follows cap io d (advancingAck io d f).isSome
          unfold onAckFrame advancingAck
          -- the frame either advances `last_acked`, or is one of the other four
          cases recvControl io.mtu 32 f with
          | error st => trivial
          | ok p =>
            dsimp only
            by_cases hack : p.type = .dataAck ∧ d.lastAcked < p.off
            · rw [if_pos hack, hack.1]
              exact advance_follows h hack.2 hmax hcap
            · rw [if_neg hack]
              split
              · trivial
              · -- a NAK rewinds
                have hspan := h.capped.span_le
                apply rewind_opening
                refine ⟨h.capped.flow_ok, h.capped.win_le, h.capped.inflight_le, ?_⟩
                show d.nextToSend - (if _ then p.off else d.lastAcked) ≤ d.inflight * io.maxPayload
                split <;> omega
              · -- a stale DATA_ACK
                rename_i htype
                have hstale : ¬ d.lastAcked < p.off := fun hlt => hack ⟨htype, hlt⟩
                unfold onDataAck
                rw [if_pos (by omega)]
                exact ⟨⟨⟨h.capped.flow_ok, h.capped.win_le, h.capped.inflight_le,
                  h.capped.span_le⟩, h.win_pos, h.target_eq⟩, rfl, (fun h => by cases h),
                  fun _ => ⟨rfl, rfl⟩⟩
              · trivial
              · exact hstay

end Events

/-! ## §5. Every run. -/

/-- The bounds, and what keeps them. -/
structure Occupancy.Kept (cap : Nat) (io : SendFile) (x : Occupancy) : Prop where
  head_ok : x.head.Opening cap io
  burst_ok : x.burst = [] ∨ x.burst = (fillLoop io x.head.win x.head).2.1
  waiting : ∀ d, x.phase = .wait d → d.Waiting cap io ∧ d.win = x.head.win
    ∧ d.inflight = if x.recounted then d.needed io else x.burst.length

section Runs

variable {cfg : Config} {io : SendFile} {cap : Nat} {x : Occupancy}

/-- A window is filled and waited for. -/
theorem Occupancy.Kept.fill {d : SendData} (h : d.Opening cap io) :
    (x.go io (.fill d)).Kept cap io := by
  have hsends : ((Move.fill d).run io).1 = (fillLoop io d.win d).2.1 := fillAndWait_sends io d
  have hfill := fillLoop_filled io d.win d
  refine ⟨h, Or.inr hsends, ?_⟩
  intro d' hd'
  have hrun : (fillAndWait io d).2 = .wait d' := hd'
  rcases fillAndWait_cases io d with ⟨st, hst⟩ | hw
  · rw [hst] at hrun
    cases hrun
  · have hcap : ((Move.fill d).run io).2.Capped cap io :=
      Move.Capped.run (show (Move.fill d).Capped cap io from h.capped)
    rw [show ((Move.fill d).run io).2 = .wait d' from hrun] at hcap
    rw [hw] at hrun
    cases hrun
    refine ⟨⟨hcap, ?_, rfl⟩, hfill.win_eq, ?_⟩
    · show 1 ≤ (fillLoop io d.win d).1.win
      rw [hfill.win_eq]
      exact h.win_pos
    · show (fillLoop io d.win d).1.inflight = ((Move.fill d).run io).1.length
      rw [hsends, fillLoop_inflight, h.empty, Nat.zero_add]

theorem Occupancy.Kept.start (cfg : Config) (io : SendFile) {flow : Flow} (hflow : flow.Capped cap) :
    (Occupancy.start cfg io flow).Kept cap io := by
  have hopen := initData_opening io hflow
  have hloop := dataLoop_opening cfg hopen
  have hdone : ∀ phase : DataResult, (∀ d, phase ≠ .wait d) →
      (⟨phase, initData io flow, [], false⟩ : Occupancy).Kept cap io :=
    fun phase hphase => ⟨hopen, Or.inl rfl, fun d hd => absurd hd (hphase d)⟩
  unfold Occupancy.start
  unfold dataLoop at hloop ⊢
  split at hloop
  · rw [if_pos ‹_›]
    exact Occupancy.Kept.fill hloop
  · rw [if_neg ‹_›]
    exact hdone _ (fun d h => by cases h)

/-- **One event keeps the bounds.** -/
theorem Occupancy.Kept.step (h : x.Kept cap io) (hmax : 0 < io.maxPayload) (hcap : cap < 2 ^ 16)
    (e : DataEvent) : (x.step cfg io e).Kept cap io := by
  unfold Occupancy.step
  split
  · rename_i d hd
    obtain ⟨hwait, hwin, hin⟩ := h.waiting d hd
    have hmove := DataEvent.move_follows cfg hwait hmax hcap e
    -- what the move follows is all that matters of the event
    generalize e.move cfg io d = m at hmove ⊢
    generalize e.recounts io d = recounts at hmove ⊢
    cases m with
    | fill d' => exact Occupancy.Kept.fill hmove
    | finish flow => exact ⟨h.head_ok, h.burst_ok, fun d' hd' => by cases hd'⟩
    | stop st => exact ⟨h.head_ok, h.burst_ok, fun d' hd' => by cases hd'⟩
    | stay d' =>
        have hnext : d.Continues cap io recounts d' := hmove
        refine ⟨h.head_ok, h.burst_ok, ?_⟩
        intro d'' hd''
        cases hd''
        refine ⟨hnext.waiting, hnext.win_eq.trans hwin, ?_⟩
        show d'.inflight = if x.recounted || recounts then d'.needed io else x.burst.length
        cases recounts with
        | true => rw [Bool.or_true, if_pos rfl, hnext.counted rfl]
        | false =>
            obtain ⟨hsame, hneed⟩ := hnext.left rfl
            rw [Bool.or_false, hsame, hneed, hin]
  · exact h

theorem Occupancy.Kept.run (h : x.Kept cap io) (hmax : 0 < io.maxPayload) (hcap : cap < 2 ^ 16)
    (es : List DataEvent) : (x.run cfg io es).Kept cap io := by
  -- `Kept` is what carries the bounds from one wait to the next
  induction es generalizing x with
  | nil => exact h
  | cons e es ih => exact ih (h.step hmax hcap e)

/-- Between the rounds of a fill loop. -/
theorem SendData.Opening.filling {d : SendData} (h : d.Opening cap io) (k : Nat) :
    1 ≤ (fillLoop io k d).1.win ∧ (fillLoop io k d).1.win ≤ cap
      ∧ (fillLoop io k d).1.inflight ≤ (fillLoop io k d).1.win
      ∧ (fillLoop io k d).1.inflight = (fillLoop io k d).2.1.length := by
  have hfill := fillLoop_capped k h.capped
  have hcount := fillLoop_inflight io k d
  rw [h.empty, Nat.zero_add] at hcount
  refine ⟨?_, hfill.win_le, hfill.inflight_le, hcount⟩
  rw [(fillLoop_filled io k d).win_eq]
  exact h.win_pos

/-- The invariant says what the bounds say. -/
theorem Occupancy.Kept.occupied (h : x.Kept cap io) : Occupied cap io x := by
  refine ⟨h.head_ok.filling, ?_, ?_⟩
  · rcases h.burst_ok with hnil | hburst
    · rw [hnil]
      exact ⟨Nat.zero_le _, fun p hp => absurd hp List.not_mem_nil⟩
    · obtain ⟨-, -, hle, hcount⟩ := h.head_ok.filling x.head.win
      rw [(fillLoop_filled io x.head.win x.head).win_eq, hcount] at hle
      refine ⟨hburst ▸ hle, ?_⟩
      intro p hp
      apply Move.run_data io (.fill x.head) p
      rw [hburst] at hp
      rw [Move.run, fillAndWait_sends]
      exact hp
  · intro d hd
    obtain ⟨hwait, hwin, hin⟩ := h.waiting d hd
    exact ⟨hwait.capped.flow_ok.cap_eq, hwin, hwait.win_pos, hwait.capped.win_le,
      hwait.capped.inflight_le, hin⟩

end Runs

/-- **Window occupancy**: whatever file is sent from whatever offset behind a
completed handshake, and whatever comes back, the window is never overfull. -/
theorem occupancy (env : SendEnv) (hcfg : env.cfg.Accepted) (s : SendState)
    (hreach : Lts.Reach (SendState.step env) (fun _ _ => True) (.fresh env.cfg) s)
    (hdone : s.handshakeDone = true) (content : Bytes) (off : Nat) (es : List DataEvent) :
    Occupied s.flow.negotiatedWindow ⟨content, s.mtu, off⟩
      ((Occupancy.start env.cfg ⟨content, s.mtu, off⟩ s.flow).run env.cfg ⟨content, s.mtu, off⟩
        es) := by
  obtain ⟨hflow, hmtu⟩ := SendState.Greeted.of_reach hcfg hreach hdone
  have hmax : 0 < (⟨content, s.mtu, off⟩ : SendFile).maxPayload := by
    simp only [minPacketSize] at hmtu
    simp only [SendFile.maxPayload, wireHeaderSize, wireTrailerSize]
    omega
  have hstart := Occupancy.Kept.start env.cfg ⟨content, s.mtu, off⟩
    (show s.flow.Capped s.flow.negotiatedWindow from ⟨rfl, hflow⟩)
  exact (hstart.run hmax hflow.cap_lt es).occupied

/-- A window of two packets, the first acknowledged in part. -/
theorem occupancy_small :
    let env : SendEnv := ⟨quickDegrade, none, none⟩
    let content : Bytes := List.replicate 1200 7
    let es : List DataEvent := [.input (.frame (sendBare .dataAck 100).frame)]
    ∃ s : SendState, Lts.Reach (SendState.step env) (fun _ _ => True) (.fresh env.cfg) s
      ∧ s.handshakeDone = true
      ∧ Occupied s.flow.negotiatedWindow ⟨content, s.mtu, 0⟩
        ((Occupancy.start env.cfg ⟨content, s.mtu, 0⟩ s.flow).run env.cfg ⟨content, s.mtu, 0⟩
          es) := by
  intro env content es
  obtain ⟨s, hreach, hdone⟩ := Lts.Reach.exists_of_foldlM (SendState.step env)
    (fun _ _ => true) (.fresh env.cfg) SendState.handshakeDone
    [.call [⟨[97], none⟩], .frame (sendHello quickDegrade 512).frame]
    (show _ = some true by decide +kernel)
  have hreach' := hreach.mono (fun _ _ _ => trivial)
  exact ⟨s, hreach', hdone, occupancy env quickDegrade_accepted s hreach' hdone content 0 es⟩

end ValProtocol
