/-
  ValProtocol.Data.Transfer
  ─────────────────────────
  The data phase when nothing goes wrong: the packets of a window lie end to
  end, the receiver appends each and acknowledges it, and the acknowledgement
  of the last one makes the sender fill the next window or finish.

    • `Window.receive`, `Window.ack` — one packet and its acknowledgement.
-/
import ValProtocol.Data.System

namespace ValProtocol

/-! ## §1. Packets end to end. -/

/-- The packets carry the file's bytes from `w` to `e`, in order and without
a gap. -/
inductive Covers (io : SendFile) : Nat → List Send → Nat → Prop where
  | nil (w : Nat) : Covers io w [] w
  | cons {w e : Nat} {p : Send} {ps : List Send} (hp : DataSend io p) (hoff : p.offset = w)
      (hps : Covers io (w + p.payload.length) ps e) : Covers io w (p :: ps) e

theorem Covers.le {io : SendFile} {w e : Nat} {ps : List Send} (h : Covers io w ps e) :
    w ≤ e := by
  induction h with
  | nil w => exact Nat.le_refl w
  | cons hp hoff hps ih => omega

theorem Covers.end_eq {io : SendFile} {w e : Nat} (h : Covers io w [] e) : e = w := by
  cases h
  rfl

theorem Covers.nil_of_eq {io : SendFile} {w e : Nat} {ps : List Send} (h : Covers io w ps e)
    (heq : e = w) : ps = [] := by
  cases h with
  | nil => rfl
  | cons hp hoff hps =>
      have := hp.payload_pos
      have := hps.le
      omega

/-- A window in flight: the sender waits for `next_to_send`, its file handle
stands there, and `ps` are the packets between `last_acked = w` and it. -/
structure Window (io : SendFile) (w : Nat) (ps : List Send) (d : SendData) : Prop where
  acked : d.lastAcked = w
  covers : Covers io w ps d.nextToSend
  target : d.targetAck = d.nextToSend
  cursor : d.fileCursor = d.nextToSend
  pos : d.pos = d.nextToSend
  next_le : d.nextToSend ≤ io.size
  win_pos : 1 ≤ d.win
  flow_ok : d.flow.Bounded

/-! ## §2. Filling a window. -/

/-- A sender ready to fill: nothing in flight, the handle at `last_acked`. -/
structure Fillable (io : SendFile) (w : Nat) (d : SendData) : Prop where
  start_le : io.resumeOff ≤ w
  lt : w < io.size
  acked : d.lastAcked = w
  next : d.nextToSend = w
  cursor : d.fileCursor = w
  pos : d.pos = w
  inflight : d.inflight = 0
  win_pos : 1 ≤ d.win
  flow_ok : d.flow.Bounded

/-- What the fill loop leaves. -/
structure FillRun (io : SendFile) (d : SendData) (r : SendData × List Send × Option Status) :
    Prop where
  no_error : r.2.2 = none
  covers : Covers io d.nextToSend r.2.1 r.1.nextToSend
  cursor : r.1.fileCursor = r.1.nextToSend
  pos : r.1.pos = r.1.nextToSend
  next_le : r.1.nextToSend ≤ io.size

theorem fillLoop_run {io : SendFile} (hmax : 8 < io.maxPayload) (fuel : Nat) {d : SendData}
    (hstart : io.resumeOff ≤ d.nextToSend) (hle : d.nextToSend ≤ io.size)
    (hcursor : d.fileCursor = d.nextToSend) (hpos : d.pos = d.nextToSend) :
    FillRun io d (fillLoop io fuel d) := by
  induction fuel generalizing d with
  | zero => exact ⟨rfl, .nil _, hcursor, hpos, hle⟩
  | succ fuel ih =>
      rw [fillLoop_succ]
      split
      · rename_i hgo
        have hread : d.readPos = d.nextToSend := by
          unfold SendData.readPos
          rw [if_neg (by rw [hcursor]; exact fun h => h rfl), hpos]
        obtain ⟨n, hn, hsend⟩ := sendDataPacket_aligned (d.nextToSend == d.lastAcked) hmax hgo.2
          hread
        have hnpos : 0 < n := by
          rw [hn]
          split <;> omega
        have hnle : d.nextToSend + n ≤ io.size := by omega
        have hlen : ((io.content.drop d.nextToSend).take n).length = n := by
          rw [List.length_take, List.length_drop]
          simp only [SendFile.size] at hnle
          omega
        rw [hsend]
        dsimp only
        -- the rest of the loop starts behind the packet
        have hrest := ih (d := d.sent n) (show io.resumeOff ≤ d.nextToSend + n by omega) hnle rfl
          (show d.readPos + n = d.nextToSend + n by rw [hread])
        refine ⟨hrest.no_error, ?_, hrest.cursor, hrest.pos, hrest.next_le⟩
        refine .cons ⟨rfl, ?_, hstart, ?_, ?_, ?_⟩ rfl ?_
        · rw [hlen]
          exact hnpos
        · rw [hlen]
          exact hnle
        · rw [hlen, hn]
          dsimp only
          split <;> omega
        · rw [hlen]
        · rw [hlen]
          exact hrest.covers
      · exact ⟨rfl, .nil _, hcursor, hpos, hle⟩

/-- A window with room sends something. -/
theorem fillLoop_ne_nil {io : SendFile} (hmax : 8 < io.maxPayload) {fuel : Nat}
    (hfuel : 1 ≤ fuel) {d : SendData} (hwin : d.inflight < d.win)
    (hlt : d.nextToSend < io.size) (hcursor : d.fileCursor = d.nextToSend)
    (hpos : d.pos = d.nextToSend) : (fillLoop io fuel d).2.1 ≠ [] := by
  obtain ⟨m, rfl⟩ : ∃ m, fuel = m + 1 := ⟨fuel - 1, by omega⟩
  have hread : d.readPos = d.nextToSend := by
    unfold SendData.readPos
    rw [if_neg (by rw [hcursor]; exact fun h => h rfl), hpos]
  obtain ⟨n, -, hsend⟩ := sendDataPacket_aligned (d.nextToSend == d.lastAcked) hmax hlt hread
  rw [fillLoop_succ]
  rw [if_pos ⟨hwin, hlt⟩, hsend]
  exact List.cons_ne_nil _ _

/-- **A new window.** -/
theorem Fillable.fill {io : SendFile} (hmax : 8 < io.maxPayload) {w : Nat} {d : SendData}
    (h : Fillable io w d) :
    ∃ ps d', fillAndWait io d = (ps, .wait d') ∧ ps ≠ [] ∧ Window io w ps d' := by
  have hlt := h.lt
  have hrun := fillLoop_run hmax d.win (d := d) (by rw [h.next]; exact h.start_le)
    (by rw [h.next]; omega) (by rw [h.cursor, h.next]) (by rw [h.pos, h.next])
  have hfilled := fillLoop_filled io d.win d
  have hne := fillLoop_ne_nil hmax h.win_pos (d := d)
    (by rw [h.inflight]; exact h.win_pos) (by rw [h.next]; exact hlt) (by rw [h.cursor, h.next])
    (by rw [h.pos, h.next])
  refine ⟨(fillLoop io d.win d).2.1, { (fillLoop io d.win d).1 with
    targetAck := (fillLoop io d.win d).1.nextToSend,
    flow := { (fillLoop io d.win d).1.flow with inRetransmit := false } }, ?_, hne, ?_⟩
  · simp only [fillAndWait, hrun.no_error]
  · have hcov := hrun.covers
    rw [h.next] at hcov
    exact ⟨hfilled.lastAcked_eq.trans h.acked, hcov, rfl, hrun.cursor, hrun.pos, hrun.next_le,
      by show 1 ≤ (fillLoop io d.win d).1.win; rw [hfilled.win_eq]; exact h.win_pos,
      by
        have hflow := h.flow_ok
        rw [← hfilled.flow_eq] at hflow
        exact ⟨hflow.cap_lt, hflow.window_pos, hflow.window_le⟩⟩

/-! ## §3. One packet and its acknowledgement. -/

section Exchange

variable {c : DataParams}

/-- **The receiver takes the first packet**: it is appended and acknowledged. -/
theorem Window.receive (hc : c.Ok) {w : Nat} {p : Send} {ps : List Send} {d : SendData}
    (h : Window c.io w (p :: ps) d) {rd : RecvData} (hw : rd.written = w) :
    ∃ rd', onDataFrame c.rcvCfg c.io.mtu rd p.frame none
        = ([sendBare .dataAck (w + p.payload.length)], .wait rd')
      ∧ rd'.written = w + p.payload.length ∧ rd'.file = rd.file ++ p.payload := by
  have hsize := hc.size_lt
  cases h.covers with
  | cons hp hoff hps =>
      have hend := hp.end_le
      have hmod : (rd.written + p.payload.length) % 2 ^ 64 = w + p.payload.length := by
        rw [hw, Nat.mod_eq_of_lt (by omega)]
      have hin : ∀ rd₁ : RecvData, rd₁.written = w → rd₁.file = rd.file →
          ∃ rd', onData rd₁ ⟨.data, p.payload, p.payload.length,
              if p.includeDataOffset then p.offset else uint64Max⟩ none
              = ([sendBare .dataAck (w + p.payload.length)], .wait rd')
            ∧ rd'.written = w + p.payload.length ∧ rd'.file = rd.file ++ p.payload := by
        intro rd₁ hw₁ hf₁
        rw [onData_inOrder none (by
          cases hi : p.includeDataOffset with
          | true => exact Or.inr (by rw [hw₁]; exact hoff)
          | false => exact Or.inl rfl)]
        rcases onInOrder_cases rd₁ p.payload none with ⟨k, hk, heq⟩ | heq
        · unfold onInOrder at heq
          dsimp only [Option.filter_none] at heq
          -- no write is cut short here
          rw [show (if p.payload.length ≠ 0 then (none : Option Nat) else none) = none by
            split <;> rfl] at heq
          dsimp only at heq
          repeat' split at heq
          all_goals cases heq
        · rw [hw₁, ← hw, hmod] at heq
          exact ⟨_, heq, rfl, by rw [hf₁]⟩
      simp only [onDataFrame, hp.recv hc]
      exact hin _ hw rfl

/-- **The sender takes its acknowledgement**: it waits on, fills the next
window, or has everything acknowledged. -/
theorem Window.ack (hc : c.Ok) {w : Nat} {p : Send} {ps : List Send}
    {d : SendData} (h : Window c.io w (p :: ps) d) (hstart : c.io.resumeOff ≤ w) :
    let r := (onAckFrame c.sndCfg c.io d (sendBare .dataAck (w + p.payload.length)).frame).run c.io
    (ps ≠ [] ∧ ∃ d', r = ([], .wait d') ∧ Window c.io (w + p.payload.length) ps d')
    ∨ (ps = [] ∧ w + p.payload.length < c.io.size ∧ ∃ ps' d', r = (ps', .wait d') ∧ ps' ≠ []
        ∧ Window c.io (w + p.payload.length) ps' d')
    ∨ (ps = [] ∧ w + p.payload.length = c.io.size
        ∧ ∃ flow, r = ([], .complete flow) ∧ flow.Bounded) := by
  dsimp only
  have hmin := hc.mtu_min
  have hsize := hc.size_lt
  have hmax : 8 < c.io.maxPayload := by
    simp only [minPacketSize] at hmin
    simp only [SendFile.maxPayload, wireHeaderSize, wireTrailerSize]
    omega
  cases h.covers with
  | cons hp hoff hps =>
      have hpos := hp.payload_pos
      have hend := hp.end_le
      have hnext := h.next_le
      have hle := hps.le
      set off := w + p.payload.length with hoffset
      rw [onAckFrame_ack c.sndCfg d hmin (by omega)]
      have hgt : ¬ off ≤ d.lastAcked := by rw [h.acked]; omega
      have hflow : (advance c.sndCfg c.io d off).flow.Bounded := by
        have hrec := h.flow_ok.recordSuccess c.sndCfg.txFlow
        unfold advance
        dsimp only
        split
        · exact ⟨h.flow_ok.cap_lt, h.flow_ok.window_pos, h.flow_ok.window_le⟩
        · exact ⟨hrec.cap_lt, hrec.window_pos, hrec.window_le⟩
      unfold onDataAck
      rw [if_neg hgt]
      dsimp only
      by_cases hmore : off < d.nextToSend
      · -- the window is not acknowledged yet
        left
        refine ⟨?_, advance c.sndCfg c.io d off, ?_, ?_⟩
        · rintro rfl
          have := hps.end_eq
          omega
        · rw [if_pos (show (advance c.sndCfg c.io d off).lastAcked
            < (advance c.sndCfg c.io d off).targetAck from h.target ▸ hmore)]
          rfl
        · exact ⟨rfl, hps, h.target, h.cursor, h.pos, h.next_le, h.win_pos, hflow⟩
      · right
        have hall : off = d.nextToSend := by omega
        have hnil : ps = [] := hps.nil_of_eq hall.symm
        rw [if_neg (show ¬ (advance c.sndCfg c.io d off).lastAcked
          < (advance c.sndCfg c.io d off).targetAck from h.target ▸ hmore)]
        unfold dataLoop
        by_cases hlt : off < c.io.size
        · left
          rw [if_pos (show (advance c.sndCfg c.io d off).lastAcked < c.io.size from hlt)]
          have hfill : Fillable c.io off { advance c.sndCfg c.io d off with
              tries := windowTries c.sndCfg c.io (advance c.sndCfg c.io d off) } := by
            refine ⟨by omega, hlt, rfl, hall.symm, ?_, ?_, ?_, h.win_pos, hflow⟩
            · show d.fileCursor = off
              rw [h.cursor, hall]
            · show d.pos = off
              rw [h.pos, hall]
            · show ((if d.nextToSend > off then d.nextToSend - off else 0) + c.io.maxPayload - 1)
                / c.io.maxPayload % 2 ^ 32 = 0
              rw [if_neg (by omega), Nat.zero_add, Nat.div_eq_of_lt (by omega), Nat.zero_mod]
          obtain ⟨ps', d', hrun, hne, hwin⟩ := hfill.fill hmax
          exact ⟨hnil, hlt, ps', d', hrun, hne, hwin⟩
        · right
          rw [if_neg (show ¬ (advance c.sndCfg c.io d off).lastAcked < c.io.size from hlt)]
          exact ⟨hnil, by omega, _, rfl, hflow⟩

/-- **The first window.** -/
theorem startData_window (hc : c.Ok) {flow : Flow} (hflow : flow.Bounded) :
    ∃ ps d, startData c.sndCfg c.io flow = (ps, .wait d) ∧ ps ≠ []
      ∧ Window c.io c.io.resumeOff ps d := by
  have hmin := hc.mtu_min
  have hmax : 8 < c.io.maxPayload := by
    simp only [minPacketSize] at hmin
    simp only [SendFile.maxPayload, wireHeaderSize, wireTrailerSize]
    omega
  have hwin := hflow.window_pos
  unfold startData dataLoop
  rw [if_pos (show (initData c.io flow).lastAcked < c.io.size from hc.resume_lt)]
  refine Fillable.fill hmax ⟨Nat.le_refl _, hc.resume_lt, rfl, rfl, rfl, rfl, rfl, ?_, hflow⟩
  show 1 ≤ if flow.currentWindow ≠ 0 then flow.currentWindow
    else if flow.negotiatedWindow ≠ 0 then flow.negotiatedWindow else 1
  rw [if_pos (by omega)]
  exact hwin

/-- Nothing to send: the data loop is not entered. -/
theorem startData_all (cfg : Config) {io : SendFile} (h : io.resumeOff = io.size) (flow : Flow) :
    startData cfg io flow = ([], .complete flow) := by
  unfold startData dataLoop
  rw [if_neg (show ¬ (initData io flow).lastAcked < io.size from by
    show ¬ io.resumeOff < io.size
    omega)]
  rfl

end Exchange

end ValProtocol
