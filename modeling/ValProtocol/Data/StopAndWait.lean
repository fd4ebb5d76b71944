/-
  ValProtocol.Data.StopAndWait
  ────────────────────────────
  One file over a link that loses, copies and delays packets, with a window
  of one packet.

  Every fill then starts at the acknowledgement mark and sends one packet,
  so every DATA packet names its offset and the premise of `intact_run` holds
  by itself.  What has to be shown is that the mark is never overtaken: the
  receiver is at `last_acked` or one packet further, so an acknowledgement
  above `last_acked` is one for `next_to_send`.

    • `stopAndWait_integrity` — in every reachable state the receiver's file
      is the old content and a prefix of the sender's bytes, `last_acked` is
      backed by it, and once DONE is sent it is complete.
-/
import ValProtocol.Data.Windowed

namespace ValProtocol

/-! ## §1. A window of one packet. -/

/-- Flow control that can never open the window. -/
structure Flow.Single (fl : Flow) : Prop where
  negotiated_eq : fl.negotiatedWindow = 1
  current_eq : fl.currentWindow = 1

theorem Flow.Single.bounded {fl : Flow} (h : fl.Single) : fl.Bounded :=
  ⟨by rw [h.negotiated_eq]; decide, by rw [h.current_eq], by rw [h.current_eq, h.negotiated_eq]⟩

theorem Flow.Bounded.single {fl : Flow} (h : fl.Bounded) (h1 : fl.negotiatedWindow = 1) :
    fl.Single := by
  have hpos := h.window_pos
  have hle := h.window_le
  exact ⟨h1, by omega⟩

theorem Flow.Single.recordError {fl : Flow} (cfg : TxFlowConfig) (h : fl.Single) :
    (recordTransmissionError cfg fl).Single :=
  (h.bounded.recordError cfg).single (by simpa using h.negotiated_eq)

theorem Flow.Single.recordSuccess {fl : Flow} (cfg : TxFlowConfig) (h : fl.Single) :
    (recordTransmissionSuccess cfg fl).Single :=
  (h.bounded.recordSuccess cfg).single (by simpa using h.negotiated_eq)

/-- The end of the packet that starts at `off`. -/
def SendFile.packetEnd (io : SendFile) (off : Nat) : Nat :=
  min (off + (io.maxPayload - 8)) io.size

/-- The sender's locals while it waits for its one packet. -/
structure OneOk (io : SendFile) (d : SendData) : Prop where
  flow_single : d.flow.Single
  win_eq : d.win = 1
  acked_lt : d.lastAcked < io.size
  next_eq : d.nextToSend = io.packetEnd d.lastAcked
  target_eq : d.targetAck = d.nextToSend

/-- Ready to fill: at the mark, with nothing in flight. -/
structure OneReady (io : SendFile) (d : SendData) : Prop where
  flow_single : d.flow.Single
  win_eq : d.win = 1
  inflight_eq : d.inflight = 0
  acked_lt : d.lastAcked < io.size
  next_eq : d.nextToSend = d.lastAcked
  read_eq : d.readPos = d.nextToSend

/-- The one packet of a fill. -/
def SendFile.packetAt (io : SendFile) (off : Nat) : Send :=
  ⟨.data, (io.content.drop off).take (io.packetEnd off - off), off, true⟩

theorem SendFile.packetAt_length {io : SendFile} {off : Nat} (h : off < io.size) :
    (io.packetAt off).payload.length = io.packetEnd off - off := by
  simp only [packetAt, packetEnd, List.length_take, List.length_drop]
  simp only [SendFile.size] at h ⊢
  omega

/-- A fill sends the packet at the mark and nothing else. -/
theorem fillAndWait_one {io : SendFile} {d : SendData} (hmax : 8 < io.maxPayload)
    (h : OneReady io d) :
    ∃ d', fillAndWait io d = ([io.packetAt d.lastAcked], .wait d')
      ∧ d'.lastAcked = d.lastAcked ∧ OneOk io d' := by
  have hlt := h.acked_lt
  obtain ⟨n, hn, hsend⟩ := sendDataPacket_aligned true hmax
    (show d.nextToSend < io.size by rw [h.next_eq]; exact hlt) h.read_eq
  have hmark : (d.nextToSend == d.lastAcked) = true := by simp [h.next_eq]
  have hn' : n = io.packetEnd d.lastAcked - d.lastAcked := by
    rw [hn, h.next_eq, SendFile.packetEnd]
    simp only [if_true]
    omega
  have hguard : d.inflight < d.win ∧ d.nextToSend < io.size := by
    rw [h.inflight_eq, h.win_eq, h.next_eq]
    exact ⟨Nat.zero_lt_one, hlt⟩
  have hfill : fillLoop io 1 d = (d.sent n, [io.packetAt d.lastAcked], none) := by
    rw [fillLoop_succ, if_pos hguard, hmark, hsend, SendFile.packetAt, ← hn', h.next_eq]
    rfl
  refine ⟨{ d.sent n with
    targetAck := d.nextToSend + n, flow := { d.flow with inRetransmit := false } },
    ?_, rfl, ?_⟩
  · simp only [fillAndWait, h.win_eq, hfill]
    rfl
  · refine ⟨⟨h.flow_single.negotiated_eq, h.flow_single.current_eq⟩, h.win_eq, hlt, ?_, rfl⟩
    show d.nextToSend + n = io.packetEnd d.lastAcked
    have hle : d.lastAcked ≤ io.packetEnd d.lastAcked := by
      rw [SendFile.packetEnd]
      omega
    rw [hn', h.next_eq]
    omega

/-! ## §2. The joint invariant. -/

/-- DATA in flight relative to the mark: done with, or the current packet. -/
def FlightNear (d : SendData) (p : Send) : Prop :=
  p.offset + p.payload.length ≤ d.lastAcked
  ∨ (p.offset = d.lastAcked ∧ p.offset + p.payload.length = d.nextToSend)

/-- The receiver is at the mark or one packet further, and so is every
acknowledgement. -/
structure Near (s : DataSys) (d : SendData) : Prop where
  written_near : s.written = d.lastAcked ∨ s.written = d.nextToSend
  flight_near : ∀ p ∈ s.toRcv, p.type = .data → FlightNear d p
  acks_near : ∀ p ∈ s.toSnd, p.type = .dataAck →
    p.offset ≤ d.lastAcked ∨ p.offset = d.nextToSend

/-- Stop-and-wait. -/
structure Lockstep (c : DataParams) (e : Bytes) (s : DataSys) : Prop where
  intact : Intact c e s
  explicit : ∀ p ∈ s.toRcv, p.type = .data → p.includeDataOffset = true
  one_ok : ∀ d, s.snd = .data d → OneOk c.io d
  near : ∀ d, s.snd = .data d → Near s d

/-- Every packet names its offset, so each is taken in place. -/
theorem Lockstep.inPlace {c : DataParams} {e : Bytes} {s : DataSys} (h : Lockstep c e s)
    (l : DataLabel) : InPlace s l := by
  simp only [InPlace, DataSys.inPlace]
  split
  · split
    · rename_i p _ _ hto
      rw [decide_eq_true_eq]
      intro htype himp
      have hexp := h.explicit p (by rw [hto]; exact List.mem_cons_self) htype
      rw [hexp] at himp
      cases himp
    · rfl
  · rfl

/-! ## §3. Sender steps. -/

section Sender

variable {c : DataParams} {s : DataSys}

/-- What a sender step must deliver beyond `Intact`. -/
structure LockSent (c : DataParams) (s : DataSys) (r : List Send × SendPhase) : Prop where
  explicit : ∀ p ∈ r.1, p.type = .data → p.includeDataOffset = true
  one_ok : ∀ d, r.2 = .data d → OneOk c.io d
  near : ∀ d, r.2 = .data d → Near (s.sent r) d

theorem Lockstep.sent {e : Bytes} (h : Lockstep c e s) {r : List Send × SendPhase}
    (hi : Intact c e (s.sent r)) (hr : LockSent c s r) : Lockstep c e (s.sent r) := by
  refine ⟨hi, fun p hp ht => ?_, hr.one_ok, hr.near⟩
  rcases List.mem_append.mp hp with hp | hp
  · exact h.explicit p hp ht
  · exact hr.explicit p hp ht

/-- A step after which the sender is no longer in its data phase. -/
theorem LockSent.leave {r : List Send × SendPhase}
    (hno : ∀ p ∈ r.1, p.type = .data → p.includeDataOffset = true)
    (hph : ∀ d, r.2 ≠ .data d) : LockSent c s r :=
  ⟨hno, fun d hd => absurd hd (hph d), fun d hd => absurd hd (hph d)⟩

/-- And sends nothing. -/
theorem LockSent.quiet {ph : SendPhase} (hph : ∀ d, ph ≠ .data d) : LockSent c s ([], ph) :=
  .leave (fun _ hp => absurd hp List.not_mem_nil) hph

/-- And returns. -/
theorem LockSent.gone (st : Status) : LockSent c s ([], .returned st) :=
  .quiet fun _ hd => by cases hd

/-- Waiting on with the same mark. -/
theorem LockSent.stay {d d' : SendData} (hone : OneOk c.io d') (hnear : Near s d)
    (hla : d'.lastAcked = d.lastAcked) (hnext : d'.nextToSend = d.nextToSend) :
    LockSent c s (afterData c ((Move.stay d').run c.io)) := by
  refine ⟨fun p hp => absurd hp (List.not_mem_nil), fun d'' hd => ?_, fun d'' hd => ?_⟩
  · cases hd
    exact hone
  · cases hd
    refine ⟨?_, fun p hp ht => ?_, fun p hp ht => ?_⟩
    · rw [hla, hnext]
      exact hnear.written_near
    · have hp' : p ∈ s.toRcv := by simpa [DataSys.sent, afterData, Move.run] using hp
      have := hnear.flight_near p hp' ht
      rw [FlightNear, hla, hnext]
      exact this
    · rw [hla, hnext]
      exact hnear.acks_near p hp ht

/-- A fill from a mark that everything in flight has reached. -/
theorem LockSent.fill {d : SendData} (hmax : 8 < c.io.maxPayload) (hr : OneReady c.io d)
    (hw : s.written = d.lastAcked ∨ s.written = c.io.packetEnd d.lastAcked)
    (hflight : ∀ p ∈ s.toRcv, p.type = .data →
      p.offset + p.payload.length ≤ d.lastAcked
      ∨ (p.offset = d.lastAcked ∧ p.offset + p.payload.length = c.io.packetEnd d.lastAcked))
    (hacks : ∀ p ∈ s.toSnd, p.type = .dataAck →
      p.offset ≤ d.lastAcked ∨ p.offset = c.io.packetEnd d.lastAcked) :
    LockSent c s (afterData c ((Move.fill d).run c.io)) := by
  obtain ⟨d', heq, hla, hone⟩ := fillAndWait_one hmax hr
  have hrun : afterData c ((Move.fill d).run c.io)
      = ([c.io.packetAt d.lastAcked], .data d') := by
    simp only [Move.run, heq, afterData]
  have hnext : d'.nextToSend = c.io.packetEnd d.lastAcked := by
    rw [hone.next_eq, hla]
  rw [hrun]
  refine ⟨fun p hp _ => ?_, fun d'' hd => ?_, fun d'' hd => ?_⟩
  · rw [List.mem_singleton] at hp
    subst hp
    rfl
  · cases hd
    exact hone
  · cases hd
    refine ⟨?_, fun p hp ht => ?_, fun p hp ht => ?_⟩
    · rw [hla, hnext]
      exact hw
    · rw [FlightNear, hla, hnext]
      rcases List.mem_append.mp hp with hp | hp
      · exact hflight p hp ht
      · rw [List.mem_singleton] at hp
        subst hp
        refine Or.inr ⟨rfl, ?_⟩
        rw [SendFile.packetAt_length hr.acked_lt]
        show d.lastAcked + _ = _
        have : d.lastAcked ≤ c.io.packetEnd d.lastAcked := by
          have := hr.acked_lt
          rw [SendFile.packetEnd]
          omega
        omega
    · rw [hla, hnext]
      exact hacks p hp ht

/-- The sender takes an acknowledgement. -/
theorem lock_onFrame {e : Bytes} (hc : c.Ok) (hmax : 8 < c.io.maxPayload)
    (h : Lockstep c e s) {p : Send} (hack : AckOk s.written p)
    (hnear : ∀ d, s.snd = .data d → p.type = .dataAck →
      p.offset ≤ d.lastAcked ∨ p.offset = d.nextToSend) :
    LockSent c s (s.snd.onFrame c p.frame) := by
  obtain ⟨off, hoff, hp⟩ := hack
  have hsize := hc.size_lt
  have hw : s.written ≤ c.io.size := h.intact.file_ok.written_le
  cases hs : s.snd with
  | doneWait n flow =>
      simp only [SendPhase.onFrame]
      split
      · exact .gone _
      · split
        · exact .gone _
        · exact .quiet fun _ hd => by cases hd
  | returned st => exact .gone st
  | data d =>
      have hone := h.one_ok d hs
      have hn := h.near d hs
      have hsend := h.intact.snd_ok d hs
      rcases hp with rfl | rfl
      · rw [SendPhase.onFrame, onAckFrame_ack c.sndCfg d hc.mtu_min (by omega)]
        by_cases hst : off ≤ d.lastAcked
        · simp only [onDataAck, hst, if_true]
          exact .stay ⟨hone.flow_single, hone.win_eq, hone.acked_lt, hone.next_eq,
            hone.target_eq⟩ hn rfl rfl
        · -- the only thing it can acknowledge is the packet in flight
          have hnext : off = d.nextToSend := (hnear d hs rfl).resolve_left hst
          have hwr : s.written = d.nextToSend := by
            rcases hn.written_near with hw' | hw'
            · omega
            · exact hw'
          have hflow : (advance c.sndCfg c.io d off).flow.Single := by
            show Flow.Single { (if d.flow.inRetransmit then d.flow
              else recordTransmissionSuccess c.sndCfg.txFlow d.flow) with inRetransmit := false }
            split
            · exact ⟨hone.flow_single.negotiated_eq, hone.flow_single.current_eq⟩
            · have hfs := hone.flow_single.recordSuccess c.sndCfg.txFlow
              exact ⟨hfs.negotiated_eq, hfs.current_eq⟩
          have htarget : ¬ (advance c.sndCfg c.io d off).lastAcked
              < (advance c.sndCfg c.io d off).targetAck := by
            show ¬ off < d.targetAck
            have := hone.target_eq
            omega
          simp only [onDataAck, hst, htarget, if_false, dataLoop]
          split
          · rename_i hlt
            have hlt' : off < c.io.size := hlt
            have hinfl : (advance c.sndCfg c.io d off).inflight = 0 := by
              show ((if d.nextToSend > off then d.nextToSend - off else 0)
                + c.io.maxPayload - 1) / c.io.maxPayload % 2 ^ 32 = 0
              rw [if_neg (by omega), Nat.div_eq_of_lt (by omega), Nat.zero_mod]
            refine LockSent.fill hmax
              ⟨hflow, hone.win_eq, hinfl, hlt', hnext.symm, ?_⟩ ?_ ?_ ?_
            · exact hsend.readPos_eq
            · left
              show s.written = off
              rw [hwr, hnext]
            · intro q hq ht
              left
              show q.offset + q.payload.length ≤ off
              rcases hn.flight_near q hq ht with hle | ⟨-, heq⟩
              · omega
              · omega
            · intro q hq ht
              left
              show q.offset ≤ off
              rcases hn.acks_near q hq ht with hle | heq
              · omega
              · omega
          · exact .leave (fun q hq ht => by
              rw [show q = sendBare .done c.io.size by
                simpa [afterData, Move.run] using hq] at ht
              cases ht) fun _ hd => by cases hd
      · rw [SendPhase.onFrame, onAckFrame_doneAck hc d (by omega)]
        exact .stay hone hn rfl rfl

/-- The sender times out. -/
theorem lock_onTimeout {e : Bytes} (hc : c.Ok) (hmax : 8 < c.io.maxPayload)
    (h : Lockstep c e s) : LockSent c s (s.snd.onTimeout c) := by
  have hsize := hc.size_lt
  cases hs : s.snd with
  | doneWait n flow =>
      simp only [SendPhase.onTimeout]
      split
      · exact .gone _
      · exact .leave (fun p hp ht => by
          rw [List.mem_singleton.mp hp] at ht
          cases ht) fun _ hd => by cases hd
  | returned st => exact .gone st
  | data d =>
      have hone := h.one_ok d hs
      have hn := h.near d hs
      have hlt := hone.acked_lt
      have hnext := hone.next_eq
      simp only [SendPhase.onTimeout, onAckTimeout]
      split
      · exact .gone _
      · have hfs := hone.flow_single.recordError c.sndCfg.txFlow
        refine LockSent.fill hmax ⟨⟨hfs.negotiated_eq, hfs.current_eq⟩, ?_, rfl, hlt, rfl, ?_⟩
          ?_ ?_ ?_
        · show Flow.window { recordTransmissionError c.sndCfg.txFlow d.flow with
            inRetransmit := true } = 1
          simp only [Flow.window, hfs.current_eq]
          rfl
        · -- the handle is put back to the mark
          have hpos : (if d.pos ≠ d.lastAcked
              then fseekSet d.pos (toSigned 64 d.lastAcked) else d.pos) = d.lastAcked := by
            split
            · exact fseekSet_of_lt (by omega) _
            · rename_i hp
              simpa using hp
          simp only [SendData.readPos, rewind, ne_eq, not_true_eq_false, if_false]
          simpa using hpos
        · show s.written = d.lastAcked ∨ s.written = c.io.packetEnd d.lastAcked
          rw [← hnext]
          exact hn.written_near
        · intro q hq ht
          show q.offset + q.payload.length ≤ d.lastAcked ∨ (q.offset = d.lastAcked
            ∧ q.offset + q.payload.length = c.io.packetEnd d.lastAcked)
          rw [← hnext]
          exact hn.flight_near q hq ht
        · intro q hq ht
          show q.offset ≤ d.lastAcked ∨ q.offset = c.io.packetEnd d.lastAcked
          rw [← hnext]
          exact hn.acks_near q hq ht

end Sender

/-! ## §4. Receiver steps and the environment. -/

/-- What one explicit DATA packet does to the receiver's position, and what
it is answered with. -/
theorem onDataFrame_position {c : DataParams} (hc : c.Ok) {d : RecvData} {p : Send} (hp : FlightOk c.io d.written p)
    (hexp : p.includeDataOffset = true) (short : Option Nat) :
    ((onDataFrame c.rcvCfg c.io.mtu d p.frame short).2.data.written = d.written
      ∨ (p.offset = d.written
        ∧ (onDataFrame c.rcvCfg c.io.mtu d p.frame short).2.data.written
          = d.written + p.payload.length))
    ∧ ∀ q ∈ (onDataFrame c.rcvCfg c.io.mtu d p.frame short).1,
        q.offset = (onDataFrame c.rcvCfg c.io.mtu d p.frame short).2.data.written := by
  have hsize := hc.size_lt
  have hend := hp.1.end_le
  have hle := hp.2 hexp
  simp only [onDataFrame, hp.1.recv hc, hexp, if_true]
  by_cases hin : p.offset = d.written
  · rw [onData_inOrder _ (Or.inr hin)]
    simp only
    have hmod : (d.written + p.payload.length) % 2 ^ 64 = d.written + p.payload.length :=
      Nat.mod_eq_of_lt (by omega)
    rcases onInOrder_cases { d with tries := c.rcvCfg.retries.dataRetries } p.payload short
      with ⟨k, -, heq⟩ | heq
    · rw [heq]
      exact ⟨Or.inl rfl, fun q hq => absurd hq (List.not_mem_nil)⟩
    · rw [heq]
      refine ⟨Or.inr ⟨hin, hmod⟩, fun q hq => ?_⟩
      rw [List.mem_singleton] at hq
      subst hq
      rfl
  · have hoff : p.offset ≠ uint64Max := by simp only [uint64Max]; omega
    obtain ⟨d', hd', -, hwr, -, hsends⟩ := onData_behind
      (d := { d with tries := c.rcvCfg.retries.dataRetries })
      (p := ⟨.data, p.payload, p.payload.length, p.offset⟩) short hoff
      (show p.offset < d.written by omega)
    rw [hd']
    refine ⟨Or.inl hwr, fun q hq => ?_⟩
    rw [hsends q hq]
    exact hwr.symm

/-- A receiver step that moves at most to the end of the packet in flight. -/
theorem Lockstep.answered {c : DataParams} {e : Bytes} {s : DataSys} (h : Lockstep c e s)
    {r : List Send × RecvResult} (hi : Intact c e (s.answered r))
    (hpos : ∀ d, s.snd = .data d →
      r.2.data.written = d.lastAcked ∨ r.2.data.written = d.nextToSend)
    (hacks : ∀ q ∈ r.1, q.type = .dataAck → q.offset = r.2.data.written) :
    Lockstep c e (s.answered r) := by
  refine ⟨hi, h.explicit, h.one_ok, fun d hd => ?_⟩
  have hn := h.near d hd
  refine ⟨hpos d hd, hn.flight_near, fun q hq ht => ?_⟩
  rcases List.mem_append.mp hq with hq | hq
  · exact hn.acks_near q hq ht
  · rw [hacks q hq ht]
    exact (hpos d hd).imp Nat.le_of_eq id

theorem Lockstep.channels {c : DataParams} {e : Bytes} {s : DataSys} (h : Lockstep c e s)
    (toRcv toSnd : List Send) (h1 : ∀ p ∈ toRcv, p ∈ s.toRcv)
    (h2 : ∀ p ∈ toSnd, p ∈ s.toSnd) :
    Lockstep c e { s with toRcv := toRcv, toSnd := toSnd } :=
  ⟨h.intact.channels _ _ h1 h2, fun p hp => h.explicit p (h1 p hp), h.one_ok, fun d hd =>
    ⟨(h.near d hd).written_near, fun p hp => (h.near d hd).flight_near p (h1 p hp),
      fun p hp => (h.near d hd).acks_near p (h2 p hp)⟩⟩

/-- **One step.** -/
theorem lockstep_step {c : DataParams} (hc : c.Ok) (hmax : 8 < c.io.maxPayload) {e : Bytes}
    {s s' : DataSys} {l : DataLabel} (h : Lockstep c e s) (hs : s.step c l = some s') :
    Lockstep c e s' := by
  have hi := intact_step hc h.intact (h.inPlace l) hs
  cases l with
  | sndRecv =>
      simp only [DataSys.step] at hs
      split at hs
      · cases hs
      rename_i p rest hto
      split at hs
      · cases hs
      · cases hs
        have hmem : p ∈ s.toSnd := by rw [hto]; exact List.mem_cons_self
        have h' := h.channels s.toRcv rest (fun p hp => hp)
          (fun q hq => by rw [hto]; exact List.mem_cons_of_mem p hq)
        exact h'.sent hi (lock_onFrame hc hmax h' (h.intact.acks_ok p hmem)
          fun d hd => (h.near d hd).acks_near p hmem)
  | sndTimeout =>
      simp only [DataSys.step] at hs
      split at hs
      · cases hs
      · cases hs
        exact h.sent hi (lock_onTimeout hc hmax h)
  | rcvRecv short =>
      simp only [DataSys.step] at hs
      split at hs
      · rename_i d p rest hrcv hto
        cases hs
        have hmem : p ∈ s.toRcv := by rw [hto]; exact List.mem_cons_self
        have h' := h.channels rest s.toSnd
          (fun q hq => by rw [hto]; exact List.mem_cons_of_mem p hq) (fun q hq => hq)
        have hw : s.written = d.written := by rw [DataSys.written, hrcv]; rfl
        rcases h.intact.flight_ok p hmem with hp | rfl
        · rw [hw] at hp
          have hexp := h.explicit p hmem hp.1.type_eq
          obtain ⟨hpos, hacks⟩ := onDataFrame_position hc hp hexp short
          refine h'.answered hi (fun ds hds => ?_) fun q hq _ => hacks q hq
          have hn := h.near ds hds
          rcases hpos with hsame | ⟨hoff, hnew⟩
          · rw [hsame, ← hw]
            exact hn.written_near
          · -- only the packet at the mark is in order
            right
            have hla := (h.intact.snd_ok ds hds).acked_le
            have hlen := hp.1.payload_pos
            rcases hn.flight_near p hmem hp.1.type_eq with hold | ⟨-, hcur⟩
            · omega
            · omega
        · have hdone := onDataFrame_done hc d short
          refine h'.answered hi (fun ds hds => ?_) fun q hq ht => ?_
          · rw [hdone]
            show d.written = _ ∨ d.written = _
            rw [← hw]
            exact (h.near ds hds).written_near
          · rw [hdone, List.mem_singleton] at hq
            subst hq
            cases ht
      · cases hs
  | rcvTimeout =>
      simp only [DataSys.step] at hs
      split at hs
      · rename_i d hrcv
        cases hs
        have hw : s.written = d.written := by rw [DataSys.written, hrcv]; rfl
        have hkeep : (onDataTimeout d).2.data.written = d.written
            ∧ (onDataTimeout d).1 = [] := by
          simp only [onDataTimeout]
          split <;> exact ⟨rfl, rfl⟩
        refine h.answered hi (fun ds hds => ?_) fun q hq => ?_
        · rw [hkeep.1, ← hw]
          exact (h.near ds hds).written_near
        · rw [hkeep.2] at hq
          exact absurd hq (List.not_mem_nil)
      · cases hs
  | loseToRcv i | loseToSnd i | copyToRcv i j | copyToSnd i j =>
      obtain ⟨toRcv, toSnd, rfl, h1, h2⟩ := env_step rfl hs
      exact h.channels toRcv toSnd h1 h2

/-! ## §5. Whole runs. -/

theorem DataParams.Ok.maxPayload_gt {c : DataParams} (hc : c.Ok) : 8 < c.io.maxPayload := by
  have := hc.mtu_min
  simp only [minPacketSize] at this
  simp only [SendFile.maxPayload, wireHeaderSize, wireTrailerSize]
  omega

theorem lockstep_init {c : DataParams} (hc : c.Ok) {flow : Flow} (hf : flow.Single)
    (e : Bytes) : Lockstep c e (DataSys.init c flow e) := by
  have hlt : (initData c.io flow).lastAcked < c.io.size := hc.resume_lt
  have hwin : (initData c.io flow).win = 1 := by
    simp only [initData, hf.current_eq, ne_eq, Nat.one_ne_zero, not_false_eq_true, if_true]
  have hready : OneReady c.io { initData c.io flow with
      tries := windowTries c.sndCfg c.io (initData c.io flow) } := by
    refine ⟨hf, hwin, rfl, hlt, rfl, ?_⟩
    simp only [SendData.readPos, initData, ne_eq, not_true_eq_false, if_false]
  obtain ⟨d, heq, hla, hone⟩ := fillAndWait_one hc.maxPayload_gt hready
  have hstart : startData c.sndCfg c.io flow
      = ([c.io.packetAt c.io.resumeOff], .wait d) := by
    simp only [startData, dataLoop, hlt, if_true, Move.run, heq]
    rfl
  have hla' : d.lastAcked = c.io.resumeOff := hla
  have hsys : (DataSys.init c flow e).snd = .data d
      ∧ (DataSys.init c flow e).toRcv = [c.io.packetAt c.io.resumeOff]
      ∧ (DataSys.init c flow e).toSnd = [] := by
    refine ⟨?_, ?_, ?_⟩ <;> simp only [DataSys.init, hstart, afterData]
  obtain ⟨h1, h2, h3⟩ := hsys
  refine ⟨intact_init hc flow e, fun p hp ht => ?_, fun d' hd' => ?_, fun d' hd' => ?_⟩
  · rw [h2, List.mem_singleton] at hp
    subst hp
    rfl
  · rw [h1] at hd'
    cases hd'
    exact hone
  · rw [h1] at hd'
    cases hd'
    refine ⟨Or.inl hla'.symm, fun p hp ht => ?_, fun p hp => ?_⟩
    · rw [h2, List.mem_singleton] at hp
      subst hp
      refine Or.inr ⟨hla'.symm, ?_⟩
      rw [SendFile.packetAt_length hc.resume_lt, hone.next_eq, hla']
      show c.io.resumeOff + _ = _
      have hle : c.io.resumeOff ≤ c.io.packetEnd c.io.resumeOff := by
        have := hc.resume_lt
        rw [SendFile.packetEnd]
        omega
      omega
    · rw [h3] at hp
      exact absurd hp (List.not_mem_nil)

theorem lockstep_run {c : DataParams} (hc : c.Ok) {flow : Flow} (hf : flow.Single)
    (e : Bytes) {s : DataSys}
    (h : Lts.Reach (DataSys.step c) (fun _ _ => True) (DataSys.init c flow e) s) :
    Lockstep c e s :=
  h.invariant (lockstep_init hc hf e) fun _ _ _ hi _ hs =>
    lockstep_step hc hc.maxPayload_gt hi hs

/-- **Stop-and-wait integrity.**  With a negotiated window of one packet, in
every state reached over a link that may lose, copy and delay packets: the
receiver's file is its first `resume_off` bytes and a prefix of the sender's
bytes from there, `last_acked` does not exceed its length, and once DONE has
been sent it is complete and exact. -/
theorem stopAndWait_integrity {c : DataParams} (hc : c.Ok) {flow : Flow}
    (hflow : flow.Bounded) (hwin : flow.negotiatedWindow = 1) {e : Bytes}
    (he : e.length = c.io.resumeOff) {s : DataSys}
    (h : Lts.Reach (DataSys.step c) (fun _ _ => True) (DataSys.init c flow e) s) :
    (∃ p, p <+: c.io.content.drop c.io.resumeOff ∧ s.rcv.data.file = e ++ p)
    ∧ (∀ d, s.snd = .data d → d.lastAcked ≤ s.rcv.data.file.length)
    ∧ (s.doneSent = true → s.rcv.data.file = e ++ c.io.content.drop c.io.resumeOff) := by
  have hi := (lockstep_run hc (hflow.single hwin) e h).intact
  obtain ⟨k, hfile, hw, hk, -⟩ := hi.file_ok.file_eq
  refine ⟨⟨_, List.take_prefix k _, hfile⟩, fun d hd => ?_, hi.complete⟩
  have hla : d.lastAcked ≤ s.rcv.data.written := (hi.snd_ok d hd).acked_le
  rw [hfile, List.length_append, he, List.length_take, List.length_drop]
  simp only [SendFile.size] at hk
  omega

/-- Four bytes, two of them there already. -/
def shortTransfer : DataParams where
  sndCfg := quickDegrade
  rcvCfg := quickDegrade
  io := { content := [7, 8, 9, 10], mtu := 512, resumeOff := 2 }

/-- The packet is lost, repeated, copied and delivered twice. -/
theorem stopAndWait_lossy_run :
    ∃ s : DataSys, Lts.Reach (DataSys.step shortTransfer) (fun _ _ => True)
        (DataSys.init shortTransfer ⟨1, 1, 0, 0, false⟩ [7, 8]) s
      ∧ s.doneSent = true ∧ s.rcv.data.file = [7, 8] ++ [9, 10] := by
  have hc : shortTransfer.Ok := ⟨by decide, by decide, by decide, by decide⟩
  have hflow : (⟨1, 1, 0, 0, false⟩ : Flow).Bounded := ⟨by decide, by decide, by decide⟩
  have hrun : (([.loseToRcv 0, .sndTimeout, .copyToRcv 0 1, .rcvRecv none, .rcvRecv none,
      .sndRecv] : List DataLabel).foldlM
        (Lts.checked (DataSys.step shortTransfer) (fun _ _ => true))
        (DataSys.init shortTransfer ⟨1, 1, 0, 0, false⟩ [7, 8])).map DataSys.doneSent
      = some true := by
    decide +kernel
  obtain ⟨s, hs, hdone⟩ := Option.map_eq_some_iff.mp hrun
  have hreach := (Lts.Reach.of_foldlM hs).mono (fun _ _ _ => trivial)
  exact ⟨s, hreach, hdone, (stopAndWait_integrity hc hflow rfl rfl hreach).2.2 hdone⟩

end ValProtocol
