/-
  ValProtocol.Data.Sender
  ───────────────────────
  The sender's data phase (`src/val_sender.c`): `send_data_packet` (lines
  258-315), the window-fill loop of `send_file_data_adaptive` (lines
  757-911), `wait_for_window_ack` (lines 404-578) and
  `handle_nak_retransmit` (lines 317-347).

  The sender blocks only in `wait_for_window_ack`.  One step of the model is
  what happens there on one event, a frame or a timeout, up to the next time
  it blocks: `onAckFrame` and `onAckTimeout` decide the `Move`, and
  `Move.run` carries it out, returning the packets handed to
  `val_internal_send_packet` on the way and where the sender stands then.
-/
import ValProtocol.Wire.RoundTrip
import ValProtocol.Session.Config

namespace ValProtocol

/-! ## §1. Seeking. -/

/-- `(long)v` and `(int64_t)v` for an unsigned `v`: two's complement. -/
def toSigned (bits : Nat) (v : Nat) : Int := Int.bmod v (2 ^ bits)

/-- `fseek(f, target, SEEK_SET)`: a negative target is refused and leaves the
position alone; every caller here ignores the result. -/
def fseekSet (pos : Nat) (target : Int) : Nat := if target < 0 then pos else target.toNat

/-! ## §2. `send_data_packet`. -/

/-- What stays fixed while one file is sent. -/
structure SendFile where
  /-- the content behind the file handle; `file_size` is its length -/
  content : Bytes
  /-- the effective packet size -/
  mtu : Nat
  resumeOff : Nat
  deriving Repr, DecidableEq

def SendFile.size (io : SendFile) : Nat := io.content.length

/-- `max_payload`. -/
def SendFile.maxPayload (io : SendFile) : Nat := io.mtu - wireHeaderSize - wireTrailerSize

/-- The locals of `send_file_data_adaptive` and the session's flow state.
`pos` is the real position of the file handle, `fileCursor` the one the code
tracks. -/
structure SendData where
  lastAcked : Nat
  nextToSend : Nat
  inflight : Nat
  win : Nat
  tries : Nat
  targetAck : Nat
  firstAckGrace : Bool
  fileCursor : Nat
  pos : Nat
  flow : Flow
  deriving Repr, DecidableEq

/-- `send_data_packet`: the new state and the packet sent, if any. -/
def sendDataPacket (io : SendFile) (d : SendData) (includeOffset : Bool) :
    Except Status (SendData × Option Send) :=
  if io.maxPayload = 0 then .error .invalidArg
  else if d.nextToSend ≥ io.size then .ok (d, none)
  else if includeOffset ∧ io.maxPayload ≤ 8 then .error .invalidArg
  else
    let remaining := io.size - d.nextToSend
    let maxThis := if includeOffset then io.maxPayload - 8 else io.maxPayload
    let toRead := if remaining < maxThis then remaining else maxThis
    if toRead = 0 then .ok (d, none)
    else
      let pos := if d.fileCursor ≠ d.nextToSend
        then fseekSet d.pos (toSigned 64 d.nextToSend) else d.pos
      let bytes := (io.content.drop pos).take toRead
      if bytes.length ≠ toRead then .error .io
      else
        match encodeFrame io.mtu .data bytes d.nextToSend includeOffset with
        | .error st => .error st
        | .ok _ =>
            .ok ({ d with
                nextToSend := d.nextToSend + toRead,
                fileCursor := d.nextToSend + toRead,
                pos := pos + toRead,
                inflight := d.inflight + 1 },
              some ⟨.data, bytes, d.nextToSend, includeOffset⟩)

/-- The fill loop: `while (inflight < win && next_to_send < size)`.  Every
round that goes on sends a packet, so `win` rounds are enough. -/
def fillLoop (io : SendFile) : Nat → SendData → SendData × List Send × Option Status
  | 0, d => (d, [], none)
  | fuel + 1, d =>
      if d.inflight < d.win ∧ d.nextToSend < io.size then
        match sendDataPacket io d (d.nextToSend == d.lastAcked) with
        | .error st => (d, [], some st)
        | .ok (d', sent) =>
            let rest := fillLoop io fuel d'
            (rest.1, sent.toList ++ rest.2.1, rest.2.2)
      else (d, [], none)

/-- One round of the fill loop. -/
theorem fillLoop_succ (io : SendFile) (fuel : Nat) (d : SendData) :
    fillLoop io (fuel + 1) d
      = if d.inflight < d.win ∧ d.nextToSend < io.size then
          match sendDataPacket io d (d.nextToSend == d.lastAcked) with
          | .error st => (d, [], some st)
          | .ok (d', sent) =>
              let rest := fillLoop io fuel d'
              (rest.1, sent.toList ++ rest.2.1, rest.2.2)
        else (d, [], none) := rfl

/-! ## §3. Between two waits. -/

/-- Where the data phase stands: blocked in `wait_for_window_ack`, past the
`while (last_acked < size)` loop, or returned with an error. -/
inductive DataResult where
  | wait (d : SendData)
  | complete (flow : Flow)
  | fail (st : Status)
  deriving Repr, DecidableEq

/-- What an event makes the sender do next: wait on, start the fill loop,
leave the data loop, or return. -/
inductive Move where
  | stay (d : SendData)
  | fill (d : SendData)
  | finish (flow : Flow)
  | stop (st : Status)
  deriving Repr, DecidableEq

/-- One round of the inner `for (;;)` up to its wait: fill the window and set
the ACK to wait for. -/
def fillAndWait (io : SendFile) (d : SendData) : List Send × DataResult :=
  let r := fillLoop io d.win d
  match r.2.2 with
  | some st => (r.2.1, .fail st)
  | none =>
      (r.2.1, .wait { r.1 with
        targetAck := r.1.nextToSend, flow := { r.1.flow with inRetransmit := false } })

/-- Up to the next wait. -/
def Move.run (io : SendFile) : Move → List Send × DataResult
  | .stay d => ([], .wait d)
  | .fill d => fillAndWait io d
  | .finish flow => ([], .complete flow)
  | .stop st => ([], .fail st)

/-- The retry budget a fresh window starts with. -/
def windowTries (cfg : Config) (io : SendFile) (d : SendData) : Nat :=
  let tries := if cfg.retries.ackRetries ≠ 0 then cfg.retries.ackRetries else 1
  let extra := if io.resumeOff > 0 then min (io.resumeOff / (256 * 1024 * 1024)) 6 else 0
  if d.firstAckGrace ∧ d.lastAcked = io.resumeOff then (tries + extra) % 2 ^ 8 else tries

/-- The head of `while (last_acked < size)`. -/
def dataLoop (cfg : Config) (io : SendFile) (d : SendData) : Move :=
  if d.lastAcked < io.size then .fill { d with tries := windowTries cfg io d }
  else .finish d.flow

/-- The locals when the data phase begins. -/
def initData (io : SendFile) (flow : Flow) : SendData where
  lastAcked := io.resumeOff
  nextToSend := io.resumeOff
  inflight := 0
  -- `win` at the top of the function: current, else negotiated, else 1
  win := if flow.currentWindow ≠ 0 then flow.currentWindow
    else if flow.negotiatedWindow ≠ 0 then flow.negotiatedWindow else 1
  tries := 0
  targetAck := 0
  firstAckGrace := io.resumeOff > 0
  fileCursor := io.resumeOff
  pos := io.resumeOff
  flow := flow

/-- The data phase of a fresh file up to its first wait. -/
def startData (cfg : Config) (io : SendFile) (flow : Flow) : List Send × DataResult :=
  (dataLoop cfg io (initData io flow)).run io

/-! ## §4. `wait_for_window_ack`. -/

/-- `val_internal_recv_until_deadline` on a frame: the header is read first,
and only the payload of non-DATA packets is copied out. -/
def recvControl (mtu cap : Nat) (f : Frame) : Except Status Packet :=
  match recvFrame mtu none f with
  | .error st => .error st
  | .ok p =>
      if p.len > 0 ∧ p.type ≠ .data then
        if p.len ≤ cap then .ok { p with payload := f.content } else .error .invalidArg
      else .ok p

/-- Back to `last_acked` after a NAK or a timeout; `seek` is where the handle
is put when it is not there already. -/
def rewind (cfg : Config) (d : SendData) (seek : Int) : SendData :=
  let flow := { recordTransmissionError cfg.txFlow d.flow with inRetransmit := true }
  { d with
    flow := flow,
    pos := if d.pos ≠ d.lastAcked then fseekSet d.pos seek else d.pos,
    fileCursor := d.lastAcked, inflight := 0, nextToSend := d.lastAcked,
    win := flow.window }

/-- A DATA_ACK that advances `last_acked`. -/
def advance (cfg : Config) (io : SendFile) (d : SendData) (off : Nat) : SendData :=
  let flow := if d.flow.inRetransmit then d.flow
    else recordTransmissionSuccess cfg.txFlow d.flow
  let outstanding := if d.nextToSend > off then d.nextToSend - off else 0
  { d with
    firstAckGrace := false,
    lastAcked := off,
    inflight := (outstanding + io.maxPayload - 1) / io.maxPayload % 2 ^ 32,
    tries := cfg.retries.ackRetries,
    flow := { flow with inRetransmit := false } }

/-- A DATA_ACK at `off`. -/
def onDataAck (cfg : Config) (io : SendFile) (d : SendData) (off : Nat) : Move :=
  if off ≤ d.lastAcked then .stay { d with firstAckGrace := false }
  else
    let d := advance cfg io d off
    if d.lastAcked < d.targetAck then .stay d else dataLoop cfg io d

/-- A DATA_NAK asking for `off`. -/
def onDataNak (cfg : Config) (io : SendFile) (d : SendData) (off : Nat) : Move :=
  let d := { d with
    lastAcked := if off > d.lastAcked ∧ off ≤ io.size then off else d.lastAcked }
  .fill (rewind cfg d (toSigned cfg.longBits d.lastAcked))

/-- One frame in `wait_for_window_ack`. -/
def onAckFrame (cfg : Config) (io : SendFile) (d : SendData) (f : Frame) : Move :=
  match recvControl io.mtu 32 f with
  | .error st => .stop st
  | .ok p =>
      match p.type with
      | .cancel => .stop .aborted
      | .dataNak => onDataNak cfg io d p.off
      | .dataAck => onDataAck cfg io d p.off
      | .error => .stop .protocol
      | _ => .stay d

/-- The wait times out. -/
def onAckTimeout (cfg : Config) (d : SendData) : Move :=
  if d.tries = 0 then .stop .timeout
  else .fill { rewind cfg d (toSigned 64 d.lastAcked) with tries := d.tries - 1 }

/-! ## §5. What one packet and one fill can do. -/

/-- The position `send_data_packet` reads at. -/
def SendData.readPos (d : SendData) : Nat :=
  if d.fileCursor ≠ d.nextToSend then fseekSet d.pos (toSigned 64 d.nextToSend) else d.pos

/-- The state behind a packet of `n` bytes. -/
def SendData.sent (d : SendData) (n : Nat) : SendData :=
  { d with
    nextToSend := d.nextToSend + n, fileCursor := d.nextToSend + n,
    pos := d.readPos + n, inflight := d.inflight + 1 }

/-- **Inversion of `send_data_packet`.** -/
theorem sendDataPacket_cases {io : SendFile} {d d' : SendData} {b : Bool}
    {sent : Option Send} (h : sendDataPacket io d b = .ok (d', sent)) :
    (d' = d ∧ sent = none)
    ∨ ∃ n, 0 < n ∧ d.nextToSend + n ≤ io.size
        ∧ n + (if b then 8 else 0) ≤ io.maxPayload
        ∧ ((io.content.drop d.readPos).take n).length = n
        ∧ d' = d.sent n
        ∧ sent = some ⟨.data, (io.content.drop d.readPos).take n, d.nextToSend, b⟩ := by
  simp only [sendDataPacket] at h
  rw [← SendData.readPos] at h
  generalize hmax : (if b = true then io.maxPayload - 8 else io.maxPayload) = maxThis at h
  generalize hn : (if io.size - d.nextToSend < maxThis then io.size - d.nextToSend
    else maxThis) = n at h
  split at h
  · cases h
  split at h
  · cases h
    exact Or.inl ⟨rfl, rfl⟩
  rename_i hlt
  split at h
  · cases h
  rename_i hoff
  split at h
  · cases h
    exact Or.inl ⟨rfl, rfl⟩
  rename_i hn0
  split at h
  · cases h
  rename_i hlen
  rw [ne_eq, not_not] at hlen
  split at h
  · cases h
  · cases h
    have hleft : n ≤ io.size - d.nextToSend ∧ n ≤ maxThis := by
      rw [← hn]
      split <;> omega
    refine Or.inr ⟨n, by omega, by omega, ?_, hlen, rfl, rfl⟩
    -- the eight bytes of the offset count against the payload
    cases b with
    | true =>
        simp only [if_true, true_and, not_le] at hoff hmax ⊢
        omega
    | false =>
        simp only [Bool.false_eq_true, if_false] at hmax ⊢
        omega

/-- DATA that fits is sent: cutting the content makes it no longer. -/
theorem encodeFrame_data {P off : Nat} {bytes : Bytes} {b : Bool}
    (h : bytes.length + (if b then 8 else 0) ≤ P - wireHeaderSize - wireTrailerSize) :
    encodeFrame P .data bytes off b = .ok (buildFrame .data bytes off b) := by
  have hst : (stageContent .data bytes off b).length = bytes.length + (if b then 8 else 0) := by
    cases b with
    | true =>
        simp only [stageContent, if_true, List.length_append, LittleEndian.putLe_length]
        omega
    | false => rfl
  have hcut := cutContent_length (stageContent .data bytes off b)
  have hmod := Nat.mod_le (stageContent .data bytes off b).length (2 ^ 16)
  refine if_neg ?_
  simp only [buildFrame, hcut, gt_iff_lt, Nat.not_lt]
  omega

theorem encodeFrame_error {P : Nat} {type : PacketType} {payload : Bytes} {off : Nat}
    {b : Bool} {st : Status} (h : encodeFrame P type payload off b = .error st) :
    st = .invalidArg := by
  simp only [encodeFrame] at h
  split at h
  all_goals cases h
  rfl

/-- A packet is refused for its length, or its bytes cannot be read. -/
theorem sendDataPacket_error {io : SendFile} {d : SendData} {b : Bool} {st : Status}
    (h : sendDataPacket io d b = .error st) : st = .invalidArg ∨ st = .io := by
  simp only [sendDataPacket] at h
  rw [← SendData.readPos] at h
  -- how many bytes are read does not matter here
  generalize (if io.size - d.nextToSend
    < (if b = true then io.maxPayload - 8 else io.maxPayload) then io.size - d.nextToSend
    else if b = true then io.maxPayload - 8 else io.maxPayload) = n at h
  split at h
  · cases h
    exact Or.inl rfl
  split at h
  · cases h
  split at h
  · cases h
    exact Or.inl rfl
  split at h
  · cases h
  split at h
  · cases h
    exact Or.inr rfl
  split at h
  · rename_i st' henc
    cases h
    exact Or.inl (encodeFrame_error henc)
  · cases h

/-- The packet an aligned sender sends. -/
theorem sendDataPacket_aligned {io : SendFile} {d : SendData} (b : Bool)
    (hmax : 8 < io.maxPayload) (hlt : d.nextToSend < io.size)
    (hread : d.readPos = d.nextToSend) :
    ∃ n, n = min (io.size - d.nextToSend) (io.maxPayload - (if b then 8 else 0))
      ∧ sendDataPacket io d b
        = .ok (d.sent n, some ⟨.data, (io.content.drop d.nextToSend).take n,
            d.nextToSend, b⟩) := by
  refine ⟨_, rfl, ?_⟩
  have hmaxThis : (if b then io.maxPayload - 8 else io.maxPayload)
      = io.maxPayload - (if b then 8 else 0) := by cases b <;> rfl
  set n := min (io.size - d.nextToSend) (io.maxPayload - (if b then 8 else 0)) with hn
  have hmin : (if io.size - d.nextToSend < (if b then io.maxPayload - 8 else io.maxPayload)
      then io.size - d.nextToSend else (if b then io.maxPayload - 8 else io.maxPayload))
      = n := by
    rw [hmaxThis, hn]
    generalize io.maxPayload - (if b then 8 else 0) = m
    split <;> omega
  have hn0 : n ≠ 0 := by
    rw [hn]
    cases b <;> simp <;> omega
  have hlen : ((io.content.drop d.nextToSend).take n).length = n := by
    rw [List.length_take, List.length_drop]
    have : n ≤ io.size - d.nextToSend := by omega
    simp only [SendFile.size] at this
    omega
  have hf : encodeFrame io.mtu .data ((io.content.drop d.nextToSend).take n) d.nextToSend b
      = .ok (buildFrame .data ((io.content.drop d.nextToSend).take n) d.nextToSend b) := by
    apply encodeFrame_data
    have : n ≤ io.maxPayload - (if b then 8 else 0) := by omega
    rw [hlen]
    simp only [SendFile.maxPayload] at this hmax
    cases b
    all_goals
      simp only [if_true, Bool.false_eq_true, if_false] at this ⊢
      omega
  have h0 : io.maxPayload ≠ 0 := by omega
  have h1 : ¬ d.nextToSend ≥ io.size := by omega
  have h2 : ¬ (b = true ∧ io.maxPayload ≤ 8) := by omega
  simp only [sendDataPacket, h0, if_false, h1, h2, hmin, hn0]
  rw [← SendData.readPos, hread]
  simp only [hlen, ne_eq, not_true_eq_false, if_false, hf, SendData.sent, hread]

/-- The fill loop fails with the packet that it cannot send. -/
theorem fillLoop_error {io : SendFile} (fuel : Nat) {d : SendData} {st : Status}
    (h : (fillLoop io fuel d).2.2 = some st) :
    ∃ d' b, sendDataPacket io d' b = .error st := by
  induction fuel generalizing d with
  | zero => cases h
  | succ fuel ih =>
      rw [fillLoop_succ] at h
      split at h
      · split at h
        · rename_i hst
          cases h
          exact ⟨d, _, hst⟩
        · exact ih h
      · cases h

theorem fillAndWait_error {io : SendFile} {d : SendData} {st : Status}
    (h : (fillAndWait io d).2 = .fail st) : ∃ d' b, sendDataPacket io d' b = .error st := by
  simp only [fillAndWait] at h
  split at h
  · rename_i hst
    cases h
    exact fillLoop_error _ hst
  · cases h

/-- A move fails with its own status, or with that of a packet that cannot be
sent. -/
theorem Move.run_fail {io : SendFile} {m : Move} {st : Status} (h : (m.run io).2 = .fail st) :
    m = .stop st ∨ ∃ d b, sendDataPacket io d b = .error st := by
  cases m with
  | stay d => cases h
  | fill d => exact Or.inr (fillAndWait_error h)
  | finish flow => cases h
  | stop st' =>
      cases h
      exact Or.inl rfl

/-- **Invariant rule for the fill loop**: what every packet keeps, the loop
keeps, and every packet sent has what every packet has. -/
theorem fillLoop_rule {io : SendFile} {I : SendData → Prop} {S : Send → Prop}
    (hstep : ∀ d n, I d → 0 < n → d.nextToSend + n ≤ io.size →
      n + (if d.nextToSend == d.lastAcked then 8 else 0) ≤ io.maxPayload →
      ((io.content.drop d.readPos).take n).length = n →
      I (d.sent n)
      ∧ S ⟨.data, (io.content.drop d.readPos).take n, d.nextToSend,
            d.nextToSend == d.lastAcked⟩) :
    ∀ (fuel : Nat) (d : SendData), I d →
      I (fillLoop io fuel d).1 ∧ ∀ s ∈ (fillLoop io fuel d).2.1, S s := by
  intro fuel
  induction fuel with
  | zero =>
      intro d hd
      exact ⟨hd, fun s hs => absurd hs (List.not_mem_nil)⟩
  | succ fuel ih =>
      intro d hd
      rw [fillLoop_succ]
      split
      · cases hp : sendDataPacket io d (d.nextToSend == d.lastAcked) with
        | error st => exact ⟨hd, fun s hs => absurd hs (List.not_mem_nil)⟩
        | ok r =>
            obtain ⟨d', sent⟩ := r
            -- a round with no packet leaves the state alone
            rcases sendDataPacket_cases hp with
              ⟨rfl, rfl⟩ | ⟨n, hpos, hle, hmax, hlen, rfl, rfl⟩
            · simpa using ih d' hd
            · obtain ⟨hI, hS⟩ := hstep d n hd hpos hle hmax hlen
              obtain ⟨hI', hS'⟩ := ih _ hI
              refine ⟨hI', fun s hs => ?_⟩
              simp only [Option.toList_some, List.singleton_append, List.mem_cons] at hs
              rcases hs with rfl | hs
              · exact hS
              · exact hS' s hs
      · exact ⟨hd, fun s hs => absurd hs (List.not_mem_nil)⟩

/-- The fill loop moves `next_to_send` forward and touches nothing the
acknowledgements decide. -/
structure Filled (io : SendFile) (d d' : SendData) : Prop where
  lastAcked_eq : d'.lastAcked = d.lastAcked
  win_eq : d'.win = d.win
  tries_eq : d'.tries = d.tries
  flow_eq : d'.flow = d.flow
  nextToSend_le : d.nextToSend ≤ d'.nextToSend
  nextToSend_size : d.nextToSend ≤ io.size → d'.nextToSend ≤ io.size

theorem fillLoop_filled (io : SendFile) (fuel : Nat) (d : SendData) :
    Filled io d (fillLoop io fuel d).1 := by
  refine (fillLoop_rule (I := Filled io d) (S := fun _ => True) ?_ fuel d
    ⟨rfl, rfl, rfl, rfl, Nat.le_refl _, id⟩).1
  intro d' n h _ hle _ _
  refine ⟨⟨h.lastAcked_eq, h.win_eq, h.tries_eq, h.flow_eq, ?_, fun _ => hle⟩, trivial⟩
  exact Nat.le_trans h.nextToSend_le (Nat.le_add_right _ _)

/-- How `fillAndWait` ends. -/
theorem fillAndWait_cases (io : SendFile) (d : SendData) :
    (∃ st, (fillAndWait io d).2 = .fail st)
    ∨ (fillAndWait io d).2 = .wait { (fillLoop io d.win d).1 with
        targetAck := (fillLoop io d.win d).1.nextToSend,
        flow := { d.flow with inRetransmit := false } } := by
  have hflow := (fillLoop_filled io d.win d).flow_eq
  simp only [fillAndWait]
  split
  · exact Or.inl ⟨_, rfl⟩
  · rw [hflow]
    exact Or.inr rfl

theorem fillAndWait_sends (io : SendFile) (d : SendData) :
    (fillAndWait io d).1 = (fillLoop io d.win d).2.1 := by
  simp only [fillAndWait]
  split <;> rfl

/-! ## §6. Control frames in the waits. -/

theorem recvControl_refuses {mtu cap : Nat} {f : Frame} {st : Status}
    (h : recvControl mtu cap f = .error st) : st = .protocol ∨ st = .invalidArg := by
  unfold recvControl at h
  split at h
  · rename_i st' hst
    cases h
    exact recvFrame_refuses hst
  split at h
  · -- a payload, which has to fit the scratch buffer
    split at h
    · cases h
    · cases h
      exact Or.inr rfl
  · cases h

/-- A packet other than DATA that fits the scratch buffer is read whole. -/
theorem recvControl_send {s : Send} (hv : s.Valid) (hdata : s.type ≠ .data)
    {mtu cap : Nat} (hlt : s.staged.length < 2 ^ 16)
    (hfit : s.staged.length ≤ mtu - wireHeaderSize - wireTrailerSize)
    (hcap : s.staged.length ≤ cap) :
    recvControl mtu cap s.frame = .ok s.packet := by
  have hcut : s.frame.content = s.staged := cutContent_of_lt hlt
  have htype : PacketType.ofByte s.frame.type = s.type :=
    PacketType.ofByte_toByte hv.named
  have hex : s.explicitData = false := by
    simp only [Send.explicitData, Bool.and_eq_false_imp, beq_iff_eq]
    exact fun h => absurd h hdata
  have hdel := Send.staged_of_not_explicit hex
  simp only [recvControl, recvFrame, hcut, htype, frameOffset_frame hv hlt,
    Nat.not_lt.mpr hfit, if_false, ne_eq, hdata, not_false_eq_true, and_true, hcap,
    if_true]
  split
  · rw [Send.packet, ← hdel]
  · rename_i hz
    have hnil : s.staged = [] := List.length_eq_zero_iff.mp (by omega)
    rw [Send.packet, ← hdel, hnil]

/-- `val_internal_send_packet(s, type, NULL, 0, off)`. -/
def sendBare (type : PacketType) (off : Nat) : Send := ⟨type, [], off, true⟩

/-- `val_internal_send_packet_ex` with a NAK reason. -/
def sendNak (off : Nat) : Send := ⟨.dataNak, LittleEndian.putLe 4 1, off, false⟩

/-- An acknowledgement in any of the sender's waits. -/
theorem recvControl_ack {s : Send} (hv : s.Valid) (hack : s.isAck = true) {mtu cap : Nat}
    (hmtu : minPacketSize ≤ mtu) (hcap : 12 ≤ cap) :
    ∃ p, recvControl mtu cap s.frame = .ok p ∧ p.type = s.type ∧ p.off = s.offset := by
  have hlen := Send.staged_ack_length hack
  simp only [minPacketSize] at hmtu
  refine ⟨s.packet, recvControl_send hv ?_ (by omega) ?_ (by omega), rfl, ?_⟩
  · intro hd
    simp [Send.isAck, hd] at hack
  · simp only [wireHeaderSize, wireTrailerSize]
    omega
  · obtain ⟨type, payload, offset, incl⟩ := s
    cases type <;> first | rfl | cases hack

/-- A DATA_ACK reaches `onDataAck` with its offset. -/
theorem onAckFrame_ack (cfg : Config) {io : SendFile} (d : SendData) {off : Nat}
    (hmtu : minPacketSize ≤ io.mtu) (hoff : off < 2 ^ 64) :
    onAckFrame cfg io d (sendBare .dataAck off).frame = onDataAck cfg io d off := by
  obtain ⟨p, hp, ht, ho⟩ := recvControl_ack (s := sendBare .dataAck off) ⟨rfl, hoff⟩ rfl
    hmtu (show 12 ≤ 32 by omega)
  have ht' : p.type = .dataAck := ht
  have ho' : p.off = off := ho
  simp only [onAckFrame, hp, ht', ho']

/-- A DATA_NAK reaches `onDataNak` with its offset. -/
theorem onAckFrame_nak (cfg : Config) {io : SendFile} (d : SendData) {off : Nat}
    (hmtu : minPacketSize ≤ io.mtu) (hoff : off < 2 ^ 64) :
    onAckFrame cfg io d (sendNak off).frame = onDataNak cfg io d off := by
  obtain ⟨p, hp, ht, ho⟩ := recvControl_ack (s := sendNak off) ⟨rfl, hoff⟩ rfl
    hmtu (show 12 ≤ 32 by omega)
  have ht' : p.type = .dataNak := ht
  have ho' : p.off = off := ho
  simp only [onAckFrame, hp, ht', ho']

end ValProtocol
