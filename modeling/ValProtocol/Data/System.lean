/-
  ValProtocol.Data.System
  ───────────────────────
  One file in transit: `send_file_data_adaptive` from the start of its data
  phase to the end of its DONE_ACK wait, against the data loop of
  `val_internal_receive_files`, over two FIFO channels of packets.

  A channel holds the arguments of the `val_internal_send_packet` calls whose
  frames are in flight; the peer sees only `Send.frame`.  The environment may
  lose or copy packets anywhere in a channel and let any wait time out.

    • `intact_run`     — while every DATA packet without an offset is taken
      at the position the sender read it at, the receiver's file is the old
      content and a prefix of the sender's bytes, and it is complete once
      DONE has been sent.
-/
import Mathlib.Data.List.InsertIdx
import ValProtocol.Lib.Lts
import ValProtocol.Data.Receiver

namespace ValProtocol

/-! ## §1. The two parties and the channels. -/

/-- The sender after the data loop: waiting for DONE_ACK, or returned. -/
inductive SendPhase where
  | data (d : SendData)
  | doneWait (tries : Nat) (flow : Flow)
  | returned (st : Status)
  deriving Repr, DecidableEq

def SendPhase.isReturned : SendPhase → Bool
  | .returned _ => true
  | _ => false

/-- The two configurations and the file. -/
structure DataParams where
  sndCfg : Config
  rcvCfg : Config
  io : SendFile

/-- `val_internal_wait_control` on a frame, up to the accept callback. -/
def controlFrame (mtu cap : Nat) (f : Frame) : Except Status Packet :=
  match recvControl mtu cap f with
  | .error st => .error st
  | .ok p =>
      match p.type with
      | .cancel => .error .aborted
      | .error => .error .protocol
      | _ => .ok p

/-- Where the file stands when the data loop has run: behind it, DONE is
sent and its acknowledgement awaited. -/
def afterData (c : DataParams) (r : List Send × DataResult) : List Send × SendPhase :=
  match r.2 with
  | .wait d => (r.1, .data d)
  | .complete flow =>
      (r.1 ++ [sendBare .done c.io.size], .doneWait c.sndCfg.retries.ackRetries flow)
  | .fail st => (r.1, .returned st)

/-- The sender on a frame. -/
def SendPhase.onFrame (c : DataParams) (f : Frame) : SendPhase → List Send × SendPhase
  | .data d => afterData c ((onAckFrame c.sndCfg c.io d f).run c.io)
  | .doneWait tries flow =>
      match controlFrame c.io.mtu 32 f with
      | .error st => ([], .returned st)
      | .ok p => if p.type = .doneAck then ([], .returned .ok) else ([], .doneWait tries flow)
  | .returned st => ([], .returned st)

/-- The sender on a timeout. -/
def SendPhase.onTimeout (c : DataParams) : SendPhase → List Send × SendPhase
  | .data d => afterData c ((onAckTimeout c.sndCfg d).run c.io)
  | .doneWait tries flow =>
      if tries = 0 then ([], .returned .timeout)
      else ([sendBare .done c.io.size],
        .doneWait (tries - 1) (recordTransmissionError c.sndCfg.txFlow flow))
  | .returned st => ([], .returned st)

/-- The joint state.  `doneSent` records that DONE has been sent. -/
structure DataSys where
  snd : SendPhase
  rcv : RecvResult
  toRcv : List Send
  toSnd : List Send
  doneSent : Bool

/-- One step of a party or of the environment. -/
inductive DataLabel where
  | sndRecv
  | sndTimeout
  | rcvRecv (short : Option Nat)
  | rcvTimeout
  | loseToRcv (i : Nat)
  | loseToSnd (i : Nat)
  | copyToRcv (i j : Nat)
  | copyToSnd (i j : Nat)
  deriving DecidableEq

/-- The sender's part of a step. -/
def DataSys.sent (s : DataSys) (r : List Send × SendPhase) : DataSys :=
  { s with
    snd := r.2, toRcv := s.toRcv ++ r.1,
    doneSent := s.doneSent || r.1.any (fun p => p.type == .done) }

/-- The receiver's part of a step. -/
def DataSys.answered (s : DataSys) (r : List Send × RecvResult) : DataSys :=
  { s with rcv := r.2, toSnd := s.toSnd ++ r.1 }

def DataSys.step (c : DataParams) (s : DataSys) : DataLabel → Option DataSys
  | .sndRecv =>
      match s.toSnd with
      | [] => none
      | p :: rest =>
          if s.snd.isReturned then none
          else some ({ s with toSnd := rest }.sent (s.snd.onFrame c p.frame))
  | .sndTimeout => if s.snd.isReturned then none else some (s.sent (s.snd.onTimeout c))
  | .rcvRecv short =>
      match s.rcv, s.toRcv with
      | .wait d, p :: rest =>
          some ({ s with toRcv := rest }.answered
            (onDataFrame c.rcvCfg c.io.mtu d p.frame short))
      | _, _ => none
  | .rcvTimeout =>
      match s.rcv with
      | .wait d => some (s.answered (onDataTimeout d))
      | _ => none
  | .loseToRcv i => some { s with toRcv := s.toRcv.eraseIdx i }
  | .loseToSnd i => some { s with toSnd := s.toSnd.eraseIdx i }
  | .copyToRcv i j => (s.toRcv[i]?).map fun p => { s with toRcv := s.toRcv.insertIdx j p }
  | .copyToSnd i j => (s.toSnd[i]?).map fun p => { s with toSnd := s.toSnd.insertIdx j p }

/-- Is the label one of the environment? -/
def DataLabel.isEnv : DataLabel → Bool
  | .loseToRcv _ | .loseToSnd _ | .copyToRcv _ _ | .copyToSnd _ _ => true
  | _ => false

/-- The environment puts nothing into a channel that was not there. -/
theorem env_step {c : DataParams} {s s' : DataSys} {l : DataLabel} (hl : l.isEnv = true)
    (hs : s.step c l = some s') :
    ∃ toRcv toSnd, s' = { s with toRcv := toRcv, toSnd := toSnd }
      ∧ (∀ p ∈ toRcv, p ∈ s.toRcv) ∧ (∀ p ∈ toSnd, p ∈ s.toSnd) := by
  cases l with
  | sndRecv | sndTimeout | rcvRecv _ | rcvTimeout => cases hl
  | loseToRcv i =>
      cases hs
      exact ⟨_, _, rfl, fun p hp => (List.eraseIdx_sublist _ _).subset hp, fun p hp => hp⟩
  | loseToSnd i =>
      cases hs
      exact ⟨_, _, rfl, fun p hp => hp, fun p hp => (List.eraseIdx_sublist _ _).subset hp⟩
  | copyToRcv i j =>
      simp only [DataSys.step, Option.map_eq_some_iff] at hs
      obtain ⟨q, hq, rfl⟩ := hs
      refine ⟨_, _, rfl, fun p hp => ?_, fun p hp => hp⟩
      rcases List.eq_or_mem_of_mem_insertIdx hp with rfl | hp
      · exact List.mem_of_getElem? hq
      · exact hp
  | copyToSnd i j =>
      simp only [DataSys.step, Option.map_eq_some_iff] at hs
      obtain ⟨q, hq, rfl⟩ := hs
      refine ⟨_, _, rfl, fun p hp => hp, fun p hp => ?_⟩
      rcases List.eq_or_mem_of_mem_insertIdx hp with rfl | hp
      · exact List.mem_of_getElem? hq
      · exact hp

/-- Both sides at the start of the data phase: the receiver holds the agreed
first `resume_off` bytes, the channels held nothing before the first window. -/
def DataSys.init (c : DataParams) (flow : Flow) (existing : Bytes) : DataSys :=
  let r := afterData c (startData c.sndCfg c.io flow)
  { snd := r.2,
    rcv := .wait (initRecv c.rcvCfg existing c.io.resumeOff c.io.size),
    toRcv := r.1, toSnd := [], doneSent := r.1.any (fun p => p.type == .done) }

/-! ## §2. Packets that carry the right bytes. -/

/-- A DATA packet with the sender's bytes at its offset. -/
structure DataSend (io : SendFile) (p : Send) : Prop where
  type_eq : p.type = .data
  payload_pos : 0 < p.payload.length
  start_le : io.resumeOff ≤ p.offset
  end_le : p.offset + p.payload.length ≤ io.size
  fits : p.payload.length + (if p.includeDataOffset then 8 else 0) ≤ io.maxPayload
  payload_eq : p.payload = (io.content.drop p.offset).take p.payload.length

/-- What the transfer needs of its parameters. -/
structure DataParams.Ok (c : DataParams) : Prop where
  mtu_min : minPacketSize ≤ c.io.mtu
  mtu_max : c.io.mtu ≤ 65547
  size_lt : c.io.size < 2 ^ 63
  resume_lt : c.io.resumeOff < c.io.size

theorem DataSend.whole {c : DataParams} (hc : c.Ok) {p : Send} (h : DataSend c.io p) :
    p.Whole c.io.mtu := by
  have hmax := hc.mtu_max
  have hsize := hc.size_lt
  have hend := h.end_le
  have hfits := h.fits
  have hst : p.staged.length = p.payload.length + (if p.explicitData then 8 else 0) :=
    Send.staged_length_of_not_isAck (by simp [Send.isAck, h.type_eq])
  have hex : p.explicitData = p.includeDataOffset := by
    simp [Send.explicitData, h.type_eq]
  rw [hex] at hst
  simp only [SendFile.maxPayload, wireHeaderSize, wireTrailerSize] at hfits
  refine ⟨⟨by rw [h.type_eq]; rfl, by omega⟩, by omega, ?_⟩
  simp only [wireHeaderSize, wireTrailerSize]
  omega

/-- The packet the receiver's loop sees. -/
theorem DataSend.recv {c : DataParams} (hc : c.Ok) {p : Send} (h : DataSend c.io p) :
    recvFrame c.io.mtu (some c.io.mtu) p.frame
      = .ok ⟨.data, p.payload, p.payload.length,
          if p.includeDataOffset then p.offset else uint64Max⟩ := by
  have hmin := hc.mtu_min
  simp only [minPacketSize] at hmin
  rw [recvFrame_whole (h.whole hc) (by omega) (Nat.le_refl _)]
  have hdel : p.delivered = p.payload := by simp only [Send.delivered, h.type_eq]
  have hoff : p.deliveredOffset = if p.includeDataOffset then p.offset else uint64Max := by
    simp only [Send.deliveredOffset, h.type_eq]
  rw [Send.packet, hdel, hoff, h.type_eq]

/-- `(int64_t)v` is `v` below 2^63. -/
theorem toSigned_of_lt {v : Nat} (h : v < 2 ^ 63) : toSigned 64 v = v := by
  simp only [toSigned, Int.bmod_def]
  split <;> omega

theorem fseekSet_of_lt {v : Nat} (h : v < 2 ^ 63) (pos : Nat) :
    fseekSet pos (toSigned 64 v) = v := by
  rw [toSigned_of_lt h, fseekSet, if_neg (by omega)]
  simp

/-! ## §3. The sender's side of the invariant. -/

/-- The sender's locals: the mark is backed by what the receiver holds
(`written`), and the file handle stands at `next_to_send`. -/
structure SendOk (io : SendFile) (written : Nat) (d : SendData) : Prop where
  start_le : io.resumeOff ≤ d.lastAcked
  acked_le : d.lastAcked ≤ written
  next_start : io.resumeOff ≤ d.nextToSend
  next_le : d.nextToSend ≤ io.size
  cursor_eq : d.fileCursor = d.nextToSend
  pos_eq : d.pos = d.nextToSend

theorem SendOk.readPos_eq {io : SendFile} {w : Nat} {d : SendData} (h : SendOk io w d) :
    d.readPos = d.nextToSend := by
  rw [SendData.readPos, if_neg (by simpa using h.cursor_eq), h.pos_eq]

/-- What holds of a decided move. -/
inductive MoveOk (io : SendFile) (written : Nat) : Move → Prop where
  | stay {d : SendData} : SendOk io written d → MoveOk io written (.stay d)
  | fill {d : SendData} : SendOk io written d → MoveOk io written (.fill d)
  | finish (flow : Flow) : io.size ≤ written → MoveOk io written (.finish flow)
  | stop (st : Status) : MoveOk io written (.stop st)

/-- A packet the sender may have in flight: an explicit offset is one the
receiver has reached. -/
def FlightOk (io : SendFile) (written : Nat) (p : Send) : Prop :=
  DataSend io p ∧ (p.includeDataOffset = true → p.offset ≤ written)

/-- The fill loop sends the file's bytes and stays aligned. -/
theorem fillLoop_ok {io : SendFile} {w : Nat} (fuel : Nat) {d : SendData}
    (h : SendOk io w d) :
    SendOk io w (fillLoop io fuel d).1
    ∧ ∀ p ∈ (fillLoop io fuel d).2.1, FlightOk io w p := by
  refine fillLoop_rule ?_ fuel d h
  intro d n hd hpos hle hmax hlen
  have hread := hd.readPos_eq
  rw [hread] at hlen ⊢
  constructor
  · refine ⟨hd.start_le, hd.acked_le, ?_, hle, rfl, ?_⟩
    · exact Nat.le_trans hd.next_start (Nat.le_add_right _ _)
    · show d.readPos + n = d.nextToSend + n
      rw [hread]
  · refine ⟨⟨rfl, ?_, hd.next_start, ?_, ?_, ?_⟩, ?_⟩
    · rw [hlen]; exact hpos
    · rw [hlen]; exact hle
    · rw [hlen]; exact hmax
    · rw [hlen]
    · intro hexp
      have hmark : d.nextToSend = d.lastAcked := by simpa using hexp
      show d.nextToSend ≤ w
      rw [hmark]
      exact hd.acked_le

/-- Carrying a move out: the packets sent are good, and so is the state. -/
theorem MoveOk.run {io : SendFile} {w : Nat} {m : Move} (h : MoveOk io w m) :
    (∀ p ∈ (m.run io).1, FlightOk io w p)
    ∧ (∀ d, (m.run io).2 = .wait d → SendOk io w d)
    ∧ (∀ flow, (m.run io).2 = .complete flow → io.size ≤ w) := by
  cases h with
  | stay h =>
      refine ⟨fun p hp => absurd hp (List.not_mem_nil), fun d hd => ?_, fun flow hf => ?_⟩
      · cases hd
        exact h
      · cases hf
  | @fill d h =>
      obtain ⟨hok, hsends⟩ := fillLoop_ok d.win h
      rw [Move.run, fillAndWait_sends]
      refine ⟨hsends, fun d' hd' => ?_, fun flow hf => ?_⟩
      · rcases fillAndWait_cases io d with ⟨st, hst⟩ | hw
        · rw [hst] at hd'
          cases hd'
        · rw [hw] at hd'
          cases hd'
          exact ⟨hok.start_le, hok.acked_le, hok.next_start, hok.next_le, hok.cursor_eq,
            hok.pos_eq⟩
      · rcases fillAndWait_cases io d with ⟨st, hst⟩ | hw
        · rw [hst] at hf
          cases hf
        · rw [hw] at hf
          cases hf
  | finish flow hsz =>
      exact ⟨fun p hp => absurd hp (List.not_mem_nil), fun d hd => (by cases hd),
        fun _ _ => hsz⟩
  | stop st =>
      exact ⟨fun p hp => absurd hp (List.not_mem_nil), fun d hd => (by cases hd),
        fun flow hf => (by cases hf)⟩

section Events

variable {io : SendFile} {w : Nat} {d : SendData}

/-- The head of the loop: fill again, or the receiver has everything. -/
theorem dataLoop_ok (cfg : Config) (h : SendOk io w d) : MoveOk io w (dataLoop cfg io d) := by
  simp only [dataLoop]
  split
  · exact .fill ⟨h.start_le, h.acked_le, h.next_start, h.next_le, h.cursor_eq, h.pos_eq⟩
  · refine .finish _ ?_
    have := h.acked_le
    omega

/-- A timeout rewinds the handle to the mark. -/
theorem onAckTimeout_ok (cfg : Config) (hsize : io.size < 2 ^ 63) (hw : w ≤ io.size)
    (h : SendOk io w d) : MoveOk io w (onAckTimeout cfg d) := by
  have hla := h.acked_le
  simp only [onAckTimeout]
  split
  · exact .stop _
  · refine .fill ⟨h.start_le, h.acked_le, h.start_le, show d.lastAcked ≤ io.size by omega,
      rfl, ?_⟩
    show (if d.pos ≠ d.lastAcked then fseekSet d.pos (toSigned 64 d.lastAcked) else d.pos)
      = d.lastAcked
    split
    · exact fseekSet_of_lt (by omega) _
    · rename_i hp
      simpa using hp

/-- A DATA_ACK for something the receiver holds. -/
theorem onDataAck_ok (cfg : Config) {off : Nat} (hoff : off ≤ w) (h : SendOk io w d) :
    MoveOk io w (onDataAck cfg io d off) := by
  have hadv : off > d.lastAcked → SendOk io w (advance cfg io d off) := by
    intro hgt
    have hs := h.start_le
    exact ⟨show io.resumeOff ≤ off by omega, hoff, h.next_start, h.next_le, h.cursor_eq,
      h.pos_eq⟩
  simp only [onDataAck]
  split
  · exact .stay ⟨h.start_le, h.acked_le, h.next_start, h.next_le, h.cursor_eq, h.pos_eq⟩
  · rename_i hgt
    split
    · exact .stay (hadv (by omega))
    · exact dataLoop_ok cfg (hadv (by omega))

end Events

/-- More on the receiver's side never hurts the sender's. -/
theorem SendOk.mono {io : SendFile} {w w' : Nat} {d : SendData} (hw : w ≤ w')
    (h : SendOk io w d) : SendOk io w' d :=
  ⟨h.start_le, Nat.le_trans h.acked_le hw, h.next_start, h.next_le, h.cursor_eq, h.pos_eq⟩

theorem FlightOk.mono {io : SendFile} {w w' : Nat} {p : Send} (hw : w ≤ w')
    (h : FlightOk io w p) : FlightOk io w' p :=
  ⟨h.1, fun he => Nat.le_trans (h.2 he) hw⟩

/-! ## §4. The receiver's side of the invariant. -/

/-- The receiver's file: the old content and the sender's bytes up to
`written`; a failed write may have left a few more of them. -/
structure FileOk (c : DataParams) (existing : Bytes) (r : RecvResult) : Prop where
  start_le : c.io.resumeOff ≤ r.data.written
  file_eq : ∃ k, r.data.file = existing ++ (c.io.content.drop c.io.resumeOff).take k
    ∧ r.data.written ≤ c.io.resumeOff + k ∧ c.io.resumeOff + k ≤ c.io.size
    ∧ ((∀ d st, r ≠ .fail d st) → r.data.written = c.io.resumeOff + k)

/-- An acknowledgement the receiver may have in flight. -/
def AckOk (written : Nat) (p : Send) : Prop :=
  ∃ off, off ≤ written ∧ (p = sendBare .dataAck off ∨ p = sendBare .doneAck off)

theorem AckOk.mono {w w' : Nat} {p : Send} (hw : w ≤ w') (h : AckOk w p) : AckOk w' p := by
  obtain ⟨off, hoff, hp⟩ := h
  exact ⟨off, Nat.le_trans hoff hw, hp⟩

theorem FileOk.written_le {c : DataParams} {e : Bytes} {r : RecvResult}
    (h : FileOk c e r) : r.data.written ≤ c.io.size := by
  obtain ⟨k, -, h1, h2, -⟩ := h.file_eq
  omega

/-- What one receiver step keeps. -/
structure RecvStepOk (c : DataParams) (e : Bytes) (written : Nat)
    (r : List Send × RecvResult) : Prop where
  file_ok : FileOk c e r.2
  written_le : written ≤ r.2.data.written
  acks_ok : ∀ q ∈ r.1, AckOk r.2.data.written q

/-- The bytes at `written` continue the file. -/
theorem file_extend {content e : Bytes} {r w n : Nat} (hr : r ≤ w) :
    e ++ (content.drop r).take (w - r) ++ (content.drop w).take n
      = e ++ (content.drop r).take (w - r + n) := by
  have hdrop : content.drop w = (content.drop r).drop (w - r) := by
    rw [List.drop_drop]
    congr 1
    omega
  rw [hdrop, List.append_assoc, ← List.take_add]

section Receiver

variable {c : DataParams} {e : Bytes} {d : RecvData}

/-- A waiting receiver's file in terms of `written`. -/
theorem FileOk.wait_file (h : FileOk c e (.wait d)) :
    d.file = e ++ (c.io.content.drop c.io.resumeOff).take (d.written - c.io.resumeOff) := by
  obtain ⟨k, hfile, -, -, heq⟩ := h.file_eq
  have hw : d.written = c.io.resumeOff + k := heq (fun _ _ h => by cases h)
  have hk : d.written - c.io.resumeOff = k := by omega
  rw [hk]
  exact hfile

/-- The right bytes, taken at the right place. -/
theorem onInOrder_ok (hc : c.Ok) (h : FileOk c e (.wait d)) {p : Send}
    (hp : DataSend c.io p) (hoff : p.offset = d.written) (short : Option Nat) :
    RecvStepOk c e d.written (onInOrder d p.payload p.payload.length short) := by
  have hstart : c.io.resumeOff ≤ d.written := h.start_le
  have hend := hp.end_le
  have hsize := hc.size_lt
  have hpay := hp.payload_eq
  rw [hoff] at hend hpay
  have hfile : ∀ n, n ≤ p.payload.length → d.file ++ p.payload.take n
      = e ++ (c.io.content.drop c.io.resumeOff).take (d.written - c.io.resumeOff + n) := by
    intro n hn
    rw [h.wait_file, hpay, List.take_take, Nat.min_eq_left hn, file_extend hstart]
  -- a torn write leaves a shorter prefix behind, a whole one the chunk
  rcases onInOrder_cases d p.payload short with ⟨k, hk, heq⟩ | heq
  · rw [heq]
    refine ⟨⟨hstart, d.written - c.io.resumeOff + k, hfile k (by omega), ?_, ?_, ?_⟩,
      Nat.le_refl _, fun q hq => absurd hq (List.not_mem_nil)⟩
    · show d.written ≤ _
      omega
    · omega
    · intro hno
      exact absurd rfl (hno _ _)
  · rw [heq]
    have hmod : (d.written + p.payload.length) % 2 ^ 64 = d.written + p.payload.length :=
      Nat.mod_eq_of_lt (by omega)
    rw [hmod]
    have hall := hfile p.payload.length (Nat.le_refl _)
    rw [List.take_length] at hall
    refine ⟨⟨?_, d.written - c.io.resumeOff + p.payload.length, hall, ?_, ?_, fun _ => ?_⟩,
      Nat.le_add_right _ _, fun q hq => ?_⟩
    · show c.io.resumeOff ≤ d.written + p.payload.length
      omega
    · show d.written + p.payload.length ≤ _
      omega
    · omega
    · show d.written + p.payload.length = _
      omega
    · rw [List.mem_singleton] at hq
      exact ⟨_, Nat.le_refl _, Or.inl hq⟩

theorem FileOk.tries (h : FileOk c e (.wait d)) (n : Nat) :
    FileOk c e (.wait { d with tries := n }) := by
  obtain ⟨k, h1, h2, h3, h4⟩ := h.file_eq
  exact ⟨h.start_le, k, h1, h2, h3, fun _ => h4 (fun _ _ h => by cases h)⟩

/-- A receiver that stays as it is. -/
theorem RecvStepOk.keep (h : FileOk c e (.wait d)) {r : List Send × RecvResult}
    (hd : r.2.data.file = d.file ∧ r.2.data.written = d.written)
    (hacks : ∀ q ∈ r.1, AckOk d.written q) : RecvStepOk c e d.written r := by
  obtain ⟨hfile, hwr⟩ := hd
  obtain ⟨k, h1, h2, h3, h4⟩ := h.file_eq
  have h4' : d.written = c.io.resumeOff + k := h4 (fun _ _ h => by cases h)
  refine ⟨⟨?_, k, ?_, ?_, h3, fun _ => ?_⟩, ?_, ?_⟩
  · rw [hwr]; exact h.start_le
  · rw [hfile]; exact h1
  · rw [hwr]; exact h2
  · rw [hwr]; exact h4'
  · rw [hwr]
  · rw [hwr]; exact hacks

/-- A DATA packet whose bytes are right, taken in place when it has no
offset. -/
theorem onDataFrame_data_ok (hc : c.Ok) (h : FileOk c e (.wait d)) {p : Send}
    (hp : FlightOk c.io d.written p)
    (hplace : p.includeDataOffset = false → p.offset = d.written) (short : Option Nat) :
    RecvStepOk c e d.written (onDataFrame c.rcvCfg c.io.mtu d p.frame short) := by
  have hsize := hc.size_lt
  have hend := hp.1.end_le
  simp only [onDataFrame, hp.1.recv hc]
  have h' := h.tries c.rcvCfg.retries.dataRetries
  by_cases hin : p.offset = d.written
  · -- in order, with or without the offset on the wire
    rw [onData_inOrder]
    · exact onInOrder_ok hc h' hp.1 hin short
    · cases hi : p.includeDataOffset with
      | true => exact Or.inr hin
      | false => exact Or.inl rfl
  · -- an offset on the wire, behind the receiver's position
    have hexp : p.includeDataOffset = true := by
      cases hi : p.includeDataOffset with
      | true => rfl
      | false => exact absurd (hplace hi) hin
    have hle := hp.2 hexp
    have hoff : p.offset ≠ uint64Max := by simp only [uint64Max]; omega
    rw [hexp, if_pos rfl]
    obtain ⟨d', hd', hfile, hwr, -, hsends⟩ := onData_behind
      (d := { d with tries := c.rcvCfg.retries.dataRetries })
      (p := ⟨.data, p.payload, p.payload.length, p.offset⟩) short hoff
      (show p.offset < d.written by omega)
    refine RecvStepOk.keep h ?_ ?_
    · rw [hd']
      exact ⟨hfile, hwr⟩
    · exact fun q hq => ⟨d.written, Nat.le_refl _, Or.inl (hsends q hq)⟩

end Receiver

end ValProtocol
