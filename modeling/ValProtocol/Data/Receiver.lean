/-
  ValProtocol.Data.Receiver
  ─────────────────────────
  The data loop of `val_internal_receive_files` (`src/val_receiver.c` lines
  785-1041): in-order DATA is appended, everything behind `written` is
  answered with a DATA_ACK at `written`, everything ahead with a DATA_NAK.
  A DATA frame without an offset counts as in order wherever it came from.
-/
import ValProtocol.Data.Sender

namespace ValProtocol

/-- The locals of the data loop, and the content of the output file. -/
structure RecvData where
  file : Bytes
  written : Nat
  total : Nat
  pktsSinceAck : Nat
  tries : Nat
  deriving Repr, DecidableEq

/-- The locals when the data loop begins. -/
def initRecv (cfg : Config) (file : Bytes) (resumeOff total : Nat) : RecvData where
  file := file
  written := resumeOff
  total := total
  pktsSinceAck := 0
  tries := cfg.retries.dataRetries

/-- Where the data loop stands: blocked in its receive, left through DONE, or
returned with an error (the output file is closed as it is). -/
inductive RecvResult where
  | wait (d : RecvData)
  | complete (d : RecvData)
  | fail (d : RecvData) (st : Status)
  deriving Repr, DecidableEq

/-- The acknowledgement cadence: `ack_stride` is 1. -/
def ackStride : Nat := 1

/-- An in-order DATA packet.  `short` is the outcome of `fwrite`: `none`
writes everything, `some k` only the first `k` bytes. -/
def onInOrder (d : RecvData) (payload : Bytes) (len : Nat) (short : Option Nat) :
    List Send × RecvResult :=
  match (if len ≠ 0 then short.filter (· < len) else none) with
  | some k => ([], .fail { d with file := d.file ++ payload.take k } .io)
  | none =>
      let written := (d.written + len) % 2 ^ 64
      let d' := { d with file := d.file ++ payload, written := written }
      if written ≥ d.total then
        ([sendBare .dataAck written], .wait { d' with pktsSinceAck := 0 })
      else
        let pkts := d.pktsSinceAck + 1
        if pkts ≥ ackStride then
          ([sendBare .dataAck written], .wait { d' with pktsSinceAck := 0 })
        else ([], .wait { d' with pktsSinceAck := pkts })

/-- The acknowledgement cadence behind an out-of-order packet. -/
def cadence (d : RecvData) : List Send × RecvData :=
  if d.pktsSinceAck ≥ ackStride then
    ([sendBare .dataAck d.written], { d with pktsSinceAck := 0 })
  else ([], d)

/-- A DATA packet. -/
def onData (d : RecvData) (p : Packet) (short : Option Nat) : List Send × RecvResult :=
  let effOff := if p.off = uint64Max then d.written else p.off
  if effOff = d.written then onInOrder d p.payload p.len short
  else
    let answer :=
      if effOff < d.written then [sendBare .dataAck d.written]
      else [sendNak d.written, sendBare .dataAck d.written]
    (answer ++ (cadence d).1, .wait (cadence d).2)

/-- One frame in the data loop. -/
def onDataFrame (cfg : Config) (mtu : Nat) (d : RecvData) (f : Frame)
    (short : Option Nat) : List Send × RecvResult :=
  -- the retry budget is fresh for every packet
  let d := { d with tries := cfg.retries.dataRetries }
  match recvFrame mtu (some mtu) f with
  | .error st => ([], .fail d st)
  | .ok p =>
      match p.type with
      | .data => onData d p short
      | .done => ([sendBare .doneAck d.written], .complete d)
      | .error => ([], .fail d .protocol)
      | .cancel => ([], .fail d .aborted)
      | .sendMeta => ([], .fail d .protocol)
      | _ => ([], .wait d)

/-- The receive times out. -/
def onDataTimeout (d : RecvData) : List Send × RecvResult :=
  if d.tries = 0 then ([], .fail d .timeout)
  else ([], .wait { d with tries := d.tries - 1 })

/-! ## What one packet can do. -/

/-- The locals, wherever the loop stands. -/
def RecvResult.data : RecvResult → RecvData
  | .wait d => d
  | .complete d => d
  | .fail d _ => d

/-- **In order**: the payload is appended and acknowledged, or `fwrite`
stored only part of it and the call returns. -/
theorem onInOrder_cases (d : RecvData) (payload : Bytes) (short : Option Nat) :
    (∃ k, k < payload.length ∧ onInOrder d payload payload.length short
        = ([], .fail { d with file := d.file ++ payload.take k } .io))
    ∨ onInOrder d payload payload.length short
        = ([sendBare .dataAck ((d.written + payload.length) % 2 ^ 64)],
            .wait { d with
              file := d.file ++ payload,
              written := (d.written + payload.length) % 2 ^ 64,
              pktsSinceAck := 0 }) := by
  have hstride : d.pktsSinceAck + 1 ≥ ackStride := Nat.le_add_left 1 _
  cases hs : (if payload.length ≠ 0 then short.filter (· < payload.length) else none) with
  | some k =>
      refine Or.inl ⟨k, ?_, by simp only [onInOrder, hs]⟩
      split at hs
      · simpa using (Option.filter_eq_some_iff.mp hs).2
      · cases hs
  | none =>
      refine Or.inr ?_
      simp only [onInOrder, hs, hstride, if_true]
      split <;> rfl

/-- **Behind**: the position is reaffirmed, the file stays. -/
theorem onData_behind {d : RecvData} {p : Packet} (short : Option Nat)
    (hoff : p.off ≠ uint64Max) (hlt : p.off < d.written) :
    ∃ d', (onData d p short).2 = .wait d'
      ∧ d'.file = d.file ∧ d'.written = d.written ∧ d'.total = d.total
      ∧ ∀ q ∈ (onData d p short).1, q = sendBare .dataAck d.written := by
  have hne : p.off ≠ d.written := by omega
  simp only [onData, hoff, if_false, hne, hlt, if_true]
  refine ⟨(cadence d).2, rfl, ?_⟩
  simp only [cadence]
  split
  · exact ⟨rfl, rfl, rfl, fun q hq => by simpa using hq⟩
  · exact ⟨rfl, rfl, rfl, fun q hq => by simpa using hq⟩

/-- DATA never ends the loop with `VAL_OK`. -/
theorem onData_not_complete (d : RecvData) (p : Packet) (short : Option Nat) (d' : RecvData) :
    (onData d p short).2 ≠ .complete d' := by
  intro h
  simp only [onData, onInOrder] at h
  repeat' split at h
  all_goals cases h

/-- A packet at the receiver's position is in order, named or not. -/
theorem onData_inOrder {d : RecvData} {p : Packet} (short : Option Nat)
    (h : p.off = uint64Max ∨ p.off = d.written) :
    onData d p short = onInOrder d p.payload p.len short := by
  have heff : (if p.off = uint64Max then d.written else p.off) = d.written := by
    split
    · rfl
    · rename_i hne
      exact h.resolve_left hne
  simp only [onData, heff, if_true]

end ValProtocol
