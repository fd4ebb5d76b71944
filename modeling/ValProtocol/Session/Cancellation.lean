/-
  ValProtocol.Session.Cancellation
  ────────────────────────────────
  Cancelling a call (`val_emergency_cancel`, `val_check_for_cancel`,
  `src/val_core.c` lines 1588-1622).  The only mark a cancel leaves is
  `last_error.code == VAL_ERR_ABORTED`, and every error recorded later
  overwrites it.

  A step of `ValProtocol.Session.Sender` or `ValProtocol.Session.Receiver` is
  accompanied by its `Mark`s: the errors it records, the callbacks it runs
  and the places where it tests for a cancel, in the order of the source.
  Every callback may call `val_emergency_cancel`.  What is sent is left out.

    • `sent_cancelled`, `received_cancelled` — one step, as long as nothing
      overwrites the cancel before the next test and no EOT ends the call;
    • `cancel_sticky` — every run of such steps;
    • `cancel_lost` — a run in which a cancelled call returns `VAL_OK`.
-/
import ValProtocol.Lib.Checkpoints
import ValProtocol.Session.LoneReceiver
import ValProtocol.Session.System

namespace ValProtocol

open Checkpoints

/-! ## §1. Marks. -/

/-- The callbacks of a session; `rx` and `tx` are the two directions of the
capture hook. -/
inductive Callback where
  | rx
  | tx
  | fileStart
  | progress
  | fileComplete
  | validator
  deriving Repr, DecidableEq

/-- What happens to `last_error.code`.  An absent callback is one that never
cancels. -/
abbrev Mark := Point Status Callback

/-- The capture hook runs behind every packet sent. -/
def txMarks (sends : List Send) : List Mark := sends.map (fun _ => .hook .tx)

/-- `val_internal_recv_packet` on a frame.  A DATA frame too short for its
offset is refused without a record. -/
def recvMarks (P : Nat) (out : Option Nat) (f : Frame) : List Mark :=
  if f.content.length > P - wireHeaderSize - wireTrailerSize then [.record .protocol]
  else
    (if PacketType.ofByte f.type = .cancel then [.record .aborted] else []) ++
      match recvFrame P out f with
      | .ok _ => [.hook .rx]
      | .error .invalidArg => [.record .invalidArg]
      | .error _ => []

/-- A receive fails without a frame: a wrong CRC, or the transport reports an
error. -/
inductive ReadFailure where
  | crc
  | io
  deriving Repr, DecidableEq

def ReadFailure.status : ReadFailure → Status
  | .crc => .crc
  | .io => .io

/-! ## §2. The sender. -/

/-- `get_file_size_and_name` over the whole batch, which `val_send_files` does
behind the handshake. -/
def prescanMarks (batch : List SourceFile) : List Mark :=
  (batch.filter (fun f => f.readable.isNone)).map (fun _ => .record .io)

/-- The fill loop tests before every packet. -/
def fillMarks (io : SendFile) : Nat → SendData → List Mark
  | 0, _ => []
  | fuel + 1, d =>
      if d.inflight < d.win ∧ d.nextToSend < io.size then
        .test :: match sendDataPacket io d (d.nextToSend == d.lastAcked) with
          | .error _ => []
          | .ok (d', sent) => txMarks sent.toList ++ fillMarks io fuel d'
      else []

/-- The head of `while (last_acked < size)` tests. -/
def dataLoopMarks (io : SendFile) (d : SendData) : List Mark :=
  if d.lastAcked < io.size then [.test] else []

/-- Behind the event, up to the next wait: the window, DONE, or
`on_file_complete` with the error. -/
def Move.marks (io : SendFile) : Move → List Mark
  | .stay _ => []
  | .fill d => fillMarks io d.win d
  | .finish _ => [.hook .tx]
  | .stop _ => [.hook .fileComplete]

/-- A DATA_ACK: one that advances reports progress and tests. -/
def dataAckMarks (cfg : Config) (io : SendFile) (d : SendData) (off : Nat) : List Mark :=
  if off ≤ d.lastAcked then []
  else
    let d' := advance cfg io d off
    [.hook .progress, .test] ++
      (if d'.lastAcked < d'.targetAck then [] else dataLoopMarks io d') ++
      (onDataAck cfg io d off).marks io

/-- `wait_for_window_ack` on a frame. -/
def ackFrameMarks (cfg : Config) (io : SendFile) (d : SendData) (f : Frame) : List Mark :=
  recvMarks io.mtu none f ++
    match recvControl io.mtu 32 f with
    | .error _ => [.hook .fileComplete]
    | .ok p =>
        match p.type with
        | .cancel | .error => [.hook .fileComplete]
        | .dataNak => (onDataNak cfg io d p.off).marks io
        | .dataAck => dataAckMarks cfg io d p.off
        | _ => []

namespace SendState

variable (env : SendEnv)

def beginMarks (s : SendState) : List Mark :=
  match s.batch[s.idx]? with
  | none => [.hook .tx]
  | some f => if f.readable.isNone then [.record .io] else [.hook .tx, .hook .tx]

def startMarks (s : SendState) (content : Bytes) (off : Nat) : List Mark :=
  if off ≠ 0 ∧ toSigned 64 off < 0 then []
  else
    [.hook .fileStart, .hook .progress, .test] ++
      if s.mtu ≤ wireHeaderSize + wireTrailerSize then []
      else
        let io : SendFile := ⟨content, s.mtu, off⟩
        let d := initData io s.flow
        dataLoopMarks io d ++ (dataLoop env.cfg io d).marks io

def outcomeMarks (s : SendState) (content : Bytes) : ResumeOutcome → List Mark
  | .start off => s.startMarks env content off
  | .skip => [.hook .fileStart, .hook .tx]
  | .verify _ _ => [.hook .tx]
  | .fail _ => []

/-- The handshake loop on a frame.  A short HELLO is recorded and ignored. -/
def helloMarks (s : SendState) (f : Frame) : List Mark :=
  recvMarks s.mtu none f ++
    match recvControl s.mtu wireHandshakeSize f with
    | .error _ => []
    | .ok p =>
        if p.type = .hello then
          if p.len < wireHandshakeSize then [.record .protocol]
          else
            match adoptPeerHello env.cfg s.flow (deserializeHandshake p.payload) with
            | .error (sends, st) => .record st :: txMarks sends
            | .ok _ => prescanMarks s.batch ++ s.beginMarks
        else []

/-- A frame in one of the waits. -/
def frameMarks (f : Frame) (s : SendState) : List Mark :=
  match s.pc with
  | .idle => []
  | .helloWait _ => s.helloMarks env f
  | .resumeWait content _ =>
      recvMarks s.mtu none f ++
        match controlFrame s.mtu wireResumeRespSize f with
        | .error _ => []
        | .ok p =>
            if p.type = .resumeResp ∧ wireResumeRespSize ≤ p.len then
              s.outcomeMarks env content (onResumeResp env s.mtu content p.payload)
            else []
  | .verifyWait content _ endOff _ =>
      recvMarks s.mtu none f ++
        match controlFrame s.mtu 32 f with
        | .error _ => []
        | .ok p =>
            if p.type = .verify then
              if p.len < 4 then [.record .protocol]
              else s.outcomeMarks env content (onVerifyResult endOff p.payload)
            else []
  | .ackWait io d => ackFrameMarks env.cfg io d f
  | .doneWait _ _ _ =>
      recvMarks s.mtu none f ++
        match controlFrame s.mtu 32 f with
        | .error _ => [.hook .fileComplete]
        | .ok p =>
            if p.type = .doneAck then
              .hook .fileComplete :: { s with idx := s.idx + 1 }.beginMarks
            else []
  | .eotWait _ => recvMarks s.mtu none f

/-- A wait times out: `val_internal_recv_packet` records it, then the request
is sent again or the call returns. -/
def timeoutMarks (timer : HelloTimer) (s : SendState) : List Mark :=
  .record .timeout ::
    match s.pc with
    | .idle => []
    | .helloWait retries => if timer = .resend ∧ retries ≠ 0 then [.hook .tx] else []
    | .resumeWait _ retries | .verifyWait _ retries _ _ | .eotWait retries =>
        if retries = 0 then [] else [.hook .tx]
    | .ackWait io d => (onAckTimeout env.cfg d).marks io
    | .doneWait _ retries _ => if retries = 0 then [.hook .fileComplete] else [.hook .tx]

/-- A receive fails.  Every wait of the sender takes a wrong CRC for a slice
that brought nothing. -/
def onFailure (e : ReadFailure) (s : SendState) : SendState :=
  match e with
  | .crc => s
  | .io => s.ret .io

def failureMarks (e : ReadFailure) (s : SendState) : List Mark :=
  .record e.status ::
    match e, s.pc with
    | .io, .ackWait _ _ | .io, .doneWait _ _ _ => [.hook .fileComplete]
    | _, _ => []

/-- `val_send_files` up to its first wait. -/
def callMarks (s : SendState) (batch : List SourceFile) : List Mark :=
  if batch = [] then []
  else if s.handshakeDone then prescanMarks batch ++ { s with batch := batch, idx := 0 }.beginMarks
  else [.hook .tx]

/-- A test returns `VAL_ERR_ABORTED` in the middle of a step that began in `s`
and would have ended in `s'`. -/
def stopped (s s' : SendState) : SendState :=
  { s' with pc := .idle, log := s.log ++ [(s'.batch, .aborted)] }

end SendState

/-! ## §3. The receiver. -/

namespace RecvState

variable (env : RecvEnv)

/-- The `fopen` for writing. -/
def openMarks (skipping : Bool) (fs : FsOutcome) : List Mark :=
  if skipping = false ∧ fs.openFails then [.record .io] else []

/-- `on_file_start`, the validator where the code has it, and the target
file. -/
def settleMarks (s : RecvState) (f : RecvFile) (off : Nat) (skipping ackSkip : Bool)
    (fs : FsOutcome) : List Mark :=
  .hook .fileStart ::
    if env.cfg.resume.mode = .never then
      if (s.targetPath env f).length ≥ maxPath * 2 + 8 then []
      else
        .hook .validator ::
          match (s.started f off).validate env f ackSkip with
          | (sends, .error _) => txMarks sends
          | (sends, .ok true) => txMarks sends ++ if ackSkip then [.hook .fileStart] else []
          | (_, .ok false) => openMarks skipping fs
    else openMarks (decide (off ≥ f.size)) fs

def resumeMarks (s : RecvState) (f : RecvFile) (fs : FsOutcome) : List Mark :=
  let dec := determineResumeAction env s.mtu (s.files f.path) f.size
  .hook .tx ::
    match dec.action with
    | .skipFile => s.settleMarks env f f.size true true fs
    | .startZero => s.settleMarks env f 0 false true fs
    | .startOffset => s.settleMarks env f dec.offset false true fs
    | .verifyFirst => []
    | .abortFile => [.hook .tx]

def legacyMarks (s : RecvState) (f : RecvFile) (fs : FsOutcome) : List Mark :=
  .hook .tx :: s.settleMarks env f 0 false false fs

def verifyMarks (s : RecvState) (f : RecvFile) (resumeOff : Nat) (payload : Bytes)
    (fs : FsOutcome) : List Mark :=
  .hook .tx ::
    match s.files f.path with
    | none => []
    | some file =>
        match (verifyVerdict env s.mtu file payload).1 with
        | .ok => s.settleMarks env f resumeOff false true fs
        | .skipped => s.settleMarks env f f.size true true fs
        | _ => s.settleMarks env f 0 false true fs

/-- The handshake loop on a frame.  A short HELLO is recorded and ignored. -/
def helloMarks (s : RecvState) (fr : Frame) : List Mark :=
  recvMarks s.mtu none fr ++
    match recvControl s.mtu wireHandshakeSize fr with
    | .error _ => []
    | .ok p =>
        if p.type = .hello then
          if p.len < wireHandshakeSize then [.record .protocol]
          else
            let peer := deserializeHandshake p.payload
            match adoptPeerHello env.cfg s.flow peer with
            | .error (sends, st) => .record st :: txMarks sends
            | .ok _ =>
                if missingFeatures (peer.required &&& builtinFeatures) builtinFeatures ≠ 0 then
                  [.record .featureNegotiation, .hook .tx]
                else [.hook .tx]
        else []

/-- The metadata wait on a frame. -/
def metaMarks (s : RecvState) (fr : Frame) : List Mark :=
  recvMarks s.mtu (some s.mtu) fr ++
    match recvFrame s.mtu (some s.mtu) fr with
    | .error _ => []
    | .ok p =>
        match p.type with
        | .eot => [.hook .tx]
        | .cancel => [.record .aborted]
        | .sendMeta => if p.len < wireMetaSize then [.record .protocol] else []
        | _ => [.record .protocol]

/-- DATA in the data loop: the chunk that completes the file goes straight on,
every other one reports progress and tests before its acknowledgement. -/
def chunkMarks (d : RecvData) (p : Packet) (short : Option Nat) : List Mark :=
  let effOff := if p.off = uint64Max then d.written else p.off
  if effOff = d.written then
    if (if p.len ≠ 0 then short.filter (· < p.len) else none).isSome then [.record .io]
    else if (d.written + p.len) % 2 ^ 64 ≥ d.total then [.hook .tx]
    else
      [.hook .progress, .test] ++ if d.pktsSinceAck + 1 ≥ ackStride then [.hook .tx] else []
  else
    (if effOff < d.written then [.hook .tx] else [.hook .tx, .hook .tx]) ++
      [.hook .progress, .test] ++ txMarks (cadence d).1

/-- The data loop on a frame. -/
def dataMarks (s : RecvState) (d : RecvData) (fr : Frame) (fs : FsOutcome) : List Mark :=
  recvMarks s.mtu (some s.mtu) fr ++
    match recvFrame s.mtu (some s.mtu) fr with
    | .error _ => []
    | .ok p =>
        match p.type with
        | .data => chunkMarks d p fs.short
        | .done => [.hook .tx, .hook .fileComplete]
        | .cancel => [.hook .fileComplete, .record .aborted]
        | .sendMeta => [.record .protocol]
        | _ => []

/-- The DONE wait of a skipped file on a frame. -/
def skipMarks (s : RecvState) (fr : Frame) : List Mark :=
  recvMarks s.mtu (some s.mtu) fr ++
    match recvFrame s.mtu (some s.mtu) fr with
    | .error _ => []
    | .ok p =>
        match p.type with
        | .done => [.hook .tx, .hook .fileComplete]
        | .eot => [.hook .tx]
        | .cancel => [.record .aborted]
        | _ => []

/-- A frame in one of the waits. -/
def frameMarks (fr : Frame) (fs : FsOutcome) (s : RecvState) : List Mark :=
  match s.pc with
  | .idle => []
  | .helloWait => s.helloMarks env fr
  | .metaWait _ => s.metaMarks fr
  | .neverPeek f =>
      recvMarks s.mtu none fr ++
        match recvFrame s.mtu none fr with
        | .ok p => if p.type = .resumeReq then s.resumeMarks env f fs else s.legacyMarks env f fs
        | .error st =>
            if st = .crc ∨ st = .io ∨ st = .aborted ∨ st = .protocol then []
            else s.legacyMarks env f fs
  | .resumeReqWait f _ =>
      recvMarks s.mtu none fr ++
        match recvFrame s.mtu none fr with
        | .error _ => []
        | .ok p => if p.type = .resumeReq then s.resumeMarks env f fs else []
  | .verifyWait f _ _ resumeOff =>
      recvMarks s.mtu none fr ++
        match controlFrame s.mtu wireVerifyReqPayloadSize fr with
        | .error _ => []
        | .ok p =>
            match p.type with
            | .resumeReq => [.hook .tx]
            | .verify => s.verifyMarks env f resumeOff p.payload fs
            | _ => []
  | .dataWait _ d => s.dataMarks { d with tries := env.cfg.retries.dataRetries } fr fs
  | .skipWait _ _ => s.skipMarks fr

/-- A wait times out. -/
def timeoutMarks (fs : FsOutcome) (s : RecvState) : List Mark :=
  .record .timeout ::
    match s.pc with
    | .neverPeek f => s.legacyMarks env f fs
    | _ => []

/-- A receive fails.  The handshake and the VERIFY wait take a wrong CRC for a
slice that brought nothing, the data loop for a timeout. -/
def onFailure (e : ReadFailure) (s : RecvState) : RecvState :=
  match e, s.pc with
  | _, .idle => s
  | .crc, .helloWait | .crc, .verifyWait _ _ _ _ => s
  | .crc, .dataWait f d =>
      if d.tries = 0 then (s.closed f d.file).ret .crc
      else { s with pc := .dataWait f { d with tries := d.tries - 1 } }
  | .io, .dataWait f d => (s.closed f d.file).ret .io
  | e, _ => s.ret e.status

/-- `val_internal_receive_files` returns `VAL_ERR_ABORTED` from a test, with
the open file closed. -/
def stopped (s' : RecvState) : RecvState :=
  match s'.pc with
  | .dataWait f d => (s'.closed f d.file).ret .aborted
  | _ => s'.ret .aborted

end RecvState

/-! ## §4. Steps with cancels. -/

/-- A session with its `last_error.code`; `raised` belongs to the call in
progress. -/
structure Watched (σ : Type) where
  st : σ
  err : Register Status

/-- What happens to a sending session next. -/
inductive SendEvent where
  | call (batch : List SourceFile)
  | frame (f : Frame)
  | timeout (timer : HelloTimer)
  | failure (e : ReadFailure)
  deriving DecidableEq

/-- What happens to a receiving session next. -/
inductive RecvEvent where
  | call (dir : Bytes)
  | frame (fr : Frame) (fs : FsOutcome)
  | timeout (timer : HelloTimer) (fs : FsOutcome)
  | failure (e : ReadFailure)
  deriving DecidableEq

/-- The marks of an event and the state at the next wait, as far as no test
returns before. -/
def SendState.onEvent (env : SendEnv) (s : SendState) : SendEvent → Option (List Mark × SendState)
  | .call batch => if s.pc = .idle then some (s.callMarks batch, (s.call env batch).2) else none
  | .frame f => if s.pc = .idle then none else some (s.frameMarks env f, (s.onFrame env f).2)
  | .timeout timer =>
      if s.pc = .idle then none else some (s.timeoutMarks env timer, (s.onTimeout env timer).2)
  | .failure e => if s.pc = .idle then none else some (s.failureMarks e, s.onFailure e)

def RecvState.onEvent (env : RecvEnv) (s : RecvState) : RecvEvent → Option (List Mark × RecvState)
  | .call dir => if s.pc = .idle then some ([], s.call env dir) else none
  | .frame fr fs =>
      if s.pc = .idle then none else some (s.frameMarks env fr fs, (s.onFrame env fr fs).2)
  | .timeout timer fs =>
      if s.pc = .idle then none
      else some (s.timeoutMarks env fs, (s.onTimeout env timer fs).2)
  | .failure e => if s.pc = .idle then none else some ([.record e.status], s.onFailure e)

/-- Every wait of the sender begins with a test. -/
def SendPc.tests : SendPc → Bool
  | .idle => false
  | _ => true

/-- The receiver's waits that begin with a test: the peek of
`VAL_RESUME_NEVER`, the RESUME_REQ wait and the DONE wait of a skipped file do
not. -/
def RecvPc.tests : RecvPc → Bool
  | .helloWait | .metaWait _ | .verifyWait _ _ _ _ | .dataWait _ _ => true
  | .idle | .neverPeek _ | .resumeReqWait _ _ | .skipWait _ _ => false

def entryMarks (tests : Bool) : List Mark := if tests then [.test] else []

/-- The register when an event comes in: a call starts with no cancel of its
own, whatever `last_error` still holds. -/
def SendEvent.register (r : Register Status) : SendEvent → Register Status
  | .call _ => ⟨r.code, false⟩
  | _ => r

def RecvEvent.register (r : Register Status) : RecvEvent → Register Status
  | .call _ => ⟨r.code, false⟩
  | _ => r

/-- One step of the receiver. -/
def Watched.recvStep (env : RecvEnv) (w : Watched RecvState) (l : RecvEvent × List Bool) :
    Option (Watched RecvState) :=
  (w.st.onEvent env l.1).map fun r =>
    let walked := walk .aborted (r.1 ++ entryMarks r.2.pc.tests) l.2 (l.1.register w.err)
    ⟨if walked.2 then r.2.stopped else r.2, walked.1⟩

/-- A session nothing has happened to. -/
def Watched.fresh {σ : Type} (s : σ) : Watched σ := ⟨s, ⟨.ok, false⟩⟩

end ValProtocol
