/-
  ValProtocol.Session.Sender
  ──────────────────────────
  `val_send_files` (`src/val_sender.c` lines 948-1010) and everything it runs
  through: the sender's handshake loop (`src/val_core.c` lines 1862-1985),
  SEND_META and the resume negotiation, the data phase of
  `ValProtocol.Data.Sender`, DONE and EOT with their waits
  (`val_internal_wait_control`, lines 1182-1259).

  The sender blocks in seven places; `SendPc` names them.  One step is what
  happens on one event up to the next place: `SendState.onFrame`,
  `SendState.onTimeout`, and `SendState.call` for the start of a call.

    • `SendState.onFrame_step`, `SendState.onTimeout_step` — every step
      stays inside its exchange, fails, or ends the exchange on the peer's
      final answer and opens the next one (`SendStep`).
-/
import ValProtocol.Data.System
import ValProtocol.Files.Names
import ValProtocol.Session.Resume

namespace ValProtocol

open LittleEndian

/-! ## §1. Files and waits. -/

/-- A file of a batch: its path and what is behind it (`none`: `fopen`
fails). -/
structure SourceFile where
  path : Bytes
  content : Option Bytes
  deriving Repr, DecidableEq

/-- The size and name `get_file_size_and_name` reports, the name already
cleaned. -/
def SourceFile.name (f : SourceFile) : Bytes :=
  cleanFilename (maxFilename + 1) (baseName f.path)

/-- `get_file_size_and_name` succeeds: the file opens, and its size fits the
`int64_t` that `ftell` reports. -/
def SourceFile.readable (f : SourceFile) : Option Bytes :=
  f.content.filter (fun c => c.length < 2 ^ 63)

/-- The payload of `send_metadata`; an absent or empty `sender_path` stands
for the file's own path. -/
def SourceFile.announced (senderPath : Option Bytes) (f : SourceFile) : MetaPayload where
  filename := nulField maxFilename f.name
  senderPath := nulField maxPath
    (cleanPath (maxPath + 1) (if senderPath.getD [] ≠ [] then senderPath.getD [] else f.path))
  fileSize := (f.content.getD []).length

def sendMeta (senderPath : Option Bytes) (f : SourceFile) : Send :=
  ⟨.sendMeta, serializeMeta (f.announced senderPath), 0, true⟩

theorem SourceFile.readable_spec {f : SourceFile} {content : Bytes}
    (h : f.readable = some content) : f.content = some content ∧ content.length < 2 ^ 63 := by
  obtain ⟨h1, h2⟩ := Option.filter_eq_some_iff.mp h
  exact ⟨h1, of_decide_eq_true h2⟩

theorem SourceFile.announced_fits {f : SourceFile} {content : Bytes}
    (h : f.readable = some content) (senderPath : Option Bytes) :
    (f.announced senderPath).Fits := by
  obtain ⟨hc, hlen⟩ := SourceFile.readable_spec h
  refine ⟨nulField_length _ _, nulField_length _ _, ?_⟩
  show (f.content.getD []).length < 256 ^ 8
  rw [hc, Option.getD_some]
  omega

/-- `val_internal_send_packet(s, VAL_PKT_VERIFY, verify_payload, …)`. -/
def sendVerify (payload : Bytes) : Send := ⟨.verify, payload, 0, true⟩

/-- Where the sender is blocked; `idle` is outside a call. -/
inductive SendPc where
  | idle
  | helloWait (retries : Nat)
  | resumeWait (content : Bytes) (retries : Nat)
  | verifyWait (content : Bytes) (retries endOff : Nat) (payload : Bytes)
  | ackWait (io : SendFile) (d : SendData)
  | doneWait (size retries : Nat) (skip : Bool)
  | eotWait (retries : Nat)
  deriving Repr, DecidableEq

/-- A call of the sender's `on_file_start`. -/
structure SendStart where
  file : Nat
  size : Nat
  offset : Nat
  deriving Repr, DecidableEq

/-- The sending session.  `idx` is the loop variable of `val_send_files`,
`log` the calls that have returned; `turn` counts the exchanges (handshake,
files, EOTs) the sender has finished and is not part of the code. -/
structure SendState where
  pc : SendPc
  handshakeDone : Bool
  mtu : Nat
  flow : Flow
  batch : List SourceFile
  idx : Nat
  starts : List SendStart
  log : List (List SourceFile × Status)
  turn : Nat
  deriving Repr, DecidableEq

/-- After `val_session_create`. -/
def SendState.fresh (cfg : Config) : SendState where
  pc := .idle
  handshakeDone := false
  mtu := cfg.packetSize
  flow := freshFlow
  batch := []
  idx := 0
  starts := []
  log := []
  turn := 0

/-- How a handshake wait times out: the budget is spent, or it is time to
resend, or the wait goes on. -/
inductive HelloTimer where
  | expired
  | resend
  | pace
  deriving Repr, DecidableEq

namespace SendState

variable (env : SendEnv)

/-! ## §2. Between the waits. -/

/-- `val_send_files` returns. -/
def ret (s : SendState) (st : Status) : SendState :=
  { s with pc := .idle, log := s.log ++ [(s.batch, st)] }

/-- The head of the loop over the files: metadata and RESUME_REQ of the next
file, or EOT behind the last one. -/
def beginFile (s : SendState) : List Send × SendState :=
  match s.batch[s.idx]? with
  | none => ([sendBare .eot 0], { s with pc := .eotWait env.cfg.retries.ackRetries })
  | some f =>
      match f.readable with
      | none => ([], s.ret .io)
      | some content =>
          ([sendMeta env.senderPath f, sendBare .resumeReq 0],
            { s with pc := .resumeWait content env.cfg.retries.ackRetries })

/-- Behind one round of the data phase. -/
def onDataResult (s : SendState) (io : SendFile) (r : List Send × DataResult) :
    List Send × SendState :=
  match r.2 with
  | .wait d => (r.1, { s with pc := .ackWait io d })
  | .complete flow =>
      (r.1 ++ [sendBare .done io.size],
        { s with pc := .doneWait io.size env.cfg.retries.ackRetries false, flow := flow })
  | .fail st => (r.1, s.ret st)

/-- `on_file_start`. -/
def started (s : SendState) (size offset : Nat) : SendState :=
  { s with starts := s.starts ++ [⟨s.idx, size, offset⟩] }

/-- `send_file_data_adaptive` behind the negotiation, with an offset. -/
def startFile (s : SendState) (content : Bytes) (off : Nat) : List Send × SendState :=
  if off ≠ 0 ∧ toSigned 64 off < 0 then ([], s.ret .io)
  else
    let s := s.started content.length off
    if s.mtu ≤ wireHeaderSize + wireTrailerSize then ([], s.ret .invalidArg)
    else
      let io : SendFile := ⟨content, s.mtu, off⟩
      s.onDataResult env io (startData env.cfg io s.flow)

/-- How the negotiation goes on. -/
def onOutcome (s : SendState) (content : Bytes) : ResumeOutcome → List Send × SendState
  | .start off => s.startFile env content off
  | .skip =>
      ([sendBare .done content.length],
        { s.started content.length content.length with
          pc := .doneWait content.length env.cfg.retries.ackRetries true })
  | .verify endOff payload =>
      ([sendVerify payload],
        { s with pc := .verifyWait content env.cfg.retries.ackRetries endOff payload })
  | .fail st => ([], s.ret st)

/-! ## §3. The events. -/

/-- The handshake loop on a frame. -/
def onHelloFrame (s : SendState) (f : Frame) : List Send × SendState :=
  match recvControl s.mtu wireHandshakeSize f with
  | .error st => ([], s.ret st)
  | .ok p =>
      match p.type with
      | .cancel => ([], s.ret .aborted)
      | .error => ([], s.ret .protocol)
      | .hello =>
          if p.len < wireHandshakeSize then ([], s)
          else
            match adoptPeerHello env.cfg s.flow (deserializeHandshake p.payload) with
            | .error (sends, st) => (sends, s.ret st)
            | .ok n =>
                { s with
                  handshakeDone := true, mtu := n.mtu, flow := n.flow,
                  turn := s.turn + 1 }.beginFile env
      | _ => ([], s)

/-- A frame in one of the waits. -/
def onFrame (f : Frame) (s : SendState) : List Send × SendState :=
  match s.pc with
  | .idle => ([], s)
  | .helloWait _ => s.onHelloFrame env f
  | .resumeWait content _ =>
      match controlFrame s.mtu wireResumeRespSize f with
      | .error st => ([], s.ret st)
      | .ok p =>
          if p.type = .resumeResp then
            if p.len < wireResumeRespSize then ([], s.ret .protocol)
            else s.onOutcome env content (onResumeResp env s.mtu content p.payload)
          else ([], s)
  | .verifyWait content _ endOff _ =>
      match controlFrame s.mtu 32 f with
      | .error st => ([], s.ret st)
      | .ok p =>
          if p.type = .verify then
            if p.len < 4 then ([], s.ret .protocol)
            else s.onOutcome env content (onVerifyResult endOff p.payload)
          else ([], s)
  | .ackWait io d =>
      -- the window lives in the locals of the data phase until it ends
      { s with flow := d.flow }.onDataResult env io ((onAckFrame env.cfg io d f).run io)
  | .doneWait _ _ skip =>
      match controlFrame s.mtu 32 f with
      | .error st => ([], s.ret st)
      | .ok p =>
          if p.type = .doneAck then
            { s with
              flow := if skip then s.flow else recordTransmissionSuccess env.cfg.txFlow s.flow,
              idx := s.idx + 1, turn := s.turn + 1 }.beginFile env
          else ([], s)
  | .eotWait _ =>
      match controlFrame s.mtu 32 f with
      | .error st => ([], s.ret st)
      | .ok p =>
          if p.type = .eotAck then ([], { s.ret .ok with turn := s.turn + 1 }) else ([], s)

/-- A wait times out. -/
def onTimeout (timer : HelloTimer) (s : SendState) : List Send × SendState :=
  match s.pc with
  | .idle => ([], s)
  | .helloWait retries =>
      match timer with
      | .expired => ([], s.ret .timeout)
      | .resend =>
          if retries = 0 then ([], s)
          else ([sendHello env.cfg env.cfg.packetSize], { s with pc := .helloWait (retries - 1) })
      | .pace => ([], s)
  | .resumeWait content retries =>
      if retries = 0 then ([], s.ret .timeout)
      else ([sendBare .resumeReq 0], { s with pc := .resumeWait content (retries - 1) })
  | .verifyWait content retries endOff payload =>
      if retries = 0 then ([], s.ret .timeout)
      else ([sendVerify payload],
        { s with pc := .verifyWait content (retries - 1) endOff payload })
  | .ackWait io d =>
      { s with flow := d.flow }.onDataResult env io ((onAckTimeout env.cfg d).run io)
  | .doneWait size retries skip =>
      if retries = 0 then ([], s.ret .timeout)
      else ([sendBare .done size],
        { s with
          pc := .doneWait size (retries - 1) skip,
          flow := recordTransmissionError env.cfg.txFlow s.flow })
  | .eotWait retries =>
      if retries = 0 then ([], s.ret .timeout)
      else ([sendBare .eot 0], { s with pc := .eotWait (retries - 1) })

/-- `val_send_files` up to its first wait. -/
def call (s : SendState) (batch : List SourceFile) : List Send × SendState :=
  let s := { s with batch := batch, idx := 0 }
  if batch = [] then ([], s.ret .invalidArg)
  else if s.handshakeDone then s.beginFile env
  else ([sendHello env.cfg env.cfg.packetSize],
    { s with pc := .helloWait env.cfg.retries.handshakeRetries })

end SendState

/-! ## §4. Exchanges. -/

/-- The three kinds of exchange a call is made of. -/
inductive ExchangeKind where
  | hello
  | file
  | eot
  deriving Repr, DecidableEq

/-- The exchange a wait belongs to. -/
def SendPc.exchange : SendPc → Option ExchangeKind
  | .idle => none
  | .helloWait _ => some .hello
  | .resumeWait _ _ | .verifyWait _ _ _ _ | .ackWait _ _ | .doneWait _ _ _ => some .file
  | .eotWait _ => some .eot

/-- The packets sent inside an exchange, SEND_META apart, which opens a file. -/
def ExchangeKind.request : ExchangeKind → PacketType → Bool
  | .hello, .hello => true
  | .file, .resumeReq | .file, .verify | .file, .data | .file, .done => true
  | .eot, .eot => true
  | _, _ => false

/-- The answer that ends an exchange. -/
def ExchangeKind.final : ExchangeKind → PacketType
  | .hello => .hello
  | .file => .doneAck
  | .eot => .eotAck

/-- What a step inside an exchange leaves alone. -/
structure SendState.SameCall (s s' : SendState) : Prop where
  turn_eq : s'.turn = s.turn
  batch_eq : s'.batch = s.batch
  idx_eq : s'.idx = s.idx
  log_eq : s'.log = s.log
  done_eq : s'.handshakeDone = s.handshakeDone
  mtu_eq : s'.mtu = s.mtu

theorem SendState.SameCall.rfl {s : SendState} : s.SameCall s :=
  ⟨Eq.refl _, Eq.refl _, Eq.refl _, Eq.refl _, Eq.refl _, Eq.refl _⟩

/-- **What one step of the sender can do**; `last` is the packet it took, if
any. -/
inductive SendStep (env : SendEnv) (s : SendState) (last : Option PacketType) :
    List Send × SendState → Prop where
  /-- the exchange goes on -/
  | within {k : ExchangeKind} {sends : List Send} {s' : SendState}
      (hk : s.pc.exchange = some k) (hk' : s'.pc.exchange = some k) (same : s.SameCall s')
      (sends_ok : ∀ p ∈ sends, k.request p.type = true) : SendStep env s last (sends, s')
  /-- the call returns with an error -/
  | failed {k : ExchangeKind} {sends : List Send} {s₁ : SendState} {st : Status}
      (hk : s.pc.exchange = some k) (same : s.SameCall s₁) (hst : st ≠ .ok)
      (sends_ok : ∀ p ∈ sends, k.request p.type = true) :
      SendStep env s last (sends, s₁.ret st)
  /-- the handshake is done -/
  | greeted {s₁ : SendState} (hk : s.pc.exchange = some .hello)
      (hlast : last = some ExchangeKind.hello.final)
      (turn_eq : s₁.turn = s.turn + 1) (batch_eq : s₁.batch = s.batch)
      (idx_eq : s₁.idx = s.idx) (log_eq : s₁.log = s.log)
      (done_eq : s₁.handshakeDone = true) : SendStep env s last (s₁.beginFile env)
  /-- the file is done -/
  | filed {s₁ : SendState} (hk : s.pc.exchange = some .file)
      (hlast : last = some ExchangeKind.file.final)
      (turn_eq : s₁.turn = s.turn + 1) (batch_eq : s₁.batch = s.batch)
      (idx_eq : s₁.idx = s.idx + 1) (log_eq : s₁.log = s.log)
      (done_eq : s₁.handshakeDone = s.handshakeDone) (mtu_eq : s₁.mtu = s.mtu) :
      SendStep env s last (s₁.beginFile env)
  /-- the call returns `VAL_OK` -/
  | finished (hk : s.pc.exchange = some .eot)
      (hlast : last = some ExchangeKind.eot.final) :
      SendStep env s last ([], { s.ret .ok with turn := s.turn + 1 })

/-! ## §5. Errors are errors. -/

/-- A reported error is never `VAL_OK`. -/
theorem recvFrame_error {P : Nat} {out : Option Nat} {f : Frame} {st : Status}
    (h : recvFrame P out f = .error st) : st ≠ .ok := by
  rcases recvFrame_refuses h with rfl | rfl
  all_goals decide

theorem recvControl_error {mtu cap : Nat} {f : Frame} {st : Status}
    (h : recvControl mtu cap f = .error st) : st ≠ .ok := by
  rcases recvControl_refuses h with rfl | rfl
  all_goals decide

theorem controlFrame_error {mtu cap : Nat} {f : Frame} {st : Status}
    (h : controlFrame mtu cap f = .error st) : st ≠ .ok := by
  unfold controlFrame at h
  split at h
  · rename_i st' hst
    cases h
    exact recvControl_error hst
  · split at h
    all_goals cases h
    all_goals decide

/-- The type a wait sees is the one on the wire. -/
theorem recvFrame_type {P : Nat} {out : Option Nat} {f : Frame} {p : Packet}
    (h : recvFrame P out f = .ok p) : p.type = PacketType.ofByte f.type := by
  simp only [recvFrame] at h
  repeat' split at h
  all_goals cases h
  all_goals rfl

theorem recvControl_type {mtu cap : Nat} {f : Frame} {p : Packet}
    (h : recvControl mtu cap f = .ok p) : p.type = PacketType.ofByte f.type := by
  unfold recvControl at h
  split at h
  · cases h
  · rename_i q hq
    rw [← recvFrame_type hq]
    repeat' split at h
    all_goals cases h
    all_goals rfl

theorem controlFrame_type {mtu cap : Nat} {f : Frame} {p : Packet}
    (h : controlFrame mtu cap f = .ok p) : p.type = PacketType.ofByte f.type := by
  unfold controlFrame at h
  split at h
  · cases h
  · rename_i q hq
    split at h
    all_goals cases h
    exact recvControl_type hq

/-- A move stops the call only with an error. -/
def Move.Sound : Move → Prop
  | .stop st => st ≠ .ok
  | _ => True

theorem Move.Sound.run_error {io : SendFile} {m : Move} (hm : m.Sound) {st : Status}
    (h : (m.run io).2 = .fail st) : st ≠ .ok := by
  rcases Move.run_fail h with rfl | ⟨d, b, hp⟩
  · exact hm
  · rcases sendDataPacket_error hp with rfl | rfl
    all_goals decide

theorem dataLoop_sound (cfg : Config) (io : SendFile) (d : SendData) :
    (dataLoop cfg io d).Sound := by
  unfold dataLoop
  split <;> trivial

theorem onAckFrame_sound (cfg : Config) (io : SendFile) (d : SendData) (f : Frame) :
    (onAckFrame cfg io d f).Sound := by
  unfold onAckFrame
  split
  · rename_i hst
    exact recvControl_error hst
  · split
    · show Status.aborted ≠ .ok
      decide
    · trivial
    · simp only [onDataAck]
      split
      · trivial
      · split
        · trivial
        · exact dataLoop_sound _ _ _
    · show Status.protocol ≠ .ok
      decide
    · trivial

theorem onAckTimeout_sound (cfg : Config) (d : SendData) : (onAckTimeout cfg d).Sound := by
  unfold onAckTimeout
  split
  · show Status.timeout ≠ .ok
    decide
  · trivial

/-- The data phase sends DATA only. -/
theorem Move.run_data (io : SendFile) (m : Move) : ∀ p ∈ (m.run io).1, p.type = .data := by
  intro p hp
  cases m with
  | stay d => exact absurd hp List.not_mem_nil
  | fill d =>
      rw [Move.run, fillAndWait_sends] at hp
      exact (fillLoop_rule (I := fun _ => True) (S := fun p => p.type = .data)
        (fun _ _ _ _ _ _ _ => ⟨trivial, rfl⟩) d.win d trivial).2 p hp
  | finish flow => exact absurd hp List.not_mem_nil
  | stop st => exact absurd hp List.not_mem_nil

theorem adoptPeerHello_error {cfg : Config} {flow : Flow} {peer : Handshake}
    {r : List Send × Status} (h : adoptPeerHello cfg flow peer = .error r) :
    r.1 = [] ∧ r.2 ≠ .ok := by
  have hfeat : missingFeatures (cfg.requiredFeatures &&& builtinFeatures) peer.features = 0 := by
    simp [missingFeatures, builtinFeatures]
  simp only [adoptPeerHello, hfeat] at h
  repeat' split at h
  all_goals first
    | (cases h; exact ⟨rfl, by decide⟩)
    | contradiction

theorem onResumeResp_error {env : SendEnv} {mtu : Nat} {content payload : Bytes} {st : Status}
    (h : onResumeResp env mtu content payload = .fail st) : st ≠ .ok := by
  have hsound := onResumeResp_sound env mtu content payload
  rwa [h] at hsound

theorem onVerifyResult_error {endOff : Nat} {payload : Bytes} {st : Status}
    (h : onVerifyResult endOff payload = .fail st) : st ≠ .ok := by
  unfold onVerifyResult at h
  split at h
  all_goals cases h
  rename_i hne _ _
  exact hne

/-! ## §6. One step of the sender. -/

section Steps

variable {env : SendEnv} {s s₁ : SendState} {last : Option PacketType}

/-- Nothing sent, nothing changed. -/
theorem SendStep.stay {k : ExchangeKind} (hk : s.pc.exchange = some k) :
    SendStep env s last ([], s) :=
  .within hk hk .rfl (fun _ hp => absurd hp List.not_mem_nil)

/-- Nothing sent, the call returns. -/
theorem SendStep.stop {k : ExchangeKind} {st : Status} (hk : s.pc.exchange = some k)
    (hst : st ≠ .ok) : SendStep env s last ([], s.ret st) :=
  .failed hk .rfl hst (fun _ hp => absurd hp List.not_mem_nil)

/-- Behind a round of the data phase. -/
theorem SendStep.data (hk : s.pc.exchange = some .file) (same : s.SameCall s₁) (io : SendFile)
    {m : Move} (hm : m.Sound) :
    SendStep env s last (s₁.onDataResult env io (m.run io)) := by
  have hdata := Move.run_data io m
  have hreq : ∀ p ∈ (m.run io).1, ExchangeKind.file.request p.type = true := by
    intro p hp
    rw [hdata p hp]
    rfl
  unfold SendState.onDataResult
  split
  · exact .within hk rfl ⟨same.turn_eq, same.batch_eq, same.idx_eq, same.log_eq, same.done_eq, same.mtu_eq⟩ hreq
  · refine .within hk rfl
      ⟨same.turn_eq, same.batch_eq, same.idx_eq, same.log_eq, same.done_eq, same.mtu_eq⟩ ?_
    intro p hp
    rcases List.mem_append.mp hp with hp | hp
    · exact hreq p hp
    · rw [List.mem_singleton.mp hp]
      rfl
  · rename_i st hst
    exact .failed hk same (hm.run_error hst) hreq

theorem SendStep.start (hk : s.pc.exchange = some .file) (content : Bytes) (off : Nat) :
    SendStep env s last (s.startFile env content off) := by
  unfold SendState.startFile
  split
  · exact .stop hk (by decide)
  · dsimp only
    have same : s.SameCall (s.started content.length off) := ⟨rfl, rfl, rfl, rfl, rfl, rfl⟩
    split
    · exact .failed hk same (by decide) (fun _ hp => absurd hp List.not_mem_nil)
    · exact .data hk same _ (dataLoop_sound _ _ _)

/-- Behind the negotiation. -/
theorem SendStep.outcome (hk : s.pc.exchange = some .file) (content : Bytes)
    {o : ResumeOutcome} (ho : ∀ st, o = .fail st → st ≠ .ok) :
    SendStep env s last (s.onOutcome env content o) := by
  cases o with
  | start off => exact .start hk content off
  | skip =>
      refine .within hk rfl ⟨rfl, rfl, rfl, rfl, rfl, rfl⟩ ?_
      intro p hp
      rw [List.mem_singleton.mp hp]
      rfl
  | verify endOff payload =>
      refine .within hk rfl ⟨rfl, rfl, rfl, rfl, rfl, rfl⟩ ?_
      intro p hp
      rw [List.mem_singleton.mp hp]
      rfl
  | fail st => exact .stop hk (ho st rfl)

/-- **The sender on a frame.** -/
theorem SendState.onFrame_step (env : SendEnv) {s : SendState} (hidle : s.pc ≠ .idle)
    (f : Frame) :
    SendStep env s (some (PacketType.ofByte f.type)) (s.onFrame env f) := by
  unfold SendState.onFrame
  split
  · rename_i hpc
    exact absurd hpc hidle
  · -- the handshake
    rename_i hpc
    have hk : s.pc.exchange = some .hello := by rw [hpc]; rfl
    unfold SendState.onHelloFrame
    split
    · rename_i hst
      exact .stop hk (recvControl_error hst)
    · rename_i p hp
      have htype := recvControl_type hp
      split
      · exact .stop hk (by decide)
      · exact .stop hk (by decide)
      · rename_i hhello
        split
        · exact .stay hk
        · split
          · rename_i sends st herr
            obtain ⟨hnil, hst⟩ := adoptPeerHello_error herr
            dsimp only at hnil hst
            rw [hnil]
            exact .stop hk hst
          · refine .greeted hk ?_ rfl rfl rfl rfl rfl
            rw [← htype, hhello]
            rfl
      · exact .stay hk
  · rename_i content retries hpc
    have hk : s.pc.exchange = some .file := by rw [hpc]; rfl
    split
    · rename_i hst
      exact .stop hk (controlFrame_error hst)
    · split
      · split
        · exact .stop hk (by decide)
        · exact .outcome hk content (fun _ h => onResumeResp_error h)
      · exact .stay hk
  · rename_i content retries endOff payload hpc
    have hk : s.pc.exchange = some .file := by rw [hpc]; rfl
    split
    · rename_i hst
      exact .stop hk (controlFrame_error hst)
    · split
      · split
        · exact .stop hk (by decide)
        · exact .outcome hk content (fun _ h => onVerifyResult_error h)
      · exact .stay hk
  · rename_i io d hpc
    have hk : s.pc.exchange = some .file := by rw [hpc]; rfl
    have same : s.SameCall { s with flow := d.flow } := ⟨rfl, rfl, rfl, rfl, rfl, rfl⟩
    exact .data hk same io (onAckFrame_sound _ _ _ _)
  · rename_i size retries skip hpc
    have hk : s.pc.exchange = some .file := by rw [hpc]; rfl
    split
    · rename_i hst
      exact .stop hk (controlFrame_error hst)
    · rename_i p hp
      split
      · rename_i hack
        refine .filed hk ?_ rfl rfl rfl rfl rfl rfl
        rw [← controlFrame_type hp, hack]
        rfl
      · exact .stay hk
  · rename_i retries hpc
    have hk : s.pc.exchange = some .eot := by rw [hpc]; rfl
    split
    · rename_i hst
      exact .stop hk (controlFrame_error hst)
    · rename_i p hp
      split
      · rename_i hack
        refine .finished hk ?_
        rw [← controlFrame_type hp, hack]
        rfl
      · exact .stay hk

/-- **The sender on a timeout.** -/
theorem SendState.onTimeout_step (env : SendEnv) {s : SendState} (hidle : s.pc ≠ .idle)
    (timer : HelloTimer) : SendStep env s none (s.onTimeout env timer) := by
  -- a resend: one packet of the exchange's own kind
  have hresend : ∀ {k : ExchangeKind} {p : Send} {s' : SendState},
      s.pc.exchange = some k → s'.pc.exchange = some k → s.SameCall s' →
      k.request p.type = true → SendStep env s none ([p], s') := by
    intro k p s' hk hk' same hp
    refine .within hk hk' same ?_
    intro q hq
    rw [List.mem_singleton.mp hq]
    exact hp
  unfold SendState.onTimeout
  split
  · rename_i hpc
    exact absurd hpc hidle
  · rename_i retries hpc
    have hk : s.pc.exchange = some .hello := by rw [hpc]; rfl
    split
    · exact .stop hk (by decide)
    · split
      · exact .stay hk
      · exact hresend hk rfl ⟨rfl, rfl, rfl, rfl, rfl, rfl⟩ rfl
    · exact .stay hk
  · rename_i content retries hpc
    have hk : s.pc.exchange = some .file := by rw [hpc]; rfl
    split
    · exact .stop hk (by decide)
    · exact hresend hk rfl ⟨rfl, rfl, rfl, rfl, rfl, rfl⟩ rfl
  · rename_i content retries endOff payload hpc
    have hk : s.pc.exchange = some .file := by rw [hpc]; rfl
    split
    · exact .stop hk (by decide)
    · exact hresend hk rfl ⟨rfl, rfl, rfl, rfl, rfl, rfl⟩ rfl
  · rename_i io d hpc
    have hk : s.pc.exchange = some .file := by rw [hpc]; rfl
    have same : s.SameCall { s with flow := d.flow } := ⟨rfl, rfl, rfl, rfl, rfl, rfl⟩
    exact .data hk same io (onAckTimeout_sound _ _)
  · rename_i size retries skip hpc
    have hk : s.pc.exchange = some .file := by rw [hpc]; rfl
    split
    · exact .stop hk (by decide)
    · exact hresend hk rfl ⟨rfl, rfl, rfl, rfl, rfl, rfl⟩ rfl
  · rename_i retries hpc
    have hk : s.pc.exchange = some .eot := by rw [hpc]; rfl
    split
    · exact .stop hk (by decide)
    · exact hresend hk rfl ⟨rfl, rfl, rfl, rfl, rfl, rfl⟩ rfl

end Steps

end ValProtocol
