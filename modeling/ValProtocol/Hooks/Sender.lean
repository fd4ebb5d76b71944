/-
  ValProtocol.Hooks.Sender
  ────────────────────────
  `val_send_files` (`src/val_sender.c` lines 948-1010) as a program over its
  hooks: the pre-scan of the sizes, SEND_META and the resume negotiation, the
  windowed data loop with every early return, DONE and EOT.

  Durations, metrics and the log are left out, and so are the checks for NULL
  pointers that `val_session_create` rules out.
-/
import ValProtocol.Hooks.Calls
import ValProtocol.Session.Sender

namespace ValProtocol.Hooks

open Programs

/-! ## §1. Before the data. -/

/-- `get_file_size_and_name`. -/
def getFileSizeAndName (filepath : Bytes) : Program (Except Status (Nat × Bytes)) := do
  let file ← fopen filepath .rb
  match file with
  | none => pure (.error .io)
  | some f => do
      let st ← fseek f 0 .seekEnd
      if st ≠ 0 then do
        fclose f
        pure (.error .io)
      else do
        let size ← ftell f
        if size < 0 then do
          fclose f
          pure (.error .io)
        else do
          let st ← fseek f 0 .seekSet
          if st ≠ 0 then do
            fclose f
            pure (.error .io)
          else do
            fclose f
            pure (.ok (size.toNat, cleanFilename (maxFilename + 1) (baseName filepath)))

/-- `send_metadata`. -/
def sendMetadata (senderPath : Bytes) (fileSize : Nat) (filename : Bytes) : Program Status :=
  sendPacket ⟨.sendMeta, serializeMeta
    ⟨nulField maxFilename filename, nulField maxPath (cleanPath (maxPath + 1) senderPath),
      fileSize⟩, 0, true⟩

/-- The VERIFY round of `handle_resume_negotiation` over `length` bytes up to
`resumeOff`. -/
def verifyTail (env : SendEnv) (mtu : Nat) (filepath : Bytes) (resumeOff length : Nat) :
    Program (Except Status Nat) := do
  let start := resumeOff - length
  let file ← fopen filepath .rb
  match file with
  | none => pure (.error .io)
  | some f => do
      let _ ← seekIf (start > 0) f (toSigned 64 start)
      let crc ← crc32Region env.cfg env.provider mtu f start length
      fclose f
      match crc with
      | .error st => pure (.error st)
      | .ok crc => do
          let payload := serializeVerifyRequest ⟨start, crc.toNat, length⟩
          let st ← sendPacket (sendVerify payload)
          if st ≠ .ok then pure (.error st)
          else do
            let off ← waitVerifyResult payload resumeOff
            pure (off.map UInt64.toNat)

/-- The switch of `handle_resume_negotiation` on a RESUME_RESP payload;
`uint64Max` is the sentinel for a skip. -/
def onResumeResp (env : SendEnv) (mtu size : Nat) (filepath buf : Bytes) :
    Program (Except Status Nat) :=
  let rr := deserializeResumeResp buf
  let resumeOff := if rr.resumeOffset > size then 0 else rr.resumeOffset
  match ResumeAction.ofWire rr.action with
  | some .startZero => pure (.ok 0)
  | some .startOffset => pure (.ok resumeOff)
  | some .skipFile => pure (.ok uint64Max)
  | some .abortFile => pure (.error .aborted)
  | some .verifyFirst =>
      let vlen32 := (if rr.verifyLength > resumeOff then resumeOff else rr.verifyLength) % 2 ^ 32
      if vlen32 = 0 then pure (.ok resumeOff) else verifyTail env mtu filepath resumeOff vlen32
  | none => pure (.error .protocol)

/-- `handle_resume_negotiation`. -/
def handleResumeNegotiation (env : SendEnv) (mtu size : Nat) (filepath : Bytes) :
    Program (Except Status Nat) := do
  let st ← sendPacket (sendBare .resumeReq 0)
  if st ≠ .ok then pure (.error st)
  else do
    let resp ← waitResumeResp
    match resp with
    | .error st => pure (.error st)
    | .ok buf =>
        if buf.length < wireResumeRespSize then pure (.error .protocol)
        else onResumeResp env mtu size filepath buf

/-! ## §2. Progress. -/

/-- `val_send_progress_ctx_t`, which lives for one call of `val_send_files`. -/
structure ProgressCtx where
  totalFiles : Nat
  filesSent : Nat
  batchTotalBytes : Nat
  batchSentBytes : Nat
  currentFileSent : Nat
  startMs : Nat
  lastEmitTick : Nat
  deriving Repr, DecidableEq

/-- The record of `val_emit_progress_sender` at tick `now`. -/
def ProgressCtx.info (ctx : ProgressCtx) (filename : Bytes) (now : Nat) : ProgressInfo :=
  let transferred := (ctx.batchSentBytes + ctx.currentFileSent) % 2 ^ 64
  let elapsed := if ctx.startMs ≠ 0 ∧ now ≥ ctx.startMs then now - ctx.startMs else 0
  let rate := if elapsed > 0 then min (transferred * 1000 % 2 ^ 64 / elapsed) 0xFFFFFFFF else 0
  { bytesTransferred := transferred
    totalBytes := ctx.batchTotalBytes
    currentFileBytes := ctx.currentFileSent
    filesCompleted := ctx.filesSent
    totalFiles := ctx.totalFiles
    transferRateBps := rate
    etaSeconds := if elapsed > 0 ∧ ctx.batchTotalBytes > transferred ∧ rate > 0
      then (ctx.batchTotalBytes - transferred) / rate % 2 ^ 32 else 0
    currentFilename := filename }

/-- `val_emit_progress_sender`. -/
def emitProgressSender (ctx : ProgressCtx) (filename : Bytes) (bytesSent : Nat)
    (forceEmit : Bool) : Program ProgressCtx := do
  let now ← getTicks
  let now := now.toNat
  let ctx := { ctx with
    startMs := if ctx.startMs = 0 ∧ now ≠ 0 then now else ctx.startMs
    currentFileSent := bytesSent }
  if !forceEmit ∧ ctx.lastEmitTick ≠ 0 ∧ now ≠ 0
      ∧ (now + 2 ^ 32 - ctx.lastEmitTick) % 2 ^ 32 < 50 then pure ctx
  else do
    onProgress (ctx.info filename now)
    pure { ctx with lastEmitTick := now }

/-! ## §3. The data loop. -/

/-- What stays the same while a file is sent. -/
structure Upload where
  handle : Handle
  name : Bytes
  path : Bytes
  size : Nat
  maxPayload : Nat
  resumeOff : Nat
  deriving Repr, DecidableEq

/-- The locals of the data loop. -/
structure SendLocals where
  lastAcked : Nat
  nextToSend : Nat
  inflight : Nat
  win : Nat
  fileCursor : Nat
  firstAckGrace : Bool
  triesRem : Nat
  ctx : ProgressCtx
  deriving Repr, DecidableEq

/-- The read loop of `send_data_packet`. -/
def readFully (f : Handle) (toRead : Nat) : Program Bytes :=
  Prog.forever (fun got : Bytes =>
    if got.length < toRead then do
      let chunk ← fread f (toRead - got.length)
      if chunk.length = 0 then pure (.leave got) else pure (.again (got ++ chunk))
    else pure (.leave got)) []

/-- `send_data_packet`. -/
def sendDataPacket (u : Upload) (d : SendLocals) (includeOffset : Bool) :
    Program (Except Status SendLocals) :=
  if u.maxPayload = 0 then pure (.error .invalidArg)
  else if d.nextToSend ≥ u.size then pure (.ok d)
  else if includeOffset ∧ u.maxPayload ≤ 8 then pure (.error .invalidArg)
  else
    let maxThis := if includeOffset then u.maxPayload - 8 else u.maxPayload
    let toRead := if u.size - d.nextToSend < maxThis then u.size - d.nextToSend else maxThis
    if toRead = 0 then pure (.ok d)
    else do
      let _ ← seekIf (d.fileCursor ≠ d.nextToSend) u.handle (toSigned 64 d.nextToSend)
      let got ← readFully u.handle toRead
      if got.length ≠ toRead then pure (.error .io)
      else do
        let st ← sendPacket ⟨.data, got, d.nextToSend, includeOffset⟩
        if st ≠ .ok then pure (.error st)
        else pure (.ok { d with
          nextToSend := d.nextToSend + toRead
          fileCursor := d.nextToSend + toRead
          inflight := d.inflight + 1 })

/-- The rewind to `last_acked` in `handle_nak_retransmit` and behind a timeout:
the handle is put there, as the offset `target`, when it is not there. -/
def rewind (u : Upload) (d : SendLocals) (target : Int) : Program SendLocals := do
  let pos ← ftell u.handle
  let _ ← seekIf (pos < 0 ∨ pos ≠ d.lastAcked) u.handle target
  let win ← currentWindow
  pure { d with
    inflight := 0
    nextToSend := d.lastAcked
    fileCursor := d.lastAcked
    win := if win.toNat ≠ 0 then win.toNat else 1 }

/-- `wait_for_window_ack`; the flag is `*restart_window`. -/
def waitForWindowAck (env : SendEnv) (u : Upload) (targetAck : Nat) (d : SendLocals) :
    Program (Except Status (SendLocals × Bool)) :=
  Prog.forever (fun d : SendLocals => do
    let cancelled ← checkForCancel
    if cancelled then pure (.leave (.error .aborted))
    else do
      let r ← recvUntilDeadline
      match r with
      | .ok p =>
          match p.type with
          | .cancel => pure (.leave (.error .aborted))
          | .dataNak => do
              let off := p.off.toNat
              let d := { d with
                lastAcked := if off > d.lastAcked ∧ off ≤ u.size then off else d.lastAcked }
              let d ← rewind u d (toSigned env.cfg.longBits d.lastAcked)
              pure (.leave (.ok (d, true)))
          | .dataAck =>
              let off := p.off.toNat
              let d := { d with firstAckGrace := false }
              if off ≤ d.lastAcked then pure (.again d)
              else do
                let d := { d with lastAcked := off }
                let ctx ← emitProgressSender d.ctx u.name d.lastAcked true
                let d := { d with ctx := ctx }
                let cancelled ← checkForCancel
                if cancelled then pure (.leave (.error .aborted))
                else
                  let outstanding :=
                    if d.nextToSend > d.lastAcked then d.nextToSend - d.lastAcked else 0
                  let d := { d with
                    inflight := (outstanding + u.maxPayload - 1) / u.maxPayload % 2 ^ 32
                    triesRem := env.cfg.retries.ackRetries }
                  if d.lastAcked < targetAck then pure (.again d)
                  else pure (.leave (.ok (d, false)))
          | .error => pure (.leave (.error .protocol))
          | _ => pure (.again d)
      | .error st =>
          if st ≠ .timeout ∧ st ≠ .crc then pure (.leave (.error st))
          else if d.triesRem = 0 then pure (.leave (.error st))
          else do
            let d ← rewind u d (toSigned 64 d.lastAcked)
            pure (.leave (.ok ({ d with triesRem := d.triesRem - 1 }, true)))) d

/-- `fclose`, `on_file_complete` with the error, and the error returned. -/
def abandon {α : Type} (u : Upload) (st : Status) : Program (Except Status α) := do
  fclose u.handle
  onFileComplete u.name u.path st
  pure (.error st)

/-- The fill loop. -/
def fillWindow (u : Upload) (d : SendLocals) : Program (Except Status SendLocals) :=
  Prog.forever (fun d : SendLocals =>
    if d.inflight < d.win ∧ d.nextToSend < u.size then do
      let cancelled ← checkForCancel
      if cancelled then do
        let r ← abandon u .aborted
        pure (.leave r)
      else do
        let r ← sendDataPacket u d (d.nextToSend == d.lastAcked)
        match r with
        | .error st => do
            -- the one exit of the loops that reports nothing
            fclose u.handle
            pure (.leave (.error st))
        | .ok d => pure (.again d)
    else pure (.leave (.ok d))) d

/-- The inner loop: fill the window and wait until `target_ack` is reached. -/
def sendWindow (env : SendEnv) (u : Upload) (d : SendLocals) :
    Program (Except Status SendLocals) :=
  Prog.forever (fun d : SendLocals => do
    let r ← fillWindow u d
    match r with
    | .error st => pure (.leave (.error st))
    | .ok d => do
        let r ← waitForWindowAck env u d.nextToSend d
        match r with
        | .error st => do
            let r ← abandon u st
            pure (.leave r)
        | .ok (d, true) => do
            let win ← currentWindow
            pure (.again { d with win := if win.toNat ≠ 0 then win.toNat else 1 })
        | .ok (d, false) => pure (.leave (.ok d))) d

/-- The health check of the outer loop: a performance trip is tolerated once. -/
def checkSendHealth (u : Upload) : Program (Except Status Unit) := do
  let health ← checkHealth
  if health = .ok then pure (.ok ())
  else if health = .performance then do
    let trips ← softTrips
    if trips.toNat ≥ 2 then abandon u .performance else pure (.ok ())
  else abandon u health

/-- The retries of a new window; a large resume gets up to six more for its
first acknowledgement. -/
def windowTries (env : SendEnv) (u : Upload) (d : SendLocals) : Nat :=
  let base := if env.cfg.retries.ackRetries ≠ 0 then env.cfg.retries.ackRetries else 1
  let extra := if u.resumeOff > 0 then min (u.resumeOff / (256 * 1024 * 1024)) 6 else 0
  if d.firstAckGrace ∧ d.lastAcked = u.resumeOff then (base + extra) % 2 ^ 8 else base

/-- The outer loop, `while (last_acked < size)`. -/
def sendLoop (env : SendEnv) (u : Upload) (d : SendLocals) :
    Program (Except Status SendLocals) :=
  Prog.forever (fun d : SendLocals =>
    if d.lastAcked < u.size then do
      let cancelled ← checkForCancel
      if cancelled then do
        let r ← abandon u .aborted
        pure (.leave r)
      else do
        let healthy ← checkSendHealth u
        match healthy with
        | .error st => pure (.leave (.error st))
        | .ok () => do
            let r ← sendWindow env u { d with triesRem := windowTries env u d }
            match r with
            | .error st => pure (.leave (.error st))
            | .ok d => pure (.again d)
    else pure (.leave (.ok d))) d

/-! ## §4. One file. -/

/-- A file the receiver skips: DONE without data. -/
def sendSkipped (name path : Bytes) (size : Nat) : Program Status := do
  onFileStart name path size size
  let st ← sendPacket (sendBare .done size)
  if st ≠ .ok then pure st
  else do
    let st ← waitDoneAck size
    if st ≠ .ok then do
      onFileComplete name path st
      pure st
    else do
      onFileComplete name path .skipped
      pure .ok

/-- From the open handle to the end of the file. -/
def sendOpened (env : SendEnv) (u : Upload) (mtu win : Nat) (ctx : ProgressCtx) :
    Program (Except Status ProgressCtx) := do
  onFileStart u.name u.path u.size u.resumeOff
  let ctx ← emitProgressSender ctx u.name u.resumeOff true
  let cancelled ← checkForCancel
  if cancelled then abandon u .aborted
  else if mtu ≤ wireHeaderSize + wireTrailerSize then do
    fclose u.handle
    pure (.error .invalidArg)
  else do
    let r ← sendLoop env u
      { lastAcked := u.resumeOff, nextToSend := u.resumeOff, inflight := 0, win := win,
        fileCursor := u.resumeOff, firstAckGrace := u.resumeOff > 0, triesRem := 0, ctx := ctx }
    match r with
    | .error st => pure (.error st)
    | .ok d => do
        let st ← sendPacket (sendBare .done u.size)
        if st ≠ .ok then abandon u st
        else do
          let st ← waitDoneAck u.size
          if st ≠ .ok then abandon u st
          else do
            fclose u.handle
            onFileComplete u.name u.path .ok
            pure (.ok d.ctx)

/-- `send_file_data_adaptive`. -/
def sendFileDataAdaptive (env : SendEnv) (mtu : Nat) (ctx : ProgressCtx) (filepath : Bytes) :
    Program (Except Status ProgressCtx) := do
  let current ← currentWindow
  let negotiated ← negotiatedWindow
  let win := if current.toNat ≠ 0 then current.toNat
    else if negotiated.toNat ≠ 0 then negotiated.toNat else 1
  let r ← getFileSizeAndName filepath
  match r with
  | .error st => pure (.error st)
  | .ok (size, name) => do
      let path := if env.senderPath.getD [] ≠ [] then env.senderPath.getD [] else filepath
      let st ← sendMetadata path size name
      if st ≠ .ok then pure (.error st)
      else do
        let r ← handleResumeNegotiation env mtu size filepath
        match r with
        | .error st => pure (.error st)
        | .ok off =>
            if off = uint64Max then do
              let st ← sendSkipped name path size
              if st ≠ .ok then pure (.error st) else pure (.ok ctx)
            else do
              let file ← fopen filepath .rb
              match file with
              | none => pure (.error .io)
              | some f => do
                  let st ← seekIf (off ≠ 0) f (toSigned 64 off)
                  if st ≠ 0 then do
                    fclose f
                    pure (.error .io)
                  else sendOpened env ⟨f, name, path, size,
                    mtu - wireHeaderSize - wireTrailerSize, off⟩ mtu win ctx

/-! ## §5. The batch. -/

/-- The pre-scan of the sizes. -/
def batchTotalBytes : List Bytes → Nat → Program Nat
  | [], total => pure total
  | filepath :: rest, total => do
      let r ← getFileSizeAndName filepath
      match r with
      | .ok (size, _) => batchTotalBytes rest ((total + size) % 2 ^ 64)
      | .error _ => batchTotalBytes rest total

/-- The loop over the files; the context is handed on as each file leaves it. -/
def sendEach (env : SendEnv) (mtu : Nat) : List Bytes → ProgressCtx → Program Status
  | [], _ => pure .ok
  | filepath :: rest, ctx => do
      let r ← sendFileDataAdaptive env mtu ctx filepath
      match r with
      | .error st => pure st
      | .ok ctx => sendEach env mtu rest ctx

/-- `val_send_files`. -/
def valSendFiles (env : SendEnv) (filepaths : List Bytes) : Program Status :=
  if filepaths = [] then pure .invalidArg
  else do
    let hs ← handshake
    match hs with
    | .error st => pure st
    | .ok mtu => do
        let total ← batchTotalBytes filepaths 0
        let start ← getTicks
        let st ← sendEach env mtu filepaths
          { totalFiles := filepaths.length % 2 ^ 32, filesSent := 0, batchTotalBytes := total,
            batchSentBytes := 0, currentFileSent := 0, startMs := start.toNat,
            lastEmitTick := 0 }
        if st ≠ .ok then pure st
        else do
          let st ← sendPacket (sendBare .eot 0)
          if st ≠ .ok then pure st else waitEotAck

end ValProtocol.Hooks
