/-
  ValProtocol.Hooks.Receiver
  ──────────────────────────
  `val_receive_files` (`src/val_core.c` lines 1701-1728) and
  `val_internal_receive_files` (`src/val_receiver.c` lines 250-1058) as a
  program over its hooks, with every early return.

  Durations, metrics and the log are left out, and so is the branch behind
  `predecide_skip`, which is always 0.
-/
import ValProtocol.Hooks.Calls
import ValProtocol.Session.Receiver

namespace ValProtocol.Hooks

open Programs

/-! ## §1. The decision where to start. -/

/-- `determine_resume_action` for the file behind `path`. -/
def determineResumeAction (env : RecvEnv) (mtu : Nat) (path : Bytes) (incoming : Nat) :
    Program ResumeDecision := do
  let file ← fopen path .rb
  match file with
  | none => pure .startZero
  | some f => do
      let _ ← fseek f 0 .seekEnd
      let existing ← ftell f
      if existing < 0 then do
        fclose f
        pure .startZero
      else
        let size := existing.toNat
        match env.cfg.resume.mode with
        | .never => do
            fclose f
            pure .startZero
        | .skipExisting => do
            fclose f
            pure (if size > 0 then .skipFile else .startZero)
        | .tail =>
            if size = 0 then do
              fclose f
              pure .startZero
            else if size > incoming then do
              fclose f
              pure (if env.cfg.resume.mismatchSkip then .skipFile else .startZero)
            else do
              let len := verifyLength env.cfg.resume size
              let crc ← crc32Region env.cfg env.provider mtu f
                (throughLong env.cfg.longBits (size - len)) len
              fclose f
              match crc with
              | .error _ => pure .startZero
              | .ok crc => pure ⟨.verifyFirst, size, crc.toNat, len⟩

/-- What the negotiation settles: the start offset and whether the file is
skipped. -/
abbrev Settled := Except Status (Nat × Bool)

/-- `on_file_start` with the offset that has been settled. -/
def startAt (f : RecvFile) (off : Nat) (skipping : Bool) : Program Settled := do
  onFileStart f.name f.announced.senderPath f.size off
  pure (.ok (off, skipping))

/-- The VERIFY round of both branches; `NEVER` does not look at
`mismatch_skip`. -/
def verifyRound (env : RecvEnv) (mtu : Nat) (f : RecvFile) (dec : ResumeDecision) :
    Program Settled := do
  let r ← waitVerifyRequest dec.wire
  match r with
  | .error st => pure (.error st)
  | .ok vbuf => do
      let req := deserializeVerifyRequest vbuf
      let file ← fopen f.path .rb
      match file with
      | none => do
          postPacket (sendVerifyResult .resumeVerify 0)
          pure (.error .io)
      | some lf => do
          let crc ← crc32Region env.cfg env.provider mtu lf req.offset req.length
          fclose lf
          let localCrc := match crc with
            | .ok crc => crc.toNat
            | .error _ => 0
          let same := match crc with
            | .ok crc => crc.toNat == req.crc
            | .error _ => false
          let result : Status :=
            if same then .ok
            else if env.cfg.resume.mode ≠ .never ∧ env.cfg.resume.mismatchSkip then .skipped
            else .resumeVerify
          postPacket (sendVerifyResult result localCrc)
          match result with
          | .ok => startAt f dec.offset false
          | .skipped => startAt f f.size true
          | _ => startAt f 0 false

/-- RESUME_REQ is answered. -/
def answerResume (env : RecvEnv) (mtu : Nat) (f : RecvFile) : Program Settled := do
  let dec ← determineResumeAction env mtu f.path f.size
  let st ← sendPacket ⟨.resumeResp, dec.wire, 0, true⟩
  if st ≠ .ok then pure (.error st)
  else
    match dec.action with
    | .skipFile => startAt f f.size true
    | .startZero => startAt f 0 false
    | .startOffset => startAt f dec.offset false
    | .verifyFirst => verifyRound env mtu f dec
    | .abortFile => do
        postPacket (sendError .aborted 0)
        pure (.error .aborted)

/-- `val_construct_target_path`; `none` when the path does not fit. -/
def constructTargetPath (env : RecvEnv) (dir name : Bytes) : Option Bytes :=
  let path := if dir ≠ [] then dir ++ env.pathSep :: name else name
  if path.length < maxPath * 2 + 8 then some path else none

/-- The metadata validation of the `NEVER` branches: whether the file is to be
skipped. -/
def validateMetadata (env : RecvEnv) (dir : Bytes) (f : RecvFile) :
    Program (Except Status Bool) :=
  match constructTargetPath env dir f.name with
  | none => pure (.error .invalidArg)
  | some path => do
      let act ← validator f.announced path
      match act with
      | .abort => do
          postPacket (sendError .aborted 0)
          pure (.error .aborted)
      | .skip => pure (.ok true)
      | _ => pure (.ok false)

/-- `VAL_RESUME_NEVER` without a RESUME_REQ; the status of the DATA_ACK is
looked at behind `on_file_start` when the wait has timed out. -/
def legacyStart (env : RecvEnv) (dir : Bytes) (f : RecvFile) (timedOut : Bool) :
    Program Settled := do
  let st ← sendPacket (sendBare .dataAck 0)
  if timedOut = false ∧ st ≠ .ok then pure (.error st)
  else do
    onFileStart f.name f.announced.senderPath f.size 0
    if st ≠ .ok then pure (.error st)
    else do
      let verdict ← validateMetadata env dir f
      match verdict with
      | .error st => pure (.error st)
      | .ok true => pure (.ok (f.size, true))
      | .ok false => pure (.ok (0, false))

/-- The branch of `VAL_RESUME_NEVER`. -/
def neverNegotiation (env : RecvEnv) (mtu : Nat) (dir : Bytes) (f : RecvFile) :
    Program Settled := do
  let r ← recvPacket .opMeta
  match r with
  | .ok p =>
      if p.type = .resumeReq then do
        let settled ← answerResume env mtu f
        match settled with
        | .error st => pure (.error st)
        | .ok (off, skipping) => do
            let verdict ← validateMetadata env dir f
            match verdict with
            | .error st => pure (.error st)
            | .ok true => do
                let st ← sendPacket (sendBare .dataAck f.size)
                if st ≠ .ok then pure (.error st) else startAt f f.size true
            | .ok false => pure (.ok (off, skipping))
      else legacyStart env dir f false
  | .error st =>
      if st = .timeout then legacyStart env dir f true
      else if st = .crc ∨ st = .io ∨ st = .aborted ∨ st = .protocol then pure (.error st)
      else legacyStart env dir f false

/-- The wait for RESUME_REQ. -/
def awaitResumeReq (env : RecvEnv) : Program (Except Status Unit) :=
  Prog.forever (fun tries : Nat => do
    let r ← recvPacket .opMeta
    match r with
    | .ok p =>
        match p.type with
        | .resumeReq => pure (.leave (.ok ()))
        | .cancel => pure (.leave (.error .aborted))
        | .error => pure (.leave (.error .protocol))
        | _ => pure (.again tries)
    | .error st =>
        if st ≠ .timeout ∨ tries = 0 then pure (.leave (.error st))
        else do
          delay
          pure (.again (tries - 1))) env.cfg.retries.ackRetries

/-- The branch of the other resume modes. -/
def resumeNegotiation (env : RecvEnv) (mtu : Nat) (f : RecvFile) : Program Settled := do
  let r ← awaitResumeReq env
  match r with
  | .error st => pure (.error st)
  | .ok () => do
      let settled ← answerResume env mtu f
      match settled with
      | .error st => pure (.error st)
      | .ok (off, _) => pure (.ok (off, decide (off ≥ f.size)))

/-! ## §2. The file. -/

/-- The receive of a skipped file with its retries. -/
def recvSkipped (retries : Nat) : Program (Except Status Arrival) :=
  Prog.forever (fun tries : Nat => do
    let r ← recvPacket .opDoneAck
    match r with
    | .ok p => pure (.leave (.ok p))
    | .error st =>
        if st ≠ .timeout ∨ tries = 0 then pure (.leave (.error st))
        else do
          delay
          pure (.again (tries - 1))) retries

/-- The wait for DONE of a skipped file; `some` is what the call returns. -/
def skipLoop (env : RecvEnv) (size : Nat) : Program (Option Status) :=
  Prog.forever (fun _ : Unit => do
    let r ← recvSkipped env.cfg.retries.ackRetries
    match r with
    | .error st => pure (.leave (some st))
    | .ok p =>
        match p.type with
        | .done => do
            postPacket (sendBare .doneAck size)
            pure (.leave none)
        | .eot => do
            postPacket (sendBare .eotAck 0)
            pure (.leave (some .ok))
        | .cancel => pure (.leave (some .aborted))
        | _ => pure (.again ())) ()

/-- What a call has received so far. -/
structure RecvBatch where
  transferred : Nat
  completed : Nat
  startMs : Nat
  deriving Repr, DecidableEq

/-- The receiver's progress record. -/
def RecvBatch.info (b : RecvBatch) (name : Bytes) (written now : Nat) : ProgressInfo :=
  let transferred := (b.transferred + written) % 2 ^ 64
  let elapsed := if b.startMs ≠ 0 ∧ now ≥ b.startMs then now - b.startMs else 0
  { bytesTransferred := transferred
    totalBytes := 0
    currentFileBytes := written
    filesCompleted := b.completed
    totalFiles := 0
    transferRateBps :=
      if elapsed > 0 then min (transferred * 1000 % 2 ^ 64 / elapsed) 0xFFFFFFFF else 0
    etaSeconds := 0
    currentFilename := name }

/-- What stays the same while a file is received. -/
structure Download where
  file : RecvFile
  handle : Handle
  batch : RecvBatch

/-- The locals of the data loop. -/
structure RecvLocals where
  written : Nat
  pktsSinceAck : Nat
  deriving Repr, DecidableEq

/-- `fclose` of the output file, and what the call returns. -/
def closeWith (u : Download) (st : Status) : Program (Option Status) := do
  fclose u.handle
  pure (some st)

/-- The exit behind a CANCEL packet or a local cancel. -/
def closeAborted (u : Download) : Program (Option Status) := do
  fclose u.handle
  onFileComplete u.file.name u.file.announced.senderPath .aborted
  pure (some .aborted)

/-- The receive of the data loop: the checks before every attempt, and the
retries. -/
def recvData (env : RecvEnv) (u : Download) : Program (Except (Option Status) Arrival) :=
  Prog.forever (fun tries : Nat => do
    let health ← checkHealth
    if health ≠ .ok then do
      let r ← closeWith u health
      pure (.leave (.error r))
    else do
      let connected ← isConnected
      if connected = false then do
        let r ← closeWith u .io
        pure (.leave (.error r))
      else do
        let cancelled ← checkForCancel
        if cancelled then do
          let r ← closeAborted u
          pure (.leave (.error r))
        else do
          let r ← recvPacket .opDataRecv
          match r with
          | .ok p => pure (.leave (.ok p))
          | .error st =>
              if (st ≠ .timeout ∧ st ≠ .crc) ∨ tries = 0 then do
                let r ← closeWith u st
                pure (.leave (.error r))
              else do
                delay
                pure (.again (tries - 1))) env.cfg.retries.dataRetries

/-- `ack_stride`. -/
def ackStride : Nat := 1

/-- Behind the ordering of a DATA packet: progress, the cancel it may have
caused, and the acknowledgement by stride. -/
def afterChunk (u : Download) (d : RecvLocals) (inOrder : Bool) :
    Program (Pass RecvLocals (Option Status)) := do
  let now ← getTicks
  onProgress (u.batch.info u.file.name d.written now.toNat)
  let cancelled ← checkForCancel
  if cancelled then do
    let r ← closeAborted u
    pure (.leave r)
  else do
    let d := { d with pktsSinceAck := if inOrder then d.pktsSinceAck + 1 else d.pktsSinceAck }
    if (inOrder ∧ d.written ≥ u.file.size) ∨ d.pktsSinceAck ≥ ackStride then do
      let st ← sendPacket (sendBare .dataAck d.written)
      if st ≠ .ok then do
        let r ← closeWith u st
        pure (.leave r)
      else pure (.again { d with pktsSinceAck := 0 })
    else pure (.again d)

/-- `fwrite` of a payload that is not empty. -/
def storeChunk (f : Handle) (payload : Bytes) : Program Nat :=
  if payload.length ≠ 0 then fwrite f payload else pure 0

/-- A DATA packet. -/
def onData (u : Download) (d : RecvLocals) (p : Arrival) :
    Program (Pass RecvLocals (Option Status)) :=
  let off := if p.off.toNat = uint64Max then d.written else p.off.toNat
  if off = d.written then do
    let stored ← storeChunk u.handle p.payload
    if stored ≠ p.payload.length then do
      let r ← closeWith u .io
      pure (.leave r)
    else do
      let completesFile := d.written + p.payload.length ≥ u.file.size
      let d := { d with written := (d.written + p.payload.length) % 2 ^ 64 }
      if completesFile then do
        let st ← sendPacket (sendBare .dataAck d.written)
        if st ≠ .ok then do
          let r ← closeWith u st
          pure (.leave r)
        else pure (.again { d with pktsSinceAck := 0 })
      else afterChunk u d true
  else if off < d.written then do
    postPacket (sendBare .dataAck d.written)
    afterChunk u d false
  else do
    postPacket (sendNak d.written)
    postPacket (sendBare .dataAck d.written)
    afterChunk u d false

/-- The data loop; `some` is what the call returns. -/
def dataLoop (env : RecvEnv) (u : Download) (resumeOff : Nat) : Program (Option Status) :=
  Prog.forever (fun d : RecvLocals => do
    let r ← recvData env u
    match r with
    | .error st => pure (.leave st)
    | .ok p =>
        match p.type with
        | .data => onData u d p
        | .done => do
            let st ← sendPacket (sendBare .doneAck d.written)
            if st ≠ .ok then do
              let r ← closeWith u st
              pure (.leave r)
            else do
              fclose u.handle
              onFileComplete u.file.name u.file.announced.senderPath .ok
              pure (.leave none)
        | .error => do
            let r ← closeWith u .protocol
            pure (.leave r)
        | .cancel => do
            let r ← closeAborted u
            pure (.leave r)
        | .sendMeta => do
            let r ← closeWith u .protocol
            pure (.leave r)
        | _ => pure (.again d)) ⟨resumeOff, 0⟩

/-- Where the file starts, by `resume.mode`. -/
def settle (env : RecvEnv) (mtu : Nat) (dir : Bytes) (f : RecvFile) : Program Settled :=
  if env.cfg.resume.mode = .never then neverNegotiation env mtu dir f
  else resumeNegotiation env mtu f

/-- A file from its SEND_META on; `some` is what the call returns. -/
def receiveFile (env : RecvEnv) (mtu : Nat) (dir : Bytes) (b : RecvBatch) (f : RecvFile) :
    Program (Option Status) := do
  let settled ← settle env mtu dir f
  match settled with
  | .error st => pure (some st)
  | .ok (_, true) => do
      let r ← skipLoop env f.size
      match r with
      | some st => pure (some st)
      | none => do
          onFileComplete f.name f.announced.senderPath .skipped
          pure none
  | .ok (resumeOff, false) => do
      let file ← fopen f.path (if resumeOff = 0 then .wb else .ab)
      match file with
      | none => pure (some .io)
      | some h => dataLoop env ⟨f, h, b⟩ resumeOff

/-! ## §3. The call. -/

/-- The metadata wait. -/
def awaitMeta (env : RecvEnv) : Program (Except Status Arrival) :=
  Prog.forever (fun tries : Nat => do
    let health ← checkHealth
    if health ≠ .ok then pure (.leave (.error health))
    else do
      let connected ← isConnected
      if connected = false then pure (.leave (.error .io))
      else do
        let cancelled ← checkForCancel
        if cancelled then pure (.leave (.error .aborted))
        else do
          let r ← recvPacket .opMeta
          match r with
          | .ok p => pure (.leave (.ok p))
          | .error st =>
              if st ≠ .timeout ∨ tries = 0 then pure (.leave (.error st))
              else do
                delay
                pure (.again (tries - 1))) env.cfg.retries.metaRetries

/-- What the receiver makes of a SEND_META payload. -/
def incomingFile (env : RecvEnv) (dir payload : Bytes) : RecvFile :=
  let announced := deserializeMeta payload
  let name := cleanFilename (maxFilename + 1) (serializeMeta announced)
  ⟨announced, name, joinPath env.pathSep 512 dir name⟩

/-- `val_internal_receive_files`. -/
def receiveFiles (env : RecvEnv) (mtu : Nat) (dir : Bytes) : Program Status := do
  let start ← getTicks
  Prog.forever (fun b : RecvBatch => do
    let r ← awaitMeta env
    match r with
    | .error st => pure (.leave st)
    | .ok p =>
        match p.type with
        | .eot => do
            postPacket (sendBare .eotAck 0)
            pure (.leave .ok)
        | .cancel => pure (.leave .aborted)
        | .sendMeta =>
            if p.payload.length < wireMetaSize then pure (.leave .protocol)
            else do
              let f := incomingFile env dir p.payload
              let r ← receiveFile env mtu dir b f
              match r with
              | some st => pure (.leave st)
              | none => pure (.again { b with
                  transferred := (b.transferred + f.size) % 2 ^ 64
                  completed := (b.completed + 1) % 2 ^ 32 })
        | _ => pure (.leave .protocol)) ⟨0, 0, start.toNat⟩

/-- `val_receive_files`. -/
def valReceiveFiles (env : RecvEnv) (outputDirectory : Bytes) : Program Status := do
  let hs ← handshake
  match hs with
  | .error st => pure st
  | .ok mtu => receiveFiles env mtu (outputDirectory.take maxPath)

end ValProtocol.Hooks
