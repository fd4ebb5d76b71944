/-
  ValProtocol.Hooks.Calls
  ───────────────────────
  What `val_send_files` and `val_receive_files` ask of the world while they
  run: the six filesystem hooks, the packets sent and received, the waits of
  `src/val_core.c`, the tests for a cancel, the clock, and the application's
  callbacks.

  Every call may be answered in any way.  A wait or a send is one call with
  the status it returns; what the calls of a session share (the window, the
  health counters, `last_error`) is asked for where the code reads it.

    • `crc32Region` — `val_internal_crc32_region` (`src/val_core.c` lines
      414-456), which both sides run on an open file.
-/
import ValProtocol.Lib.Programs
import ValProtocol.Session.Resume

namespace ValProtocol.Hooks

open Programs

/-! ## §1. Calls. -/

/-- What `fopen` returns when it is not NULL. -/
abbrev Handle := Nat

inductive OpenMode where
  | rb
  | wb
  | ab
  deriving Repr, DecidableEq

inductive Whence where
  | seekSet
  | seekEnd
  deriving Repr, DecidableEq

/-- The timeout class of a receive (`VAL_OP_…`). -/
inductive WaitOp where
  | opMeta
  | opDataRecv
  | opDoneAck
  deriving Repr, DecidableEq

/-- A packet as `val_internal_recv_packet` delivers it. -/
structure Arrival where
  type : PacketType
  payload : Bytes
  off : UInt64
  deriving Repr, DecidableEq

/-- `val_progress_info_t`. -/
structure ProgressInfo where
  bytesTransferred : Nat
  totalBytes : Nat
  currentFileBytes : Nat
  filesCompleted : Nat
  totalFiles : Nat
  transferRateBps : Nat
  etaSeconds : Nat
  currentFilename : Bytes
  deriving Repr, DecidableEq

/-- The calls.  `postPacket` is a send whose status is discarded. -/
inductive Call where
  | fopen (path : Bytes) (mode : OpenMode)
  | fclose (h : Handle)
  | fseek (h : Handle) (offset : Int) (whence : Whence)
  | ftell (h : Handle)
  | fread (h : Handle) (size : Nat)
  | fwrite (h : Handle) (bytes : Bytes)
  | handshake
  | sendPacket (p : Send)
  | postPacket (p : Send)
  | recvPacket (op : WaitOp)
  | recvUntilDeadline
  | waitResumeResp
  | waitVerifyResult (payload : Bytes) (endOff : Nat)
  | waitVerifyRequest (resumeResp : Bytes)
  | waitDoneAck (size : Nat)
  | waitEotAck
  | checkForCancel
  | checkHealth
  | isConnected
  | softTrips
  | currentWindow
  | negotiatedWindow
  | getTicks
  | delay
  | validator (announced : MetaPayload) (targetPath : Bytes)
  | onFileStart (name path : Bytes) (size resumeOff : Nat)
  | onFileComplete (name path : Bytes) (st : Status)
  | onProgress (info : ProgressInfo)

/-- What each call is answered with.  A handshake reports the packet size in
force behind it, which is a legal one. -/
abbrev Call.Answer : Call → Type
  | .fopen _ _ => Option Handle
  | .fseek _ _ _ | .ftell _ => Int
  | .fread _ _ => Bytes
  | .fwrite _ _ => Nat
  | .handshake => Except Status { mtu : Nat // minPacketSize ≤ mtu }
  | .sendPacket _ | .waitDoneAck _ | .waitEotAck | .checkHealth => Status
  | .recvPacket _ | .recvUntilDeadline => Except Status Arrival
  | .waitResumeResp | .waitVerifyRequest _ => Except Status Bytes
  | .waitVerifyResult _ _ => Except Status UInt64
  | .checkForCancel | .isConnected => Bool
  | .softTrips | .currentWindow | .negotiatedWindow | .getTicks => UInt32
  | .validator _ _ => ValidationAction
  | .fclose _ | .postPacket _ | .delay | .onFileStart _ _ _ _ | .onFileComplete _ _ _
  | .onProgress _ => Unit

/-- The answers of a world where nothing fails: files are empty, the peer
starts every file at zero, and no packet arrives. -/
def Call.calm : (c : Call) → c.Answer
  | .fopen _ _ => some 0
  | .fseek _ _ _ => 0
  | .ftell _ => 0
  | .fread _ size => List.replicate size 0
  | .fwrite _ bytes => bytes.length
  | .handshake => .ok ⟨minPacketSize, Nat.le_refl _⟩
  | .sendPacket _ | .waitDoneAck _ | .waitEotAck | .checkHealth => .ok
  | .recvPacket _ | .recvUntilDeadline => .error .timeout
  | .waitResumeResp => .ok (List.replicate wireResumeRespSize 0)
  | .waitVerifyRequest _ => .error .timeout
  | .waitVerifyResult _ _ => .error .timeout
  | .checkForCancel => false
  | .isConnected => true
  | .softTrips | .getTicks => 0
  | .currentWindow | .negotiatedWindow => 1
  | .validator _ _ => .accept
  | .fclose _ | .postPacket _ | .delay | .onFileStart _ _ _ _ | .onFileComplete _ _ _
  | .onProgress _ => ()

abbrev Program := Prog Call Call.Answer

/-- One call with its answer. -/
abbrev Event := Programs.Event Call Call.Answer

/-! ## §2. The calls by name. -/

abbrev fopen (path : Bytes) (mode : OpenMode) : Program (Option Handle) :=
  Prog.ask (Call.fopen path mode)

abbrev fclose (h : Handle) : Program Unit := Prog.ask (Call.fclose h)

abbrev fseek (h : Handle) (offset : Int) (whence : Whence) : Program Int :=
  Prog.ask (Call.fseek h offset whence)

abbrev ftell (h : Handle) : Program Int := Prog.ask (Call.ftell h)

abbrev fread (h : Handle) (size : Nat) : Program Bytes := Prog.ask (Call.fread h size)

abbrev fwrite (h : Handle) (bytes : Bytes) : Program Nat := Prog.ask (Call.fwrite h bytes)

abbrev handshake : Program (Except Status { mtu : Nat // minPacketSize ≤ mtu }) :=
  Prog.ask Call.handshake

abbrev sendPacket (p : Send) : Program Status := Prog.ask (Call.sendPacket p)

abbrev postPacket (p : Send) : Program Unit := Prog.ask (Call.postPacket p)

abbrev recvPacket (op : WaitOp) : Program (Except Status Arrival) := Prog.ask (Call.recvPacket op)

abbrev recvUntilDeadline : Program (Except Status Arrival) := Prog.ask Call.recvUntilDeadline

abbrev waitResumeResp : Program (Except Status Bytes) := Prog.ask Call.waitResumeResp

abbrev waitVerifyResult (payload : Bytes) (endOff : Nat) : Program (Except Status UInt64) :=
  Prog.ask (Call.waitVerifyResult payload endOff)

abbrev waitVerifyRequest (resumeResp : Bytes) : Program (Except Status Bytes) :=
  Prog.ask (Call.waitVerifyRequest resumeResp)

abbrev waitDoneAck (size : Nat) : Program Status := Prog.ask (Call.waitDoneAck size)

abbrev waitEotAck : Program Status := Prog.ask Call.waitEotAck

abbrev checkForCancel : Program Bool := Prog.ask Call.checkForCancel

abbrev checkHealth : Program Status := Prog.ask Call.checkHealth

abbrev isConnected : Program Bool := Prog.ask Call.isConnected

abbrev softTrips : Program UInt32 := Prog.ask Call.softTrips

abbrev currentWindow : Program UInt32 := Prog.ask Call.currentWindow

abbrev negotiatedWindow : Program UInt32 := Prog.ask Call.negotiatedWindow

abbrev getTicks : Program UInt32 := Prog.ask Call.getTicks

abbrev delay : Program Unit := Prog.ask Call.delay

abbrev validator (announced : MetaPayload) (targetPath : Bytes) : Program ValidationAction :=
  Prog.ask (Call.validator announced targetPath)

abbrev onFileStart (name path : Bytes) (size resumeOff : Nat) : Program Unit :=
  Prog.ask (Call.onFileStart name path size resumeOff)

abbrev onFileComplete (name path : Bytes) (st : Status) : Program Unit :=
  Prog.ask (Call.onFileComplete name path st)

abbrev onProgress (info : ProgressInfo) : Program Unit := Prog.ask (Call.onProgress info)

/-! ## §3. An open file. -/

/-- `fseek` to an absolute offset, where the code asks for it. -/
def seekIf (wanted : Bool) (f : Handle) (offset : Int) : Program Int :=
  if wanted then fseek f offset .seekSet else pure 0

/-- The incremental branch: `left` bytes in chunks of `step`. -/
def regionLoop (f : Handle) (step left : Nat) : Program (Except Status UInt32) :=
  Prog.forever (fun x : Nat × UInt32 =>
    if x.1 > 0 then do
      let take := if x.1 < step then x.1 else step
      let chunk ← fread f take
      if chunk.length ≠ take then pure (.leave (.error .io))
      else pure (.again (x.1 - take, crc32UpdateState x.2 chunk))
    else pure (.leave (.ok (crc32FinalizeState x.2)))) (left, crc32InitState)

/-- `val_internal_crc32_region`. -/
def crc32Region (cfg : Config) (provider : Option CrcProvider) (mtu : Nat) (f : Handle)
    (start length : Nat) : Program (Except Status UInt32) :=
  let step := regionStep cfg mtu
  if step = 0 then pure (.error .invalidArg)
  else do
    let st ← fseek f (toSigned cfg.longBits start) .seekSet
    if st ≠ 0 then pure (.error .io)
    else
      match provider with
      | some p =>
          if length ≤ step then do
            let window ← fread f length
            if window.length ≠ length then pure (.error .io)
            else pure (.ok (p 0xFFFFFFFF window))
          else regionLoop f step length
      | none => regionLoop f step length

end ValProtocol.Hooks
