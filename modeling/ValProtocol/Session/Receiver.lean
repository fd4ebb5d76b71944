/-
  ValProtocol.Session.Receiver
  ────────────────────────────
  `val_receive_files` (`src/val_core.c` lines 1701-1728) with the receiver's
  handshake loop (lines 1987-2066) and `val_internal_receive_files`
  (`src/val_receiver.c` lines 250-1058): the metadata wait, the resume
  negotiation with and without `VAL_RESUME_NEVER`, the VERIFY wait, the data
  loop of `ValProtocol.Data.Receiver`, the DONE wait of a skipped file.

  The receiver blocks in seven places; `RecvPc` names them.  One step is what
  happens on one event up to the next place.

    • `RecvState.onFrame_step`, `RecvState.onTimeout_step` — every step
      waits on, works on the current file, fails, or answers the request
      that ends an exchange (`RecvStep`).
-/
import ValProtocol.Session.Sender

namespace ValProtocol

open LittleEndian

/-! ## §1. Files, waits and state. -/

/-- What the receiver keeps of a SEND_META: the payload, `clean_name` and
`full_output_path`. -/
structure RecvFile where
  announced : MetaPayload
  name : Bytes
  path : Bytes
  deriving Repr, DecidableEq

def RecvFile.size (f : RecvFile) : Nat := f.announced.fileSize

/-- Where the receiver is blocked; `idle` is outside a call. -/
inductive RecvPc where
  | idle
  | helloWait
  | metaWait (tries : Nat)
  | neverPeek (f : RecvFile)
  | resumeReqWait (f : RecvFile) (tries : Nat)
  | verifyWait (f : RecvFile) (tries : Nat) (resp : Bytes) (resumeOff : Nat)
  | dataWait (f : RecvFile) (d : RecvData)
  | skipWait (f : RecvFile) (tries : Nat)
  deriving Repr, DecidableEq

/-- A call of the receiver's `on_file_start`.  `existing` is the file behind
the target path at that moment, which the callback does not see. -/
structure RecvStart where
  file : Nat
  size : Nat
  offset : Nat
  existing : Option Bytes
  deriving Repr, DecidableEq

/-- The receiving session.  `files` is the filesystem, with the file being
written as it was before it was opened; `completed` are the files counted by
`files_completed`, `log` the calls that have returned.  `turn` counts the
exchanges the receiver has answered for good and is not part of the code. -/
structure RecvState where
  pc : RecvPc
  handshakeDone : Bool
  mtu : Nat
  flow : Flow
  outputDirectory : Bytes
  files : Bytes → Option Bytes
  starts : List RecvStart
  completed : List MetaPayload
  log : List (List MetaPayload × Status)
  turn : Nat

/-- After `val_session_create`. -/
def RecvState.fresh (cfg : Config) (files : Bytes → Option Bytes) : RecvState where
  pc := .idle
  handshakeDone := false
  mtu := cfg.packetSize
  flow := freshFlow
  outputDirectory := []
  files := files
  starts := []
  completed := []
  log := []
  turn := 0

/-- What the filesystem does in a step: `fopen` for writing can fail, and
`fwrite` can store only the first bytes. -/
structure FsOutcome where
  openFails : Bool
  short : Option Nat
  deriving Repr, DecidableEq

/-- Nothing goes wrong. -/
def FsOutcome.good : FsOutcome := ⟨false, none⟩

namespace RecvState

variable (env : RecvEnv)

/-! ## §2. Between the waits. -/

/-- `val_receive_files` returns. -/
def ret (s : RecvState) (st : Status) : RecvState :=
  { s with pc := .idle, completed := [], log := s.log ++ [(s.completed, st)] }

/-- `fclose` of the target file with this content. -/
def closed (s : RecvState) (f : RecvFile) (content : Bytes) : RecvState :=
  { s with files := Function.update s.files f.path (some content) }

/-- `on_file_start`. -/
def started (s : RecvState) (f : RecvFile) (off : Nat) : RecvState :=
  { s with starts := s.starts ++ [⟨s.completed.length, f.size, off, s.files f.path⟩] }

/-- The file is complete: back to the metadata wait. -/
def fileDone (s : RecvState) (f : RecvFile) : RecvState :=
  { s with
    completed := s.completed ++ [f.announced], turn := s.turn + 1,
    pc := .metaWait env.cfg.retries.metaRetries }

/-- From the `fopen` for writing to the first wait behind it. -/
def openTarget (s : RecvState) (f : RecvFile) (off : Nat) (skipping : Bool)
    (fs : FsOutcome) : RecvState :=
  if skipping then { s with pc := .skipWait f env.cfg.retries.ackRetries }
  else if fs.openFails then s.ret .io
  else
    -- mode "wb" for a fresh start, "ab" otherwise
    let content := if off = 0 then [] else (s.files f.path).getD []
    { s with pc := .dataWait f (initRecv env.cfg content off f.size) }

/-- `val_construct_target_path` before its length check; the name is cleaned
already. -/
def targetPath (s : RecvState) (f : RecvFile) : Bytes :=
  if s.outputDirectory ≠ [] then s.outputDirectory ++ env.pathSep :: f.name else f.name

/-- Metadata validation behind the negotiation of the `NEVER` paths: packets
sent, and whether the file is skipped or the call returns.  `ackSkip` is the
path that tells the sender about the skip. -/
def validate (s : RecvState) (f : RecvFile) (ackSkip : Bool) : List Send × Except Status Bool :=
  if (s.targetPath env f).length ≥ maxPath * 2 + 8 then ([], .error .invalidArg)
  else
    match (env.validator.map (fun v => v f.announced (s.targetPath env f))).getD .accept with
    | .abort => ([sendError .aborted 0], .error .aborted)
    | .skip => (if ackSkip then [sendBare .dataAck f.size] else [], .ok true)
    | _ => ([], .ok false)

/-- The start offset is settled: `on_file_start`, validation where the code
has it, and the target file. -/
def settle (s : RecvState) (f : RecvFile) (off : Nat) (skipping ackSkip : Bool)
    (fs : FsOutcome) : List Send × RecvState :=
  let s := s.started f off
  if env.cfg.resume.mode = .never then
    match s.validate env f ackSkip with
    | (sends, .error st) => (sends, s.ret st)
    | (sends, .ok true) =>
        (sends, (if ackSkip then s.started f f.size else s).openTarget env f f.size true fs)
    | (sends, .ok false) => (sends, s.openTarget env f off skipping fs)
  else ([], s.openTarget env f off (decide (off ≥ f.size)) fs)

/-- RESUME_REQ is answered with the decision. -/
def answerResume (s : RecvState) (f : RecvFile) (fs : FsOutcome) : List Send × RecvState :=
  let dec := determineResumeAction env s.mtu (s.files f.path) f.size
  let resp : Send := ⟨.resumeResp, dec.wire, 0, true⟩
  match dec.action with
  | .skipFile =>
      let r := s.settle env f f.size true true fs
      (resp :: r.1, r.2)
  | .startZero =>
      let r := s.settle env f 0 false true fs
      (resp :: r.1, r.2)
  | .startOffset =>
      let r := s.settle env f dec.offset false true fs
      (resp :: r.1, r.2)
  | .verifyFirst =>
      ([resp], { s with pc := .verifyWait f env.cfg.retries.ackRetries dec.wire dec.offset })
  | .abortFile => ([resp, sendError .aborted 0], s.ret .aborted)

/-- `VAL_RESUME_NEVER` without a RESUME_REQ: a DATA_ACK at 0 comes first. -/
def legacyStart (s : RecvState) (f : RecvFile) (fs : FsOutcome) : List Send × RecvState :=
  let r := s.settle env f 0 false false fs
  (sendBare .dataAck 0 :: r.1, r.2)

/-- A VERIFY request is answered. -/
def answerVerify (s : RecvState) (f : RecvFile) (resumeOff : Nat) (payload : Bytes)
    (fs : FsOutcome) : List Send × RecvState :=
  match s.files f.path with
  | none => ([sendVerifyResult .resumeVerify 0], s.ret .io)
  | some file =>
      let v := verifyVerdict env s.mtu file payload
      let r := match v.1 with
        | .ok => s.settle env f resumeOff false true fs
        | .skipped => s.settle env f f.size true true fs
        | _ => s.settle env f 0 false true fs
      (sendVerifyResult v.1 v.2 :: r.1, r.2)

/-- What the receiver makes of a SEND_META payload.  The name is read from the
structure's memory up to its first NUL. -/
def incomingFile (s : RecvState) (payload : Bytes) : RecvFile :=
  let announced := deserializeMeta payload
  let name := cleanFilename (maxFilename + 1) (serializeMeta announced)
  ⟨announced, name, joinPath env.pathSep 512 s.outputDirectory name⟩

/-- SEND_META is accepted. -/
def acceptMeta (s : RecvState) (payload : Bytes) : RecvState :=
  { s with
    pc := if env.cfg.resume.mode = .never then .neverPeek (s.incomingFile env payload)
      else .resumeReqWait (s.incomingFile env payload) env.cfg.retries.ackRetries }

/-- Behind one round of the data loop. -/
def onRecvResult (s : RecvState) (f : RecvFile) (r : List Send × RecvResult) :
    List Send × RecvState :=
  match r.2 with
  | .wait d => (r.1, { s with pc := .dataWait f d })
  | .complete d => (r.1, (s.closed f d.file).fileDone env f)
  | .fail d st => (r.1, (s.closed f d.file).ret st)

/-! ## §3. The events. -/

/-- The handshake loop on a frame. -/
def onHelloFrame (s : RecvState) (fr : Frame) : List Send × RecvState :=
  match recvControl s.mtu wireHandshakeSize fr with
  | .error st => ([], s.ret st)
  | .ok p =>
      match p.type with
      | .cancel => ([], s.ret .aborted)
      | .error => ([], s.ret .protocol)
      | .hello =>
          if p.len < wireHandshakeSize then ([], s)
          else
            let peer := deserializeHandshake p.payload
            match adoptPeerHello env.cfg s.flow peer with
            | .error (sends, st) => (sends, s.ret st)
            | .ok n =>
                let missing := missingFeatures (peer.required &&& builtinFeatures) builtinFeatures
                if missing ≠ 0 then
                  ([sendError .featureNegotiation (missingFeatureDetail missing)],
                    s.ret .featureNegotiation)
                else
                  ([sendHello env.cfg n.mtu],
                    { s with
                      handshakeDone := true, mtu := n.mtu, flow := n.flow, turn := s.turn + 1,
                      pc := .metaWait env.cfg.retries.metaRetries })
      | _ => ([], s)

/-- The metadata wait on a frame: everything but SEND_META, EOT and CANCEL is
a protocol error. -/
def onMetaFrame (s : RecvState) (fr : Frame) : List Send × RecvState :=
  match recvFrame s.mtu (some s.mtu) fr with
  | .error st => ([], s.ret st)
  | .ok p =>
      match p.type with
      | .eot => ([sendBare .eotAck 0], { s.ret .ok with turn := s.turn + 1 })
      | .cancel => ([], s.ret .aborted)
      | .sendMeta =>
          if p.len < wireMetaSize then ([], s.ret .protocol)
          else ([], s.acceptMeta env p.payload)
      | _ => ([], s.ret .protocol)

/-- A frame in one of the waits. -/
def onFrame (fr : Frame) (fs : FsOutcome) (s : RecvState) : List Send × RecvState :=
  match s.pc with
  | .idle => ([], s)
  | .helloWait => s.onHelloFrame env fr
  | .metaWait _ => s.onMetaFrame env fr
  | .neverPeek f =>
      match recvFrame s.mtu none fr with
      | .ok p => if p.type = .resumeReq then s.answerResume env f fs else s.legacyStart env f fs
      | .error st =>
          if st = .crc ∨ st = .io ∨ st = .aborted ∨ st = .protocol then ([], s.ret st)
          else s.legacyStart env f fs
  | .resumeReqWait f _ =>
      match recvFrame s.mtu none fr with
      | .error st => ([], s.ret st)
      | .ok p =>
          match p.type with
          | .resumeReq => s.answerResume env f fs
          | .cancel => ([], s.ret .aborted)
          | .error => ([], s.ret .protocol)
          | _ => ([], s)
  | .verifyWait f _ resp resumeOff =>
      match controlFrame s.mtu wireVerifyReqPayloadSize fr with
      | .error st => ([], s.ret st)
      | .ok p =>
          match p.type with
          | .resumeReq => ([⟨.resumeResp, resp, 0, true⟩], s)
          | .verify => s.answerVerify env f resumeOff p.payload fs
          | _ => ([], s)
  | .dataWait f d => s.onRecvResult env f (onDataFrame env.cfg s.mtu d fr fs.short)
  | .skipWait f _ =>
      match recvFrame s.mtu (some s.mtu) fr with
      | .error st => ([], s.ret st)
      | .ok p =>
          match p.type with
          | .done => ([sendBare .doneAck f.size], s.fileDone env f)
          | .eot => ([sendBare .eotAck 0], { s.ret .ok with turn := s.turn + 1 })
          | .cancel => ([], s.ret .aborted)
          | _ => ([], { s with pc := .skipWait f env.cfg.retries.ackRetries })

/-- A wait times out. -/
def onTimeout (timer : HelloTimer) (fs : FsOutcome) (s : RecvState) : List Send × RecvState :=
  match s.pc with
  | .idle => ([], s)
  | .helloWait => if timer = .expired then ([], s.ret .timeout) else ([], s)
  | .metaWait tries =>
      if tries = 0 then ([], s.ret .timeout) else ([], { s with pc := .metaWait (tries - 1) })
  | .neverPeek f => s.legacyStart env f fs
  | .resumeReqWait f tries =>
      if tries = 0 then ([], s.ret .timeout)
      else ([], { s with pc := .resumeReqWait f (tries - 1) })
  | .verifyWait f tries resp resumeOff =>
      if tries = 0 then ([], s.ret .timeout)
      else ([], { s with pc := .verifyWait f (tries - 1) resp resumeOff })
  | .dataWait f d => s.onRecvResult env f (onDataTimeout d)
  | .skipWait f tries =>
      if tries = 0 then ([], s.ret .timeout) else ([], { s with pc := .skipWait f (tries - 1) })

/-- `val_receive_files` up to its first wait. -/
def call (s : RecvState) (dir : Bytes) : RecvState :=
  let s := { s with outputDirectory := dir.take maxPath }
  { s with
    pc := if s.handshakeDone then .metaWait env.cfg.retries.metaRetries else .helloWait }

end RecvState

/-! ## §4. One step of the receiver. -/

/-- What the receiver is busy with. -/
inductive RecvPhase where
  | none
  | hello
  | header
  | file (f : RecvFile)
  deriving Repr, DecidableEq

def RecvPc.phase : RecvPc → RecvPhase
  | .idle => .none
  | .helloWait => .hello
  | .metaWait _ => .header
  | .neverPeek f | .resumeReqWait f _ | .verifyWait f _ _ _ | .dataWait f _ | .skipWait f _ =>
      .file f

theorem RecvState.acceptMeta_phase (env : RecvEnv) (s : RecvState) (payload : Bytes) :
    (s.acceptMeta env payload).pc.phase = .file (s.incomingFile env payload) := by
  unfold RecvState.acceptMeta
  dsimp only
  split <;> rfl

/-- The answers sent inside a file. -/
def PacketType.isReply : PacketType → Bool
  | .resumeResp | .verify | .dataAck | .dataNak | .error => true
  | _ => false

/-- What a step inside a call leaves alone. -/
structure RecvState.SameCall (s s' : RecvState) : Prop where
  turn_eq : s'.turn = s.turn
  completed_eq : s'.completed = s.completed
  log_eq : s'.log = s.log
  done_eq : s'.handshakeDone = s.handshakeDone
  mtu_eq : s'.mtu = s.mtu
  dir_eq : s'.outputDirectory = s.outputDirectory

theorem RecvState.SameCall.rfl {s : RecvState} : s.SameCall s :=
  ⟨Eq.refl _, Eq.refl _, Eq.refl _, Eq.refl _, Eq.refl _, Eq.refl _⟩

/-- **What one step of the receiver can do**; `last` is the frame it took, if
any. -/
inductive RecvStep (env : RecvEnv) (s : RecvState) (last : Option Frame) :
    List Send × RecvState → Prop where
  /-- the wait goes on -/
  | waits {s' : RecvState} (hphase : s'.pc.phase = s.pc.phase) (same : s.SameCall s') :
      RecvStep env s last ([], s')
  /-- work on the current file -/
  | within {f : RecvFile} {sends : List Send} {s' : RecvState}
      (hphase : s.pc.phase = .file f) (hphase' : s'.pc.phase = .file f) (same : s.SameCall s')
      (sends_ok : ∀ p ∈ sends, p.type.isReply = true) : RecvStep env s last (sends, s')
  /-- the call returns with an error -/
  | stopped {s₁ : RecvState} {st : Status} (same : s.SameCall s₁) (hst : st ≠ .ok) :
      RecvStep env s last ([], s₁.ret st)
  /-- the call returns with an error behind the answers to the current file -/
  | failed {f : RecvFile} {sends : List Send} {s₁ : RecvState} {st : Status}
      (hphase : s.pc.phase = .file f) (same : s.SameCall s₁) (hst : st ≠ .ok)
      (sends_ok : ∀ p ∈ sends, p.type.isReply = true) :
      RecvStep env s last (sends, s₁.ret st)
  /-- the handshake is answered -/
  | greeted {fr : Frame} {s' : RecvState} {p : Send} (hphase : s.pc.phase = .hello)
      (hlast : last = some fr) (htype : PacketType.ofByte fr.type = .hello)
      (hphase' : s'.pc.phase = .header) (turn_eq : s'.turn = s.turn + 1)
      (completed_eq : s'.completed = s.completed) (log_eq : s'.log = s.log)
      (done_eq : s'.handshakeDone = true) (mtu_min : minPacketSize ≤ s'.mtu)
      (hp : p.type = .hello) : RecvStep env s last ([p], s')
  /-- a file is announced -/
  | opened {fr : Frame} {p : Packet} (hphase : s.pc.phase = .header) (hlast : last = some fr)
      (hrecv : recvFrame s.mtu (some s.mtu) fr = .ok p) (htype : p.type = .sendMeta)
      (hlen : wireMetaSize ≤ p.len) : RecvStep env s last ([], s.acceptMeta env p.payload)
  /-- the file is done -/
  | filed {f : RecvFile} {fr : Frame} {s₁ : RecvState} {off : Nat}
      (hphase : s.pc.phase = .file f) (hlast : last = some fr)
      (htype : PacketType.ofByte fr.type = .done) (same : s.SameCall s₁) :
      RecvStep env s last ([sendBare .doneAck off], s₁.fileDone env f)
  /-- the call returns `VAL_OK` -/
  | finished {fr : Frame} (hphase : s.pc.phase = .header ∨ ∃ f, s.pc.phase = .file f)
      (hlast : last = some fr) (htype : PacketType.ofByte fr.type = .eot) :
      RecvStep env s last ([sendBare .eotAck 0], { s.ret .ok with turn := s.turn + 1 })

section Steps

variable {env : RecvEnv} {s : RecvState} {last : Option Frame}

/-- Behind the negotiation the receiver works on the file or has failed. -/
theorem RecvStep.openTarget {f : RecvFile} {s₁ : RecvState} {sends : List Send}
    (hphase : s.pc.phase = .file f) (same : s.SameCall s₁)
    (sends_ok : ∀ p ∈ sends, p.type.isReply = true) (off : Nat) (skipping : Bool)
    (fs : FsOutcome) :
    RecvStep env s last (sends, s₁.openTarget env f off skipping fs) := by
  unfold RecvState.openTarget
  split
  · exact .within hphase rfl ⟨same.turn_eq, same.completed_eq, same.log_eq, same.done_eq,
      same.mtu_eq, same.dir_eq⟩ sends_ok
  · split
    · exact .failed hphase same (by decide) sends_ok
    · exact .within hphase rfl ⟨same.turn_eq, same.completed_eq, same.log_eq, same.done_eq,
        same.mtu_eq, same.dir_eq⟩ sends_ok

/-- Validation sends replies only. -/
theorem RecvState.validate_sends (env : RecvEnv) (s : RecvState) (f : RecvFile) (b : Bool) :
    ∀ p ∈ (s.validate env f b).1, p.type.isReply = true := by
  unfold RecvState.validate
  split
  · exact fun p hp => absurd hp List.not_mem_nil
  · split
    · intro p hp
      rw [List.mem_singleton.mp hp]
      rfl
    · intro p hp
      dsimp only at hp
      split at hp
      · rw [List.mem_singleton.mp hp]
        rfl
      · exact absurd hp List.not_mem_nil
    · exact fun p hp => absurd hp List.not_mem_nil

theorem RecvState.validate_error {env : RecvEnv} {s : RecvState} {f : RecvFile} {b : Bool}
    {sends : List Send} {st : Status} (h : s.validate env f b = (sends, .error st)) :
    st ≠ .ok := by
  unfold RecvState.validate at h
  split at h
  · cases h
    decide
  · split at h
    all_goals cases h
    decide

theorem RecvStep.settle {f : RecvFile} (hphase : s.pc.phase = .file f) (off : Nat)
    (skipping ackSkip : Bool) (fs : FsOutcome) {q : Send} (hq : q.type.isReply = true) :
    RecvStep env s last
      (q :: (s.settle env f off skipping ackSkip fs).1, (s.settle env f off skipping ackSkip fs).2)
      := by
  have same : s.SameCall (s.started f off) := ⟨rfl, rfl, rfl, rfl, rfl, rfl⟩
  have hone : ∀ p ∈ [q], p.type.isReply = true := by
    intro p hp
    rw [List.mem_singleton.mp hp]
    exact hq
  unfold RecvState.settle
  dsimp only
  split
  · -- the `NEVER` paths validate here
    have hsends := RecvState.validate_sends env (s.started f off) f ackSkip
    have hcons : ∀ {l : List Send}, (∀ p ∈ l, p.type.isReply = true) →
        ∀ p ∈ q :: l, p.type.isReply = true := by
      intro l hl p hp
      rcases List.mem_cons.mp hp with rfl | hp
      · exact hq
      · exact hl p hp
    split
    · rename_i sends st hv
      rw [hv] at hsends
      dsimp only at hsends ⊢
      exact .failed hphase same (RecvState.validate_error hv) (hcons hsends)
    · rename_i sends hv
      rw [hv] at hsends
      have same' : s.SameCall (if ackSkip then (s.started f off).started f f.size
          else s.started f off) := by
        cases ackSkip <;> exact ⟨rfl, rfl, rfl, rfl, rfl, rfl⟩
      dsimp only at hsends ⊢
      exact .openTarget hphase same' (hcons hsends) _ _ fs
    · rename_i sends hv
      rw [hv] at hsends
      dsimp only at hsends ⊢
      exact .openTarget hphase same (hcons hsends) _ _ fs
  · exact .openTarget hphase same hone _ _ fs

theorem RecvStep.answerResume {f : RecvFile} (hphase : s.pc.phase = .file f) (fs : FsOutcome) :
    RecvStep env s last (s.answerResume env f fs) := by
  unfold RecvState.answerResume
  dsimp only
  split
  · exact .settle hphase _ _ _ fs rfl
  · exact .settle hphase _ _ _ fs rfl
  · exact .settle hphase _ _ _ fs rfl
  · refine .within hphase rfl ⟨rfl, rfl, rfl, rfl, rfl, rfl⟩ ?_
    intro p hp
    rw [List.mem_singleton.mp hp]
    rfl
  · refine .failed hphase .rfl (by decide) ?_
    intro p hp
    rcases List.mem_cons.mp hp with rfl | hp
    · rfl
    · rw [List.mem_singleton.mp hp]
      rfl

theorem RecvStep.legacyStart {f : RecvFile} (hphase : s.pc.phase = .file f) (fs : FsOutcome) :
    RecvStep env s last (s.legacyStart env f fs) :=
  .settle hphase _ _ _ fs rfl

theorem RecvStep.answerVerify {f : RecvFile} (hphase : s.pc.phase = .file f) (off : Nat)
    (payload : Bytes) (fs : FsOutcome) :
    RecvStep env s last (s.answerVerify env f off payload fs) := by
  unfold RecvState.answerVerify
  split
  · refine .failed hphase .rfl (by decide) ?_
    intro p hp
    rw [List.mem_singleton.mp hp]
    rfl
  · dsimp only
    split
    · exact .settle hphase _ _ _ fs rfl
    · exact .settle hphase _ _ _ fs rfl
    · exact .settle hphase _ _ _ fs rfl

/-- DATA is answered with DATA_ACK and DATA_NAK. -/
theorem onData_reply (d : RecvData) (p : Packet) (short : Option Nat) :
    (∀ q ∈ (onData d p short).1, q.type = .dataAck ∨ q.type = .dataNak)
    ∧ ∀ d' st, (onData d p short).2 = .fail d' st → st = .io := by
  have hack : ∀ off, ∀ q ∈ [sendBare .dataAck off], q.type = .dataAck ∨ q.type = .dataNak := by
    intro off q hq
    rw [List.mem_singleton.mp hq]
    exact Or.inl rfl
  have hcad : ∀ q ∈ (cadence d).1, q.type = .dataAck ∨ q.type = .dataNak := by
    unfold cadence
    split
    · exact hack _
    · exact fun q hq => absurd hq List.not_mem_nil
  by_cases hin : (if p.off = uint64Max then d.written else p.off) = d.written
  · -- in order
    simp only [onData, hin, if_true]
    unfold onInOrder
    generalize (if p.len ≠ 0 then Option.filter (fun x => decide (x < p.len)) short else none)
      = cut
    cases cut with
    | some k =>
        refine ⟨fun q hq => absurd hq List.not_mem_nil, ?_⟩
        intro d' st h
        cases h
        rfl
    | none =>
        dsimp only
        split
        · exact ⟨hack _, fun _ _ h => by cases h⟩
        · split
          · exact ⟨hack _, fun _ _ h => by cases h⟩
          · exact ⟨fun q hq => absurd hq List.not_mem_nil, fun _ _ h => by cases h⟩
  · simp only [onData, hin, if_false]
    generalize (if p.off = uint64Max then d.written else p.off) = off
    refine ⟨?_, fun _ _ h => by cases h⟩
    intro q hq
    rcases List.mem_append.mp hq with hq | hq
    · split at hq
      · exact hack _ q hq
      · rcases List.mem_cons.mp hq with rfl | hq
        · exact Or.inr rfl
        · exact hack _ q hq
    · exact hcad q hq

/-- One round of the data loop. -/
theorem RecvStep.data {f : RecvFile} (hphase : s.pc.phase = .file f) {mtu : Nat} {d : RecvData}
    {fr : Frame} (short : Option Nat) :
    RecvStep env s (some fr) (s.onRecvResult env f (onDataFrame env.cfg mtu d fr short)) := by
  have hnil : ∀ p ∈ ([] : List Send), p.type.isReply = true :=
    fun p hp => absurd hp List.not_mem_nil
  have hclose : ∀ c, s.SameCall (s.closed f c) := fun c => ⟨rfl, rfl, rfl, rfl, rfl, rfl⟩
  unfold onDataFrame
  dsimp only
  split
  · rename_i st hst
    exact .failed hphase (hclose _) (recvFrame_error hst) hnil
  · rename_i p hp
    split
    · -- DATA
      obtain ⟨htypes, hfail⟩ := onData_reply { d with tries := env.cfg.retries.dataRetries } p short
      have hsends : ∀ q ∈ (onData { d with tries := env.cfg.retries.dataRetries } p short).1,
          q.type.isReply = true := by
        intro q hq
        rcases htypes q hq with ht | ht
        all_goals
          rw [ht]
          rfl
      unfold RecvState.onRecvResult
      split
      · exact .within hphase rfl ⟨rfl, rfl, rfl, rfl, rfl, rfl⟩ hsends
      · rename_i d' hd'
        exact absurd hd' (onData_not_complete _ _ _ _)
      · rename_i d' st hd'
        exact .failed hphase (hclose _) (by rw [hfail _ _ hd']; decide) hsends
    · rename_i hdone
      exact .filed hphase rfl (by rw [← recvFrame_type hp, hdone]) (hclose _)
    · exact .failed hphase (hclose _) (by decide) hnil
    · exact .failed hphase (hclose _) (by decide) hnil
    · exact .failed hphase (hclose _) (by decide) hnil
    · exact .within hphase rfl ⟨rfl, rfl, rfl, rfl, rfl, rfl⟩ hnil

/-- The waits of the resume negotiation. -/
def RecvPc.negotiates : RecvPc → Bool
  | .neverPeek _ | .resumeReqWait _ _ | .verifyWait _ _ _ _ => true
  | _ => false

/-- The resume negotiation on a frame; no exchange ends there, whatever the
frame is. -/
theorem RecvState.onFrame_negotiates (env : RecvEnv) {s : RecvState}
    (hneg : s.pc.negotiates = true) (fr : Frame) (fs : FsOutcome) (last : Option Frame) :
    RecvStep env s last (s.onFrame env fr fs) := by
  have stay : RecvStep env s last ([], s) := .waits rfl .rfl
  cases hpc : s.pc with
  | neverPeek f =>
      have hphase : s.pc.phase = .file f := by rw [hpc]; rfl
      unfold RecvState.onFrame
      rw [hpc]
      dsimp only
      split
      · split
        · exact .answerResume hphase fs
        · exact .legacyStart hphase fs
      · rename_i hst
        split
        · exact .stopped .rfl (recvFrame_error hst)
        · exact .legacyStart hphase fs
  | resumeReqWait f tries =>
      have hphase : s.pc.phase = .file f := by rw [hpc]; rfl
      unfold RecvState.onFrame
      rw [hpc]
      dsimp only
      split
      · rename_i hst
        exact .stopped .rfl (recvFrame_error hst)
      · split
        · exact .answerResume hphase fs
        · exact .stopped .rfl (by decide)
        · exact .stopped .rfl (by decide)
        · exact stay
  | verifyWait f tries resp off =>
      have hphase : s.pc.phase = .file f := by rw [hpc]; rfl
      unfold RecvState.onFrame
      rw [hpc]
      dsimp only
      split
      · rename_i hst
        exact .stopped .rfl (controlFrame_error hst)
      · split
        · refine .within hphase hphase .rfl ?_
          intro p hp
          rw [List.mem_singleton.mp hp]
          rfl
        · exact .answerVerify hphase _ _ fs
        · exact stay
  -- the other states do not negotiate
  | idle => rw [hpc] at hneg; cases hneg
  | helloWait => rw [hpc] at hneg; cases hneg
  | metaWait _ => rw [hpc] at hneg; cases hneg
  | dataWait _ _ => rw [hpc] at hneg; cases hneg
  | skipWait _ _ => rw [hpc] at hneg; cases hneg

/-- **The receiver on a frame.** -/
theorem RecvState.onFrame_step (env : RecvEnv) (s : RecvState) (fr : Frame) (fs : FsOutcome) :
    RecvStep env s (some fr) (s.onFrame env fr fs) := by
  have stay : RecvStep env s (some fr) ([], s) := .waits rfl .rfl
  by_cases hneg : s.pc.negotiates = true
  · exact RecvState.onFrame_negotiates env hneg fr fs _
  unfold RecvState.onFrame
  split
  · exact stay
  · -- the handshake
    rename_i hpc
    unfold RecvState.onHelloFrame
    split
    · rename_i hst
      exact .stopped .rfl (recvControl_error hst)
    · rename_i p hp
      split
      · exact .stopped .rfl (by decide)
      · exact .stopped .rfl (by decide)
      · rename_i hhello
        split
        · exact stay
        · dsimp only
          split
          · rename_i sends st herr
            obtain ⟨hnil, hst⟩ := adoptPeerHello_error herr
            dsimp only at hnil hst
            rw [hnil]
            exact .stopped .rfl hst
          · rename_i n hn
            rw [if_neg (by simp [missingFeatures, builtinFeatures])]
            refine .greeted ?_ rfl ?_ rfl rfl rfl rfl rfl (adoptPeerHello_mtu hn) rfl
            · rw [hpc]
              rfl
            · rw [← recvControl_type hp, hhello]
      · exact stay
  · -- the metadata wait
    rename_i tries hpc
    have hphase : s.pc.phase = .header := by rw [hpc]; rfl
    unfold RecvState.onMetaFrame
    split
    · rename_i hst
      exact .stopped .rfl (recvFrame_error hst)
    · rename_i p hp
      split
      · rename_i heot
        exact .finished (Or.inl hphase) rfl (by rw [← recvFrame_type hp, heot])
      · exact .stopped .rfl (by decide)
      · rename_i hmeta
        split
        · exact .stopped .rfl (by decide)
        · rename_i hlen
          exact .opened hphase rfl hp hmeta (by omega)
      · exact .stopped .rfl (by decide)
  · rename_i f hpc
    exact absurd (by rw [hpc]; rfl) hneg
  · rename_i f tries hpc
    exact absurd (by rw [hpc]; rfl) hneg
  · rename_i f tries resp off hpc
    exact absurd (by rw [hpc]; rfl) hneg
  · rename_i f d hpc
    have hphase : s.pc.phase = .file f := by rw [hpc]; rfl
    exact .data hphase _
  · rename_i f tries hpc
    have hphase : s.pc.phase = .file f := by rw [hpc]; rfl
    split
    · rename_i hst
      exact .stopped .rfl (recvFrame_error hst)
    · rename_i p hp
      split
      · rename_i hdone
        exact .filed hphase rfl (by rw [← recvFrame_type hp, hdone]) .rfl
      · rename_i heot
        exact .finished (Or.inr ⟨f, hphase⟩) rfl (by rw [← recvFrame_type hp, heot])
      · exact .stopped .rfl (by decide)
      · exact .waits (by rw [hphase]; rfl) ⟨rfl, rfl, rfl, rfl, rfl, rfl⟩

/-- **The receiver on a timeout.** -/
theorem RecvState.onTimeout_step (env : RecvEnv) (s : RecvState) (timer : HelloTimer)
    (fs : FsOutcome) : RecvStep env s none (s.onTimeout env timer fs) := by
  have stay : RecvStep env s none ([], s) := .waits rfl .rfl
  unfold RecvState.onTimeout
  split
  · exact stay
  · split
    · exact .stopped .rfl (by decide)
    · exact stay
  · rename_i tries hpc
    split
    · exact .stopped .rfl (by decide)
    · exact .waits (by rw [hpc]; rfl) ⟨rfl, rfl, rfl, rfl, rfl, rfl⟩
  · rename_i f hpc
    exact .legacyStart (by rw [hpc]; rfl) fs
  · rename_i f tries hpc
    split
    · exact .stopped .rfl (by decide)
    · exact .waits (by rw [hpc]; rfl) ⟨rfl, rfl, rfl, rfl, rfl, rfl⟩
  · rename_i f tries resp off hpc
    split
    · exact .stopped .rfl (by decide)
    · exact .waits (by rw [hpc]; rfl) ⟨rfl, rfl, rfl, rfl, rfl, rfl⟩
  · rename_i f d hpc
    have hphase : s.pc.phase = .file f := by rw [hpc]; rfl
    unfold onDataTimeout
    split
    · have same : s.SameCall (s.closed f d.file) := ⟨rfl, rfl, rfl, rfl, rfl, rfl⟩
      exact .stopped same (by decide)
    · exact .waits (by rw [hphase]; rfl) ⟨rfl, rfl, rfl, rfl, rfl, rfl⟩
  · rename_i f tries hpc
    split
    · exact .stopped .rfl (by decide)
    · exact .waits (by rw [hpc]; rfl) ⟨rfl, rfl, rfl, rfl, rfl, rfl⟩

end Steps

end ValProtocol
