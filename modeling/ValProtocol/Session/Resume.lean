/-
  ValProtocol.Session.Resume
  ──────────────────────────
  Where a file starts: the receiver's `determine_resume_action`
  (`src/val_receiver.c` lines 67-182), the sender's reading of the answer
  (`handle_resume_negotiation`, `src/val_sender.c` lines 183-254), and the
  two ends of the VERIFY round trip (`src/val_receiver.c` lines 672-704,
  `val_internal_wait_verify_result`, `src/val_core.c` lines 1537-1580).

    • `determineResumeAction_cases` — the receiver starts at zero, skips, or
      asks for the tail window of a non-empty local file that is not larger
      than the incoming one.
-/
import ValProtocol.Files.Region
import ValProtocol.Session.Handshake

namespace ValProtocol

open LittleEndian

/-! ## §1. The two environments. -/

/-- What a receiving session has besides its state.  The platform's path
separator is a parameter. -/
structure RecvEnv where
  cfg : Config
  provider : Option CrcProvider
  pathSep : UInt8
  validator : Option (MetaPayload → Bytes → ValidationAction)

/-- What a sending session has besides its state; `senderPath` is the last
argument of `val_send_files`. -/
structure SendEnv where
  cfg : Config
  provider : Option CrcProvider
  senderPath : Option Bytes

/-! ## §2. The receiver's decision. -/

/-- The action with its three out-parameters. -/
structure ResumeDecision where
  action : ResumeAction
  offset : Nat
  crc : Nat
  length : Nat
  deriving Repr, DecidableEq

def ResumeDecision.startZero : ResumeDecision := ⟨.startZero, 0, 0, 0⟩

def ResumeDecision.skipFile : ResumeDecision := ⟨.skipFile, 0, 0, 0⟩

/-- `rr_wire`. -/
def ResumeDecision.wire (d : ResumeDecision) : Bytes :=
  serializeResumeResp ⟨d.action.toWire, d.offset, d.crc, d.length⟩

/-- `clamp_u64`. -/
def clampU64 (v lo hi : Nat) : Nat := if v < lo then lo else if v > hi then hi else v

/-- The length of the tail window that is verified. -/
def verifyLength (cfg : ResumeConfig) (existingSize : Nat) : Nat :=
  let reqCap := if cfg.tailCapBytes ≠ 0 then cfg.tailCapBytes else 8 * 1024 * 1024
  let cap := clampU64 reqCap 1 (256 * 1024 * 1024)
  let len := if existingSize < cap then existingSize else cap
  if cfg.minVerifyBytes > 0 ∧ len < cfg.minVerifyBytes then
    if existingSize < cfg.minVerifyBytes then existingSize else cfg.minVerifyBytes
  else len

/-- The bytes that are verified before a file of `r` local bytes is
continued. -/
def tailWindow (cfg : ResumeConfig) (r : Nat) (content : Bytes) : Bytes :=
  slice (r - verifyLength cfg r) (verifyLength cfg r) content

/-- `(uint64_t)start_pos` for `long start_pos = (long)v`. -/
def throughLong (bits v : Nat) : Nat := (toSigned bits v % 2 ^ 64).toNat

/-- `determine_resume_action`; `existing` is the file behind the target path. -/
def determineResumeAction (env : RecvEnv) (mtu : Nat) (existing : Option Bytes)
    (incoming : Nat) : ResumeDecision :=
  match existing with
  | none => .startZero
  | some file =>
      -- a size that does not fit the `int64_t` of `ftell` is an error
      if file.length ≥ 2 ^ 63 then .startZero
      else
        match env.cfg.resume.mode with
        | .never => .startZero
        | .skipExisting => if file.length > 0 then .skipFile else .startZero
        | .tail =>
            if file.length = 0 then .startZero
            else if file.length > incoming then
              if env.cfg.resume.mismatchSkip then .skipFile else .startZero
            else
              let len := verifyLength env.cfg.resume file.length
              match crc32Region env.cfg env.provider mtu file
                  (throughLong env.cfg.longBits (file.length - len)) len with
              | .error _ => .startZero
              | .ok crc => ⟨.verifyFirst, file.length, crc.toNat, len⟩

/-- The window is never empty and never longer than the file. -/
theorem verifyLength_bounds (cfg : ResumeConfig) {n : Nat} (hn : 0 < n) :
    0 < verifyLength cfg n ∧ verifyLength cfg n ≤ n := by
  simp only [verifyLength, clampU64]
  repeat' split
  all_goals omega

/-- The window as one formula. -/
theorem verifyLength_eq (cfg : ResumeConfig) (n : Nat) :
    verifyLength cfg n
      = min n (max (min (if cfg.tailCapBytes ≠ 0 then cfg.tailCapBytes else 8 * 1024 * 1024)
          (256 * 1024 * 1024)) cfg.minVerifyBytes) := by
  simp only [verifyLength, clampU64]
  by_cases h : cfg.tailCapBytes = 0
  · simp only [h, ne_eq, not_true_eq_false, if_false]
    repeat' split
    all_goals omega
  · simp only [ne_eq, h, not_false_eq_true, if_true]
    repeat' split
    all_goals omega

/-- **What the receiver can decide.** -/
theorem determineResumeAction_cases (env : RecvEnv) (mtu : Nat) (existing : Option Bytes)
    (incoming : Nat) :
    determineResumeAction env mtu existing incoming = .startZero
    ∨ determineResumeAction env mtu existing incoming = .skipFile
    ∨ ∃ file crc, existing = some file ∧ 0 < file.length ∧ file.length ≤ incoming
        ∧ file.length < 2 ^ 63 ∧ env.cfg.resume.mode = .tail
        ∧ crc32Region env.cfg env.provider mtu file
            (throughLong env.cfg.longBits
              (file.length - verifyLength env.cfg.resume file.length))
            (verifyLength env.cfg.resume file.length) = .ok crc
        ∧ determineResumeAction env mtu existing incoming
          = ⟨.verifyFirst, file.length, crc.toNat, verifyLength env.cfg.resume file.length⟩ := by
  unfold determineResumeAction
  cases existing with
  -- no local file
  | none => exact Or.inl rfl
  | some file =>
      dsimp only
      split
      · exact Or.inl rfl
      · rename_i hsize
        split
        · exact Or.inl rfl
        · split
          · exact Or.inr (Or.inl rfl)
          · exact Or.inl rfl
        · rename_i hmode
          split
          · exact Or.inl rfl
          · rename_i hne
            split
            · split
              · exact Or.inr (Or.inl rfl)
              · exact Or.inl rfl
            · rename_i hle
              split
              · exact Or.inl rfl
              · rename_i crc hcrc
                exact Or.inr (Or.inr ⟨file, crc, rfl, by omega, by omega, by omega, hmode, hcrc, rfl⟩)

/-! ## §3. The sender's reading of RESUME_RESP. -/

/-- How the negotiation goes on. -/
inductive ResumeOutcome where
  /-- the data phase starts at this offset -/
  | start (off : Nat)
  /-- the sentinel `UINT64_MAX`: no data, only DONE -/
  | skip
  /-- a VERIFY request is sent and its result awaited -/
  | verify (endOff : Nat) (payload : Bytes)
  | fail (st : Status)
  deriving Repr, DecidableEq

/-- The switch of `handle_resume_negotiation` on a RESUME_RESP payload. -/
def onResumeResp (env : SendEnv) (mtu : Nat) (content payload : Bytes) : ResumeOutcome :=
  let rr := deserializeResumeResp payload
  let resumeOff := if rr.resumeOffset > content.length then 0 else rr.resumeOffset
  match ResumeAction.ofWire rr.action with
  | some .startZero => .start 0
  | some .startOffset => .start resumeOff
  | some .skipFile => .skip
  | some .abortFile => .fail .aborted
  | some .verifyFirst =>
      let vlen32 :=
        (if rr.verifyLength > resumeOff then resumeOff else rr.verifyLength) % 2 ^ 32
      if vlen32 = 0 then .start resumeOff
      else
        let start := resumeOff - vlen32
        match crc32Region env.cfg env.provider mtu content start vlen32 with
        | .error st => .fail st
        | .ok crc =>
            .verify resumeOff (serializeVerifyRequest ⟨start, crc.toNat, vlen32⟩)
  | none => .fail .protocol

/-- An error is one, and a VERIFY request has its wire size. -/
def ResumeOutcome.Sound : ResumeOutcome → Prop
  | .fail st => st ≠ .ok
  | .verify _ payload => payload.length = wireVerifyReqPayloadSize
  | _ => True

/-- **Every RESUME_RESP has a sound outcome.** -/
theorem onResumeResp_sound (env : SendEnv) (mtu : Nat) (content payload : Bytes) :
    (onResumeResp env mtu content payload).Sound := by
  unfold onResumeResp
  dsimp only
  generalize (if (deserializeResumeResp payload).resumeOffset > content.length then 0
    else (deserializeResumeResp payload).resumeOffset) = off
  generalize (if (deserializeResumeResp payload).verifyLength > off then off
    else (deserializeResumeResp payload).verifyLength) % 2 ^ 32 = vlen
  split
  · trivial
  · trivial
  · trivial
  · show Status.aborted ≠ .ok
    decide
  · -- VERIFY_FIRST: nothing to compare, a window that cannot be read, or a request
    split
    · trivial
    · split
      · rename_i st hcrc
        show st ≠ .ok
        rcases crc32Region_error hcrc with ⟨rfl, -⟩ | rfl
        all_goals decide
      · exact serializeVerifyRequest_length _
  · show Status.protocol ≠ .ok
    decide

/-- RESUME_RESP survives the wire. -/
theorem ResumeDecision.deserialize_wire {d : ResumeDecision} (hoff : d.offset < 2 ^ 64)
    (hcrc : d.crc < 2 ^ 32) (hlen : d.length < 2 ^ 64) :
    deserializeResumeResp d.wire = ⟨d.action.toWire, d.offset, d.crc, d.length⟩ := by
  refine deserialize_serializeResumeResp ⟨?_, ?_, ?_, ?_⟩
  · show d.action.toWire < 256 ^ 4
    cases d.action <;> decide
  · show d.offset < 256 ^ 8
    omega
  · show d.crc < 256 ^ 4
    omega
  · show d.length < 256 ^ 8
    omega

theorem onResumeResp_startZero (env : SendEnv) (mtu : Nat) (content : Bytes) :
    onResumeResp env mtu content ResumeDecision.startZero.wire = .start 0 := by
  unfold onResumeResp
  rw [ResumeDecision.deserialize_wire (by decide) (by decide) (by decide)]
  rfl

theorem onResumeResp_skipFile (env : SendEnv) (mtu : Nat) (content : Bytes) :
    onResumeResp env mtu content ResumeDecision.skipFile.wire = .skip := by
  unfold onResumeResp
  rw [ResumeDecision.deserialize_wire (by decide) (by decide) (by decide)]
  rfl

/-- A request for the tail window of a local file that is not larger. -/
theorem onResumeResp_verifyFirst (env : SendEnv) (mtu : Nat) {content : Bytes}
    {len crc window : Nat} (hlen : len ≤ content.length) (hlt : len < 2 ^ 63)
    (hcrc : crc < 2 ^ 32) (hpos : 0 < window) (hwin : window ≤ len) (hwin32 : window < 2 ^ 32) :
    onResumeResp env mtu content (ResumeDecision.mk .verifyFirst len crc window).wire
      = match crc32Region env.cfg env.provider mtu content (len - window) window with
        | .error st => .fail st
        | .ok own => .verify len (serializeVerifyRequest ⟨len - window, own.toNat, window⟩) := by
  unfold onResumeResp
  rw [ResumeDecision.deserialize_wire (d := ⟨.verifyFirst, len, crc, window⟩)
    (show len < _ by omega) hcrc (show window < _ by omega)]
  have h1 : (if len > content.length then 0 else len) = len := if_neg (by omega)
  have h2 : (if window > len then len else window) = window := if_neg (by omega)
  dsimp only
  rw [h1, h2, Nat.mod_eq_of_lt hwin32]
  show (if window = 0 then _ else _) = _
  rw [if_neg (by omega)]

/-- The window fits the 32-bit length of a VERIFY request. -/
theorem verifyLength_lt {cfg : Config} (h : cfg.Accepted) (n : Nat) :
    verifyLength cfg.resume n < 2 ^ 32 := by
  have := h.minVerify_lt
  rw [verifyLength_eq]
  omega

/-! ## §4. The VERIFY round trip. -/

/-- `(uint64_t)status`. -/
def Status.toUInt64 (st : Status) : Nat :=
  if st.toWire < 2 ^ 31 then st.toWire else st.toWire + (2 ^ 64 - 2 ^ 32)

/-- The VERIFY packet that carries a result. -/
def sendVerifyResult (st : Status) (crc : Nat) : Send :=
  ⟨.verify, serializeVerifyResponse st crc, st.toUInt64, true⟩

/-- The request for a tail window fits its wire fields. -/
theorem verifyRequest_fits {cfg : Config} (h : cfg.Accepted) {r : Nat} (hlt : r < 2 ^ 63)
    (crc : UInt32) :
    (VerifyRequest.mk (r - verifyLength cfg.resume r) crc.toNat
      (verifyLength cfg.resume r)).Fits := by
  have hv := verifyLength_lt h r
  have hcrc := crc.toNat_lt
  refine ⟨?_, ?_, ?_⟩
  · show r - _ < 256 ^ 8
    omega
  · show crc.toNat < 256 ^ 4
    omega
  · show verifyLength _ _ < 256 ^ 4
    omega

/-- What a mismatch is reported as.  Only the branch behind the normal
RESUME_REQ wait turns it into a skip. -/
def mismatchStatus (env : RecvEnv) : Status :=
  if env.cfg.resume.mismatchSkip ∧ env.cfg.resume.mode ≠ .never then .skipped
  else .resumeVerify

/-- The receiver's verdict on a VERIFY request: the status and the CRC it
reports (0 when the window could not be read). -/
def verifyVerdict (env : RecvEnv) (mtu : Nat) (file payload : Bytes) : Status × Nat :=
  let req := deserializeVerifyRequest payload
  match crc32Region env.cfg env.provider mtu file req.offset req.length with
  | .ok crc => (if crc.toNat = req.crc then .ok else mismatchStatus env, crc.toNat)
  | .error _ => (mismatchStatus env, 0)

/-- `val_internal_wait_verify_result` on an accepted VERIFY packet. -/
def onVerifyResult (endOff : Nat) (payload : Bytes) : ResumeOutcome :=
  match Status.ofWire (getLe (payload.take 4)) with
  | .ok => .start endOff
  | .skipped => .skip
  | .resumeVerify => .start 0
  | st => .fail st

theorem mismatchStatus_cases (env : RecvEnv) :
    mismatchStatus env = .skipped ∨ mismatchStatus env = .resumeVerify := by
  unfold mismatchStatus
  split
  · exact Or.inl rfl
  · exact Or.inr rfl

/-- The three verdicts. -/
theorem verifyVerdict_cases (env : RecvEnv) (mtu : Nat) (file payload : Bytes) :
    (verifyVerdict env mtu file payload).1 = .ok
    ∨ (verifyVerdict env mtu file payload).1 = .skipped
    ∨ (verifyVerdict env mtu file payload).1 = .resumeVerify := by
  have hm := mismatchStatus_cases env
  unfold verifyVerdict
  dsimp only
  split
  · rename_i crc _
    by_cases h : crc.toNat = (deserializeVerifyRequest payload).crc
    · exact Or.inl (if_pos h)
    · exact Or.inr (by rw [if_neg h]; exact hm)
  · exact Or.inr hm

/-- **The sender reads the verdict the receiver wrote.** -/
theorem onVerifyResult_verdict (endOff : Nat) {st : Status} (crc : Nat)
    (h : st = .ok ∨ st = .skipped ∨ st = .resumeVerify) :
    onVerifyResult endOff (serializeVerifyResponse st crc)
      = match st with
        | .ok => .start endOff
        | .skipped => .skip
        | _ => .start 0 := by
  rcases h with rfl | rfl | rfl
  all_goals
    unfold onVerifyResult
    rw [verifyResponse_status _ _ (by decide)]
    rfl

end ValProtocol
