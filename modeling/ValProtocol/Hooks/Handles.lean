/-
  ValProtocol.Hooks.Handles
  ─────────────────────────
  File handles in `val_send_files` and `val_receive_files`, whatever their
  hooks answer.

  The code never has two files open at once, so the monitor of handles keeps
  the one that is open, if any, and rejects every use of another.

    • `wp_valSendFiles`, `wp_valReceiveFiles` — both programs return with no
      file open, from the specifications of the functions they call,
    • `handles_closed` — every handle that `fopen` returns is closed exactly
      once before the call returns, and used only while it is open.
-/
import ValProtocol.Hooks.Footprint
import ValProtocol.Data.HighWater

namespace ValProtocol.Hooks

open Programs Prog

/-! ## §1. The monitor. -/

/-- A use of `h`. -/
def useHandle (m : Option Handle) (h : Handle) : Verdict (Option Handle) :=
  if m = some h then .go m else .reject

/-- The handle that is open behind an event. -/
def handleStep (m : Option Handle) : Event → Verdict (Option Handle)
  | ⟨.fopen _ _, none⟩ => .go m
  | ⟨.fopen _ _, some h⟩ => if m = none then .go (some h) else .reject
  | ⟨.fclose h, _⟩ => if m = some h then .go none else .reject
  | ⟨.fseek h _ _, _⟩ => useHandle m h
  | ⟨.ftell h, _⟩ => useHandle m h
  | ⟨.fread h _, _⟩ => useHandle m h
  | ⟨.fwrite h _, _⟩ => useHandle m h
  | _ => .go m

section Calls

variable {m : Option Handle} {f : Handle}

@[simp] theorem handles_fopen (path : Bytes) (mode : OpenMode)
    (Q : Option Handle → Option Handle → Prop) :
    wp handleStep (fopen path mode) none Q ↔ Q none none ∧ ∀ f, Q (some f) (some f) := by
  rw [wp_ask]
  constructor
  · exact fun h => ⟨h none, fun f => h (some f)⟩
  · rintro ⟨hnone, hsome⟩ (_ | f)
    · exact hnone
    · exact hsome f

@[simp] theorem handles_fclose (Q : Unit → Option Handle → Prop) :
    wp handleStep (fclose f) (some f) Q ↔ Q () none := by
  simp only [wp_ask, handleStep, if_true, Verdict.then_go]
  exact ⟨fun h => h (), fun h _ => h⟩

@[simp] theorem handles_fseek (offset : Int) (whence : Whence) (Q : Int → Option Handle → Prop) :
    wp handleStep (fseek f offset whence) (some f) Q ↔ ∀ st, Q st (some f) := by
  simp [wp_ask, handleStep, useHandle]

@[simp] theorem handles_ftell (Q : Int → Option Handle → Prop) :
    wp handleStep (ftell f) (some f) Q ↔ ∀ pos, Q pos (some f) := by
  simp [wp_ask, handleStep, useHandle]

@[simp] theorem handles_fread (n : Nat) (Q : Bytes → Option Handle → Prop) :
    wp handleStep (fread f n) (some f) Q ↔ ∀ chunk, Q chunk (some f) := by
  simp [wp_ask, handleStep, useHandle]

@[simp] theorem handles_fwrite (bytes : Bytes) (Q : Nat → Option Handle → Prop) :
    wp handleStep (fwrite f bytes) (some f) Q ↔ ∀ n, Q n (some f) := by
  simp [wp_ask, handleStep, useHandle]

@[simp] theorem handles_blind {c : Call} (hc : ¬ c.OnFile) : Blind handleStep m c := by
  intro r
  cases c
  all_goals first
    | rfl
    | exact absurd trivial hc

/-- A call that opens or closes nothing, and uses no other file than `h`. -/
def Call.Within (h : Handle) : Call → Prop
  | .fopen _ _ | .fclose _ => False
  | .fseek f _ _ => f = h
  | .ftell f => f = h
  | .fread f _ => f = h
  | .fwrite f _ => f = h
  | _ => True

theorem handles_blind_within {c : Call} (hc : c.Within f) : Blind handleStep (some f) c := by
  intro r
  cases c
  all_goals first
    | rfl
    | exact absurd hc id
    | (obtain rfl : _ = f := hc
       exact if_pos rfl)

/-- What stays within the open file leaves it open. -/
theorem handles_within {α : Type} {P : Call → Prop} {p : Program α} (hp : Only P p)
    (hP : ∀ c, P c → c.Within f) :
    wp handleStep p (some f) (fun _ m => m = some f) :=
  wp_only (fun c hc => handles_blind_within (hP c hc)) hp (fun _ => rfl)

end Calls

/-! ## §2. Functions of both sides. -/

theorem handles_seekIf (wanted : Bool) (f : Handle) (offset : Int) :
    wp handleStep (seekIf wanted f offset) (some f) (fun _ m => m = some f) := by
  apply handles_within (P := Call.Within f) (only_seekIf wanted f offset rfl)
  exact fun c hc => hc

/-- The region CRC leaves the file open. -/
theorem handles_crc32Region (cfg : Config) (provider : Option CrcProvider) (mtu : Nat)
    (f : Handle) (start length : Nat) :
    wp handleStep (crc32Region cfg provider mtu f start length) (some f)
      (fun _ m => m = some f) := by
  apply handles_within (only_crc32Region cfg provider mtu f start length)
  intro c
  cases c <;> simp [Call.Reads, Call.Within]

/-! ## §3. The sender. -/

theorem handles_getFileSizeAndName (filepath : Bytes) :
    wp handleStep (getFileSizeAndName filepath) none (fun _ m => m = none) := by
  unfold getFileSizeAndName
  simp

theorem handles_verifyTail (env : SendEnv) (mtu : Nat) (filepath : Bytes) (off length : Nat) :
    wp handleStep (verifyTail env mtu filepath off length) none (fun _ m => m = none) := by
  unfold verifyTail
  rw [wp_bind, handles_fopen]
  refine ⟨rfl, fun f => ?_⟩
  apply wp_use (handles_seekIf _ f _)
  rintro _ _ rfl
  apply wp_use (handles_crc32Region _ _ _ f _ _)
  rintro crc _ rfl
  cases crc <;> simp [Call.OnFile]

theorem handles_handleResumeNegotiation (env : SendEnv) (mtu size : Nat) (filepath : Bytes) :
    wp handleStep (handleResumeNegotiation env mtu size filepath) none
      (fun _ m => m = none) := by
  have hresp : ∀ buf, wp handleStep (onResumeResp env mtu size filepath buf) none
      (fun _ m => m = none) := by
    intro buf
    unfold onResumeResp
    dsimp only
    split
    all_goals simp [handles_verifyTail]
  unfold handleResumeNegotiation
  simp only [wp_bind, wp_ask_blind, handles_blind, Call.OnFile, not_false_iff, wp_ite, wp_pure, implies_true,
    true_and]
  intro st _ resp
  cases resp with
  | error st => rfl
  | ok buf => simp [hresp]

/-- A DATA packet is read from the open file. -/
theorem handles_sendDataPacket (u : Upload) (d : SendLocals) (b : Bool) :
    wp handleStep (sendDataPacket u d b) (some u.handle) (fun _ m => m = some u.handle) := by
  apply handles_within (only_sendDataPacket u d b)
  intro c
  cases c <;> simp [Call.Reloads, Call.Within]

theorem handles_waitForWindowAck (env : SendEnv) (u : Upload) (target : Nat) (d : SendLocals) :
    wp handleStep (waitForWindowAck env u target d) (some u.handle)
      (fun _ m => m = some u.handle) := by
  apply handles_within (only_waitForWindowAck env u target d)
  intro c
  cases c <;> simp [Call.Awaits, Call.Within]

/-- The file is open behind a result and closed behind an error. -/
def OpenUnlessError {α : Type} (h : Handle) : Except Status α → Option Handle → Prop
  | .ok _, m => m = some h
  | .error _, m => m = none

@[simp] theorem handles_abandon {α : Type} (u : Upload) (st : Status)
    (Q : Except Status α → Option Handle → Prop) :
    wp handleStep (abandon u st) (some u.handle) Q ↔ Q (.error st) none := by
  unfold abandon
  simp [Call.OnFile]

theorem handles_fillWindow (u : Upload) (d : SendLocals) :
    wp handleStep (fillWindow u d) (some u.handle) (OpenUnlessError u.handle) := by
  apply wp_forever (I := fun _ m => m = some u.handle) rfl
  rintro d _ rfl
  simp only [wp_bind, wp_ask_blind, handles_blind, Call.OnFile, not_false_iff, wp_ite, wp_pure,
    afterPass_leave]
  refine ⟨fun _ cancelled => ⟨fun _ => ?_, fun _ => ?_⟩, fun _ => rfl⟩
  · rw [handles_abandon]
    rfl
  · apply wp_mono _ (handles_sendDataPacket u d _)
    rintro r _ rfl
    cases r with
    | error st => simp [OpenUnlessError]
    | ok d => rfl

theorem handles_sendWindow (env : SendEnv) (u : Upload) (d : SendLocals) :
    wp handleStep (sendWindow env u d) (some u.handle) (OpenUnlessError u.handle) := by
  apply wp_forever (I := fun _ m => m = some u.handle) rfl
  rintro d _ rfl
  apply wp_use (handles_fillWindow u d)
  intro r m hr
  cases r with
  | error st => exact hr
  | ok d =>
      obtain rfl : m = some u.handle := hr
      apply wp_use (handles_waitForWindowAck env u _ d)
      rintro r _ rfl
      cases r with
      | error st =>
          rw [wp_bind, handles_abandon]
          rfl
      | ok x =>
          obtain ⟨d, restart⟩ := x
          cases restart with
          | true => simp [Call.OnFile]
          | false => rfl

theorem handles_checkSendHealth (u : Upload) :
    wp handleStep (checkSendHealth u) (some u.handle) (OpenUnlessError u.handle) := by
  unfold checkSendHealth
  simp [Call.OnFile, OpenUnlessError]

/-- **The data loop** leaves the file open unless it returns an error. -/
theorem handles_sendLoop (env : SendEnv) (u : Upload) (d : SendLocals) :
    wp handleStep (sendLoop env u d) (some u.handle) (OpenUnlessError u.handle) := by
  apply wp_forever (I := fun _ m => m = some u.handle) rfl
  rintro d _ rfl
  simp only [wp_bind, wp_ask_blind, handles_blind, Call.OnFile, not_false_iff, wp_ite, wp_pure,
    afterPass_leave]
  refine ⟨fun _ cancelled => ⟨fun _ => ?_, fun _ => ?_⟩, fun _ => rfl⟩
  · rw [handles_abandon]
    rfl
  · apply wp_mono _ (handles_checkSendHealth u)
    intro r m hr
    cases r with
    | error st => exact hr
    | ok x =>
        obtain rfl : m = some u.handle := hr
        apply wp_use (handles_sendWindow env u _)
        intro r m hr
        cases r with
        | error st => exact hr
        | ok d => exact hr

theorem handles_sendOpened (env : SendEnv) (u : Upload) (mtu win : Nat) (ctx : ProgressCtx) :
    wp handleStep (sendOpened env u mtu win ctx) (some u.handle) (fun _ m => m = none) := by
  have hemit : wp handleStep (emitProgressSender ctx u.name u.resumeOff true) (some u.handle)
      (fun _ m => m = some u.handle) := by
    apply handles_within (only_emitProgressSender ctx u.name u.resumeOff true u.handle)
    intro c
    cases c <;> simp [Call.Awaits, Call.Within]
  unfold sendOpened
  simp only [wp_bind, wp_ask_blind, handles_blind, Call.OnFile, not_false_iff, wp_ite]
  intro _
  apply wp_mono _ hemit
  rintro ctx _ rfl cancelled
  refine ⟨fun _ => (handles_abandon u .aborted _).mpr rfl, fun _ => ⟨fun _ => ?_, fun _ => ?_⟩⟩
  · simp
  · apply wp_mono _ (handles_sendLoop env u _)
    intro r m hr
    cases r with
    | error st => exact hr
    | ok d =>
        obtain rfl : m = some u.handle := hr
        simp [Call.OnFile]

theorem handles_sendFileDataAdaptive (env : SendEnv) (mtu : Nat) (ctx : ProgressCtx)
    (filepath : Bytes) :
    wp handleStep (sendFileDataAdaptive env mtu ctx filepath) none (fun _ m => m = none) := by
  unfold sendFileDataAdaptive sendMetadata
  simp only [wp_bind, wp_ask_blind, handles_blind, Call.OnFile, not_false_iff]
  intro current negotiated
  apply wp_mono _ (handles_getFileSizeAndName filepath)
  rintro r _ rfl
  rcases r with st | ⟨size, name⟩
  · rfl
  simp only [wp_bind, wp_ask_blind, handles_blind, Call.OnFile, not_false_iff, wp_ite, wp_pure, implies_true,
    true_and]
  intro st _
  apply wp_mono _ (handles_handleResumeNegotiation env mtu size filepath)
  rintro r _ rfl
  rcases r with st | off
  · rfl
  dsimp only
  rw [wp_ite]
  refine ⟨fun _ => ?_, fun _ => ?_⟩
  · unfold sendSkipped
    simp [Call.OnFile]
  · rw [wp_bind, handles_fopen]
    refine ⟨rfl, fun f => ?_⟩
    apply wp_use (handles_seekIf _ f _)
    rintro st _ rfl
    rw [wp_ite]
    refine ⟨fun _ => by simp, fun _ => ?_⟩
    exact handles_sendOpened env _ mtu _ ctx

theorem handles_batchTotalBytes (filepaths : List Bytes) (total : Nat) :
    wp handleStep (batchTotalBytes filepaths total) none (fun _ m => m = none) := by
  induction filepaths generalizing total with
  | nil => rfl
  | cons filepath rest ih =>
      unfold batchTotalBytes
      apply wp_use (handles_getFileSizeAndName filepath)
      rintro r _ rfl
      cases r with
      | error st => exact ih total
      | ok x => exact ih _

theorem handles_sendEach (env : SendEnv) (mtu : Nat) (filepaths : List Bytes)
    (ctx : ProgressCtx) :
    wp handleStep (sendEach env mtu filepaths ctx) none (fun _ m => m = none) := by
  induction filepaths generalizing ctx with
  | nil => rfl
  | cons filepath rest ih =>
      unfold sendEach
      apply wp_use (handles_sendFileDataAdaptive env mtu ctx filepath)
      rintro r _ rfl
      cases r with
      | error st => rfl
      | ok ctx => exact ih ctx

/-- **`val_send_files` returns with no file open.** -/
theorem handles_valSendFiles (env : SendEnv) (filepaths : List Bytes) :
    wp handleStep (valSendFiles env filepaths) none (fun _ m => m = none) := by
  unfold valSendFiles
  simp only [wp_bind, wp_ask_blind, handles_blind, Call.OnFile, not_false_iff, wp_ite]
  refine ⟨fun _ => rfl, fun _ hs => ?_⟩
  cases hs with
  | error st => rfl
  | ok mtu =>
      apply wp_use (handles_batchTotalBytes filepaths 0)
      rintro total _ rfl
      simp only [wp_bind, wp_ask_blind, handles_blind, Call.OnFile, not_false_iff]
      intro start
      apply wp_mono _ (handles_sendEach env mtu filepaths _)
      rintro st _ rfl
      simp [Call.OnFile]

/-! ## §4. The receiver. -/

theorem handles_determineResumeAction (env : RecvEnv) (mtu : Nat) (path : Bytes)
    (incoming : Nat) :
    wp handleStep (determineResumeAction env mtu path incoming) none (fun _ m => m = none) := by
  unfold determineResumeAction
  rw [wp_bind, handles_fopen]
  refine ⟨rfl, fun f => ?_⟩
  simp only [wp_bind, handles_fseek, handles_ftell, wp_ite]
  intro _ existing
  refine ⟨fun _ => by simp, fun _ => ?_⟩
  cases env.cfg.resume.mode with
  | never => simp
  | skipExisting => simp
  | tail =>
      simp only [wp_ite]
      refine ⟨fun _ => by simp, fun _ => ⟨fun _ => by simp, fun _ => ?_⟩⟩
      apply wp_use (handles_crc32Region _ _ mtu f _ _)
      rintro crc _ rfl
      cases crc <;> simp

theorem handles_startAt (f : RecvFile) (off : Nat) (skipping : Bool) :
    wp handleStep (startAt f off skipping) none (fun _ m => m = none) := by
  unfold startAt
  simp [Call.OnFile]

theorem handles_verifyRound (env : RecvEnv) (mtu : Nat) (f : RecvFile) (dec : ResumeDecision) :
    wp handleStep (verifyRound env mtu f dec) none (fun _ m => m = none) := by
  unfold verifyRound
  simp only [wp_bind, wp_ask_blind, handles_blind, Call.OnFile, not_false_iff]
  intro r
  cases r with
  | error st => rfl
  | ok vbuf =>
      rw [wp_bind, handles_fopen]
      refine ⟨by simp [Call.OnFile], fun lf => ?_⟩
      apply wp_use (handles_crc32Region _ _ mtu lf _ _)
      rintro crc _ rfl
      simp only [wp_bind, handles_fclose, wp_ask_blind, handles_blind, Call.OnFile,
        not_false_iff]
      intro _
      split
      all_goals exact handles_startAt f _ _

theorem handles_answerResume (env : RecvEnv) (mtu : Nat) (f : RecvFile) :
    wp handleStep (answerResume env mtu f) none (fun _ m => m = none) := by
  unfold answerResume
  apply wp_use (handles_determineResumeAction env mtu f.path f.size)
  rintro dec _ rfl
  simp only [wp_bind, wp_ask_blind, handles_blind, Call.OnFile, not_false_iff, wp_ite, wp_pure,
    implies_true, true_and]
  intro st _
  cases dec.action with
  | skipFile => exact handles_startAt f _ _
  | startZero => exact handles_startAt f _ _
  | startOffset => exact handles_startAt f _ _
  | verifyFirst => exact handles_verifyRound env mtu f dec
  | abortFile => simp [Call.OnFile]

theorem handles_validateMetadata (env : RecvEnv) (dir : Bytes) (f : RecvFile) :
    wp handleStep (validateMetadata env dir f) none (fun _ m => m = none) := by
  unfold validateMetadata
  cases constructTargetPath env dir f.name with
  | none => rfl
  | some path =>
      simp only [wp_bind, wp_ask_blind, handles_blind, Call.OnFile, not_false_iff]
      intro act
      cases act <;> simp [Call.OnFile]

theorem handles_legacyStart (env : RecvEnv) (dir : Bytes) (f : RecvFile) (timedOut : Bool) :
    wp handleStep (legacyStart env dir f timedOut) none (fun _ m => m = none) := by
  unfold legacyStart
  simp only [wp_bind, wp_ask_blind, handles_blind, Call.OnFile, not_false_iff, wp_ite, wp_pure,
    implies_true, true_and]
  intro st _ _ _
  apply wp_mono _ (handles_validateMetadata env dir f)
  rintro verdict _ rfl
  rcases verdict with st | skip
  · rfl
  · cases skip <;> rfl

theorem handles_neverNegotiation (env : RecvEnv) (mtu : Nat) (dir : Bytes) (f : RecvFile) :
    wp handleStep (neverNegotiation env mtu dir f) none (fun _ m => m = none) := by
  unfold neverNegotiation
  simp only [wp_bind, wp_ask_blind, handles_blind, Call.OnFile, not_false_iff]
  intro r
  cases r with
  | error st => simp [handles_legacyStart]
  | ok p =>
      dsimp only
      rw [wp_ite]
      refine ⟨fun _ => ?_, fun _ => handles_legacyStart env dir f false⟩
      apply wp_use (handles_answerResume env mtu f)
      rintro settled _ rfl
      rcases settled with st | ⟨off, skipping⟩
      · rfl
      apply wp_use (handles_validateMetadata env dir f)
      rintro verdict _ rfl
      rcases verdict with st | skip
      · rfl
      cases skip with
      | true => simp [Call.OnFile, handles_startAt]
      | false => rfl

theorem handles_resumeNegotiation (env : RecvEnv) (mtu : Nat) (f : RecvFile) :
    wp handleStep (resumeNegotiation env mtu f) none (fun _ m => m = none) := by
  have hawait : wp handleStep (awaitResumeReq env) none (fun _ m => m = none) := by
    apply wp_forever (I := fun _ m => m = none) rfl
    rintro tries _ rfl
    simp only [wp_bind, wp_ask_blind, handles_blind, Call.OnFile, not_false_iff]
    intro r
    cases r with
    | error st => simp [Call.OnFile]
    | ok p =>
        dsimp only
        split <;> rfl
  unfold resumeNegotiation
  apply wp_use hawait
  rintro r _ rfl
  cases r with
  | error st => rfl
  | ok x =>
      apply wp_use (handles_answerResume env mtu f)
      rintro settled _ rfl
      rcases settled with st | ⟨off, skipping⟩ <;> rfl

theorem handles_skipLoop (env : RecvEnv) (size : Nat) :
    wp handleStep (skipLoop env size) none (fun _ m => m = none) := by
  have hrecv : ∀ retries, wp handleStep (recvSkipped retries) none (fun _ m => m = none) := by
    intro retries
    apply wp_forever (I := fun _ m => m = none) rfl
    rintro tries _ rfl
    simp only [wp_bind, wp_ask_blind, handles_blind, Call.OnFile, not_false_iff]
    intro r
    cases r <;> simp [Call.OnFile]
  apply wp_forever (I := fun _ m => m = none) rfl
  rintro _ _ rfl
  apply wp_use (hrecv _)
  rintro r _ rfl
  cases r with
  | error st => rfl
  | ok p =>
      dsimp only
      split <;> simp [Call.OnFile]

@[simp] theorem handles_closeWith (u : Download) (st : Status)
    (Q : Option Status → Option Handle → Prop) :
    wp handleStep (closeWith u st) (some u.handle) Q ↔ Q (some st) none := by
  unfold closeWith
  rw [wp_bind, handles_fclose, wp_pure]

@[simp] theorem handles_closeAborted (u : Download)
    (Q : Option Status → Option Handle → Prop) :
    wp handleStep (closeAborted u) (some u.handle) Q ↔ Q (some .aborted) none := by
  unfold closeAborted
  simp [Call.OnFile]

/-- Behind a receive: the file is open with a packet and closed without. -/
def OpenWithPacket (h : Handle) : Except (Option Status) Arrival → Option Handle → Prop
  | .ok _, m => m = some h
  | .error _, m => m = none

theorem handles_recvData (env : RecvEnv) (u : Download) :
    wp handleStep (recvData env u) (some u.handle) (OpenWithPacket u.handle) := by
  apply wp_forever (I := fun _ m => m = some u.handle) rfl
  rintro tries _ rfl
  simp only [wp_bind, wp_ask_blind, handles_blind, handles_closeWith, handles_closeAborted,
    Call.OnFile, not_false_iff, wp_ite, wp_pure, afterPass_leave]
  intro _
  refine ⟨fun _ => rfl, fun _ _ => ⟨fun _ => rfl, fun _ _ => ⟨fun _ => rfl, ?_⟩⟩⟩
  intro _ r
  cases r with
  | error st => simp [Call.OnFile, OpenWithPacket]
  | ok p => rfl

/-- Behind a round of the data loop: the file is open if there is another. -/
def OpenForAnother (h : Handle) : Pass RecvLocals (Option Status) → Option Handle → Prop
  | .again _, m => m = some h
  | .leave _, m => m = none

theorem handles_afterChunk (u : Download) (d : RecvLocals) (inOrder : Bool) :
    wp handleStep (afterChunk u d inOrder) (some u.handle) (OpenForAnother u.handle) := by
  unfold afterChunk
  simp [Call.OnFile, OpenForAnother]

theorem handles_onData (u : Download) (d : RecvLocals) (p : Arrival) :
    wp handleStep (onData u d p) (some u.handle) (OpenForAnother u.handle) := by
  have hstored : wp handleStep (storeChunk u.handle p.payload) (some u.handle)
      (fun _ m => m = some u.handle) := by
    unfold storeChunk
    simp
  unfold onData
  dsimp only
  simp only [wp_ite]
  refine ⟨fun _ => ?_, fun _ => ⟨fun _ => ?_, fun _ => ?_⟩⟩
  · apply wp_use hstored
    rintro stored _ rfl
    simp [Call.OnFile, OpenForAnother, handles_afterChunk]
  · simp [Call.OnFile, handles_afterChunk]
  · simp [Call.OnFile, handles_afterChunk]

/-- **The data loop** closes its file. -/
theorem handles_dataLoop (env : RecvEnv) (u : Download) (resumeOff : Nat) :
    wp handleStep (dataLoop env u resumeOff) (some u.handle) (fun _ m => m = none) := by
  apply wp_forever (I := fun _ m => m = some u.handle) rfl
  rintro d _ rfl
  apply wp_use (handles_recvData env u)
  intro r m hr
  cases r with
  | error st => exact hr
  | ok p =>
      obtain rfl : m = some u.handle := hr
      dsimp only
      split
      · apply wp_mono _ (handles_onData u d p)
        intro x m hx
        cases x <;> exact hx
      all_goals simp [Call.OnFile]

theorem handles_receiveFile (env : RecvEnv) (mtu : Nat) (dir : Bytes) (b : RecvBatch)
    (f : RecvFile) :
    wp handleStep (receiveFile env mtu dir b f) none (fun _ m => m = none) := by
  have hsettled : wp handleStep (settle env mtu dir f) none (fun _ m => m = none) := by
    unfold settle
    rw [wp_ite]
    exact ⟨fun _ => handles_neverNegotiation env mtu dir f,
      fun _ => handles_resumeNegotiation env mtu f⟩
  unfold receiveFile
  apply wp_use hsettled
  rintro settled _ rfl
  rcases settled with st | ⟨resumeOff, skipping⟩
  · rfl
  cases skipping with
  | true =>
      apply wp_use (handles_skipLoop env f.size)
      rintro r _ rfl
      cases r <;> simp [Call.OnFile]
  | false =>
      dsimp only
      rw [wp_bind, handles_fopen]
      exact ⟨rfl, fun h => handles_dataLoop env ⟨f, h, b⟩ resumeOff⟩

/-- **`val_receive_files` returns with no file open.** -/
theorem handles_valReceiveFiles (env : RecvEnv) (dir : Bytes) :
    wp handleStep (valReceiveFiles env dir) none (fun _ m => m = none) := by
  have hawait : wp handleStep (awaitMeta env) none (fun _ m => m = none) := by
    apply wp_forever (I := fun _ m => m = none) rfl
    rintro tries _ rfl
    simp only [wp_bind, wp_ask_blind, handles_blind, Call.OnFile, not_false_iff, wp_ite,
      wp_pure, afterPass_leave, implies_true, true_and]
    intro _ _ _ _ _ _ r
    cases r <;> simp [Call.OnFile]
  unfold valReceiveFiles
  simp only [wp_bind, wp_ask_blind, handles_blind, Call.OnFile, not_false_iff]
  intro hs
  cases hs with
  | error st => rfl
  | ok mtu =>
      unfold receiveFiles
      simp only [wp_bind, wp_ask_blind, handles_blind, Call.OnFile, not_false_iff]
      intro start
      apply wp_forever (I := fun _ m => m = none) rfl
      rintro b _ rfl
      apply wp_use hawait
      rintro r _ rfl
      cases r with
      | error st => rfl
      | ok p =>
          dsimp only
          split
          · simp [Call.OnFile]
          · rfl
          · rw [wp_ite]
            refine ⟨fun _ => rfl, fun _ => ?_⟩
            apply wp_use (handles_receiveFile env mtu _ b _)
            rintro r _ rfl
            cases r <;> rfl
          · rfl

/-! ## §5. Handles in a run. -/

/-- The handle an event has opened. -/
def opened : Event → Option Handle
  | ⟨.fopen _ _, file⟩ => file
  | _ => none

/-- The handle an event closes. -/
def closed : Event → Option Handle
  | ⟨.fclose f, _⟩ => some f
  | _ => none

/-- The handle an event uses. -/
def used : Event → Option Handle
  | ⟨.fseek f _ _, _⟩ => some f
  | ⟨.ftell f, _⟩ => some f
  | ⟨.fread f _, _⟩ => some f
  | ⟨.fwrite f _, _⟩ => some f
  | _ => none

/-- Behind `tr` the file `h` has been opened and not closed since. -/
def IsOpen (h : Handle) (tr : List Event) : Prop :=
  ∃ before e since, tr = before ++ e :: since ∧ opened e = some h
    ∧ ∀ x ∈ since, closed x ≠ some h

/-- A handle is used, and closed, only while it is open. -/
def UsedWhileOpen (tr : List Event) : Prop :=
  ∀ before e after h, tr = before ++ e :: after → used e = some h ∨ closed e = some h →
    IsOpen h before

/-- `h` is closed in `after`, and not opened again before. -/
def ClosedIn (h : Handle) (after : List Event) : Prop :=
  ∃ mid x rest, after = mid ++ x :: rest ∧ closed x = some h
    ∧ ∀ y ∈ mid, opened y ≠ some h ∧ closed y ≠ some h

/-- Every handle that `fopen` returns is closed. -/
def AllClosed (tr : List Event) : Prop :=
  ∀ before e after h, tr = before ++ e :: after → opened e = some h → ClosedIn h after

theorem IsOpen.snoc {h : Handle} {tr : List Event} {e : Event} (ho : IsOpen h tr)
    (he : closed e ≠ some h) : IsOpen h (tr ++ [e]) := by
  obtain ⟨before, x, since, rfl, hx, hsince⟩ := ho
  refine ⟨before, x, since ++ [e], by rw [List.append_assoc, List.cons_append], hx, ?_⟩
  intro y hy
  rcases List.mem_append.mp hy with hy | hy
  · exact hsince y hy
  · rwa [List.mem_singleton.mp hy]

theorem UsedWhileOpen.snoc {tr : List Event} {e : Event} (hu : UsedWhileOpen tr)
    (he : ∀ h, used e = some h ∨ closed e = some h → IsOpen h tr) :
    UsedWhileOpen (tr ++ [e]) := by
  intro before x after h hsplit hx
  rcases snoc_cases hsplit with ⟨rfl, rfl, -⟩ | ⟨mid, -, htr⟩
  · exact he h hx
  · exact hu before x mid h htr hx

theorem ClosedIn.snoc {h : Handle} {after : List Event} (hc : ClosedIn h after) (e : Event) :
    ClosedIn h (after ++ [e]) := by
  obtain ⟨mid, x, rest, rfl, hx, hmid⟩ := hc
  exact ⟨mid, x, rest ++ [e], by rw [List.append_assoc, List.cons_append], hx, hmid⟩

theorem handleStep_ne_giveUp (m : Option Handle) (e : Event) : handleStep m e ≠ .giveUp := by
  unfold handleStep useHandle
  split
  all_goals first
    | exact fun h => by cases h
    | (split <;> exact fun h => by cases h)

/-- What the monitor makes of an event it goes on with. -/
theorem handleStep_go {m m' : Option Handle} {e : Event} (h : handleStep m e = .go m') :
    (∃ f, opened e = some f ∧ used e = none ∧ closed e = none ∧ m = none ∧ m' = some f)
      ∨ (∃ f, opened e = none ∧ used e = none ∧ closed e = some f ∧ m = some f ∧ m' = none)
      ∨ (opened e = none ∧ closed e = none ∧ (used e = none ∨ used e = m) ∧ m' = m) := by
  have huse : ∀ f, useHandle m f = .go m' → some f = m ∧ m' = m := by
    intro f hf
    unfold useHandle at hf
    split at hf
    · rename_i hm
      cases hf
      exact ⟨hm.symm, rfl⟩
    · cases hf
  obtain ⟨c, r⟩ := e
  -- the calls on a file decide; every other leaves the monitor alone
  by_cases hc : c.OnFile
  · cases c with
    | fopen path mode =>
        cases r with
        | none =>
            cases h
            exact Or.inr (Or.inr ⟨rfl, rfl, Or.inl rfl, rfl⟩)
        | some f =>
            simp only [handleStep] at h
            split at h
            · cases h
              exact Or.inl ⟨f, rfl, rfl, rfl, ‹_›, rfl⟩
            · cases h
    | fclose f =>
        simp only [handleStep] at h
        split at h
        · cases h
          exact Or.inr (Or.inl ⟨f, rfl, rfl, rfl, ‹_›, rfl⟩)
        · cases h
    | fseek f offset whence => exact Or.inr (Or.inr ⟨rfl, rfl, (huse f h).imp_left Or.inr⟩)
    | ftell f => exact Or.inr (Or.inr ⟨rfl, rfl, (huse f h).imp_left Or.inr⟩)
    | fread f size => exact Or.inr (Or.inr ⟨rfl, rfl, (huse f h).imp_left Or.inr⟩)
    | fwrite f bytes => exact Or.inr (Or.inr ⟨rfl, rfl, (huse f h).imp_left Or.inr⟩)
    | _ => exact absurd hc id
  · rw [handles_blind hc r] at h
    cases h
    cases c
    all_goals first
      | exact Or.inr (Or.inr ⟨rfl, rfl, Or.inl rfl, rfl⟩)
      | exact absurd trivial hc

/-- Behind `tr`, with the monitor at `m`: every file is closed or is the one
that is open, and files have been used while they were open. -/
structure HandlesKept (tr : List Event) (m : Option Handle) : Prop where
  used : UsedWhileOpen tr
  isOpen : ∀ h, m = some h → IsOpen h tr
  closed : ∀ before e after h, tr = before ++ e :: after → opened e = some h →
    ClosedIn h after ∨ (m = some h ∧ ∀ y ∈ after, opened y ≠ some h ∧ closed y ≠ some h)

theorem handlesKept_step {tr : List Event} {m m' : Option Handle} {e : Event}
    (hk : HandlesKept tr m) (hstep : handleStep m e = .go m') : HandlesKept (tr ++ [e]) m' := by
  rcases handleStep_go hstep with ⟨f, ho, hu, hc, rfl, rfl⟩ | ⟨f, ho, hu, hc, rfl, rfl⟩ |
    ⟨ho, hc, hu, rfl⟩
  · -- `fopen` has returned `f`
    refine ⟨hk.used.snoc (by simp [hu, hc]), ?_, ?_⟩
    · rintro h hh
      exact ⟨tr, e, [], rfl, ho.trans hh, fun x hx => absurd hx List.not_mem_nil⟩
    · intro before x after h hsplit hx
      rcases snoc_cases hsplit with ⟨rfl, rfl, rfl⟩ | ⟨mid, rfl, htr⟩
      · exact Or.inr ⟨ho.symm.trans hx, fun y hy => absurd hy List.not_mem_nil⟩
      · rcases hk.closed before x mid h htr hx with hin | ⟨hm, -⟩
        · exact Or.inl (hin.snoc e)
        · cases hm
  · -- `f` is closed
    refine ⟨hk.used.snoc ?_, (fun h hh => by cases hh), ?_⟩
    · intro h hx
      rcases hx with hx | hx
      · rw [hu] at hx
        cases hx
      · exact hk.isOpen h (hc.symm.trans hx)
    · intro before x after h hsplit hx
      rcases snoc_cases hsplit with ⟨rfl, rfl, rfl⟩ | ⟨mid, rfl, htr⟩
      · rw [ho] at hx
        cases hx
      · rcases hk.closed before x mid h htr hx with hin | ⟨hm, hmid⟩
        · exact Or.inl (hin.snoc e)
        · exact Or.inl ⟨mid, e, [], rfl, hc.trans hm, hmid⟩
  · -- nothing is opened or closed
    have hsame : ∀ h : Handle, opened e ≠ some h ∧ closed e ≠ some h := by
      intro h
      simp [ho, hc]
    refine ⟨hk.used.snoc ?_, fun h hm => (hk.isOpen h hm).snoc (hsame h).2, ?_⟩
    · intro h hx
      rcases hx with hx | hx
      · rcases hu with hu | hu
        · rw [hu] at hx
          cases hx
        · exact hk.isOpen h (hu.symm.trans hx)
      · exact absurd hx (hsame h).2
    · intro before x after h hsplit hx
      rcases snoc_cases hsplit with ⟨rfl, rfl, rfl⟩ | ⟨mid, rfl, htr⟩
      · exact absurd hx (hsame h).1
      · rcases hk.closed before x mid h htr hx with hin | ⟨hm, hmid⟩
        · exact Or.inl (hin.snoc e)
        · refine Or.inr ⟨hm, ?_⟩
          intro y hy
          rcases List.mem_append.mp hy with hy | hy
          · exact hmid y hy
          · rw [List.mem_singleton.mp hy]
            exact hsame h

/-- What the monitor keeps is kept by every run of a program that it lets
return with no file open. -/
theorem handles_run {p : Program Status} (hp : wp handleStep p none (fun _ m => m = none))
    {tr : List Event} {o : Option Status} (hrun : Runs p tr o) :
    UsedWhileOpen tr ∧ (o ≠ none → AllClosed tr) := by
  have hstart : HandlesKept [] none := by
    refine ⟨?_, (fun h hh => by cases hh), ?_⟩
    · intro before e after h hsplit
      cases before <;> cases hsplit
    · intro before e after h hsplit
      cases before <;> cases hsplit
  rcases wp_sound hrun hp with hup | ⟨m, hgo, hend⟩
  · exact absurd hup (watch_ne_giveUp handleStep_ne_giveUp tr none)
  · have hk := watch_invariant hstart (fun tr m e m' => handlesKept_step) hgo
    refine ⟨hk.used, fun ho => ?_⟩
    obtain ⟨st, rfl⟩ := Option.ne_none_iff_exists'.mp ho
    obtain rfl : m = none := hend st rfl
    intro before e after h hsplit he
    rcases hk.closed before e after h hsplit he with hin | ⟨hm, -⟩
    · exact hin
    · cases hm

/-- **Handles**: in every run of `val_send_files` and of `val_receive_files`,
whatever is answered, a handle is used only between the `fopen` that returned
it and its `fclose`, and a call that returns has closed every handle once. -/
theorem handles_closed (tr : List Event) (o : Option Status) :
    (∀ (env : SendEnv) (filepaths : List Bytes), Runs (valSendFiles env filepaths) tr o →
        UsedWhileOpen tr ∧ (o ≠ none → AllClosed tr))
      ∧ ∀ (env : RecvEnv) (dir : Bytes), Runs (valReceiveFiles env dir) tr o →
        UsedWhileOpen tr ∧ (o ≠ none → AllClosed tr) :=
  ⟨fun env filepaths => handles_run (handles_valSendFiles env filepaths),
    fun env dir => handles_run (handles_valReceiveFiles env dir)⟩

/-- A sender with small packets and no CRC provider. -/
def plainSender : SendEnv := ⟨quickDegrade, none, none⟩

/-- Two empty files where nothing fails. -/
def calmBatch : List Event × Option Status :=
  exec (fun _ => Call.calm) 100 (valSendFiles plainSender [[0x61], [0x62]]) []

theorem handles_closed_calmBatch :
    calmBatch.2 = some .ok ∧ UsedWhileOpen calmBatch.1 ∧ AllClosed calmBatch.1 := by
  have hdone : calmBatch.2 = some .ok := by rfl
  obtain ⟨hused, hclosed⟩ := (handles_closed calmBatch.1 calmBatch.2).1 plainSender _
    (exec_nil_runs _ _ _)
  exact ⟨hdone, hused, hclosed (by rw [hdone]; exact Option.some_ne_none _)⟩

end ValProtocol.Hooks
