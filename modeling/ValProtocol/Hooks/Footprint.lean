/-
  ValProtocol.Hooks.Footprint
  ───────────────────────────
  Which calls the functions of both sides can make, whatever is answered.  A
  property of runs that these calls do not touch passes over the function by
  the frame rule.

    • `Call.OnFile`, `Call.Unreported` — the filesystem hooks and the callbacks of
      the application,
    • `Call.Reads h` — `fseek` and `fread` on `h`: the region CRC,
    • `Call.Reloads h` — what `send_data_packet` does,
    • `Call.Awaits h` — what the wait for a window's acknowledgement does.
-/
import ValProtocol.Hooks.Sender
import ValProtocol.Hooks.Receiver

namespace ValProtocol.Hooks

open Programs Prog

/-! ## §1. Sorts of calls. -/

/-- A filesystem hook. -/
abbrev Call.OnFile : Call → Prop
  | .fopen _ _ | .fclose _ | .fseek _ _ _ | .ftell _ | .fread _ _ | .fwrite _ _ => True
  | _ => False

/-- Not a callback of the application that reports on a file. -/
def Call.Unreported : Call → Prop
  | .onFileStart _ _ _ _ | .onFileComplete _ _ _ | .onProgress _ => False
  | _ => True

def Call.Reads (h : Handle) : Call → Prop
  | .fseek f _ _ => f = h
  | .fread f _ => f = h
  | _ => False

def Call.Reloads (h : Handle) : Call → Prop
  | .fseek f _ _ => f = h
  | .fread f _ => f = h
  | .sendPacket p => p.type = .data
  | _ => False

def Call.Rewinds (h : Handle) : Call → Prop
  | .fseek f _ _ => f = h
  | .ftell f => f = h
  | .currentWindow => True
  | _ => False

def Call.Awaits (h : Handle) : Call → Prop
  | .checkForCancel | .recvUntilDeadline | .getTicks | .onProgress _ => True
  | .fseek f _ _ => f = h
  | .ftell f => f = h
  | .currentWindow => True
  | _ => False

/-! ## §2. Functions of both sides. -/

theorem only_seekIf {P : Call → Prop} (wanted : Bool) (f : Handle) (offset : Int)
    (h : P (.fseek f offset .seekSet)) : Only P (seekIf wanted f offset) := by
  unfold seekIf
  cases wanted <;> simp [h]

theorem only_crc32Region (cfg : Config) (provider : Option CrcProvider) (mtu : Nat)
    (f : Handle) (start length : Nat) :
    Only (Call.Reads f) (crc32Region cfg provider mtu f start length) := by
  have hloop : ∀ step left, Only (Call.Reads f) (regionLoop f step left) := by
    intro step left
    unfold regionLoop
    simp [Call.Reads]
  unfold crc32Region
  cases provider <;> simp [Call.Reads, hloop]

/-! ## §3. The sender. -/

theorem only_getFileSizeAndName (filepath : Bytes) :
    Only Call.OnFile (getFileSizeAndName filepath) := by
  unfold getFileSizeAndName
  rw [only_ask_bind]
  refine ⟨trivial, fun file => ?_⟩
  cases file <;> simp [Call.OnFile]

theorem only_batchTotalBytes (filepaths : List Bytes) (total : Nat) :
    Only Call.OnFile (batchTotalBytes filepaths total) := by
  induction filepaths generalizing total with
  | nil => trivial
  | cons filepath rest ih =>
      unfold batchTotalBytes
      apply only_bind (only_getFileSizeAndName filepath)
      intro r
      cases r with
      | error st => exact ih total
      | ok x => exact ih _

theorem only_verifyTail (env : SendEnv) (mtu : Nat) (filepath : Bytes) (off length : Nat) :
    Only Call.Unreported (verifyTail env mtu filepath off length) := by
  have hreads : ∀ f : Handle, ∀ c : Call, c.Reads f → c.Unreported := by
    intro f c
    cases c <;> simp [Call.Reads, Call.Unreported]
  unfold verifyTail
  rw [only_ask_bind]
  refine ⟨trivial, fun file => ?_⟩
  cases file with
  | none => trivial
  | some f =>
      apply only_bind (only_seekIf _ f _ trivial)
      intro _
      apply only_bind (only_mono (hreads f) (only_crc32Region _ _ _ f _ _))
      intro crc
      cases crc <;> simp [Call.Unreported]

theorem only_handleResumeNegotiation (env : SendEnv) (mtu size : Nat) (filepath : Bytes) :
    Only Call.Unreported (handleResumeNegotiation env mtu size filepath) := by
  have hresp : ∀ buf, Only Call.Unreported (onResumeResp env mtu size filepath buf) := by
    intro buf
    unfold onResumeResp
    dsimp only
    split
    all_goals simp [only_verifyTail]
  unfold handleResumeNegotiation
  simp only [only_ask_bind, only_ite, only_pure, implies_true, true_and]
  refine ⟨trivial, fun _ _ => ⟨trivial, fun resp => ?_⟩⟩
  cases resp <;> simp [hresp]

theorem only_sendDataPacket (u : Upload) (d : SendLocals) (b : Bool) :
    Only (Call.Reloads u.handle) (sendDataPacket u d b) := by
  have hread : ∀ n, Only (Call.Reloads u.handle) (readFully u.handle n) := by
    intro n
    unfold readFully
    simp [Call.Reloads]
  unfold sendDataPacket
  dsimp only
  simp only [only_ite, only_pure, implies_true, true_and]
  intro _ _ _ _
  apply only_bind (only_seekIf (P := Call.Reloads u.handle) _ u.handle _ rfl)
  intro _
  apply only_bind (hread _)
  intro got
  simp [Call.Reloads]

theorem only_rewind (u : Upload) (d : SendLocals) (target : Int) :
    Only (Call.Rewinds u.handle) (rewind u d target) := by
  unfold rewind
  rw [only_ask_bind]
  refine ⟨rfl, fun pos => ?_⟩
  apply only_bind (only_seekIf (P := Call.Rewinds u.handle) _ u.handle _ rfl)
  intro _
  simp [Call.Rewinds]

theorem only_emitProgressSender (ctx : ProgressCtx) (name : Bytes) (n : Nat) (force : Bool)
    (h : Handle) : Only (Call.Awaits h) (emitProgressSender ctx name n force) := by
  unfold emitProgressSender
  simp [Call.Awaits]

theorem only_waitForWindowAck (env : SendEnv) (u : Upload) (target : Nat) (d : SendLocals) :
    Only (Call.Awaits u.handle) (waitForWindowAck env u target d) := by
  have hrewinds : ∀ c : Call, c.Rewinds u.handle → c.Awaits u.handle := by
    intro c
    cases c <;> simp [Call.Rewinds, Call.Awaits]
  have hrewind : ∀ d target f, (∀ x : SendLocals, Only (Call.Awaits u.handle) (f x)) →
      Only (Call.Awaits u.handle) (rewind u d target >>= f :
        Program (Pass SendLocals (Except Status (SendLocals × Bool)))) :=
    fun d target f => only_bind (only_mono hrewinds (only_rewind u d target))
  unfold waitForWindowAck
  rw [only_forever]
  intro d
  simp only [only_ask_bind, only_ite, only_pure, implies_true, true_and]
  refine ⟨trivial, fun _ _ => ⟨trivial, fun r => ?_⟩⟩
  cases r with
  | error st => simp [hrewind]
  | ok p =>
      dsimp only
      split
      · trivial
      · simp [hrewind]
      · simp only [only_ite, only_pure, implies_true, true_and]
        intro _
        apply only_bind (only_emitProgressSender _ _ _ _ _)
        intro ctx
        simp [Call.Awaits]
      · trivial
      · trivial

/-! ## §4. The receiver. -/

theorem only_determineResumeAction (env : RecvEnv) (mtu : Nat) (path : Bytes)
    (incoming : Nat) : Only Call.OnFile (determineResumeAction env mtu path incoming) := by
  have hreads : ∀ f : Handle, ∀ c : Call, c.Reads f → c.OnFile := by
    intro f c
    cases c <;> simp [Call.Reads, Call.OnFile]
  unfold determineResumeAction
  rw [only_ask_bind]
  refine ⟨trivial, fun file => ?_⟩
  cases file with
  | none => trivial
  | some f =>
      simp only [only_ask_bind, only_ite]
      refine ⟨trivial, fun _ => ⟨trivial, fun existing => ⟨fun _ => by simp [Call.OnFile],
        fun _ => ?_⟩⟩⟩
      cases env.cfg.resume.mode with
      | never => simp [Call.OnFile]
      | skipExisting => simp [Call.OnFile]
      | tail =>
          simp only [only_ite]
          refine ⟨fun _ => by simp [Call.OnFile], fun _ => ⟨fun _ => by simp [Call.OnFile],
            fun _ => ?_⟩⟩
          apply only_bind (only_mono (hreads f) (only_crc32Region _ _ mtu f _ _))
          intro crc
          cases crc <;> simp [Call.OnFile]

end ValProtocol.Hooks
