/-
  ValProtocol.Hooks.ReceiverCallbacks
  ───────────────────────────────────
  The file callbacks of `val_receive_files`.

  Behind `on_file_start` the receiver reports a completion at DONE and at a
  cancel, and at no other exit: a failing hook, a packet that cannot be sent,
  a wait that is given up, an ERROR, SEND_META or EOT packet, a validator that
  aborts.  A validator that skips a file whose start has been announced
  makes it announce the start again.  These are the receiver's slips.

    • `receiverExits` — the slips,
    • `callbacks_valReceiveFiles` — the monitor accepts every run,
    • `callbacks_pairUp` — the file callbacks of a call on either side pair up
      if and only if it has no slip.
-/
import ValProtocol.Hooks.Handles
import ValProtocol.Hooks.SenderCallbacks
import ValProtocol.Session.LoneReceiver

namespace ValProtocol.Hooks

open Programs Prog

/-! ## §1. The receiver's slips. -/

structure RecvMemo where
  /-- the last wait for metadata or RESUME_REQ has timed out -/
  timedOut : Bool
  /-- it has brought a RESUME_REQ -/
  asked : Bool
  /-- failed receives since the last packet of the file -/
  misses : Nat
  deriving Repr, DecidableEq

def RecvMemo.note (k : RecvMemo) : Event → RecvMemo
  | ⟨.recvPacket .opMeta, .ok p⟩ => { k with timedOut := false, asked := p.type == .resumeReq }
  | ⟨.recvPacket .opMeta, .error st⟩ => { k with timedOut := st == .timeout, asked := false }
  | ⟨.recvPacket _, .ok _⟩ => { k with misses := 0 }
  | ⟨.recvPacket _, .error _⟩ => { k with misses := k.misses + 1 }
  | ⟨.onFileStart _ _ _ _, _⟩ => { k with misses := 0 }
  | _ => k

/-- The packets that end the wait for DONE of a skipped file, and the data
loop, without a completion. -/
def WaitOp.ends : WaitOp → PacketType → Bool
  | .opMeta, _ => false
  | .opDoneAck, t => t == .eot || t == .cancel
  | .opDataRecv, t => t == .error || t == .sendMeta

/-- The failures behind which a receive is tried again. -/
def WaitOp.retried : WaitOp → Status → Bool
  | .opMeta, _ => true
  | .opDoneAck, st => st == .timeout
  | .opDataRecv, st => st == .timeout || st == .crc

/-- How often a receive is tried again. -/
def WaitOp.budget (retries : RetryConfig) : WaitOp → Nat
  | .opMeta => retries.metaRetries
  | .opDoneAck => retries.ackRetries
  | .opDataRecv => retries.dataRetries

/-- The slips while a file is announced. -/
def RecvMemo.slip (retries : RetryConfig) (k : RecvMemo) : Event → Bool
  | ⟨.validator _ _, act⟩ => act == .abort || (act == .skip && k.asked)
  | ⟨.fopen _ _, file⟩ => file.isNone
  | ⟨.fwrite _ bytes, n⟩ => n != bytes.length
  | ⟨.checkHealth, st⟩ => st != .ok
  | ⟨.isConnected, up⟩ => !up
  | ⟨.sendPacket _, st⟩ => st != .ok
  | ⟨.recvPacket op, .ok p⟩ => op.ends p.type
  | ⟨.recvPacket op, .error st⟩ => !op.retried st || decide (op.budget retries ≤ k.misses)
  | _ => false

/-- The one slip before `on_file_start`: the DATA_ACK behind a timeout. -/
def RecvMemo.slipBefore (k : RecvMemo) : Event → Bool
  | ⟨.sendPacket p, st⟩ => p.type == .dataAck && st != .ok && k.timedOut
  | _ => false

def receiverExits (retries : RetryConfig) : Exits RecvMemo where
  start := ⟨false, false, 0⟩
  note := RecvMemo.note
  slip k announced e := if announced then k.slip retries e else k.slipBefore e

/-! ## §2. Calls. -/

/-- A call that is nothing to the monitor between files. -/
abbrev Call.Neutral : Call → Prop
  | .onFileStart _ _ _ _ | .onFileComplete _ _ _ | .sendPacket _ | .recvPacket _ => False
  | _ => True

/-- A call that is nothing to the monitor while a file is announced. -/
abbrev Call.Harmless : Call → Prop
  | .onFileStart _ _ _ _ | .onFileComplete _ _ _ | .sendPacket _ | .recvPacket _
  | .validator _ _ | .fopen _ _ | .fwrite _ _ | .checkHealth | .isConnected => False
  | _ => True

/-- A call that is nothing to the monitor behind a slip. -/
abbrev Call.Spent : Call → Prop
  | .onFileStart _ _ _ _ | .onFileComplete _ _ _ | .recvPacket _ => False
  | _ => True

section Calls

variable {retries : RetryConfig} {name : Bytes} {k : RecvMemo}

@[simp] theorem recv_blind_idle {c : Call} (hc : c.Neutral) :
    Blind (receiverExits retries).step ⟨.idle, k⟩ c := by
  intro r
  cases c
  all_goals first
    | rfl
    | exact absurd hc id

@[simp] theorem recv_blind_announced {c : Call} (hc : c.Harmless) :
    Blind (receiverExits retries).step ⟨.announced name, k⟩ c := by
  intro r
  cases c
  all_goals first
    | rfl
    | exact absurd hc id

@[simp] theorem recv_blind_lapsed {c : Call} (hc : c.Spent) :
    Blind (receiverExits retries).step ⟨.lapsed, k⟩ c := by
  intro r
  cases c
  all_goals first
    | rfl
    | exact absurd hc id

@[simp] theorem recv_onFileStart_idle (path : Bytes) (size off : Nat)
    (Q : Unit → View RecvMemo → Prop) :
    wp (receiverExits retries).step (onFileStart name path size off) ⟨.idle, k⟩ Q ↔
      Q () ⟨.announced name, { k with misses := 0 }⟩ :=
  ⟨fun h => h (), fun h _ => h⟩

@[simp] theorem recv_onFileStart_lapsed (path : Bytes) (size off : Nat)
    (Q : Unit → View RecvMemo → Prop) :
    wp (receiverExits retries).step (onFileStart name path size off) ⟨.lapsed, k⟩ Q ↔
      Q () ⟨.broken, { k with misses := 0 }⟩ :=
  ⟨fun h => h (), fun h _ => h⟩

@[simp] theorem recv_onFileStart_doomed (path : Bytes) (size off : Nat)
    (Q : Unit → View RecvMemo → Prop) :
    wp (receiverExits retries).step (onFileStart name path size off) ⟨.doomed, k⟩ Q ↔
      Q () ⟨.lapsed, { k with misses := 0 }⟩ :=
  ⟨fun h => h (), fun h _ => h⟩

@[simp] theorem recv_onFileComplete (path : Bytes) (st : Status)
    (Q : Unit → View RecvMemo → Prop) :
    wp (receiverExits retries).step (onFileComplete name path st) ⟨.announced name, k⟩ Q ↔
      Q () ⟨.idle, k⟩ := by
  unfold Exits.step
  rw [wp_ask_guarded]
  simp only [fileCallback, Phase.bad, Exits.next, Phase.next, bne_self_eq_false, true_and]
  exact ⟨fun h => h (), fun h _ => h⟩

end Calls

/-! ## §3. The negotiation. -/

/-- The monitor of a receiving session. -/
abbrev recvStep (env : RecvEnv) : View RecvMemo → Event → Verdict (View RecvMemo) :=
  (receiverExits env.cfg.retries).step

theorem callbacks_startAt (env : RecvEnv) (f : RecvFile) (off : Nat) (skipping : Bool)
    (k : RecvMemo) :
    wp (recvStep env) (startAt f off skipping) ⟨.idle, k⟩
      (fun r v => r = .ok (off, skipping) ∧ v = ⟨.announced f.name, { k with misses := 0 }⟩) := by
  unfold startAt
  simp

/-- The start is announced with a result, and not without. -/
def AnnouncedUnlessError (name : Bytes) (k : RecvMemo) : Settled → View RecvMemo → Prop
  | .ok _, v => v = ⟨.announced name, { k with misses := 0 }⟩
  | .error _, v => v = ⟨.idle, k⟩

theorem callbacks_startAt_settled (env : RecvEnv) (f : RecvFile) (off : Nat) (skipping : Bool)
    (k : RecvMemo) :
    wp (recvStep env) (startAt f off skipping) ⟨.idle, k⟩ (AnnouncedUnlessError f.name k) := by
  apply wp_mono _ (callbacks_startAt env f off skipping k)
  rintro r _ ⟨rfl, rfl⟩
  rfl

theorem callbacks_verifyRound (env : RecvEnv) (mtu : Nat) (f : RecvFile) (dec : ResumeDecision)
    (k : RecvMemo) :
    wp (recvStep env) (verifyRound env mtu f dec) ⟨.idle, k⟩ (AnnouncedUnlessError f.name k) := by
  unfold verifyRound
  simp only [wp_bind, wp_ask_blind, recv_blind_idle, Call.Neutral]
  intro r
  cases r with
  | error st => rfl
  | ok vbuf =>
      simp only [wp_bind, wp_ask_blind, recv_blind_idle, Call.Neutral]
      intro file
      cases file with
      | none => simp [Call.Neutral, AnnouncedUnlessError]
      | some lf =>
          have hcrc : ∀ start length, wp (recvStep env)
              (crc32Region env.cfg env.provider mtu lf start length) ⟨.idle, k⟩
              (fun _ v => v = ⟨.idle, k⟩) := by
            intro start length
            refine wp_only ?_ (only_crc32Region _ _ mtu lf start length) (fun _ => rfl)
            intro c hc
            apply recv_blind_idle
            cases c <;> trivial
          apply wp_use (hcrc _ _)
          rintro crc _ rfl
          simp only [wp_bind, wp_ask_blind, recv_blind_idle, Call.Neutral]
          intro _ _
          split
          all_goals exact callbacks_startAt_settled env f _ _ k

theorem callbacks_answerResume (env : RecvEnv) (mtu : Nat) (f : RecvFile) (k : RecvMemo) :
    wp (recvStep env) (answerResume env mtu f) ⟨.idle, k⟩ (AnnouncedUnlessError f.name k) := by
  have hdecide : wp (recvStep env) (determineResumeAction env mtu f.path f.size) ⟨.idle, k⟩
      (fun _ v => v = ⟨.idle, k⟩) := by
    refine wp_only ?_ (only_determineResumeAction env mtu f.path f.size) (fun _ => rfl)
    intro c hc
    apply recv_blind_idle
    cases c <;> trivial
  have hresp : ∀ payload, Blind (recvStep env) ⟨.idle, k⟩
      (.sendPacket ⟨.resumeResp, payload, 0, true⟩) :=
    fun payload r => rfl
  unfold answerResume
  apply wp_use hdecide
  rintro dec _ rfl
  simp only [wp_bind, wp_ask_blind, hresp, wp_ite, wp_pure]
  intro st
  refine ⟨fun _ => rfl, fun _ => ?_⟩
  cases dec.action with
  | skipFile => exact callbacks_startAt_settled env f _ _ k
  | startZero => exact callbacks_startAt_settled env f _ _ k
  | startOffset => exact callbacks_startAt_settled env f _ _ k
  | verifyFirst => exact callbacks_verifyRound env mtu f dec k
  | abortFile => simp [Call.Neutral, AnnouncedUnlessError]

/-- Behind the metadata validation of an announced file. -/
def Vetted (name : Bytes) (k : RecvMemo) : Except Status Bool → View RecvMemo → Prop
  | .error _, v => v = ⟨.lapsed, k⟩
  | .ok true, v => v = ⟨if k.asked then .lapsed else .announced name, k⟩
  | .ok false, v => v = ⟨.announced name, k⟩

theorem callbacks_validateMetadata (env : RecvEnv) (dir : Bytes) (f : RecvFile) (k : RecvMemo)
    {path : Bytes} (hpath : constructTargetPath env dir f.name = some path) :
    wp (recvStep env) (validateMetadata env dir f) ⟨.announced f.name, k⟩ (Vetted f.name k) := by
  unfold validateMetadata
  rw [hpath]
  dsimp only
  rw [wp_bind, (receiverExits env.cfg.retries).wp_ask_announced id]
  intro act
  cases act with
  | accept => rfl
  | skip => rfl
  | abort =>
      show wp (recvStep env) _ (View.mk .lapsed k) _
      simp [Vetted, Call.Spent]
  | other value => rfl

/-- Between files. -/
def Idle (v : View RecvMemo) : Prop := ∃ k, v = ⟨.idle, k⟩

/-- Behind a slip. -/
def Lapsed (v : View RecvMemo) : Prop := ∃ k, v = ⟨.lapsed, k⟩

/-- The start of `name` has been announced, and no receive has failed since
the last packet. -/
def Announced (name : Bytes) (v : View RecvMemo) : Prop :=
  ∃ k : RecvMemo, v = ⟨.announced name, k⟩ ∧ k.misses = 0

/-- Behind the negotiation; a start announced twice is broken. -/
def Settles (name : Bytes) : Settled → View RecvMemo → Prop
  | .ok _, v => Announced name v ∨ v.phase = .broken
  | .error _, v => Idle v ∨ Lapsed v

theorem callbacks_legacyStart (env : RecvEnv) (dir : Bytes) (f : RecvFile) (timedOut : Bool)
    {k : RecvMemo} {path : Bytes} (hpath : constructTargetPath env dir f.name = some path)
    (htimed : k.timedOut = timedOut) (hasked : k.asked = false) :
    wp (recvStep env) (legacyStart env dir f timedOut) ⟨.idle, k⟩ (Settles f.name) := by
  unfold legacyStart
  rw [wp_bind, (receiverExits env.cfg.retries).wp_ask_idle id]
  intro st
  by_cases hst : st = .ok
  · -- the DATA_ACK has been sent
    subst hst
    show wp (recvStep env) _ (View.mk .idle k) _
    simp only [wp_ite, wp_bind, recv_onFileStart_idle, wp_pure]
    refine ⟨fun h => absurd rfl h.2, fun _ => ⟨fun h => absurd rfl h, fun _ => ?_⟩⟩
    apply wp_mono _ (callbacks_validateMetadata env dir f _ hpath)
    intro verdict v hv
    rcases verdict with st | skip
    · exact Or.inr ⟨_, hv⟩
    · cases skip with
      | true =>
          have hnot : ¬ ({ k with misses := 0 } : RecvMemo).asked = true := by simp [hasked]
          exact Or.inl ⟨{ k with misses := 0 }, hv.trans (by rw [if_neg hnot]), rfl⟩
      | false => exact Or.inl ⟨_, hv, rfl⟩
  · have hslip : (receiverExits env.cfg.retries).slip k false
        ⟨.sendPacket (sendBare .dataAck 0), st⟩ = timedOut := by
      simp [receiverExits, RecvMemo.slipBefore, sendBare, hst, htimed]
    rw [hslip]
    cases timedOut with
    | true =>
        -- the start is announced before the status is looked at
        simp [hst, Settles, Lapsed]
    | false => simp [hst, Settles, Idle]

theorem callbacks_neverNegotiation (env : RecvEnv) (mtu : Nat) (dir : Bytes) (f : RecvFile)
    {v : View RecvMemo} (hv : Idle v) {path : Bytes}
    (hpath : constructTargetPath env dir f.name = some path) :
    wp (recvStep env) (neverNegotiation env mtu dir f) v (Settles f.name) := by
  obtain ⟨k, rfl⟩ := hv
  unfold neverNegotiation
  rw [wp_bind, (receiverExits env.cfg.retries).wp_ask_idle id]
  intro r
  cases r with
  | error st =>
      show wp (recvStep env) _ (View.mk .idle
        { k with timedOut := st == .timeout, asked := false }) _
      simp only [wp_ite, wp_pure]
      refine ⟨fun h => ?_, fun h => ⟨fun _ => Or.inl ⟨_, rfl⟩, fun _ => ?_⟩⟩
      · exact callbacks_legacyStart env dir f true hpath (by simp [h]) rfl
      · exact callbacks_legacyStart env dir f false hpath (by simp [h]) rfl
  | ok p =>
      show wp (recvStep env) _ (View.mk .idle
        { k with timedOut := false, asked := p.type == .resumeReq }) _
      dsimp only
      rw [wp_ite]
      refine ⟨fun hreq => ?_, fun hreq => ?_⟩
      · -- RESUME_REQ is answered, and the metadata validated behind the start
        apply wp_use (callbacks_answerResume env mtu f _)
        intro settled v hv
        rcases settled with st | ⟨off, skipping⟩
        · exact Or.inl ⟨_, hv⟩
        obtain rfl : v = _ := hv
        apply wp_use (callbacks_validateMetadata env dir f _ hpath)
        intro verdict v hv
        rcases verdict with st | skip
        · exact Or.inr ⟨_, hv⟩
        cases skip with
        | true =>
            -- the second start
            obtain rfl : v = ⟨.lapsed, _⟩ := hv.trans (by rw [if_pos (by simpa using hreq)])
            simp only [wp_bind, wp_ask_blind, recv_blind_lapsed, Call.Spent, wp_ite, wp_pure]
            intro st
            refine ⟨fun _ => Or.inr ⟨_, rfl⟩, fun _ => ?_⟩
            unfold startAt
            simp [Settles]
        | false => exact Or.inl ⟨_, hv, rfl⟩
      · apply callbacks_legacyStart env dir f false hpath rfl
        simpa using hreq

/-- A wait: no callbacks, and nothing is sent. -/
abbrev Call.Waits : Call → Prop
  | .onFileStart _ _ _ _ | .onFileComplete _ _ _ | .sendPacket _ => False
  | _ => True

/-- What only waits leaves the monitor between files. -/
theorem callbacks_waits (env : RecvEnv) {α : Type} {p : Program α} (hp : Only Call.Waits p)
    {v : View RecvMemo} (hv : Idle v) : wp (recvStep env) p v (fun _ v => Idle v) := by
  apply wp_frame (S := Idle) _ hp hv
  rintro _ c r ⟨k, rfl⟩ hc
  cases c
  all_goals first
    | exact ⟨_, rfl⟩
    | exact absurd hc id

theorem callbacks_resumeNegotiation (env : RecvEnv) (mtu : Nat) (f : RecvFile)
    {v : View RecvMemo} (hv : Idle v) :
    wp (recvStep env) (resumeNegotiation env mtu f) v (Settles f.name) := by
  have hawait : Only Call.Waits (awaitResumeReq env) := by
    unfold awaitResumeReq
    simp only [only_forever, only_ask_bind]
    refine fun tries => ⟨trivial, fun r => ?_⟩
    cases r with
    | error st => simp
    | ok p =>
        dsimp only
        split <;> trivial
  unfold resumeNegotiation
  apply wp_use (callbacks_waits env hawait hv)
  rintro r _ ⟨k, rfl⟩
  cases r with
  | error st => exact Or.inl ⟨k, rfl⟩
  | ok x =>
      apply wp_use (callbacks_answerResume env mtu f k)
      intro settled v hv
      rcases settled with st | ⟨off, skipping⟩
      · exact Or.inl ⟨_, hv⟩
      · exact Or.inl ⟨_, hv, rfl⟩

theorem callbacks_settle (env : RecvEnv) (mtu : Nat) (dir : Bytes) (f : RecvFile)
    {v : View RecvMemo} (hv : Idle v) {path : Bytes}
    (hpath : constructTargetPath env dir f.name = some path) :
    wp (recvStep env) (settle env mtu dir f) v (Settles f.name) := by
  unfold settle
  rw [wp_ite]
  exact ⟨fun _ => callbacks_neverNegotiation env mtu dir f hv hpath,
    fun _ => callbacks_resumeNegotiation env mtu f hv⟩

/-! ## §4. The file. -/

/-- The file is announced, and its receive will be tried again `tries`
times. -/
def Trying (op : WaitOp) (retries : RetryConfig) (name : Bytes) (tries : Nat)
    (v : View RecvMemo) : Prop :=
  ∃ k : RecvMemo, v = ⟨.announced name, k⟩ ∧ k.misses + tries = op.budget retries

theorem Announced.trying {name : Bytes} {v : View RecvMemo} (hv : Announced name v) (op : WaitOp)
    (retries : RetryConfig) : Trying op retries name (op.budget retries) v := by
  obtain ⟨k, rfl, hk⟩ := hv
  exact ⟨k, rfl, by rw [hk, Nat.zero_add]⟩

/-- Behind an attempt. -/
def Attempted (op : WaitOp) (retries : RetryConfig) (name : Bytes) (tries : Nat) :
    Except Status Arrival → View RecvMemo → Prop
  | .ok p, v => (op.ends p.type = true → Lapsed v) ∧ (op.ends p.type = false → Announced name v)
  | .error st, v => (op.retried st = false ∨ tries = 0 → Lapsed v)
      ∧ (op.retried st = true → tries ≠ 0 → Trying op retries name (tries - 1) v)

theorem callbacks_recvPacket (env : RecvEnv) {op : WaitOp} (hop : op ≠ .opMeta) {name : Bytes}
    {tries : Nat} {v : View RecvMemo} (hv : Trying op env.cfg.retries name tries v) :
    wp (recvStep env) (recvPacket op) v (Attempted op env.cfg.retries name tries) := by
  obtain ⟨k, rfl, hk⟩ := hv
  rw [(receiverExits env.cfg.retries).wp_ask_announced id]
  intro r
  cases r with
  | ok p =>
      -- a packet resets the count of misses
      have hnote : (receiverExits env.cfg.retries).note k ⟨.recvPacket op, .ok p⟩
          = { k with misses := 0 } := by
        cases op with
        | opMeta => exact absurd rfl hop
        | opDoneAck => rfl
        | opDataRecv => rfl
      have hslip : (receiverExits env.cfg.retries).slip k true ⟨.recvPacket op, .ok p⟩
          = op.ends p.type := rfl
      rw [hnote, hslip]
      refine ⟨fun h => ?_, fun h => ?_⟩
      · rw [h]
        exact ⟨_, rfl⟩
      · rw [h]
        exact ⟨_, rfl, rfl⟩
  | error st =>
      -- an error counts as a miss, and is a slip when the budget is used up
      have hnote : (receiverExits env.cfg.retries).note k ⟨.recvPacket op, .error st⟩
          = { k with misses := k.misses + 1 } := by
        cases op with
        | opMeta => exact absurd rfl hop
        | opDoneAck => rfl
        | opDataRecv => rfl
      have hslip : (receiverExits env.cfg.retries).slip k true ⟨.recvPacket op, .error st⟩
          = (!op.retried st || decide (op.budget env.cfg.retries ≤ k.misses)) := rfl
      rw [hnote, hslip]
      refine ⟨fun h => ?_, fun hst htries => ?_⟩
      · rw [if_pos (by simp; exact h.imp_right (fun h0 => by omega))]
        exact ⟨_, rfl⟩
      · rw [if_neg (by simp [hst]; omega)]
        refine ⟨_, rfl, ?_⟩
        show k.misses + 1 + (tries - 1) = _
        omega

/-- Behind the receive of a skipped file. -/
def Arrives (name : Bytes) : Except Status Arrival → View RecvMemo → Prop
  | .ok p, v => (WaitOp.opDoneAck.ends p.type = true → Lapsed v)
      ∧ (WaitOp.opDoneAck.ends p.type = false → Announced name v)
  | .error _, v => Lapsed v

theorem callbacks_recvSkipped (env : RecvEnv) {name : Bytes} {v : View RecvMemo}
    (hv : Announced name v) :
    wp (recvStep env) (recvSkipped env.cfg.retries.ackRetries) v (Arrives name) := by
  apply wp_forever (I := Trying .opDoneAck env.cfg.retries name) (hv.trying .opDoneAck _)
  intro tries v hv
  apply wp_use (callbacks_recvPacket env (fun h => by cases h) hv)
  intro r v hr
  cases r with
  | ok p => exact hr
  | error st =>
      dsimp only
      rw [wp_ite]
      refine ⟨fun h => hr.1 ?_, fun h => ?_⟩
      · simpa [WaitOp.retried] using h
      · obtain ⟨hst, htries⟩ := not_or.mp h
        obtain ⟨k, rfl, hk⟩ := hr.2 (by simpa [WaitOp.retried] using hst) htries
        simp only [wp_bind, wp_ask_blind, recv_blind_announced, Call.Harmless, wp_pure,
          afterPass_again]
        exact fun _ => ⟨k, rfl, hk⟩

/-- Between files again, or behind a slip. -/
def Returned (v : View RecvMemo) : Prop := Idle v ∨ Lapsed v

theorem callbacks_skipLoop (env : RecvEnv) (size : Nat) {name : Bytes} {v : View RecvMemo}
    (hv : Announced name v) :
    wp (recvStep env) (skipLoop env size) v (fun r v =>
      (r = none → Announced name v) ∧ (r ≠ none → Returned v)) := by
  apply wp_forever (I := fun _ => Announced name) hv
  intro _ v hv
  apply wp_use (callbacks_recvSkipped env hv)
  intro r v hr
  cases r with
  | error st => exact ⟨fun h => (by cases h), fun _ => Or.inr hr⟩
  | ok p =>
      obtain ⟨hends, hgoes⟩ := hr
      dsimp only
      split
      · -- DONE
        obtain ⟨k, rfl, hk⟩ := hgoes (by simp [*, WaitOp.ends])
        simp only [wp_bind, wp_ask_blind, recv_blind_announced, Call.Harmless, wp_pure,
          afterPass_leave]
        exact fun _ => ⟨fun _ => ⟨k, rfl, hk⟩, fun h => absurd rfl h⟩
      · -- EOT
        obtain ⟨k, rfl⟩ := hends (by simp [*, WaitOp.ends])
        simp only [wp_bind, wp_ask_blind, recv_blind_lapsed, Call.Spent, wp_pure,
          afterPass_leave]
        exact fun _ => ⟨fun h => (by cases h), fun _ => Or.inr ⟨k, rfl⟩⟩
      · -- CANCEL
        exact ⟨fun h => (by cases h), fun _ => Or.inr (hends (by simp [*, WaitOp.ends]))⟩
      · rename_i hdone heot hcancel
        exact hgoes (by simpa [WaitOp.ends] using ⟨heot, hcancel⟩)

theorem callbacks_closeWith (env : RecvEnv) (u : Download) (st : Status) {v : View RecvMemo}
    (hv : Lapsed v) :
    wp (recvStep env) (closeWith u st) v (fun r v => r ≠ none ∧ Returned v) := by
  obtain ⟨k, rfl⟩ := hv
  unfold closeWith
  simp only [wp_bind, wp_ask_blind, recv_blind_lapsed, Call.Spent, wp_pure]
  exact fun _ => ⟨Option.some_ne_none st, Or.inr ⟨k, rfl⟩⟩

theorem callbacks_closeAborted (env : RecvEnv) (u : Download) (k : RecvMemo) :
    wp (recvStep env) (closeAborted u) ⟨.announced u.file.name, k⟩
      (fun r v => r ≠ none ∧ Returned v) := by
  unfold closeAborted
  simp only [wp_bind, wp_ask_blind, recv_blind_announced, Call.Harmless, recv_onFileComplete,
    wp_pure]
  exact fun _ => ⟨Option.some_ne_none _, Or.inl ⟨k, rfl⟩⟩

/-- A call that is a slip when its answer is bad. -/
theorem callbacks_test (env : RecvEnv) {c : Call} (hc : ¬ c.Announces) {name : Bytes}
    {v : View RecvMemo} (hv : ∃ k : RecvMemo, v = ⟨.announced name, k⟩)
    (bad : c.Answer → Prop) [DecidablePred bad]
    (hnote : ∀ k r, (receiverExits env.cfg.retries).note k ⟨c, r⟩ = k)
    (hslip : ∀ k r, (receiverExits env.cfg.retries).slip k true ⟨c, r⟩ = decide (bad r)) :
    wp (recvStep env) (Prog.ask c) v (fun r v' =>
      (bad r → Lapsed v') ∧ (¬ bad r → v' = v)) := by
  obtain ⟨k, rfl⟩ := hv
  rw [(receiverExits env.cfg.retries).wp_ask_announced hc]
  intro r
  rw [hnote, hslip]
  refine ⟨fun h => ?_, fun h => ?_⟩
  · simp [h, Lapsed]
  · simp [h]

theorem callbacks_checkHealth (env : RecvEnv) {name : Bytes} (k : RecvMemo) :
    wp (recvStep env) checkHealth ⟨.announced name, k⟩ (fun st v =>
      (st ≠ .ok → Lapsed v) ∧ (¬ st ≠ .ok → v = ⟨.announced name, k⟩)) :=
  callbacks_test env (c := .checkHealth) id ⟨k, rfl⟩ (fun st : Status => st ≠ .ok)
    (fun _ _ => rfl) (fun _ (st : Status) => by cases st <;> rfl)

theorem callbacks_isConnected (env : RecvEnv) {name : Bytes} (k : RecvMemo) :
    wp (recvStep env) isConnected ⟨.announced name, k⟩ (fun up v =>
      (up = false → Lapsed v) ∧ (¬ up = false → v = ⟨.announced name, k⟩)) :=
  callbacks_test env (c := .isConnected) id ⟨k, rfl⟩ (fun up : Bool => up = false)
    (fun _ _ => rfl) (fun _ (up : Bool) => by cases up <;> rfl)

theorem callbacks_sendPacket (env : RecvEnv) (p : Send) {name : Bytes} (k : RecvMemo) :
    wp (recvStep env) (sendPacket p) ⟨.announced name, k⟩ (fun st v =>
      (st ≠ .ok → Lapsed v) ∧ (¬ st ≠ .ok → v = ⟨.announced name, k⟩)) :=
  callbacks_test env (c := .sendPacket p) id ⟨k, rfl⟩ (fun st : Status => st ≠ .ok)
    (fun _ _ => rfl) (fun _ (st : Status) => by cases st <;> rfl)

/-- Behind the receive of the data loop. -/
def Received (name : Bytes) : Except (Option Status) Arrival → View RecvMemo → Prop
  | .ok p, v => (WaitOp.opDataRecv.ends p.type = true → Lapsed v)
      ∧ (WaitOp.opDataRecv.ends p.type = false → Announced name v)
  | .error r, v => r ≠ none ∧ Returned v

theorem callbacks_recvData (env : RecvEnv) (u : Download) {v : View RecvMemo}
    (hv : Announced u.file.name v) :
    wp (recvStep env) (recvData env u) v (Received u.file.name) := by
  apply wp_forever (I := Trying .opDataRecv env.cfg.retries u.file.name)
    (hv.trying .opDataRecv _)
  rintro tries _ ⟨k, rfl, hk⟩
  apply wp_use (callbacks_checkHealth env k)
  rintro health v ⟨hbad, hgood⟩
  rw [wp_ite]
  refine ⟨fun h => wp_use (callbacks_closeWith env u health (hbad h)) (fun _ _ hv => hv),
    fun h => ?_⟩
  obtain rfl := hgood h
  apply wp_use (callbacks_isConnected env k)
  rintro connected v ⟨hbad, hgood⟩
  rw [wp_ite]
  refine ⟨fun h => wp_use (callbacks_closeWith env u .io (hbad h)) (fun _ _ hv => hv),
    fun h => ?_⟩
  obtain rfl := hgood h
  simp only [wp_bind, wp_ask_blind, recv_blind_announced, Call.Harmless, wp_ite]
  refine fun cancelled => ⟨fun _ => wp_mono (fun _ _ hv => hv) (callbacks_closeAborted env u k),
    fun _ => ?_⟩
  -- the three tests before the receive leave nothing behind
  apply wp_mono _ (callbacks_recvPacket env (fun h => by cases h) ⟨k, rfl, hk⟩)
  intro r v hr
  cases r with
  | ok p => exact hr
  | error st =>
      dsimp only
      rw [wp_ite]
      refine ⟨fun h => ?_, fun h => ?_⟩
      · have hlapsed : Lapsed v := by
          apply hr.1
          rcases h with h | h
          · exact Or.inl (by simpa [WaitOp.retried] using h)
          · exact Or.inr h
        exact wp_use (callbacks_closeWith env u st hlapsed) (fun _ _ hv => hv)
      · obtain ⟨hst, htries⟩ := not_or.mp h
        have hretried : WaitOp.opDataRecv.retried st = true := by
          simp only [WaitOp.retried, Bool.or_eq_true, beq_iff_eq]
          tauto
        obtain ⟨k', rfl, hk'⟩ := hr.2 hretried htries
        simp only [wp_bind, wp_ask_blind, recv_blind_announced, Call.Harmless, wp_pure,
          afterPass_again]
        exact fun _ => ⟨k', rfl, hk'⟩

/-- Behind a round of the data loop. -/
def Rounds (name : Bytes) : Pass RecvLocals (Option Status) → View RecvMemo → Prop
  | .again _, v => Announced name v
  | .leave none, v => Idle v
  | .leave (some _), v => Returned v

theorem callbacks_leave (env : RecvEnv) {name : Bytes} {p : Program (Option Status)}
    {v : View RecvMemo} (hp : wp (recvStep env) p v (fun r v => r ≠ none ∧ Returned v)) :
    wp (recvStep env) (p >>= fun r => pure (.leave r)) v (Rounds name) := by
  apply wp_use hp
  rintro r v ⟨hr, hv⟩
  cases r with
  | none => exact absurd rfl hr
  | some st => exact hv

theorem callbacks_afterChunk (env : RecvEnv) (u : Download) (d : RecvLocals) (inOrder : Bool)
    {v : View RecvMemo} (hv : Announced u.file.name v) :
    wp (recvStep env) (afterChunk u d inOrder) v (Rounds u.file.name) := by
  obtain ⟨k, rfl, hk⟩ := hv
  unfold afterChunk
  simp only [wp_bind, wp_ask_blind, recv_blind_announced, Call.Harmless, wp_ite]
  intro _ _ cancelled
  refine ⟨fun _ => (wp_bind _ _ _).mp (callbacks_leave env (callbacks_closeAborted env u k)),
    fun _ => ⟨fun _ => ?_, fun _ => ⟨k, rfl, hk⟩⟩⟩
  apply wp_mono _ (callbacks_sendPacket env _ k)
  rintro st v ⟨hbad, hgood⟩
  exact ⟨fun h => (wp_bind _ _ _).mp (callbacks_leave env (callbacks_closeWith env u st (hbad h))),
    fun h => ⟨k, hgood h, hk⟩⟩

theorem callbacks_storeChunk (env : RecvEnv) (f : Handle) (payload : Bytes) {name : Bytes}
    (k : RecvMemo) :
    wp (recvStep env) (storeChunk f payload) ⟨.announced name, k⟩ (fun stored v =>
      (stored ≠ payload.length → Lapsed v)
        ∧ (¬ stored ≠ payload.length → v = ⟨.announced name, k⟩)) := by
  unfold storeChunk
  rw [wp_ite]
  refine ⟨fun _ => ?_, fun h => ⟨fun h' => absurd (not_not.mp h).symm h', fun _ => rfl⟩⟩
  apply callbacks_test env (c := .fwrite f payload) id ⟨k, rfl⟩
    (fun stored : Nat => stored ≠ payload.length) (fun _ _ => rfl)
  intro k stored
  simp [receiverExits, RecvMemo.slip, bne, Bool.beq_eq_decide_eq]

theorem callbacks_onData (env : RecvEnv) (u : Download) (d : RecvLocals) (p : Arrival)
    {v : View RecvMemo} (hv : Announced u.file.name v) :
    wp (recvStep env) (onData u d p) v (Rounds u.file.name) := by
  obtain ⟨k, rfl, hk⟩ := hv
  unfold onData
  dsimp only
  simp only [wp_ite]
  refine ⟨fun _ => ?_, fun _ => ⟨fun _ => ?_, fun _ => ?_⟩⟩
  · apply wp_use (callbacks_storeChunk env u.handle p.payload k)
    rintro stored v ⟨hbad, hgood⟩
    rw [wp_ite]
    refine ⟨fun h => callbacks_leave env (callbacks_closeWith env u .io (hbad h)), fun h => ?_⟩
    obtain rfl := hgood h
    rw [wp_ite]
    refine ⟨fun _ => ?_, fun _ => callbacks_afterChunk env u _ true ⟨k, rfl, hk⟩⟩
    apply wp_use (callbacks_sendPacket env _ k)
    rintro st v ⟨hbad, hgood⟩
    rw [wp_ite]
    exact ⟨fun h => callbacks_leave env (callbacks_closeWith env u st (hbad h)),
      fun h => ⟨k, hgood h, hk⟩⟩
  · simp only [wp_bind, wp_ask_blind, recv_blind_announced, Call.Harmless]
    exact fun _ => callbacks_afterChunk env u d false ⟨k, rfl, hk⟩
  · simp only [wp_bind, wp_ask_blind, recv_blind_announced, Call.Harmless]
    exact fun _ _ => callbacks_afterChunk env u d false ⟨k, rfl, hk⟩

theorem callbacks_dataLoop (env : RecvEnv) (u : Download) (resumeOff : Nat)
    {v : View RecvMemo} (hv : Announced u.file.name v) :
    wp (recvStep env) (dataLoop env u resumeOff) v (fun r v =>
      (r = none → Idle v) ∧ (r ≠ none → Returned v)) := by
  have hrounds : ∀ x v, Rounds u.file.name x v →
      afterPass (fun _ => Announced u.file.name) (fun r v =>
        (r = none → Idle v) ∧ (r ≠ none → Returned v)) x v := by
    intro x v hx
    rcases x with d | _ | st
    · exact hx
    · exact ⟨fun _ => hx, fun h => absurd rfl h⟩
    · exact ⟨fun h => (by cases h), fun _ => hx⟩
  apply wp_forever (I := fun _ => Announced u.file.name) hv
  intro d v hv
  apply wp_mono hrounds
  apply wp_use (callbacks_recvData env u hv)
  intro r v hr
  cases r with
  | error st =>
      obtain ⟨hst, hv⟩ := hr
      cases st with
      | none => exact absurd rfl hst
      | some st => exact hv
  | ok p =>
      obtain ⟨hends, hgoes⟩ := hr
      dsimp only
      split
      · -- DATA
        exact callbacks_onData env u d p (hgoes (by simp [*, WaitOp.ends]))
      · -- DONE
        obtain ⟨k, rfl, hk⟩ := hgoes (by simp [*, WaitOp.ends])
        apply wp_use (callbacks_sendPacket env _ k)
        rintro st v ⟨hbad, hgood⟩
        rw [wp_ite]
        refine ⟨fun h => callbacks_leave env (callbacks_closeWith env u st (hbad h)),
          fun h => ?_⟩
        obtain rfl := hgood h
        simp only [wp_bind, wp_ask_blind, recv_blind_announced, Call.Harmless,
          recv_onFileComplete, wp_pure]
        exact fun _ => ⟨k, rfl⟩
      · -- ERROR
        exact callbacks_leave env (callbacks_closeWith env u _
          (hends (by simp [*, WaitOp.ends])))
      · -- CANCEL
        obtain ⟨k, rfl, hk⟩ := hgoes (by simp [*, WaitOp.ends])
        exact callbacks_leave env (callbacks_closeAborted env u k)
      · -- SEND_META
        exact callbacks_leave env (callbacks_closeWith env u _
          (hends (by simp [*, WaitOp.ends])))
      · rename_i hdata hdone herror hcancel hmeta
        exact hgoes (by simpa [WaitOp.ends] using ⟨herror, hmeta⟩)

/-- Between files, or behind a second start. -/
def IdleOrBroken (v : View RecvMemo) : Prop := Idle v ∨ v.phase = .broken

theorem callbacks_receiveFile (env : RecvEnv) (mtu : Nat) (dir : Bytes) (b : RecvBatch)
    (f : RecvFile) {path : Bytes} (hpath : constructTargetPath env dir f.name = some path)
    {v : View RecvMemo} (hv : Idle v) :
    wp (recvStep env) (receiveFile env mtu dir b f) v (fun r v =>
      (r = none → IdleOrBroken v) ∧ (r ≠ none → v.phase.Over)) := by
  -- behind a second start nothing more is claimed
  have hbroken : ∀ (p : Program (Option Status)) (v : View RecvMemo), v.phase = .broken →
      wp (recvStep env) p v (fun r v => (r = none → IdleOrBroken v)
        ∧ (r ≠ none → v.phase.Over)) := by
    intro p v hv
    apply wp_mono _ ((receiverExits env.cfg.retries).wp_broken p hv)
    intro r v hv
    exact ⟨fun _ => Or.inr hv, fun _ => by rw [hv]; trivial⟩
  have hreturned : ∀ v, Returned v → v.phase.Over := by
    rintro v (⟨k, rfl⟩ | ⟨k, rfl⟩) <;> trivial
  unfold receiveFile
  apply wp_use (callbacks_settle env mtu dir f hv hpath)
  intro settled v hv
  rcases settled with st | ⟨resumeOff, skipping⟩
  · exact ⟨fun h => (by cases h), fun _ => hreturned v hv⟩
  rcases hv with hv | hv
  swap
  · exact hbroken _ v hv
  cases skipping with
  | true =>
      -- a skipped file is completed by its DONE
      apply wp_use (callbacks_skipLoop env f.size hv)
      rintro r v ⟨hnone, hsome⟩
      cases r with
      | some st => exact ⟨fun h => (by cases h), fun h => hreturned v (hsome h)⟩
      | none =>
          obtain ⟨k, rfl, hk⟩ := hnone rfl
          simp only [wp_bind, recv_onFileComplete, wp_pure]
          exact ⟨fun _ => Or.inl ⟨k, rfl⟩, fun h => absurd rfl h⟩
  | false =>
      obtain ⟨k, rfl, hk⟩ := hv
      have hopen : ∀ mode, wp (recvStep env) (fopen f.path mode) ⟨.announced f.name, k⟩
          (fun file v => (file.isNone = true → Lapsed v)
            ∧ (¬ file.isNone = true → v = ⟨.announced f.name, k⟩)) := by
        intro mode
        exact callbacks_test env (c := .fopen f.path mode) id ⟨k, rfl⟩
          (fun file : Option Handle => file.isNone = true) (fun _ _ => rfl)
          (fun _ (file : Option Handle) => by cases file <;> rfl)
      apply wp_use (hopen _)
      rintro file v ⟨hnone, hsome⟩
      cases file with
      | none => exact ⟨fun h => (by cases h), fun _ => hreturned v (Or.inr (hnone rfl))⟩
      | some h =>
          obtain rfl := hsome (by simp)
          apply wp_mono _ (callbacks_dataLoop env ⟨f, h, b⟩ resumeOff ⟨k, rfl, hk⟩)
          rintro r v ⟨hidle, hret⟩
          exact ⟨fun h => Or.inl (hidle h), fun h => hreturned v (hret h)⟩

/-! ## §5. The call. -/

/-- The validator is given a path that fits. -/
theorem constructTargetPath_fits (env : RecvEnv) (dir payload : Bytes) :
    ∃ path, constructTargetPath env (dir.take maxPath)
      (incomingFile env (dir.take maxPath) payload).name = some path := by
  have hname := (cleanFilename_clean (serializeMeta (deserializeMeta payload))).length_le
  have hdir : (dir.take maxPath).length ≤ maxPath := List.length_take_le _ _
  have hsize : maxFilename = 127 ∧ maxPath = 127 := by decide
  refine ⟨_, if_pos ?_⟩
  show List.length (ite _ _ _) < _
  split
  · rw [List.length_append, List.length_cons]
    show _ + ((cleanFilename (maxFilename + 1) _).length + 1) < _
    omega
  · show (cleanFilename (maxFilename + 1) _).length < _
    omega

theorem callbacks_awaitMeta (env : RecvEnv) {v : View RecvMemo} (hv : Idle v) :
    wp (recvStep env) (awaitMeta env) v (fun _ v => Idle v) := by
  have hwaits : Only Call.Waits (awaitMeta env) := by
    unfold awaitMeta
    simp only [only_forever, only_ask_bind, only_ite, only_pure, implies_true, true_and]
    intro tries _ _ _ _ _ _ r
    cases r <;> simp
  exact callbacks_waits env hwaits hv

/-- **The monitor accepts every run of `val_receive_files`.** -/
theorem callbacks_valReceiveFiles (env : RecvEnv) (dir : Bytes) {v : View RecvMemo}
    (hv : Idle v) :
    wp (recvStep env) (valReceiveFiles env dir) v (fun _ v => v.phase.Over) := by
  obtain ⟨k, rfl⟩ := hv
  unfold valReceiveFiles
  simp only [wp_bind, wp_ask_blind, recv_blind_idle, Call.Neutral]
  intro hs
  cases hs with
  | error st => trivial
  | ok mtu =>
      dsimp only
      unfold receiveFiles
      simp only [wp_bind, wp_ask_blind, recv_blind_idle, Call.Neutral]
      intro start
      apply wp_forever (I := fun _ => IdleOrBroken) (Or.inl ⟨k, rfl⟩)
      rintro b v (hv | hv)
      swap
      · -- behind a second start the rest of the call is accepted as it is
        apply wp_mono _ ((receiverExits env.cfg.retries).wp_broken _ hv)
        intro x v hv
        cases x with
        | again b => exact Or.inr hv
        | leave st =>
            show v.phase.Over
            rw [hv]
            trivial
      apply wp_use (callbacks_awaitMeta env hv)
      rintro r _ ⟨k, rfl⟩
      cases r with
      | error st => trivial
      | ok p =>
          dsimp only
          split
          · simp only [wp_bind, wp_ask_blind, recv_blind_idle, Call.Neutral, wp_pure,
              afterPass_leave]
            exact fun _ => trivial
          · trivial
          · rw [wp_ite]
            refine ⟨fun _ => trivial, fun _ => ?_⟩
            obtain ⟨path, hpath⟩ := constructTargetPath_fits env dir p.payload
            apply wp_use (callbacks_receiveFile env mtu _ b _ hpath ⟨k, rfl⟩)
            rintro r v ⟨hnone, hsome⟩
            cases r with
            | none => exact hnone rfl
            | some st => exact hsome (Option.some_ne_none st)
          · trivial

/-- **File callbacks**: when a call of `val_send_files` or `val_receive_files`
has returned, each `on_file_start` has been followed, before the next and the
return, by exactly one `on_file_complete` of the same file, if and only if the
run has no slip. -/
theorem callbacks_pairUp (tr : List Event) (st : Status) :
    (∀ (env : SendEnv) (filepaths : List Bytes), Runs (valSendFiles env filepaths) tr (some st) →
        (PairsUp (fileCallbacks tr) ↔ ¬ senderExits.Slips tr))
      ∧ ∀ (env : RecvEnv) (dir : Bytes), Runs (valReceiveFiles env dir) tr (some st) →
        (PairsUp (fileCallbacks tr) ↔ ¬ (receiverExits env.cfg.retries).Slips tr) :=
  ⟨fun env filepaths => senderExits.pairsUp_iff (callbacks_valSendFiles env filepaths),
    fun env dir => (receiverExits env.cfg.retries).pairsUp_iff
      (callbacks_valReceiveFiles env dir ⟨_, rfl⟩)⟩

/-- A file has one byte, and the transport takes no DATA. -/
def refuseData (_ : List Event) : (c : Call) → c.Answer
  | .ftell _ => 1
  | .sendPacket p => if p.type = .data then .io else .ok
  | c => c.calm

/-- An empty file `a` is announced, RESUME_REQ does not follow, and the
receiver cannot open its file. -/
def refuseOpen (tr : List Event) : (c : Call) → c.Answer
  | .recvPacket .opMeta =>
      if tr.length < 6 then
        .ok ⟨.sendMeta, serializeMeta ⟨nulField maxFilename [0x61], nulField maxPath [], 0⟩, 0⟩
      else .error .timeout
  | .fopen _ _ => none
  | c => c.calm

def refusedData : List Event × Option Status :=
  exec refuseData 100 (valSendFiles plainSender [[0x61]]) []

def refusedOpen : List Event × Option Status :=
  exec refuseOpen 100 (valReceiveFiles plainReceiver []) []

theorem refusedData_run : fileCallbacks refusedData.1 = [.start [0x61]]
    ∧ Runs (valSendFiles plainSender [[0x61]]) refusedData.1 (some .io) := by
  have hrun := exec_nil_runs refuseData 100 (valSendFiles plainSender [[0x61]])
  have hst : refusedData.2 = some .io := by decide +kernel
  exact ⟨by decide +kernel, hst ▸ hrun⟩

theorem refusedOpen_run : fileCallbacks refusedOpen.1 = [.start [0x61]]
    ∧ Runs (valReceiveFiles plainReceiver []) refusedOpen.1 (some .io) := by
  have hrun := exec_nil_runs refuseOpen 100 (valReceiveFiles plainReceiver [])
  have hst : refusedOpen.2 = some .io := by decide +kernel
  exact ⟨by decide +kernel, hst ▸ hrun⟩

/-- A start without a completion, on either side. -/
theorem callbacks_unpaired :
    (∃ tr, Runs (valSendFiles plainSender [[0x61]]) tr (some .io)
        ∧ ¬ PairsUp (fileCallbacks tr))
      ∧ ∃ tr, Runs (valReceiveFiles plainReceiver []) tr (some .io)
        ∧ ¬ PairsUp (fileCallbacks tr) := by
  constructor
  · refine ⟨refusedData.1, refusedData_run.2, ?_⟩
    rw [refusedData_run.1]
    exact not_pairsUp_single _
  · refine ⟨refusedOpen.1, refusedOpen_run.2, ?_⟩
    rw [refusedOpen_run.1]
    exact not_pairsUp_single _

/-- The calm batch has no slip, and the receiver that cannot open its file
has one. -/
theorem callbacks_pairUp_runs : ¬ senderExits.Slips calmBatch.1
    ∧ (receiverExits plainReceiver.cfg.retries).Slips refusedOpen.1 := by
  have hbatch : Paired (fileCallbacks calmBatch.1) := by
    have : fileCallbacks calmBatch.1 = [.start [0x61], .complete [0x61] .ok, .start [0x62],
        .complete [0x62] .ok] := by decide +kernel
    rw [this]
    exact .file _ _ (.file _ _ .nil)
  constructor
  · have hst : calmBatch.2 = some .ok := by rfl
    have hrun : Runs (valSendFiles plainSender [[0x61], [0x62]]) calmBatch.1 (some .ok) :=
      hst ▸ exec_nil_runs _ _ _
    exact ((callbacks_pairUp _ _).1 _ _ hrun).mp hbatch.pairsUp
  · by_contra hno
    have hpair := ((callbacks_pairUp _ _).2 _ _ refusedOpen_run.2).mpr hno
    rw [refusedOpen_run.1] at hpair
    exact not_pairsUp_single _ hpair

end ValProtocol.Hooks
