/-
  ValProtocol.Hooks.SenderCallbacks
  ─────────────────────────────────
  The file callbacks of `val_send_files`.

  `send_file_data_adaptive` reports a completion at every exit behind
  `on_file_start` but two: a DATA packet that cannot be read from the file or
  sent, and the DONE of a skipped file that cannot be sent.  These are the
  sender's slips.

    • `senderExits` — the slips,
    • `callbacks_valSendFiles` — the monitor accepts every run, and a call
      returns between files or behind a slip.
-/
import ValProtocol.Hooks.Footprint
import ValProtocol.Hooks.Pairing

namespace ValProtocol.Hooks

open Programs Prog

/-! ## §1. The sender's slips. -/

/-- The memory is whether `on_file_start` was the last call, which is how a
skipped file goes on to its DONE. -/
def senderExits : Exits Bool where
  start := false
  note _ e :=
    match e with
    | ⟨.onFileStart _ _ _ _, _⟩ => true
    | _ => false
  slip fresh announced e :=
    announced &&
      match e with
      | ⟨.fread _ size, chunk⟩ => chunk.length == 0 || decide (size < chunk.length)
      | ⟨.sendPacket p, st⟩ => st != .ok && (p.type == .data || fresh)
      | _ => false

abbrev between : View Bool := ⟨.idle, false⟩

abbrev begun (name : Bytes) : View Bool := ⟨.announced name, true⟩

abbrev sending (name : Bytes) : View Bool := ⟨.announced name, false⟩

abbrev lost : View Bool := ⟨.lapsed, false⟩

/-- A call that may be a slip while a file is sent. -/
abbrev Call.Risks : Call → Prop
  | .fread _ _ | .sendPacket _ => True
  | _ => False

section Calls

variable {name : Bytes}

@[simp] theorem sender_blind_between {c : Call} (hc : ¬ c.Announces) :
    Blind senderExits.step between c := by
  intro r
  cases c
  all_goals first
    | rfl
    | exact absurd trivial hc

@[simp] theorem sender_blind_lost {c : Call} (hc : ¬ c.Announces) :
    Blind senderExits.step lost c := by
  intro r
  cases c
  all_goals first
    | rfl
    | exact absurd trivial hc

@[simp] theorem sender_blind_sending {c : Call} (hc : ¬ c.Announces) (hrisk : ¬ c.Risks) :
    Blind senderExits.step (sending name) c := by
  intro r
  cases c
  all_goals first
    | rfl
    | exact absurd trivial hc
    | exact absurd trivial hrisk

@[simp] theorem sender_onFileStart (path : Bytes) (size off : Nat) (Q : Unit → View Bool → Prop) :
    wp senderExits.step (onFileStart name path size off) between Q ↔ Q () (begun name) :=
  ⟨fun h => h (), fun h _ => h⟩

@[simp] theorem sender_onFileComplete (path : Bytes) (st : Status)
    (Q : Unit → View Bool → Prop) :
    wp senderExits.step (onFileComplete name path st) (sending name) Q ↔ Q () between := by
  unfold Exits.step
  rw [wp_ask_guarded]
  simp only [fileCallback, Phase.bad, Exits.next, Phase.next, senderExits, bne_self_eq_false,
    true_and]
  exact ⟨fun h => h (), fun h _ => h⟩

@[simp] theorem sender_getTicks (Q : UInt32 → View Bool → Prop) :
    wp senderExits.step getTicks (begun name) Q ↔ ∀ now, Q now (sending name) := Iff.rfl

/-- The DONE of a skipped file is a slip when it fails. -/
@[simp] theorem sender_skipped_done (p : Send) (Q : Status → View Bool → Prop) :
    wp senderExits.step (sendPacket p) (begun name) Q ↔
      ∀ st, Q st (if st = .ok then sending name else lost) := by
  unfold Exits.step
  rw [wp_ask_guarded]
  apply forall_congr'
  intro st
  by_cases h : st = .ok
  · simp [fileCallback, Phase.bad, Exits.next, Phase.next, senderExits, h]
  · simp [fileCallback, Phase.bad, Exits.next, Phase.next, senderExits, Phase.isAnnounced, h]

/-- So is DATA. -/
theorem sender_data {p : Send} (hp : p.type = .data) (Q : Status → View Bool → Prop) :
    wp senderExits.step (sendPacket p) (sending name) Q ↔
      ∀ st, Q st (if st = .ok then sending name else lost) := by
  unfold Exits.step
  rw [wp_ask_guarded]
  apply forall_congr'
  intro st
  by_cases h : st = .ok
  · simp [fileCallback, Phase.bad, Exits.next, Phase.next, senderExits, h]
  · simp [fileCallback, Phase.bad, Exits.next, Phase.next, senderExits, Phase.isAnnounced, h, hp]

/-- The other packets are not. -/
theorem sender_blind_other {p : Send} (hp : p.type ≠ .data) :
    Blind senderExits.step (sending name) (.sendPacket p) := by
  intro st
  unfold Exits.step guarded
  simp [fileCallback, Phase.bad, Exits.next, Phase.next, senderExits, hp]

/-- A read is a slip when it returns nothing, or more than was asked for. -/
theorem sender_fread (h : Handle) (size : Nat) (Q : Bytes → View Bool → Prop) :
    wp senderExits.step (fread h size) (sending name) Q ↔ ∀ chunk, Q chunk
      (if chunk.length = 0 ∨ size < chunk.length then lost else sending name) := by
  unfold Exits.step
  rw [wp_ask_guarded]
  apply forall_congr'
  intro chunk
  by_cases hc : chunk.length = 0 ∨ size < chunk.length
  · simp [fileCallback, Phase.bad, Exits.next, Phase.next, senderExits, Phase.isAnnounced, hc,
      -List.length_eq_zero_iff]
  · simp [fileCallback, Phase.bad, Exits.next, Phase.next, senderExits, Phase.isAnnounced, hc,
      -List.length_eq_zero_iff]

end Calls

/-! ## §2. One file. -/

/-- A file is being sent with a result, and lost without. -/
def SendingUnlessLost {α : Type} (name : Bytes) : Except Status α → View Bool → Prop
  | .ok _, v => v = sending name
  | .error _, v => v = lost

theorem callbacks_readFully (name : Bytes) (f : Handle) (toRead : Nat) :
    wp senderExits.step (readFully f toRead) (sending name) (fun got v =>
      (got.length = toRead → v = sending name) ∧ (got.length ≠ toRead → v = lost)) := by
  apply wp_forever (I := fun got v => (got.length ≤ toRead ∧ v = sending name)
    ∨ (toRead < got.length ∧ v = lost)) (Or.inl ⟨Nat.zero_le _, rfl⟩)
  rintro got v (⟨hle, rfl⟩ | ⟨hlt, rfl⟩)
  · simp only [wp_ite, wp_bind, sender_fread, wp_pure, afterPass_leave, afterPass_again]
    refine ⟨fun hlt chunk => ⟨fun hnil => ?_, fun hne => ?_⟩, fun hge => ?_⟩
    · rw [if_pos (Or.inl hnil)]
      exact ⟨fun h => absurd h (by omega), fun _ => rfl⟩
    · by_cases hover : toRead - got.length < chunk.length
      · rw [if_pos (Or.inr hover), List.length_append]
        exact Or.inr ⟨by omega, rfl⟩
      · rw [if_neg (not_or.mpr ⟨hne, hover⟩), List.length_append]
        exact Or.inl ⟨by omega, rfl⟩
    · exact ⟨fun _ => trivial, fun h => absurd h (by omega)⟩
  · rw [if_neg (Nat.lt_asymm hlt)]
    exact ⟨fun h => absurd h (by omega), fun _ => rfl⟩

theorem callbacks_sendDataPacket (u : Upload) (d : SendLocals) (b : Bool)
    (hu : 8 < u.maxPayload) :
    wp senderExits.step (sendDataPacket u d b) (sending u.name) (SendingUnlessLost u.name) := by
  have hseek : wp senderExits.step (seekIf (d.fileCursor ≠ d.nextToSend) u.handle
      (toSigned 64 d.nextToSend)) (sending u.name) (fun _ v => v = sending u.name) := by
    unfold seekIf
    simp [Call.Announces, Call.Risks]
  unfold sendDataPacket
  dsimp only
  simp only [wp_ite, wp_pure]
  refine ⟨fun h => absurd h (by omega), fun _ => ⟨fun _ => rfl, fun _ => ⟨fun h =>
    absurd h.2 (by omega), fun _ => ⟨fun _ => rfl, fun _ => ?_⟩⟩⟩⟩
  apply wp_use hseek
  rintro _ _ rfl
  apply wp_use (callbacks_readFully u.name u.handle _)
  rintro got v ⟨hfull, hshort⟩
  rw [wp_ite]
  refine ⟨fun hne => hshort hne, fun heq => ?_⟩
  obtain rfl := hfull (not_not.mp heq)
  rw [wp_bind, sender_data rfl]
  intro st
  by_cases hst : st = .ok
  · subst hst
    rfl
  · simp [hst, SendingUnlessLost]

/-- Between files, or behind a slip. -/
def Ended (v : View Bool) : Prop := v = between ∨ v = lost

/-- A file is being sent with a result, and the call is over without. -/
def SendingUnlessError {α : Type} (name : Bytes) : Except Status α → View Bool → Prop
  | .ok _, v => v = sending name
  | .error _, v => Ended v

/-- An exit that reports the completion. -/
theorem callbacks_abandon {α : Type} (u : Upload) (st : Status)
    {Q : Except Status α → View Bool → Prop} (hQ : Q (.error st) between) :
    wp senderExits.step (abandon u st) (sending u.name) Q := by
  unfold abandon
  simp [Call.Announces, Call.Risks, hQ]

theorem callbacks_fillWindow (u : Upload) (d : SendLocals) (hu : 8 < u.maxPayload) :
    wp senderExits.step (fillWindow u d) (sending u.name) (SendingUnlessError u.name) := by
  apply wp_forever (I := fun _ v => v = sending u.name) rfl
  rintro d _ rfl
  simp only [wp_bind, wp_ask_blind, sender_blind_sending, Call.Announces, Call.Risks,
    not_false_iff, wp_ite, wp_pure, afterPass_leave]
  refine ⟨fun _ cancelled => ⟨fun _ => ?_, fun _ => ?_⟩, fun _ => rfl⟩
  · exact callbacks_abandon u .aborted (Or.inl rfl)
  · apply wp_mono _ (callbacks_sendDataPacket u d _ hu)
    intro r v hr
    cases r with
    | error st =>
        obtain rfl : v = lost := hr
        simp [Call.Announces, SendingUnlessError, Ended]
    | ok d => exact hr

theorem callbacks_waitForWindowAck (env : SendEnv) (u : Upload) (target : Nat)
    (d : SendLocals) :
    wp senderExits.step (waitForWindowAck env u target d) (sending u.name)
      (fun _ v => v = sending u.name) := by
  have hblind : ∀ c : Call, c.Awaits u.handle → Blind senderExits.step (sending u.name) c := by
    intro c hc
    cases c
    all_goals first
      | exact absurd hc id
      | exact sender_blind_sending id id
  exact wp_only hblind (only_waitForWindowAck env u target d) (fun _ => rfl)

theorem callbacks_sendWindow (env : SendEnv) (u : Upload) (d : SendLocals)
    (hu : 8 < u.maxPayload) :
    wp senderExits.step (sendWindow env u d) (sending u.name) (SendingUnlessError u.name) := by
  apply wp_forever (I := fun _ v => v = sending u.name) rfl
  rintro d _ rfl
  apply wp_use (callbacks_fillWindow u d hu)
  intro r v hr
  cases r with
  | error st => exact hr
  | ok d =>
      obtain rfl : v = sending u.name := hr
      apply wp_use (callbacks_waitForWindowAck env u _ d)
      rintro r _ rfl
      cases r with
      | error st =>
          rw [wp_bind]
          exact callbacks_abandon u st (Or.inl rfl)
      | ok x =>
          obtain ⟨d, restart⟩ := x
          cases restart with
          | true => simp [Call.Announces, Call.Risks]
          | false => rfl

theorem callbacks_checkSendHealth (u : Upload) :
    wp senderExits.step (checkSendHealth u) (sending u.name) (SendingUnlessError u.name) := by
  have hfail : ∀ st : Status, wp senderExits.step (abandon u st : Program (Except Status Unit))
      (sending u.name) (SendingUnlessError u.name) :=
    fun st => callbacks_abandon u st (Or.inl rfl)
  unfold checkSendHealth
  simp [Call.Announces, Call.Risks, hfail, SendingUnlessError]

theorem callbacks_sendLoop (env : SendEnv) (u : Upload) (d : SendLocals)
    (hu : 8 < u.maxPayload) :
    wp senderExits.step (sendLoop env u d) (sending u.name) (SendingUnlessError u.name) := by
  apply wp_forever (I := fun _ v => v = sending u.name) rfl
  rintro d _ rfl
  simp only [wp_bind, wp_ask_blind, sender_blind_sending, Call.Announces, Call.Risks,
    not_false_iff, wp_ite, wp_pure, afterPass_leave]
  refine ⟨fun _ cancelled => ⟨fun _ => ?_, fun _ => ?_⟩, fun _ => rfl⟩
  · exact callbacks_abandon u .aborted (Or.inl rfl)
  · apply wp_mono _ (callbacks_checkSendHealth u)
    intro r v hr
    cases r with
    | error st => exact hr
    | ok x =>
        obtain rfl : v = sending u.name := hr
        apply wp_use (callbacks_sendWindow env u _ hu)
        intro r v hr
        cases r with
        | error st => exact hr
        | ok d => exact hr

/-- Between files with a result, and over without. -/
def BetweenUnlessError {α : Type} : Except Status α → View Bool → Prop
  | .ok _, v => v = between
  | .error _, v => Ended v

theorem callbacks_sendSkipped (name path : Bytes) (size : Nat) :
    wp senderExits.step (sendSkipped name path size) between
      (fun st v => (st = .ok → v = between) ∧ (st ≠ .ok → Ended v)) := by
  unfold sendSkipped
  simp only [wp_bind, sender_onFileStart, sender_skipped_done]
  intro st
  by_cases hst : st = .ok
  · subst hst
    simp [Call.Announces, Call.Risks, Ended]
  · simp [hst, Ended]

theorem callbacks_sendOpened (env : SendEnv) (u : Upload) (mtu win : Nat) (ctx : ProgressCtx)
    (hmtu : minPacketSize ≤ mtu) (hu : 8 < u.maxPayload) :
    wp senderExits.step (sendOpened env u mtu win ctx) between BetweenUnlessError := by
  have hfail : ∀ st : Status, wp senderExits.step
      (abandon u st : Program (Except Status ProgressCtx)) (sending u.name)
      BetweenUnlessError := fun st => callbacks_abandon u st (Or.inl rfl)
  have hemit : wp senderExits.step (emitProgressSender ctx u.name u.resumeOff true)
      (begun u.name) (fun _ v => v = sending u.name) := by
    unfold emitProgressSender
    simp [Call.Announces, Call.Risks]
  unfold sendOpened
  rw [wp_bind, sender_onFileStart]
  apply wp_use hemit
  rintro ctx _ rfl
  simp only [wp_bind, wp_ask_blind, sender_blind_sending, Call.Announces, Call.Risks,
    not_false_iff, wp_ite]
  intro cancelled
  refine ⟨fun _ => hfail .aborted, fun _ => ⟨fun h => ?_, fun _ => ?_⟩⟩
  · -- the handshake leaves no packet size as small as that
    exact absurd (hmtu.trans h) (by decide)
  · apply wp_mono _ (callbacks_sendLoop env u _ hu)
    intro r v hr
    cases r with
    | error st => exact hr
    | ok d =>
        obtain rfl : v = sending u.name := hr
        have hdone : Blind senderExits.step (sending u.name)
            (.sendPacket (sendBare .done u.size)) :=
          sender_blind_other (fun h => by cases h)
        simp [hdone, Call.Announces, Call.Risks, hfail, BetweenUnlessError]

theorem callbacks_sendFileDataAdaptive (env : SendEnv) (mtu : Nat) (ctx : ProgressCtx)
    (filepath : Bytes) (hmtu : minPacketSize ≤ mtu) :
    wp senderExits.step (sendFileDataAdaptive env mtu ctx filepath) between
      BetweenUnlessError := by
  -- neither the stat nor the negotiation announces a file
  have hsize : wp senderExits.step (getFileSizeAndName filepath) between
      (fun _ v => v = between) := by
    refine wp_only ?_ (only_getFileSizeAndName filepath) (fun _ => rfl)
    intro c hc
    apply sender_blind_between
    cases c <;> first | exact id | exact absurd hc id
  have hresume : ∀ size, wp senderExits.step (handleResumeNegotiation env mtu size filepath)
      between (fun _ v => v = between) := by
    intro size
    refine wp_only ?_ (only_handleResumeNegotiation env mtu size filepath) (fun _ => rfl)
    intro c hc
    apply sender_blind_between
    cases c <;> first | exact id | exact absurd hc id
  unfold sendFileDataAdaptive sendMetadata
  simp only [wp_bind, wp_ask_blind, sender_blind_between, Call.Announces, not_false_iff]
  intro current negotiated
  apply wp_mono _ hsize
  rintro r _ rfl
  rcases r with st | ⟨size, name⟩
  · exact Or.inl rfl
  simp only [wp_bind, wp_ask_blind, sender_blind_between, Call.Announces, not_false_iff, wp_ite,
    wp_pure]
  intro st
  refine ⟨fun _ => Or.inl rfl, fun _ => ?_⟩
  apply wp_mono _ (hresume size)
  rintro r _ rfl
  rcases r with st | off
  · exact Or.inl rfl
  dsimp only
  rw [wp_ite]
  refine ⟨fun _ => ?_, fun _ => ?_⟩
  · -- the receiver has the file already: start and completion, no data
    apply wp_use (callbacks_sendSkipped _ _ _)
    rintro st v ⟨hok, hfail⟩
    rw [wp_ite]
    exact ⟨fun h => hfail h, fun h => hok (not_not.mp h)⟩
  · simp only [wp_bind, wp_ask_blind, sender_blind_between, Call.Announces, not_false_iff]
    intro file
    cases file with
    | none => exact Or.inl rfl
    | some f =>
        -- a failed seek closes the file before it is announced
        have hseek : wp senderExits.step (seekIf (off ≠ 0) f (toSigned 64 off)) between
            (fun _ v => v = between) := by
          unfold seekIf
          simp [Call.Announces]
        apply wp_use hseek
        rintro st _ rfl
        rw [wp_ite]
        refine ⟨fun _ => by simp [Call.Announces, BetweenUnlessError, Ended], fun _ => ?_⟩
        apply callbacks_sendOpened env _ mtu _ ctx hmtu
        show 8 < mtu - wireHeaderSize - wireTrailerSize
        have : minPacketSize = 512 ∧ wireHeaderSize = 8 ∧ wireTrailerSize = 4 := by decide
        omega

/-! ## §3. The call. -/

theorem callbacks_sendEach (env : SendEnv) (mtu : Nat) (filepaths : List Bytes)
    (ctx : ProgressCtx) (hmtu : minPacketSize ≤ mtu) :
    wp senderExits.step (sendEach env mtu filepaths ctx) between (fun _ v => Ended v) := by
  induction filepaths generalizing ctx with
  | nil => exact Or.inl rfl
  | cons filepath rest ih =>
      unfold sendEach
      apply wp_use (callbacks_sendFileDataAdaptive env mtu ctx filepath hmtu)
      intro r v hr
      cases r with
      | error st => exact hr
      | ok ctx =>
          obtain rfl : v = between := hr
          exact ih ctx

/-- **The monitor accepts every run of `val_send_files`.** -/
theorem callbacks_valSendFiles (env : SendEnv) (filepaths : List Bytes) :
    wp senderExits.step (valSendFiles env filepaths) between (fun _ v => v.phase.Over) := by
  have hscan : wp senderExits.step (batchTotalBytes filepaths 0) between
      (fun _ v => v = between) := by
    refine wp_only ?_ (only_batchTotalBytes filepaths 0) (fun _ => rfl)
    intro c hc
    apply sender_blind_between
    cases c <;> first | exact id | exact absurd hc id
  unfold valSendFiles
  simp only [wp_bind, wp_ask_blind, sender_blind_between, Call.Announces, not_false_iff, wp_ite]
  refine ⟨fun _ => trivial, fun _ hs => ?_⟩
  cases hs with
  | error st => trivial
  | ok mtu =>
      apply wp_use hscan
      rintro total _ rfl
      simp only [wp_bind, wp_ask_blind, sender_blind_between, Call.Announces, not_false_iff]
      intro start
      apply wp_mono _ (callbacks_sendEach env mtu filepaths _ mtu.2)
      rintro st v (rfl | rfl)
      · simp [Call.Announces, Phase.Over]
      · simp [Call.Announces, Phase.Over]

end ValProtocol.Hooks
