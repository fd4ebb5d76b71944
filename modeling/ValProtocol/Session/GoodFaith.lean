/-
  ValProtocol.Session.GoodFaith
  ─────────────────────────────
  One `val_send_files` call against one `val_receive_files` call over
  reliable channels: when does a side return `VAL_ERR_PROTOCOL` or
  `VAL_ERR_INVALID_ARG`, which accuse the peer or the caller?

    • `SendState.onFrame_fair`, `RecvState.onFrame_behaves` — neither does on
      a frame it can expect in its wait;
    • `good_faith` — the frames of a conforming peer are such frames, as long
      as the metadata wait takes no repeated HELLO or DONE;
    • `late_hello_accused` — the repeated HELLO of a sender that was early
      ends the receiver's call.
-/
import ValProtocol.Session.Capabilities
import ValProtocol.Session.Order

namespace ValProtocol

/-! ## §1. Frames that are read without complaint. -/

/-- `VAL_ERR_PROTOCOL` and `VAL_ERR_INVALID_ARG`. -/
def Status.blames : Status → Bool
  | .protocol | .invalidArg => true
  | _ => false

/-- The content leaves room for header and trailer. -/
def Frame.Fits (f : Frame) (mtu : Nat) : Prop :=
  f.content.length ≤ mtu - wireHeaderSize - wireTrailerSize

/-- DATA that says it carries an offset and is too short for one. -/
def Frame.isStub (f : Frame) : Bool := f.hasOffset && decide (f.content.length < 8)

section Reading

variable {mtu cap : Nat} {f : Frame}

theorem recvFrame_peek (hfits : f.Fits mtu) :
    recvFrame mtu none f
      = .ok ⟨PacketType.ofByte f.type, [], f.content.length, frameOffset f⟩ := by
  simp only [recvFrame, if_neg (Nat.not_lt.mpr hfits)]

theorem recvFrame_reads (hfits : f.Fits mtu) (hwhole : f.isStub = false) :
    ∃ p, recvFrame mtu (some mtu) f = .ok p ∧ p.type = PacketType.ofByte f.type := by
  have hle : f.content.length ≤ mtu := Nat.le_trans hfits (by omega)
  simp only [recvFrame, if_neg (Nat.not_lt.mpr hfits)]
  split
  · rename_i hnone
    cases hnone
  · exact ⟨_, rfl, rfl⟩
  · rename_i cap _ hcap
    cases hcap
    split
    · rename_i hoff
      have hlong : ¬ f.content.length < 8 := by
        intro hshort
        unfold Frame.isStub at hwhole
        rw [hoff, decide_eq_true hshort] at hwhole
        cases hwhole
      rw [if_neg hlong, if_neg (by omega)]
      exact ⟨_, rfl, rfl⟩
    · rw [if_neg (by omega)]
      exact ⟨_, rfl, rfl⟩

theorem recvControl_reads (hfits : f.Fits mtu)
    (hcap : PacketType.ofByte f.type = .data ∨ f.content.length ≤ cap) :
    ∃ p, recvControl mtu cap f = .ok p ∧ p.type = PacketType.ofByte f.type := by
  unfold recvControl
  rw [recvFrame_peek hfits]
  dsimp only
  split
  · rename_i hcopied
    rw [if_pos (hcap.resolve_left hcopied.2)]
    exact ⟨_, rfl, rfl⟩
  · exact ⟨_, rfl, rfl⟩

theorem controlFrame_reads (hfits : f.Fits mtu)
    (hcap : PacketType.ofByte f.type = .data ∨ f.content.length ≤ cap)
    (herr : PacketType.ofByte f.type ≠ .error) (hcancel : PacketType.ofByte f.type ≠ .cancel) :
    ∃ p, controlFrame mtu cap f = .ok p ∧ p.type = PacketType.ofByte f.type := by
  obtain ⟨p, hp, htype⟩ := recvControl_reads hfits hcap
  refine ⟨p, ?_, htype⟩
  unfold controlFrame
  rw [hp]
  dsimp only
  split
  · rename_i ht
    exact absurd (htype.symm.trans ht) hcancel
  · rename_i ht
    exact absurd (htype.symm.trans ht) herr
  · rfl

end Reading

/-! ## §2. The sender. -/

/-- **What a receiver answers**, no validator being installed. -/
inductive RecvEnv.Answer (env : RecvEnv) : Send → Prop where
  | hello (size : Nat) : Answer env (sendHello env.cfg size)
  | resp (mtu : Nat) (existing : Option Bytes) (incoming : Nat) :
      Answer env (sendResumeResp (determineResumeAction env mtu existing incoming).wire)
  | verdict {st : Status} (crc : Nat) (h : st = .ok ∨ st = .skipped ∨ st = .resumeVerify) :
      Answer env (sendVerifyResult st crc)
  | ack {p : Send} (h : p.isAck = true) : Answer env p

/-- No status of the step accuses anybody. -/
def SendState.Fair (s : SendState) (r : List Send × SendState) : Prop :=
  ∀ e ∈ r.2.log, e ∈ s.log ∨ e.2.blames = false

section Answers

variable {env : RecvEnv} {p : Send}

theorem RecvEnv.Answer.named (h : env.Answer p) : p.type.isNamed = true := by
  cases h with
  | hello size => rfl
  | resp mtu existing incoming => rfl
  | verdict crc h => rfl
  | ack h =>
      unfold Send.isAck at h
      split at h
      all_goals first
        | (rename_i ht; rw [ht]; rfl)
        | cases h

/-- Neither ERROR nor CANCEL. -/
theorem RecvEnv.Answer.mild (h : env.Answer p) : p.type ≠ .error ∧ p.type ≠ .cancel := by
  cases h with
  | hello size => exact ⟨nofun, nofun⟩
  | resp mtu existing incoming => exact ⟨nofun, nofun⟩
  | verdict crc h => exact ⟨nofun, nofun⟩
  | ack h =>
      constructor
      all_goals
        intro ht
        simp [Send.isAck, ht] at h

/-- Every answer but HELLO fits the smallest scratch buffer. -/
theorem RecvEnv.Answer.content_le (h : env.Answer p) (hne : p.type ≠ .hello) :
    p.frame.content.length ≤ wireResumeRespSize := by
  have hcut : p.frame.content.length = p.staged.length % 2 ^ 16 := cutContent_length _
  have hmod := Nat.mod_le p.staged.length (2 ^ 16)
  suffices hst : p.staged.length ≤ wireResumeRespSize by omega
  cases h with
  | hello size => exact absurd rfl hne
  | resp mtu existing incoming => exact Nat.le_of_eq (serializeResumeResp_length _)
  | verdict crc h =>
      show (serializeVerifyResponse _ _).length ≤ _
      rw [serializeVerifyResponse_length]
      decide
  | ack h =>
      have := Send.staged_ack_length h
      simp only [wireResumeRespSize]
      omega

end Answers

section DataPhase

variable {io : SendFile} {d : SendData} {st : Status}

/-- With a legal packet size only reading the file can fail. -/
theorem sendDataPacket_io {b : Bool} (hmtu : minPacketSize ≤ io.mtu)
    (h : sendDataPacket io d b = .error st) : st = .io := by
  have hmax : 8 < io.maxPayload := by
    simp only [SendFile.maxPayload, wireHeaderSize, wireTrailerSize]
    simp only [minPacketSize] at hmtu
    omega
  simp only [sendDataPacket] at h
  rw [← SendData.readPos, if_neg (by omega)] at h
  set maxThis := if b then io.maxPayload - 8 else io.maxPayload with hthis
  set n := if io.size - d.nextToSend < maxThis then io.size - d.nextToSend else maxThis
    with hn
  -- a packet is cut to what the frame has room for
  have hle : n + (if b then 8 else 0) ≤ io.mtu - wireHeaderSize - wireTrailerSize := by
    simp only [SendFile.maxPayload] at hthis hmax
    have : n ≤ maxThis := by
      rw [hn]
      split <;> omega
    cases b
    all_goals
      simp only [if_true, Bool.false_eq_true, if_false] at hthis ⊢
      omega
  split at h
  · cases h
  rw [if_neg (by omega)] at h
  split at h
  · cases h
  split at h
  · cases h
    rfl
  rename_i hlen
  rw [ne_eq, not_not] at hlen
  rw [encodeFrame_data (by rw [hlen]; exact hle)] at h
  cases h

/-- A move that returns without an accusation. -/
def Move.Fair : Move → Prop
  | .stop st => st.blames = false
  | _ => True

theorem Move.Fair.run {m : Move} (hm : m.Fair) (hmtu : minPacketSize ≤ io.mtu)
    (h : (m.run io).2 = .fail st) : st.blames = false := by
  rcases Move.run_fail h with rfl | ⟨d, b, hp⟩
  · exact hm
  · rw [sendDataPacket_io hmtu hp]
    rfl

theorem dataLoop_fair (cfg : Config) (io : SendFile) (d : SendData) : (dataLoop cfg io d).Fair := by
  unfold dataLoop
  split <;> trivial

theorem onAckTimeout_fair (cfg : Config) (d : SendData) : (onAckTimeout cfg d).Fair := by
  unfold onAckTimeout
  split
  · rfl
  · trivial

theorem onAckFrame_fair (cfg : Config) {f : Frame} (hfits : f.Fits io.mtu)
    (hcap : f.content.length ≤ 32) (herr : PacketType.ofByte f.type ≠ .error) :
    (onAckFrame cfg io d f).Fair := by
  obtain ⟨p, hp, htype⟩ := recvControl_reads hfits (Or.inr hcap)
  unfold onAckFrame
  rw [hp]
  dsimp only
  split
  · rfl
  · trivial
  · unfold onDataAck
    split
    · trivial
    · dsimp only
      split
      · trivial
      · exact dataLoop_fair _ _ _
  · rename_i ht
    exact absurd (htype.symm.trans ht) herr
  · trivial

end DataPhase

section Sender

variable {env : SendEnv} {s : SendState}

namespace SendState

theorem Fair.keeps {r : List Send × SendState} (h : r.2.log = s.log) : s.Fair r := by
  intro e he
  rw [h] at he
  exact Or.inl he

theorem Fair.ret {sends : List Send} {s₁ : SendState} {st : Status} (hlog : s₁.log = s.log)
    (hst : st.blames = false) : s.Fair (sends, s₁.ret st) := by
  intro e he
  rcases List.mem_append.mp he with he | he
  · rw [hlog] at he
    exact Or.inl he
  · rw [List.mem_singleton.mp he]
    exact Or.inr hst

/-- At the head of the loop over the files. -/
theorem Fair.begin {s₁ : SendState} (hlog : s₁.log = s.log) : s.Fair (s₁.beginFile env) := by
  unfold SendState.beginFile
  split
  · exact .keeps hlog
  · split
    · exact .ret hlog rfl
    · exact .keeps hlog

/-- Behind a round of the data phase. -/
theorem Fair.data {s₁ : SendState} {io : SendFile} {m : Move} (hlog : s₁.log = s.log)
    (hmtu : minPacketSize ≤ io.mtu) (hm : m.Fair) :
    s.Fair (s₁.onDataResult env io (m.run io)) := by
  unfold SendState.onDataResult
  split
  · exact .keeps hlog
  · exact .keeps hlog
  · rename_i st hst
    exact .ret hlog (hm.run hmtu hst)

/-- Behind the negotiation. -/
theorem Fair.outcome {content : Bytes} {o : ResumeOutcome} (hmtu : minPacketSize ≤ s.mtu)
    (ho : ∀ st, o = .fail st → st.blames = false) : s.Fair (s.onOutcome env content o) := by
  cases o with
  | start off =>
      show s.Fair (s.startFile env content off)
      unfold SendState.startFile
      split
      · exact .ret rfl rfl
      · have hlegal : ¬ (s.started content.length off).mtu ≤ wireHeaderSize + wireTrailerSize := by
          show ¬ s.mtu ≤ _
          simp only [minPacketSize] at hmtu
          simp only [wireHeaderSize, wireTrailerSize]
          omega
        dsimp only
        rw [if_neg hlegal]
        exact .data rfl hmtu (dataLoop_fair _ _ _)
  | skip => exact .keeps rfl
  | verify endOff payload => exact .keeps rfl
  | fail st => exact .ret rfl (ho st rfl)

end SendState

/-- The sender understands every RESUME_RESP. -/
theorem onResumeResp_fair {rcv : RecvEnv} (hrcv : rcv.cfg.Accepted) {mtu m : Nat}
    {content : Bytes} {existing : Option Bytes} {incoming : Nat} {st : Status}
    (hcfg : 0 < env.cfg.packetSize)
    (h : onResumeResp env mtu content (determineResumeAction rcv m existing incoming).wire
      = .fail st) : st.blames = false := by
  rcases determineResumeAction_cases rcv m existing incoming with
    hd | hd | ⟨file, crc, -, hpos, -, hlt, -, -, hd⟩
  · rw [hd, onResumeResp_startZero] at h
    cases h
  · rw [hd, onResumeResp_skipFile] at h
    cases h
  · have hwin := verifyLength_lt hrcv file.length
    have hcrc := crc.toNat_lt
    rw [hd] at h
    unfold onResumeResp at h
    rw [ResumeDecision.deserialize_wire (d := ⟨.verifyFirst, file.length, crc.toNat,
      verifyLength rcv.cfg.resume file.length⟩) (show file.length < _ by omega) hcrc
      (show verifyLength rcv.cfg.resume file.length < _ by omega)] at h
    simp only [ResumeAction.ofWire_toWire] at h
    generalize (if file.length > content.length then 0 else file.length) = off at h
    generalize (if verifyLength rcv.cfg.resume file.length > off then off
      else verifyLength rcv.cfg.resume file.length) % 2 ^ 32 = window at h
    split at h
    · cases h
    · split at h
      · rename_i st' hst
        cases h
        rcases crc32Region_error hst with ⟨-, hnone⟩ | rfl
        · omega
        · rfl
      · cases h

/-- **The sender on an answer**; only its handshake meets a HELLO. -/
theorem SendState.onFrame_fair {rcv : RecvEnv} {p : Send} {size : Nat}
    (hcfg : env.cfg.Accepted) (hrcv : rcv.cfg.Accepted) (hans : rcv.Answer p)
    (hmtu : minPacketSize ≤ s.mtu) (hfits : p.frame.Fits s.mtu)
    (hio : ∀ io d, s.pc = .ackWait io d → io.mtu = s.mtu)
    (hmin : minPacketSize ≤ size) (hmax : size ≤ maxPacketSize)
    (hhello : p.type = .hello → p = sendHello rcv.cfg size ∧ ∃ n, s.pc = .helloWait n) :
    s.Fair (s.onFrame env p.frame) := by
  have hstay : s.Fair ([], s) := .keeps rfl
  have htype : PacketType.ofByte p.frame.type = p.type := Send.frame_type hans.named
  by_cases hgreet : p.type = .hello
  · obtain ⟨hp, n, hpc⟩ := hhello hgreet
    rw [hp, SendState.onFrame_hello size hpc hmtu hcfg hrcv hmin hmax]
    exact .begin rfl
  have herr : PacketType.ofByte p.frame.type ≠ .error := by
    rw [htype]
    exact hans.mild.1
  have hcancel : PacketType.ofByte p.frame.type ≠ .cancel := by
    rw [htype]
    exact hans.mild.2
  have hlen := hans.content_le hgreet
  simp only [wireResumeRespSize] at hlen
  -- every control wait reads it
  have hread : ∀ cap, 24 ≤ cap → ∃ q, controlFrame s.mtu cap p.frame = .ok q
      ∧ q.type = p.type := by
    intro cap hcap
    obtain ⟨q, hq, hqt⟩ := controlFrame_reads hfits (Or.inr (Nat.le_trans hlen hcap)) herr hcancel
    exact ⟨q, hq, hqt.trans htype⟩
  unfold SendState.onFrame
  split
  · exact hstay
  · -- the handshake passes over everything else
    have hroom : p.frame.content.length ≤ wireHandshakeSize := Nat.le_trans hlen (by decide)
    obtain ⟨q, hq, hqt⟩ := recvControl_reads hfits (Or.inr hroom)
    rw [htype] at hqt
    unfold SendState.onHelloFrame
    rw [hq]
    dsimp only
    rw [hqt]
    split
    · rename_i ht
      exact absurd ht hans.mild.2
    · rename_i ht
      exact absurd ht hans.mild.1
    · rename_i ht
      exact absurd ht hgreet
    · exact hstay
  · obtain ⟨q, hq, hqt⟩ := hread wireResumeRespSize (by decide)
    rw [hq]
    dsimp only
    split
    · rename_i ht
      rw [hqt] at ht
      -- only a decision of the receiver has this type
      cases hans with
      | hello size => cases ht
      | resp m existing incoming =>
          obtain ⟨-, hpay, hqlen⟩ := (sendResumeResp_raw _).controlFrame hq
          replace hqlen : q.len = (serializeResumeResp _).length := hqlen
          rw [serializeResumeResp_length] at hqlen
          rw [hqlen, if_neg (Nat.lt_irrefl _), hpay]
          refine .outcome hmtu (fun st hst => onResumeResp_fair hrcv ?_ hst)
          have := hcfg.packetSize_min
          simp only [minPacketSize] at this
          omega
      | verdict crc h => cases ht
      | ack h => simp [Send.isAck, ht] at h
    · exact hstay
  · obtain ⟨q, hq, hqt⟩ := hread 32 (by decide)
    rw [hq]
    dsimp only
    split
    · rename_i ht
      rw [hqt] at ht
      cases hans with
      | hello size => cases ht
      | resp m existing incoming => cases ht
      | @verdict st crc h =>
          obtain ⟨-, hpay, hqlen⟩ := (sendVerifyResult_raw st crc).controlFrame hq
          replace hqlen : q.len = (serializeVerifyResponse st crc).length := hqlen
          rw [serializeVerifyResponse_length] at hqlen
          replace hpay : q.payload = serializeVerifyResponse st crc := hpay
          rw [hqlen, if_neg (by decide), hpay, onVerifyResult_verdict _ crc h]
          refine .outcome hmtu ?_
          intro st' hst'
          rcases h with rfl | rfl | rfl <;> cases hst'
      | ack h => simp [Send.isAck, ht] at h
    · exact hstay
  · rename_i io d hpc
    have hiomtu := hio io d hpc
    refine .data rfl (by rw [hiomtu]; exact hmtu) (onAckFrame_fair env.cfg ?_ ?_ herr)
    · rw [hiomtu]
      exact hfits
    · omega
  · obtain ⟨q, hq, hqt⟩ := hread 32 (by decide)
    rw [hq]
    dsimp only
    split
    · exact .begin rfl
    · exact hstay
  · obtain ⟨q, hq, hqt⟩ := hread 32 (by decide)
    rw [hq]
    dsimp only
    split
    · have hret : s.Fair ([], s.ret .ok) := .ret rfl rfl
      exact hret
    · exact hstay

/-- **The sender on a timeout.** -/
theorem SendState.onTimeout_fair (env : SendEnv) {s : SendState}
    (hio : ∀ io d, s.pc = .ackWait io d → minPacketSize ≤ io.mtu) (timer : HelloTimer) :
    s.Fair (s.onTimeout env timer) := by
  unfold SendState.onTimeout
  split
  · exact .keeps rfl
  · split
    · exact .ret rfl rfl
    · split <;> exact .keeps rfl
    · exact .keeps rfl
  · split
    · exact .ret rfl rfl
    · exact .keeps rfl
  · split
    · exact .ret rfl rfl
    · exact .keeps rfl
  · rename_i io d hpc
    exact .data rfl (hio io d hpc) (onAckTimeout_fair env.cfg d)
  · split
    · exact .ret rfl rfl
    · exact .keeps rfl
  · split
    · exact .ret rfl rfl
    · exact .keeps rfl

/-- **The call**, with a batch that is not empty. -/
theorem SendState.call_fair (env : SendEnv) (s : SendState) {batch : List SourceFile}
    (hne : batch ≠ []) : s.Fair (s.call env batch) := by
  unfold SendState.call
  dsimp only
  rw [if_neg hne]
  split
  · exact .begin rfl
  · exact .keeps rfl

end Sender

/-! ## §3. The receiver. -/

/-- **A receiver in good order**: it repeats a decision it has made, its names
and its directory fit the target path, and no call of it has accused
anybody. -/
structure RecvState.Sane (env : RecvEnv) (s : RecvState) : Prop where
  resp_ok : ∀ f n resp off, s.pc = .verifyWait f n resp off →
    ∃ mtu existing incoming, resp = (determineResumeAction env mtu existing incoming).wire
  name_le : ∀ f, s.pc.phase = .file f → f.name.length ≤ maxFilename
  dir_le : s.outputDirectory.length ≤ maxPath
  log_ok : ∀ e ∈ s.log, e.2.blames = false

/-- Where a step of the receiver may end. -/
def RecvState.Behaves (env : RecvEnv) (r : List Send × RecvState) : Prop :=
  r.2.Sane env ∧ ∀ p ∈ r.1, env.Answer p

/-- **A packet the receiver can expect** in its wait. -/
structure RecvState.Expects (peer : SendEnv) (s : RecvState) (p : Send) : Prop where
  named : p.type.isNamed = true
  fits : p.frame.Fits s.mtu
  whole : p.frame.isStub = false
  hello : s.pc.phase = .hello → p = sendHello peer.cfg peer.cfg.packetSize
  header : s.pc.phase = .header →
    (∃ f content, f.readable = some content ∧ p = sendMeta peer.senderPath f) ∨ p.type = .eot
  file : s.pc.phase.InFile → p.type.isFileRequest = true
    ∧ (p.type = .data ∨ p.frame.content.length ≤ wireVerifyReqPayloadSize)

section Receiver

variable {env : RecvEnv} {s : RecvState}

namespace RecvState

theorem Behaves.quiet (h : s.Sane env) : Behaves env ([], s) :=
  ⟨h, fun _ hp => absurd hp List.not_mem_nil⟩

/-- A wait outside the VERIFY wait, in the same file or in none. -/
theorem Sane.goes {s' : RecvState} (h : s.Sane env) (hlog : s'.log = s.log)
    (hdir : s'.outputDirectory = s.outputDirectory)
    (hpc : s'.pc.phase = s.pc.phase ∨ ¬ s'.pc.phase.InFile)
    (hver : ∀ f n resp off, s'.pc ≠ .verifyWait f n resp off) : s'.Sane env where
  resp_ok := fun f n resp off hp => absurd hp (hver f n resp off)
  name_le := by
    intro f hf
    rcases hpc with heq | hout
    · exact h.name_le f (heq ▸ hf)
    · exact absurd ⟨f, hf⟩ hout
  dir_le := by
    rw [hdir]
    exact h.dir_le
  log_ok := by
    rw [hlog]
    exact h.log_ok

/-- A call that returns. -/
theorem Sane.ret {s₁ : RecvState} {st : Status} (h : s.Sane env) (hlog : s₁.log = s.log)
    (hdir : s₁.outputDirectory = s.outputDirectory) (hst : st.blames = false) :
    (s₁.ret st).Sane env where
  resp_ok := nofun
  name_le := nofun
  dir_le := by
    show s₁.outputDirectory.length ≤ _
    rw [hdir]
    exact h.dir_le
  log_ok := by
    intro e he
    rcases List.mem_append.mp he with he | he
    · rw [hlog] at he
      exact h.log_ok e he
    · rw [List.mem_singleton.mp he]
      exact hst

theorem Behaves.stop {st : Status} (h : s.Sane env) (hst : st.blames = false) :
    Behaves env ([], s.ret st) :=
  .quiet (h.ret rfl rfl hst)

/-- The start offset is settled behind an answer. -/
theorem Behaves.settle {q : Send} {f : RecvFile} (h : s.Sane env) (hv : env.validator = none)
    (hphase : s.pc.phase = .file f) (hq : env.Answer q) (off : Nat) (skipping ackSkip : Bool)
    (fs : FsOutcome) :
    Behaves env
      (q :: (s.settle env f off skipping ackSkip fs).1,
        (s.settle env f off skipping ackSkip fs).2) := by
  have hone : ∀ p ∈ [q], env.Answer p := by
    intro p hp
    rw [List.mem_singleton.mp hp]
    exact hq
  have hopen : ∀ b, ((s.started f off).openTarget env f off b fs).Sane env := by
    intro b
    unfold RecvState.openTarget
    split
    · exact h.goes rfl rfl (Or.inl hphase.symm) nofun
    · split
      · exact h.ret rfl rfl rfl
      · exact h.goes rfl rfl (Or.inl hphase.symm) nofun
  have hshort : ¬ ((s.started f off).targetPath env f).length ≥ maxPath * 2 + 8 :=
    Nat.not_le.mpr (RecvState.targetPath_lt h.dir_le (h.name_le f hphase))
  unfold RecvState.settle
  dsimp only
  by_cases hmode : env.cfg.resume.mode = .never
  · simp only [hmode, if_true, RecvState.validate, hshort, if_false, hv, Option.map_none,
      Option.getD_none]
    exact ⟨hopen _, hone⟩
  · rw [if_neg hmode]
    exact ⟨hopen _, hone⟩

theorem Behaves.answerResume {f : RecvFile} (h : s.Sane env) (hv : env.validator = none)
    (hphase : s.pc.phase = .file f) (fs : FsOutcome) :
    Behaves env (s.answerResume env f fs) := by
  have hresp : env.Answer _ := .resp s.mtu (s.files f.path) f.size
  unfold RecvState.answerResume
  dsimp only
  rcases determineResumeAction_cases env s.mtu (s.files f.path) f.size with
    hd | hd | ⟨_, _, _, _, _, _, _, _, hd⟩
  · rw [hd] at hresp ⊢
    exact .settle h hv hphase hresp _ _ _ fs
  · rw [hd] at hresp ⊢
    exact .settle h hv hphase hresp _ _ _ fs
  · rw [hd] at hresp ⊢
    refine ⟨⟨?_, ?_, h.dir_le, h.log_ok⟩, ?_⟩
    · intro f' n resp off hpc
      cases hpc
      exact ⟨s.mtu, s.files f.path, f.size, by rw [hd]⟩
    · intro g hg
      cases hg
      exact h.name_le f hphase
    · intro p hp
      rw [List.mem_singleton.mp hp]
      exact hresp

theorem Behaves.answerVerify {f : RecvFile} (h : s.Sane env) (hv : env.validator = none)
    (hphase : s.pc.phase = .file f) (off : Nat) (payload : Bytes) (fs : FsOutcome) :
    Behaves env (s.answerVerify env f off payload fs) := by
  unfold RecvState.answerVerify
  split
  · refine ⟨h.ret rfl rfl rfl, ?_⟩
    intro p hp
    rw [List.mem_singleton.mp hp]
    exact .verdict 0 (Or.inr (Or.inr rfl))
  · rename_i file hfile
    have hverdict : env.Answer _ := .verdict (verifyVerdict env s.mtu file payload).2
      (verifyVerdict_cases env s.mtu file payload)
    dsimp only
    split
    all_goals exact .settle h hv hphase hverdict _ _ _ fs

/-- Acknowledgements, then a wait. -/
theorem Behaves.acks {sends : List Send} {s' : RecvState} (h : s'.Sane env)
    (hsends : ∀ p ∈ sends, p.isAck = true) : Behaves env (sends, s') :=
  ⟨h, fun p hp => .ack (hsends p hp)⟩

/-- One acknowledgement. -/
theorem isAck_bare {t : PacketType} {off : Nat} (h : (sendBare t off).isAck = true) :
    ∀ p ∈ [sendBare t off], p.isAck = true := by
  intro p hp
  rw [List.mem_singleton.mp hp]
  exact h

/-- A round of the data loop. -/
theorem Behaves.round {f : RecvFile} {d : RecvData} {p : Send} (h : s.Sane env)
    (hpc : s.pc = .dataWait f d) (hread : ∃ q, recvFrame s.mtu (some s.mtu) p.frame = .ok q
      ∧ q.type = p.type) (hreq : p.type.isFileRequest = true) (short : Option Nat) :
    Behaves env (s.onRecvResult env f (onDataFrame env.cfg s.mtu d p.frame short)) := by
  have hphase : s.pc.phase = .file f := by rw [hpc]; rfl
  have hwait : ∀ d', ({ s with pc := .dataWait f d' } : RecvState).Sane env :=
    fun d' => h.goes rfl rfl (Or.inl hphase.symm) (by simp)
  obtain ⟨q, hq, hqt⟩ := hread
  unfold onDataFrame
  dsimp only
  rw [hq]
  dsimp only
  rw [hqt]
  split
  · -- DATA
    obtain ⟨htypes, hfail⟩ := onData_reply { d with tries := env.cfg.retries.dataRetries } q short
    have hacks : ∀ x ∈ (onData { d with tries := env.cfg.retries.dataRetries } q short).1,
        x.isAck = true := by
      intro x hx
      rcases htypes x hx with ht | ht <;> simp [Send.isAck, ht]
    unfold RecvState.onRecvResult
    split
    · exact .acks (hwait _) hacks
    · rename_i d' hd'
      exact absurd hd' (onData_not_complete _ _ _ _)
    · rename_i d' st hd'
      exact .acks (h.ret rfl rfl (by rw [hfail _ _ hd']; rfl)) hacks
  · -- DONE: back to the metadata wait
    have hout : ¬ (RecvPhase.header).InFile := by
      rintro ⟨_, hfile⟩
      cases hfile
    exact .acks (h.goes rfl rfl (Or.inr hout) fun _ _ _ _ h => by cases h) (isAck_bare rfl)
  · rename_i ht
    rw [ht] at hreq
    cases hreq
  · rename_i ht
    rw [ht] at hreq
    cases hreq
  · rename_i ht
    rw [ht] at hreq
    cases hreq
  · exact .quiet (hwait _)

end RecvState

/-- **The receiver on a packet it can expect.** -/
theorem RecvState.onFrame_behaves {peer : SendEnv} {p : Send} (h : s.Sane env)
    (hcfg : env.cfg.Accepted) (hpeer : peer.cfg.Accepted) (hv : env.validator = none)
    (hmtu : minPacketSize ≤ s.mtu) (hexp : s.Expects peer p) (fs : FsOutcome) :
    Behaves env (s.onFrame env p.frame fs) := by
  have htype : PacketType.ofByte p.frame.type = p.type := Send.frame_type hexp.named
  have hpeek := recvFrame_peek hexp.fits
  rw [htype] at hpeek
  -- an expected packet is read without an error, whichever wait reads it
  have hread : ∃ q, recvFrame s.mtu (some s.mtu) p.frame = .ok q ∧ q.type = p.type := by
    obtain ⟨q, hq, hqt⟩ := recvFrame_reads hexp.fits hexp.whole
    exact ⟨q, hq, hqt.trans htype⟩
  cases hpc : s.pc with
  | idle =>
      unfold RecvState.onFrame
      rw [hpc]
      exact .quiet h
  | helloWait =>
      -- only HELLO can be in flight
      have hp := hexp.hello (by rw [hpc]; rfl)
      rw [hp, RecvState.onFrame_hello hpc hmtu hcfg hpeer fs]
      refine ⟨h.goes rfl rfl (Or.inr nofun) nofun, ?_⟩
      intro q hq
      rw [List.mem_singleton.mp hq]
      exact .hello _
  | metaWait tries =>
      -- the next file, or the EOT of the call
      rcases hexp.header (by rw [hpc]; rfl) with ⟨f, content, hfile, hp⟩ | ht
      · rw [hp, RecvState.onFrame_meta hpc hmtu hfile peer.senderPath fs]
        refine .quiet ⟨?_, ?_, h.dir_le, h.log_ok⟩
        · intro g n resp off
          unfold RecvState.acceptMeta
          dsimp only
          split <;> exact nofun
        · intro g hg
          rw [RecvState.acceptMeta_phase] at hg
          cases hg
          exact (cleanFilename_clean _).length_le
      · obtain ⟨q, hq, hqt⟩ := hread
        unfold RecvState.onFrame
        rw [hpc]
        dsimp only
        unfold RecvState.onMetaFrame
        rw [hq]
        dsimp only
        rw [hqt, ht]
        have hret : (s.ret .ok).Sane env := h.ret rfl rfl rfl
        exact .acks ⟨hret.resp_ok, hret.name_le, hret.dir_le, hret.log_ok⟩ (isAck_bare rfl)
  | neverPeek f =>
      have hphase : s.pc.phase = .file f := by rw [hpc]; rfl
      unfold RecvState.onFrame
      rw [hpc]
      dsimp only
      rw [hpeek]
      dsimp only
      split
      · exact .answerResume h hv hphase fs
      · exact .settle h hv hphase (.ack rfl) _ _ _ fs
  | resumeReqWait f tries =>
      have hphase : s.pc.phase = .file f := by rw [hpc]; rfl
      -- DONE has no place before the data
      obtain ⟨hreq, -⟩ := hexp.file ⟨f, hphase⟩
      unfold RecvState.onFrame
      rw [hpc]
      dsimp only
      rw [hpeek]
      dsimp only
      split
      · exact .answerResume h hv hphase fs
      · exact .stop h rfl
      · rename_i ht
        rw [ht] at hreq
        cases hreq
      · exact .quiet h
  | verifyWait f tries resp off =>
      have hphase : s.pc.phase = .file f := by rw [hpc]; rfl
      obtain ⟨hreq, hroom⟩ := hexp.file ⟨f, hphase⟩
      -- a VERIFY request fits the buffer of the wait; RESUME_REQ has nothing to copy
      obtain ⟨q, hq, hqt⟩ := controlFrame_reads hexp.fits (by rw [htype]; exact hroom)
        (by rw [htype]; intro ht; rw [ht] at hreq; cases hreq)
        (by rw [htype]; intro ht; rw [ht] at hreq; cases hreq)
      unfold RecvState.onFrame
      rw [hpc]
      dsimp only
      rw [hq]
      dsimp only
      split
      · refine ⟨h, ?_⟩
        intro x hx
        obtain ⟨m, existing, incoming, rfl⟩ := h.resp_ok f tries resp off hpc
        rw [List.mem_singleton.mp hx]
        exact .resp m existing incoming
      · exact .answerVerify h hv hphase _ _ fs
      · exact .quiet h
  | dataWait f d =>
      obtain ⟨hreq, -⟩ := hexp.file ⟨f, by rw [hpc]; rfl⟩
      unfold RecvState.onFrame
      rw [hpc]
      exact .round h hpc hread hreq fs.short
  | skipWait f tries =>
      have hphase : s.pc.phase = .file f := by rw [hpc]; rfl
      obtain ⟨hreq, -⟩ := hexp.file ⟨f, hphase⟩
      obtain ⟨q, hq, hqt⟩ := hread
      unfold RecvState.onFrame
      rw [hpc]
      dsimp only
      rw [hq]
      dsimp only
      rw [hqt]
      split
      · -- DONE ends the file that was skipped
        exact .acks (h.goes rfl rfl (Or.inr nofun) nofun) (isAck_bare rfl)
      · rename_i ht
        rw [ht] at hreq
        cases hreq
      · exact .stop h rfl
      · exact .quiet (h.goes rfl rfl (Or.inl hphase.symm) nofun)

/-- **The receiver on a timeout.** -/
theorem RecvState.onTimeout_behaves (h : s.Sane env) (hv : env.validator = none)
    (timer : HelloTimer) (fs : FsOutcome) : Behaves env (s.onTimeout env timer fs) := by
  unfold RecvState.onTimeout
  split
  · exact .quiet h
  · split
    · exact .stop h rfl
    · exact .quiet h
  · split
    · exact .stop h rfl
    · exact .quiet (h.goes rfl rfl (Or.inr nofun) nofun)
  · rename_i f hpc
    exact .settle h hv (by rw [hpc]; rfl) (.ack rfl) _ _ _ fs
  · rename_i f tries hpc
    split
    · exact .stop h rfl
    · exact .quiet (h.goes rfl rfl (Or.inl (by rw [hpc]; rfl)) nofun)
  · rename_i f tries resp off hpc
    split
    · exact .stop h rfl
    · refine .quiet ⟨?_, ?_, h.dir_le, h.log_ok⟩
      · intro f' n' resp' off' hp
        cases hp
        exact h.resp_ok _ _ _ _ hpc
      · intro g hg
        exact h.name_le g (by rw [hpc]; exact hg)
  · rename_i f d hpc
    unfold onDataTimeout
    split
    · exact .quiet (h.ret rfl rfl rfl)
    · exact .quiet (h.goes rfl rfl (Or.inl (by rw [hpc]; rfl)) nofun)
  · rename_i f tries hpc
    split
    · exact .stop h rfl
    · exact .quiet (h.goes rfl rfl (Or.inl (by rw [hpc]; rfl)) nofun)

/-- `val_receive_files` is called. -/
theorem RecvState.Sane.call (h : s.Sane env) (dir : Bytes) : (s.call env dir).Sane env := by
  unfold RecvState.call
  dsimp only
  refine ⟨?_, ?_, List.length_take_le _ _, h.log_ok⟩
  all_goals
    dsimp only
    split <;> exact nofun

/-- The receiver has moved on from what this request asks for. -/
def RecvPc.past : RecvPc → PacketType → Bool
  | .metaWait _, .hello | .metaWait _, .resumeReq | .metaWait _, .verify | .metaWait _, .done => true
  | .neverPeek _, .hello | .resumeReqWait _ _, .hello => true
  | .verifyWait _ _ _ _, .hello | .verifyWait _ _ _ _, .resumeReq => true
  | .dataWait _ _, .hello | .dataWait _ _, .resumeReq | .dataWait _ _, .verify => true
  | .skipWait _ _, .hello | .skipWait _ _, .resumeReq | .skipWait _ _, .verify => true
  | _, _ => false

/-- **A late request** is passed over or answered as before. -/
theorem RecvState.onFrame_late {peer : SendEnv} {p : Send} (hexp : s.Expects peer p)
    (hpast : s.pc.past p.type = true) (fs : FsOutcome) :
    (s.onFrame env p.frame fs).2.log = s.log
    ∧ (s.onFrame env p.frame fs).2.pc.phase = s.pc.phase
    ∧ ((s.onFrame env p.frame fs).1 = []
      ∨ ∃ f n resp off, s.pc = .verifyWait f n resp off
        ∧ (s.onFrame env p.frame fs).1 = [sendResumeResp resp]) := by
  have htype : PacketType.ofByte p.frame.type = p.type := Send.frame_type hexp.named
  obtain ⟨q, hq, hqt⟩ := recvFrame_reads hexp.fits hexp.whole
  rw [htype] at hqt
  cases hpc : s.pc with
  | idle | helloWait =>
      rw [hpc] at hpast
      cases hpast
  | metaWait tries =>
      exfalso
      rw [hpc] at hpast
      rcases hexp.header (by rw [hpc]; rfl) with ⟨f, content, -, hp⟩ | ht
      · rw [hp] at hpast
        cases hpast
      · rw [ht] at hpast
        cases hpast
  | neverPeek f | resumeReqWait f tries =>
      exfalso
      obtain ⟨hreq, -⟩ := hexp.file ⟨f, by rw [hpc]; rfl⟩
      rw [hpc] at hpast
      revert hreq hpast
      cases p.type <;> simp [RecvPc.past, PacketType.isFileRequest]
  | verifyWait f tries resp off =>
      obtain ⟨hreq, hroom⟩ := hexp.file ⟨f, by rw [hpc]; rfl⟩
      have ht : p.type = .resumeReq := by
        rw [hpc] at hpast
        revert hreq hpast
        cases p.type <;> simp [RecvPc.past, PacketType.isFileRequest]
      obtain ⟨q, hq, hqt⟩ := controlFrame_reads hexp.fits (by rw [htype]; exact hroom)
        (by rw [htype, ht]; decide) (by rw [htype, ht]; decide)
      -- RESUME_REQ again: the answer was lost or is late
      have heq : s.onFrame env p.frame fs = ([sendResumeResp resp], s) := by
        unfold RecvState.onFrame
        rw [hpc]
        dsimp only
        rw [hq]
        dsimp only
        rw [hqt, htype, ht]
        rfl
      rw [heq]
      exact ⟨rfl, by rw [hpc], Or.inr ⟨f, tries, resp, off, rfl, rfl⟩⟩
  | dataWait f d =>
      obtain ⟨hreq, -⟩ := hexp.file ⟨f, by rw [hpc]; rfl⟩
      have ht : p.type = .resumeReq ∨ p.type = .verify := by
        rw [hpc] at hpast
        revert hreq hpast
        cases p.type <;> simp [RecvPc.past, PacketType.isFileRequest]
      have heq : s.onFrame env p.frame fs = ([],
          { s with pc := .dataWait f { d with tries := env.cfg.retries.dataRetries } }) := by
        unfold RecvState.onFrame
        rw [hpc]
        dsimp only
        unfold onDataFrame
        dsimp only
        rw [hq]
        dsimp only
        rw [hqt]
        rcases ht with ht | ht
        all_goals
          rw [ht]
          rfl
      rw [heq]
      exact ⟨rfl, rfl, Or.inl rfl⟩
  | skipWait f tries =>
      obtain ⟨hreq, -⟩ := hexp.file ⟨f, by rw [hpc]; rfl⟩
      have ht : p.type = .resumeReq ∨ p.type = .verify := by
        rw [hpc] at hpast
        revert hreq hpast
        cases p.type <;> simp [RecvPc.past, PacketType.isFileRequest]
      have heq : s.onFrame env p.frame fs = ([],
          { s with pc := .skipWait f env.cfg.retries.ackRetries }) := by
        unfold RecvState.onFrame
        rw [hpc]
        dsimp only
        rw [hq]
        dsimp only
        rw [hqt]
        rcases ht with ht | ht
        all_goals rw [ht]
      rw [heq]
      exact ⟨rfl, rfl, Or.inl rfl⟩

end Receiver

/-! ## §4. Both sides. -/

/-- The metadata wait takes no repeated HELLO or DONE, and no frame is DATA
that has lost its offset (its 16-bit length has wrapped). -/
def Undisturbed (s : SessionSys) : SessionLabel → Prop
  | .rcvRecv _ => ∀ it ∈ s.toRcv.head?, it.send.frame.isStub = false
      ∧ (s.rcv.pc.phase = .header → it.send.type ≠ .hello ∧ it.send.type ≠ .done)
  | _ => True

instance (s : SessionSys) (l : SessionLabel) : Decidable (Undisturbed s l) :=
  match l with
  | .rcvRecv _ => inferInstanceAs (Decidable (∀ it ∈ s.toRcv.head?, it.send.frame.isStub = false
      ∧ (s.rcv.pc.phase = .header → it.send.type ≠ .hello ∧ it.send.type ≠ .done)))
  | .sndCall | .rcvCall | .sndRecv | .sndTimeout _ | .rcvTimeout _ _ | .loseToRcv _
  | .loseToSnd _ => inferInstanceAs (Decidable True)

/-- **Good faith**: no call has accused anybody, and what is in flight gives
no reason to. -/
structure GoodFaith (c : SessionParams) (s : SessionSys) : Prop where
  snd_ok : ∀ e ∈ s.snd.log, e.2.blames = false
  rcv_ok : s.rcv.Sane c.rcv
  brief : ∀ it ∈ s.toRcv, it.send.type.isFileRequest = true → it.send.type = .data
    ∨ it.send.payload.length ≤ wireVerifyReqPayloadSize
  answers : ∀ it ∈ s.toSnd, c.rcv.Answer it.send
  hello_first : ∀ it ∈ s.toSnd, it.send.type = .hello → it.turn = 0

/-- HELLO is answered in the handshake only. -/
theorem RecvStep.hello_phase {env : RecvEnv} {s : RecvState} {last : Option Frame}
    {r : List Send × RecvState} (h : RecvStep env s last r) :
    ∀ p ∈ r.1, p.type = .hello → s.pc.phase = .hello := by
  have hreply : ∀ {sends : List Send}, (∀ p ∈ sends, p.type.isReply = true) →
      ∀ p ∈ sends, p.type = .hello → s.pc.phase = .hello := by
    intro sends hsends p hp ht
    have := hsends p hp
    rw [ht] at this
    cases this
  have hnil : ∀ p ∈ ([] : List Send), p.type = .hello → s.pc.phase = .hello :=
    fun _ hp => absurd hp List.not_mem_nil
  cases h with
  | waits hphase same => exact hnil
  | within hphase hphase' same sends_ok => exact hreply sends_ok
  | stopped same hst => exact hnil
  | failed hphase same hst sends_ok => exact hreply sends_ok
  | greeted hphase hlast htype hphase' turn_eq completed_eq log_eq done_eq mtu_min hp =>
      exact fun _ _ _ => hphase
  | opened hphase hlast hrecv htype hlen => exact hnil
  | filed hphase hlast htype same =>
      intro p hp ht
      rw [List.mem_singleton.mp hp] at ht
      cases ht
  | finished hphase hlast htype =>
      intro p hp ht
      rw [List.mem_singleton.mp hp] at ht
      cases ht

section Session

variable {c : SessionParams} {sc : List Exchange} {s : SessionSys}

/-- A step of the sender. -/
theorem GoodFaith.sent (h : GoodFaith c s) {r : List Send × SendState} {up : List Item}
    {calls : List (List SourceFile)} (hup : ∀ it ∈ up, it ∈ s.toSnd) (hfair : s.snd.Fair r)
    (hbrief : ∀ p ∈ r.1, p.type.isFileRequest = true → p.type = .data
      ∨ p.payload.length ≤ wireVerifyReqPayloadSize) :
    GoodFaith c ({ s with toSnd := up, sndCalls := calls }.sent r) where
  snd_ok := by
    intro e he
    rcases hfair e he with he | hst
    · exact h.snd_ok e he
    · exact hst
  rcv_ok := h.rcv_ok
  brief := by
    intro it hit
    rcases List.mem_append.mp hit with hit | hit
    · exact h.brief it hit
    · exact hbrief _ (mem_stamped hit).1
  answers := fun it hit => h.answers it (hup it hit)
  hello_first := fun it hit => h.hello_first it (hup it hit)

/-- A step of the receiver. -/
theorem GoodFaith.answered (h : GoodFaith c s) {r : List Send × RecvState} {down : List Item}
    (hdown : ∀ it ∈ down, it ∈ s.toRcv) (hr : RecvState.Behaves c.rcv r)
    (hhello : ∀ p ∈ r.1, p.type = .hello → s.rcv.turn = 0) :
    GoodFaith c ({ s with toRcv := down }.answered r) where
  snd_ok := h.snd_ok
  rcv_ok := hr.1
  brief := fun it hit => h.brief it (hdown it hit)
  answers := by
    intro it hit
    rcases List.mem_append.mp hit with hit | hit
    · exact h.answers it hit
    · exact hr.2 _ (mem_stamped hit).1
  hello_first := by
    intro it hit ht
    rcases List.mem_append.mp hit with hit | hit
    · exact h.hello_first it hit ht
    · obtain ⟨hmem, hturn, -⟩ := mem_stamped hit
      rw [hturn]
      exact hhello _ hmem ht

/-- The requests of a step are short: DONE, RESUME_REQ and EOT are bare, and a
VERIFY carries the request its wait keeps. -/
theorem SendState.Ordered.brief {env : SendEnv} {s : SendState} {fr : Option Frame} {cap mtu : Nat}
    {r : List Send × SendState} (hord : s.Ordered r) (hneg : NegSend env s fr r)
    (hcap : r.2.Capable env cap mtu) :
    ∀ p ∈ r.1, p.type.isFileRequest = true → p.type = .data
      ∨ p.payload.length ≤ wireVerifyReqPayloadSize := by
  intro p hp hreq
  have hbare := hord.bare p hp
  cases ht : p.type with
  | resumeReq =>
      rw [hbare (Or.inl ht)]
      exact Or.inr (Nat.zero_le _)
  | done =>
      rw [hbare (Or.inr (Or.inl ht))]
      exact Or.inr (Nat.zero_le _)
  | verify =>
      obtain ⟨content, n, endOff, payload, hpc, hsend⟩ := hneg.verify_sent p hp ht
      right
      rw [hsend]
      exact Nat.le_of_eq (hcap.verify_ok content n endOff payload hpc)
  | data => exact Or.inl rfl
  | hello | sendMeta | resumeResp | dataAck | error | eot | eotAck | doneAck | dataNak | cancel
  | unknown b =>
      rw [ht] at hreq
      cases hreq

/-- **What the receiver takes next is what it can expect.** -/
theorem GoodFaith.expects (h : GoodFaith c s) (hsync : Sync c sc s) (hone : OneCall s)
    (hord : Orderly s) (hcap : Capable c s) (hsc : sc[0]? = some .hello) {fs : FsOutcome}
    (hund : Undisturbed s (.rcvRecv fs)) {it : Item} {rest : List Item}
    (hchan : s.toRcv = it :: rest) (hbusy : s.rcv.pc ≠ .idle) :
    s.rcv.Expects c.snd it.send := by
  have hmem : it ∈ s.toRcv := by
    rw [hchan]
    exact List.mem_cons_self ..
  have hmeas := hcap.toRcv_ok it hmem
  have hat := hsync.rcv_at (hsync.rcv_busy hbusy)
  obtain ⟨hwhole, hfresh⟩ := hund it (by rw [hchan]; rfl)
  refine ⟨hmeas.named, ?_, hwhole, ?_, ?_, ?_⟩
  · have h1 := hmeas.content_le
    have h2 := hcap.rcv_mtu
    show it.send.frame.content.length ≤ _
    omega
  · intro hphase
    have hzero := hat.fresh_ok (hat.hello_ok hphase)
    exact hmeas.hello_eq ((hsync.early hsc hzero).2.1 it hmem).2
  · intro hphase
    obtain ⟨hnh, hnd⟩ := hfresh hphase
    rcases hord.header hsync hone hphase hchan with hmeta | heot | hhello | hdone
    · exact Or.inl hmeta
    · exact Or.inr heot
    · exact absurd hhello hnh
    · exact absurd hdone hnd
  · rintro ⟨f, hphase⟩
    -- everything in flight is of the receiver's own file
    obtain ⟨-, hall⟩ := hsync.turns.inside_turn ⟨f, hphase⟩
    have hturn : it.turn = s.rcv.turn := hall it hmem
    obtain ⟨src, hsrc, -⟩ := hat.file_ok f hphase
    obtain ⟨e, he, hreq⟩ := hsync.req_fits it hmem
    rw [hturn, hsrc] at he
    cases he
    have hfile : it.send.type.isFileRequest = true := by
      rcases hreq with hreq | ⟨g, content, -, -, hsend⟩
      · revert hreq
        cases it.send.type <;> first | (intro hreq; cases hreq; done) | exact fun _ => rfl
      · have hopens : itemView.opens it := by
          show it.send.type = .sendMeta
          rw [hsend]
          rfl
        exact absurd ⟨f, hphase⟩ (hsync.turns.down_opens it hmem hopens).2
    refine ⟨hfile, ?_⟩
    rcases h.brief it hmem hfile with hdata | hshort
    · exact Or.inl hdata
    · by_cases hdata : it.send.type = .data
      · exact Or.inl hdata
      · right
        have hcut : it.send.frame.content.length = it.send.staged.length % 2 ^ 16 :=
          cutContent_length _
        have hmod := Nat.mod_le it.send.staged.length (2 ^ 16)
        have hst : it.send.staged = it.send.payload := by
          unfold Send.staged stageContent
          revert hfile hdata
          cases it.send.type <;> simp [PacketType.isFileRequest]
        rw [hst] at hcut hmod
        omega

/-- **One step** keeps good faith. -/
theorem goodFaith_step {s' : SessionSys} {l : SessionLabel} (hs : c.snd.cfg.Accepted)
    (hr : c.rcv.cfg.Accepted) (hv : c.rcv.validator = none) (h : GoodFaith c s)
    (hsync : Sync c sc s) (hone : OneCall s) (hst : Stamped s) (hord : Orderly s)
    (hcap : Capable c s) (hsc : sc[0]? = some .hello) (hbatch : ∀ batch ∈ s.sndCalls, batch ≠ [])
    (hl : l.isLoss = false) (hund : Undisturbed s l) (hstep : s.step c l = some s') :
    GoodFaith c s' := by
  have hcap' := capable_step hs hr hcap hstep
  have hmin := SessionParams.mtu_min hs hr
  have hmax := c.mtu_max hs
  have hsmtu := hcap.snd_mtu
  have hrmtu := hcap.rcv_mtu
  cases SessionSys.step_inv hstep with
  | @sndCall batch rest hcalls hidle =>
      have hnew := hst.snd_new hidle (hone.snd_next (by rw [hcalls]; exact nofun))
      obtain ⟨-, -, -, hhello⟩ := SendState.call_fresh c.snd hidle hnew batch
      have hne : batch ≠ [] := hbatch batch (by rw [hcalls]; exact List.mem_cons_self ..)
      refine @GoodFaith.sent c s h _ s.toSnd rest (fun _ hit => hit)
        (SendState.call_fair c.snd s.snd hne) ?_
      intro p hp hreq
      rw [hhello p hp] at hreq
      cases hreq
  | rcvCall hcalls hidle =>
      exact ⟨h.snd_ok, h.rcv_ok.call _, h.brief, h.answers, h.hello_first⟩
  | @sndRecv it rest hchan hbusy =>
      have hmem : it ∈ s.toSnd := by
        rw [hchan]
        exact List.mem_cons_self ..
      have hmeas := hcap.toSnd_ok it hmem
      refine h.sent (fun x hx => by rw [hchan]; exact List.mem_cons_of_mem _ hx) ?_
        ((SendState.onFrame_ordered c.snd s.snd it.send.frame).brief
          (SendState.onFrame_neg c.snd s.snd it.send.frame) hcap'.snd_ok)
      have hfits : it.send.frame.Fits s.snd.mtu := by
        have := hmeas.content_le
        show it.send.frame.content.length ≤ _
        omega
      have hat := hsync.snd_at (hsync.snd_busy hbusy)
      refine SendState.onFrame_fair hs hr (h.answers it hmem) (Nat.le_trans hmin hsmtu) hfits ?_
        hmin hmax ?_
      · intro io d hpc
        have hdone := hcap.snd_ok.done (k := .file) (by rw [hpc]; rfl) nofun
        rw [(hcap.snd_ok.window_ok io d hpc).1, hcap.snd_ok.mtu_eq hdone]
      · -- HELLO belongs to exchange 0, and so does the sender
        intro htype
        refine ⟨hmeas.hello_eq htype, ?_⟩
        have hzero : s.snd.turn = 0 := by
          have hup : it.turn = s.snd.turn := hsync.turns.up_turn it hmem
          rw [← hup]
          exact h.hello_first it hmem htype
        have hex : ∀ k, s.snd.pc.exchange = some k → k = .hello := by
          intro k hk
          obtain ⟨e, he, hkind, -⟩ := hat.current hk
          rw [hzero, hsc] at he
          cases he
          exact hkind.symm
        cases hpc : s.snd.pc with
        | helloWait n => exact ⟨n, rfl⟩
        | idle => exact absurd hpc hbusy
        | resumeWait _ _ | verifyWait _ _ _ _ | ackWait _ _ | doneWait _ _ _ | eotWait _ =>
            rw [hpc] at hex
            cases hex _ rfl
  | @sndTimeout timer hbusy =>
      refine @GoodFaith.sent c s h _ s.toSnd s.sndCalls (fun _ hit => hit) ?_
        ((SendState.onTimeout_ordered c.snd s.snd timer).brief
          (SendState.onTimeout_neg c.snd s.snd timer) hcap'.snd_ok)
      apply SendState.onTimeout_fair
      intro io d hpc
      rw [(hcap.snd_ok.window_ok io d hpc).1]
      exact hmin
  | @rcvRecv it rest fs hchan hbusy =>
      have hexp := h.expects hsync hone hord hcap hsc hund hchan hbusy
      refine h.answered (fun x hx => by rw [hchan]; exact List.mem_cons_of_mem _ hx)
        (RecvState.onFrame_behaves h.rcv_ok hr hs hv (Nat.le_trans hmin hrmtu) hexp fs) ?_
      intro p hp ht
      have hat := hsync.rcv_at (hsync.rcv_busy hbusy)
      have hphase := (RecvState.onFrame_step c.rcv s.rcv it.send.frame fs).hello_phase p hp ht
      exact hat.fresh_ok (hat.hello_ok hphase)
  | @rcvTimeout timer fs hbusy =>
      refine @GoodFaith.answered c s h _ s.toRcv (fun _ hit => hit)
        (RecvState.onTimeout_behaves h.rcv_ok hv timer fs) ?_
      intro p hp ht
      have hat := hsync.rcv_at (hsync.rcv_busy hbusy)
      have hphase := (RecvState.onTimeout_step c.rcv s.rcv timer fs).hello_phase p hp ht
      exact hat.fresh_ok (hat.hello_ok hphase)
  | lose hl' hrcv hsnd =>
      rw [hl] at hl'
      cases hl'

end Session

/-! ## §5. Conforming peers. -/

/-- The parts of the invariant together. -/
structure Conforming (c : SessionParams) (batch : List SourceFile) (s : SessionSys) : Prop where
  sync : Sync c (script [batch]) s
  oneCall : OneCall s
  stamped : Stamped s
  orderly : Orderly s
  capable : Capable c s
  faith : GoodFaith c s
  batches_eq : s.sndBatches = [batch]

theorem conforming_init (c : SessionParams) (hmtu : minPacketSize ≤ c.rcv.cfg.packetSize)
    (files : Bytes → Option Bytes) (batch : List SourceFile) (dir : Bytes) :
    Conforming c batch (SessionSys.init c files [batch] [dir]) where
  sync := (single_init hmtu files batch dir).1
  oneCall := (single_init hmtu files batch dir).2.1
  stamped := (single_init hmtu files batch dir).2.2
  orderly := orderly_init c files [batch] [dir]
  capable := capable_init c files [batch] [dir]
  faith := ⟨fun _ he => absurd he List.not_mem_nil,
    ⟨nofun, nofun, Nat.zero_le _, fun _ he => absurd he List.not_mem_nil⟩,
    fun _ hit => absurd hit List.not_mem_nil, fun _ hit => absurd hit List.not_mem_nil,
    fun _ hit => absurd hit List.not_mem_nil⟩
  batches_eq := rfl

/-- **Step lemma.** -/
theorem conforming_step {c : SessionParams} {batch : List SourceFile} {s s' : SessionSys}
    {l : SessionLabel} (hs : c.snd.cfg.Accepted) (hr : c.rcv.cfg.Accepted)
    (hv : c.rcv.validator = none) (hne : batch ≠ []) (h : Conforming c batch s)
    (hl : l.isLoss = false) (hund : Undisturbed s l) (hstep : s.step c l = some s') :
    Conforming c batch s' where
  sync := (single_step h.sync h.oneCall h.stamped hstep).1
  oneCall := (single_step h.sync h.oneCall h.stamped hstep).2.1
  stamped := (single_step h.sync h.oneCall h.stamped hstep).2.2
  orderly := orderly_step h.orderly h.sync h.oneCall h.stamped rfl hl hstep
  capable := capable_step hs hr h.capable hstep
  faith := by
    refine goodFaith_step hs hr hv h.faith h.sync h.oneCall h.stamped h.orderly h.capable rfl ?_
      hl hund hstep
    intro b hb
    have hmem : b ∈ s.sndBatches :=
      List.mem_append_right _ (List.mem_append_right _ hb)
    rw [h.batches_eq, List.mem_singleton] at hmem
    rw [hmem]
    exact hne
  batches_eq := by
    rw [(calls_step hstep).batches_eq]
    exact h.batches_eq

/-- **Conforming peers accuse each other of nothing.**  In every run of one
`val_send_files` call (with a batch that is not empty) against one
`val_receive_files` call over channels that delay but lose nothing, whose
steps are all undisturbed: neither call returns `VAL_ERR_PROTOCOL` or
`VAL_ERR_INVALID_ARG`; and a request the receiver has moved on from is passed
over or answered as before. -/
theorem good_faith {c : SessionParams} (hs : c.snd.cfg.Accepted) (hr : c.rcv.cfg.Accepted)
    (hv : c.rcv.validator = none) {files : Bytes → Option Bytes} {batch : List SourceFile}
    (hne : batch ≠ []) {dir : Bytes} {s : SessionSys}
    (h : Lts.Reach (SessionSys.step c) (fun s l => l.isLoss = false ∧ Undisturbed s l)
      (SessionSys.init c files [batch] [dir]) s) :
    (∀ e ∈ s.snd.log, e.2.blames = false)
    ∧ (∀ e ∈ s.rcv.log, e.2.blames = false)
    ∧ ∀ it rest fs s', s.toRcv = it :: rest → s.rcv.pc.past it.send.type = true →
        Undisturbed s (.rcvRecv fs) → s.step c (.rcvRecv fs) = some s' →
        s'.rcv.log = s.rcv.log ∧ s'.rcv.pc.phase = s.rcv.pc.phase
        ∧ (s'.toSnd = s.toSnd
          ∨ ∃ f n resp off, s.rcv.pc = .verifyWait f n resp off
            ∧ s'.toSnd = s.toSnd ++ [⟨sendResumeResp resp, s.rcv.turn, s.rcv.handling⟩]) := by
  have hinv : Conforming c batch s :=
    h.invariant (conforming_init c hr.packetSize_min files batch dir)
      (fun _ _ _ hI hadm hstep => conforming_step hs hr hv hne hI hadm.1 hadm.2 hstep)
  refine ⟨hinv.faith.snd_ok, hinv.faith.rcv_ok.log_ok, ?_⟩
  intro it rest fs s' hchan hpast hund hstep
  cases SessionSys.step_inv hstep with
  | @rcvRecv it' rest' _ hchan' hbusy =>
      rw [hchan] at hchan'
      cases hchan'
      -- what arrives is something that the receiver can expect where it stands
      have hexp := hinv.faith.expects hinv.sync hinv.oneCall hinv.orderly hinv.capable rfl hund
        hchan hbusy
      obtain ⟨hlog, hphase, hsends⟩ := @RecvState.onFrame_late c.rcv _ _ _ hexp hpast fs
      refine ⟨hlog, hphase, ?_⟩
      show s.toSnd ++ List.map _ _ = s.toSnd ∨ _
      rcases hsends with hnil | ⟨f, n, resp, off, hpc, hone⟩
      · left
        rw [hnil]
        exact List.append_nil _
      · refine Or.inr ⟨f, n, resp, off, hpc, ?_⟩
        show s.toSnd ++ List.map _ _ = _
        rw [hone]
        rfl
  | lose hl hrcv hsnd => cases hl

/-- RESUME_REQ is repeated before its answer arrives, and the copy reaches the
receiver in its data loop. -/
def repeatedRun : List SessionLabel :=
  [.sndCall, .rcvCall, .rcvRecv .good, .sndRecv, .sndTimeout .resend, .rcvRecv .good,
    .rcvRecv .good, .sndRecv, .rcvRecv .good, .rcvRecv .good, .sndRecv, .rcvRecv .good, .sndRecv,
    .rcvRecv .good, .rcvRecv .good, .sndRecv, .rcvRecv .good, .sndRecv, .rcvRecv .good, .sndRecv,
    .rcvRecv .good, .sndRecv]

theorem good_faith_repeated :
    ∃ s : SessionSys, s.snd.log.map Prod.snd = [.ok] ∧ s.rcv.log.map Prod.snd = [.ok]
      ∧ (∀ e ∈ s.snd.log, e.2.blames = false) ∧ ∀ e ∈ s.rcv.log, e.2.blames = false := by
  obtain ⟨s, hreach, hview⟩ := Lts.Reach.exists_of_foldlM (SessionSys.step smallPair)
    (fun s l => decide (l.isLoss = false ∧ Undisturbed s l))
    (SessionSys.init smallPair (fun _ => none) [smallBatch] [[]])
    (fun s => (s.snd.log.map Prod.snd, s.rcv.log.map Prod.snd)) repeatedRun
    (show _ = some ([.ok], [.ok]) by decide +kernel)
  have hgood := good_faith quickDegrade_accepted quickDegrade_accepted rfl (by decide)
    (hreach.mono (fun _ _ hadm => of_decide_eq_true hadm))
  exact ⟨s, congrArg Prod.fst hview, congrArg Prod.snd hview, hgood.1, hgood.2.1⟩

/-- **A repeated HELLO accuses the sender.**  The receiver starts late, when
two HELLOs are on their way: it answers the first, and its metadata wait takes
the second. -/
theorem late_hello_accused :
    smallPair.snd.cfg.Accepted ∧ smallPair.rcv.cfg.Accepted ∧ smallPair.rcv.validator = none
    ∧ ∃ s : SessionSys, Lts.Reach (SessionSys.step smallPair) (fun _ l => l.isLoss = false)
        (SessionSys.init smallPair (fun _ => none) [smallBatch] [[]]) s
      ∧ s.rcv.log = [([], .protocol)] := by
  refine ⟨quickDegrade_accepted, quickDegrade_accepted, rfl, ?_⟩
  obtain ⟨s, hreach, hview⟩ := Lts.Reach.exists_of_foldlM (SessionSys.step smallPair)
    (fun _ l => decide (l.isLoss = false))
    (SessionSys.init smallPair (fun _ => none) [smallBatch] [[]])
    (fun s => s.rcv.log)
    [.sndCall, .sndTimeout .resend, .rcvCall, .rcvRecv .good, .rcvRecv .good]
    (show _ = some [([], .protocol)] by decide +kernel)
  exact ⟨s, hreach.mono (fun _ _ hadm => of_decide_eq_true hadm), hview⟩

end ValProtocol
