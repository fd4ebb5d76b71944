/-
  ValProtocol.Session.Negotiation
  ───────────────────────────────
  The resume negotiation inside the steps of the two parties: RESUME_REQ,
  RESUME_RESP and the two directions of VERIFY.

    • `NegSend` — a sender's step sends VERIFY only with the request it waits
      on, and starts a file only on what it hears from the peer;
    • `NegRecv` — a receiver's step repeats its answer, asks for a VERIFY, or
      settles the start offset, once.
-/
import ValProtocol.Session.Receiver

namespace ValProtocol

open LittleEndian

/-! ## §1. Control packets are read whole. -/

/-- A control packet whose content is its payload. -/
structure Send.Raw (p : Send) : Prop where
  named : p.type.isNamed = true
  not_data : p.type ≠ .data
  staged_eq : p.staged = p.payload
  len_lt : p.payload.length < 2 ^ 16

theorem Send.Raw.content {p : Send} (h : p.Raw) : p.frame.content = p.payload := by
  show cutContent p.staged = p.payload
  rw [h.staged_eq, cutContent_of_lt h.len_lt]

/-- What `val_internal_recv_until_deadline` hands out. -/
theorem Send.Raw.recvControl {p : Send} (h : p.Raw) {mtu cap : Nat} {q : Packet}
    (hq : recvControl mtu cap p.frame = .ok q) :
    q.type = p.type ∧ q.payload = p.payload ∧ q.len = p.payload.length := by
  have htype : PacketType.ofByte p.frame.type = p.type := PacketType.ofByte_toByte h.named
  simp only [ValProtocol.recvControl, recvFrame, h.content, htype] at hq
  split at hq
  · cases hq
  · rename_i r hr
    split at hr
    · cases hr
    · cases hr
      dsimp only at hq
      split at hq
      · split at hq
        · cases hq
          exact ⟨rfl, rfl, rfl⟩
        · cases hq
      · -- an empty payload is not copied
        rename_i hempty
        cases hq
        have hnil : p.payload = [] := by
          by_contra hne
          exact hempty ⟨List.length_pos_of_ne_nil hne, h.not_data⟩
        exact ⟨rfl, hnil.symm, rfl⟩

theorem Send.Raw.controlFrame {p : Send} (h : p.Raw) {mtu cap : Nat} {q : Packet}
    (hq : controlFrame mtu cap p.frame = .ok q) :
    q.type = p.type ∧ q.payload = p.payload ∧ q.len = p.payload.length := by
  unfold ValProtocol.controlFrame at hq
  split at hq
  · cases hq
  · rename_i r hr
    split at hq
    · cases hq
    · cases hq
    · cases hq
      exact h.recvControl hr

/-! ## §2. The sender. -/

/-- The content behind a negotiating sender. -/
def SendPc.content : SendPc → Option Bytes
  | .resumeWait content _ | .verifyWait content _ _ _ => some content
  | _ => none

/-- What the sender hears about its file: a RESUME_RESP or the result of its
VERIFY. -/
inductive SendState.Hears (env : SendEnv) (s : SendState) (fr : Option Frame)
    (content : Bytes) : ResumeOutcome → Prop where
  | resp {n : Nat} {f : Frame} {p : Packet} (hpc : s.pc = .resumeWait content n)
      (hfr : fr = some f) (hp : controlFrame s.mtu wireResumeRespSize f = .ok p)
      (htype : p.type = .resumeResp) :
      Hears env s fr content (onResumeResp env s.mtu content p.payload)
  | verdict {n endOff : Nat} {payload : Bytes} {f : Frame} {p : Packet}
      (hpc : s.pc = .verifyWait content n endOff payload) (hfr : fr = some f)
      (hp : controlFrame s.mtu 32 f = .ok p) (htype : p.type = .verify) :
      Hears env s fr content (onVerifyResult endOff p.payload)

/-- **The negotiation in a step of the sender.** -/
structure NegSend (env : SendEnv) (s : SendState) (fr : Option Frame)
    (r : List Send × SendState) : Prop where
  verify_sent : ∀ p ∈ r.1, p.type = .verify →
    ∃ content n endOff payload, r.2.pc = .verifyWait content n endOff payload
      ∧ p = sendVerify payload
  verify_pc : ∀ content n endOff payload, r.2.pc = .verifyWait content n endOff payload →
    r.2.idx = s.idx ∧ ((∃ n', s.pc = .verifyWait content n' endOff payload)
      ∨ s.Hears env fr content (.verify endOff payload))
  content_pc : ∀ content, r.2.pc.content = some content →
    (s.pc.content = some content ∧ r.2.batch = s.batch ∧ r.2.idx = s.idx)
      ∨ ∃ f, r.2.batch[r.2.idx]? = some f ∧ f.readable = some content
  starts : r.2.starts = s.starts ∨ ∃ content off,
    r.2.starts = s.starts ++ [⟨s.idx, content.length, off⟩]
      ∧ (s.Hears env fr content (.start off)
        ∨ s.Hears env fr content .skip ∧ off = content.length)

section Sender

variable {env : SendEnv} {s : SendState} {fr : Option Frame}

/-- Nothing of the negotiation happens. -/
theorem NegSend.quiet {r : List Send × SendState}
    (hsends : ∀ p ∈ r.1, p.type ≠ .verify) (hpc : r.2.pc.content = none)
    (hstarts : r.2.starts = s.starts) : NegSend env s fr r where
  verify_sent := fun p hp ht => absurd ht (hsends p hp)
  verify_pc := by
    intro content n endOff payload h
    rw [h] at hpc
    cases hpc
  content_pc := by
    intro content h
    rw [h] at hpc
    cases hpc
  starts := Or.inl hstarts

/-- The wait goes on. -/
theorem NegSend.stay : NegSend env s fr ([], s) where
  verify_sent := fun _ hp => absurd hp List.not_mem_nil
  verify_pc := fun _ n _ _ h => ⟨rfl, Or.inl ⟨n, h⟩⟩
  content_pc := fun _ h => Or.inl ⟨h, rfl, rfl⟩
  starts := Or.inl rfl

theorem NegSend.stop (st : Status) : NegSend env s fr ([], s.ret st) :=
  .quiet (fun _ hp => absurd hp List.not_mem_nil) rfl rfl

/-- At the head of the loop over the files. -/
theorem NegSend.begin {s₁ : SendState} (hstarts : s₁.starts = s.starts) :
    NegSend env s fr (s₁.beginFile env) := by
  unfold SendState.beginFile
  split
  · refine .quiet ?_ rfl hstarts
    intro p hp
    rw [List.mem_singleton.mp hp]
    exact nofun
  · rename_i f hf
    split
    · exact .quiet (fun _ hp => absurd hp List.not_mem_nil) rfl hstarts
    · rename_i content hread
      exact
        { verify_sent := by
            intro p hp ht
            rcases List.mem_cons.mp hp with rfl | hp
            · cases ht
            · rw [List.mem_singleton.mp hp] at ht
              cases ht
          verify_pc := nofun
          content_pc := by
            intro content' h
            cases h
            exact Or.inr ⟨f, hf, hread⟩
          starts := Or.inl hstarts }

/-- Behind a round of the data phase. -/
theorem NegSend.data {s₁ : SendState} (io : SendFile) (m : Move)
    (hstarts : s₁.starts = s.starts ∨ ∃ content off,
      s₁.starts = s.starts ++ [⟨s.idx, content.length, off⟩]
        ∧ (s.Hears env fr content (.start off)
          ∨ s.Hears env fr content .skip ∧ off = content.length)) :
    NegSend env s fr (s₁.onDataResult env io (m.run io)) := by
  have hdata := Move.run_data io m
  -- the data phase sends no VERIFY and reads no answer to one
  have hquiet : ∀ {r : List Send × SendState}, (∀ p ∈ r.1, p.type ≠ .verify) →
      r.2.pc.content = none → r.2.starts = s₁.starts → NegSend env s fr r := by
    intro r hsends hpc heq
    refine ⟨fun p hp ht => absurd ht (hsends p hp), ?_, ?_, by rw [heq]; exact hstarts⟩
    · intro content n endOff payload h
      rw [h] at hpc
      cases hpc
    · intro content h
      rw [h] at hpc
      cases hpc
  unfold SendState.onDataResult
  split
  · refine hquiet ?_ rfl rfl
    intro p hp ht
    rw [hdata p hp] at ht
    cases ht
  · refine hquiet ?_ rfl rfl
    intro p hp ht
    rcases List.mem_append.mp hp with hp | hp
    · rw [hdata p hp] at ht
      cases ht
    · rw [List.mem_singleton.mp hp] at ht
      cases ht
  · refine hquiet ?_ rfl rfl
    intro p hp ht
    rw [hdata p hp] at ht
    cases ht

/-- **The sender acts on what it hears.** -/
theorem NegSend.outcome {content : Bytes} {o : ResumeOutcome} (h : s.Hears env fr content o)
    (hcontent : s.pc.content = some content) :
    NegSend env s fr (s.onOutcome env content o) := by
  cases o with
  | start off =>
      show NegSend env s fr (s.startFile env content off)
      unfold SendState.startFile
      split
      · exact .stop _
      · dsimp only
        have hst : (s.started content.length off).starts
            = s.starts ++ [⟨s.idx, content.length, off⟩] := rfl
        split
        · refine ⟨fun _ hp => absurd hp List.not_mem_nil, nofun, nofun, Or.inr ?_⟩
          exact ⟨content, off, hst, Or.inl h⟩
        · exact .data _ (dataLoop env.cfg _ _) (Or.inr ⟨content, off, hst, Or.inl h⟩)
  | skip =>
      refine ⟨?_, nofun, nofun, Or.inr ⟨content, _, rfl, Or.inr ⟨h, rfl⟩⟩⟩
      intro p hp ht
      rw [List.mem_singleton.mp hp] at ht
      cases ht
  | verify endOff payload =>
      refine ⟨?_, ?_, ?_, Or.inl rfl⟩
      · intro p hp _
        rw [List.mem_singleton.mp hp]
        exact ⟨content, _, endOff, payload, rfl, rfl⟩
      · intro content' n' endOff' payload' hpc
        cases hpc
        exact ⟨rfl, Or.inr h⟩
      · intro content' hc
        cases hc
        exact Or.inl ⟨hcontent, rfl, rfl⟩
  | fail st => exact .stop st

/-- **The sender on a frame.** -/
theorem SendState.onFrame_neg (env : SendEnv) (s : SendState) (f : Frame) :
    NegSend env s (some f) (s.onFrame env f) := by
  unfold SendState.onFrame
  split
  · exact .stay
  · unfold SendState.onHelloFrame
    split
    · exact .stop _
    · split
      · exact .stop _
      · exact .stop _
      · split
        · exact .stay
        · split
          · rename_i sends st herr
            obtain ⟨hnil, -⟩ := adoptPeerHello_error herr
            dsimp only at hnil
            rw [hnil]
            exact .stop _
          · exact .begin rfl
      · exact .stay
  · rename_i content n hpc
    split
    · exact .stop _
    · rename_i p hp
      split
      · rename_i htype
        split
        · exact .stop _
        · -- RESUME_RESP decides where the sender goes on
          exact .outcome (.resp hpc rfl hp htype) (by rw [hpc]; rfl)
      · exact .stay
  · rename_i content n endOff payload hpc
    split
    · exact .stop _
    · rename_i p hp
      split
      · rename_i htype
        split
        · exact .stop _
        · -- the verdict on the tail
          exact .outcome (.verdict hpc rfl hp htype) (by rw [hpc]; rfl)
      · exact .stay
  · exact .data _ _ (Or.inl rfl)
  · split
    · exact .stop _
    · split
      · exact .begin rfl
      · exact .stay
  · split
    · exact .stop _
    · split
      · exact .quiet (fun _ hp => absurd hp List.not_mem_nil) rfl rfl
      · exact .stay

/-- **The sender on a timeout.** -/
theorem SendState.onTimeout_neg (env : SendEnv) (s : SendState) (timer : HelloTimer) :
    NegSend env s none (s.onTimeout env timer) := by
  -- one packet other than VERIFY is repeated
  have hone : ∀ {p : Send} {s' : SendState}, p.type ≠ .verify → s'.pc.content = none →
      s'.starts = s.starts → NegSend env s none ([p], s') := by
    intro p s' hp hpc hst
    refine .quiet ?_ hpc hst
    intro q hq
    rw [List.mem_singleton.mp hq]
    exact hp
  unfold SendState.onTimeout
  split
  · exact .stay
  · split
    · exact .stop _
    · split
      · exact .stay
      · exact hone nofun rfl rfl
    · exact .stay
  · rename_i content n hpc
    split
    · exact .stop _
    · refine ⟨?_, nofun, ?_, Or.inl rfl⟩
      · intro p hp ht
        rw [List.mem_singleton.mp hp] at ht
        cases ht
      · intro content' hc
        cases hc
        exact Or.inl ⟨by rw [hpc]; rfl, rfl, rfl⟩
  · rename_i content n endOff payload hpc
    split
    · exact .stop _
    · refine ⟨?_, ?_, ?_, Or.inl rfl⟩
      · intro p hp _
        rw [List.mem_singleton.mp hp]
        exact ⟨content, _, endOff, payload, rfl, rfl⟩
      · intro content' n' endOff' payload' hpc'
        cases hpc'
        exact ⟨rfl, Or.inl ⟨n, hpc⟩⟩
      · intro content' hc
        cases hc
        exact Or.inl ⟨by rw [hpc]; rfl, rfl, rfl⟩
  · exact .data _ _ (Or.inl rfl)
  · split
    · exact .stop _
    · exact hone nofun rfl rfl
  · split
    · exact .stop _
    · exact hone nofun rfl rfl

/-- `val_send_files` is called. -/
theorem SendState.call_neg (env : SendEnv) (s : SendState) (batch : List SourceFile) :
    NegSend env s none (s.call env batch) := by
  unfold SendState.call
  dsimp only
  split
  · exact .quiet (fun _ hp => absurd hp List.not_mem_nil) rfl rfl
  · split
    · exact .begin rfl
    · refine .quiet ?_ rfl rfl
      intro p hp
      rw [List.mem_singleton.mp hp]
      exact nofun

end Sender

/-! ## §3. The receiver. -/

/-- Where the receiver is in the negotiation of a file. -/
inductive RecvStage where
  | outside
  | undecided (f : RecvFile)
  | verifying (f : RecvFile) (resp : Bytes) (off : Nat)
  | settled (f : RecvFile)
  deriving Repr, DecidableEq

def RecvPc.stage : RecvPc → RecvStage
  | .idle | .helloWait | .metaWait _ => .outside
  | .neverPeek f | .resumeReqWait f _ => .undecided f
  | .verifyWait f _ resp off => .verifying f resp off
  | .dataWait f _ | .skipWait f _ => .settled f

/-- The packets of the negotiation. -/
def PacketType.isNegotiation : PacketType → Bool
  | .resumeResp | .verify => true
  | _ => false

/-- The answer to RESUME_REQ. -/
def RecvState.decision (env : RecvEnv) (s : RecvState) (f : RecvFile) : ResumeDecision :=
  determineResumeAction env s.mtu (s.files f.path) f.size

def sendResumeResp (resp : Bytes) : Send := ⟨.resumeResp, resp, 0, true⟩

theorem sendResumeResp_raw (d : ResumeDecision) : (sendResumeResp d.wire).Raw := by
  refine ⟨rfl, (fun h => by cases h), rfl, ?_⟩
  show (serializeResumeResp _).length < 2 ^ 16
  rw [serializeResumeResp_length]
  decide

theorem sendVerifyResult_raw (st : Status) (crc : Nat) : (sendVerifyResult st crc).Raw := by
  refine ⟨rfl, (fun h => by cases h), rfl, ?_⟩
  show (serializeVerifyResponse st crc).length < 2 ^ 16
  rw [serializeVerifyResponse_length]
  decide

theorem sendVerify_raw {payload : Bytes} (h : payload.length < 2 ^ 16) :
    (sendVerify payload).Raw :=
  ⟨rfl, (fun h => by cases h), rfl, h⟩

/-- The start offset is settled: the receiver goes on to the file or gives
up. -/
structure RecvState.Settles (s : RecvState) (f : RecvFile) (off : Nat) (s' : RecvState) :
    Prop where
  starts_eq : s'.starts = s.starts ++ [⟨s.completed.length, f.size, off, s.files f.path⟩]
  ends : (s'.pc.stage = .settled f ∧ s.SameCall s')
    ∨ (s'.pc = .idle ∧ s'.log = s.log ++ [(s.completed, .io)])
    ∨ (s'.pc = .idle ∧ s'.log = s.log ++ [(s.completed, .invalidArg)])

/-- **The negotiation in a step of the receiver.** -/
inductive NegRecv (env : RecvEnv) (s : RecvState) (fr : Option Frame) :
    List Send × RecvState → Prop where
  /-- nothing of the negotiation happens -/
  | keep {sends : List Send} {s' : RecvState} (stage_eq : s'.pc.stage = s.pc.stage)
      (same : s.SameCall s') (starts_eq : s'.starts = s.starts) (files_eq : s'.files = s.files)
      (sends_ok : ∀ p ∈ sends, p.type.isNegotiation = false) : NegRecv env s fr (sends, s')
  /-- a file is announced -/
  | opens {payload : Bytes} (hstage : s.pc.stage = .outside) :
      NegRecv env s fr ([], s.acceptMeta env payload)
  /-- a repeated RESUME_REQ -/
  | repeats {f : RecvFile} {resp : Bytes} {off : Nat}
      (hstage : s.pc.stage = .verifying f resp off) :
      NegRecv env s fr ([sendResumeResp resp], s)
  /-- the receiver asks for a VERIFY -/
  | asks {f : RecvFile} {s' : RecvState} (hstage : s.pc.stage = .undecided f)
      (hfr : fr ≠ none) (hact : (s.decision env f).action = .verifyFirst)
      (hstage' : s'.pc.stage = .verifying f (s.decision env f).wire (s.decision env f).offset)
      (same : s.SameCall s') (starts_eq : s'.starts = s.starts)
      (files_eq : s'.files = s.files) :
      NegRecv env s fr ([sendResumeResp (s.decision env f).wire], s')
  /-- the answer settles the start -/
  | decides {f : RecvFile} {off : Nat} {sends : List Send} {s' : RecvState}
      (hstage : s.pc.stage = .undecided f)
      (hdec : s.decision env f = .startZero ∧ off = 0
        ∨ s.decision env f = .skipFile ∧ off = f.size)
      (settles : s.Settles f off s') (sends_ok : ∀ p ∈ sends, p.type.isNegotiation = false) :
      NegRecv env s fr (sendResumeResp (s.decision env f).wire :: sends, s')
  /-- `VAL_RESUME_NEVER` without a RESUME_REQ -/
  | presumes {f : RecvFile} {sends : List Send} {s' : RecvState}
      (hstage : s.pc.stage = .undecided f) (settles : s.Settles f 0 s')
      (sends_ok : ∀ p ∈ sends, p.type.isNegotiation = false) : NegRecv env s fr (sends, s')
  /-- a VERIFY request settles the start -/
  | verdict {f : RecvFile} {resp file : Bytes} {resumeOff off : Nat} {frame : Frame}
      {p : Packet} {sends : List Send} {s' : RecvState}
      (hstage : s.pc.stage = .verifying f resp resumeOff) (hfr : fr = some frame)
      (hp : controlFrame s.mtu wireVerifyReqPayloadSize frame = .ok p)
      (htype : p.type = .verify) (hfile : s.files f.path = some file)
      (hoff : ((verifyVerdict env s.mtu file p.payload).1 = .ok ∧ off = resumeOff)
        ∨ ((verifyVerdict env s.mtu file p.payload).1 = .skipped ∧ off = f.size)
        ∨ ((verifyVerdict env s.mtu file p.payload).1 = .resumeVerify ∧ off = 0))
      (settles : s.Settles f off s') (sends_ok : ∀ q ∈ sends, q.type.isNegotiation = false) :
      NegRecv env s fr
        (sendVerifyResult (verifyVerdict env s.mtu file p.payload).1
          (verifyVerdict env s.mtu file p.payload).2 :: sends, s')
  /-- the local file has gone -/
  | gone {f : RecvFile} {resp : Bytes} {resumeOff : Nat}
      (hstage : s.pc.stage = .verifying f resp resumeOff) (hfile : s.files f.path = none) :
      NegRecv env s fr ([sendVerifyResult .resumeVerify 0], s.ret .io)
  /-- the handshake, the end of a file or of the call -/
  | leaves {sends : List Send} {s' : RecvState} (hstage' : s'.pc.stage = .outside)
      (starts_eq : s'.starts = s.starts) (sends_ok : ∀ p ∈ sends, p.type.isNegotiation = false)
      (hleft : s'.log ≠ s.log
        ∨ (∃ f, s.pc.stage = .settled f ∧ ∃ m, s'.completed = s.completed ++ [m])
        ∨ s.pc.stage = .outside ∧ s'.completed = s.completed ∧ s'.log = s.log) :
      NegRecv env s fr (sends, s')

section Receiver

variable {env : RecvEnv} {s : RecvState} {fr : Option Frame}

theorem isNegotiation_nil : ∀ p ∈ ([] : List Send), p.type.isNegotiation = false :=
  fun _ hp => absurd hp List.not_mem_nil

theorem isNegotiation_one {p : Send} (h : p.type.isNegotiation = false) :
    ∀ q ∈ [p], q.type.isNegotiation = false := by
  intro q hq
  rw [List.mem_singleton.mp hq]
  exact h

theorem NegRecv.stay : NegRecv env s fr ([], s) :=
  .keep rfl .rfl rfl rfl isNegotiation_nil

/-- The call returns. -/
theorem NegRecv.returns {s' : RecvState} {e : List MetaPayload × Status} {sends : List Send}
    (hpc : s'.pc = .idle) (hlog : s'.log = s.log ++ [e]) (hst : s'.starts = s.starts)
    (sends_ok : ∀ p ∈ sends, p.type.isNegotiation = false) : NegRecv env s fr (sends, s') := by
  refine .leaves (by rw [hpc]; rfl) hst sends_ok (Or.inl ?_)
  rw [hlog]
  intro h
  have := congrArg List.length h
  rw [List.length_append, List.length_singleton] at this
  omega

theorem NegRecv.stop (st : Status) : NegRecv env s fr ([], s.ret st) :=
  .returns rfl rfl rfl isNegotiation_nil

/-- From the decision to the target file, no validator being installed. -/
theorem RecvState.settle_settles (hv : env.validator = none) (f : RecvFile) (off : Nat)
    (skipping ackSkip : Bool) (fs : FsOutcome) :
    s.Settles f off (s.settle env f off skipping ackSkip fs).2
    ∧ ∀ p ∈ (s.settle env f off skipping ackSkip fs).1, p.type.isNegotiation = false := by
  have hopen : ∀ b, s.Settles f off ((s.started f off).openTarget env f off b fs) := by
    intro b
    unfold RecvState.openTarget
    split
    · exact ⟨rfl, Or.inl ⟨rfl, rfl, rfl, rfl, rfl, rfl, rfl⟩⟩
    · split
      · exact ⟨rfl, Or.inr (Or.inl ⟨rfl, rfl⟩)⟩
      · exact ⟨rfl, Or.inl ⟨rfl, rfl, rfl, rfl, rfl, rfl, rfl⟩⟩
  unfold RecvState.settle
  dsimp only
  split
  · unfold RecvState.validate
    rw [hv]
    by_cases hlong : ((s.started f off).targetPath env f).length ≥ maxPath * 2 + 8
    · simp only [hlong, if_true]
      exact ⟨⟨rfl, Or.inr (Or.inr ⟨rfl, rfl⟩)⟩, isNegotiation_nil⟩
    · simp only [hlong, if_false, Option.map_none, Option.getD_none]
      exact ⟨hopen _, isNegotiation_nil⟩
  · exact ⟨hopen _, isNegotiation_nil⟩

theorem NegRecv.answerResume (hv : env.validator = none) {f : RecvFile}
    (hstage : s.pc.stage = .undecided f) (hfr : fr ≠ none) (fs : FsOutcome) :
    NegRecv env s fr (s.answerResume env f fs) := by
  unfold RecvState.answerResume
  dsimp only
  rw [show determineResumeAction env s.mtu (s.files f.path) f.size = s.decision env f from rfl]
  rcases determineResumeAction_cases env s.mtu (s.files f.path) f.size with
    hd | hd | ⟨_, _, _, _, _, _, _, _, hd⟩
  all_goals replace hd : s.decision env f = _ := hd
  · have hset := RecvState.settle_settles (s := s) hv f 0 false true fs
    have hneg : NegRecv env s fr (sendResumeResp (s.decision env f).wire
        :: (s.settle env f 0 false true fs).1, (s.settle env f 0 false true fs).2) :=
      .decides hstage (Or.inl ⟨hd, rfl⟩) hset.1 hset.2
    rw [hd] at hneg ⊢
    exact hneg
  · have hset := RecvState.settle_settles (s := s) hv f f.size true true fs
    have hneg : NegRecv env s fr (sendResumeResp (s.decision env f).wire
        :: (s.settle env f f.size true true fs).1, (s.settle env f f.size true true fs).2) :=
      .decides hstage (Or.inr ⟨hd, rfl⟩) hset.1 hset.2
    rw [hd] at hneg ⊢
    exact hneg
  · have hact : (s.decision env f).action = .verifyFirst := by rw [hd]
    have hneg : NegRecv env s fr ([sendResumeResp (s.decision env f).wire],
        { s with
          pc := .verifyWait f env.cfg.retries.ackRetries (s.decision env f).wire
            (s.decision env f).offset }) :=
      .asks hstage hfr hact rfl ⟨rfl, rfl, rfl, rfl, rfl, rfl⟩ rfl rfl
    rw [hd] at hneg ⊢
    exact hneg

theorem NegRecv.legacyStart (hv : env.validator = none) {f : RecvFile}
    (hstage : s.pc.stage = .undecided f) (fs : FsOutcome) :
    NegRecv env s fr (s.legacyStart env f fs) := by
  have hset := RecvState.settle_settles (s := s) hv f 0 false false fs
  refine .presumes hstage hset.1 ?_
  intro p hp
  rcases List.mem_cons.mp hp with rfl | hp
  · rfl
  · exact hset.2 p hp

theorem NegRecv.answerVerify (hv : env.validator = none) {f : RecvFile} {resp : Bytes}
    {resumeOff : Nat} {frame : Frame} {p : Packet}
    (hstage : s.pc.stage = .verifying f resp resumeOff) (hfr : fr = some frame)
    (hp : controlFrame s.mtu wireVerifyReqPayloadSize frame = .ok p) (htype : p.type = .verify)
    (fs : FsOutcome) : NegRecv env s fr (s.answerVerify env f resumeOff p.payload fs) := by
  unfold RecvState.answerVerify
  split
  · rename_i hnone
    exact .gone hstage hnone
  · rename_i file hfile
    dsimp only
    have hset := fun off b => RecvState.settle_settles (s := s) hv f off b true fs
    rcases verifyVerdict_cases env s.mtu file p.payload with hok | hskip | hbad
    · have hneg := @NegRecv.verdict env _ _ _ _ _ _ _ _ _ _ _ hstage hfr hp htype hfile
        (Or.inl ⟨hok, rfl⟩) (hset resumeOff false).1 (hset resumeOff false).2
      rw [hok] at hneg ⊢
      exact hneg
    · have hneg := @NegRecv.verdict env _ _ _ _ _ _ _ _ _ _ _ hstage hfr hp htype hfile
        (Or.inr (Or.inl ⟨hskip, rfl⟩)) (hset f.size true).1 (hset f.size true).2
      rw [hskip] at hneg ⊢
      exact hneg
    · have hneg := @NegRecv.verdict env _ _ _ _ _ _ _ _ _ _ _ hstage hfr hp htype hfile
        (Or.inr (Or.inr ⟨hbad, rfl⟩)) (hset 0 false).1 (hset 0 false).2
      rw [hbad] at hneg ⊢
      exact hneg

/-- One round of the data loop. -/
theorem NegRecv.data {f : RecvFile} {d : RecvData} (hpc : s.pc = .dataWait f d) (mtu : Nat)
    (frame : Frame) (short : Option Nat) :
    NegRecv env s fr (s.onRecvResult env f (onDataFrame env.cfg mtu d frame short)) := by
  have hstage : s.pc.stage = .settled f := by rw [hpc]; rfl
  have hfail : ∀ (sends : List Send) (d : RecvData) (st : Status),
      (∀ p ∈ sends, p.type.isNegotiation = false) →
      NegRecv env s fr (sends, (s.closed f d.file).ret st) := by
    intro sends d st hsends
    exact .returns rfl rfl rfl hsends
  unfold onDataFrame
  dsimp only
  split
  · exact hfail _ _ _ isNegotiation_nil
  · rename_i p hp
    split
    · obtain ⟨htypes, -⟩ := onData_reply { d with tries := env.cfg.retries.dataRetries } p short
      have hsends : ∀ q ∈ (onData { d with tries := env.cfg.retries.dataRetries } p short).1,
          q.type.isNegotiation = false := by
        intro q hq
        rcases htypes q hq with ht | ht
        all_goals
          rw [ht]
          rfl
      unfold RecvState.onRecvResult
      split
      · exact .keep hstage.symm ⟨rfl, rfl, rfl, rfl, rfl, rfl⟩ rfl rfl hsends
      · rename_i d' hd'
        exact absurd hd' (onData_not_complete _ _ _ _)
      · exact hfail _ _ _ hsends
    · exact .leaves rfl rfl (isNegotiation_one rfl)
        (Or.inr (Or.inl ⟨f, hstage, f.announced, rfl⟩))
    · exact hfail _ _ _ isNegotiation_nil
    · exact hfail _ _ _ isNegotiation_nil
    · exact hfail _ _ _ isNegotiation_nil
    · exact .keep hstage.symm ⟨rfl, rfl, rfl, rfl, rfl, rfl⟩ rfl rfl isNegotiation_nil

/-- **The receiver on a frame.** -/
theorem RecvState.onFrame_neg (hv : env.validator = none) (s : RecvState) (frame : Frame)
    (fs : FsOutcome) : NegRecv env s (some frame) (s.onFrame env frame fs) := by
  unfold RecvState.onFrame
  split
  · exact .stay
  · rename_i hpc
    unfold RecvState.onHelloFrame
    split
    · exact .stop _
    · split
      · exact .stop _
      · exact .stop _
      · split
        · exact .stay
        · dsimp only
          split
          · rename_i sends st herr
            obtain ⟨hnil, -⟩ := adoptPeerHello_error herr
            dsimp only at hnil
            rw [hnil]
            exact .stop _
          · rw [if_neg (by simp [missingFeatures, builtinFeatures])]
            exact .leaves rfl rfl (isNegotiation_one rfl)
              (Or.inr (Or.inr ⟨by rw [hpc]; rfl, rfl, rfl⟩))
      · exact .stay
  · rename_i tries hpc
    unfold RecvState.onMetaFrame
    split
    · exact .stop _
    · split
      · -- EOT: the call returns
        exact .returns rfl rfl rfl (isNegotiation_one rfl)
      · exact .stop _
      · split
        · exact .stop _
        · -- SEND_META opens a file
          exact .opens (by rw [hpc]; rfl)
      · exact .stop _
  · rename_i f hpc
    have hstage : s.pc.stage = .undecided f := by rw [hpc]; rfl
    split
    · split
      · exact .answerResume hv hstage (Option.some_ne_none frame) fs
      · exact .legacyStart hv hstage fs
    · split
      · exact .stop _
      · exact .legacyStart hv hstage fs
  · rename_i f tries hpc
    have hstage : s.pc.stage = .undecided f := by rw [hpc]; rfl
    split
    · exact .stop _
    · split
      · exact .answerResume hv hstage (Option.some_ne_none frame) fs
      · exact .stop _
      · exact .stop _
      · exact .stay
  · rename_i f tries resp off hpc
    have hstage : s.pc.stage = .verifying f resp off := by rw [hpc]; rfl
    split
    · exact .stop _
    · rename_i p hp
      split
      · -- RESUME_REQ again: the same answer
        exact .repeats hstage
      · rename_i htype
        exact .answerVerify hv hstage rfl hp htype fs
      · exact .stay
  · rename_i f d hpc
    exact .data hpc _ _ _
  · rename_i f tries hpc
    have hstage : s.pc.stage = .settled f := by rw [hpc]; rfl
    split
    · exact .stop _
    · split
      · exact .leaves rfl rfl (isNegotiation_one rfl)
          (Or.inr (Or.inl ⟨f, hstage, f.announced, rfl⟩))
      · exact .returns rfl rfl rfl (isNegotiation_one rfl)
      · exact .stop _
      · exact .keep hstage.symm ⟨rfl, rfl, rfl, rfl, rfl, rfl⟩ rfl rfl isNegotiation_nil

/-- **The receiver on a timeout.** -/
theorem RecvState.onTimeout_neg (hv : env.validator = none) (s : RecvState)
    (timer : HelloTimer) (fs : FsOutcome) : NegRecv env s none (s.onTimeout env timer fs) := by
  -- one try less
  have htry : ∀ {s' : RecvState}, s'.pc.stage = s.pc.stage → s.SameCall s' →
      s'.starts = s.starts → s'.files = s.files → NegRecv env s none ([], s') :=
    fun h1 h2 h3 h4 => .keep h1 h2 h3 h4 isNegotiation_nil
  unfold RecvState.onTimeout
  split
  · exact .stay
  · split
    · exact .stop _
    · exact .stay
  · rename_i tries hpc
    split
    · exact .stop _
    · exact htry (by rw [hpc]; rfl) ⟨rfl, rfl, rfl, rfl, rfl, rfl⟩ rfl rfl
  · rename_i f hpc
    exact .legacyStart hv (by rw [hpc]; rfl) fs
  · rename_i f tries hpc
    split
    · exact .stop _
    · exact htry (by rw [hpc]; rfl) ⟨rfl, rfl, rfl, rfl, rfl, rfl⟩ rfl rfl
  · rename_i f tries resp off hpc
    split
    · exact .stop _
    · exact htry (by rw [hpc]; rfl) ⟨rfl, rfl, rfl, rfl, rfl, rfl⟩ rfl rfl
  · rename_i f d hpc
    unfold onDataTimeout
    split
    · exact .returns rfl rfl rfl isNegotiation_nil
    · exact htry (by rw [hpc]; rfl) ⟨rfl, rfl, rfl, rfl, rfl, rfl⟩ rfl rfl
  · rename_i f tries hpc
    split
    · exact .stop _
    · exact htry (by rw [hpc]; rfl) ⟨rfl, rfl, rfl, rfl, rfl, rfl⟩ rfl rfl

end Receiver

end ValProtocol
