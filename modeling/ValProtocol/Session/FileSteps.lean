/-
  ValProtocol.Session.FileSteps
  ─────────────────────────────
  The data phase of a file inside the steps of the two parties: when it is
  entered, and that DATA, DONE and their acknowledgements are sent nowhere
  else.

    • `FileSend` — a sender's step enters the data phase only on what it hears
      from the peer, and at the offset it hears,
    • `FileRecv` — a receiver's step opens its target file where the start
      offset is settled, and touches no file outside the data loop.
-/
import ValProtocol.Session.Negotiation

namespace ValProtocol

/-- The packets of the data phase, in both directions. -/
def PacketType.isBody : PacketType → Bool
  | .data | .done | .dataAck | .dataNak | .doneAck => true
  | _ => false

/-- No packet of the data phase. -/
def Bodiless (sends : List Send) : Prop := ∀ p ∈ sends, p.type.isBody = false

theorem bodiless_nil : Bodiless [] := fun _ hp => absurd hp List.not_mem_nil

theorem bodiless_one {p : Send} (h : p.type.isBody = false) : Bodiless [p] := by
  intro q hq
  rw [List.mem_singleton.mp hq]
  exact h

/-! ## §1. The sender. -/

/-- The waits of the data phase. -/
def SendPc.transfers : SendPc → Bool
  | .ackWait _ _ | .doneWait _ _ _ => true
  | _ => false

/-- **The data phase in a step of the sender.** -/
inductive FileSend (env : SendEnv) (s : SendState) (fr : Option Frame) :
    List Send × SendState → Prop where
  /-- outside it, or left behind -/
  | away {sends : List Send} {s' : SendState} (hpc' : s'.pc.transfers = false)
      (starts_eq : s'.starts = s.starts) (sends_ok : Bodiless sends) :
      FileSend env s fr (sends, s')
  /-- the peer has settled the start offset -/
  | enters {content : Bytes} {off : Nat} (hears : s.Hears env fr content (.start off))
      (hcontent : s.pc.content = some content) :
      FileSend env s fr (s.startFile env content off)
  /-- the peer skips the file -/
  | skips {content : Bytes} (hears : s.Hears env fr content .skip)
      (hcontent : s.pc.content = some content) :
      FileSend env s fr (s.onOutcome env content .skip)
  /-- a round of the window -/
  | moves {io : SendFile} {d : SendData} (m : Move) (hpc : s.pc = .ackWait io d) :
      FileSend env s fr ({ s with flow := d.flow }.onDataResult env io (m.run io))
  /-- DONE is repeated, or its acknowledgement awaited further -/
  | waits {size tries tries' : Nat} {skip : Bool} {flow : Flow} {sends : List Send}
      (hpc : s.pc = .doneWait size tries skip) (sends_ok : ∀ p ∈ sends, p = sendBare .done size) :
      FileSend env s fr (sends, { s with pc := .doneWait size tries' skip, flow := flow })

section Sender

variable {env : SendEnv} {s : SendState} {fr : Option Frame}

/-- The call returns outside a round of the window. -/
theorem FileSend.stop (st : Status) : FileSend env s fr ([], s.ret st) :=
  .away rfl rfl bodiless_nil

theorem FileSend.stay (h : s.pc.transfers = false) : FileSend env s fr ([], s) :=
  .away h rfl bodiless_nil

/-- At the head of the loop over the files. -/
theorem FileSend.begin {s₁ : SendState} (hstarts : s₁.starts = s.starts) :
    FileSend env s fr (s₁.beginFile env) := by
  unfold SendState.beginFile
  split
  · exact .away rfl hstarts (bodiless_one rfl)
  · split
    · exact .away rfl hstarts bodiless_nil
    · refine .away rfl hstarts ?_
      intro p hp
      rcases List.mem_cons.mp hp with rfl | hp
      · rfl
      · rw [List.mem_singleton.mp hp]
        rfl

/-- What is heard decides. -/
theorem FileSend.outcome {content : Bytes} {o : ResumeOutcome} (h : s.Hears env fr content o)
    (hcontent : s.pc.content = some content) :
    FileSend env s fr (s.onOutcome env content o) := by
  cases o with
  | start off => exact .enters h hcontent
  | skip => exact .skips h hcontent
  | verify endOff payload => exact .away rfl rfl (bodiless_one rfl)
  | fail st => exact .stop st

/-- **The sender on a frame.** -/
theorem SendState.onFrame_file (env : SendEnv) (s : SendState) (f : Frame) :
    FileSend env s (some f) (s.onFrame env f) := by
  unfold SendState.onFrame
  split
  · rename_i hpc
    exact .stay (by rw [hpc]; rfl)
  · rename_i hpc
    have hquiet : s.pc.transfers = false := by rw [hpc]; rfl
    unfold SendState.onHelloFrame
    split
    · exact .stop _
    · split
      · exact .stop _
      · exact .stop _
      · split
        · exact .stay hquiet
        · split
          · rename_i sends st herr
            obtain ⟨hnil, -⟩ := adoptPeerHello_error herr
            dsimp only at hnil
            rw [hnil]
            exact .stop _
          · exact .begin rfl
      · exact .stay hquiet
  · rename_i content n hpc
    split
    · exact .stop _
    · rename_i p hp
      split
      · rename_i htype
        split
        · exact .stop _
        · exact .outcome (.resp hpc rfl hp htype) (by rw [hpc]; rfl)
      · exact .stay (by rw [hpc]; rfl)
  · rename_i content n endOff payload hpc
    split
    · exact .stop _
    · rename_i p hp
      split
      · rename_i htype
        split
        · exact .stop _
        · exact .outcome (.verdict hpc rfl hp htype) (by rw [hpc]; rfl)
      · exact .stay (by rw [hpc]; rfl)
  · rename_i io d hpc
    exact .moves _ hpc
  · rename_i size tries skip hpc
    split
    · exact .stop _
    · split
      · exact .begin rfl
      · -- not the acknowledgement: the wait goes on
        have hsame : s = { s with pc := .doneWait size tries skip, flow := s.flow } := by
          rw [← hpc]
        have hwait : FileSend env s (some f)
            ([], { s with pc := .doneWait size tries skip, flow := s.flow }) :=
          .waits hpc fun p hp => absurd hp List.not_mem_nil
        rwa [← hsame] at hwait
  · rename_i hpc
    split
    · exact .stop _
    · split
      · exact .away rfl rfl bodiless_nil
      · exact .stay (by rw [hpc]; rfl)

/-- **The sender on a timeout.** -/
theorem SendState.onTimeout_file (env : SendEnv) (s : SendState) (timer : HelloTimer) :
    FileSend env s none (s.onTimeout env timer) := by
  unfold SendState.onTimeout
  split
  · rename_i hpc
    exact .stay (by rw [hpc]; rfl)
  · rename_i hpc
    have hquiet : s.pc.transfers = false := by rw [hpc]; rfl
    split
    · exact .stop _
    · split
      · exact .stay hquiet
      · exact .away rfl rfl (bodiless_one rfl)
    · exact .stay hquiet
  · split
    · exact .stop _
    · exact .away rfl rfl (bodiless_one rfl)
  · split
    · exact .stop _
    · exact .away rfl rfl (bodiless_one rfl)
  · rename_i io d hpc
    exact .moves _ hpc
  · rename_i size tries skip hpc
    split
    · exact .stop _
    · exact .waits hpc fun p hp => List.mem_singleton.mp hp
  · split
    · exact .stop _
    · exact .away rfl rfl (bodiless_one rfl)

/-- `val_send_files` is called. -/
theorem SendState.call_file (env : SendEnv) (s : SendState) (batch : List SourceFile) :
    FileSend env s none (s.call env batch) := by
  unfold SendState.call
  dsimp only
  split
  · exact .away rfl rfl bodiless_nil
  · split
    · exact .begin rfl
    · exact .away rfl rfl (bodiless_one rfl)

end Sender

/-! ## §2. The receiver. -/

/-- What the target file holds when the data loop begins. -/
def openedWith (off : Nat) (existing : Option Bytes) : Bytes :=
  if off = 0 then [] else existing.getD []

/-- Where a settled start offset leads, no validator being installed: into the
data loop, to the DONE wait of a skipped file, or out of the call. -/
inductive RecvState.Opens (env : RecvEnv) (s : RecvState) (f : RecvFile) (off : Nat) :
    RecvState → Prop where
  | target (hoff : off < f.size ∨ env.cfg.resume.mode = .never) :
      s.Opens env f off { s.started f off with
        pc := .dataWait f (initRecv env.cfg (openedWith off (s.files f.path)) off f.size) }
  | skipped (hoff : f.size ≤ off) (tries : Nat) :
      s.Opens env f off { s.started f off with pc := .skipWait f tries }
  | refused (st : Status) (hst : st ≠ .ok) : s.Opens env f off ((s.started f off).ret st)

/-- **How the receiver comes to a start offset**: `VAL_RESUME_NEVER` without a
request, the decision on a RESUME_REQ, the verdict on a VERIFY. -/
inductive RecvState.Picks (env : RecvEnv) (s : RecvState) (fr : Option Frame) (f : RecvFile) :
    Nat → Prop where
  | peeks (hpc : s.pc = .neverPeek f) : s.Picks env fr f 0
  | restarts (hstage : s.pc.stage = .undecided f)
      (hdec : determineResumeAction env s.mtu (s.files f.path) f.size = .startZero) :
      s.Picks env fr f 0
  | keeps (hstage : s.pc.stage = .undecided f)
      (hdec : determineResumeAction env s.mtu (s.files f.path) f.size = .skipFile) :
      s.Picks env fr f f.size
  | verdict {resp file : Bytes} {resumeOff off : Nat} {frame : Frame} {p : Packet}
      (hstage : s.pc.stage = .verifying f resp resumeOff) (hfr : fr = some frame)
      (hp : controlFrame s.mtu wireVerifyReqPayloadSize frame = .ok p) (htype : p.type = .verify)
      (hfile : s.files f.path = some file)
      (hoff : ((verifyVerdict env s.mtu file p.payload).1 = .ok ∧ off = resumeOff)
        ∨ ((verifyVerdict env s.mtu file p.payload).1 = .skipped ∧ off = f.size)
        ∨ ((verifyVerdict env s.mtu file p.payload).1 = .resumeVerify ∧ off = 0)) :
      s.Picks env fr f off

/-- A start offset is picked inside the negotiation. -/
theorem RecvState.Picks.stage {env : RecvEnv} {s : RecvState} {fr : Option Frame} {f : RecvFile}
    {off : Nat} (h : s.Picks env fr f off) :
    s.pc.stage = .undecided f ∨ ∃ resp resumeOff, s.pc.stage = .verifying f resp resumeOff := by
  cases h with
  | peeks hpc =>
      left
      rw [hpc]
      rfl
  | restarts hstage hdec => exact Or.inl hstage
  | keeps hstage hdec => exact Or.inl hstage
  | verdict hstage hfr hp htype hfile hoff => exact Or.inr ⟨_, _, hstage⟩

/-- **The data phase in a step of the receiver.** -/
inductive FileRecv (env : RecvEnv) (s : RecvState) (fr : Option Frame) (fs : FsOutcome) :
    List Send × RecvState → Prop where
  /-- outside a file or inside its negotiation -/
  | away {sends : List Send} {s' : RecvState} (hstage : ∀ f, s.pc.stage ≠ .settled f)
      (hstage' : ∀ f, s'.pc.stage ≠ .settled f) (files_eq : s'.files = s.files)
      (starts_eq : s'.starts = s.starts)
      (completed_eq : s'.completed = s.completed ∧ s'.log = s.log
        ∨ ∃ st, s'.log = s.log ++ [(s.completed, st)]) (sends_ok : Bodiless sends)
      (peek_ok : ∀ f, s'.pc = .neverPeek f →
        s.pc = .neverPeek f ∨ env.cfg.resume.mode = .never) :
      FileRecv env s fr fs (sends, s')
  /-- the start offset is settled -/
  | opens {f : RecvFile} {off : Nat} {sends : List Send} {s' : RecvState}
      (hpick : s.Picks env fr f off) (h : s.Opens env f off s')
      (sends_ok : ∀ p ∈ sends, p.type.isBody = true → p = sendBare .dataAck 0) :
      FileRecv env s fr fs (sends, s')
  /-- the data loop takes a frame -/
  | takes {f : RecvFile} {d : RecvData} {frame : Frame} (hpc : s.pc = .dataWait f d)
      (hfr : fr = some frame) :
      FileRecv env s fr fs (s.onRecvResult env f (onDataFrame env.cfg s.mtu d frame fs.short))
  /-- it times out -/
  | pauses {f : RecvFile} {d : RecvData} (hpc : s.pc = .dataWait f d) (hfr : fr = none) :
      FileRecv env s fr fs (s.onRecvResult env f (onDataTimeout d))
  /-- the DONE wait of a skipped file goes on -/
  | idles {f : RecvFile} {tries tries' : Nat} (hpc : s.pc = .skipWait f tries) :
      FileRecv env s fr fs ([], { s with pc := .skipWait f tries' })
  /-- or ends -/
  | ends {f : RecvFile} {tries : Nat} {frame : Frame} (hpc : s.pc = .skipWait f tries)
      (hfr : fr = some frame) (htype : PacketType.ofByte frame.type = .done) :
      FileRecv env s fr fs ([sendBare .doneAck f.size], s.fileDone env f)
  /-- or the call returns in it -/
  | gives {f : RecvFile} {tries : Nat} {sends : List Send} {s' : RecvState} {st : Status}
      (hpc : s.pc = .skipWait f tries) (hpc' : s'.pc = .idle) (files_eq : s'.files = s.files)
      (starts_eq : s'.starts = s.starts) (log_eq : s'.log = s.log ++ [(s.completed, st)])
      (sends_ok : Bodiless sends) : FileRecv env s fr fs (sends, s')

section Receiver

variable {env : RecvEnv} {s : RecvState} {fr : Option Frame} {fs : FsOutcome}

/-- From the settled offset to the target file. -/
theorem RecvState.settle_opens (hv : env.validator = none) {f : RecvFile} {off : Nat}
    {skipping : Bool} (hskip : skipping = true → f.size ≤ off) (ackSkip : Bool)
    (fs : FsOutcome) :
    s.Opens env f off (s.settle env f off skipping ackSkip fs).2
    ∧ (s.settle env f off skipping ackSkip fs).1 = [] := by
  have hopen : ∀ b : Bool, (b = true → f.size ≤ off) →
      (b = false → off < f.size ∨ env.cfg.resume.mode = .never) →
      s.Opens env f off ((s.started f off).openTarget env f off b fs) := by
    intro b htrue hfalse
    unfold RecvState.openTarget
    cases b with
    | true => exact .skipped (htrue rfl) _
    | false =>
        simp only [Bool.false_eq_true, if_false]
        split
        · exact .refused .io (by decide)
        · exact .target (hfalse rfl)
  unfold RecvState.settle
  dsimp only
  split
  · rename_i hmode
    unfold RecvState.validate
    rw [hv]
    by_cases hlong : ((s.started f off).targetPath env f).length ≥ maxPath * 2 + 8
    · simp only [hlong, if_true]
      exact ⟨.refused .invalidArg (by decide), trivial⟩
    · simp only [hlong, if_false, Option.map_none, Option.getD_none]
      exact ⟨hopen skipping hskip fun _ => Or.inr hmode, trivial⟩
  · refine ⟨hopen _ ?_ ?_, rfl⟩
    · intro h
      simpa using h
    · intro h
      left
      simpa using h

/-- No packet but the answer itself. -/
theorem FileRecv.settle (hv : env.validator = none) {f : RecvFile} {off : Nat}
    (hpick : s.Picks env fr f off) {skipping : Bool} (hskip : skipping = true → f.size ≤ off) (ackSkip : Bool) {q : Send}
    (hq : q.type.isBody = true → q = sendBare .dataAck 0) :
    FileRecv env s fr fs
      (q :: (s.settle env f off skipping ackSkip fs).1, (s.settle env f off skipping ackSkip fs).2)
      := by
  obtain ⟨hopens, hnil⟩ := RecvState.settle_opens (s := s) hv hskip ackSkip fs
  refine .opens hpick hopens ?_
  rw [hnil]
  intro p hp htype
  rw [List.mem_singleton.mp hp] at htype ⊢
  exact hq htype

/-- The call returns outside the data phase. -/
theorem FileRecv.stop (hstage : ∀ f, s.pc.stage ≠ .settled f) (st : Status) {sends : List Send}
    (hsends : Bodiless sends) : FileRecv env s fr fs (sends, s.ret st) :=
  .away hstage nofun rfl rfl (Or.inr ⟨st, rfl⟩) hsends nofun

theorem FileRecv.stay (hstage : ∀ f, s.pc.stage ≠ .settled f) :
    FileRecv env s fr fs ([], s) :=
  .away hstage hstage rfl rfl (Or.inl ⟨rfl, rfl⟩) bodiless_nil fun _ h => Or.inl h

theorem FileRecv.answerResume (hv : env.validator = none) {f : RecvFile}
    (hstage : s.pc.stage = .undecided f) : FileRecv env s fr fs (s.answerResume env f fs) := by
  have hout : ∀ g, s.pc.stage ≠ .settled g := by
    rw [hstage]
    exact nofun
  -- the four bytes of the action decide
  have hdec := determineResumeAction_cases env s.mtu (s.files f.path) f.size
  unfold RecvState.answerResume
  dsimp only
  split
  · rename_i hact
    refine .settle hv (.keeps hstage ?_) (fun _ => Nat.le_refl _) true (fun h => by cases h)
    rcases hdec with hd | hd | ⟨_, _, _, _, _, _, _, _, hd⟩
    · rw [hd] at hact
      cases hact
    · exact hd
    · rw [hd] at hact
      cases hact
  · rename_i hact
    refine .settle hv (.restarts hstage ?_) (fun h => by cases h) true (fun h => by cases h)
    rcases hdec with hd | hd | ⟨_, _, _, _, _, _, _, _, hd⟩
    · exact hd
    · rw [hd] at hact
      cases hact
    · rw [hd] at hact
      cases hact
  · rename_i hact
    exfalso
    rcases hdec with hd | hd | ⟨_, _, _, _, _, _, _, _, hd⟩
    all_goals
      rw [hd] at hact
      cases hact
  · exact .away hout nofun rfl rfl (Or.inl ⟨rfl, rfl⟩) (bodiless_one rfl) nofun
  · refine .stop hout _ ?_
    intro p hp
    rcases List.mem_cons.mp hp with rfl | hp
    · rfl
    · rw [List.mem_singleton.mp hp]
      rfl

theorem FileRecv.legacyStart (hv : env.validator = none) {f : RecvFile}
    (hpc : s.pc = .neverPeek f) : FileRecv env s fr fs (s.legacyStart env f fs) :=
  .settle hv (.peeks hpc) (fun h => by cases h) false fun _ => rfl

theorem FileRecv.answerVerify (hv : env.validator = none) {f : RecvFile} {resp : Bytes}
    {resumeOff : Nat} (hstage : s.pc.stage = .verifying f resp resumeOff) {frame : Frame}
    {p : Packet} (hfr : fr = some frame)
    (hp : controlFrame s.mtu wireVerifyReqPayloadSize frame = .ok p) (htype : p.type = .verify) :
    FileRecv env s fr fs (s.answerVerify env f resumeOff p.payload fs) := by
  have hout : ∀ g, s.pc.stage ≠ .settled g := by
    rw [hstage]
    exact nofun
  unfold RecvState.answerVerify
  split
  · exact .stop hout _ (bodiless_one rfl)
  · rename_i file hfile
    have hpick : ∀ {off : Nat},
        ((verifyVerdict env s.mtu file p.payload).1 = .ok ∧ off = resumeOff)
          ∨ ((verifyVerdict env s.mtu file p.payload).1 = .skipped ∧ off = f.size)
          ∨ ((verifyVerdict env s.mtu file p.payload).1 = .resumeVerify ∧ off = 0) →
        s.Picks env fr f off := fun hoff => .verdict hstage hfr hp htype hfile hoff
    dsimp only
    split
    · rename_i hok
      exact .settle hv (hpick (Or.inl ⟨hok, rfl⟩)) (fun h => by cases h) true
        (fun h => by cases h)
    · rename_i hskip
      exact .settle hv (hpick (Or.inr (Or.inl ⟨hskip, rfl⟩))) (fun _ => Nat.le_refl _) true
        (fun h => by cases h)
    · rename_i hok hskip
      refine .settle hv (hpick (Or.inr (Or.inr ⟨?_, rfl⟩))) (fun h => by cases h) true
        (fun h => by cases h)
      rcases verifyVerdict_cases env s.mtu file p.payload with hv | hv | hv
      · exact absurd hv hok
      · exact absurd hv hskip
      · exact hv

/-- **The receiver on a frame.** -/
theorem RecvState.onFrame_file (hv : env.validator = none) (s : RecvState) (frame : Frame)
    (fs : FsOutcome) : FileRecv env s (some frame) fs (s.onFrame env frame fs) := by
  unfold RecvState.onFrame
  split
  · rename_i hpc
    exact .stay (by rw [hpc]; intro g h; cases h)
  · rename_i hpc
    have hout : ∀ g, s.pc.stage ≠ .settled g := by
      rw [hpc]
      intro g h
      cases h
    unfold RecvState.onHelloFrame
    split
    · exact .stop hout _ bodiless_nil
    · split
      · exact .stop hout _ bodiless_nil
      · exact .stop hout _ bodiless_nil
      · split
        · exact .stay hout
        · dsimp only
          split
          · rename_i sends st herr
            obtain ⟨hnil, -⟩ := adoptPeerHello_error herr
            dsimp only at hnil
            rw [hnil]
            exact .stop hout _ bodiless_nil
          · rw [if_neg (by simp [missingFeatures, builtinFeatures])]
            exact .away hout (by intro g h; cases h) rfl rfl (Or.inl ⟨rfl, rfl⟩) (bodiless_one rfl)
              (by intro g h; cases h)
      · exact .stay hout
  · rename_i tries hpc
    have hout : ∀ g, s.pc.stage ≠ .settled g := by
      rw [hpc]
      intro g h
      cases h
    unfold RecvState.onMetaFrame
    split
    · exact .stop hout _ bodiless_nil
    · split
      · exact .away hout (by intro g h; cases h) rfl rfl (Or.inr ⟨.ok, rfl⟩) (bodiless_one rfl)
              (by intro g h; cases h)
      · exact .stop hout _ bodiless_nil
      · split
        · exact .stop hout _ bodiless_nil
        · -- SEND_META opens a file
          refine .away hout ?_ rfl rfl (Or.inl ⟨rfl, rfl⟩) bodiless_nil ?_
          · unfold RecvState.acceptMeta
            dsimp only
            split <;> (intro g h; cases h)
          · unfold RecvState.acceptMeta
            dsimp only
            split
            · rename_i hmode
              exact fun _ _ => Or.inr hmode
            · intro g h
              cases h
      · exact .stop hout _ bodiless_nil
  · rename_i f hpc
    have hstage : s.pc.stage = .undecided f := by rw [hpc]; rfl
    have hout : ∀ g, s.pc.stage ≠ .settled g := by
      rw [hstage]
      intro g h
      cases h
    split
    · split
      · exact .answerResume hv hstage
      · exact .legacyStart hv hpc
    · split
      · exact .stop hout _ bodiless_nil
      · exact .legacyStart hv hpc
  · rename_i f tries hpc
    have hstage : s.pc.stage = .undecided f := by rw [hpc]; rfl
    have hout : ∀ g, s.pc.stage ≠ .settled g := by
      rw [hstage]
      intro g h
      cases h
    split
    · exact .stop hout _ bodiless_nil
    · split
      · exact .answerResume hv hstage
      · exact .stop hout _ bodiless_nil
      · exact .stop hout _ bodiless_nil
      · exact .stay hout
  · rename_i f tries resp off hpc
    have hstage : s.pc.stage = .verifying f resp off := by rw [hpc]; rfl
    have hout : ∀ g, s.pc.stage ≠ .settled g := by
      rw [hstage]
      intro g h
      cases h
    split
    · exact .stop hout _ bodiless_nil
    · rename_i p hp
      split
      · exact .away hout hout rfl rfl (Or.inl ⟨rfl, rfl⟩) (bodiless_one rfl) fun _ h => Or.inl h
      · rename_i htype
        exact .answerVerify hv hstage rfl hp htype
      · exact .stay hout
  · rename_i f d hpc
    exact .takes hpc rfl
  · rename_i f tries hpc
    have hgives : ∀ st : Status, FileRecv env s (some frame) fs ([], s.ret st) :=
      fun st => .gives hpc rfl rfl rfl rfl bodiless_nil
    split
    · exact hgives _
    · rename_i p hp
      split
      · rename_i hdone
        exact .ends hpc rfl (by rw [← recvFrame_type hp, hdone])
      · exact .gives hpc rfl rfl rfl rfl (bodiless_one rfl)
      · exact hgives _
      · exact .idles hpc

/-- **The receiver on a timeout.** -/
theorem RecvState.onTimeout_file (hv : env.validator = none) (s : RecvState)
    (timer : HelloTimer) (fs : FsOutcome) :
    FileRecv env s none fs (s.onTimeout env timer fs) := by
  -- one try less
  have htry : ∀ {s' : RecvState}, (∀ f, s.pc.stage ≠ .settled f) → s'.pc.stage = s.pc.stage →
      s'.files = s.files → s'.starts = s.starts → s'.completed = s.completed → s'.log = s.log →
      (∀ f, s'.pc ≠ .neverPeek f) → FileRecv env s none fs ([], s') := by
    intro s' hout hstage hfiles hstarts hcompleted hlog hpeek
    refine .away hout ?_ hfiles hstarts (Or.inl ⟨hcompleted, hlog⟩) bodiless_nil
      fun f hf => absurd hf (hpeek f)
    rw [hstage]
    exact hout
  unfold RecvState.onTimeout
  split
  · rename_i hpc
    exact .stay (by rw [hpc]; exact nofun)
  · rename_i hpc
    have hout : ∀ g, s.pc.stage ≠ .settled g := by
      rw [hpc]
      exact nofun
    split
    · exact .stop hout _ bodiless_nil
    · exact .stay hout
  · rename_i tries hpc
    have hout : ∀ g, s.pc.stage ≠ .settled g := by
      rw [hpc]
      exact nofun
    split
    · exact .stop hout _ bodiless_nil
    · exact htry hout (by rw [hpc]; rfl) rfl rfl rfl rfl nofun
  · rename_i f hpc
    exact .legacyStart hv hpc
  · rename_i f tries hpc
    have hout : ∀ g, s.pc.stage ≠ .settled g := by
      rw [hpc]
      exact nofun
    split
    · exact .stop hout _ bodiless_nil
    · exact htry hout (by rw [hpc]; rfl) rfl rfl rfl rfl nofun
  · rename_i f tries resp off hpc
    have hout : ∀ g, s.pc.stage ≠ .settled g := by
      rw [hpc]
      exact nofun
    split
    · exact .stop hout _ bodiless_nil
    · exact htry hout (by rw [hpc]; rfl) rfl rfl rfl rfl nofun
  · rename_i f d hpc
    exact .pauses hpc rfl
  · rename_i f tries hpc
    split
    · exact .gives hpc rfl rfl rfl rfl bodiless_nil
    · exact .idles hpc

end Receiver

end ValProtocol
