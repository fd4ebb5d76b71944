/-
  ValProtocol.Session.LoneReceiver
  ────────────────────────────────
  A receiving session against an arbitrary peer: `val_receive_files` is
  called with any directory, any frame with a valid CRC may arrive, any wait
  may time out.

    • `RecvState.react_effect` — every step leaves the filesystem alone and
      opens nothing, asks for the tail of the local file, opens the target
      of the current file, or is one round of the data loop (`RecvEffect`).
-/
import ValProtocol.Data.HighWater
import ValProtocol.Lib.Lts
import ValProtocol.Session.Receiver

namespace ValProtocol

/-! ## §1. Inputs. -/

/-- What happens to the session next. -/
inductive RecvInput where
  | call (dir : Bytes)
  | frame (fr : Frame) (fs : FsOutcome)
  | timeout (timer : HelloTimer) (fs : FsOutcome)
  deriving DecidableEq

/-- The packets sent and the next state; the application calls only between
calls, frames and timeouts reach only a call in progress. -/
def RecvState.react (env : RecvEnv) (s : RecvState) : RecvInput → Option (List Send × RecvState)
  | .call dir => if s.pc = .idle then some ([], s.call env dir) else none
  | .frame fr fs => if s.pc = .idle then none else some (s.onFrame env fr fs)
  | .timeout timer fs => if s.pc = .idle then none else some (s.onTimeout env timer fs)

/-- One step of a run. -/
def RecvState.step (env : RecvEnv) (s : RecvState) (i : RecvInput) : Option RecvState :=
  (s.react env i).map Prod.snd

/-- The file that is open for writing. -/
def RecvPc.openFile : RecvPc → Option RecvFile
  | .dataWait f _ => some f
  | _ => none

theorem RecvPc.openFile_eq_some {pc : RecvPc} {f : RecvFile} :
    pc.openFile = some f ↔ ∃ d, pc = .dataWait f d := by
  cases pc <;> simp [RecvPc.openFile]

/-- A call starts without an open file. -/
theorem RecvState.call_openFile (env : RecvEnv) (s : RecvState) (dir : Bytes) :
    (s.call env dir).pc.openFile = none := by
  unfold RecvState.call
  dsimp only
  split <;> rfl

/-- A round of the data loop stays with its file or leaves the loop. -/
theorem RecvState.onRecvResult_openFile {env : RecvEnv} {s : RecvState} {f g : RecvFile}
    {r : List Send × RecvResult}
    (h : (s.onRecvResult env f r).2.pc.openFile = some g) : g = f := by
  unfold RecvState.onRecvResult at h
  split at h
  · cases h
    rfl
  · cases h
  · cases h

theorem RecvState.onRecvResult_dir (env : RecvEnv) (s : RecvState) (f : RecvFile)
    (r : List Send × RecvResult) :
    (s.onRecvResult env f r).2.outputDirectory = s.outputDirectory := by
  unfold RecvState.onRecvResult
  split <;> rfl

/-- A receiver that starts every file at zero. -/
def plainReceiver : RecvEnv where
  cfg := quickDegrade
  provider := none
  pathSep := 0x2F
  validator := none

/-- A sender's frames up to its RESUME_REQ for a file of this name and size,
behind a call that stores into `dir`. -/
def announcing (cfg : Config) (dir name : Bytes) (size : Nat) : List RecvInput :=
  let metaPayload := serializeMeta ⟨nulField maxFilename name, nulField maxPath [], size⟩
  [.call dir, .frame (sendHello cfg cfg.packetSize).frame .good,
    .frame (⟨.sendMeta, metaPayload, 0, true⟩ : Send).frame .good,
    .frame (sendBare .resumeReq 0).frame .good]

/-! ## §2. What a step does to files. -/

/-- One round of the data loop: its locals, what arrived, how it ends. -/
inductive DataRound (cfg : Config) (mtu : Nat) (d : RecvData) : RecvInput →
    List Send × RecvResult → Prop where
  | frame (fr : Frame) (fs : FsOutcome) :
      DataRound cfg mtu d (.frame fr fs) (onDataFrame cfg mtu d fr fs.short)
  | timeout (timer : HelloTimer) (fs : FsOutcome) :
      DataRound cfg mtu d (.timeout timer fs) (onDataTimeout d)

/-- **What one step does to files.** -/
inductive RecvEffect (env : RecvEnv) (s : RecvState) (i : RecvInput) :
    List Send × RecvState → Prop where
  /-- the application calls -/
  | called {dir : Bytes} (hcall : i = .call dir) (hidle : s.pc = .idle) :
      RecvEffect env s i ([], s.call env dir)
  /-- no file is written, none is open behind the step -/
  | aside {sends : List Send} {s' : RecvState} (files_eq : s'.files = s.files)
      (dir_eq : s'.outputDirectory = s.outputDirectory) (closed : ∀ f d, s'.pc ≠ .dataWait f d)
      (waits : ∀ f n resp off, s'.pc = .verifyWait f n resp off →
        ∃ n', s.pc = .verifyWait f n' resp off) : RecvEffect env s i (sends, s')
  /-- the sender is asked for the tail of the local file -/
  | asks {sends : List Send} {s' : RecvState} {f : RecvFile} {n : Nat} {resp file : Bytes}
      (files_eq : s'.files = s.files) (dir_eq : s'.outputDirectory = s.outputDirectory)
      (hphase : s.pc.phase = .file f)
      (hfile : s.files f.path = some file) (hsize : file.length < 2 ^ 63)
      (hle : file.length ≤ f.size) (hpc : s'.pc = .verifyWait f n resp file.length) :
      RecvEffect env s i (sends, s')
  /-- the target file is opened for writing -/
  | opens {sends : List Send} {s' : RecvState} {f : RecvFile} {off : Nat}
      (files_eq : s'.files = s.files) (dir_eq : s'.outputDirectory = s.outputDirectory)
      (hphase : s.pc.phase = .file f)
      (hpc : s'.pc = .dataWait f
        (initRecv env.cfg (if off = 0 then [] else (s.files f.path).getD []) off f.size))
      (horigin : off = 0 ∨ ∃ n resp, s.pc = .verifyWait f n resp off)
      (hverdict : env.cfg.resume.mode = .never →
        ∃ sends' ackSkip, s.validate env f ackSkip = (sends', .ok false)) :
      RecvEffect env s i (sends, s')
  /-- a round of the data loop -/
  | round {f : RecvFile} {d : RecvData} {r : List Send × RecvResult} (hpc : s.pc = .dataWait f d)
      (hround : DataRound env.cfg s.mtu d i r) : RecvEffect env s i (s.onRecvResult env f r)

/-- The waits behind a decision about the local file. -/
def RecvPc.holdsFile : RecvPc → Bool
  | .dataWait _ _ | .verifyWait _ _ _ _ => true
  | _ => false

section Effects

variable {env : RecvEnv} {s : RecvState} {i : RecvInput}

/-- A wait that has no local file in view. -/
theorem RecvEffect.apart {sends : List Send} {s' : RecvState} (hfiles : s'.files = s.files)
    (hdir : s'.outputDirectory = s.outputDirectory) (hpc : s'.pc.holdsFile = false) :
    RecvEffect env s i (sends, s') := by
  refine .aside hfiles hdir ?_ ?_
  · intro f d h
    rw [h] at hpc
    cases hpc
  · intro f n resp off h
    rw [h] at hpc
    cases hpc

/-- A call that returns has closed everything. -/
theorem RecvEffect.ret {sends : List Send} {s₁ : RecvState} (hfiles : s₁.files = s.files)
    (hdir : s₁.outputDirectory = s.outputDirectory) (st : Status) :
    RecvEffect env s i (sends, s₁.ret st) :=
  .apart hfiles hdir rfl

/-- Validation does not depend on the callbacks made before it. -/
theorem RecvState.validate_started (env : RecvEnv) (s : RecvState) (f : RecvFile) (off : Nat)
    (b : Bool) : (s.started f off).validate env f b = s.validate env f b := rfl

/-- Behind the negotiation. -/
theorem RecvEffect.openTarget {f : RecvFile} {s₁ : RecvState} {sends : List Send} {off : Nat}
    {skipping : Bool} (hphase : s.pc.phase = .file f) (hfiles : s₁.files = s.files)
    (hdir : s₁.outputDirectory = s.outputDirectory)
    (horigin : skipping = false → off = 0 ∨ ∃ n resp, s.pc = .verifyWait f n resp off)
    (hverdict : skipping = false → env.cfg.resume.mode = .never →
      ∃ sends' ackSkip, s.validate env f ackSkip = (sends', .ok false)) (fs : FsOutcome) :
    RecvEffect env s i (sends, s₁.openTarget env f off skipping fs) := by
  unfold RecvState.openTarget
  split
  · exact .apart hfiles hdir rfl
  · rename_i hskip
    have hskip' : skipping = false := by simpa using hskip
    split
    · exact .ret hfiles hdir .io
    · refine .opens hfiles hdir hphase ?_ (horigin hskip') (hverdict hskip')
      dsimp only
      rw [hfiles]

/-- The start offset is settled at 0, at the offset of a good VERIFY, or the
file is skipped. -/
theorem RecvEffect.settle {f : RecvFile} {q : Send} {off : Nat} {skipping : Bool}
    (hphase : s.pc.phase = .file f)
    (horigin : (off = 0 ∨ ∃ n resp, s.pc = .verifyWait f n resp off)
      ∨ (off = f.size ∧ skipping = true))
    (ackSkip : Bool) (fs : FsOutcome) :
    RecvEffect env s i
      (q :: (s.settle env f off skipping ackSkip fs).1,
        (s.settle env f off skipping ackSkip fs).2) := by
  have hfiles : (s.started f off).files = s.files := rfl
  have hdir : (s.started f off).outputDirectory = s.outputDirectory := rfl
  unfold RecvState.settle
  dsimp only
  split
  · rename_i hmode
    split
    · exact .ret hfiles hdir _
    · dsimp only
      refine .openTarget hphase ?_ ?_ (fun h => absurd h (by decide))
        (fun h => absurd h (by decide)) fs
      all_goals cases ackSkip <;> rfl
    · rename_i sends hv
      rw [RecvState.validate_started] at hv
      dsimp only
      refine .openTarget hphase hfiles hdir ?_ (fun _ _ => ⟨sends, ackSkip, hv⟩) fs
      intro hskip
      exact horigin.resolve_right (fun h => by rw [h.2] at hskip; cases hskip)
  · rename_i hmode
    refine .openTarget hphase hfiles hdir ?_ (fun _ h => absurd h hmode) fs
    intro hskip
    refine horigin.resolve_right (fun h => ?_)
    rw [h.1] at hskip
    simp at hskip

theorem RecvEffect.answerResume {f : RecvFile} (hphase : s.pc.phase = .file f) (fs : FsOutcome) :
    RecvEffect env s i (s.answerResume env f fs) := by
  unfold RecvState.answerResume
  dsimp only
  rcases determineResumeAction_cases env s.mtu (s.files f.path) f.size with
    h | h | ⟨file, crc, hfile, -, hle, hsize, -, -, h⟩
  · rw [h]
    exact .settle hphase (Or.inl (Or.inl rfl)) _ fs
  · rw [h]
    exact .settle hphase (Or.inr ⟨rfl, rfl⟩) _ fs
  · rw [h]
    exact .asks rfl rfl hphase hfile hsize hle rfl

theorem RecvEffect.legacyStart {f : RecvFile} (hphase : s.pc.phase = .file f) (fs : FsOutcome) :
    RecvEffect env s i (s.legacyStart env f fs) :=
  .settle hphase (Or.inl (Or.inl rfl)) _ fs

theorem RecvEffect.answerVerify {f : RecvFile} {n off : Nat} {resp : Bytes}
    (hpc : s.pc = .verifyWait f n resp off) (payload : Bytes) (fs : FsOutcome) :
    RecvEffect env s i (s.answerVerify env f off payload fs) := by
  have hphase : s.pc.phase = .file f := by rw [hpc]; rfl
  unfold RecvState.answerVerify
  split
  · exact .ret rfl rfl _
  · dsimp only
    split
    · exact .settle hphase (Or.inl (Or.inr ⟨n, resp, hpc⟩)) _ fs
    · exact .settle hphase (Or.inr ⟨rfl, rfl⟩) _ fs
    · exact .settle hphase (Or.inl (Or.inl rfl)) _ fs

/-- A wait that is not the data loop goes on. -/
theorem RecvEffect.stay {sends : List Send} (h : ∀ f d, s.pc ≠ .dataWait f d) :
    RecvEffect env s i (sends, s) :=
  .aside rfl rfl h (fun _ n _ _ hpc => ⟨n, hpc⟩)

/-- The receiver on a frame. -/
theorem RecvEffect.onFrame (env : RecvEnv) (s : RecvState) (fr : Frame) (fs : FsOutcome) :
    RecvEffect env s (.frame fr fs) (s.onFrame env fr fs) := by
  unfold RecvState.onFrame
  split
  · rename_i hpc
    exact .stay (fun f d h => by rw [hpc] at h; cases h)
  · -- the handshake touches no file
    rename_i hpc
    have stay : RecvEffect env s (.frame fr fs) ([], s) :=
      .stay (fun f d h => by rw [hpc] at h; cases h)
    unfold RecvState.onHelloFrame
    split
    · exact .ret rfl rfl _
    · split
      · exact .ret rfl rfl _
      · exact .ret rfl rfl _
      · split
        · exact stay
        · dsimp only
          split
          · exact .ret rfl rfl _
          · split
            · exact .ret rfl rfl _
            · exact .apart rfl rfl rfl
      · exact stay
  · -- the metadata wait
    unfold RecvState.onMetaFrame
    split
    · exact .ret rfl rfl _
    · split
      · exact .apart rfl rfl rfl
      · exact .ret rfl rfl _
      · split
        · exact .ret rfl rfl _
        · unfold RecvState.acceptMeta
          split
          all_goals exact .apart rfl rfl rfl
      · exact .ret rfl rfl _
  · rename_i f hpc
    have hphase : s.pc.phase = .file f := by rw [hpc]; rfl
    split
    · split
      · exact .answerResume hphase fs
      · exact .legacyStart hphase fs
    · split
      · exact .ret rfl rfl _
      · exact .legacyStart hphase fs
  · rename_i f tries hpc
    have hphase : s.pc.phase = .file f := by rw [hpc]; rfl
    split
    · exact .ret rfl rfl _
    · split
      · exact .answerResume hphase fs
      · exact .ret rfl rfl _
      · exact .ret rfl rfl _
      · exact .stay (fun f d h => by rw [hpc] at h; cases h)
  · rename_i f tries resp off hpc
    split
    · exact .ret rfl rfl _
    · split
      · exact .stay (fun f d h => by rw [hpc] at h; cases h)
      · exact .answerVerify hpc _ fs
      · exact .stay (fun f d h => by rw [hpc] at h; cases h)
  · rename_i f d hpc
    exact .round hpc (.frame fr fs)
  · split
    · exact .ret rfl rfl _
    · split
      · exact .apart rfl rfl rfl
      · exact .apart rfl rfl rfl
      · exact .ret rfl rfl _
      · exact .apart rfl rfl rfl

/-- The receiver on a timeout. -/
theorem RecvEffect.onTimeout (env : RecvEnv) (s : RecvState) (timer : HelloTimer)
    (fs : FsOutcome) : RecvEffect env s (.timeout timer fs) (s.onTimeout env timer fs) := by
  unfold RecvState.onTimeout
  split
  · rename_i hpc
    exact .stay (fun f d h => by rw [hpc] at h; cases h)
  · rename_i hpc
    split
    · exact .ret rfl rfl _
    · exact .stay (fun f d h => by rw [hpc] at h; cases h)
  · split
    · exact .ret rfl rfl _
    · exact .apart rfl rfl rfl
  · rename_i f hpc
    exact .legacyStart (by rw [hpc]; rfl) fs
  · split
    · exact .ret rfl rfl _
    · exact .apart rfl rfl rfl
  · rename_i f tries resp off hpc
    split
    · exact .ret rfl rfl _
    · refine .aside rfl rfl (fun _ _ h => by cases h) ?_
      intro f' n resp' off' h
      cases h
      exact ⟨tries, hpc⟩
  · rename_i f d hpc
    exact .round hpc (.timeout timer fs)
  · split
    · exact .ret rfl rfl _
    · exact .apart rfl rfl rfl

end Effects

/-- **Every step has one of the effects.** -/
theorem RecvState.react_effect {env : RecvEnv} {s : RecvState} {i : RecvInput}
    {r : List Send × RecvState} (h : s.react env i = some r) : RecvEffect env s i r := by
  cases i with
  | call dir =>
      simp only [RecvState.react] at h
      split at h
      · rename_i hidle
        cases h
        exact .called rfl hidle
      · cases h
  | frame fr fs =>
      simp only [RecvState.react] at h
      split at h
      · cases h
      · cases h
        exact .onFrame env s fr fs
  | timeout timer fs =>
      simp only [RecvState.react] at h
      split at h
      · cases h
      · cases h
        exact .onTimeout env s timer fs

/-- While a file is open every step is a round of its data loop. -/
theorem RecvState.react_round {env : RecvEnv} {s : RecvState} {i : RecvInput}
    {r : List Send × RecvState} {f : RecvFile} {d : RecvData} (hpc : s.pc = .dataWait f d)
    (h : s.react env i = some r) :
    ∃ q, DataRound env.cfg s.mtu d i q ∧ r = s.onRecvResult env f q := by
  cases i with
  | call dir =>
      simp only [RecvState.react, hpc] at h
      cases h
  | frame fr fs =>
      simp only [RecvState.react, RecvState.onFrame, hpc] at h
      cases h
      exact ⟨_, .frame fr fs, rfl⟩
  | timeout timer fs =>
      simp only [RecvState.react, RecvState.onTimeout, hpc] at h
      cases h
      exact ⟨_, .timeout timer fs, rfl⟩

/-- A file in hand was in hand before, or is announced by this step. -/
theorem RecvStep.file {env : RecvEnv} {s : RecvState} {last : Option Frame}
    {r : List Send × RecvState} (h : RecvStep env s last r) {f : RecvFile}
    (hphase : r.2.pc.phase = .file f) :
    s.pc.phase = .file f ∨ ∃ payload, f = s.incomingFile env payload := by
  cases h with
  | waits hp _ => exact Or.inl (hp ▸ hphase)
  | within hp hp' _ _ => exact Or.inl (by rw [hp, ← hp', hphase])
  | stopped _ _ => cases hphase
  | failed _ _ _ _ => cases hphase
  | greeted _ _ _ hp' =>
      rw [hp'] at hphase
      cases hphase
  | opened _ _ _ _ _ =>
      rw [RecvState.acceptMeta_phase] at hphase
      cases hphase
      exact Or.inr ⟨_, rfl⟩
  | filed _ _ _ _ => cases hphase
  | finished _ _ _ => cases hphase

/-- A file in hand behind a step. -/
theorem RecvState.react_file {env : RecvEnv} {s : RecvState} {i : RecvInput}
    {r : List Send × RecvState} (h : s.react env i = some r)
    {f : RecvFile} (hphase : r.2.pc.phase = .file f) :
    s.pc.phase = .file f ∨ ∃ payload, f = s.incomingFile env payload := by
  cases i with
  | call dir =>
      simp only [RecvState.react] at h
      split at h
      · cases h
        unfold RecvState.call at hphase
        dsimp only at hphase
        split at hphase <;> cases hphase
      · cases h
  | frame fr fs =>
      simp only [RecvState.react] at h
      split at h
      · cases h
      · cases h
        exact (RecvState.onFrame_step env s fr fs).file hphase
  | timeout timer fs =>
      simp only [RecvState.react] at h
      split at h
      · cases h
      · cases h
        exact (RecvState.onTimeout_step env s timer fs).file hphase

/-- The packet size stays a legal one. -/
theorem RecvState.react_mtu {env : RecvEnv} {s : RecvState} {i : RecvInput}
    {r : List Send × RecvState} (h : s.react env i = some r) (hmtu : minPacketSize ≤ s.mtu) :
    minPacketSize ≤ r.2.mtu := by
  have hstep : ∀ {last : Option Frame} {r : List Send × RecvState},
      RecvStep env s last r → minPacketSize ≤ r.2.mtu := by
    intro last r hs
    cases hs with
    | waits _ same => exact same.mtu_eq ▸ hmtu
    | within _ _ same _ => exact same.mtu_eq ▸ hmtu
    | stopped same _ => exact le_of_le_of_eq hmtu same.mtu_eq.symm
    | failed _ same _ _ => exact le_of_le_of_eq hmtu same.mtu_eq.symm
    -- only the handshake changes the packet size
    | greeted _ _ _ _ _ _ _ _ hmin _ => exact hmin
    | opened _ _ _ _ _ => exact hmtu
    | filed _ _ _ same => exact le_of_le_of_eq hmtu same.mtu_eq.symm
    | finished _ _ _ => exact hmtu
  cases i with
  | call dir =>
      simp only [RecvState.react] at h
      split at h
      · cases h
        exact hmtu
      · cases h
  | frame fr fs =>
      simp only [RecvState.react] at h
      split at h
      · cases h
      · cases h
        exact hstep (RecvState.onFrame_step env s fr fs)
  | timeout timer fs =>
      simp only [RecvState.react] at h
      split at h
      · cases h
      · cases h
        exact hstep (RecvState.onTimeout_step env s timer fs)

end ValProtocol
