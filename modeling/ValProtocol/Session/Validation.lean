/-
  ValProtocol.Session.Validation
  ──────────────────────────────
  Is the verdict of the metadata validator enforced?  The four paths of
  `val_internal_receive_files` (`src/val_receiver.c` lines 344-743) that end
  in the `fopen` for writing.

  The validator is consulted on the three `VAL_RESUME_NEVER` paths only, and
  there a value outside the enum passes as an acceptance: the status of
  `val_handle_validation_action` is dropped.

    • `validator_enforced` — with `VAL_RESUME_NEVER` and a validator that
      answers with one of the three enumerators, a file is open for writing
      only after an acceptance, and nothing but such a file is written,
    • `validator_bypassed` — with `VAL_RESUME_TAIL` a file is opened whose
      validator says abort, and with `VAL_RESUME_NEVER` one whose validator
      says 7.
-/
import ValProtocol.Session.LoneReceiver

namespace ValProtocol

/-! ## §1. Verdicts. -/

/-- One of the three enumerators. -/
def ValidationAction.isNamed : ValidationAction → Bool
  | .other _ => false
  | _ => true

/-- `val_validate_metadata` on the file at hand; without a validator every
file is accepted. -/
def RecvState.verdict (env : RecvEnv) (s : RecvState) (f : RecvFile) : ValidationAction :=
  (env.validator.map (fun v => v f.announced (s.targetPath env f))).getD .accept

/-- Validation that lets the file through was an acceptance, or a value
outside the enum. -/
theorem RecvState.validate_passes {env : RecvEnv} {s : RecvState} {f : RecvFile} {b : Bool}
    {sends : List Send} (h : s.validate env f b = (sends, .ok false))
    (hnamed : (s.verdict env f).isNamed = true) : s.verdict env f = .accept := by
  unfold RecvState.validate at h
  split at h
  · cases h
  · rw [← RecvState.verdict] at h
    cases hv : s.verdict env f with
    | accept => rfl
    | skip =>
        rw [hv] at h
        cases h
    | abort =>
        rw [hv] at h
        cases h
    | other n =>
        rw [hv] at hnamed
        cases hnamed

/-! ## §2. Runs. -/

/-- The file open for writing has been accepted. -/
def RecvState.Vetted (env : RecvEnv) (s : RecvState) : Prop :=
  ∀ f, s.pc.openFile = some f → s.verdict env f = .accept

theorem RecvState.verdict_congr {env : RecvEnv} {s s' : RecvState}
    (hdir : s'.outputDirectory = s.outputDirectory) (f : RecvFile) :
    s'.verdict env f = s.verdict env f := by
  unfold RecvState.verdict RecvState.targetPath
  rw [hdir]

/-- One step keeps to accepted files. -/
theorem RecvState.Vetted.step {env : RecvEnv} (hmode : env.cfg.resume.mode = .never)
    {s : RecvState} {i : RecvInput} {r : List Send × RecvState} (h : s.Vetted env)
    (hnamed : ∀ f, s.pc.phase = .file f → (s.verdict env f).isNamed = true)
    (hreact : s.react env i = some r) : r.2.Vetted env := by
  intro f hopen
  cases RecvState.react_effect hreact with
  | called _ _ =>
      rw [RecvState.call_openFile] at hopen
      cases hopen
  | aside _ _ closed _ =>
      obtain ⟨d, hpc⟩ := RecvPc.openFile_eq_some.mp hopen
      exact absurd hpc (closed f d)
  | asks _ _ _ _ _ _ hask =>
      rw [hask] at hopen
      cases hopen
  | opens _ hdir hphase hpc _ hverdict =>
      rw [hpc] at hopen
      cases hopen
      obtain ⟨sends, ackSkip, hvalidate⟩ := hverdict hmode
      rw [RecvState.verdict_congr hdir]
      exact RecvState.validate_passes hvalidate (hnamed f hphase)
  | round hwait _ =>
      obtain rfl := RecvState.onRecvResult_openFile hopen
      rw [RecvState.verdict_congr (RecvState.onRecvResult_dir env s _ _)]
      apply h
      rw [hwait]
      rfl

/-- Only the file open for writing changes. -/
theorem RecvState.react_writes {env : RecvEnv} {s : RecvState} {i : RecvInput}
    {r : List Send × RecvState} (hreact : s.react env i = some r) {path : Bytes}
    (hne : r.2.files path ≠ s.files path) : ∃ f, s.pc.openFile = some f ∧ f.path = path := by
  cases RecvState.react_effect hreact with
  | called _ _ => exact absurd rfl hne
  | aside files_eq _ _ _ => exact absurd (congrFun files_eq path) hne
  | asks files_eq _ _ _ _ _ _ => exact absurd (congrFun files_eq path) hne
  | opens files_eq _ _ _ _ _ => exact absurd (congrFun files_eq path) hne
  | @round f d r hwait _ =>
      refine ⟨f, by rw [hwait]; rfl, ?_⟩
      by_contra hpath
      apply hne
      unfold RecvState.onRecvResult
      split
      · rfl
      · exact Function.update_of_ne (fun h => hpath h.symm) _ _
      · exact Function.update_of_ne (fun h => hpath h.symm) _ _

/-- **The verdict is enforced** with `VAL_RESUME_NEVER`, as long as the
validator answers with an enumerator: in every reached state the file open for
writing has been accepted, and the next step writes no other file. -/
theorem validator_enforced {env : RecvEnv} (hmode : env.cfg.resume.mode = .never)
    {files : Bytes → Option Bytes} {s : RecvState}
    (hreach : Lts.Reach (RecvState.step env)
      (fun s _ => ∀ f, s.pc.phase = .file f → (s.verdict env f).isNamed = true)
      (RecvState.fresh env.cfg files) s) :
    (∀ f, s.pc.openFile = some f → s.verdict env f = .accept)
    ∧ ∀ i r, s.react env i = some r → ∀ path, r.2.files path ≠ s.files path →
        ∃ f, s.pc.openFile = some f ∧ f.path = path ∧ s.verdict env f = .accept := by
  have hvetted : s.Vetted env := by
    apply hreach.invariant (I := fun s => s.Vetted env)
    · intro f hopen
      cases hopen
    · intro s i s' hs hnamed hstep
      obtain ⟨r, hreact, rfl⟩ := Option.map_eq_some_iff.mp hstep
      exact hs.step hmode hnamed hreact
  refine ⟨hvetted, ?_⟩
  intro i r hreact path hne
  obtain ⟨f, hopen, hpath⟩ := RecvState.react_writes hreact hne
  exact ⟨f, hopen, hpath, hvetted f hopen⟩

/-! ## §3. Runs that end in the data loop. -/

/-- A receiver with this resume mode and this validator. -/
def guarded (mode : ResumeMode) (v : MetaPayload → Bytes → ValidationAction) : RecvEnv where
  cfg := { quickDegrade with resume := ⟨mode, 0, 0, false⟩ }
  provider := none
  pathSep := 47
  validator := some v

/-- The verdict on the file that is open for writing. -/
def RecvState.openVerdict (env : RecvEnv) (s : RecvState) : Option ValidationAction :=
  s.pc.openFile.map (s.verdict env)

/-- A validator that accepts files of at most 100 bytes and skips the rest. -/
def atMost100 (m : MetaPayload) (_path : Bytes) : ValidationAction :=
  if m.fileSize ≤ 100 then .accept else .skip

theorem validator_enforced_small :
    ∃ s : RecvState, s.openVerdict (guarded .never atMost100) = some .accept
      ∧ ((∀ f, s.pc.openFile = some f → s.verdict (guarded .never atMost100) f = .accept)
        ∧ ∀ i r, s.react (guarded .never atMost100) i = some r →
          ∀ path, r.2.files path ≠ s.files path →
            ∃ f, s.pc.openFile = some f ∧ f.path = path
              ∧ s.verdict (guarded .never atMost100) f = .accept) := by
  obtain ⟨s, hreach, hopen⟩ := Lts.Reach.exists_of_foldlM
    (RecvState.step (guarded .never atMost100)) (fun _ _ => true)
    (RecvState.fresh (guarded .never atMost100).cfg fun _ => none)
    (RecvState.openVerdict (guarded .never atMost100)) (announcing quickDegrade [100] [97] 5)
    (show _ = some (some .accept) by decide +kernel)
  refine ⟨s, hopen, validator_enforced rfl (hreach.mono ?_)⟩
  intro s _ _ f _
  show (if f.announced.fileSize ≤ 100 then ValidationAction.accept else .skip).isNamed = true
  split <;> rfl

/-- **Two ways past the validator**: TAIL opens a file it would abort, NEVER
opens a file it answers with a value outside the enum. -/
theorem validator_bypassed :
    (∃ s, Lts.Reach (RecvState.step (guarded .tail fun _ _ => .abort)) (fun _ _ => True)
        (RecvState.fresh (guarded .tail fun _ _ => .abort).cfg fun _ => none) s
      ∧ s.openVerdict (guarded .tail fun _ _ => .abort) = some .abort)
    ∧ ∃ s, Lts.Reach (RecvState.step (guarded .never fun _ _ => .other 7)) (fun _ _ => True)
        (RecvState.fresh (guarded .never fun _ _ => .other 7).cfg fun _ => none) s
      ∧ s.openVerdict (guarded .never fun _ _ => .other 7) = some (.other 7) := by
  constructor
  · obtain ⟨s, hreach, hopen⟩ := Lts.Reach.exists_of_foldlM
      (RecvState.step (guarded .tail fun _ _ => .abort)) (fun _ _ => true)
      (RecvState.fresh (guarded .tail fun _ _ => .abort).cfg fun _ => none)
      (RecvState.openVerdict (guarded .tail fun _ _ => .abort))
      (announcing quickDegrade [100] [97] 5) (show _ = some (some .abort) by decide +kernel)
    exact ⟨s, hreach.mono (fun _ _ _ => trivial), hopen⟩
  · obtain ⟨s, hreach, hopen⟩ := Lts.Reach.exists_of_foldlM
      (RecvState.step (guarded .never fun _ _ => .other 7)) (fun _ _ => true)
      (RecvState.fresh (guarded .never fun _ _ => .other 7).cfg fun _ => none)
      (RecvState.openVerdict (guarded .never fun _ _ => .other 7))
      (announcing quickDegrade [100] [97] 5) (show _ = some (some (.other 7)) by decide +kernel)
    exact ⟨s, hreach.mono (fun _ _ _ => trivial), hopen⟩

end ValProtocol
