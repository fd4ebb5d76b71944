/-
  ValProtocol.Lib.Uploads
  ───────────────────────
  Storing a list of files one after the other.

  A job is a target and the bytes it is to hold.  The store works through a
  list of jobs in order; for each one it keeps what is there, writes the bytes
  from an offset on behind what it keeps, or is interrupted after some of
  them, which ends the run.  A policy says which of these is allowed for which
  local file.

    • `Store.frame`    — a path that is no target is never touched,
    • `Store.progress` — under a policy that continues only what is a prefix,
      and with targets that are all different, every target holds a prefix of
      its bytes at every moment and all of them once its job is done,
    • `Store.retained` — under one that also gives up no prefix, nothing that
      was there is lost.
-/
import Mathlib.Logic.Function.Basic
import ValProtocol.Lib.Lts

namespace Uploads

universe u v

variable {π : Type u} {α : Type v}

/-! ## §1. Jobs, stores and steps. -/

/-- Where a file goes and what it holds. -/
structure Job (π : Type u) (α : Type v) where
  target : π
  bytes : List α

/-- The files, the number of jobs done, and whether a write was cut short. -/
structure Store (π : Type u) (α : Type v) where
  files : π → Option (List α)
  count : Nat
  torn : Bool

/-- What happens to the next job. -/
inductive Act where
  | keep
  | put (off : Nat)
  | tear (off n : Nat)
  deriving DecidableEq

/-- Is the write cut short? -/
def Act.isTear : Act → Bool
  | .tear _ _ => true
  | _ => false

/-- What stays in front of the bytes written from `off` on. -/
def base (off : Nat) (existing : Option (List α)) : List α :=
  if off = 0 then [] else existing.getD []

/-- The file behind the target afterwards. -/
def Act.result (bytes : List α) (existing : Option (List α)) : Act → Option (List α)
  | .keep => existing
  | .put off => some (base off existing ++ bytes.drop off)
  | .tear off n => some (base off existing ++ (bytes.drop off).take n)

variable [DecidableEq π]

def Store.step (jobs : List (Job π α)) (s : Store π α) (a : Act) : Option (Store π α) :=
  if s.torn then none
  else jobs[s.count]?.map fun j =>
    { files := Function.update s.files j.target (a.result j.bytes (s.files j.target))
      count := if a.isTear then s.count else s.count + 1
      torn := a.isTear }

/-- What may be done, given the bytes to store and the local file. -/
abbrev Policy (α : Type v) := List α → Option (List α) → Act → Prop

/-- The policy allows the step. -/
def Policy.Allows (P : Policy α) (jobs : List (Job π α)) (s : Store π α) (a : Act) : Prop :=
  ∀ j, jobs[s.count]? = some j → P j.bytes (s.files j.target) a

/-- **Inversion of a step.** -/
theorem Store.step_inv {jobs : List (Job π α)} {s s' : Store π α} {a : Act}
    (h : s.step jobs a = some s') :
    s.torn = false ∧ ∃ j, jobs[s.count]? = some j
      ∧ s' = { files := Function.update s.files j.target (a.result j.bytes (s.files j.target))
               count := if a.isTear then s.count else s.count + 1
               torn := a.isTear } := by
  unfold Store.step at h
  split at h
  · cases h
  · rename_i htorn
    obtain ⟨j, hj, rfl⟩ := Option.map_eq_some_iff.mp h
    exact ⟨by simpa using htorn, j, hj, rfl⟩

/-- Keeping a file changes no file. -/
theorem Store.step_keep {jobs : List (Job π α)} {s : Store π α} {j : Job π α}
    (htorn : s.torn = false) (hj : jobs[s.count]? = some j) :
    s.step jobs .keep = some { s with count := s.count + 1 } := by
  unfold Store.step
  rw [if_neg (by rw [htorn]; exact nofun), hj]
  simp only [Option.map_some, Act.result, Act.isTear, Function.update_eq_self,
    Bool.false_eq_true, if_false, htorn]

/-- Any other step writes its target. -/
theorem Store.step_write {jobs : List (Job π α)} {s : Store π α} {j : Job π α} (a : Act)
    (htorn : s.torn = false) (hj : jobs[s.count]? = some j) :
    s.step jobs a = some
      { files := Function.update s.files j.target (a.result j.bytes (s.files j.target))
        count := if a.isTear then s.count else s.count + 1
        torn := a.isTear } := by
  unfold Store.step
  rw [if_neg (by rw [htorn]; exact nofun), hj]
  rfl

/-! ## §2. What every run leaves alone. -/

/-- **Frame**: a path that is no target. -/
theorem Store.frame {P : Policy α} {jobs : List (Job π α)} {s₀ s : Store π α}
    (h : Lts.Reach (Store.step jobs) (P.Allows jobs) s₀ s) {p : π}
    (hp : ∀ j ∈ jobs, j.target ≠ p) : s.files p = s₀.files p := by
  refine h.invariant (I := fun s => s.files p = s₀.files p) rfl ?_
  intro s a s' hs _ hstep
  obtain ⟨-, j, hj, rfl⟩ := Store.step_inv hstep
  have hne : p ≠ j.target := fun heq => hp j (List.mem_of_getElem? hj) heq.symm
  show Function.update s.files j.target _ p = _
  rw [Function.update_of_ne hne, hs]

/-! ## §3. Prefixes. -/

/-- The policy continues a prefix to a longer one, and completes it unless the
write is cut short. -/
def Policy.Continues (P : Policy α) : Prop :=
  ∀ {bytes : List α} {existing : Option (List α)} {a : Act}, P bytes existing a →
    existing.getD [] <+: bytes → (a.result bytes existing).getD [] <+: bytes
      ∧ (a.isTear = false → (a.result bytes existing).getD [] = bytes)

/-- Every target holds a prefix of its bytes, all of them if its job is
done. -/
structure Store.Progress (jobs : List (Job π α)) (s : Store π α) : Prop where
  pending : ∀ (i : Nat) (j : Job π α), jobs[i]? = some j →
    (s.files j.target).getD [] <+: j.bytes
  done : ∀ (i : Nat) (j : Job π α), jobs[i]? = some j → i < s.count →
    (s.files j.target).getD [] = j.bytes

omit [DecidableEq π] in
/-- Two jobs with one target are one job. -/
theorem index_of_target {jobs : List (Job π α)} (hnodup : (jobs.map Job.target).Nodup)
    {i k : Nat} {a b : Job π α} (ha : jobs[i]? = some a) (hb : jobs[k]? = some b)
    (heq : a.target = b.target) : i = k := by
  have hlt : i < (jobs.map Job.target).length := by
    rw [List.length_map]
    exact (List.getElem?_eq_some_iff.mp ha).1
  apply (List.getElem?_inj hlt hnodup).mp
  rw [List.getElem?_map, List.getElem?_map, ha, hb]
  exact congrArg some heq

/-- **Step lemma.** -/
theorem Store.Progress.step {P : Policy α} (hP : P.Continues) {jobs : List (Job π α)}
    (hnodup : (jobs.map Job.target).Nodup) {s s' : Store π α} {a : Act} (h : s.Progress jobs)
    (hallow : P.Allows jobs s a) (hstep : s.step jobs a = some s') : s'.Progress jobs := by
  obtain ⟨-, j, hj, rfl⟩ := Store.step_inv hstep
  obtain ⟨hpre, hall⟩ := hP (hallow j hj) (h.pending s.count j hj)
  -- the other targets are as they were
  have hother : ∀ {i : Nat} {k : Job π α}, jobs[i]? = some k → i ≠ s.count →
      Function.update s.files j.target (a.result j.bytes (s.files j.target)) k.target
        = s.files k.target := by
    intro i k hk hne
    exact Function.update_of_ne (fun heq => hne (index_of_target hnodup hk hj heq)) _ _
  refine ⟨fun i k hk => ?_, fun i k hk hi => ?_⟩
  · show (Function.update s.files j.target _ k.target).getD [] <+: _
    by_cases hne : i = s.count
    · rw [hne, hj] at hk
      cases hk
      rw [Function.update_self]
      exact hpre
    · rw [hother hk hne]
      exact h.pending i k hk
  · show (Function.update s.files j.target _ k.target).getD [] = _
    replace hi : i < if a.isTear = true then s.count else s.count + 1 := hi
    by_cases hne : i = s.count
    · rw [hne, hj] at hk
      cases hk
      rw [Function.update_self]
      apply hall
      by_contra htear
      rw [if_pos (by simpa using htear)] at hi
      omega
    · rw [hother hk hne]
      refine h.done i k hk ?_
      split at hi
      · exact hi
      · omega

/-- **Every run**: prefixes at every moment, all bytes behind a job done. -/
theorem Store.progress {P : Policy α} (hP : P.Continues) {jobs : List (Job π α)}
    (hnodup : (jobs.map Job.target).Nodup) {files : π → Option (List α)}
    (h₀ : ∀ j ∈ jobs, (files j.target).getD [] <+: j.bytes) {s : Store π α}
    (h : Lts.Reach (Store.step jobs) (P.Allows jobs) ⟨files, 0, false⟩ s) : s.Progress jobs := by
  refine h.invariant (I := fun s => s.Progress jobs) ?_ ?_
  · exact ⟨fun i j hj => h₀ j (List.mem_of_getElem? hj), fun i j _ hi => absurd hi (Nat.not_lt_zero i)⟩
  · intro s a s' hs hallow hstep
    exact hs.step hP hnodup hallow hstep

/-! ## §4. Nothing is lost. -/

/-- A prefix of these bytes is not given up. -/
def Policy.Retains (P : Policy α) (bytes : List α) : Prop :=
  ∀ {existing : Option (List α)} {a : Act}, P bytes existing a → existing.getD [] <+: bytes →
    existing.getD [] <+: (a.result bytes existing).getD []

/-- **Every run**: what a target held at the start it still holds. -/
theorem Store.retained {P : Policy α} (hP : P.Continues) {jobs : List (Job π α)}
    (hkeep : ∀ j ∈ jobs, P.Retains j.bytes) (hnodup : (jobs.map Job.target).Nodup)
    {files : π → Option (List α)} (h₀ : ∀ j ∈ jobs, (files j.target).getD [] <+: j.bytes)
    {s : Store π α}
    (h : Lts.Reach (Store.step jobs) (P.Allows jobs) ⟨files, 0, false⟩ s) :
    ∀ j ∈ jobs, (files j.target).getD [] <+: (s.files j.target).getD [] := by
  induction h with
  | refl => exact fun _ _ => List.prefix_rfl
  | @tail s s' a hrun hallow hstep ih =>
      have hprog := Store.progress hP hnodup h₀ hrun
      obtain ⟨-, j, hj, rfl⟩ := Store.step_inv hstep
      intro k hk
      refine (ih k hk).trans ?_
      show _ <+: (Function.update s.files j.target _ k.target).getD []
      by_cases heq : k.target = j.target
      · obtain ⟨i, hi⟩ := List.getElem?_of_mem hk
        obtain rfl := index_of_target hnodup hi hj heq
        rw [hj] at hi
        cases hi
        rw [Function.update_self]
        exact hkeep j hk (hallow j hj) (hprog.pending _ j hj)
      · have hsame := Function.update_of_ne heq (a.result j.bytes (s.files j.target)) s.files
        exact (congrArg (Option.getD · []) hsame.symm) ▸ List.prefix_rfl

end Uploads
