/-
  ValProtocol.Hooks.Pairing
  ─────────────────────────
  `on_file_start` and `on_file_complete` in a run, and the monitor that both
  sides are checked against.

  Some exits of the per-file loops report no completion.  A SLIP is an event
  that makes a side take such an exit; behind it the monitor expects no
  completion any more, so that what it accepts pairs up exactly when no slip
  has occurred.

    • `PairsUp` — every start is followed by one completion of its file
      before the next start and the end,
    • `Exits` — what a side remembers of its run, and its slips,
    • `pairsUp_iff` — the callbacks of an accepted run that has ended pair up
      if and only if it has no slip.
-/
import ValProtocol.Hooks.Calls

namespace ValProtocol.Hooks

open Programs Prog

/-! ## §1. Callbacks. -/

inductive FileCallback where
  | start (name : Bytes)
  | complete (name : Bytes) (st : Status)
  deriving Repr, DecidableEq

def FileCallback.isComplete : FileCallback → Bool
  | .start _ => false
  | .complete _ _ => true

def FileCallback.completes (name : Bytes) : FileCallback → Bool
  | .start _ => false
  | .complete n _ => n == name

/-- The file callback that an event is. -/
def fileCallback : Event → Option FileCallback
  | ⟨.onFileStart name _ _ _, _⟩ => some (.start name)
  | ⟨.onFileComplete name _ st, _⟩ => some (.complete name st)
  | _ => none

abbrev Call.Announces : Call → Prop
  | .onFileStart _ _ _ _ | .onFileComplete _ _ _ => True
  | _ => False

theorem fileCallback_none {c : Call} (hc : ¬ c.Announces) (r : c.Answer) :
    fileCallback ⟨c, r⟩ = none := by
  cases c
  all_goals first
    | rfl
    | exact absurd trivial hc

/-- The file callbacks of a run. -/
def fileCallbacks (tr : List Event) : List FileCallback := tr.filterMap fileCallback

/-- Before the next start and the end, every start is followed by exactly one
completion of its file. -/
def PairsUp (cbs : List FileCallback) : Prop :=
  ∀ before name after, cbs = before ++ .start name :: after →
    (after.takeWhile FileCallback.isComplete).countP (FileCallback.completes name) = 1

/-- A start and its completion, again and again. -/
inductive Paired : List FileCallback → Prop where
  | nil : Paired []
  | file (name : Bytes) (st : Status) {rest : List FileCallback} :
      Paired rest → Paired (.start name :: .complete name st :: rest)

theorem Paired.snoc {cbs : List FileCallback} (h : Paired cbs) (name : Bytes) (st : Status) :
    Paired (cbs ++ [.start name] ++ [.complete name st]) := by
  induction h with
  | nil => exact .file name st .nil
  | file n s _ ih => exact .file n s ih

theorem Paired.takeWhile {cbs : List FileCallback} (h : Paired cbs) :
    cbs.takeWhile FileCallback.isComplete = [] := by
  cases h <;> rfl

theorem Paired.pairsUp {cbs : List FileCallback} (h : Paired cbs) : PairsUp cbs := by
  induction h with
  | nil =>
      intro before name after hsplit
      cases before <;> cases hsplit
  | file n s hrest ih =>
      intro before name after hsplit
      rcases before with _ | ⟨c, _ | ⟨c', before⟩⟩
      · cases hsplit
        show List.countP _ (FileCallback.complete n s :: List.takeWhile _ _) = 1
        rw [hrest.takeWhile]
        simp [FileCallback.completes]
      · cases hsplit
      · simp only [List.cons_append, List.cons.injEq] at hsplit
        exact ih before name after hsplit.2.2

/-- A start with none of its completions behind it. -/
theorem not_pairsUp {before after : List FileCallback} {name : Bytes}
    (h : after.takeWhile FileCallback.isComplete = []) :
    ¬ PairsUp (before ++ .start name :: after) := by
  intro hpair
  have := hpair before name after rfl
  rw [h] at this
  cases this

theorem not_pairsUp_single (name : Bytes) : ¬ PairsUp [.start name] :=
  fun hpair => Nat.zero_ne_one (hpair [] name [] rfl)

/-! ## §2. The monitor. -/

/-- Where a side stands in a file. -/
inductive Phase where
  | idle
  /-- a slip before `on_file_start`, which is still called -/
  | doomed
  | announced (name : Bytes)
  /-- a slip behind `on_file_start` -/
  | lapsed
  /-- a second `on_file_start` behind a slip -/
  | broken
  deriving Repr, DecidableEq

def Phase.isAnnounced : Phase → Bool
  | .announced _ => true
  | _ => false

def Phase.next (slips : Bool) : Phase → Option FileCallback → Phase
  | .idle, none => if slips then .doomed else .idle
  | .idle, some (.start name) => .announced name
  | .idle, some (.complete _ _) => .idle
  | .announced name, none => if slips then .lapsed else .announced name
  | .announced name, some (.start _) => .announced name
  | .announced _, some (.complete _ _) => .idle
  | .doomed, some (.start _) => .lapsed
  | .doomed, _ => .doomed
  | .lapsed, some (.start _) => .broken
  | .lapsed, _ => .lapsed
  | .broken, _ => .broken

/-- A callback that is out of place. -/
def Phase.bad : Phase → Option FileCallback → Bool
  | .idle, some (.complete _ _) => true
  | .announced _, some (.start _) => true
  | .announced name, some (.complete n _) => n != name
  | .doomed, some (.complete _ _) => true
  | .lapsed, some (.complete _ _) => true
  | _, _ => false

/-- What a side remembers of its run in `κ`, and which events make it take an
exit without a completion; the flag says whether a file is announced. -/
structure Exits (κ : Type) where
  start : κ
  note : κ → Event → κ
  slip : κ → Bool → Event → Bool

/-- The monitor's state. -/
structure View (κ : Type) where
  phase : Phase
  memo : κ
  deriving Repr, DecidableEq

variable {κ : Type}

def Exits.next (x : Exits κ) (v : View κ) (e : Event) : View κ :=
  ⟨v.phase.next (x.slip v.memo v.phase.isAnnounced e) (fileCallback e), x.note v.memo e⟩

/-- Behind `tr`. -/
def Exits.view (x : Exits κ) (tr : List Event) : View κ := tr.foldl x.next ⟨.idle, x.start⟩

/-- The monitor. -/
def Exits.step (x : Exits κ) : View κ → Event → Verdict (View κ) :=
  guarded x.next (fun v e => v.phase.bad (fileCallback e))

/-- A slip has occurred. -/
def Exits.Slips (x : Exits κ) (tr : List Event) : Prop :=
  ∃ before e after, tr = before ++ e :: after ∧ fileCallback e = none
    ∧ x.slip (x.view before).memo (x.view before).phase.isAnnounced e = true

theorem Exits.view_snoc (x : Exits κ) (tr : List Event) (e : Event) :
    x.view (tr ++ [e]) = x.next (x.view tr) e := by
  unfold Exits.view
  rw [List.foldl_append]
  rfl

theorem fileCallbacks_snoc (tr : List Event) (e : Event) :
    fileCallbacks (tr ++ [e]) = fileCallbacks tr ++ (fileCallback e).toList := by
  unfold fileCallbacks
  rw [List.filterMap_append]
  cases h : fileCallback e <;> simp [h]

theorem Exits.slips_snoc (x : Exits κ) (tr : List Event) (e : Event) :
    x.Slips (tr ++ [e]) ↔ x.Slips tr ∨ (fileCallback e = none
      ∧ x.slip (x.view tr).memo (x.view tr).phase.isAnnounced e = true) := by
  constructor
  · rintro ⟨before, y, after, hsplit, hy⟩
    rcases snoc_cases hsplit with ⟨rfl, rfl, -⟩ | ⟨mid, -, htr⟩
    · exact Or.inr hy
    · exact Or.inl ⟨before, y, mid, htr, hy⟩
  · rintro (⟨before, y, after, rfl, hy⟩ | he)
    · exact ⟨before, y, after ++ [e], by rw [List.append_assoc, List.cons_append], hy⟩
    · exact ⟨tr, e, [], rfl, he⟩

/-- What the phase says about the run so far. -/
def Exits.Says (x : Exits κ) (tr : List Event) : Phase → Prop
  | .idle => Paired (fileCallbacks tr) ∧ ¬ x.Slips tr
  | .announced name => ∃ done, fileCallbacks tr = done ++ [.start name] ∧ Paired done
      ∧ ¬ x.Slips tr
  | .doomed => Paired (fileCallbacks tr) ∧ x.Slips tr
  | .lapsed => ∃ done name, fileCallbacks tr = done ++ [.start name] ∧ x.Slips tr
  | .broken => ∃ done name next rest,
      fileCallbacks tr = done ++ .start name :: .start next :: rest ∧ x.Slips tr

/-- A callback appends itself and is no slip. -/
theorem Exits.says_callback (x : Exits κ) (tr : List Event) {e : Event} {cb : FileCallback}
    (hcb : fileCallback e = some cb) :
    fileCallbacks (tr ++ [e]) = fileCallbacks tr ++ [cb] ∧ (x.Slips (tr ++ [e]) ↔ x.Slips tr) := by
  rw [fileCallbacks_snoc, x.slips_snoc, hcb]
  simp

/-- Another event changes no callbacks. -/
theorem Exits.says_other (x : Exits κ) (tr : List Event) {e : Event}
    (hcb : fileCallback e = none) :
    fileCallbacks (tr ++ [e]) = fileCallbacks tr ∧ (x.Slips (tr ++ [e]) ↔ x.Slips tr
      ∨ x.slip (x.view tr).memo (x.view tr).phase.isAnnounced e = true) := by
  rw [fileCallbacks_snoc, x.slips_snoc, hcb]
  simp

/-- **The step lemma of the monitor.** -/
theorem Exits.says_step (x : Exits κ) {tr : List Event} {e : Event}
    (hsaid : x.Says tr (x.view tr).phase)
    (hbad : (x.view tr).phase.bad (fileCallback e) = false) :
    x.Says (tr ++ [e]) (x.view (tr ++ [e])).phase := by
  rw [x.view_snoc]
  show x.Says _ ((x.view tr).phase.next
    (x.slip (x.view tr).memo (x.view tr).phase.isAnnounced e) (fileCallback e))
  cases hcb : fileCallback e with
  | none =>
      -- no callback: the trace shows the same files, and a slip counts from here on
      obtain ⟨hcbs, hslips⟩ := x.says_other tr hcb
      generalize x.slip (x.view tr).memo (x.view tr).phase.isAnnounced e = slips at hslips ⊢
      cases hp : (x.view tr).phase with
      | idle =>
          rw [hp] at hsaid
          obtain ⟨hpair, hno⟩ := hsaid
          cases slips with
          | true => exact ⟨hcbs ▸ hpair, hslips.mpr (Or.inr rfl)⟩
          | false => exact ⟨hcbs ▸ hpair, by simpa [hslips] using hno⟩
      | announced name =>
          rw [hp] at hsaid
          obtain ⟨done, htr, hpair, hno⟩ := hsaid
          cases slips with
          | true => exact ⟨done, name, hcbs.trans htr, hslips.mpr (Or.inr rfl)⟩
          | false => exact ⟨done, hcbs.trans htr, hpair, by simpa [hslips] using hno⟩
      | doomed =>
          rw [hp] at hsaid
          exact ⟨hcbs ▸ hsaid.1, hslips.mpr (Or.inl hsaid.2)⟩
      | lapsed =>
          rw [hp] at hsaid
          obtain ⟨done, name, htr, hslip⟩ := hsaid
          exact ⟨done, name, hcbs.trans htr, hslips.mpr (Or.inl hslip)⟩
      | broken =>
          rw [hp] at hsaid
          obtain ⟨done, name, next, rest, htr, hslip⟩ := hsaid
          exact ⟨done, name, next, rest, hcbs.trans htr, hslips.mpr (Or.inl hslip)⟩
  | some cb =>
      -- a callback is no slip, and the monitor has let it through
      obtain ⟨hcbs, hslips⟩ := x.says_callback tr hcb
      rw [hcb] at hbad
      cases hp : (x.view tr).phase with
      | idle =>
          rw [hp] at hsaid hbad
          obtain ⟨hpair, hno⟩ := hsaid
          cases cb with
          | start name => exact ⟨fileCallbacks tr, hcbs, hpair, hslips.not.mpr hno⟩
          | complete name st => cases hbad
      | announced name =>
          rw [hp] at hsaid hbad
          obtain ⟨done, htr, hpair, hno⟩ := hsaid
          cases cb with
          | start name => cases hbad
          | complete n st =>
              obtain rfl : n = name := by simpa [Phase.bad] using hbad
              rw [htr] at hcbs
              exact ⟨hcbs ▸ hpair.snoc n st, hslips.not.mpr hno⟩
      | doomed =>
          rw [hp] at hsaid hbad
          cases cb with
          | start name => exact ⟨_, name, hcbs, hslips.mpr hsaid.2⟩
          | complete name st => cases hbad
      | lapsed =>
          rw [hp] at hsaid hbad
          obtain ⟨done, name, htr, hslip⟩ := hsaid
          cases cb with
          | start next =>
              exact ⟨done, name, next, [], by rw [hcbs, htr, List.append_assoc]; rfl,
                hslips.mpr hslip⟩
          | complete name st => cases hbad
      | broken =>
          rw [hp] at hsaid
          obtain ⟨done, name, next, rest, htr, hslip⟩ := hsaid
          exact ⟨done, name, next, rest ++ [cb], by rw [hcbs, htr, List.append_assoc]; rfl,
            hslips.mpr hslip⟩

theorem Exits.says_view (x : Exits κ) {tr : List Event} {v : View κ}
    (h : watch x.step ⟨.idle, x.start⟩ tr = .go v) :
    v = x.view tr ∧ x.Says tr v.phase := by
  apply watch_invariant (I := fun tr v => v = x.view tr ∧ x.Says tr v.phase) _ _ h
  · refine ⟨rfl, .nil, ?_⟩
    rintro ⟨before, e, after, hsplit, -⟩
    cases before <;> cases hsplit
  · rintro tr v e v' ⟨rfl, hsaid⟩ hstep
    obtain ⟨hbad, rfl⟩ := guarded_go hstep
    rw [← x.view_snoc]
    exact ⟨rfl, x.says_step hsaid hbad⟩

/-! ## §3. Its rules. -/

section Rules

variable (x : Exits κ) {c : Call} {k : κ}

/-- A call between files. -/
theorem Exits.wp_ask_idle (hc : ¬ c.Announces) {Q : c.Answer → View κ → Prop} :
    wp x.step (ask c) ⟨.idle, k⟩ Q ↔ ∀ r, Q r
      ⟨if x.slip k false ⟨c, r⟩ then .doomed else .idle, x.note k ⟨c, r⟩⟩ := by
  unfold Exits.step
  rw [wp_ask_guarded]
  apply forall_congr'
  intro r
  simp only [fileCallback_none hc r, Phase.bad, Exits.next, Phase.next, Phase.isAnnounced,
    true_and]
  exact Iff.rfl

/-- A call while a file is announced. -/
theorem Exits.wp_ask_announced {name : Bytes} (hc : ¬ c.Announces)
    {Q : c.Answer → View κ → Prop} :
    wp x.step (ask c) ⟨.announced name, k⟩ Q ↔ ∀ r, Q r
      ⟨if x.slip k true ⟨c, r⟩ then .lapsed else .announced name, x.note k ⟨c, r⟩⟩ := by
  unfold Exits.step
  rw [wp_ask_guarded]
  apply forall_congr'
  intro r
  simp only [fileCallback_none hc r, Phase.bad, Exits.next, Phase.next, Phase.isAnnounced,
    true_and]
  exact Iff.rfl

/-- Behind a second start every program is accepted. -/
theorem Exits.wp_broken {α : Type} (p : Program α) {v : View κ} (hv : v.phase = .broken) :
    wp x.step p v (fun _ v => v.phase = .broken) := by
  apply wp_frame (S := fun v : View κ => v.phase = .broken) _
    (only_of_forall (P := fun _ => True) (fun _ => trivial) p) hv
  intro v c r hv _
  simp [Exits.step, guarded, Phase.bad, Exits.next, Phase.next, hv]

end Rules

/-- Where a run may end. -/
def Phase.Over : Phase → Prop
  | .idle | .lapsed | .broken => True
  | _ => False

/-- **The callbacks of a run that has ended pair up if and only if it has no
slip**, for a program that the monitor lets end between files or behind a
slip. -/
theorem Exits.pairsUp_iff (x : Exits κ) {p : Program Status} {st : Status} {tr : List Event}
    (hp : wp x.step p ⟨.idle, x.start⟩ (fun _ v => v.phase.Over)) (hrun : Runs p tr (some st)) :
    PairsUp (fileCallbacks tr) ↔ ¬ x.Slips tr := by
  rcases wp_sound hrun hp with hup | ⟨v, hgo, hend⟩
  · exact absurd hup (watch_ne_giveUp (guarded_ne_giveUp _ _) tr _)
  · obtain ⟨-, hsaid⟩ := x.says_view hgo
    have hover := hend st rfl
    cases hphase : v.phase with
    | idle =>
        rw [hphase] at hsaid
        exact ⟨fun _ => hsaid.2, fun _ => hsaid.1.pairsUp⟩
    | lapsed =>
        rw [hphase] at hsaid
        obtain ⟨done, name, htr, hslip⟩ := hsaid
        rw [htr]
        exact ⟨fun hpair => absurd hpair (not_pairsUp rfl), fun hno => absurd hslip hno⟩
    | broken =>
        rw [hphase] at hsaid
        obtain ⟨done, name, next, rest, htr, hslip⟩ := hsaid
        rw [htr]
        exact ⟨fun hpair => absurd hpair (not_pairsUp rfl), fun hno => absurd hslip hno⟩
    | doomed =>
        rw [hphase] at hover
        exact absurd hover id
    | announced name =>
        rw [hphase] at hover
        exact absurd hover id

end ValProtocol.Hooks
