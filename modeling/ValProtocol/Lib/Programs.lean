/-
  ValProtocol.Lib.Programs
  ────────────────────────
  Programs that call their environment and go on with its answers, with loops
  that need not end.

  A RUN of a program is a trace of calls with their answers, and a result once
  the program has returned; a run may stop anywhere.  A property of traces is
  given by a MONITOR, a state machine over the events of a trace, which may
  reject an event or give up on the rest of the run.

    • `Prog.wp`       — what must hold before a program for its monitor never
      to reject and its result to meet a postcondition; a loop asks for an
      invariant of its own state and the monitor's,
    • `Prog.wp_bind`, `Prog.wp_mono` — composition, so that a program is
      verified from the specifications of its parts,
    • `Prog.wp_sound` — what `wp` promises holds of every run,
    • `Prog.wp_frame` — what every call keeps, the program keeps,
    • `Prog.exec_runs` — the run against a strategy of the environment.
-/
import Mathlib.Data.List.Basic

namespace Programs

/-! ## §1. Programs and their runs. -/

/-- How one pass through a loop ends. -/
inductive Pass (σ β : Type) where
  | again (s : σ)
  | leave (b : β)
  deriving Repr, DecidableEq

/-- Programs over the calls `C`, where the environment answers `c` in `R c`. -/
inductive Prog (C : Type) (R : C → Type) : Type → Type 1 where
  | ret {α : Type} (a : α) : Prog C R α
  | call {α : Type} (c : C) (k : R c → Prog C R α) : Prog C R α
  | loop {σ β α : Type} (body : σ → Prog C R (Pass σ β)) (s : σ) (k : β → Prog C R α) :
      Prog C R α

/-- A call with its answer. -/
structure Event (C : Type) (R : C → Type) where
  call : C
  answer : R call

/-- What a monitor makes of an event. -/
inductive Verdict (μ : Type) where
  | go (m : μ)
  | reject
  | giveUp
  deriving Repr, DecidableEq

/-- The monitor goes on with `P`, or has given up. -/
def Verdict.Then {μ : Type} (P : μ → Prop) : Verdict μ → Prop
  | .go m => P m
  | .reject => False
  | .giveUp => True

section Verdict

variable {μ : Type} {P Q : μ → Prop}

@[simp] theorem Verdict.then_go (m : μ) : (Verdict.go m).Then P ↔ P m := Iff.rfl

@[simp] theorem Verdict.then_reject : (Verdict.reject : Verdict μ).Then P ↔ False := Iff.rfl

@[simp] theorem Verdict.then_giveUp : (Verdict.giveUp : Verdict μ).Then P ↔ True := Iff.rfl

theorem Verdict.Then.mono (h : ∀ m, P m → Q m) {v : Verdict μ} (hv : v.Then P) : v.Then Q := by
  cases v with
  | go m => exact h m hv
  | reject => exact hv
  | giveUp => trivial

end Verdict

variable {C : Type} {R : C → Type} {α β σ μ : Type}

namespace Prog

def bind {α β : Type} : Prog C R α → (α → Prog C R β) → Prog C R β
  | .ret a, f => f a
  | .call c k, f => .call c (fun r => (k r).bind f)
  | .loop body s k, f => .loop body s (fun b => (k b).bind f)

instance : Monad (Prog C R) where
  pure := .ret
  bind := .bind

/-- One call. -/
def ask (c : C) : Prog C R (R c) := .call c .ret

/-- `for (;;)`. -/
def forever (body : σ → Prog C R (Pass σ β)) (s : σ) : Prog C R β := .loop body s .ret

/-- The runs of a program; without a result it has not returned. -/
inductive Runs : {α : Type} → Prog C R α → List (Event C R) → Option α → Prop where
  | stop {α : Type} (p : Prog C R α) : Runs p [] none
  | ret {α : Type} (a : α) : Runs (.ret a) [] (some a)
  | call {α : Type} {c : C} {k : R c → Prog C R α} (r : R c) {tr : List (Event C R)}
      {o : Option α} : Runs (k r) tr o → Runs (.call c k) (⟨c, r⟩ :: tr) o
  | inside {σ β α : Type} {body : σ → Prog C R (Pass σ β)} {s : σ} {k : β → Prog C R α}
      {tr : List (Event C R)} : Runs (body s) tr none → Runs (.loop body s k) tr none
  | again {σ β α : Type} {body : σ → Prog C R (Pass σ β)} {s s' : σ} {k : β → Prog C R α}
      {tr tr' : List (Event C R)} {o : Option α} : Runs (body s) tr (some (.again s')) →
      Runs (.loop body s' k) tr' o → Runs (.loop body s k) (tr ++ tr') o
  | leave {σ β α : Type} {body : σ → Prog C R (Pass σ β)} {s : σ} {b : β}
      {k : β → Prog C R α} {tr tr' : List (Event C R)} {o : Option α} :
      Runs (body s) tr (some (.leave b)) → Runs (k b) tr' o →
      Runs (.loop body s k) (tr ++ tr') o

end Prog

/-! ## §2. Monitors over traces. -/

/-- A monitor over a whole trace. -/
def watch (step : μ → Event C R → Verdict μ) : μ → List (Event C R) → Verdict μ
  | m, [] => .go m
  | m, e :: tr =>
      match step m e with
      | .go m' => watch step m' tr
      | .reject => .reject
      | .giveUp => .giveUp

section Watch

variable {step : μ → Event C R → Verdict μ} {m m' : μ} {e : Event C R}
  {tr tr' : List (Event C R)}

theorem watch_cons (h : step m e = .go m') : watch step m (e :: tr) = watch step m' tr := by
  simp only [watch, h]

theorem watch_append (h : watch step m tr = .go m') :
    watch step m (tr ++ tr') = watch step m' tr' := by
  induction tr generalizing m with
  | nil =>
      cases h
      rfl
  | cons e tr ih =>
      rw [List.cons_append]
      cases hstep : step m e with
      | go m₁ =>
          rw [watch_cons hstep] at h ⊢
          exact ih h
      | reject => simp only [watch, hstep] at h; cases h
      | giveUp => simp only [watch, hstep] at h; cases h

/-- A monitor that has given up stays so. -/
theorem watch_append_giveUp (h : watch step m tr = .giveUp) :
    watch step m (tr ++ tr') = .giveUp := by
  induction tr generalizing m with
  | nil => cases h
  | cons e tr ih =>
      rw [List.cons_append]
      cases hstep : step m e with
      | go m₁ =>
          rw [watch_cons hstep] at h ⊢
          exact ih h
      | reject => simp only [watch, hstep] at h; cases h
      | giveUp => simp only [watch, hstep]

/-- A monitor that never gives up at an event does not do so on a trace. -/
theorem watch_ne_giveUp (h : ∀ m e, step m e ≠ .giveUp) (tr : List (Event C R)) (m : μ) :
    watch step m tr ≠ .giveUp := by
  induction tr generalizing m with
  | nil => exact fun hnil => by cases hnil
  | cons e tr ih =>
      unfold watch
      split
      · exact ih _
      · exact fun hr => by cases hr
      · rename_i hstep
        exact absurd hstep (h m e)

/-- Where an event stands in a trace that has grown by one. -/
theorem snoc_cases {ε : Type} {tr before after : List ε} {last x : ε}
    (h : tr ++ [last] = before ++ x :: after) :
    (before = tr ∧ x = last ∧ after = [])
      ∨ ∃ mid, after = mid ++ [last] ∧ tr = before ++ x :: mid := by
  rcases List.eq_nil_or_concat after with rfl | ⟨mid, y, rfl⟩
  · obtain ⟨h₁, h₂⟩ := List.append_inj' h rfl
    cases h₂
    exact Or.inl ⟨h₁.symm, rfl, rfl⟩
  · rw [List.concat_eq_append, ← List.cons_append, ← List.append_assoc] at h
    obtain ⟨h₁, h₂⟩ := List.append_inj' h rfl
    cases h₂
    exact Or.inr ⟨mid, List.concat_eq_append, h₁⟩

/-- **Invariant rule for monitors**: what every event keeps, together with the
trace so far, a trace that is not rejected or given up keeps. -/
theorem watch_invariant {I : List (Event C R) → μ → Prop} (h0 : I [] m)
    (hstep : ∀ tr m e m', I tr m → step m e = .go m' → I (tr ++ [e]) m')
    (h : watch step m tr = .go m') : I tr m' := by
  suffices H : ∀ (tr pre : List (Event C R)) (m : μ), I pre m → watch step m tr = .go m' →
      I (pre ++ tr) m' by
    have := H tr [] m h0 h
    rwa [List.nil_append] at this
  intro tr
  induction tr with
  | nil =>
      intro pre m hI h
      cases h
      rwa [List.append_nil]
  | cons e tr ih =>
      intro pre m hI h
      cases hs : step m e with
      | go m₁ =>
          rw [watch_cons hs] at h
          have := ih (pre ++ [e]) m₁ (hstep pre m e m₁ hI hs) h
          rwa [List.append_assoc, List.singleton_append] at this
      | reject => simp only [watch, hs] at h; cases h
      | giveUp => simp only [watch, hs] at h; cases h

/-- The monitor that follows `next` and rejects what is `bad`. -/
def guarded (next : μ → Event C R → μ) (bad : μ → Event C R → Bool) (m : μ)
    (e : Event C R) : Verdict μ :=
  if bad m e then .reject else .go (next m e)

theorem guarded_ne_giveUp (next : μ → Event C R → μ) (bad : μ → Event C R → Bool) (m : μ)
    (e : Event C R) : guarded next bad m e ≠ .giveUp := by
  unfold guarded
  split <;> exact fun h => by cases h

theorem guarded_go {next : μ → Event C R → μ} {bad : μ → Event C R → Bool}
    (h : guarded next bad m e = .go m') : bad m e = false ∧ m' = next m e := by
  unfold guarded at h
  split at h
  · cases h
  · rename_i hbad
    cases h
    exact ⟨Bool.eq_false_iff.mpr hbad, rfl⟩

end Watch

namespace Prog

/-! ## §3. Preconditions. -/

/-- Behind one pass through a loop with invariant `I`. -/
def afterPass (I : σ → μ → Prop) (Q : β → μ → Prop) : Pass σ β → μ → Prop
  | .again s, m => I s m
  | .leave b, m => Q b m

@[simp] theorem afterPass_again (I : σ → μ → Prop) (Q : β → μ → Prop) (s : σ) (m : μ) :
    afterPass I Q (.again s) m ↔ I s m := Iff.rfl

@[simp] theorem afterPass_leave (I : σ → μ → Prop) (Q : β → μ → Prop) (b : β) (m : μ) :
    afterPass I Q (.leave b) m ↔ Q b m := Iff.rfl

theorem afterPass_mono {I : σ → μ → Prop} {Q Q' : β → μ → Prop} (h : ∀ b m, Q b m → Q' b m)
    (x : Pass σ β) (m : μ) (hx : afterPass I Q x m) : afterPass I Q' x m := by
  cases x with
  | again s => exact hx
  | leave b => exact h b m hx

/-- **What must hold before a program** in monitor state `m` for the monitor
never to reject, and for the result and the monitor's last state to meet `Q`.
For a loop there is an invariant. -/
def wp (step : μ → Event C R → Verdict μ) {α : Type} :
    Prog C R α → μ → (α → μ → Prop) → Prop
  | .ret a, m, Q => Q a m
  | .call c k, m, Q => ∀ r, (step m ⟨c, r⟩).Then (fun m' => wp step (k r) m' Q)
  | .loop body s k, m, Q => ∃ I : _ → μ → Prop, I s m ∧ ∀ s m, I s m →
      wp step (body s) m (afterPass I (fun b m' => wp step (k b) m' Q))

variable {step : μ → Event C R → Verdict μ} {m : μ}

@[simp] theorem wp_ret (a : α) (Q : α → μ → Prop) :
    wp step (.ret a) m Q ↔ Q a m := Iff.rfl

@[simp] theorem wp_pure (a : α) (Q : α → μ → Prop) :
    wp step (pure a : Prog C R α) m Q ↔ Q a m := Iff.rfl

/-- The consequence rule. -/
theorem wp_mono {p : Prog C R α} {Q Q' : α → μ → Prop} (h : ∀ a m, Q a m → Q' a m)
    (hp : wp step p m Q) : wp step p m Q' := by
  induction p generalizing m with
  | ret a => exact h a m hp
  | call c k ih => exact fun r => (hp r).mono (fun m' => ih r h)
  | loop body s k ihBody ihK =>
      obtain ⟨I, h0, hI⟩ := hp
      refine ⟨I, h0, ?_⟩
      intro s m hs
      exact ihBody s (afterPass_mono (fun b m' => ihK b h)) (hI s m hs)

/-- **Composition.** -/
@[simp] theorem wp_bind (p : Prog C R α) (f : α → Prog C R β) (Q : β → μ → Prop) :
    wp step (p >>= f) m Q ↔ wp step p m (fun a m' => wp step (f a) m' Q) := by
  show wp step (p.bind f) m Q ↔ _
  induction p generalizing m with
  | ret a => exact Iff.rfl
  | call c k ih =>
      constructor
      · exact fun h r => (h r).mono (fun m' => (ih r f).mp)
      · exact fun h r => (h r).mono (fun m' => (ih r f).mpr)
  | loop body s k _ ih =>
      -- one invariant serves both sides
      constructor
      · rintro ⟨I, h0, hI⟩
        exact ⟨I, h0, fun s m hs =>
          wp_mono (afterPass_mono (fun b m' => (ih b f).mp)) (hI s m hs)⟩
      · rintro ⟨I, h0, hI⟩
        exact ⟨I, h0, fun s m hs =>
          wp_mono (afterPass_mono (fun b m' => (ih b f).mpr)) (hI s m hs)⟩

theorem wp_ask (c : C) (Q : R c → μ → Prop) :
    wp step (ask c) m Q ↔ ∀ r, (step m ⟨c, r⟩).Then (Q r) := Iff.rfl

/-- At `m` the monitor does not look at `c`. -/
def Blind (step : μ → Event C R → Verdict μ) (m : μ) (c : C) : Prop :=
  ∀ r, step m ⟨c, r⟩ = .go m

@[simp] theorem wp_ask_blind {c : C} {Q : R c → μ → Prop} (h : Blind step m c) :
    wp step (ask c) m Q ↔ ∀ r, Q r m := by
  rw [wp_ask]
  simp [h _]

theorem wp_ask_guarded {next : μ → Event C R → μ} {bad : μ → Event C R → Bool} {c : C}
    {Q : R c → μ → Prop} :
    wp (guarded next bad) (ask c) m Q ↔
      ∀ r, bad m ⟨c, r⟩ = false ∧ Q r (next m ⟨c, r⟩) := by
  rw [wp_ask]
  apply forall_congr'
  intro r
  unfold guarded
  cases bad m ⟨c, r⟩ <;> simp

@[simp] theorem wp_ite (c : Prop) [Decidable c] (p q : Prog C R α) (Q : α → μ → Prop) :
    wp step (if c then p else q) m Q ↔ (c → wp step p m Q) ∧ (¬ c → wp step q m Q) := by
  by_cases h : c
  · simp [h]
  · simp [h]

/-- **The loop rule.** -/
theorem wp_forever {body : σ → Prog C R (Pass σ β)} {s : σ} {Q : β → μ → Prop}
    (I : σ → μ → Prop) (h0 : I s m)
    (hI : ∀ s m, I s m → wp step (body s) m (afterPass I Q)) :
    wp step (forever body s) m Q :=
  ⟨I, h0, hI⟩

/-- From the specification of a part to what its caller needs. -/
theorem wp_use {p : Prog C R α} {f : α → Prog C R β} {Q' : α → μ → Prop} {Q : β → μ → Prop}
    (hp : wp step p m Q') (hf : ∀ a m', Q' a m' → wp step (f a) m' Q) :
    wp step (p >>= f) m Q :=
  (wp_bind p f Q).mpr (wp_mono hf hp)

/-- **Soundness.**  No run is rejected, and unless the monitor has given up the
result meets the postcondition. -/
theorem wp_sound {p : Prog C R α} {Q : α → μ → Prop} {tr : List (Event C R)} {o : Option α}
    (hrun : Runs p tr o) (hp : wp step p m Q) :
    watch step m tr = .giveUp
      ∨ ∃ m', watch step m tr = .go m' ∧ ∀ a, o = some a → Q a m' := by
  -- on the run: inside a loop the invariant takes the place of the postcondition
  induction hrun generalizing m with
  | stop p => exact Or.inr ⟨m, rfl, fun a h => by cases h⟩
  | ret a =>
      refine Or.inr ⟨m, rfl, ?_⟩
      intro b h
      cases h
      exact hp
  | call r hrun ih =>
      have := hp r
      unfold watch
      revert this
      cases step m ⟨_, r⟩ with
      | go m' => exact fun h => ih h
      | reject => exact False.elim
      | giveUp => exact fun _ => Or.inl rfl
  | inside hrun ih =>
      obtain ⟨I, h0, hI⟩ := hp
      rcases ih (hI _ _ h0) with h | ⟨m', h, -⟩
      · exact Or.inl h
      · exact Or.inr ⟨m', h, fun a ha => by cases ha⟩
  | again hbody hrest ihBody ihRest =>
      obtain ⟨I, h0, hI⟩ := hp
      rcases ihBody (hI _ _ h0) with h | ⟨m', h, hpass⟩
      · exact Or.inl (watch_append_giveUp h)
      · rw [watch_append h]
        exact ihRest ⟨I, hpass _ rfl, hI⟩
  | leave hbody hrest ihBody ihRest =>
      obtain ⟨I, h0, hI⟩ := hp
      rcases ihBody (hI _ _ h0) with h | ⟨m', h, hpass⟩
      · exact Or.inl (watch_append_giveUp h)
      · rw [watch_append h]
        exact ihRest (hpass _ rfl)

/-! ## §4. Programs that a monitor does not see. -/

/-- Whatever the answers, the program makes only calls that satisfy `P`. -/
def Only (P : C → Prop) : {α : Type} → Prog C R α → Prop
  | _, .ret _ => True
  | _, .call c k => P c ∧ ∀ r, Only P (k r)
  | _, .loop body _ k => (∀ s, Only P (body s)) ∧ ∀ b, Only P (k b)

section Only

variable {P : C → Prop}

@[simp] theorem only_pure (a : α) : Only P (pure a : Prog C R α) := trivial

@[simp] theorem only_ask (c : C) : Only P (ask c : Prog C R (R c)) ↔ P c :=
  ⟨fun h => h.1, fun h => ⟨h, fun _ => trivial⟩⟩

@[simp] theorem only_ite (c : Prop) [Decidable c] (p q : Prog C R α) :
    Only P (if c then p else q) ↔ (c → Only P p) ∧ (¬ c → Only P q) := by
  by_cases h : c
  · simp [h]
  · simp [h]

@[simp] theorem only_forever (body : σ → Prog C R (Pass σ β)) (s : σ) :
    Only P (forever body s) ↔ ∀ s, Only P (body s) :=
  ⟨fun h => h.1, fun h => ⟨h, fun _ => trivial⟩⟩

@[simp] theorem only_ask_bind (c : C) (f : R c → Prog C R β) :
    Only P (ask c >>= f) ↔ P c ∧ ∀ r, Only P (f r) := Iff.rfl

theorem only_bind {p : Prog C R α} {f : α → Prog C R β} (hp : Only P p)
    (hf : ∀ a, Only P (f a)) : Only P (p >>= f) := by
  show Only P (p.bind f)
  induction p with
  | ret a => exact hf a
  | call c k ih => exact ⟨hp.1, fun r => ih r (hp.2 r) hf⟩
  | loop body s k _ ih => exact ⟨hp.1, fun b => ih b (hp.2 b) hf⟩

theorem only_mono {P' : C → Prop} (h : ∀ c, P c → P' c) {p : Prog C R α} (hp : Only P p) :
    Only P' p := by
  induction p with
  | ret a => trivial
  | call c k ih => exact ⟨h c hp.1, fun r => ih r (hp.2 r)⟩
  | loop body s k ihBody ihK =>
      exact ⟨fun s => ihBody s (hp.1 s), fun b => ihK b (hp.2 b)⟩

theorem only_of_forall (h : ∀ c, P c) (p : Prog C R α) : Only P p := by
  induction p with
  | ret a => trivial
  | call c k ih => exact ⟨h c, ih⟩
  | loop body s k ihBody ihK => exact ⟨ihBody, ihK⟩

/-- **The frame rule**: what the monitor keeps at every call of the program
holds behind the program. -/
theorem wp_frame {S : μ → Prop} (hstep : ∀ m c r, S m → P c → (step m ⟨c, r⟩).Then S)
    {p : Prog C R α} (hp : Only P p) (hm : S m) : wp step p m (fun _ m' => S m') := by
  induction p generalizing m with
  | ret a => exact hm
  | call c k ih => exact fun r => (hstep m c r hm hp.1).mono (fun m' hm' => ih r (hp.2 r) hm')
  | loop body s k ihBody ihK =>
      refine ⟨fun _ m' => S m', hm, ?_⟩
      intro s m' hm'
      apply wp_mono _ (ihBody s (hp.1 s) hm')
      intro x m'' hm''
      cases x with
      | again s' => exact hm''
      | leave b => exact ihK b (hp.2 b) hm''

/-- A program that makes only calls the monitor does not look at leaves it
where it is. -/
theorem wp_only (hblind : ∀ c, P c → Blind step m c) {p : Prog C R α} (hp : Only P p)
    {Q : α → μ → Prop} (hQ : ∀ a, Q a m) : wp step p m Q := by
  have hstep : ∀ m' c r, m' = m → P c → (step m' ⟨c, r⟩).Then (· = m) := by
    rintro m' c r rfl hc
    rw [hblind c hc r]
    rfl
  apply wp_mono _ (wp_frame hstep hp rfl)
  rintro a _ rfl
  exact hQ a

end Only

/-! ## §5. Computed runs. -/

/-- The run against an environment that answers from the trace so far, with
`fuel` for calls and passes of loops. -/
def exec (env : List (Event C R) → (c : C) → R c) :
    Nat → {α : Type} → Prog C R α → List (Event C R) → List (Event C R) × Option α
  | 0, _, _, tr => (tr, none)
  | _ + 1, _, .ret a, tr => (tr, some a)
  | n + 1, _, .call c k, tr => exec env n (k (env tr c)) (tr ++ [⟨c, env tr c⟩])
  | n + 1, _, .loop body s k, tr =>
      match exec env n (body s) tr with
      | (tr', none) => (tr', none)
      | (tr', some (.again s')) => exec env n (.loop body s' k) tr'
      | (tr', some (.leave b)) => exec env n (k b) tr'

/-- **A computed run is a run.** -/
theorem exec_runs (env : List (Event C R) → (c : C) → R c) (n : Nat) (p : Prog C R α)
    (tr : List (Event C R)) :
    ∃ new, (exec env n p tr).1 = tr ++ new ∧ Runs p new (exec env n p tr).2 := by
  induction n generalizing α tr with
  | zero => exact ⟨[], (List.append_nil tr).symm, .stop p⟩
  | succ n ih =>
      cases p with
      | ret a => exact ⟨[], (List.append_nil tr).symm, .ret a⟩
      | call c k =>
          obtain ⟨new, hnew, hrun⟩ := ih (k (env tr c)) (tr ++ [⟨c, env tr c⟩])
          refine ⟨⟨c, env tr c⟩ :: new, ?_, .call _ hrun⟩
          show (exec env n _ _).1 = _
          rw [hnew, List.append_assoc, List.singleton_append]
      | loop body s k =>
          obtain ⟨new, hnew, hrun⟩ := ih (body s) tr
          unfold exec
          revert hnew hrun
          generalize exec env n (body s) tr = r
          obtain ⟨tr', o⟩ := r
          intro hnew hrun
          dsimp only at hnew hrun
          subst hnew
          cases o with
          | none => exact ⟨new, rfl, .inside hrun⟩
          | some x =>
              cases x with
              | again s' =>
                  obtain ⟨new', hnew', hrun'⟩ := ih (.loop body s' k) (tr ++ new)
                  exact ⟨new ++ new', by rw [hnew', List.append_assoc], .again hrun hrun'⟩
              | leave b =>
                  obtain ⟨new', hnew', hrun'⟩ := ih (k b) (tr ++ new)
                  exact ⟨new ++ new', by rw [hnew', List.append_assoc], .leave hrun hrun'⟩

theorem exec_nil_runs (env : List (Event C R) → (c : C) → R c) (n : Nat) (p : Prog C R α) :
    Runs p (exec env n p []).1 (exec env n p []).2 := by
  obtain ⟨new, hnew, hrun⟩ := exec_runs env n p []
  rwa [hnew]

end Prog

end Programs
