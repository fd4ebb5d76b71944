/-
  ValProtocol.Lib.Termination
  ───────────────────────────
  Systems that come to rest.

  A `Descent` relates the states of a system to values of a well-founded order,
  here the ranks of the states of a second system: every admitted step goes
  down, unless it changes nothing.  Then no run goes on changing for ever
  (`Descent.stops`), and every state has a run to one that no step changes
  (`Descent.settles`).  A `Ranking` is the case of one system, an invariant and
  a rank of its own states.  The ranks of a system of several parts are
  compared part by part: `Lex.lt_of_left` and `Lex.lt_of_right` are the two
  ways to go down.
-/
import Mathlib.Data.Prod.Lex
import Mathlib.Order.WellFounded
import ValProtocol.Lib.Simulations

namespace Lts

universe u v w

variable {σ : Type u} {ℓ : Type v} {τ : Type w} {β : Type*}

/-! ## §1. Runs without end. -/

/-- A run that never ends. -/
def Endless (step : σ → ℓ → Option σ) (adm : σ → ℓ → Prop) (run : Nat → σ) : Prop :=
  ∀ n, ∃ l, adm (run n) l ∧ step (run n) l = some (run (n + 1))

/-- No admitted step changes the state. -/
def Still (step : σ → ℓ → Option σ) (adm : σ → ℓ → Prop) (s : σ) : Prop :=
  ∀ l s', adm s l → step s l = some s' → s' = s

theorem Still.mono {step : σ → ℓ → Option σ} {adm adm' : σ → ℓ → Prop} {s : σ}
    (hadm : ∀ l, adm' s l → adm s l) (h : Still step adm s) : Still step adm' s :=
  fun l s' hl => h l s' (hadm l hl)

/-- What a state is related to goes down with every step that changes it. -/
structure Descent [LT β] (step : σ → ℓ → Option σ) (adm : σ → ℓ → Prop) (R : σ → τ → Prop)
    (rank : τ → β) : Prop where
  forth : ∀ {s : σ} {l : ℓ} {s' : σ} {t : τ}, R s t → adm s l → step s l = some s' →
    s' = s ∨ ∃ t', R s' t' ∧ rank t' < rank t

/-- An invariant under which a step lowers the rank or changes nothing. -/
structure Ranking [LT β] (step : σ → ℓ → Option σ) (adm : σ → ℓ → Prop) (I : σ → Prop)
    (rank : σ → β) : Prop where
  keep : ∀ {s : σ} {l : ℓ} {s' : σ}, I s → adm s l → step s l = some s' → I s'
  down : ∀ {s : σ} {l : ℓ} {s' : σ}, I s → adm s l → step s l = some s' →
    s' = s ∨ rank s' < rank s

section Descents

variable {step : σ → ℓ → Option σ} {adm : σ → ℓ → Prop} {R : σ → τ → Prop} [LT β]
  [WellFoundedLT β] {rank : τ → β}

/-- **No run goes on changing.** -/
theorem Descent.stops (h : Descent step adm R rank) {run : Nat → σ} {t₀ : τ} (h₀ : R (run 0) t₀)
    (hrun : Endless step adm run) : ∃ n, ∀ m, n ≤ m → run m = run n := by
  -- what the least rank belongs to stays
  obtain ⟨-, ⟨n, t, ht, rfl⟩, hmin⟩ := (wellFounded_lt (α := β)).has_min
    {b | ∃ n t, R (run n) t ∧ rank t = b} ⟨_, 0, t₀, h₀, rfl⟩
  refine ⟨n, fun m hm => ?_⟩
  induction m, hm using Nat.le_induction with
  | base => rfl
  | succ m hm ih =>
      obtain ⟨l, hadm, hstep⟩ := hrun m
      rcases h.forth (by rw [ih]; exact ht) hadm hstep with heq | ⟨t', ht', hlt⟩
      · rw [heq, ih]
      · exact absurd hlt (hmin _ ⟨m + 1, t', ht', rfl⟩)

/-- **Every state settles.** -/
theorem Descent.settles (h : Descent step adm R rank) {s : σ} {t : τ} (hR : R s t) :
    ∃ s', Reach step adm s s' ∧ Still step adm s' := by
  generalize hb : rank t = b
  induction b using WellFoundedLT.induction generalizing s t with
  | ind b ih =>
      subst hb
      by_cases hstill : Still step adm s
      · exact ⟨s, .refl, hstill⟩
      · -- a step that changes something goes down
        simp only [Still, not_forall] at hstill
        obtain ⟨l, s', hadm, hstep, hne⟩ := hstill
        obtain ⟨t', ht', hlt⟩ := (h.forth hR hadm hstep).resolve_left hne
        obtain ⟨u, hu, hrest⟩ := ih _ hlt ht' rfl
        exact ⟨u, (Reach.one l hadm hstep).trans hu, hrest⟩

variable (rank) in
/-- **At rest** a state is related to one that need not go down. -/
theorem Still.lowest {s : σ} (hstill : Still step adm s) {P : τ → Prop}
    (hback : ∀ {t : τ}, R s t →
      P t ∨ ∃ l s' t', adm s l ∧ step s l = some s' ∧ R s' t' ∧ rank t' < rank t)
    {t : τ} (hR : R s t) : ∃ t', R s t' ∧ P t' := by
  generalize hb : rank t = b
  induction b using WellFoundedLT.induction generalizing t with
  | ind b ih =>
      subst hb
      rcases hback hR with hP | ⟨l, s', t', hadm, hstep, ht', hlt⟩
      · exact ⟨t, hR, hP⟩
      · -- the step leaves the state as it is
        obtain rfl := hstill l s' hadm hstep
        exact ih _ hlt ht' rfl

omit [WellFoundedLT β] in
/-- Every run stays related. -/
theorem Descent.run (h : Descent step adm R rank) {s₀ s : σ} {t₀ : τ} (h₀ : R s₀ t₀)
    (hs : Reach step adm s₀ s) : ∃ t, R s t := by
  induction hs with
  | refl => exact ⟨t₀, h₀⟩
  | tail l _ hadm hstep ih =>
      obtain ⟨t, ht⟩ := ih
      rcases h.forth ht hadm hstep with rfl | ⟨t', ht', -⟩
      · exact ⟨t, ht⟩
      · exact ⟨t', ht'⟩

/-- **All runs end alike**: where what need not go down has `Q`, no run goes on
changing, a state at rest has `Q`, and every reached state has a run to `Q`. -/
theorem Descent.ends (h : Descent step adm R rank) {P : τ → Prop} {Q : σ → Prop}
    (hback : ∀ {s : σ} {t : τ}, R s t →
      P t ∨ ∃ l s' t', adm s l ∧ step s l = some s' ∧ R s' t' ∧ rank t' < rank t)
    (hend : ∀ {s : σ} {t : τ}, R s t → P t → Q s) {s₀ : σ} {t₀ : τ} (h₀ : R s₀ t₀) :
    (∀ run : Nat → σ, run 0 = s₀ → Endless step adm run → ∃ n, ∀ m, n ≤ m → run m = run n)
    ∧ (∀ s, Reach step adm s₀ s → Still step adm s → Q s)
    ∧ ∀ s, Reach step adm s₀ s → ∃ s', Reach step adm s s' ∧ Q s' := by
  have hrest : ∀ s, Reach step adm s₀ s → Still step adm s → Q s := by
    intro s hs hstill
    obtain ⟨t, ht⟩ := h.run h₀ hs
    obtain ⟨t', ht', hP⟩ := hstill.lowest rank hback ht
    exact hend ht' hP
  refine ⟨?_, hrest, ?_⟩
  · intro run hzero hrun
    exact h.stops (by rw [hzero]; exact h₀) hrun
  · intro s hs
    obtain ⟨t, ht⟩ := h.run h₀ hs
    obtain ⟨s', hs', hstill⟩ := h.settles ht
    exact ⟨s', hs', hrest s' (hs.trans hs') hstill⟩

end Descents

section Rankings

variable {step : σ → ℓ → Option σ} {adm : σ → ℓ → Prop} {I : σ → Prop} [LT β] {rank : σ → β}

theorem Ranking.descent (h : Ranking step adm I rank) :
    Descent step adm (fun s t => I s ∧ t = s) rank := by
  refine ⟨?_⟩
  rintro s l s' t ⟨hI, rfl⟩ hadm hstep
  rcases h.down hI hadm hstep with heq | hlt
  · exact Or.inl heq
  · exact Or.inr ⟨s', ⟨h.keep hI hadm hstep, rfl⟩, hlt⟩

variable [WellFoundedLT β]

theorem Ranking.stops (h : Ranking step adm I rank) {run : Nat → σ} (h₀ : I (run 0))
    (hrun : Endless step adm run) : ∃ n, ∀ m, n ≤ m → run m = run n :=
  h.descent.stops ⟨h₀, rfl⟩ hrun

theorem Ranking.settles (h : Ranking step adm I rank) {s : σ} (hs : I s) :
    ∃ t, Reach step adm s t ∧ Still step adm t :=
  h.descent.settles ⟨hs, rfl⟩

end Rankings

/-! ## §2. Ranks of several parts. -/

section Lex

variable {γ δ : Type*} [LT γ] [LT δ] {a a' : γ} {b b' : δ}

/-- The first part goes down. -/
theorem Lex.lt_of_left (h : a' < a) (b b' : δ) : toLex (a', b') < toLex (a, b) :=
  Prod.Lex.toLex_lt_toLex.mpr (Or.inl h)

/-- The first part stays, and the second goes down. -/
theorem Lex.lt_of_right (ha : a' = a) (h : b' < b) : toLex (a', b') < toLex (a, b) :=
  Prod.Lex.toLex_lt_toLex.mpr (Or.inr ⟨ha, h⟩)

end Lex

end Lts
