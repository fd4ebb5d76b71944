/-
  ValProtocol.Lib.Lts
  ───────────────────
  Labelled transition systems given by a partial step function.

  Two ways of reasoning about every run at once:

    • `Reach.invariant` — a property that holds initially and is kept by
      every admitted step holds in every reached state.  The admission
      predicate sees the state BEFORE the step, so the same system can be
      studied under different conditions on its environment;
    • `Diamond.steps_to` — when any two different steps from one state can
      be completed to a common state, one finite run to a terminal state
      decides ALL runs: each is a prefix of a run to that state, and none
      is longer.
-/
import Mathlib.Logic.Relation

namespace Lts

universe u v

variable {σ : Type u} {ℓ : Type v}

/-! ## §1. Reachability under an admission predicate. -/

/-- The states reached from `s₀` by steps that `adm` admits. -/
inductive Reach (step : σ → ℓ → Option σ) (adm : σ → ℓ → Prop) (s₀ : σ) :
    σ → Prop where
  | refl : Reach step adm s₀ s₀
  | tail {s s' : σ} (l : ℓ) :
      Reach step adm s₀ s → adm s l → step s l = some s' →
      Reach step adm s₀ s'

variable {step : σ → ℓ → Option σ} {adm : σ → ℓ → Prop} {s₀ : σ}

/-- **Invariant rule.** -/
theorem Reach.invariant {I : σ → Prop} (h0 : I s₀)
    (hstep : ∀ s l s', I s → adm s l → step s l = some s' → I s')
    {s : σ} (h : Reach step adm s₀ s) : I s := by
  induction h with
  | refl => exact h0
  | tail l _ ha hs ih => exact hstep _ l _ ih ha hs

/-- Fewer restrictions on the environment reach more states. -/
theorem Reach.mono {adm' : σ → ℓ → Prop} (hadm : ∀ s l, adm s l → adm' s l)
    {s : σ} (h : Reach step adm s₀ s) : Reach step adm' s₀ s := by
  induction h with
  | refl => exact .refl
  | tail l _ ha hs ih => exact .tail l ih (hadm _ l ha) hs

/-- One step, refused when it is not admitted. -/
def checked (step : σ → ℓ → Option σ) (adm : σ → ℓ → Bool) (s : σ) (l : ℓ) : Option σ :=
  if adm s l then step s l else none

/-- A list of labels, replayed from `s₀` with every step checked, ends in a
reached state. -/
theorem Reach.of_foldlM {adm : σ → ℓ → Bool} {ls : List ℓ} {s : σ}
    (h : ls.foldlM (checked step adm) s₀ = some s) :
    Reach step (fun s l => adm s l = true) s₀ s := by
  suffices H : ∀ (ls : List ℓ) (a : σ), Reach step (fun s l => adm s l = true) s₀ a →
      ls.foldlM (checked step adm) a = some s →
      Reach step (fun s l => adm s l = true) s₀ s from H ls s₀ .refl h
  intro ls
  induction ls with
  | nil =>
      intro a ha h
      simp only [List.foldlM_nil, Option.pure_def, Option.some.injEq] at h
      exact h ▸ ha
  | cons l ls ih =>
      intro a ha h
      simp only [List.foldlM_cons, Option.bind_eq_bind] at h
      obtain ⟨b, hb, hrest⟩ := Option.bind_eq_some_iff.mp h
      simp only [checked] at hb
      split at hb
      · rename_i hadm
        exact ih b (.tail l ha hadm hb) hrest
      · cases hb

/-- What a replayed list of labels shows of its last state, some reached state
shows. -/
theorem Reach.exists_of_foldlM {α : Type*} (step : σ → ℓ → Option σ) (adm : σ → ℓ → Bool)
    (s₀ : σ) (view : σ → α) (ls : List ℓ) {a : α}
    (h : (ls.foldlM (checked step adm) s₀).map view = some a) :
    ∃ s, Reach step (fun s l => adm s l = true) s₀ s ∧ view s = a := by
  obtain ⟨s, hs, ha⟩ := Option.map_eq_some_iff.mp h
  exact ⟨s, .of_foldlM hs, ha⟩

/-- `n` steps of `R`. -/
inductive Steps (R : σ → σ → Prop) : Nat → σ → σ → Prop where
  | zero (a : σ) : Steps R 0 a a
  | succ {n : Nat} {a b c : σ} : R a b → Steps R n b c → Steps R (n + 1) a c

variable {R : σ → σ → Prop}

theorem Steps.trans {m n : Nat} {a b c : σ}
    (h1 : Steps R m a b) (h2 : Steps R n b c) : Steps R (m + n) a c := by
  induction h1 with
  | zero a => simpa using h2
  | succ hab _ ih =>
      rw [Nat.succ_add]
      exact .succ hab (ih h2)

theorem Steps.single {a b : σ} (h : R a b) : Steps R 1 a b :=
  .succ h (.zero b)

/-- Two different steps from one state meet again one step later. -/
def Diamond (R : σ → σ → Prop) : Prop :=
  ∀ a b c, R a b → R a c → b = c ∨ ∃ d, R b d ∧ R c d

/-- Nothing can happen any more. -/
def Terminal (R : σ → σ → Prop) (f : σ) : Prop := ∀ x, ¬ R f x

/-- A first step never leads away from the terminal state of a run: the
rest of the run is one step shorter. -/
theorem Diamond.step_to (hR : Diamond R) {f : σ} (hf : Terminal R f) :
    ∀ {n : Nat} {a b : σ}, Steps R n a f → R a b →
      ∃ n', n = n' + 1 ∧ Steps R n' b f := by
  intro n
  induction n with
  | zero =>
      intro a b hrun hab
      cases hrun
      exact absurd hab (hf b)
  | succ n ih =>
      intro a b hrun hab
      cases hrun with
      | succ hac hrest =>
          refine ⟨n, rfl, ?_⟩
          rcases hR _ _ _ hab hac with rfl | ⟨d, hbd, hcd⟩
          · exact hrest
          · -- the run from `c` also starts with the completing step to `d`
            obtain ⟨n', rfl, hd⟩ := ih hrest hcd
            exact .succ hbd hd

/-- **One run to a terminal state decides every run.** -/
theorem Diamond.steps_to (hR : Diamond R) {f : σ} (hf : Terminal R f)
    {n : Nat} {a : σ} (hrun : Steps R n a f) :
    ∀ {m : Nat} {b : σ}, Steps R m a b →
      m ≤ n ∧ Steps R (n - m) b f := by
  intro m b hab
  induction hab generalizing n with
  | zero a => exact ⟨Nat.zero_le n, by simpa using hrun⟩
  | succ hstep _ ih =>
      obtain ⟨n', rfl, hb⟩ := hR.step_to hf hrun hstep
      obtain ⟨hle, hrest⟩ := ih hb
      refine ⟨Nat.succ_le_succ hle, ?_⟩
      rwa [Nat.add_sub_add_right]

end Lts
