/-
  ValProtocol.Lib.Simulations
  ───────────────────────────
  One transition system inside another.

  A simulation relates the states of two partial step functions so that every
  admitted step of the first is matched by a run, possibly empty, of the
  second.  Then every state the first reaches is related to one the second
  reaches (`Simulation.reach`), and what every run of the second keeps can be
  read back through the relation (`Simulation.invariant`).
-/
import ValProtocol.Lib.Lts

namespace Lts

universe u v u' v'

variable {σ : Type u} {ℓ : Type v} {τ : Type u'} {ℓ' : Type v'}

section Runs

variable {step : σ → ℓ → Option σ} {adm : σ → ℓ → Prop} {a b c : σ}

/-- One run behind another. -/
theorem Reach.trans (hab : Reach step adm a b) (hbc : Reach step adm b c) :
    Reach step adm a c := by
  induction hbc with
  | refl => exact hab
  | tail l _ hadm hstep ih => exact .tail l ih hadm hstep

/-- A run of one step. -/
theorem Reach.one (l : ℓ) (hadm : adm a l) (hstep : step a l = some b) : Reach step adm a b :=
  .tail l .refl hadm hstep

end Runs

/-- Every admitted step of the first system is matched by a run of the
second. -/
structure Simulation (step : σ → ℓ → Option σ) (adm : σ → ℓ → Prop)
    (step' : τ → ℓ' → Option τ) (adm' : τ → ℓ' → Prop) (R : σ → τ → Prop) : Prop where
  forth : ∀ {s : σ} {l : ℓ} {s' : σ} {t : τ}, R s t → adm s l → step s l = some s' →
    ∃ t', Reach step' adm' t t' ∧ R s' t'

variable {step : σ → ℓ → Option σ} {adm : σ → ℓ → Prop} {step' : τ → ℓ' → Option τ}
  {adm' : τ → ℓ' → Prop} {R : σ → τ → Prop}

/-- **Runs are simulated.** -/
theorem Simulation.reach (h : Simulation step adm step' adm' R) {s₀ s : σ} {t₀ : τ}
    (h₀ : R s₀ t₀) (hs : Reach step adm s₀ s) : ∃ t, Reach step' adm' t₀ t ∧ R s t := by
  induction hs with
  | refl => exact ⟨t₀, .refl, h₀⟩
  | tail l _ hadm hstep ih =>
      obtain ⟨t, ht, hR⟩ := ih
      obtain ⟨t', ht', hR'⟩ := h.forth hR hadm hstep
      exact ⟨t', ht.trans ht', hR'⟩

/-- **Safety is inherited**: an invariant of the second system, read through
the relation, holds in every run of the first. -/
theorem Simulation.invariant (h : Simulation step adm step' adm' R) {I : τ → Prop} {t₀ : τ}
    (hI₀ : I t₀) (hI : ∀ t l t', I t → adm' t l → step' t l = some t' → I t') {s₀ s : σ}
    (h₀ : R s₀ t₀) (hs : Reach step adm s₀ s) : ∃ t, I t ∧ R s t := by
  obtain ⟨t, ht, hR⟩ := h.reach h₀ hs
  exact ⟨t, ht.invariant hI₀ hI, hR⟩

end Lts
