/-
  ValProtocol.Lib.Budgets
  ───────────────────────
  Systems whose environment pays for what it does.

  `cost s l` is what the step `l` costs in `s`, `none` where the environment
  must not take it; a state of the budgeted system carries what is left to
  spend.  Its runs are runs of the system (`Reach.of_budgeted`), and a rank of
  the system ranks it too (`Ranking.budgeted`).
-/
import ValProtocol.Lib.Termination

namespace Lts

universe u v w

variable {σ : Type u} {ℓ : Type v} {β : Type w}

/-- One step, paid for. -/
def budgeted (step : σ → ℓ → Option σ) (cost : σ → ℓ → Option Nat) (x : σ × Nat) (l : ℓ) :
    Option (σ × Nat) :=
  match cost x.1 l with
  | none => none
  | some n => if n ≤ x.2 then (step x.1 l).map (fun s => (s, x.2 - n)) else none

variable {step : σ → ℓ → Option σ} {cost : σ → ℓ → Option Nat} {x y : σ × Nat} {l : ℓ}

/-- **Inversion.** -/
theorem budgeted_inv (h : budgeted step cost x l = some y) :
    ∃ n, cost x.1 l = some n ∧ n ≤ x.2 ∧ step x.1 l = some y.1 ∧ y.2 = x.2 - n := by
  unfold budgeted at h
  split at h
  · cases h
  · rename_i n hcost
    split at h
    · rename_i hle
      obtain ⟨s, hs, rfl⟩ := Option.map_eq_some_iff.mp h
      exact ⟨n, hcost, hle, hs, rfl⟩
    · cases h

/-- A step that can be paid for. -/
theorem budgeted_some {n : Nat} {s : σ} (hcost : cost x.1 l = some n) (hle : n ≤ x.2)
    (hstep : step x.1 l = some s) : budgeted step cost x l = some (s, x.2 - n) := by
  unfold budgeted
  rw [hcost]
  dsimp only
  rw [if_pos hle, hstep]
  rfl

section Rank

variable [LT β] {I : σ × Nat → Prop} {rank : σ → β}

/-- **A rank of the system** ranks the budgeted one, what is left to spend
being the last part: a fault that changes nothing has still been paid for. -/
theorem Ranking.budgeted
    (hkeep : ∀ {x y : σ × Nat} {l : ℓ}, I x → Lts.budgeted step cost x l = some y → I y)
    (hdown : ∀ {x : σ × Nat} {l : ℓ} {s : σ}, I x → step x.1 l = some s →
      s = x.1 ∨ rank s < rank x.1) :
    Ranking (Lts.budgeted step cost) (fun _ _ => True) I (fun x => toLex (rank x.1, x.2)) where
  keep := fun hi _ hstep => hkeep hi hstep
  down := by
    intro x l y hi _ hstep
    obtain ⟨n, -, hle, hs, hleft⟩ := budgeted_inv hstep
    rcases hdown hi hs with hsame | hlt
    · by_cases hn : n = 0
      · subst hn
        exact Or.inl (Prod.ext hsame hleft)
      · refine Or.inr (Lex.lt_of_right ?_ ?_)
        · rw [hsame]
        · omega
    · exact Or.inr (Lex.lt_of_left hlt _ _)

end Rank

end Lts
