/-
  ValProtocol.Lib.Flights
  ───────────────────────
  What a sender that goes back has sent more than once.

  Items are intervals `[lo i, hi i)` of positions, sent in chains: each item
  begins where the one before it ended.  Between two chains the sender may
  jump.  `Fresh` keeps the highest position it jumped back from:

    • `Fresh.chain` — a chain sends nothing at or above that mark again,
    • `Fresh.jump`  — a jump back raises the mark, a jump ahead does not.
-/
import Mathlib.Order.Lattice
import Mathlib.Order.Defs.LinearOrder

namespace Flights

universe u v

variable {ι : Type u} {α : Type v} [LinearOrder α] (lo hi : ι → α)

/-- The item covers the position. -/
def covers (x : α) (i : ι) : Bool := decide (lo i ≤ x ∧ x < hi i)

/-- How often a position was sent. -/
def hits (x : α) (l : List ι) : Nat := l.countP (covers lo hi x)

/-- Items one behind the other, from `a` to `b`. -/
inductive Chain : α → List ι → α → Prop where
  | nil (a : α) : Chain a [] a
  | cons {i : ι} {l : List ι} {b : α} :
      lo i < hi i → Chain (hi i) l b → Chain (lo i) (i :: l) b

/-- Behind the mark `r`, with the next item at `n`: nothing at or above the
mark was sent twice, and nothing at or above both was sent at all. -/
structure Fresh (r n : α) (l : List ι) : Prop where
  once : ∀ x, r ≤ x → hits lo hi x l ≤ 1
  none : ∀ x, r ≤ x → n ≤ x → hits lo hi x l = 0

variable {lo hi}

theorem hits_append (x : α) (l l' : List ι) :
    hits lo hi x (l ++ l') = hits lo hi x l + hits lo hi x l' := List.countP_append

theorem hits_cons (x : α) (i : ι) (l : List ι) :
    hits lo hi x (i :: l) = hits lo hi x l + if covers lo hi x i then 1 else 0 :=
  List.countP_cons

theorem Chain.le {a b : α} {l : List ι} (h : Chain lo hi a l b) : a ≤ b := by
  induction h with
  | nil a => exact le_rfl
  | cons hlt _ ih => exact le_trans (le_of_lt hlt) ih

/-- A chain does not reach below its start. -/
theorem Chain.hits_below {a b x : α} {l : List ι} (h : Chain lo hi a l b) (hx : x < a) :
    hits lo hi x l = 0 := by
  induction h with
  | nil a => rfl
  | @cons i l b hlt _ ih =>
      have hi' : covers lo hi x i = false :=
        decide_eq_false (fun hc => absurd hc.1 (not_le_of_gt hx))
      rw [hits_cons, hi', ih (lt_trans hx hlt)]
      rfl

/-- Nor above its end. -/
theorem Chain.hits_above {a b x : α} {l : List ι} (h : Chain lo hi a l b) (hx : b ≤ x) :
    hits lo hi x l = 0 := by
  induction h with
  | nil a => rfl
  | @cons i l b _ hrest ih =>
      have hi' : covers lo hi x i = false :=
        decide_eq_false (fun hc => absurd (lt_of_lt_of_le hc.2 (le_trans hrest.le hx))
          (lt_irrefl x))
      rw [hits_cons, hi', ih hx]
      rfl

/-- A chain sends no position twice. -/
theorem Chain.hits_le_one {a b : α} {l : List ι} (h : Chain lo hi a l b) (x : α) :
    hits lo hi x l ≤ 1 := by
  induction h with
  | nil a => exact Nat.zero_le 1
  | @cons i l b _ hrest ih =>
      rw [hits_cons]
      by_cases hc : covers lo hi x i = true
      · have hlt := (of_decide_eq_true hc).2
        rw [hrest.hits_below hlt, if_pos hc]
      · rw [if_neg hc]
        exact ih

theorem Fresh.nil (r n : α) : Fresh lo hi r n [] :=
  ⟨fun _ _ => Nat.zero_le 1, fun _ _ _ => rfl⟩

/-- **A chain from the next item on.** -/
theorem Fresh.chain {r a b : α} {l l' : List ι} (h : Fresh lo hi r a l)
    (hc : Chain lo hi a l' b) : Fresh lo hi r b (l ++ l') := by
  refine ⟨?_, ?_⟩
  · intro x hx
    rw [hits_append]
    rcases lt_or_ge x a with hlt | hge
    · rw [hc.hits_below hlt]
      exact h.once x hx
    · rw [h.none x hx hge, Nat.zero_add]
      exact hc.hits_le_one x
  · intro x hx hb
    rw [hits_append, h.none x hx (le_trans hc.le hb), hc.hits_above hb]

/-- **A jump** to `m`. -/
theorem Fresh.jump {r a : α} {l : List ι} (h : Fresh lo hi r a l) (m : α) :
    Fresh lo hi (if m < a then max r a else r) m l := by
  by_cases hm : m < a
  · rw [if_pos hm]
    refine ⟨fun x hx => h.once x (le_trans (le_max_left _ _) hx), fun x hx _ => ?_⟩
    exact h.none x (le_trans (le_max_left _ _) hx) (le_trans (le_max_right _ _) hx)
  · rw [if_neg hm]
    refine ⟨h.once, fun x hx hmx => ?_⟩
    exact h.none x hx (le_trans (not_lt.mp hm) hmx)

/-- An item that covers its own start was sent as often as that start at most. -/
theorem starts_le_hits {l : List ι} (hne : ∀ i ∈ l, lo i < hi i) (x : α) :
    l.countP (fun i => decide (lo i = x)) ≤ hits lo hi x l := by
  apply List.countP_mono_left
  intro i hi' hstart
  have heq := of_decide_eq_true hstart
  exact decide_eq_true ⟨le_of_eq heq, heq ▸ hne i hi'⟩

end Flights
