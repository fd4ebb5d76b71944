/-
  ValProtocol.Lib.Splitting
  ─────────────────────────
  Lists that are cut at separators and trimmed at the end.

    • `splitOnP_cases`    — a list has no separator, or one behind its first
      piece,
    • `mem_splitOnP_iff`  — a piece of a split list is a stretch without
      separators between two ends,
    • `rdropWhile_append` — a trim reaches over the last part only when it
      takes all of it.
-/
import Mathlib.Data.List.DropRight
import Mathlib.Data.List.Infix

namespace Splitting

variable {α : Type*} {p : α → Bool}

/-! ## §1. Pieces. -/

theorem splitOnP_cons_pos {x : α} {l : List α} (h : p x = true) :
    (x :: l).splitOnP p = [] :: l.splitOnP p := by
  rw [List.splitOnP_cons_eq_if_modifyHead, if_pos h]

theorem splitOnP_cons_neg {x : α} {l piece : List α} {pieces : List (List α)} (h : p x = false)
    (hl : l.splitOnP p = piece :: pieces) : (x :: l).splitOnP p = (x :: piece) :: pieces := by
  rw [List.splitOnP_cons_eq_if_modifyHead, if_neg (by simp [h]), hl]
  rfl

/-- There is a first piece. -/
theorem exists_splitOnP_eq (p : α → Bool) (l : List α) :
    ∃ piece pieces, l.splitOnP p = piece :: pieces :=
  List.exists_cons_of_ne_nil (List.splitOnP_ne_nil p l)

/-- Characters without a separator join the first piece. -/
theorem splitOnP_append_left {a l piece : List α} {pieces : List (List α)}
    (ha : ∀ x ∈ a, p x = false) (hl : l.splitOnP p = piece :: pieces) :
    (a ++ l).splitOnP p = (a ++ piece) :: pieces := by
  induction a with
  | nil => exact hl
  | cons x a ih =>
      have hx := ha x (List.mem_cons_self ..)
      exact splitOnP_cons_neg hx (ih (fun y hy => ha y (List.mem_cons_of_mem _ hy)))

/-- No separator, or one behind the first piece. -/
theorem splitOnP_cases (p : α → Bool) (l : List α) :
    (∀ x ∈ l, p x = false) ∧ l.splitOnP p = [l]
    ∨ ∃ a x rest, l = a ++ x :: rest ∧ (∀ y ∈ a, p y = false) ∧ p x = true
        ∧ l.splitOnP p = a :: rest.splitOnP p := by
  have ha : ∀ x ∈ l.takeWhile (fun x => !p x), p x = false := by
    intro x hx
    simpa using List.mem_takeWhile_imp hx
  have hl := List.takeWhile_append_dropWhile (p := fun x => !p x) (l := l)
  rcases hrest : l.dropWhile (fun x => !p x) with _ | ⟨x, rest⟩
  · rw [hrest, List.append_nil] at hl
    rw [hl] at ha
    exact Or.inl ⟨ha, List.splitOnP_eq_singleton ha⟩
  · have hx : p x = true := by
      have := List.head_dropWhile_not (fun x => !p x) (l := l) (by simp [hrest])
      simpa [hrest] using this
    rw [hrest] at hl
    refine Or.inr ⟨_, x, rest, hl.symm, ha, hx, ?_⟩
    conv_lhs => rw [← hl]
    exact List.splitOnP_append_cons_of_forall_mem ha x hx rest

/-- **A piece** is a stretch without separators between two ends, each of them
an end of the list or a separator. -/
theorem mem_splitOnP_iff {l piece : List α} :
    piece ∈ l.splitOnP p ↔ (∀ x ∈ piece, p x = false) ∧ ∃ pre post, l = pre ++ piece ++ post
      ∧ pre.getLast?.all p = true ∧ post.head?.all p = true := by
  constructor
  · -- cut off the first piece; the induction is on what is left
    intro h
    generalize hn : l.length = n
    induction n using Nat.strong_induction_on generalizing l with
    | _ n ih =>
      rcases splitOnP_cases p l with ⟨hno, hone⟩ | ⟨a, x, rest, hl, ha, hx, hcons⟩
      · rw [hone, List.mem_singleton] at h
        subst h
        exact ⟨hno, [], [], by simp, rfl, rfl⟩
      · rw [hcons] at h
        rcases List.mem_cons.mp h with rfl | h
        · exact ⟨ha, [], x :: rest, by simpa using hl, rfl, by simp [hx]⟩
        · have hlt : rest.length < n := by
            rw [← hn, hl, List.length_append, List.length_cons]
            omega
          obtain ⟨hpiece, pre, post, hrest, hpre, hpost⟩ := ih _ hlt h rfl
          refine ⟨hpiece, a ++ x :: pre, post, by simp [hl, hrest], ?_, hpost⟩
          rw [List.getLast?_append, List.getLast?_cons]
          cases hlast : pre.getLast? with
          | none => simpa using hx
          | some y => simpa [hlast] using hpre
  · rintro ⟨hpiece, pre, post, rfl, hpre, hpost⟩
    -- the separator behind the piece
    have hfirst : ∃ pieces, (piece ++ post).splitOnP p = piece :: pieces := by
      cases post with
      | nil =>
          rw [List.append_nil]
          exact ⟨[], List.splitOnP_eq_singleton hpiece⟩
      | cons y post =>
          have hy : p y = true := by simpa using hpost
          exact ⟨_, List.splitOnP_append_cons_of_forall_mem hpiece y hy post⟩
    obtain ⟨pieces, hpieces⟩ := hfirst
    have hmem : piece ∈ (piece ++ post).splitOnP p := by
      rw [hpieces]
      exact List.mem_cons_self ..
    -- and the one in front of it
    rw [List.append_assoc]
    rcases List.eq_nil_or_concat' pre with rfl | ⟨front, x, rfl⟩
    · exact hmem
    · have hx : p x = true := by simpa using hpre
      rw [List.append_assoc, List.singleton_append, List.splitOnP_append_cons _ _ hx]
      exact List.mem_append_right _ hmem

/-! ## §2. Trims. -/

/-- A trim goes on into the first part when the last part is used up. -/
theorem rdropWhile_append (p : α → Bool) (a b : List α) :
    (a ++ b).rdropWhile p = if b.rdropWhile p = [] then a.rdropWhile p else a ++ b.rdropWhile p := by
  simp only [List.rdropWhile, List.reverse_append, List.dropWhile_append, List.isEmpty_iff,
    List.reverse_eq_nil_iff]
  split
  · rfl
  · rw [List.reverse_append, List.reverse_reverse]

/-- What does not end in such a character is not trimmed. -/
theorem rdropWhile_eq_self {l : List α} (h : l.getLast?.all (fun x => !p x) = true) :
    l.rdropWhile p = l := by
  rcases List.eq_nil_or_concat' l with rfl | ⟨front, x, rfl⟩
  · rfl
  · rw [List.getLast?_concat] at h
    have hx : p x = false := by simpa using h
    rw [List.rdropWhile_concat, if_neg (by simp [hx])]

end Splitting
