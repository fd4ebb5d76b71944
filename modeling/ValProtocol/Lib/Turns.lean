/-
  ValProtocol.Lib.Turns
  ─────────────────────
  Turn taking over two FIFO channels without sequence numbers.

  A client works through a row of exchanges, one after the other; a server
  follows.  The client leaves an exchange only on the server's closing
  answer, which the server sends once, as its last word in that exchange.
  Both may repeat everything else, and the channels may lose anything.

  `Ok v p q inside down up` is what then holds of the client's exchange `p`,
  the server's exchange `q` and the two channels: the server is at most one
  exchange ahead, the client's channel holds nothing but the current and the
  previous exchange, in this order, and the server's channel nothing but the
  current one, with the closing answer at its end.  The rules below say what
  each kind of step does to it.
-/
import Mathlib.Data.List.Basic

namespace Turns

universe u

variable {ι : Type u}

/-- How an item of a channel is read: the exchange it was sent in, whether it
opens an exchange, whether it closes one. -/
structure View (ι : Type u) where
  turn : ι → Nat
  opens : ι → Prop
  closes : ι → Prop

/-- Sent earlier: an opening item is the first of its exchange. -/
def View.Before (v : View ι) (a b : ι) : Prop :=
  v.turn a ≤ v.turn b ∧ (v.opens b → v.turn a < v.turn b)

/-- The turn-taking invariant; `inside` says that the server has accepted the
opening item of its exchange and not closed it. -/
structure Ok (v : View ι) (p q : Nat) (inside : Prop) (down up : List ι) : Prop where
  turn_le : p ≤ q
  turn_ge : q ≤ p + 1
  down_le : ∀ i ∈ down, v.turn i ≤ p
  down_ge : ∀ i ∈ down, q ≤ v.turn i + 1
  down_order : down.Pairwise v.Before
  down_opens : ∀ i ∈ down, v.opens i → v.turn i = q ∧ ¬ inside
  inside_turn : inside → q = p ∧ ∀ i ∈ down, v.turn i = q
  up_turn : ∀ i ∈ up, v.turn i = p
  up_closes : ∀ i ∈ up, v.closes i → q = p + 1
  up_last : up.Pairwise (fun a _ => ¬ v.closes a)

variable {v : View ι} {p q : Nat} {inside : Prop} {down up : List ι}

theorem Ok.init (v : View ι) : Ok v 0 0 False [] [] where
  turn_le := Nat.le_refl _
  turn_ge := Nat.zero_le _
  down_le := fun _ hi => absurd hi List.not_mem_nil
  down_ge := fun _ hi => absurd hi List.not_mem_nil
  down_order := List.Pairwise.nil
  down_opens := fun _ hi => absurd hi List.not_mem_nil
  inside_turn := fun h => absurd h id
  up_turn := fun _ hi => absurd hi List.not_mem_nil
  up_closes := fun _ hi => absurd hi List.not_mem_nil
  up_last := List.Pairwise.nil

/-! ## §1. Losing and waiting. -/

/-- Items may disappear. -/
theorem Ok.lose (h : Ok v p q inside down up) {down' up' : List ι}
    (hd : down'.Sublist down) (hu : up'.Sublist up) : Ok v p q inside down' up' where
  turn_le := h.turn_le
  turn_ge := h.turn_ge
  down_le := fun i hi => h.down_le i (hd.subset hi)
  down_ge := fun i hi => h.down_ge i (hd.subset hi)
  down_order := h.down_order.sublist hd
  down_opens := fun i hi => h.down_opens i (hd.subset hi)
  inside_turn := fun hin =>
    ⟨(h.inside_turn hin).1, fun i hi => (h.inside_turn hin).2 i (hd.subset hi)⟩
  up_turn := fun i hi => h.up_turn i (hu.subset hi)
  up_closes := fun i hi => h.up_closes i (hu.subset hi)
  up_last := h.up_last.sublist hu

/-- The server takes an item. -/
theorem Ok.take_down {i : ι} {rest : List ι} (h : Ok v p q inside (i :: rest) up) :
    Ok v p q inside rest up :=
  h.lose (List.sublist_cons_self i rest) (List.Sublist.refl _)

/-- The server may give up. -/
theorem Ok.leave (h : Ok v p q inside down up) {inside' : Prop} (hin : ¬ inside') :
    Ok v p q inside' down up :=
  { h with
    down_opens := fun i hi ho => ⟨(h.down_opens i hi ho).1, hin⟩
    inside_turn := fun h' => absurd h' hin }

/-! ## §2. The client. -/

/-- More of the same exchange. -/
theorem Ok.send (h : Ok v p q inside down up) {new : List ι}
    (hturn : ∀ i ∈ new, v.turn i = p) (hnew : ∀ i ∈ new, ¬ v.opens i) :
    Ok v p q inside (down ++ new) up where
  turn_le := h.turn_le
  turn_ge := h.turn_ge
  down_le := by
    intro i hi
    rcases List.mem_append.mp hi with hi | hi
    · exact h.down_le i hi
    · exact Nat.le_of_eq (hturn i hi)
  down_ge := by
    intro i hi
    rcases List.mem_append.mp hi with hi | hi
    · exact h.down_ge i hi
    · rw [hturn i hi]
      exact h.turn_ge
  down_order := by
    -- what is new belongs to the current turn, and none of it opens
    refine List.pairwise_append.mpr ⟨h.down_order, ?_, ?_⟩
    · refine List.pairwise_of_forall_mem_list ?_
      intro a ha b hb
      exact ⟨Nat.le_of_eq (by rw [hturn a ha, hturn b hb]), fun ho => absurd ho (hnew b hb)⟩
    · intro a ha b hb
      exact ⟨by rw [hturn b hb]; exact h.down_le a ha, fun ho => absurd ho (hnew b hb)⟩
  down_opens := by
    intro i hi ho
    rcases List.mem_append.mp hi with hi | hi
    · exact h.down_opens i hi ho
    · exact absurd ho (hnew i hi)
  inside_turn := by
    intro hin
    obtain ⟨hqp, hall⟩ := h.inside_turn hin
    refine ⟨hqp, ?_⟩
    intro i hi
    rcases List.mem_append.mp hi with hi | hi
    · exact hall i hi
    · rw [hturn i hi, hqp]
  up_turn := h.up_turn
  up_closes := h.up_closes
  up_last := h.up_last

/-- **The closing answer**: it is the last item, the server is one exchange
ahead, and everything still on its way to it is old. -/
theorem Ok.closing {i : ι} {rest : List ι} (h : Ok v p q inside down (i :: rest))
    (hi : v.closes i) :
    q = p + 1 ∧ rest = [] ∧ ¬ inside ∧ ∀ j ∈ down, v.turn j = p := by
  have hq : q = p + 1 := h.up_closes i (List.mem_cons_self ..) hi
  refine ⟨hq, ?_, ?_, ?_⟩
  · cases rest with
    | nil => rfl
    | cons j rest =>
        have := (List.pairwise_cons.mp h.up_last).1 j (List.mem_cons_self ..)
        exact absurd hi this
  · intro hin
    have := (h.inside_turn hin).1
    omega
  · intro j hj
    have h1 := h.down_le j hj
    have h2 := h.down_ge j hj
    omega

/-- The client moves on to the next exchange, nothing sent yet. -/
theorem Ok.advance {i : ι} {rest : List ι} (h : Ok v p q inside down (i :: rest))
    (hi : v.closes i) : Ok v (p + 1) q inside down rest := by
  obtain ⟨hq, rfl, hin, hdown⟩ := h.closing hi
  exact
    { turn_le := Nat.le_of_eq hq.symm
      turn_ge := by omega
      down_le := fun j hj => by rw [hdown j hj]; omega
      down_ge := h.down_ge
      down_order := h.down_order
      down_opens := h.down_opens
      inside_turn := fun h' => absurd h' hin
      up_turn := fun _ hj => absurd hj List.not_mem_nil
      up_closes := fun _ hj => absurd hj List.not_mem_nil
      up_last := List.Pairwise.nil }

/-- The client opens its exchange. -/
theorem Ok.openTurn (h : Ok v p q inside down up) (hq : q = p) (hin : ¬ inside)
    (hold : ∀ j ∈ down, v.turn j < p) {o : ι} (ho : v.turn o = p) :
    Ok v p q inside (down ++ [o]) up where
  turn_le := h.turn_le
  turn_ge := h.turn_ge
  down_le := by
    intro i hi
    rcases List.mem_append.mp hi with hi | hi
    · exact h.down_le i hi
    · rw [List.mem_singleton.mp hi]
      exact Nat.le_of_eq ho
  down_ge := by
    intro i hi
    rcases List.mem_append.mp hi with hi | hi
    · exact h.down_ge i hi
    · rw [List.mem_singleton.mp hi, ho]
      exact h.turn_ge
  down_order := by
    refine List.pairwise_append.mpr ⟨h.down_order, List.pairwise_singleton _ _, ?_⟩
    intro a ha b hb
    rw [List.mem_singleton.mp hb]
    refine ⟨?_, fun _ => ?_⟩
    · rw [ho]
      exact h.down_le a ha
    · rw [ho]
      exact hold a ha
  down_opens := by
    intro i hi hopen
    rcases List.mem_append.mp hi with hi | hi
    · exact h.down_opens i hi hopen
    · rw [List.mem_singleton.mp hi, ho]
      exact ⟨hq.symm, hin⟩
  inside_turn := fun h' => absurd h' hin
  up_turn := h.up_turn
  up_closes := h.up_closes
  up_last := h.up_last

/-! ## §3. The server. -/

/-- An item of the server's own exchange: the client is there too, and so is
everything behind it. -/
theorem Ok.current {i : ι} {rest : List ι} (h : Ok v p q inside (i :: rest) up)
    (hi : v.turn i = q) : p = q ∧ ∀ j ∈ rest, v.turn j = q := by
  have hp : p = q := by
    have h1 := h.down_le i (List.mem_cons_self ..)
    have h2 := h.turn_le
    omega
  refine ⟨hp, ?_⟩
  intro j hj
  have h1 := ((List.pairwise_cons.mp h.down_order).1 j hj).1
  have h2 := h.down_le j (List.mem_cons_of_mem _ hj)
  omega

/-- **The opening item**: nothing behind it opens again. -/
theorem Ok.enter {i : ι} {rest : List ι} (h : Ok v p q inside (i :: rest) up)
    (hi : v.opens i) {inside' : Prop} : Ok v p q inside' rest up := by
  have hturn := (h.down_opens i (List.mem_cons_self ..) hi).1
  obtain ⟨hp, hrest⟩ := h.current hturn
  have hno : ∀ j ∈ rest, ¬ v.opens j := by
    intro j hj ho
    have := ((List.pairwise_cons.mp h.down_order).1 j hj).2 ho
    rw [hturn, hrest j hj] at this
    omega
  exact
    { h.take_down with
      down_opens := fun j hj ho => absurd ho (hno j hj)
      inside_turn := fun _ => ⟨hp.symm, hrest⟩ }

/-- An answer inside the exchange. -/
theorem Ok.reply (h : Ok v p q inside down up) (hin : inside) {new : List ι}
    (hturn : ∀ i ∈ new, v.turn i = q) (hnew : ∀ i ∈ new, ¬ v.closes i) :
    Ok v p q inside down (up ++ new) := by
  have hqp := (h.inside_turn hin).1
  have hno : ∀ i ∈ up ++ new, ¬ v.closes i := by
    intro i hi hc
    rcases List.mem_append.mp hi with hi | hi
    · have := h.up_closes i hi hc
      omega
    · exact hnew i hi hc
  exact
    { h with
      up_turn := by
        intro i hi
        rcases List.mem_append.mp hi with hi | hi
        · exact h.up_turn i hi
        · rw [hturn i hi, hqp]
      up_closes := fun i hi hc => absurd hc (hno i hi)
      up_last := List.pairwise_of_forall_mem_list (fun a ha _ _ => hno a ha) }

/-- **The server closes its exchange** on an item of that exchange. -/
theorem Ok.close {i : ι} {rest : List ι} (h : Ok v p q inside (i :: rest) up)
    (hi : v.turn i = q) (hno : ∀ j ∈ rest, ¬ v.opens j) {a : ι} (ha : v.turn a = q)
    {inside' : Prop} (hin : ¬ inside') : Ok v p (q + 1) inside' rest (up ++ [a]) := by
  obtain ⟨hp, hrest⟩ := h.current hi
  have hup : ∀ j ∈ up, ¬ v.closes j := by
    intro j hj hc
    have := h.up_closes j hj hc
    omega
  exact
    { turn_le := by omega
      turn_ge := by omega
      down_le := h.take_down.down_le
      down_ge := fun j hj => Nat.le_of_eq (by rw [hrest j hj])
      down_order := h.take_down.down_order
      down_opens := fun j hj ho => absurd ho (hno j hj)
      inside_turn := fun h' => absurd h' hin
      up_turn := by
        intro j hj
        rcases List.mem_append.mp hj with hj | hj
        · exact h.up_turn j hj
        · rw [List.mem_singleton.mp hj, ha, hp]
      up_closes := by
        intro j hj hc
        omega
      up_last := by
        refine List.pairwise_append.mpr ⟨h.up_last, List.pairwise_singleton _ _, ?_⟩
        intro j hj _ _
        exact hup j hj }

end Turns
