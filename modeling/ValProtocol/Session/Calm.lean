/-
  ValProtocol.Session.Calm
  ────────────────────────
  Runs without faults: nothing is lost, no wait times out, the filesystem
  does what it is asked.

  Each party then has at most one thing to do, and what the two do commutes:
  one takes the head of a channel and appends to the other.

    • `calm_diamond` — so ONE run to a state where nothing can happen any
      more decides every run (`Lts.Diamond.steps_to`).
-/
import ValProtocol.Lib.Lts
import ValProtocol.Session.System

namespace ValProtocol

/-- No fault in this label. -/
def SessionLabel.isCalm : SessionLabel → Bool
  | .sndCall | .rcvCall | .sndRecv => true
  | .rcvRecv fs => fs = .good
  | _ => false

/-- One step without faults. -/
def Calm (c : SessionParams) (s s' : SessionSys) : Prop :=
  ∃ l : SessionLabel, l.isCalm = true ∧ s.step c l = some s'

/-! ## §1. What each party can do. -/

/-- The sender's own part of a step: its state, its calls and its channel
before and behind it, and the packets it sends. -/
inductive SendMove (c : SessionParams) (snd : SendState) :
    List (List SourceFile) → List Item → SendState → List (List SourceFile) → List Item →
      List Item → Prop where
  | call {batch : List SourceFile} {calls : List (List SourceFile)} {up : List Item}
      (hidle : snd.pc = .idle) :
      SendMove c snd (batch :: calls) up (snd.call c.snd batch).2 calls up
        ((snd.call c.snd batch).1.map fun p =>
          ⟨p, (snd.call c.snd batch).2.turn, some (snd.call c.snd batch).2.idx⟩)
  | recv {calls : List (List SourceFile)} {it : Item} {up : List Item}
      (hbusy : snd.pc ≠ .idle) :
      SendMove c snd calls (it :: up) (snd.onFrame c.snd it.send.frame).2 calls up
        ((snd.onFrame c.snd it.send.frame).1.map fun p =>
          ⟨p, (snd.onFrame c.snd it.send.frame).2.turn,
            some (snd.onFrame c.snd it.send.frame).2.idx⟩)

/-- The receiver's own part of a step. -/
inductive RecvMove (c : SessionParams) (rcv : RecvState) :
    List Bytes → List Item → RecvState → List Bytes → List Item → List Item → Prop where
  | call {dir : Bytes} {calls : List Bytes} {down : List Item} (hidle : rcv.pc = .idle) :
      RecvMove c rcv (dir :: calls) down (rcv.call c.rcv dir) calls down []
  | recv {calls : List Bytes} {it : Item} {down : List Item} (hbusy : rcv.pc ≠ .idle) :
      RecvMove c rcv calls (it :: down) (rcv.onFrame c.rcv it.send.frame .good).2 calls down
        ((rcv.onFrame c.rcv it.send.frame .good).1.map fun p => ⟨p, rcv.turn, rcv.handling⟩)

section Moves

variable {c : SessionParams} {s s' : SessionSys} {snd snd' : SendState} {rcv rcv' : RecvState}
  {calls calls' : List (List SourceFile)} {dirs dirs' : List Bytes}
  {up up' down down' out : List Item}

theorem SendMove.calm (h : SendMove c s.snd s.sndCalls s.toSnd snd' calls' up' out) :
    Calm c s { s with snd := snd', sndCalls := calls', toSnd := up', toRcv := s.toRcv ++ out } := by
  obtain ⟨snd, rcv, toRcv, toSnd, sndCalls, rcvCalls⟩ := s
  cases h with
  | call hidle =>
      refine ⟨.sndCall, rfl, ?_⟩
      simp only [SessionSys.step, show snd.pc = .idle from hidle, if_true]
      rfl
  | recv hbusy =>
      refine ⟨.sndRecv, rfl, ?_⟩
      simp only [SessionSys.step, show ¬ snd.pc = .idle from hbusy, if_false]
      rfl

theorem RecvMove.calm (h : RecvMove c s.rcv s.rcvCalls s.toRcv rcv' dirs' down' out) :
    Calm c s { s with rcv := rcv', rcvCalls := dirs', toRcv := down', toSnd := s.toSnd ++ out } := by
  obtain ⟨snd, rcv, toRcv, toSnd, sndCalls, rcvCalls⟩ := s
  cases h with
  | call hidle =>
      refine ⟨.rcvCall, rfl, ?_⟩
      simp only [SessionSys.step, show rcv.pc = .idle from hidle, if_true, List.append_nil]
  | recv hbusy =>
      refine ⟨.rcvRecv .good, rfl, ?_⟩
      simp only [SessionSys.step, show ¬ rcv.pc = .idle from hbusy, if_false]
      rfl

/-- **Inversion of a step without faults.** -/
theorem Calm.cases (h : Calm c s s') :
    (∃ snd' calls' up' out, SendMove c s.snd s.sndCalls s.toSnd snd' calls' up' out
      ∧ s' = { s with
          snd := snd', sndCalls := calls', toSnd := up', toRcv := s.toRcv ++ out })
    ∨ ∃ rcv' dirs' down' out, RecvMove c s.rcv s.rcvCalls s.toRcv rcv' dirs' down' out
      ∧ s' = { s with
          rcv := rcv', rcvCalls := dirs', toRcv := down', toSnd := s.toSnd ++ out } := by
  obtain ⟨snd, rcv, toRcv, toSnd, sndCalls, rcvCalls⟩ := s
  obtain ⟨l, hl, hstep⟩ := h
  cases SessionSys.step_inv hstep with
  | sndCall hcalls hidle =>
      cases hcalls
      exact Or.inl ⟨_, _, _, _, .call hidle, rfl⟩
  | rcvCall hcalls hidle =>
      cases hcalls
      refine Or.inr ⟨_, _, _, _, .call hidle, ?_⟩
      simp only [List.append_nil]
  | sndRecv hchan hbusy =>
      cases hchan
      exact Or.inl ⟨_, _, _, _, .recv hbusy, rfl⟩
  | sndTimeout hbusy => cases hl
  | @rcvRecv it rest fs hchan hbusy =>
      have hfs : fs = .good := of_decide_eq_true hl
      subst hfs
      cases hchan
      exact Or.inr ⟨_, _, _, _, .recv hbusy, rfl⟩
  | rcvTimeout hbusy => cases hl
  | lose hloss _ _ => cases l <;> first | (cases hloss; done) | cases hl

/-- More behind the head of its channel does not change what a party does. -/
theorem SendMove.extend (h : SendMove c snd calls up snd' calls' up' out) (more : List Item) :
    SendMove c snd calls (up ++ more) snd' calls' (up' ++ more) out := by
  cases h with
  | call hidle => exact .call hidle
  | recv hbusy => exact .recv hbusy

theorem RecvMove.extend (h : RecvMove c rcv dirs down rcv' dirs' down' out)
    (more : List Item) : RecvMove c rcv dirs (down ++ more) rcv' dirs' (down' ++ more) out := by
  cases h with
  | call hidle => exact .call hidle
  | recv hbusy => exact .recv hbusy

theorem SendMove.unique {snd₁ snd₂ : SendState} {calls₁ calls₂ : List (List SourceFile)}
    {up₁ up₂ out₁ out₂ : List Item} (h1 : SendMove c snd calls up snd₁ calls₁ up₁ out₁)
    (h2 : SendMove c snd calls up snd₂ calls₂ up₂ out₂) :
    snd₁ = snd₂ ∧ calls₁ = calls₂ ∧ up₁ = up₂ ∧ out₁ = out₂ := by
  cases h1 with
  | call hidle =>
      cases h2 with
      | call hidle' => exact ⟨rfl, rfl, rfl, rfl⟩
      | recv hbusy => exact absurd hidle hbusy
  | recv hbusy =>
      cases h2 with
      | call hidle => exact absurd hidle hbusy
      | recv hbusy' => exact ⟨rfl, rfl, rfl, rfl⟩

theorem RecvMove.unique {rcv₁ rcv₂ : RecvState} {dirs₁ dirs₂ : List Bytes}
    {down₁ down₂ out₁ out₂ : List Item} (h1 : RecvMove c rcv dirs down rcv₁ dirs₁ down₁ out₁)
    (h2 : RecvMove c rcv dirs down rcv₂ dirs₂ down₂ out₂) :
    rcv₁ = rcv₂ ∧ dirs₁ = dirs₂ ∧ down₁ = down₂ ∧ out₁ = out₂ := by
  cases h1 with
  | call hidle =>
      cases h2 with
      | call hidle' => exact ⟨rfl, rfl, rfl, rfl⟩
      | recv hbusy => exact absurd hidle hbusy
  | recv hbusy =>
      cases h2 with
      | call hidle => exact absurd hidle hbusy
      | recv hbusy' => exact ⟨rfl, rfl, rfl, rfl⟩

end Moves

/-! ## §2. The diamond. -/

/-- **Steps without faults commute.** -/
theorem calm_diamond (c : SessionParams) : Lts.Diamond (Calm c) := by
  intro s s₁ s₂ h1 h2
  -- a step of each party: both orders lead to the same state
  have hmixed : ∀ {snd' : SendState} {calls' : List (List SourceFile)} {up' outS : List Item}
      {rcv' : RecvState} {dirs' : List Bytes} {down' outR : List Item},
      SendMove c s.snd s.sndCalls s.toSnd snd' calls' up' outS →
      RecvMove c s.rcv s.rcvCalls s.toRcv rcv' dirs' down' outR →
      ∃ t, Calm c { s with
            snd := snd', sndCalls := calls', toSnd := up', toRcv := s.toRcv ++ outS } t
        ∧ Calm c { s with
            rcv := rcv', rcvCalls := dirs', toRcv := down', toSnd := s.toSnd ++ outR } t := by
    intro snd' calls' up' outS rcv' dirs' down' outR hs hr
    have hr' := (hr.extend outS).calm (s := { s with
      snd := snd', sndCalls := calls', toSnd := up', toRcv := s.toRcv ++ outS })
    have hs' := (hs.extend outR).calm (s := { s with
      rcv := rcv', rcvCalls := dirs', toRcv := down', toSnd := s.toSnd ++ outR })
    exact ⟨_, hr', hs'⟩
  rcases h1.cases with ⟨snd₁, calls₁, up₁, out₁, hs1, rfl⟩ | ⟨rcv₁, dirs₁, down₁, out₁, hr1, rfl⟩
  · rcases h2.cases with ⟨snd₂, calls₂, up₂, out₂, hs2, rfl⟩ | ⟨rcv₂, dirs₂, down₂, out₂, hr2, rfl⟩
    · obtain ⟨rfl, rfl, rfl, rfl⟩ := hs1.unique hs2
      exact Or.inl rfl
    · exact Or.inr (hmixed hs1 hr2)
  · rcases h2.cases with ⟨snd₂, calls₂, up₂, out₂, hs2, rfl⟩ | ⟨rcv₂, dirs₂, down₂, out₂, hr2, rfl⟩
    · obtain ⟨t, ht1, ht2⟩ := hmixed hs2 hr1
      exact Or.inr ⟨t, ht2, ht1⟩
    · obtain ⟨rfl, rfl, rfl, rfl⟩ := hr1.unique hr2
      exact Or.inl rfl

end ValProtocol
