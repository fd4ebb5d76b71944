/-
  ValProtocol.Data.Embedded
  ─────────────────────────
  The data phase of one file as a part of a session.

  When the sender enters it, packets of the resume negotiation may still be in
  flight.  To the parties of `ValProtocol.Data.System` they are three more
  things that can happen: the receiver's retry budget is fresh again, the
  sender returns, and an acknowledgement of offset 0 is under way (the
  receiver that starts at 0 by itself, `src/val_receiver.c` lines 492-516,
  sends one before the data phase).

    • `intact_embedded`, `lockstep_embedded` — none of them harms the
      invariants of a transfer,
    • `DataSys.reach_lose`, `DataSys.reach_stray` — losses and stray
      acknowledgements as runs.
-/
import ValProtocol.Lib.Simulations
import ValProtocol.Data.StopAndWait

namespace ValProtocol

/-! ## §1. Steps from outside. -/

/-- A step of the transfer, or one from outside. -/
inductive EmbeddedLabel where
  | own (l : DataLabel)
  | refresh (tries : Nat)
  | quit (st : Status)
  | stray
  deriving DecidableEq

def DataSys.embeddedStep (c : DataParams) (s : DataSys) : EmbeddedLabel → Option DataSys
  | .own l => s.step c l
  | .refresh tries =>
      match s.rcv with
      | .wait d => some { s with rcv := .wait { d with tries := tries } }
      | _ => none
  | .quit st => some { s with snd := .returned st }
  | .stray => some { s with toSnd := s.toSnd ++ [sendBare .dataAck 0] }

/-- A condition on the steps of the transfer. -/
def EmbeddedLabel.Lift (adm : DataSys → DataLabel → Prop) (s : DataSys) : EmbeddedLabel → Prop
  | .own l => adm s l
  | _ => True

/-! ## §2. Nothing is harmed. -/

section Invariants

variable {c : DataParams} {e : Bytes} {s s' : DataSys}

/-- The retry budget plays no part. -/
theorem Intact.refresh (h : Intact c e s) {d : RecvData} (hrcv : s.rcv = .wait d) (tries : Nat) :
    Intact c e { s with rcv := .wait { d with tries := tries } } := by
  have hw : s.written = d.written := by
    rw [DataSys.written, hrcv]
    rfl
  have hfile : FileOk c e (.wait d) := hrcv ▸ h.file_ok
  have hkeep : RecvStepOk c e s.written ([], .wait { d with tries := tries }) := by
    rw [hw]
    exact RecvStepOk.keep hfile ⟨rfl, rfl⟩ fun q hq => absurd hq List.not_mem_nil
  have hi := h.answered hkeep fun _ hd => by cases hd
  simpa [DataSys.answered] using hi

/-- The sender may return at any time. -/
theorem Intact.quit (h : Intact c e s) (st : Status) :
    Intact c e { s with snd := .returned st } := by
  have hi := h.sent (SendStepOk.gone st)
  simpa [DataSys.sent] using hi

/-- An acknowledgement of nothing. -/
theorem Intact.stray (h : Intact c e s) :
    Intact c e { s with toSnd := s.toSnd ++ [sendBare .dataAck 0] } := by
  have hkeep : RecvStepOk c e s.written ([sendBare .dataAck 0], s.rcv) := by
    refine ⟨h.file_ok, Nat.le_refl _, fun q hq => ⟨0, Nat.zero_le _, Or.inl ?_⟩⟩
    exact List.mem_singleton.mp hq
  exact h.answered hkeep h.done_rcv

theorem Lockstep.refresh (h : Lockstep c e s) {d : RecvData} (hrcv : s.rcv = .wait d)
    (tries : Nat) : Lockstep c e { s with rcv := .wait { d with tries := tries } } := by
  have hw : s.written = d.written := by
    rw [DataSys.written, hrcv]
    rfl
  refine ⟨h.intact.refresh hrcv tries, h.explicit, h.one_ok, fun ds hds => ?_⟩
  have hn := h.near ds hds
  refine ⟨?_, hn.flight_near, hn.acks_near⟩
  show d.written = _ ∨ d.written = _
  rw [← hw]
  exact hn.written_near

theorem Lockstep.quit (h : Lockstep c e s) (st : Status) :
    Lockstep c e { s with snd := .returned st } :=
  ⟨h.intact.quit st, h.explicit, nofun, nofun⟩

theorem Lockstep.stray (h : Lockstep c e s) :
    Lockstep c e { s with toSnd := s.toSnd ++ [sendBare .dataAck 0] } := by
  refine ⟨h.intact.stray, h.explicit, h.one_ok, fun ds hds => ?_⟩
  have hn := h.near ds hds
  refine ⟨hn.written_near, hn.flight_near, fun q hq ht => ?_⟩
  rcases List.mem_append.mp hq with hq | hq
  · exact hn.acks_near q hq ht
  · left
    rw [List.mem_singleton.mp hq]
    exact Nat.zero_le _

theorem lockstep_embeddedStep (hc : c.Ok) {l : EmbeddedLabel} (h : Lockstep c e s)
    (hs : s.embeddedStep c l = some s') : Lockstep c e s' := by
  cases l with
  | own l => exact lockstep_step hc hc.maxPayload_gt h hs
  | refresh tries =>
      simp only [DataSys.embeddedStep] at hs
      split at hs
      · rename_i d hrcv
        cases hs
        exact h.refresh hrcv tries
      · cases hs
  | quit st =>
      cases hs
      exact h.quit st
  | stray =>
      cases hs
      exact h.stray

/-- **A window of one packet**, whatever the environment does. -/
theorem lockstep_embedded (hc : c.Ok) {flow : Flow} (hf : flow.Single)
    {adm : DataSys → EmbeddedLabel → Prop}
    (h : Lts.Reach (DataSys.embeddedStep c) adm (DataSys.init c flow e) s) :
    Lockstep c e s :=
  h.invariant (lockstep_init hc hf e) fun _ _ _ hi _ hs => lockstep_embeddedStep hc hi hs

end Invariants

/-! ## §3. Runs of one side of the link. -/

/-- What deleting one element keeps, going over to a sublist keeps. -/
theorem sublist_of_eraseIdx {α : Type*} {P : List α → Prop}
    (hstep : ∀ (l : List α) (i : Nat), P l → P (l.eraseIdx i)) {l₁ l₂ : List α}
    (h : l₁.Sublist l₂) (h₂ : P l₂) : P l₁ := by
  suffices H : ∀ pre : List α, P (pre ++ l₂) → P (pre ++ l₁) from H [] h₂
  clear h₂
  induction h with
  | slnil => exact fun _ hp => hp
  | @cons l₁ l₂ a _ ih =>
      intro pre hp
      apply ih
      have hcut := hstep _ pre.length hp
      rwa [List.eraseIdx_append_of_length_le (Nat.le_refl _), Nat.sub_self,
        List.eraseIdx_cons_zero] at hcut
  | @cons_cons l₁ l₂ a _ ih =>
      intro pre hp
      have hone := ih (pre ++ [a]) (by rwa [List.append_assoc, List.singleton_append])
      rwa [List.append_assoc, List.singleton_append] at hone

section Runs

variable {c : DataParams} {adm : DataSys → DataLabel → Prop}

/-- Both channels lose what they like. -/
theorem DataSys.reach_lose (hadm : ∀ (y : DataSys) (l : DataLabel), l.isEnv = true → adm y l)
    (x : DataSys) {toRcv toSnd : List Send} (hrcv : toRcv.Sublist x.toRcv)
    (hsnd : toSnd.Sublist x.toSnd) :
    Lts.Reach (DataSys.embeddedStep c) (EmbeddedLabel.Lift adm) x
      { x with toRcv := toRcv, toSnd := toSnd } := by
  have hdown : Lts.Reach (DataSys.embeddedStep c) (EmbeddedLabel.Lift adm) x
      { x with toRcv := toRcv } := by
    refine sublist_of_eraseIdx (P := fun l => Lts.Reach (DataSys.embeddedStep c)
      (EmbeddedLabel.Lift adm) x { x with toRcv := l }) ?_ hrcv .refl
    intro l i hl
    exact hl.tail (.own (.loseToRcv i)) (hadm _ _ rfl) rfl
  refine sublist_of_eraseIdx (P := fun l => Lts.Reach (DataSys.embeddedStep c)
    (EmbeddedLabel.Lift adm) x { x with toRcv := toRcv, toSnd := l }) ?_ hsnd hdown
  intro l i hl
  exact hl.tail (.own (.loseToSnd i)) (hadm _ _ rfl) rfl

/-- Acknowledgements of offset 0 arrive behind each other. -/
theorem DataSys.reach_stray (x : DataSys) (acks : List Send)
    (hacks : ∀ p ∈ acks, p = sendBare .dataAck 0) :
    Lts.Reach (DataSys.embeddedStep c) (EmbeddedLabel.Lift adm) x
      { x with toSnd := x.toSnd ++ acks } := by
  induction acks generalizing x with
  | nil =>
      rw [List.append_nil]
      exact .refl
  | cons p acks ih =>
      have hp := hacks p (List.mem_cons_self ..)
      have hone : Lts.Reach (DataSys.embeddedStep c) (EmbeddedLabel.Lift adm) x
          { x with toSnd := x.toSnd ++ [p] } := by
        rw [hp]
        exact .one .stray trivial rfl
      have hrest := ih { x with toSnd := x.toSnd ++ [p] }
        fun q hq => hacks q (List.mem_cons_of_mem _ hq)
      rw [List.append_assoc, List.singleton_append] at hrest
      exact hone.trans hrest

/-- Nothing is left to send behind the offset. -/
theorem startData_complete (cfg : Config) {io : SendFile} (flow : Flow)
    (h : io.size ≤ io.resumeOff) : startData cfg io flow = ([], .complete flow) := by
  have hdone : ¬ (initData io flow).lastAcked < io.size := Nat.not_lt.mpr h
  simp only [startData, dataLoop, hdone, if_false, Move.run]
  rfl

end Runs

end ValProtocol
