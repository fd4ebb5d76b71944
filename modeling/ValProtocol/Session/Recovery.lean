/-
  ValProtocol.Session.Recovery
  ────────────────────────────
  Losses within the retry budget leave no trace.

  With a window of one packet every request of the sender is sent again until
  it is answered.  So a session that loses requests, or answers that the
  receiver can give once more, runs behind one that loses nothing (`Shadow`):
  the same parties up to retry counters and flow control, with at most the
  token missing from the channels.

    • `shadow_simulation` — a session whose losses are paid for out of a budget
      simulates the one without faults,
    • `losses_recovered` — so no call fails and no run goes on for ever, and
      where nothing changes any more the batch has arrived.
-/
import ValProtocol.Lib.Budgets
import ValProtocol.Session.Termination
import ValProtocol.Session.Token

namespace ValProtocol

/-! ## §1. What may go wrong. -/

/-- Packets that the sender sends until they are answered. -/
def PacketType.isResent : PacketType → Bool
  | .hello | .resumeReq | .verify | .data | .done | .eot => true
  | _ => false

/-- What a step costs the environment.  A wait of the sender times out when
nothing is in flight; the receiver's waits may time out at any time, but for
the short look for a RESUME_REQ; a lost packet is one that is sent again, or an
answer that the receiver can give once more.  The handshake does not run out
of time, and the filesystem does what it is asked. -/
def faultCost (s : SessionSys) : SessionLabel → Option Nat
  | .sndCall | .rcvCall | .sndRecv => some 0
  | .rcvRecv fs => if fs = .good then some 0 else none
  | .sndTimeout timer =>
      if timer ≠ .expired ∧ s.toRcv.isEmpty ∧ s.toSnd.isEmpty then some 0 else none
  | .rcvTimeout timer _ =>
      match s.rcv.pc with
      | .neverPeek _ => none
      | .helloWait => if timer = .expired then none else some 0
      | _ => some 1
  | .loseToRcv i => if (s.toRcv[i]?).any (fun it => it.send.type.isResent) then some 1 else none
  | .loseToSnd i => if (s.toSnd[i]?).any (fun it => s.rcv.pc.repeats it.send) then some 1 else none

/-- The session and what is left to lose. -/
def lossyStep (c : SessionParams) :
    SessionSys × Nat → SessionLabel → Option (SessionSys × Nat) :=
  Lts.budgeted (SessionSys.step c) faultCost

/-- Both sides bear `k` losses in a row. -/
structure SessionParams.Patient (c : SessionParams) (k : Nat) : Prop where
  snd : c.snd.Lasts k
  rcv : c.rcv.Lasts k

/-! ## §2. The shadow. -/

/-- **What is missing** from the channels of `s`, with `k` more losses to come;
`t` is the session without faults. -/
inductive Missing (c : SessionParams) (k : Nat) (s t : SessionSys) : Prop where
  /-- nothing -/
  | nothing (hdown : s.toRcv.map Item.send = t.toRcv.map Item.send)
      (hup : s.toSnd.map Item.send = t.toSnd.map Item.send) (hl : s.snd.pc.Lasts k)
  /-- the request, behind `pre` -/
  | request {pre : List Send} {req : Send} (hreq : t.snd.pc.request c.snd.cfg = some req)
      (hdown : s.toRcv.map Item.send = pre) (hdown' : t.toRcv.map Item.send = pre ++ [req])
      (hup : s.toSnd = []) (hup' : t.toSnd = []) (hl : s.snd.pc.Lasts (k + 1))
  /-- the answer -/
  | answer {req p : Send} (hreq : t.snd.pc.request c.snd.cfg = some req)
      (hdown : s.toRcv = []) (hup : s.toSnd = []) (hup' : t.toSnd.map Item.send = [p])
      (hrep : t.rcv.pc.repeats p = true) (hl : s.snd.pc.Lasts (k + 1))
  /-- the answer, which has been asked for again -/
  | asked {req p : Send} (hreq : t.snd.pc.request c.snd.cfg = some req)
      (hdown : s.toRcv.map Item.send = [req]) (hup : s.toSnd = [])
      (hup' : t.toSnd.map Item.send = [p]) (hrep : t.rcv.pc.repeats p = true)
      (hl : s.snd.pc.Lasts k)

/-- The session `x.1`, with `x.2` losses to come, and the one without faults. -/
structure Shadow (c : SessionParams) (batch : List SourceFile) (final : Bytes → Option Bytes)
    (done : List MetaPayload) (K : Nat) (x : SessionSys × Nat) (t : SessionSys) : Prop where
  solo : Solo c batch x.1
  guided : Guided c batch final done t
  snd : x.1.snd.Alike c.snd.cfg t.snd
  rcv : x.1.rcv.Alike t.rcv
  sndCalls_eq : x.1.sndCalls = t.sndCalls
  rcvCalls_eq : x.1.rcvCalls = t.rcvCalls
  budget : x.2 ≤ K
  patient : x.1.rcv.pc.Lasts x.2
  missing : Missing c x.2 x.1 t

section Shadow

variable {c : SessionParams} {batch : List SourceFile} {final : Bytes → Option Bytes}
  {done : List MetaPayload} {K k : Nat} {s t : SessionSys}

theorem Token.up_nil (h : Token c t) (hdown : t.toRcv ≠ []) : t.toSnd = [] := by
  cases h with
  | quiet _ hnil => exact absurd hnil hdown
  | header _ _ _ hup => exact hup
  | asks _ _ hup => exact hup
  | told _ hnil => exact absurd hnil hdown

/-- What is on its way to the sender is the answer. -/
theorem Token.answer (h : Token c t) (hsome : t.toSnd ≠ []) :
    ∃ req p, t.snd.pc.request c.snd.cfg = some req ∧ t.toRcv = [] ∧ t.toSnd.map Item.send = [p]
      ∧ t.rcvCalls = [] ∧ Told c.rcv req p t.rcv := by
  cases h with
  | quiet _ _ hnil => exact absurd hnil hsome
  | header _ _ _ hnil => exact absurd hnil hsome
  | asks _ _ hnil => exact absurd hnil hsome
  | @told req p hreq hdown hup hcalls h => exact ⟨req, p, hreq, hdown, hup, hcalls, h⟩

theorem Token.told_of (h : Token c t) {p : Send} (hup : t.toSnd.map Item.send = [p]) {req : Send}
    (hreq : t.snd.pc.request c.snd.cfg = some req) :
    t.toRcv = [] ∧ t.rcvCalls = [] ∧ Told c.rcv req p t.rcv := by
  have hne : t.toSnd ≠ [] := by
    intro hnil
    rw [hnil] at hup
    cases hup
  obtain ⟨req', p', hreq', hdown, hup', hcalls, htold⟩ := h.answer hne
  rw [hreq] at hreq'
  cases hreq'
  rw [hup] at hup'
  cases hup'
  exact ⟨hdown, hcalls, htold⟩

theorem RecvPc.Alike.repeats_eq {pc pc' : RecvPc} (h : pc.Alike pc') (p : Send) :
    pc'.repeats p = pc.repeats p := by
  cases h <;> rfl

theorem RecvPc.Alike.idle_iff {pc pc' : RecvPc} (h : pc.Alike pc') :
    pc = .idle ↔ pc' = .idle := by
  cases h <;> simp

theorem RecvState.Alike.idle_iff {r r' : RecvState} (h : r.Alike r') :
    r.pc = .idle ↔ r'.pc = .idle := by
  obtain ⟨pc, rfl, hpc⟩ := h
  exact hpc.idle_iff

theorem RecvState.Alike.repeats_eq {r r' : RecvState} (h : r.Alike r') (p : Send) :
    r'.pc.repeats p = r.pc.repeats p := by
  obtain ⟨pc, rfl, hpc⟩ := h
  exact hpc.repeats_eq p

theorem RecvState.Alike.dataWait_of {r r' : RecvState} (h : r.Alike r') {f : RecvFile}
    {d : RecvData} (hpc : r'.pc = .dataWait f d) : ∃ d', r.pc = .dataWait f d' := by
  obtain ⟨pc, rfl, hal⟩ := h
  obtain rfl : pc = .dataWait f d := hpc
  generalize r.pc = rpc at hal
  generalize hd : RecvPc.dataWait f d = pc' at hal
  cases hal with
  | dataWait g e m n =>
      cases hd
      exact ⟨_, Eq.refl _⟩
  | _ => cases hd

theorem SendState.Alike.idle_iff {cfg : Config} {r r' : SendState} (h : r.Alike cfg r') :
    r.pc = .idle ↔ r'.pc = .idle := by
  obtain ⟨pc, flow, rfl, hpc⟩ := h
  exact hpc.idle_iff

/-- Both senders send the same. -/
theorem Missing.sent {rs rt : List Send × SendState} (hsends : rs.1 = rt.1)
    (hdown : s.toRcv.map Item.send = t.toRcv.map Item.send)
    (hup : s.toSnd.map Item.send = t.toSnd.map Item.send) (hl : rs.2.pc.Lasts k) :
    Missing c k (s.sent rs) (t.sent rt) := by
  refine .nothing ?_ hup hl
  show (s.toRcv ++ rs.1.map _).map Item.send = (t.toRcv ++ rt.1.map _).map Item.send
  rw [List.map_append, List.map_append, map_send_stamped, map_send_stamped, hdown, hsends]

/-- Both receivers answer the same. -/
theorem Missing.answered {rs rt : List Send × RecvState} (hsends : rs.1 = rt.1)
    (hdown : s.toRcv.map Item.send = t.toRcv.map Item.send)
    (hup : s.toSnd.map Item.send = t.toSnd.map Item.send) (hl : s.snd.pc.Lasts k) :
    Missing c k (s.answered rs) (t.answered rt) := by
  refine .nothing hdown ?_ hl
  show (s.toSnd ++ rs.1.map _).map Item.send = (t.toSnd ++ rt.1.map _).map Item.send
  rw [List.map_append, List.map_append, map_send_stamped, map_send_stamped, hup, hsends]

/-- **An answer on its way** is in both sessions. -/
theorem Shadow.answering (h : Shadow c batch final done K (s, k) t) (hsome : s.toSnd ≠ []) :
    ∃ req p, t.snd.pc.request c.snd.cfg = some req ∧ s.toRcv = [] ∧ s.toSnd.map Item.send = [p]
      ∧ t.toRcv = [] ∧ t.toSnd.map Item.send = [p] ∧ t.rcvCalls = [] ∧ s.snd.pc.Lasts k
      ∧ Told c.rcv req p t.rcv := by
  have hmissing := h.missing
  cases hmissing with
  | request _ _ _ hup => exact absurd hup hsome
  | answer _ _ hup => exact absurd hup hsome
  | asked _ _ hup => exact absurd hup hsome
  | nothing hdown hup hl =>
      replace hdown : s.toRcv.map Item.send = t.toRcv.map Item.send := hdown
      replace hup : s.toSnd.map Item.send = t.toSnd.map Item.send := hup
      have hsome' : t.toSnd ≠ [] := by
        intro hnil
        rw [hnil] at hup
        exact hsome (List.map_eq_nil_iff.mp hup)
      obtain ⟨req, p, hreq, hdown', hup', hcalls, htold⟩ := h.guided.token.answer hsome'
      rw [hdown'] at hdown
      exact ⟨req, p, hreq, List.map_eq_nil_iff.mp hdown, hup.trans hup', hdown', hup', hcalls, hl,
        htold⟩

/-- What may be on its way to the receiver. -/
inductive Asking (c : SessionParams) (k : Nat) (s t : SessionSys) : Prop where
  /-- the header of a file and RESUME_REQ -/
  | header {n : Nat} {path : Option Bytes} {src : SourceFile}
      (hreq : t.snd.pc.request c.snd.cfg = some (sendBare .resumeReq 0))
      (hrpc : t.rcv.pc = .metaWait n)
      (hdown : s.toRcv.map Item.send = [sendMeta path src, sendBare .resumeReq 0])
      (hdown' : t.toRcv.map Item.send = [sendMeta path src, sendBare .resumeReq 0])
      (hup : s.toSnd = []) (hup' : t.toSnd = []) (hl : s.snd.pc.Lasts k)
  /-- the header alone -/
  | bereft {n : Nat} {path : Option Bytes} {src : SourceFile}
      (hreq : t.snd.pc.request c.snd.cfg = some (sendBare .resumeReq 0))
      (hrpc : t.rcv.pc = .metaWait n)
      (hdown : s.toRcv.map Item.send = [sendMeta path src]) (hup : s.toSnd = [])
  /-- a request -/
  | asks {req : Send} (hreq : t.snd.pc.request c.snd.cfg = some req)
      (hdown : s.toRcv.map Item.send = [req]) (hdown' : t.toRcv.map Item.send = [req])
      (hup : s.toSnd = []) (hup' : t.toSnd = []) (hl : s.snd.pc.Lasts k)
  /-- a request for the second time -/
  | again {req p : Send} (hreq : t.snd.pc.request c.snd.cfg = some req)
      (hdown : s.toRcv.map Item.send = [req]) (hup : s.toSnd = [])
      (hup' : t.toSnd.map Item.send = [p]) (hrep : t.rcv.pc.repeats p = true)
      (hl : s.snd.pc.Lasts k)

theorem Shadow.asking (h : Shadow c batch final done K (s, k) t) (hsome : s.toRcv ≠ []) :
    Asking c k s t := by
  have hmissing := h.missing
  have htoken := h.guided.token
  cases hmissing with
  | nothing hdown hup hl =>
      replace hdown : s.toRcv.map Item.send = t.toRcv.map Item.send := hdown
      replace hup : s.toSnd.map Item.send = t.toSnd.map Item.send := hup
      have hsome' : t.toRcv ≠ [] := by
        intro hnil
        rw [hnil] at hdown
        exact hsome (List.map_eq_nil_iff.mp hdown)
      have hup' := htoken.up_nil hsome'
      rw [hup'] at hup
      have hup₀ : s.toSnd = [] := List.map_eq_nil_iff.mp hup
      cases htoken with
      | quiet _ hnil => exact absurd hnil hsome'
      | header hspc hrpc hdown' _ =>
          exact .header (by rw [hspc]; rfl) hrpc (hdown.trans hdown') hdown' hup₀ hup' hl
      | asks hreq hdown' _ _ => exact .asks hreq (hdown.trans hdown') hdown' hup₀ hup' hl
      | told _ hnil => exact absurd hnil hsome'
  | @request pre req hreq hdown hdown' hup _ _ =>
      -- the packet in front of a lost request is the header
      replace hdown : s.toRcv.map Item.send = pre := hdown
      cases htoken with
      | quiet _ hnil =>
          rw [hnil] at hdown'
          exact absurd hdown'.symm (List.append_ne_nil_of_right_ne_nil _ (List.cons_ne_nil _ _))
      | @header content m n path src hspc hrpc hdown₀ _ =>
          rw [hdown₀] at hdown'
          have hpre : [sendMeta path src] = pre :=
            (congrArg List.dropLast hdown').trans List.dropLast_concat
          exact .bereft (by rw [hspc]; rfl) hrpc (hdown.trans hpre.symm) hup
      | asks _ hdown₀ _ _ =>
          rw [hdown₀] at hdown'
          have hpre : [] = pre := (congrArg List.dropLast hdown').trans List.dropLast_concat
          rw [← hpre] at hdown
          exact absurd (List.map_eq_nil_iff.mp hdown) hsome
      | told _ hnil =>
          rw [hnil] at hdown'
          exact absurd hdown'.symm (List.append_ne_nil_of_right_ne_nil _ (List.cons_ne_nil _ _))
  | answer _ hdown => exact absurd hdown hsome
  | asked hreq hdown hup hup' hrep hl => exact .again hreq hdown hup hup' hrep hl

/-! ## §3. The steps. -/

/-- The session without faults follows. -/
def Followed (c : SessionParams) (batch : List SourceFile) (final : Bytes → Option Bytes)
    (done : List MetaPayload) (K : Nat) (t : SessionSys) (x : SessionSys × Nat) : Prop :=
  ∃ t', Lts.Reach (SessionSys.step c) (fun _ l => l.isCalm = true) t t'
    ∧ Shadow c batch final done K x t'

/-- A call of the sender. -/
theorem Shadow.sndCall (hc : c.Plain) (hw : adoptedWindow c.snd.cfg c.rcv.cfg = 1)
    (hne : batch ≠ []) (hK : c.Patient K) (h : Shadow c batch final done K (s, k) t)
    {b : List SourceFile} {rest : List (List SourceFile)} (hcalls : s.sndCalls = b :: rest)
    (hidle : s.snd.pc = .idle)
    (hsolo : Solo c batch ({ s with sndCalls := rest }.sent (s.snd.call c.snd b))) :
    Followed c batch final done K t ({ s with sndCalls := rest }.sent (s.snd.call c.snd b), k) := by
  have hidle' : t.snd.pc = .idle := h.snd.idle_iff.mp hidle
  have hcalls' : t.sndCalls = b :: rest := h.sndCalls_eq.symm.trans hcalls
  have hstep : t.step c .sndCall
      = some ({ t with sndCalls := rest }.sent (t.snd.call c.snd b)) := by
    simp only [SessionSys.step, hcalls', hidle', if_true]
  have hguided := guided_step hc hw hne (hK.snd.mono (Nat.zero_le _)) h.guided rfl hstep
  refine ⟨_, .one .sndCall rfl hstep, ?_⟩
  have htoken := h.guided.token
  cases htoken with
  | quiet _ hdown hup hcall =>
      obtain ⟨hdone, -⟩ := hcall (by rw [hcalls']; exact List.cons_ne_nil _ _)
      have hdone' : s.snd.handshakeDone = false := by
        obtain ⟨pc, flow, heq, -⟩ := h.snd
        rw [show t.snd = _ from heq] at hdone
        exact hdone
      have htracks := @SendState.call_tracks c.snd k none s.snd (hK.snd.mono h.budget) t.snd h.snd hdone' b
      refine ⟨hsolo, hguided, htracks.alike, h.rcv, rfl, h.rcvCalls_eq, h.budget, h.patient, ?_⟩
      have hmissing := h.missing
      cases hmissing with
      | nothing hdown hup hl => exact Missing.sent htracks.sends_eq hdown hup htracks.lasts
      | request hreq => exact absurd hidle' (SendPc.request_spec hreq).1
      | answer hreq => exact absurd hidle' (SendPc.request_spec hreq).1
      | asked hreq => exact absurd hidle' (SendPc.request_spec hreq).1
  | header hspc => rw [hidle'] at hspc; cases hspc
  | asks hreq => exact absurd hidle' (SendPc.request_spec hreq).1
  | told hreq => exact absurd hidle' (SendPc.request_spec hreq).1

/-- A call of the receiver. -/
theorem Shadow.rcvCall (hc : c.Plain) (hw : adoptedWindow c.snd.cfg c.rcv.cfg = 1)
    (hne : batch ≠ []) (hK : c.Patient K) (h : Shadow c batch final done K (s, k) t)
    {dir : Bytes} {rest : List Bytes} (hcalls : s.rcvCalls = dir :: rest)
    (hidle : s.rcv.pc = .idle)
    (hsolo : Solo c batch { s with rcvCalls := rest, rcv := s.rcv.call c.rcv dir }) :
    Followed c batch final done K t
      ({ s with rcvCalls := rest, rcv := s.rcv.call c.rcv dir }, k) := by
  have hidle' : t.rcv.pc = .idle := h.rcv.idle_iff.mp hidle
  have hcalls' : t.rcvCalls = dir :: rest := h.rcvCalls_eq.symm.trans hcalls
  have hstep : t.step c .rcvCall
      = some { t with rcvCalls := rest, rcv := t.rcv.call c.rcv dir } := by
    simp only [SessionSys.step, hcalls', hidle', if_true]
  have hguided := guided_step hc hw hne (hK.snd.mono (Nat.zero_le _)) h.guided rfl hstep
  have hnone : t.rcvCalls ≠ [] := by
    rw [hcalls']
    exact List.cons_ne_nil _ _
  refine ⟨_, .one .rcvCall rfl hstep, hsolo, hguided, h.snd, ?_, h.sndCalls_eq, rfl, h.budget, ?_,
    ?_⟩
  · obtain ⟨pc, heq, -⟩ := h.rcv
    show (s.rcv.call c.rcv dir).Alike (t.rcv.call c.rcv dir)
    rw [show t.rcv = _ from heq]
    exact .rfl _
  · show (s.rcv.call c.rcv dir).pc.Lasts k
    unfold RecvState.call
    dsimp only
    split
    · exact Nat.le_trans h.budget hK.rcv.meta_le
    · trivial
  · have hmissing := h.missing
    cases hmissing with
    | nothing hdown hup hl => exact .nothing hdown hup hl
    | request hreq hdown hdown' hup hup' hl => exact .request hreq hdown hdown' hup hup' hl
    -- nobody has answered before the call
    | answer hreq _ _ hup' => exact absurd (h.guided.token.told_of hup' hreq).2.1 hnone
    | asked hreq _ _ hup' => exact absurd (h.guided.token.told_of hup' hreq).2.1 hnone

/-- The sender takes an answer. -/
theorem Shadow.sndRecv (hc : c.Plain) (hw : adoptedWindow c.snd.cfg c.rcv.cfg = 1)
    (hne : batch ≠ []) (hK : c.Patient K) (h : Shadow c batch final done K (s, k) t)
    {it : Item} {rest : List Item} (hchan : s.toSnd = it :: rest)
    (hsolo : Solo c batch
      ({ s with toSnd := rest }.sent (s.snd.onFrame c.snd it.send.frame))) :
    Followed c batch final done K t
      ({ s with toSnd := rest }.sent (s.snd.onFrame c.snd it.send.frame), k) := by
  have hsome : s.toSnd ≠ [] := by
    rw [hchan]
    exact List.cons_ne_nil _ _
  obtain ⟨req, p, hreq, hdown, hup, hdown', hup', -, hl, htold⟩ := h.answering hsome
  rw [hchan] at hup
  injection hup with hp hrest
  obtain ⟨it', rest', hchan', hp', hrest'⟩ := List.map_eq_cons_iff.mp hup'
  have hit : it'.send = it.send := hp'.trans hp.symm
  have hbusy' : t.snd.pc ≠ .idle := (SendPc.request_spec hreq).1
  have hstep : t.step c .sndRecv
      = some ({ t with toSnd := rest' }.sent (t.snd.onFrame c.snd it'.send.frame)) := by
    simp only [SessionSys.step, hchan', hbusy', if_false]
  have hguided := guided_step hc hw hne (hK.snd.mono (Nat.zero_le _)) h.guided rfl hstep
  rw [← hp] at htold
  obtain ⟨D, hj⟩ := h.solo.joint
  have hmem : it ∈ s.toSnd := by
    rw [hchan]
    exact List.mem_cons_self ..
  have htracks := SendState.onFrame_tracks (hK.snd.mono h.budget) h.snd hl
    (h.solo.snd_lone hc hw) (h.guided.solo.snd_lone hc hw) (hj.sync.rep_named it hmem)
    htold.not_nak (fun io d hpc hack => by
      obtain ⟨f, rd, hrpc⟩ := htold.data_of hack
      obtain ⟨rd', hrpc'⟩ := h.rcv.dataWait_of hrpc
      exact h.solo.acks_near hw hrpc' hpc hmem hack)
  refine ⟨_, .one .sndRecv rfl hstep, ?_⟩
  rw [hit] at hguided ⊢
  refine ⟨hsolo, hguided, htracks.alike, h.rcv, h.sndCalls_eq, h.rcvCalls_eq, h.budget, h.patient,
    Missing.sent (s := { s with toSnd := rest }) (t := { t with toSnd := rest' }) htracks.sends_eq
      ?_ (hrest.trans hrest'.symm) htracks.lasts⟩
  show s.toRcv.map Item.send = t.toRcv.map Item.send
  rw [hdown, hdown']

/-- The sender's wait times out. -/
theorem Shadow.sndTimeout (h : Shadow c batch final done K (s, k) t)
    {timer : HelloTimer} (htimer : timer ≠ .expired) (hbusy : s.snd.pc ≠ .idle)
    (hdown : s.toRcv = []) (hup : s.toSnd = [])
    (hsolo : Solo c batch (s.sent (s.snd.onTimeout c.snd timer))) :
    Followed c batch final done K t (s.sent (s.snd.onTimeout c.snd timer), k) := by
  refine ⟨t, .refl, ?_⟩
  have hbusy' : t.snd.pc ≠ .idle := fun hidle => hbusy (h.snd.idle_iff.mpr hidle)
  have hsame : s.sent ([], s.snd) = s := by
    unfold SessionSys.sent
    simp only [List.map_nil, List.append_nil]
  have hout : ∀ (req : Send) (snd' : SendState),
      (s.sent ([req], snd')).toRcv.map Item.send = [req] := by
    intro req snd'
    show (s.toRcv ++ _).map Item.send = [req]
    rw [hdown]
    rfl
  have hmissing := h.missing
  cases hmissing with
  | nothing hd hu hl =>
      -- the sender does not wait in vain
      rw [show s.toRcv = [] from hdown] at hd
      rw [show s.toSnd = [] from hup] at hu
      have hd' := List.map_eq_nil_iff.mp hd.symm
      have hu' := List.map_eq_nil_iff.mp hu.symm
      have htoken := h.guided.token
      cases htoken with
      | quiet hidle => exact absurd hidle hbusy'
      | header _ _ hdn => rw [hd'] at hdn; cases hdn
      | asks _ hdn => rw [hd'] at hdn; cases hdn
      | told _ _ hun => rw [hu'] at hun; cases hun
  | @request pre req hreq hd hd' hu hu' hl =>
      rcases SendState.onTimeout_alike h.snd hl hreq htimer with ⟨-, heq⟩ | ⟨snd', heq, hal, hl'⟩
      · rw [heq, hsame]
        exact h
      · rw [heq] at hsolo ⊢
        rw [show s.toRcv = [] from hdown] at hd
        subst hd
        exact ⟨hsolo, h.guided, hal, h.rcv, h.sndCalls_eq, h.rcvCalls_eq, h.budget, h.patient,
          .nothing ((hout req snd').trans hd'.symm) (by rw [hu']; exact congrArg _ hu) hl'⟩
  | @answer req p hreq hd hu hu' hrep hl =>
      -- the receiver is asked once more
      rcases SendState.onTimeout_alike h.snd hl hreq htimer with ⟨-, heq⟩ | ⟨snd', heq, hal, hl'⟩
      · rw [heq, hsame]
        exact h
      · rw [heq] at hsolo ⊢
        exact ⟨hsolo, h.guided, hal, h.rcv, h.sndCalls_eq, h.rcvCalls_eq, h.budget, h.patient,
          .asked hreq (hout req snd') hu hu' hrep hl'⟩
  | asked _ hd => rw [show s.toRcv = [] from hdown] at hd; cases hd

/-- The receiver takes a packet. -/
theorem Shadow.rcvRecv (hc : c.Plain) (hw : adoptedWindow c.snd.cfg c.rcv.cfg = 1)
    (hne : batch ≠ []) (hK : c.Patient K) (h : Shadow c batch final done K (s, k) t)
    {it : Item} {rest : List Item} (hchan : s.toRcv = it :: rest) (hbusy : s.rcv.pc ≠ .idle)
    (hsolo : Solo c batch
      ({ s with toRcv := rest }.answered (s.rcv.onFrame c.rcv it.send.frame .good))) :
    Followed c batch final done K t
      ({ s with toRcv := rest }.answered (s.rcv.onFrame c.rcv it.send.frame .good), k) := by
  have hbusy' : t.rcv.pc ≠ .idle := fun hidle => hbusy (h.rcv.idle_iff.mpr hidle)
  have hpatient := RecvState.onFrame_lasts (hK.rcv.mono h.budget) h.patient it.send.frame .good
  have hstep : ∀ {it' : Item} {rest' : List Item}, t.toRcv = it' :: rest' →
      t.step c (.rcvRecv .good)
        = some ({ t with toRcv := rest' }.answered (t.rcv.onFrame c.rcv it'.send.frame .good)) := by
    intro it' rest' hchan'
    simp only [SessionSys.step, hchan', hbusy', if_false]
  obtain ⟨hsame, halike⟩ := @RecvState.onFrame_alike c.rcv s.rcv t.rcv h.rcv it.send.frame .good
  have hmissing := h.missing
  cases hmissing with
  | nothing hdown hup hl =>
      rw [show s.toRcv = _ from hchan, List.map_cons] at hdown
      obtain ⟨it', rest', hchan', hit, hrest⟩ := List.map_eq_cons_iff.mp hdown.symm
      have hguided := guided_step hc hw hne (hK.snd.mono (Nat.zero_le _)) h.guided rfl
        (hstep hchan')
      refine ⟨_, .one (.rcvRecv .good) rfl (hstep hchan'), ?_⟩
      rw [hit] at hguided ⊢
      exact ⟨hsolo, hguided, h.snd, halike, h.sndCalls_eq, h.rcvCalls_eq, h.budget, hpatient,
        Missing.answered (s := { s with toRcv := rest }) (t := { t with toRcv := rest' }) hsame
          hrest.symm hup hl⟩
  | @request pre req hreq hdown hdown' hup hup' hl =>
      subst hdown
      rw [show s.toRcv = _ from hchan, List.map_cons, List.cons_append] at hdown'
      obtain ⟨it', rest', hchan', hit, hrest⟩ := List.map_eq_cons_iff.mp hdown'
      have hguided := guided_step hc hw hne (hK.snd.mono (Nat.zero_le _)) h.guided rfl
        (hstep hchan')
      refine ⟨_, .one (.rcvRecv .good) rfl (hstep hchan'), ?_⟩
      rw [hit] at hguided ⊢
      -- what is not the request has no answer
      have hnil : (t.toSnd ++ (t.rcv.onFrame c.rcv it.send.frame .good).1.map
          (fun p => (⟨p, t.rcv.turn, t.rcv.handling⟩ : Item))) = [] := by
        refine hguided.token.up_nil ?_
        intro hnone
        rw [show rest' = [] from hnone] at hrest
        exact absurd hrest.symm (List.append_ne_nil_of_right_ne_nil _ (List.cons_ne_nil _ _))
      have hquiet : (s.rcv.onFrame c.rcv it.send.frame .good).1 = [] := by
        rw [show _ = _ from hsame]
        exact List.map_eq_nil_iff.mp (List.append_eq_nil_iff.mp hnil).2
      refine ⟨hsolo, hguided, h.snd, halike, h.sndCalls_eq, h.rcvCalls_eq, h.budget, hpatient,
        .request hreq rfl hrest ?_ hnil hl⟩
      show s.toSnd ++ _ = []
      rw [hquiet, show s.toSnd = [] from hup]
      rfl
  | answer _ hdown => rw [show s.toRcv = [] from hdown] at hchan; cases hchan
  | @asked req p hreq hdown hup hup' hrep hl =>
      -- the answer is given again, while the session without faults waits
      rw [show s.toRcv = _ from hchan, List.map_cons] at hdown
      injection hdown with hp hrest
      obtain ⟨hdown', -, htold⟩ := h.guided.token.told_of hup' hreq
      obtain ⟨hone, hal⟩ := htold.again hrep s.rcv h.rcv
      refine ⟨t, .refl, ?_⟩
      rw [hp] at hsolo hpatient ⊢
      refine ⟨hsolo, h.guided, h.snd, hal, h.sndCalls_eq, h.rcvCalls_eq, h.budget, hpatient,
        .nothing ?_ ?_ hl⟩
      · show rest.map Item.send = _
        rw [hrest, hdown']
        rfl
      · show (s.toSnd ++ _).map Item.send = _
        rw [show s.toSnd = [] from hup, List.nil_append, map_send_stamped, hone, hup']

/-- Fewer losses to come. -/
theorem Missing.spend {m : Nat} (h : Missing c k s t) (hm : m ≤ k) : Missing c m s t := by
  cases h with
  | nothing hdown hup hl => exact .nothing hdown hup (hl.mono hm)
  | request hreq hdown hdown' hup hup' hl =>
      exact .request hreq hdown hdown' hup hup' (hl.mono (Nat.succ_le_succ hm))
  | answer hreq hdown hup hup' hrep hl =>
      exact .answer hreq hdown hup hup' hrep (hl.mono (Nat.succ_le_succ hm))
  | asked hreq hdown hup hup' hrep hl => exact .asked hreq hdown hup hup' hrep (hl.mono hm)

/-- What is left to lose may also be forgone. -/
theorem Shadow.spend {m : Nat} (h : Shadow c batch final done K (s, k) t) (hm : m ≤ k) :
    Shadow c batch final done K (s, m) t :=
  ⟨h.solo, h.guided, h.snd, h.rcv, h.sndCalls_eq, h.rcvCalls_eq, Nat.le_trans hm h.budget,
    h.patient.mono hm, h.missing.spend hm⟩

/-- The receiver's wait times out. -/
theorem Shadow.rcvTimeout {m : Nat} (h : Shadow c batch final done K (s, k) t) (hm : m ≤ k)
    (hlast : s.rcv.pc.Lasts (m + 1)) {timer : HelloTimer} {fs : FsOutcome}
    (hbusy : s.rcv.pc ≠ .idle) (hpeek : ∀ f, s.rcv.pc ≠ .neverPeek f)
    (htimer : s.rcv.pc = .helloWait → timer ≠ .expired)
    (hsolo : Solo c batch (s.answered (s.rcv.onTimeout c.rcv timer fs))) :
    Followed c batch final done K t (s.answered (s.rcv.onTimeout c.rcv timer fs), m) := by
  obtain ⟨hnil, hal, hl⟩ := RecvState.onTimeout_alike h.rcv hlast hbusy hpeek timer htimer fs
  have hsame : s.answered (s.rcv.onTimeout c.rcv timer fs)
      = { s with rcv := (s.rcv.onTimeout c.rcv timer fs).2 } := by
    unfold SessionSys.answered
    rw [hnil, List.map_nil, List.append_nil]
  rw [hsame] at hsolo ⊢
  refine ⟨t, .refl, hsolo, h.guided, h.snd, hal, h.sndCalls_eq, h.rcvCalls_eq,
    Nat.le_trans hm h.budget, hl, ?_⟩
  have hmissing := h.missing.spend hm
  cases hmissing with
  | nothing hdown hup hl => exact .nothing hdown hup hl
  | request hreq hdown hdown' hup hup' hl => exact .request hreq hdown hdown' hup hup' hl
  | answer hreq hdown hup hup' hrep hl => exact .answer hreq hdown hup hup' hrep hl
  | asked hreq hdown hup hup' hrep hl => exact .asked hreq hdown hup hup' hrep hl

/-- The only element of a list is the one at any index. -/
theorem eraseIdx_singleton {items : List Item} {p : Send} (hmap : items.map Item.send = [p])
    {i : Nat} {it : Item} (hi : items[i]? = some it) : it.send = p ∧ items.eraseIdx i = [] := by
  obtain ⟨it', rest, rfl, hp, hrest⟩ := List.map_eq_cons_iff.mp hmap
  obtain rfl : rest = [] := List.map_eq_nil_iff.mp hrest
  cases i with
  | zero =>
      cases hi
      exact ⟨hp, rfl⟩
  | succ i => cases hi

/-- A request is lost. -/
theorem Shadow.loseToRcv {m : Nat} (h : Shadow c batch final done K (s, m + 1) t) {i : Nat}
    {it : Item} (hi : s.toRcv[i]? = some it) (hres : it.send.type.isResent = true)
    (hsolo : Solo c batch { s with toRcv := s.toRcv.eraseIdx i }) :
    Followed c batch final done K t ({ s with toRcv := s.toRcv.eraseIdx i }, m) := by
  suffices hgoal : Missing c m { s with toRcv := s.toRcv.eraseIdx i } t from
    ⟨t, .refl, hsolo, h.guided, h.snd, h.rcv, h.sndCalls_eq, h.rcvCalls_eq,
      Nat.le_trans (Nat.le_succ m) h.budget, h.patient.mono (Nat.le_succ m), hgoal⟩
  cases h.asking (List.ne_nil_of_mem (List.mem_of_getElem? hi)) with
  | @header n path src hreq hrpc hdown hdown' hup hup' hl =>
      -- SEND_META is not sent again, RESUME_REQ is
      obtain ⟨it₀, rest, heq, hp₀, hrest⟩ := List.map_eq_cons_iff.mp hdown
      rw [heq] at hi ⊢
      cases i with
      | zero =>
          cases hi
          rw [hp₀] at hres
          cases hres
      | succ i =>
          obtain ⟨-, hnil⟩ := eraseIdx_singleton hrest hi
          have hleft : ((it₀ :: rest).eraseIdx (i + 1)).map Item.send = [sendMeta path src] := by
            rw [List.eraseIdx_cons_succ, hnil, List.map_cons, hp₀]
            rfl
          exact .request hreq hleft hdown' hup hup' hl
  | bereft _ _ hdown _ =>
      obtain ⟨hp, -⟩ := eraseIdx_singleton hdown hi
      rw [hp] at hres
      cases hres
  | asks hreq hdown hdown' hup hup' hl =>
      obtain ⟨-, hnil⟩ := eraseIdx_singleton hdown hi
      rw [hnil]
      exact .request hreq (List.map_nil) hdown' hup hup' hl
  | again hreq hdown hup hup' hrep hl =>
      obtain ⟨-, hnil⟩ := eraseIdx_singleton hdown hi
      rw [hnil]
      exact .answer hreq rfl hup hup' hrep hl

/-- An answer is lost that the receiver can give once more. -/
theorem Shadow.loseToSnd {m : Nat} (h : Shadow c batch final done K (s, m + 1) t) {i : Nat}
    {it : Item} (hi : s.toSnd[i]? = some it) (hrep : s.rcv.pc.repeats it.send = true)
    (hsolo : Solo c batch { s with toSnd := s.toSnd.eraseIdx i }) :
    Followed c batch final done K t ({ s with toSnd := s.toSnd.eraseIdx i }, m) := by
  suffices hgoal : Missing c m { s with toSnd := s.toSnd.eraseIdx i } t from
    ⟨t, .refl, hsolo, h.guided, h.snd, h.rcv, h.sndCalls_eq, h.rcvCalls_eq,
      Nat.le_trans (Nat.le_succ m) h.budget, h.patient.mono (Nat.le_succ m), hgoal⟩
  obtain ⟨req, p, hreq, hdown, hup, -, hup', -, hl, -⟩ :=
    h.answering (List.ne_nil_of_mem (List.mem_of_getElem? hi))
  obtain ⟨hp, hnil⟩ := eraseIdx_singleton hup hi
  have hrep' : t.rcv.pc.repeats p = true := by
    rw [h.rcv.repeats_eq, ← hp]
    exact hrep
  rw [hnil]
  exact .answer hreq hdown rfl hup' hrep' hl

/-- **Losses leave no trace**: the session without faults keeps up. -/
theorem shadow_simulation (hc : c.Plain) (hw : adoptedWindow c.snd.cfg c.rcv.cfg = 1)
    (hne : batch ≠ []) (hK : c.Patient K) :
    Lts.Simulation (lossyStep c) (fun _ _ => True) (SessionSys.step c) (fun _ l => l.isCalm = true)
      (Shadow c batch final done K) := by
  refine ⟨fun {x l y t} h _ hstep => ?_⟩
  obtain ⟨s, k⟩ := x
  obtain ⟨s', m⟩ := y
  obtain ⟨n, hcost, hle, hs, hm⟩ := Lts.budgeted_inv hstep
  dsimp only at hcost hle hs hm
  have hsolo := solo_step hc hw h.solo hs
  show Followed c batch final done K t (s', m)
  cases l with
  | sndCall =>
      cases hcost
      obtain rfl : m = k := hm
      cases SessionSys.step_inv hs with
      | sndCall hcalls hidle => exact h.sndCall hc hw hne hK hcalls hidle hsolo
      | lose hl _ _ => cases hl
  | rcvCall =>
      cases hcost
      obtain rfl : m = k := hm
      cases SessionSys.step_inv hs with
      | rcvCall hcalls hidle => exact h.rcvCall hc hw hne hK hcalls hidle hsolo
      | lose hl _ _ => cases hl
  | sndRecv =>
      cases hcost
      obtain rfl : m = k := hm
      cases SessionSys.step_inv hs with
      | sndRecv hchan _ => exact h.sndRecv hc hw hne hK hchan hsolo
      | lose hl _ _ => cases hl
  | sndTimeout timer =>
      simp only [faultCost] at hcost
      split at hcost
      · rename_i hcond
        cases hcost
        obtain rfl : m = k := hm
        cases SessionSys.step_inv hs with
        | sndTimeout hbusy =>
            exact h.sndTimeout hcond.1 hbusy (List.isEmpty_iff.mp hcond.2.1)
              (List.isEmpty_iff.mp hcond.2.2) hsolo
        | lose hl _ _ => cases hl
      · cases hcost
  | rcvRecv fs =>
      simp only [faultCost] at hcost
      split at hcost
      · rename_i hgood
        subst hgood
        cases hcost
        obtain rfl : m = k := hm
        cases SessionSys.step_inv hs with
        | rcvRecv hchan hbusy => exact h.rcvRecv hc hw hne hK hchan hbusy hsolo
        | lose hl _ _ => cases hl
      · cases hcost
  | rcvTimeout timer fs =>
      cases SessionSys.step_inv hs with
      | rcvTimeout hbusy =>
          simp only [faultCost] at hcost
          split at hcost
          · cases hcost
          · rename_i hpc
            split at hcost
            · cases hcost
            · rename_i htimer
              cases hcost
              refine h.rcvTimeout (Nat.le_of_eq hm) ?_ hbusy (fun f hf => by rw [hpc] at hf; cases hf)
                (fun _ => htimer) hsolo
              rw [hpc]
              trivial
          · rename_i hpeek hhello
            cases hcost
            obtain rfl : k = m + 1 := by omega
            exact h.rcvTimeout (Nat.le_succ m) h.patient hbusy hpeek (fun hpc => absurd hpc hhello)
              hsolo
      | lose hl _ _ => cases hl
  | loseToRcv i =>
      simp only [faultCost] at hcost
      split at hcost
      · rename_i hany
        cases hcost
        obtain rfl : k = m + 1 := by omega
        obtain ⟨it, hi, hres⟩ := (Option.any_eq_true _ _).mp hany
        cases hs
        exact h.loseToRcv hi hres hsolo
      · cases hcost
  | loseToSnd i =>
      simp only [faultCost] at hcost
      split at hcost
      · rename_i hany
        cases hcost
        obtain rfl : k = m + 1 := by omega
        obtain ⟨it, hi, hrep⟩ := (Option.any_eq_true _ _).mp hany
        cases hs
        exact h.loseToSnd hi hrep hsolo
      · cases hcost

/-! ## §4. The end. -/

/-- The calls that have returned have returned `VAL_OK`. -/
theorem Shadow.clean {x : SessionSys × Nat} (h : Shadow c batch final done K x t) :
    x.1.snd.Clean ∧ x.1.rcv.Clean := by
  obtain ⟨hsnd, hrcv⟩ := h.guided.course.clean
  obtain ⟨pc, flow, heq, -⟩ := h.snd
  obtain ⟨pc', heq', -⟩ := h.rcv
  rw [heq] at hsnd
  rw [heq'] at hrcv
  exact ⟨hsnd, hrcv⟩

/-- Only the answer of the token is on its way to the sender. -/
theorem Shadow.no_nak {x : SessionSys × Nat} (h : Shadow c batch final done K x t) :
    ∀ it ∈ x.1.toSnd, PacketType.ofByte it.send.frame.type ≠ .dataNak := by
  intro it hit
  obtain ⟨D, hj⟩ := h.solo.joint
  rw [Send.frame_type (hj.sync.rep_named it hit)]
  obtain ⟨req, p, -, -, hup, -, -, -, -, htold⟩ := h.answering (List.ne_nil_of_mem hit)
  have hmem : it.send ∈ x.1.toSnd.map Item.send := List.mem_map_of_mem hit
  rw [hup, List.mem_singleton] at hmem
  rw [hmem]
  exact htold.not_nak

/-- **No run goes on for ever.** -/
theorem shadow_ranking (hc : c.Plain) (hw : adoptedWindow c.snd.cfg c.rcv.cfg = 1)
    (hne : batch ≠ []) (hK : c.Patient K) :
    Lts.Ranking (lossyStep c) (fun _ _ => True) (fun x => ∃ t, Shadow c batch final done K x t)
      (fun x => toLex (x.1.rank, x.2)) := by
  refine Lts.Ranking.budgeted ?_ ?_
  · intro x y l hx hstep
    obtain ⟨t, h⟩ := hx
    obtain ⟨t', -, h'⟩ := (shadow_simulation hc hw hne hK).forth h trivial hstep
    exact ⟨t', h'⟩
  · intro x l s' hx hstep
    obtain ⟨t, h⟩ := hx
    exact SessionSys.rank_down h.no_nak hstep

/-- A free step changes nothing where the session is at rest. -/
theorem lossy_still (hstill : Lts.Still (lossyStep c) (fun _ l => l.isLoss = false) (s, k))
    {l : SessionLabel} {s' : SessionSys} (hl : l.isLoss = false) (hcost : faultCost s l = some 0)
    (hstep : s.step c l = some s') : s' = s :=
  congrArg Prod.fst (hstill l _ hl (Lts.budgeted_some (x := (s, k)) hcost (Nat.zero_le _) hstep))

/-- **At rest** a party that is busy waits for nothing, and one that is idle has
no call to make. -/
theorem lossy_idle (hstill : Lts.Still (lossyStep c) (fun _ l => l.isLoss = false) (s, k)) :
    (s.snd.pc ≠ .idle → s.toSnd = []) ∧ (s.snd.pc = .idle → s.sndCalls = [])
      ∧ (s.rcv.pc ≠ .idle → s.toRcv = []) ∧ (s.rcv.pc = .idle → s.rcvCalls = []) := by
  refine ⟨?_, ?_, ?_, ?_⟩
  · intro hbusy
    cases hchan : s.toSnd with
    | nil => rfl
    | cons it rest =>
        have hstep : s.step c .sndRecv
            = some ({ s with toSnd := rest }.sent (s.snd.onFrame c.snd it.send.frame)) := by
          simp only [SessionSys.step, hchan, hbusy, if_false]
        have hsame := congrArg SessionSys.toSnd (lossy_still hstill rfl rfl hstep)
        rw [hchan] at hsame
        exact absurd hsame List.ne_cons_self
  · intro hidle
    cases hcalls : s.sndCalls with
    | nil => rfl
    | cons b rest =>
        have hstep : s.step c .sndCall
            = some ({ s with sndCalls := rest }.sent (s.snd.call c.snd b)) := by
          simp only [SessionSys.step, hcalls, hidle, if_true]
        have hsame := congrArg SessionSys.sndCalls (lossy_still hstill rfl rfl hstep)
        rw [hcalls] at hsame
        exact absurd hsame List.ne_cons_self
  · intro hbusy
    cases hchan : s.toRcv with
    | nil => rfl
    | cons it rest =>
        have hstep : s.step c (.rcvRecv .good)
            = some ({ s with toRcv := rest }.answered
              (s.rcv.onFrame c.rcv it.send.frame .good)) := by
          simp only [SessionSys.step, hchan, hbusy, if_false]
        have hsame := congrArg SessionSys.toRcv (lossy_still hstill rfl rfl hstep)
        rw [hchan] at hsame
        exact absurd hsame List.ne_cons_self
  · intro hidle
    cases hcalls : s.rcvCalls with
    | nil => rfl
    | cons dir rest =>
        have hstep : s.step c .rcvCall
            = some { s with rcvCalls := rest, rcv := s.rcv.call c.rcv dir } := by
          simp only [SessionSys.step, hcalls, hidle, if_true]
        have hsame := congrArg SessionSys.rcvCalls (lossy_still hstill rfl rfl hstep)
        rw [hcalls] at hsame
        exact absurd hsame List.ne_cons_self

/-- A sender that waits in vain sends again. -/
theorem Shadow.not_vain (h : Shadow c batch final done K (s, k) t)
    (hstill : Lts.Still (lossyStep c) (fun _ l => l.isLoss = false) (s, k)) {req : Send}
    (hreq : t.snd.pc.request c.snd.cfg = some req) (hdown : s.toRcv = []) (hup : s.toSnd = [])
    {m : Nat} (hl : s.snd.pc.Lasts (m + 1)) : False := by
  have hbusy : s.snd.pc ≠ .idle :=
    fun hidle => (SendPc.request_spec hreq).1 (h.snd.idle_iff.mp hidle)
  have hcost : faultCost s (.sndTimeout .resend) = some 0 := by
    simp only [faultCost, hdown, hup, List.isEmpty_nil, and_self, and_true]
    rfl
  have hstep : s.step c (.sndTimeout .resend)
      = some (s.sent (s.snd.onTimeout c.snd .resend)) := if_neg hbusy
  have hlate : HelloTimer.resend ≠ .expired := fun h => by cases h
  rcases SendState.onTimeout_alike h.snd hl hreq hlate with ⟨hpace, -⟩ | ⟨snd', heq, -, -⟩
  · cases hpace
  · rw [heq] at hstep
    have hsame : s.toRcv ++ [(⟨req, snd'.turn, some snd'.idx⟩ : Item)] = s.toRcv :=
      congrArg SessionSys.toRcv (lossy_still hstill rfl hcost hstep)
    rw [hdown] at hsame
    cases hsame

/-- **At rest** the session without faults has come to its end. -/
theorem Shadow.rested (h : Shadow c batch final done K (s, k) t)
    (hstill : Lts.Still (lossyStep c) (fun _ l => l.isLoss = false) (s, k)) :
    Finished c batch final done t.view := by
  obtain ⟨hup, hsc, hdown, hrc⟩ := lossy_idle hstill
  have hsnd : s.snd.pc = .idle ↔ t.snd.pc = .idle := h.snd.idle_iff
  have hrcv : s.rcv.pc = .idle ↔ t.rcv.pc = .idle := h.rcv.idle_iff
  have hsc' : s.sndCalls = t.sndCalls := h.sndCalls_eq
  have hrc' : s.rcvCalls = t.rcvCalls := h.rcvCalls_eq
  have hmissing := h.missing
  cases hmissing with
  | nothing hd hu hl =>
      -- the channels are the same, so nothing can happen on either side
      refine h.guided.course.rest (calm_stuck ?_ ?_ ?_ ?_)
      · intro hbusy
        have hnil := hup fun hidle => hbusy (hsnd.mp hidle)
        rw [show s.toSnd = [] from hnil] at hu
        exact List.map_eq_nil_iff.mp hu.symm
      · intro hidle
        rw [← hsc']
        exact hsc (hsnd.mpr hidle)
      · intro hbusy
        have hnil := hdown fun hidle => hbusy (hrcv.mp hidle)
        rw [show s.toRcv = [] from hnil] at hd
        exact List.map_eq_nil_iff.mp hd.symm
      · intro hidle
        rw [← hrc']
        exact hrc (hrcv.mpr hidle)
  | @request pre req hreq hd hd' hu hu' hl =>
      exfalso
      by_cases hidle : s.rcv.pc = .idle
      · -- a call the receiver has not made
        refine h.guided.course.not_stuck (SendPc.request_spec hreq).1
          (fun hbusy => absurd (hrcv.mp hidle) hbusy) hu' ?_
        rw [← hrc']
        exact hrc hidle
      · exact h.not_vain hstill hreq (hdown hidle) hu hl
  | answer hreq hd hu hu' hrep hl => exact absurd (h.not_vain hstill hreq hd hu hl) id
  | asked hreq hd hu hu' hrep hl =>
      exfalso
      have hbusy : s.rcv.pc ≠ .idle := by
        intro hidle
        rw [hrcv.mp hidle] at hrep
        cases hrep
      rw [show s.toRcv = [] from hdown hbusy] at hd
      cases hd

/-- Behind the end nothing is in flight. -/
theorem Shadow.quiet (h : Shadow c batch final done K (s, k) t)
    (hfin : Finished c batch final done t.view) : s.toRcv = [] ∧ s.toSnd = [] := by
  obtain ⟨hdown', hup', -, -⟩ := hfin.quiet
  have hidle : t.snd.pc = .idle := hfin.snd_pc
  have hmissing := h.missing
  cases hmissing with
  | nothing hdown hup _ =>
      exact ⟨List.map_eq_nil_iff.mp (hdown.trans hdown'), List.map_eq_nil_iff.mp (hup.trans hup')⟩
  | request hreq => exact absurd hidle (SendPc.request_spec hreq).1
  | answer hreq => exact absurd hidle (SendPc.request_spec hreq).1
  | asked hreq => exact absurd hidle (SendPc.request_spec hreq).1

end Shadow

/-! ## §5. The batch. -/

/-- Both calls have returned `VAL_OK`, and the directory is the fold of `stored`
over the batch. -/
structure SessionSys.Arrived (c : SessionParams) (batch : List SourceFile) (dir : Bytes)
    (files : Bytes → Option Bytes) (s : SessionSys) : Prop where
  snd_log : s.snd.log = [(batch, .ok)]
  rcv_log : s.rcv.log = [(batch.map (SourceFile.announced c.snd.senderPath), .ok)]
  directory_eq : ∀ name : Bytes, name.length ≤ maxFilename →
    directory c.rcv dir s.rcv.files name
      = batch.foldl (receiveNamed c.rcv.cfg.resume) (directory c.rcv dir files) name

section Batch

variable {c : SessionParams} {batch : List SourceFile} {dir : Bytes}
  {files : Bytes → Option Bytes} {K : Nat}

theorem Finished.arrived {t : SessionSys}
    (h : Finished c batch (batch.foldl (receiveFile c.rcv dir) files)
      (batch.map (SourceFile.announced c.snd.senderPath)) t.view) :
    t.Arrived c batch dir files where
  snd_log := h.snd_log
  rcv_log := h.rcv_log
  directory_eq := by
    intro name hname
    rw [show t.rcv.files = _ from h.files_eq]
    exact directory_fold c.rcv dir batch files hname

/-- Behind the end of the session without faults. -/
theorem Shadow.arrived {x : SessionSys × Nat} {t : SessionSys}
    (h : Shadow c batch (batch.foldl (receiveFile c.rcv dir) files)
      (batch.map (SourceFile.announced c.snd.senderPath)) K x t)
    (hstill : Lts.Still (lossyStep c) (fun _ l => l.isLoss = false) x) :
    x.1.Arrived c batch dir files := by
  have hfin := Shadow.rested h hstill
  obtain ⟨hsnd, hrcv, hdir⟩ := hfin.arrived
  obtain ⟨pc, flow, heq, -⟩ := h.snd
  obtain ⟨pc', heq', -⟩ := h.rcv
  rw [heq] at hsnd
  rw [heq'] at hrcv hdir
  exact ⟨hsnd, hrcv, hdir⟩

end Batch

end ValProtocol
