/-
  ValProtocol.Session.Order
  ─────────────────────────
  The order of the sender's requests over channels that lose nothing: in
  every exchange SEND_META comes first and nothing but DONE comes behind
  DONE.

    • `SendState.onFrame_ordered`, `SendState.onTimeout_ordered` — one step
      of the sender;
    • `Orderly` — what holds of the channel to the receiver: everything left
      over from an exchange the receiver has finished is a HELLO or a DONE,
      and the first packet of the next one is its SEND_META or EOT;
    • `orderly_step` — every step of a reliable run of one call on each side
      keeps it.
-/
import ValProtocol.Session.Isolation

namespace ValProtocol

/-! ## §1. One step of the sender. -/

/-- Has the sender sent DONE in its exchange? -/
def SendPc.awaitsDone : SendPc → Bool
  | .doneWait _ _ _ => true
  | _ => false

/-- The order a step of the sender keeps. -/
structure SendState.Ordered (s : SendState) (r : List Send × SendState) : Prop where
  done_last : r.1.Pairwise (fun a b => a.type = .done → b.type = .done)
  done_pc : ∀ p ∈ r.1, p.type = .done → r.2.pc.awaitsDone = true
  stays : s.pc.awaitsDone = true → r.2.turn = s.turn →
    (r.2.pc.awaitsDone = true ∨ r.2.pc = .idle) ∧ ∀ p ∈ r.1, p.type = .done
  bare : ∀ p ∈ r.1, p.type = .resumeReq ∨ p.type = .done ∨ p.type = .eot → p.payload = []

section Sender

variable {env : SendEnv} {s : SendState}

/-- Without DONE there is nothing to keep in order. -/
theorem SendState.Ordered.of_no_done {r : List Send × SendState}
    (hdone : ∀ p ∈ r.1, p.type ≠ .done)
    (hpc : s.pc.awaitsDone = true → r.2.turn = s.turn → r.1 = [] ∧ r.2.pc = .idle)
    (hbare : ∀ p ∈ r.1, p.type = .resumeReq ∨ p.type = .eot → p.payload = []) :
    s.Ordered r where
  done_last := List.pairwise_of_forall_mem_list (fun a ha _ _ ht => absurd ht (hdone a ha))
  done_pc := fun p hp ht => absurd ht (hdone p hp)
  stays := by
    intro hawaits hturn
    obtain ⟨hnil, hidle⟩ := hpc hawaits hturn
    rw [hnil]
    exact ⟨Or.inr hidle, fun _ hp => absurd hp List.not_mem_nil⟩
  bare := by
    intro p hp ht
    rcases ht with ht | ht | ht
    · exact hbare p hp (Or.inl ht)
    · exact absurd ht (hdone p hp)
    · exact hbare p hp (Or.inr ht)

theorem SendState.Ordered.stay : s.Ordered ([], s) where
  done_last := List.Pairwise.nil
  done_pc := fun _ hp => absurd hp List.not_mem_nil
  stays := fun hawaits _ => ⟨Or.inl hawaits, fun _ hp => absurd hp List.not_mem_nil⟩
  bare := fun _ hp => absurd hp List.not_mem_nil

theorem SendState.Ordered.stop (st : Status) : s.Ordered ([], s.ret st) :=
  .of_no_done (fun _ hp => absurd hp List.not_mem_nil) (fun _ _ => ⟨rfl, rfl⟩)
    (fun _ hp => absurd hp List.not_mem_nil)

/-- One packet of another kind, outside the DONE wait. -/
theorem SendState.Ordered.one {s' : SendState} {p : Send} (hpc : s.pc.awaitsDone = false)
    (hdone : p.type ≠ .done) (hbare : p.type = .resumeReq ∨ p.type = .eot → p.payload = []) :
    s.Ordered ([p], s') := by
  refine .of_no_done ?_ ?_ ?_
  · intro q hq
    rw [List.mem_singleton.mp hq]
    exact hdone
  · intro hawaits
    rw [hpc] at hawaits
    cases hawaits
  · intro q hq ht
    rw [List.mem_singleton.mp hq] at ht ⊢
    exact hbare ht

/-- DONE, then the wait for its answer. -/
theorem SendState.Ordered.done {s' : SendState} (size : Nat) (hpc : s'.pc.awaitsDone = true) :
    s.Ordered ([sendBare .done size], s') where
  done_last := List.pairwise_singleton _ _
  done_pc := fun _ _ _ => hpc
  stays := by
    refine fun _ _ => ⟨Or.inl hpc, ?_⟩
    intro p hp
    rw [List.mem_singleton.mp hp]
    rfl
  bare := by
    intro p hp _
    rw [List.mem_singleton.mp hp]
    rfl

theorem SendState.beginFile_turn (env : SendEnv) (s : SendState) :
    (s.beginFile env).2.turn = s.turn := by
  unfold SendState.beginFile
  split
  · rfl
  · split <;> rfl

/-- The next exchange begins. -/
theorem SendState.Ordered.begin {s₁ : SendState} (hturn : s₁.turn = s.turn + 1) :
    s.Ordered (s₁.beginFile env) := by
  have hkinds : ∀ p ∈ (s₁.beginFile env).1,
      p.type ≠ .done ∧ (p.type = .resumeReq ∨ p.type = .eot → p.payload = []) := by
    unfold SendState.beginFile
    split
    · intro p hp
      rw [List.mem_singleton.mp hp]
      exact ⟨nofun, fun _ => rfl⟩
    · split
      · exact fun _ hp => absurd hp List.not_mem_nil
      · intro p hp
        rcases List.mem_cons.mp hp with rfl | hp
        · exact ⟨nofun, by rintro (ht | ht) <;> cases ht⟩
        · rw [List.mem_singleton.mp hp]
          exact ⟨nofun, fun _ => rfl⟩
  refine .of_no_done (fun p hp => (hkinds p hp).1) ?_ (fun p hp => (hkinds p hp).2)
  intro _ hsame
  rw [SendState.beginFile_turn, hturn] at hsame
  omega

/-- Behind a round of the data phase. -/
theorem SendState.Ordered.data {s₁ : SendState} (hpc : s.pc.awaitsDone = false) (io : SendFile)
    (m : Move) : s.Ordered (s₁.onDataResult env io (m.run io)) := by
  have hdata := Move.run_data io m
  have hno : ∀ p ∈ (m.run io).1, p.type ≠ .done := by
    intro p hp
    rw [hdata p hp]
    exact nofun
  have hbare : ∀ p ∈ (m.run io).1, p.type = .resumeReq ∨ p.type = .eot → p.payload = [] := by
    intro p hp ht
    rw [hdata p hp] at ht
    rcases ht with ht | ht <;> cases ht
  have haway : s.pc.awaitsDone = true → False := by
    rw [hpc]
    exact nofun
  unfold SendState.onDataResult
  split
  · exact .of_no_done hno (fun h _ => absurd h haway) hbare
  · refine ⟨?_, fun _ _ _ => rfl, fun h _ => absurd h haway, ?_⟩
    · refine List.pairwise_append.mpr ⟨?_, List.pairwise_singleton _ _, ?_⟩
      · exact List.pairwise_of_forall_mem_list (fun a ha _ _ ht => absurd ht (hno a ha))
      · intro a ha _ _ ht
        exact absurd ht (hno a ha)
    · intro p hp ht
      rcases List.mem_append.mp hp with hp | hp
      · rcases ht with ht | ht | ht
        · exact hbare p hp (Or.inl ht)
        · exact absurd ht (hno p hp)
        · exact hbare p hp (Or.inr ht)
      · rw [List.mem_singleton.mp hp]
        rfl
  · exact .of_no_done hno (fun h _ => absurd h haway) hbare

/-- Behind the negotiation. -/
theorem SendState.Ordered.outcome (hpc : s.pc.awaitsDone = false) (content : Bytes)
    (o : ResumeOutcome) : s.Ordered (s.onOutcome env content o) := by
  cases o with
  | start off =>
      show s.Ordered (s.startFile env content off)
      unfold SendState.startFile
      split
      · exact .stop _
      · dsimp only
        split
        · refine .of_no_done (fun _ hp => absurd hp List.not_mem_nil) ?_
            (fun _ hp => absurd hp List.not_mem_nil)
          rw [hpc]
          exact nofun
        · exact .data hpc _ _
  | skip => exact .done _ rfl
  | verify endOff payload => exact .one hpc nofun (by rintro (ht | ht) <;> cases ht)
  | fail st => exact .stop st

/-- **The order on a frame.** -/
theorem SendState.onFrame_ordered (env : SendEnv) (s : SendState) (f : Frame) :
    s.Ordered (s.onFrame env f) := by
  unfold SendState.onFrame
  split
  · exact .stay
  · unfold SendState.onHelloFrame
    split
    · exact .stop _
    · split
      · exact .stop _
      · exact .stop _
      · split
        · exact .stay
        · split
          · rename_i sends st herr
            obtain ⟨hnil, -⟩ := adoptPeerHello_error herr
            dsimp only at hnil
            rw [hnil]
            exact .stop _
          · exact .begin rfl
      · exact .stay
  · rename_i content retries hpc
    have haway : s.pc.awaitsDone = false := by rw [hpc]; rfl
    split
    · exact .stop _
    · split
      · split
        · exact .stop _
        · exact .outcome haway content _
      · exact .stay
  · rename_i content retries endOff payload hpc
    have haway : s.pc.awaitsDone = false := by rw [hpc]; rfl
    split
    · exact .stop _
    · split
      · split
        · exact .stop _
        · exact .outcome haway content _
      · exact .stay
  · rename_i io d hpc
    have haway : s.pc.awaitsDone = false := by rw [hpc]; rfl
    exact .data haway io _
  · split
    · exact .stop _
    · split
      · exact .begin rfl
      · exact .stay
  · rename_i retries hpc
    split
    · exact .stop _
    · split
      · -- EOT_ACK: the call returns and nothing is sent
        refine .of_no_done (fun _ hp => absurd hp List.not_mem_nil) ?_
          (fun _ hp => absurd hp List.not_mem_nil)
        rw [hpc]
        exact nofun
      · exact .stay

/-- **The order on a timeout.** -/
theorem SendState.onTimeout_ordered (env : SendEnv) (s : SendState) (timer : HelloTimer) :
    s.Ordered (s.onTimeout env timer) := by
  unfold SendState.onTimeout
  split
  · exact .stay
  · rename_i retries hpc
    have haway : s.pc.awaitsDone = false := by rw [hpc]; rfl
    split
    · exact .stop _
    · split
      · exact .stay
      · exact .one haway nofun (by rintro (ht | ht) <;> cases ht)
    · exact .stay
  · rename_i content retries hpc
    have haway : s.pc.awaitsDone = false := by rw [hpc]; rfl
    split
    · exact .stop _
    · exact .one haway nofun (fun _ => rfl)
  · rename_i content retries endOff payload hpc
    have haway : s.pc.awaitsDone = false := by rw [hpc]; rfl
    split
    · exact .stop _
    · exact .one haway nofun (by rintro (ht | ht) <;> cases ht)
  · rename_i io d hpc
    have haway : s.pc.awaitsDone = false := by rw [hpc]; rfl
    exact .data haway io _
  · split
    · exact .stop _
    · exact .done _ rfl
  · rename_i retries hpc
    have haway : s.pc.awaitsDone = false := by rw [hpc]; rfl
    split
    · exact .stop _
    · exact .one haway nofun (fun _ => rfl)

/-- The first call of a session sends nothing but HELLO. -/
theorem SendState.call_fresh (env : SendEnv) {s : SendState} (hidle : s.pc = .idle)
    (hnew : s.handshakeDone = false) (batch : List SourceFile) :
    (s.call env batch).2.turn = s.turn ∧ s.Ordered (s.call env batch)
      ∧ (s.call env batch).2.pc.exchange ≠ some .file
      ∧ ∀ p ∈ (s.call env batch).1, p.type = .hello := by
  have haway : s.pc.awaitsDone = false := by rw [hidle]; rfl
  unfold SendState.call
  dsimp only
  split
  · refine ⟨rfl, ?_, nofun, fun _ hp => absurd hp List.not_mem_nil⟩
    exact .of_no_done (fun _ hp => absurd hp List.not_mem_nil) (fun _ _ => ⟨rfl, rfl⟩)
      (fun _ hp => absurd hp List.not_mem_nil)
  · rw [if_neg (by rw [hnew]; decide)]
    refine ⟨rfl, .one haway nofun (by rintro (ht | ht) <;> cases ht), nofun, ?_⟩
    intro p hp
    rw [List.mem_singleton.mp hp]
    rfl

/-- The head of the loop announces the file it asks about. -/
theorem SendState.beginFile_opens (env : SendEnv) (s : SendState)
    (h : (s.beginFile env).2.pc.exchange = some .file
      ∨ ∃ p ∈ (s.beginFile env).1, p.type.isFileRequest = true) :
    ∃ p ∈ (s.beginFile env).1, p.type = .sendMeta := by
  unfold SendState.beginFile at h ⊢
  split at h
  · rcases h with hex | ⟨p, hp, ht⟩
    · cases hex
    · rw [List.mem_singleton.mp hp] at ht
      cases ht
  · split at h
    · rcases h with hex | ⟨p, hp, -⟩
      · cases hex
      · exact absurd hp List.not_mem_nil
    · rename_i content hread
      exact ⟨_, List.mem_cons_self .., rfl⟩

end Sender

/-! ## §2. The channel to the receiver. -/

/-- **The order on the channel to the receiver.**  `old`, `ahead` and
`opened` are about a receiver whose call has not returned. -/
structure Orderly (s : SessionSys) : Prop where
  /-- behind a DONE only DONEs of its exchange -/
  done_last : s.toRcv.Pairwise
    (fun a b => a.send.type = .done → a.turn = b.turn → b.send.type = .done)
  /-- the DONE of the sender's own exchange -/
  done_snd : ∀ it ∈ s.toRcv, it.send.type = .done → it.turn = s.snd.turn →
    s.snd.pc.awaitsDone = true ∨ s.snd.pc = .idle
  /-- what is left over of an exchange the receiver has answered -/
  old : s.rcv.log = [] → ∀ it ∈ s.toRcv, it.turn < s.rcv.turn →
    it.send.type = .hello ∨ it.send.type = .done
  /-- a receiver that is ahead of the sender has taken its DONE -/
  ahead : s.rcv.log = [] → s.snd.turn < s.rcv.turn → s.snd.pc.exchange = some .file →
    s.snd.pc.awaitsDone = true
  /-- SEND_META is still to come -/
  opened : s.rcv.log = [] → ¬ s.rcv.pc.phase.InFile →
    (s.snd.pc.exchange = some .file ∧ s.snd.turn = s.rcv.turn
      ∨ ∃ it ∈ s.toRcv, it.turn = s.rcv.turn ∧ it.send.type.isFileRequest = true) →
    ∃ m ∈ s.toRcv, m.turn = s.rcv.turn ∧ m.send.type = .sendMeta

section Channel

variable {c : SessionParams} {sc : List Exchange} {s : SessionSys}

/-- **The sender stays in its exchange.** -/
theorem Orderly.stays (h : Orderly s) (hsync : Sync c sc s) {k : ExchangeKind}
    {r : List Send × SendState} {up : List Item} (hk : s.snd.pc.exchange = some k)
    (hturn : r.2.turn = s.snd.turn) (hord : s.snd.Ordered r)
    (hpc : r.2.pc.exchange = some k ∨ r.2.pc = .idle)
    (hsends : ∀ p ∈ r.1, k.request p.type = true) :
    Orderly ({ s with toSnd := up }.sent r) := by
  have hbusy : s.snd.pc ≠ .idle := SendPc.busy_of_exchange hk
  have hnew : ∀ it ∈ r.1.map (fun p => (⟨p, r.2.turn, some r.2.idx⟩ : Item)),
      it.send ∈ r.1 ∧ it.turn = s.snd.turn := by
    intro it hit
    obtain ⟨hmem, ht, -⟩ := mem_stamped hit
    exact ⟨hmem, ht.trans hturn⟩
  -- a DONE of this exchange in flight: the sender waits for its answer
  have hawaits : ∀ it ∈ s.toRcv, it.send.type = .done → it.turn = s.snd.turn →
      s.snd.pc.awaitsDone = true := by
    intro it hit ht hit'
    rcases h.done_snd it hit ht hit' with ha | hidle
    · exact ha
    · exact absurd hidle hbusy
  refine ⟨?_, ?_, ?_, ?_, ?_⟩
  · refine List.pairwise_append.mpr ⟨h.done_last, ?_, ?_⟩
    · rw [List.pairwise_map]
      exact hord.done_last.imp (fun hab ha _ => hab ha)
    · intro a ha b hb hdone heq
      obtain ⟨hmem, hbturn⟩ := hnew b hb
      exact (hord.stays (hawaits a ha hdone (heq.trans hbturn)) hturn).2 _ hmem
  · intro it hit hdone hit'
    rcases List.mem_append.mp hit with hit | hit
    · exact (hord.stays (hawaits it hit hdone (hit'.trans hturn)) hturn).1
    · exact Or.inl (hord.done_pc _ (hnew it hit).1 hdone)
  · intro hlog it hit hlt
    rcases List.mem_append.mp hit with hit | hit
    · exact h.old hlog it hit hlt
    · obtain ⟨hmem, hitturn⟩ := hnew it hit
      have hahead : s.snd.turn < s.rcv.turn := by
        rw [← hitturn]
        exact hlt
      cases k with
      | hello =>
          left
          have hreq := hsends _ hmem
          revert hreq
          cases it.send.type <;> first | (intro hreq; cases hreq; done) | exact fun _ => rfl
      | file => exact Or.inr ((hord.stays (h.ahead hlog hahead hk) hturn).2 _ hmem)
      | eot =>
          -- the receiver would have returned
          obtain ⟨e, he, hkind, -⟩ := (hsync.snd_at (hsync.snd_busy hbusy)).current hk
          have hlog' : s.rcv.log = [] := hlog
          have hclean : s.rcv.Clean := fun e he => by rw [hlog'] at he; cases he
          have hrec := (hsync.rcv_at hclean).record_eq
          have heot : e = .eot := by
            cases e with
            | hello => cases hkind
            | file f => cases hkind
            | eot => rfl
          rw [heot] at he
          refine absurd ?_ (record_ne_nil c.snd he hahead)
          rw [hrec, hlog']
          rfl
  · intro hlog hlt hex
    have hlt' : s.snd.turn < s.rcv.turn := by
      rw [← hturn]
      exact hlt
    replace hex : r.2.pc.exchange = some .file := hex
    have hkf : k = .file := by
      rcases hpc with hp | hp
      · rw [hp] at hex
        exact Option.some.inj hex
      · rw [hp] at hex
        cases hex
    rcases (hord.stays (h.ahead hlog hlt' (by rw [hk, hkf])) hturn).1 with ha | hidle
    · exact ha
    · rw [hidle] at hex
      cases hex
  · intro hlog hout hcond
    have hbefore : s.snd.pc.exchange = some .file ∧ s.snd.turn = s.rcv.turn
        ∨ ∃ it ∈ s.toRcv, it.turn = s.rcv.turn ∧ it.send.type.isFileRequest = true := by
      rcases hcond with ⟨hex, heq⟩ | ⟨it, hit, hit', htype⟩
      · left
        replace hex : r.2.pc.exchange = some .file := hex
        rcases hpc with hp | hp
        · exact ⟨by rw [hk, ← hp, hex], hturn.symm.trans heq⟩
        · rw [hp] at hex
          cases hex
      · rcases List.mem_append.mp hit with hit | hit
        · exact Or.inr ⟨it, hit, hit', htype⟩
        · obtain ⟨hmem, hitturn⟩ := hnew it hit
          have hkf := ExchangeKind.request_isFileRequest (hsends _ hmem) htype
          exact Or.inl ⟨by rw [hk, hkf], hitturn.symm.trans hit'⟩
    obtain ⟨m, hm, hmturn, hmtype⟩ := h.opened hlog hout hbefore
    exact ⟨m, List.mem_append_left _ hm, hmturn, hmtype⟩

/-- **The sender is in a new exchange**, of which nothing has been sent. -/
theorem Orderly.moves (h : Orderly s) {r : List Send × SendState} {up : List Item}
    {calls : List (List SourceFile)} (hrcv : s.rcv.turn = r.2.turn)
    (hold : ∀ it ∈ s.toRcv, it.turn < r.2.turn) (hord : s.snd.Ordered r)
    (hopens : r.2.pc.exchange = some .file ∨ (∃ p ∈ r.1, p.type.isFileRequest = true) →
      ∃ p ∈ r.1, p.type = .sendMeta) :
    Orderly ({ s with toSnd := up, sndCalls := calls }.sent r) := by
  refine ⟨?_, ?_, ?_, ?_, ?_⟩
  · refine List.pairwise_append.mpr ⟨h.done_last, ?_, ?_⟩
    · rw [List.pairwise_map]
      exact hord.done_last.imp (fun hab ha _ => hab ha)
    · intro a ha b hb _ heq
      have hlt := hold a ha
      rw [heq, (mem_stamped hb).2.1] at hlt
      exact absurd hlt (Nat.lt_irrefl _)
  · intro it hit hdone hit'
    rcases List.mem_append.mp hit with hit | hit
    · have hlt := hold it hit
      rw [show it.turn = r.2.turn from hit'] at hlt
      exact absurd hlt (Nat.lt_irrefl _)
    · exact Or.inl (hord.done_pc _ (mem_stamped hit).1 hdone)
  · intro hlog it hit hlt
    rcases List.mem_append.mp hit with hit | hit
    · exact h.old hlog it hit hlt
    · replace hlt : it.turn < s.rcv.turn := hlt
      rw [(mem_stamped hit).2.1, hrcv] at hlt
      exact absurd hlt (Nat.lt_irrefl _)
  · intro _ hlt _
    replace hlt : r.2.turn < s.rcv.turn := hlt
    omega
  · intro _ _ hcond
    obtain ⟨p, hp, htype⟩ : ∃ p ∈ r.1, p.type = .sendMeta := by
      apply hopens
      rcases hcond with ⟨hex, -⟩ | ⟨it, hit, hit', htype⟩
      · exact Or.inl hex
      · rcases List.mem_append.mp hit with hit | hit
        · have hlt := hold it hit
          rw [show it.turn = s.rcv.turn from hit', hrcv] at hlt
          exact absurd hlt (Nat.lt_irrefl _)
        · exact Or.inr ⟨_, (mem_stamped hit).1, htype⟩
    refine ⟨⟨p, r.2.turn, some r.2.idx⟩, ?_, hrcv.symm, htype⟩
    exact List.mem_append_right _ (List.mem_map_of_mem hp)

/-- **A step of the sender** keeps the order. -/
theorem Orderly.sent (h : Orderly s) (hsync : Sync c sc s) {last : Option PacketType}
    {up : List Item} {r : List Send × SendState} (hstep : SendStep c.snd s.snd last r)
    (hord : s.snd.Ordered r)
    (hclose : ∀ t, last = some t → t.isFinal = true →
      ∃ it, s.toSnd = it :: up ∧ itemView.closes it) :
    Orderly ({ s with toSnd := up }.sent r) := by
  -- the closing answer: the receiver is one exchange ahead
  have hnext : ∀ {t : PacketType}, last = some t → t.isFinal = true →
      s.rcv.turn = s.snd.turn + 1 ∧ ∀ it ∈ s.toRcv, it.turn < s.snd.turn + 1 := by
    intro t hlast hfinal
    obtain ⟨it, hchan, hcl⟩ := hclose t hlast hfinal
    have hturns := hsync.turns
    rw [hchan] at hturns
    refine ⟨(hturns.closing hcl).1, ?_⟩
    intro j hj
    have hle : j.turn ≤ s.snd.turn := hsync.turns.down_le j hj
    omega
  have hbegin : ∀ {s₁ : SendState}, s₁.turn = s.snd.turn + 1 →
      (s₁.beginFile c.snd).2.turn = s.snd.turn + 1 := by
    intro s₁ hturn
    rw [← hturn]
    exact SendState.beginFile_turn c.snd s₁
  cases hstep with
  | within hk hk' same sends_ok =>
      exact h.stays hsync hk same.turn_eq hord (Or.inl hk') sends_ok
  | failed hk same hst sends_ok =>
      exact h.stays hsync hk same.turn_eq hord (Or.inr rfl) sends_ok
  | @greeted s₁ hk hlast turn_eq batch_eq idx_eq log_eq done_eq =>
      obtain ⟨hrcv, hold⟩ := hnext hlast rfl
      exact h.moves (by rw [hrcv, hbegin turn_eq]) (by rw [hbegin turn_eq]; exact hold) hord
        (SendState.beginFile_opens c.snd s₁)
  | @filed s₁ hk hlast turn_eq batch_eq idx_eq log_eq done_eq mtu_eq =>
      obtain ⟨hrcv, hold⟩ := hnext hlast rfl
      exact h.moves (by rw [hrcv, hbegin turn_eq]) (by rw [hbegin turn_eq]; exact hold) hord
        (SendState.beginFile_opens c.snd s₁)
  | finished hk hlast =>
      obtain ⟨hrcv, hold⟩ := hnext hlast rfl
      refine h.moves hrcv hold hord ?_
      rintro (hex | ⟨p, hp, -⟩)
      · cases hex
      · exact absurd hp List.not_mem_nil

/-- Before the receiver's handshake nothing but HELLO is on its way. -/
theorem Sync.early (h : Sync c sc s) (hsc : sc[0]? = some .hello) (hzero : s.rcv.turn = 0) :
    s.snd.turn = 0 ∧ (∀ it ∈ s.toRcv, it.turn = 0 ∧ it.send.type = .hello)
      ∧ s.snd.pc.exchange ≠ some .file := by
  have hsnd : s.snd.turn = 0 := by
    have := h.turns.turn_le
    omega
  refine ⟨hsnd, ?_, ?_⟩
  · intro it hit
    have hturn : it.turn = 0 := by
      have hle : it.turn ≤ s.snd.turn := h.turns.down_le it hit
      omega
    obtain ⟨e, he, hreq⟩ := h.req_fits it hit
    rw [hturn, hsc] at he
    cases he
    rcases hreq with hreq | ⟨f, content, hfile, -⟩
    · refine ⟨hturn, ?_⟩
      revert hreq
      cases it.send.type <;> first | (intro hreq; cases hreq; done) | exact fun _ => rfl
    · cases hfile
  · intro hk
    have hbusy : s.snd.pc ≠ .idle := SendPc.busy_of_exchange hk
    obtain ⟨e, he, hkind, -⟩ := (h.snd_at (h.snd_busy hbusy)).current hk
    rw [hsnd, hsc] at he
    cases he
    cases hkind

/-- The metadata wait does not pass over a frame. -/
theorem RecvState.onFrame_header (env : RecvEnv) {r : RecvState} (hphase : r.pc.phase = .header)
    (fr : Frame) (fs : FsOutcome) :
    (r.onFrame env fr fs).2.log ≠ [] ∨ (r.onFrame env fr fs).2.pc.phase.InFile := by
  have hret : ∀ st, (r.ret st).log ≠ [] :=
    fun _ => List.append_ne_nil_of_right_ne_nil _ (List.cons_ne_nil _ _)
  cases hpc : r.pc with
  | metaWait tries =>
      unfold RecvState.onFrame
      rw [hpc]
      dsimp only
      unfold RecvState.onMetaFrame
      split
      · exact Or.inl (hret _)
      · split
        · exact Or.inl (hret _)
        · exact Or.inl (hret _)
        · split
          · exact Or.inl (hret _)
          · exact Or.inr ⟨_, RecvState.acceptMeta_phase env r _⟩
        · exact Or.inl (hret _)
  | idle => rw [hpc] at hphase; cases hphase
  | helloWait => rw [hpc] at hphase; cases hphase
  | neverPeek _ => rw [hpc] at hphase; cases hphase
  | resumeReqWait _ _ => rw [hpc] at hphase; cases hphase
  | verifyWait _ _ _ _ => rw [hpc] at hphase; cases hphase
  | dataWait _ _ => rw [hpc] at hphase; cases hphase
  | skipWait _ _ => rw [hpc] at hphase; cases hphase

/-- The receiver's part of a step. -/
theorem Orderly.received (h : Orderly s) {down : List Item} {r : List Send × RecvState}
    (hsub : down.Sublist s.toRcv)
    (hold : r.2.log = [] → ∀ it ∈ down, it.turn < r.2.turn →
      it.send.type = .hello ∨ it.send.type = .done)
    (hahead : r.2.log = [] → s.snd.turn < r.2.turn → s.snd.pc.exchange = some .file →
      s.snd.pc.awaitsDone = true)
    (hopened : r.2.log = [] → ¬ r.2.pc.phase.InFile →
      (s.snd.pc.exchange = some .file ∧ s.snd.turn = r.2.turn
        ∨ ∃ it ∈ down, it.turn = r.2.turn ∧ it.send.type.isFileRequest = true) →
      ∃ m ∈ down, m.turn = r.2.turn ∧ m.send.type = .sendMeta) :
    Orderly ({ s with toRcv := down }.answered r) where
  done_last := h.done_last.sublist hsub
  done_snd := fun it hit => h.done_snd it (hsub.subset hit)
  old := hold
  ahead := hahead
  opened := hopened

/-- The receiver's call has returned. -/
theorem Orderly.returned (h : Orderly s) {down : List Item} {r : List Send × RecvState}
    (hsub : down.Sublist s.toRcv) (hlog : r.2.log ≠ []) :
    Orderly ({ s with toRcv := down }.answered r) :=
  h.received hsub (fun hnil => absurd hnil hlog) (fun hnil => absurd hnil hlog)
    (fun hnil => absurd hnil hlog)

/-- The receiver stays in its exchange. -/
theorem Orderly.remains (h : Orderly s) {down : List Item} {r : List Send × RecvState}
    (hsub : down.Sublist s.toRcv) (same : s.rcv.SameCall r.2)
    (hopened : ¬ r.2.pc.phase.InFile → down = s.toRcv ∧ ¬ s.rcv.pc.phase.InFile
      ∨ s.snd.pc.exchange ≠ some .file ∧ ∀ it ∈ down, it.send.type = .hello) :
    Orderly ({ s with toRcv := down }.answered r) := by
  have hlog : r.2.log = s.rcv.log := same.log_eq
  have hturn : r.2.turn = s.rcv.turn := same.turn_eq
  refine h.received hsub ?_ ?_ ?_
  · rw [hlog, hturn]
    exact fun hnil it hit => h.old hnil it (hsub.subset hit)
  · rw [hlog, hturn]
    exact h.ahead
  · rw [hlog, hturn]
    intro hnil hout hcond
    rcases hopened hout with ⟨rfl, hout'⟩ | ⟨hex, hhello⟩
    · exact h.opened hnil hout' hcond
    · rcases hcond with ⟨hex', -⟩ | ⟨it, hit, -, htype⟩
      · exact absurd hex' hex
      · rw [hhello it hit] at htype
        cases htype

/-- **A step of the receiver** keeps the order. -/
theorem Orderly.answered (h : Orderly s) (hsync : Sync c sc s) (hsc : sc[0]? = some .hello)
    (hbusy : s.rcv.pc ≠ .idle) {last : Option Frame} {down : List Item}
    {r : List Send × RecvState} (hstep : RecvStep c.rcv s.rcv last r) (htook : Took s last down)
    (hheader : last ≠ none → s.rcv.pc.phase = .header →
      r.2.log ≠ [] ∨ r.2.pc.phase.InFile) :
    Orderly ({ s with toRcv := down }.answered r) := by
  have hsub := htook.sublist
  have hat := hsync.rcv_at (hsync.rcv_busy hbusy)
  have hret : ∀ (s₁ : RecvState) (st : Status), (s₁.ret st).log ≠ [] :=
    fun _ _ => List.append_ne_nil_of_right_ne_nil _ (List.cons_ne_nil _ _)
  cases hstep with
  | @waits s' hphase same =>
      by_cases hlast : last = none
      · -- a timeout leaves the channel alone
        subst hlast
        cases htook
        refine h.remains hsub same (fun hout => Or.inl ⟨rfl, ?_⟩)
        rw [← hphase]
        exact hout
      · cases hph : s.rcv.pc.phase with
        | none =>
            exact absurd (by cases hpc : s.rcv.pc <;> rw [hpc] at hph <;> first | rfl | cases hph)
              hbusy
        | hello =>
            have hzero := hat.fresh_ok (hat.hello_ok hph)
            obtain ⟨-, hhello, hex⟩ := hsync.early hsc hzero
            exact h.remains hsub same
              (fun _ => Or.inr ⟨hex, fun it hit => (hhello it (hsub.subset hit)).2⟩)
        | header =>
            rcases hheader hlast hph with hlog | hin
            · exact h.returned hsub hlog
            · exact h.remains hsub same (fun hout => absurd hin hout)
        | file f =>
            exact h.remains hsub same (fun hout => absurd ⟨f, hphase.trans hph⟩ hout)
  | within hphase hphase' same sends_ok =>
      exact h.remains hsub same (fun hout => absurd ⟨_, hphase'⟩ hout)
  | stopped same hst => exact h.returned hsub (hret _ _)
  | failed hphase same hst sends_ok => exact h.returned hsub (hret _ _)
  | @greeted fr s' p hphase hlast htype hphase' turn_eq completed_eq log_eq done_eq mtu_min hp =>
      have hzero := hat.fresh_ok (hat.hello_ok hphase)
      obtain ⟨hsnd, hhello, hex⟩ := hsync.early hsc hzero
      refine h.received hsub ?_ ?_ ?_
      · exact fun _ it hit _ => Or.inl (hhello it (hsub.subset hit)).2
      · exact fun _ _ hex' => absurd hex' hex
      · rintro - - (⟨hex', -⟩ | ⟨it, hit, -, htype'⟩)
        · exact absurd hex' hex
        · rw [(hhello it (hsub.subset hit)).2] at htype'
          cases htype'
  | opened hphase hlast hrecv htype hlen =>
      exact h.remains hsub ⟨rfl, rfl, rfl, rfl, rfl, rfl⟩
        (fun hout => absurd ⟨_, RecvState.acceptMeta_phase c.rcv s.rcv _⟩ hout)
  | @filed f fr s₁ off hphase hlast htype same =>
      -- what is left of the exchange came behind this DONE
      cases htook with
      | nothing => cases hlast
      | @head it rest hchan =>
          cases hlast
          have hmem : it ∈ s.toRcv := by
            rw [hchan]
            exact List.mem_cons_self ..
          obtain ⟨e, he, hreq⟩ := hsync.req_fits it hmem
          have hdone : it.send.type = .done := by
            rw [← Send.frame_type hreq.named]
            exact htype
          obtain ⟨hqp, hall⟩ := hsync.turns.inside_turn ⟨f, hphase⟩
          have hturn : ∀ j ∈ s.toRcv, j.turn = s.rcv.turn := hall
          have hbehind : ∀ j ∈ down, j.send.type = .done := by
            intro j hj
            have hpair := h.done_last
            rw [hchan] at hpair
            refine (List.pairwise_cons.mp hpair).1 j hj hdone ?_
            rw [hturn it hmem, hturn j (hsub.subset hj)]
          refine h.received hsub ?_ ?_ ?_
          · exact fun _ j hj _ => Or.inr (hbehind j hj)
          · intro _ _ hex
            rcases h.done_snd it hmem hdone ((hturn it hmem).trans hqp) with ha | hidle
            · exact ha
            · rw [hidle] at hex
              cases hex
          · -- nothing of the next exchange exists
            intro _ _ hcond
            have hnext : (s₁.fileDone c.rcv f).turn = s.rcv.turn + 1 := by
              show s₁.turn + 1 = _
              rw [same.turn_eq]
            rw [hnext] at hcond
            rcases hcond with ⟨-, heq⟩ | ⟨j, hj, hjturn, -⟩
            · omega
            · have := hturn j (hsub.subset hj)
              omega
  | finished hphase hlast htype => exact h.returned hsub (hret _ _)

/-- **Every step** of a reliable run of one call on each side keeps the
order. -/
theorem orderly_step {s' : SessionSys} {l : SessionLabel} (h : Orderly s)
    (hsync : Sync c sc s) (hone : OneCall s) (hst : Stamped s) (hsc : sc[0]? = some .hello)
    (hl : l.isLoss = false) (hstep : s.step c l = some s') : Orderly s' := by
  cases SessionSys.step_inv hstep with
  | @sndCall batch rest hcalls hidle =>
      -- a fresh session: nothing is in flight
      have hlog := hone.snd_next (by rw [hcalls]; exact nofun)
      have hnd := hst.snd_new hidle hlog
      have hzero := hst.snd_turn hlog
      rw [hnd] at hzero
      obtain ⟨hrcv, -, hlt, -⟩ :=
        hsync.snd_idle hidle (fun e he => by rw [hlog] at he; cases he)
      obtain ⟨hturn, hord, hex, hhello⟩ := SendState.call_fresh c.snd hidle hnd batch
      refine @Orderly.moves s h _ s.toSnd rest (hrcv.trans hturn.symm) (by rw [hturn]; exact hlt)
        hord ?_
      rintro (hex' | ⟨p, hp, htype⟩)
      · exact absurd hex' hex
      · rw [hhello p hp] at htype
        cases htype
  | @rcvCall dir rest hcalls hidle =>
      have hout : ¬ s.rcv.pc.phase.InFile := by
        rw [hidle]
        exact nofun
      exact ⟨h.done_last, h.done_snd, h.old, h.ahead, fun hlog _ => h.opened hlog hout⟩
  | @sndRecv it rest hchan hbusy =>
      refine h.sent hsync (SendState.onFrame_step c.snd hbusy it.send.frame)
        (SendState.onFrame_ordered c.snd s.snd it.send.frame) ?_
      intro t ht hfinal
      refine ⟨it, hchan, ?_⟩
      cases ht
      have hnamed := hsync.rep_named it (by rw [hchan]; exact List.mem_cons_self ..)
      rw [Send.frame_type hnamed] at hfinal
      exact hfinal
  | @sndTimeout timer hbusy =>
      exact h.sent hsync (SendState.onTimeout_step c.snd hbusy timer)
        (SendState.onTimeout_ordered c.snd s.snd timer) nofun
  | @rcvRecv it rest fs hchan hbusy =>
      exact h.answered hsync hsc hbusy (RecvState.onFrame_step c.rcv s.rcv it.send.frame fs)
        (.head hchan) (fun _ hph => RecvState.onFrame_header c.rcv hph _ fs)
  | @rcvTimeout timer fs hbusy =>
      exact h.answered hsync hsc hbusy (RecvState.onTimeout_step c.rcv s.rcv timer fs) .nothing
        (fun hne => absurd rfl hne)
  | lose hl' hrcv hsnd =>
      rw [hl] at hl'
      cases hl'

theorem orderly_init (c : SessionParams) (files : Bytes → Option Bytes)
    (sndCalls : List (List SourceFile)) (rcvCalls : List Bytes) :
    Orderly (SessionSys.init c files sndCalls rcvCalls) where
  done_last := List.Pairwise.nil
  done_snd := fun _ hit => absurd hit List.not_mem_nil
  old := fun _ _ hit => absurd hit List.not_mem_nil
  ahead := fun _ _ => nofun
  opened := by
    rintro - - (⟨hex, -⟩ | ⟨it, hit, -⟩)
    · cases hex
    · exact absurd hit List.not_mem_nil

/-- **What the metadata wait finds**: the SEND_META or the EOT it waits for,
or a HELLO or DONE that was repeated before. -/
theorem Orderly.header (h : Orderly s) (hsync : Sync c sc s) (hone : OneCall s)
    (hphase : s.rcv.pc.phase = .header) {it : Item} {rest : List Item}
    (hchan : s.toRcv = it :: rest) :
    (∃ f content, f.readable = some content ∧ it.send = sendMeta c.snd.senderPath f)
    ∨ it.send.type = .eot ∨ it.send.type = .hello ∨ it.send.type = .done := by
  have hbusy : s.rcv.pc ≠ .idle := fun hidle => by rw [hidle] at hphase; cases hphase
  have hlog := hone.rcv_busy hbusy
  have hmem : it ∈ s.toRcv := by
    rw [hchan]
    exact List.mem_cons_self ..
  have hout : ¬ s.rcv.pc.phase.InFile := by
    rw [hphase]
    exact nofun
  by_cases hlt : it.turn < s.rcv.turn
  · rcases h.old hlog it hmem hlt with ht | ht
    · exact Or.inr (Or.inr (Or.inl ht))
    · exact Or.inr (Or.inr (Or.inr ht))
  · have hturns := hsync.turns
    rw [hchan] at hturns
    have hitturn : it.turn = s.rcv.turn := by
      have hle : it.turn ≤ s.snd.turn := hturns.down_le it (List.mem_cons_self ..)
      have hpq := hturns.turn_le
      omega
    obtain ⟨e, he, hreq⟩ := hsync.req_fits it hmem
    rcases hreq with hreq | ⟨f, content, -, hread, hsend⟩
    · by_cases hfile : it.send.type.isFileRequest = true
      · -- its SEND_META would be behind it
        obtain ⟨m, hm, hmturn, hmeta⟩ :=
          h.opened hlog hout (Or.inr ⟨it, hmem, hitturn, hfile⟩)
        rw [hchan] at hm
        rcases List.mem_cons.mp hm with rfl | hm
        · rw [hmeta] at hfile
          cases hfile
        · have hbefore := ((List.pairwise_cons.mp hturns.down_order).1 m hm).2 hmeta
          replace hbefore : it.turn < m.turn := hbefore
          omega
      · right
        revert hreq hfile
        cases e.kind <;> cases it.send.type <;> simp [ExchangeKind.request, PacketType.isFileRequest]
    · exact Or.inl ⟨f, content, hread, hsend⟩

end Channel

end ValProtocol
