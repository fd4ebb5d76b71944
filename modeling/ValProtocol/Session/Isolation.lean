/-
  ValProtocol.Session.Isolation
  ─────────────────────────────
  One `val_send_files` call against one `val_receive_files` call, over FIFO
  channels that may lose and delay anything.

    • `batch_isolation` — every file packet a side takes while it handles its
      `k`-th file was sent for the peer's `k`-th file, and a receiver that
      returns `VAL_OK` has completed exactly the files of the batch, in order.
-/
import ValProtocol.Data.HighWater
import ValProtocol.Session.Turns

namespace ValProtocol

/-! ## §1. One call on each side. -/

/-- The packets of a file that go to the receiver. -/
def PacketType.isFileRequest : PacketType → Bool
  | .resumeReq | .verify | .data | .done => true
  | _ => false

/-- The packets of a file that go to the sender. -/
def PacketType.isFileReply : PacketType → Bool
  | .resumeResp | .verify | .dataAck | .dataNak | .doneAck => true
  | _ => false

/-- Each side calls at most once. -/
structure OneCall (s : SessionSys) : Prop where
  snd_le : s.sndBatches.length ≤ 1
  rcv_le : s.rcvCount ≤ 1

namespace OneCall

variable {c : SessionParams} {s s' : SessionSys}

theorem step {l : SessionLabel} (h : OneCall s) (hstep : s.step c l = some s') : OneCall s' := by
  have hkept := calls_step hstep
  exact ⟨by rw [hkept.batches_eq]; exact h.snd_le, by rw [hkept.count_eq]; exact h.rcv_le⟩

/-- A running call is the first one. -/
theorem snd_busy (h : OneCall s) (hbusy : s.snd.pc ≠ .idle) : s.snd.log = [] := by
  have := h.snd_le
  unfold SessionSys.sndBatches at this
  rw [if_neg hbusy, List.length_append, List.length_map, List.singleton_append,
    List.length_cons] at this
  exact List.eq_nil_of_length_eq_zero (by omega)

theorem rcv_busy (h : OneCall s) (hbusy : s.rcv.pc ≠ .idle) : s.rcv.log = [] := by
  have := h.rcv_le
  unfold SessionSys.rcvCount at this
  rw [if_neg hbusy] at this
  exact List.eq_nil_of_length_eq_zero (by omega)

/-- A call to come is the first one. -/
theorem snd_next (h : OneCall s) (hnext : s.sndCalls ≠ []) : s.snd.log = [] := by
  have := h.snd_le
  have hpos := List.length_pos_of_ne_nil hnext
  unfold SessionSys.sndBatches at this
  rw [List.length_append, List.length_map, List.length_append] at this
  exact List.eq_nil_of_length_eq_zero (by omega)

theorem rcv_next (h : OneCall s) (hnext : s.rcvCalls ≠ []) : s.rcv.log = [] := by
  have := h.rcv_le
  have hpos := List.length_pos_of_ne_nil hnext
  unfold SessionSys.rcvCount at this
  exact List.eq_nil_of_length_eq_zero (by omega)

/-- No call follows a failed one. -/
theorem callsClean (h : OneCall s) {l : SessionLabel} (hstep : s.step c l = some s') :
    CallsClean s l := by
  cases SessionSys.step_inv hstep with
  | sndCall hcalls hidle =>
      intro e he
      rw [h.snd_next (by rw [hcalls]; exact nofun)] at he
      exact absurd he List.not_mem_nil
  | rcvCall hcalls hidle =>
      intro e he
      rw [h.rcv_next (by rw [hcalls]; exact nofun)] at he
      exact absurd he List.not_mem_nil
  | sndRecv hchan hbusy => trivial
  | sndTimeout hbusy => trivial
  | rcvRecv hchan hbusy => trivial
  | rcvTimeout hbusy => trivial
  | lose hl hrcv hsnd => cases l <;> trivial

/-- No EOT of an earlier call exists. -/
theorem eotFresh {sc : List Exchange} (h : OneCall s) (hsync : Sync c sc s)
    {l : SessionLabel} (hstep : s.step c l = some s') : EotFresh s l := by
  cases SessionSys.step_inv hstep with
  | sndCall hcalls hidle => trivial
  | rcvCall hcalls hidle => trivial
  | sndRecv hchan hbusy => trivial
  | sndTimeout hbusy => trivial
  | rcvRecv hchan hbusy =>
      intro it hit hphase htype
      have hmem : it ∈ s.toRcv := List.mem_of_mem_head? hit
      -- an EOT of an exchange that is over would be on record
      by_contra hne
      have hle : it.turn ≤ s.snd.turn := hsync.turns.down_le it hmem
      have hlt : it.turn < s.rcv.turn := by
        have := hsync.turns.turn_le
        omega
      obtain ⟨e, he, hreq⟩ := hsync.req_fits it hmem
      have hkind := hreq.kind (by rw [htype]; decide)
      rw [htype] at hkind
      cases e with
      | hello => cases hkind
      | file f => cases hkind
      | eot =>
          have hrec := (hsync.rcv_at (hsync.rcv_busy hbusy)).record_eq
          apply record_ne_nil c.snd he hlt
          rw [hrec, h.rcv_busy hbusy]
          rfl
  | rcvTimeout hbusy => trivial
  | lose hl hrcv hsnd => cases l <;> trivial

end OneCall

/-! ## §2. What the stamps say. -/

/-- In a first call the exchange of file `k` is the one numbered `k + 1`. -/
structure Stamped (s : SessionSys) : Prop where
  snd_new : s.snd.pc = .idle → s.snd.log = [] → s.snd.handshakeDone = false
  snd_turn : s.snd.log = [] →
    s.snd.turn = if s.snd.handshakeDone = true then s.snd.idx + 1 else 0
  rcv_turn : s.rcv.log = [] → s.rcv.handshakeDone = true →
    s.rcv.turn = s.rcv.completed.length + 1
  rcv_new : s.rcv.log = [] → s.rcv.handshakeDone = false →
    s.rcv.completed = [] ∧ s.rcv.turn = 0
  req_file : ∀ it ∈ s.toRcv, it.send.type.isFileRequest = true →
    ∃ k, it.file = some k ∧ it.turn = k + 1
  rep_file : ∀ it ∈ s.toSnd, it.send.type.isFileReply = true →
    ∃ k, it.file = some k ∧ it.turn = k + 1

theorem ExchangeKind.request_isFileRequest {k : ExchangeKind} {t : PacketType}
    (h : k.request t = true) (ht : t.isFileRequest = true) : k = .file := by
  cases k with
  | hello => cases t <;> first | (cases h; done) | cases ht
  | file => rfl
  | eot => cases t <;> first | (cases h; done) | cases ht

section Stamps

variable {c : SessionParams} {sc : List Exchange} {s : SessionSys}

/-- The sender at the head of its loop. -/
theorem Stamped.begin {s₁ : SendState} (h : Stamped s) (hdone : s₁.handshakeDone = true)
    (hturn : s₁.turn = s₁.idx + 1) {up : List Item} {calls : List (List SourceFile)}
    (hup : up.Sublist s.toSnd) :
    Stamped ({ s with toSnd := up, sndCalls := calls }.sent (s₁.beginFile c.snd)) := by
  have hrep : ∀ it ∈ up, it.send.type.isFileReply = true →
      ∃ k, it.file = some k ∧ it.turn = k + 1 :=
    fun it hit => h.rep_file it (hup.subset hit)
  have hreq : ∀ {sends : List Send}, ∀ it ∈ s.toRcv
      ++ sends.map (fun p => (⟨p, s₁.turn, some s₁.idx⟩ : Item)),
      it.send.type.isFileRequest = true → ∃ k, it.file = some k ∧ it.turn = k + 1 := by
    intro sends it hit htype
    rcases List.mem_append.mp hit with hit | hit
    · exact h.req_file it hit htype
    · obtain ⟨-, ht, hf⟩ := mem_stamped hit
      exact ⟨s₁.idx, hf, by rw [ht, hturn]⟩
  have hturn' : s₁.turn = if s₁.handshakeDone = true then s₁.idx + 1 else 0 := by
    rw [if_pos hdone, hturn]
  unfold SendState.beginFile
  split
  · exact ⟨nofun, fun _ => hturn', h.rcv_turn, h.rcv_new, hreq, hrep⟩
  · split
    · refine ⟨fun _ hlog => ?_, fun _ => hturn', h.rcv_turn, h.rcv_new, hreq, hrep⟩
      exact absurd hlog (List.append_ne_nil_of_right_ne_nil _ (List.cons_ne_nil _ _))
    · exact ⟨nofun, fun _ => hturn', h.rcv_turn, h.rcv_new, hreq, hrep⟩

/-- **A step of the sender** keeps the stamps. -/
theorem Stamped.sent (h : Stamped s) (hone : OneCall s) (hsync : Sync c sc s)
    (hbusy : s.snd.pc ≠ .idle) {last : Option PacketType} {up : List Item}
    {r : List Send × SendState} (hstep : SendStep c.snd s.snd last r)
    (hup : up.Sublist s.toSnd) : Stamped ({ s with toSnd := up }.sent r) := by
  have hlog := hone.snd_busy hbusy
  have hturn := h.snd_turn hlog
  have hat := hsync.snd_at (hsync.snd_busy hbusy)
  have hrep : ∀ it ∈ up, it.send.type.isFileReply = true →
      ∃ k, it.file = some k ∧ it.turn = k + 1 :=
    fun it hit => h.rep_file it (hup.subset hit)
  -- packets of the exchange the sender is in
  have hreq : ∀ {k : ExchangeKind} {sends : List Send}, s.snd.pc.exchange = some k →
      (∀ p ∈ sends, k.request p.type = true) → ∀ it ∈ s.toRcv
        ++ sends.map (fun p => (⟨p, s.snd.turn, some s.snd.idx⟩ : Item)),
      it.send.type.isFileRequest = true → ∃ k, it.file = some k ∧ it.turn = k + 1 := by
    intro k sends hk hsends it hit htype
    rcases List.mem_append.mp hit with hit | hit
    · exact h.req_file it hit htype
    · obtain ⟨hmem, ht, hf⟩ := mem_stamped hit
      have hkind := ExchangeKind.request_isFileRequest (hsends _ hmem) htype
      subst hkind
      refine ⟨s.snd.idx, hf, ?_⟩
      rw [ht, hturn, if_pos (hat.file_ok hk).2]
  cases hstep with
  | @within k sends s' hk hk' same sends_ok =>
      have hreq' := hreq hk sends_ok
      rw [← same.turn_eq, ← same.idx_eq] at hreq'
      refine ⟨?_, ?_, h.rcv_turn, h.rcv_new, hreq', hrep⟩
      · intro hidle
        rw [show s'.pc = .idle from hidle] at hk'
        cases hk'
      · intro _
        show s'.turn = if s'.handshakeDone = true then s'.idx + 1 else 0
        rw [same.turn_eq, same.idx_eq, same.done_eq]
        exact hturn
  | @failed k sends s₁ st hk same hst sends_ok =>
      have hreq' := hreq hk sends_ok
      rw [← same.turn_eq, ← same.idx_eq] at hreq'
      have hne : (s₁.ret st).log ≠ [] :=
        List.append_ne_nil_of_right_ne_nil _ (List.cons_ne_nil _ _)
      exact ⟨fun _ hnil => absurd hnil hne, fun hnil => absurd hnil hne, h.rcv_turn, h.rcv_new,
        hreq', hrep⟩
  | @greeted s₁ hk hlast turn_eq batch_eq idx_eq log_eq done_eq =>
      refine h.begin done_eq ?_ hup
      obtain ⟨hidx, hnd⟩ := hat.hello_ok hk
      rw [turn_eq, hturn, idx_eq, hidx, hnd]
      rfl
  | @filed s₁ hk hlast turn_eq batch_eq idx_eq log_eq done_eq mtu_eq =>
      have hdone := (hat.file_ok hk).2
      refine h.begin (done_eq.trans hdone) ?_ hup
      rw [turn_eq, hturn, if_pos hdone, idx_eq]
  | finished hk hlast =>
      have hne : ({ s.snd.ret .ok with turn := s.snd.turn + 1 }).log ≠ [] :=
        List.append_ne_nil_of_right_ne_nil _ (List.cons_ne_nil _ _)
      refine ⟨fun _ hnil => absurd hnil hne, fun hnil => absurd hnil hne, h.rcv_turn, h.rcv_new,
        ?_, hrep⟩
      intro it hit htype
      rcases List.mem_append.mp hit with hit | hit
      · exact h.req_file it hit htype
      · exact absurd hit List.not_mem_nil

/-- **A step of the receiver** keeps the stamps. -/
theorem Stamped.answered (h : Stamped s) (hone : OneCall s) (hsync : Sync c sc s)
    (hbusy : s.rcv.pc ≠ .idle) {last : Option Frame} {down : List Item}
    {r : List Send × RecvState} (hstep : RecvStep c.rcv s.rcv last r)
    (hdown : down.Sublist s.toRcv) : Stamped ({ s with toRcv := down }.answered r) := by
  have hlog := hone.rcv_busy hbusy
  have hat := hsync.rcv_at (hsync.rcv_busy hbusy)
  have hreq : ∀ it ∈ down, it.send.type.isFileRequest = true →
      ∃ k, it.file = some k ∧ it.turn = k + 1 :=
    fun it hit => h.req_file it (hdown.subset hit)
  -- answers to the file the receiver is at
  have hfile : ∀ {f : RecvFile}, s.rcv.pc.phase = .file f →
      ∃ k, s.rcv.handling = some k ∧ s.rcv.turn = k + 1 := by
    intro f hphase
    refine ⟨s.rcv.completed.length, ?_, h.rcv_turn hlog (hat.file_done f hphase)⟩
    unfold RecvState.handling
    rw [hphase]
  have hrep : ∀ {sends : List Send},
      (∀ p ∈ sends, p.type.isFileReply = true → ∃ f, s.rcv.pc.phase = .file f) →
      ∀ it ∈ s.toSnd ++ sends.map (fun p => (⟨p, s.rcv.turn, s.rcv.handling⟩ : Item)),
        it.send.type.isFileReply = true → ∃ k, it.file = some k ∧ it.turn = k + 1 := by
    intro sends hsends it hit htype
    rcases List.mem_append.mp hit with hit | hit
    · exact h.rep_file it hit htype
    · obtain ⟨hmem, ht, hf⟩ := mem_stamped hit
      obtain ⟨f, hphase⟩ := hsends _ hmem htype
      obtain ⟨k, hk, hturn⟩ := hfile hphase
      exact ⟨k, by rw [hf, hk], by rw [ht, hturn]⟩
  have hnone : ∀ p ∈ ([] : List Send), p.type.isFileReply = true →
      ∃ f, s.rcv.pc.phase = .file f := fun p hp => absurd hp List.not_mem_nil
  -- a step that leaves the call's counters alone
  have hsame : ∀ {sends : List Send} {s' : RecvState}, s.rcv.SameCall s' →
      (∀ p ∈ sends, p.type.isFileReply = true → ∃ f, s.rcv.pc.phase = .file f) →
      Stamped ({ s with toRcv := down }.answered (sends, s')) := by
    intro sends s' same hsends
    refine ⟨h.snd_new, h.snd_turn, ?_, ?_, hreq, hrep hsends⟩
    · show s'.log = [] → s'.handshakeDone = true → s'.turn = s'.completed.length + 1
      rw [same.log_eq, same.done_eq, same.turn_eq, same.completed_eq]
      exact h.rcv_turn
    · show s'.log = [] → s'.handshakeDone = false → s'.completed = [] ∧ s'.turn = 0
      rw [same.log_eq, same.done_eq, same.turn_eq, same.completed_eq]
      exact h.rcv_new
  -- a return
  have hret : ∀ {sends : List Send} {s₁ : RecvState} {st : Status} {turn : Nat},
      (∀ p ∈ sends, p.type.isFileReply = true → ∃ f, s.rcv.pc.phase = .file f) →
      Stamped ({ s with toRcv := down }.answered (sends, { s₁.ret st with turn := turn })) := by
    intro sends s₁ st turn hsends
    have hne : ({ s₁.ret st with turn := turn }).log ≠ [] :=
      List.append_ne_nil_of_right_ne_nil _ (List.cons_ne_nil _ _)
    exact ⟨h.snd_new, h.snd_turn, fun hnil => absurd hnil hne, fun hnil => absurd hnil hne, hreq,
      hrep hsends⟩
  cases hstep with
  | waits hphase same => exact hsame same hnone
  | within hphase hphase' same sends_ok => exact hsame same (fun _ _ _ => ⟨_, hphase⟩)
  | stopped same hst => exact hret hnone
  | failed hphase same hst sends_ok => exact hret (fun _ _ _ => ⟨_, hphase⟩)
  | @greeted fr s' p hphase hlast htype hphase' turn_eq completed_eq log_eq done_eq mtu_min hp =>
      obtain ⟨hcompleted, hturn⟩ := h.rcv_new hlog (hat.hello_ok hphase)
      refine ⟨h.snd_new, h.snd_turn, ?_, ?_, hreq, hrep ?_⟩
      · intro _ _
        show s'.turn = s'.completed.length + 1
        rw [turn_eq, hturn, completed_eq, hcompleted]
        rfl
      · intro _ hnd
        exact absurd (done_eq.symm.trans hnd) (by decide)
      · intro q hq htype'
        rw [List.mem_singleton.mp hq, hp] at htype'
        cases htype'
  | opened hphase hlast hrecv htype hlen =>
      exact hsame ⟨rfl, rfl, rfl, rfl, rfl, rfl⟩ hnone
  | @filed f fr s₁ off hphase hlast htype same =>
      have hdone : s₁.handshakeDone = true := by
        rw [same.done_eq]
        exact hat.file_done f hphase
      refine ⟨h.snd_new, h.snd_turn, ?_, ?_, hreq, hrep (fun _ _ _ => ⟨f, hphase⟩)⟩
      · intro _ _
        show s₁.turn + 1 = (s₁.completed ++ [f.announced]).length + 1
        rw [same.turn_eq, same.completed_eq, List.length_append, List.length_singleton,
          h.rcv_turn hlog (hat.file_done f hphase)]
      · intro _ hnd
        exact absurd (hdone.symm.trans hnd) (by decide)
  | finished hphase hlast htype =>
      refine hret ?_
      intro q hq htype'
      rw [List.mem_singleton.mp hq] at htype'
      cases htype'

/-- **One step.** -/
theorem stamped_step {s' : SessionSys} {l : SessionLabel} (h : Stamped s) (hone : OneCall s)
    (hsync : Sync c sc s) (hstep : s.step c l = some s') : Stamped s' := by
  cases SessionSys.step_inv hstep with
  | @sndCall batch rest hcalls hidle =>
      -- the first call: nothing has been sent before
      have hlog := hone.snd_next (by rw [hcalls]; exact nofun)
      have hnd := h.snd_new hidle hlog
      have hturn := h.snd_turn hlog
      rw [hnd] at hturn
      have hne : ∀ st, ({ s.snd with batch := batch, idx := 0 }.ret st).log ≠ [] :=
        fun _ => List.append_ne_nil_of_right_ne_nil _ (List.cons_ne_nil _ _)
      unfold SendState.call
      dsimp only
      split
      · refine ⟨fun _ hnil => absurd hnil (hne _), fun hnil => absurd hnil (hne _), h.rcv_turn,
          h.rcv_new, ?_, h.rep_file⟩
        intro it hit htype
        rcases List.mem_append.mp hit with hit | hit
        · exact h.req_file it hit htype
        · exact absurd hit List.not_mem_nil
      · rw [if_neg (by rw [hnd]; decide)]
        refine ⟨nofun, fun _ => ?_, h.rcv_turn, h.rcv_new, ?_, h.rep_file⟩
        · show s.snd.turn = if s.snd.handshakeDone = true then 0 + 1 else 0
          rw [hnd]
          exact hturn
        · intro it hit htype
          rcases List.mem_append.mp hit with hit | hit
          · exact h.req_file it hit htype
          · rw [List.mem_singleton.mp (mem_stamped hit).1] at htype
            cases htype
  | rcvCall hcalls hidle =>
      exact ⟨h.snd_new, h.snd_turn, h.rcv_turn, h.rcv_new, h.req_file, h.rep_file⟩
  | @sndRecv it rest hchan hbusy =>
      exact h.sent hone hsync hbusy (SendState.onFrame_step c.snd hbusy it.send.frame)
        (by rw [hchan]; exact List.sublist_cons_self _ _)
  | sndTimeout hbusy =>
      exact h.sent hone hsync hbusy (SendState.onTimeout_step c.snd hbusy _)
        (List.Sublist.refl _)
  | @rcvRecv it rest fs hchan hbusy =>
      exact h.answered hone hsync hbusy (RecvState.onFrame_step c.rcv s.rcv it.send.frame fs)
        (by rw [hchan]; exact List.sublist_cons_self _ _)
  | rcvTimeout hbusy =>
      exact h.answered hone hsync hbusy (RecvState.onTimeout_step c.rcv s.rcv _ _)
        (List.Sublist.refl _)
  | lose hl hrcv hsnd =>
      exact ⟨h.snd_new, h.snd_turn, h.rcv_turn, h.rcv_new,
        fun it hit => h.req_file it (hrcv.subset hit),
        fun it hit => h.rep_file it (hsnd.subset hit)⟩

theorem single_init (hmtu : minPacketSize ≤ c.rcv.cfg.packetSize)
    (files : Bytes → Option Bytes) (batch : List SourceFile) (dir : Bytes) :
    Sync c (script [batch]) (SessionSys.init c files [batch] [dir])
      ∧ OneCall (SessionSys.init c files [batch] [dir])
      ∧ Stamped (SessionSys.init c files [batch] [dir]) := by
  refine ⟨sync_init c files [batch] [dir] hmtu, ⟨Nat.le_refl 1, Nat.le_refl 1⟩, ?_⟩
  exact ⟨fun _ _ => rfl, fun _ => rfl, fun _ hd => (nomatch hd), fun _ _ => ⟨rfl, rfl⟩,
    fun _ hit => absurd hit List.not_mem_nil, fun _ hit => absurd hit List.not_mem_nil⟩

theorem single_step {batch : List SourceFile} {s' : SessionSys} {l : SessionLabel}
    (hsync : Sync c (script [batch]) s) (hone : OneCall s) (hst : Stamped s)
    (hstep : s.step c l = some s') :
    Sync c (script [batch]) s' ∧ OneCall s' ∧ Stamped s' :=
  ⟨sync_step hsync (hone.callsClean hstep) (hone.eotFresh hsync hstep) hstep,
    hone.step hstep, stamped_step hst hone hsync hstep⟩

/-- **Every run** of one call on each side is in step and well stamped. -/
theorem single_run {files : Bytes → Option Bytes} {batch : List SourceFile} {dir : Bytes}
    (hmtu : minPacketSize ≤ c.rcv.cfg.packetSize)
    (h : Lts.Reach (SessionSys.step c) (fun _ _ => True)
      (SessionSys.init c files [batch] [dir]) s) :
    Sync c (script [batch]) s ∧ OneCall s ∧ Stamped s := by
  refine h.invariant (I := fun s => Sync c (script [batch]) s ∧ OneCall s ∧ Stamped s)
    (single_init hmtu files batch dir) ?_
  rintro s l s' ⟨hsync, hone, hst⟩ - hstep
  exact single_step hsync hone hst hstep

end Stamps

/-! ## §3. Files do not leak into each other. -/

/-- **Batch isolation.**  In every state that one `val_send_files` call and
one `val_receive_files` call reach over channels that lose and delay packets:
a file packet the sender would take next while it handles file `k` was sent
by the receiver for its `k`-th file; a file packet the receiver would take
next while it handles its `k`-th file was sent for file `k`; and a
`val_receive_files` that has returned `VAL_OK` has completed exactly the
files of the batch, in order. -/
theorem batch_isolation {c : SessionParams} (hrcv : c.rcv.cfg.Accepted)
    {files : Bytes → Option Bytes} {batch : List SourceFile} {dir : Bytes} {s : SessionSys}
    (h : Lts.Reach (SessionSys.step c) (fun _ _ => True)
      (SessionSys.init c files [batch] [dir]) s) :
    (∀ it rest k, s.toSnd = it :: rest → s.snd.handling = some k →
      it.send.type.isFileReply = true → it.file = some k)
    ∧ (∀ it rest k, s.toRcv = it :: rest → s.rcv.handling = some k →
      it.send.type.isFileRequest = true → it.file = some k)
    ∧ ∀ completed, (completed, Status.ok) ∈ s.rcv.log →
        completed = batch.map (SourceFile.announced c.snd.senderPath) := by
  obtain ⟨hsync, hone, hst⟩ := single_run hrcv.packetSize_min h
  refine ⟨?_, ?_, ?_⟩
  · intro it rest k hchan hk htype
    have hmem : it ∈ s.toSnd := by
      rw [hchan]
      exact List.mem_cons_self ..
    obtain ⟨j, hj, hjturn⟩ := hst.rep_file it hmem htype
    -- both are of the sender's exchange, which is the one of its file
    have hitturn : it.turn = s.snd.turn := hsync.turns.up_turn it hmem
    unfold SendState.handling at hk
    split at hk
    · rename_i hex
      cases hk
      have hbusy : s.snd.pc ≠ .idle := fun hidle => by rw [hidle] at hex; cases hex
      have hturn := hst.snd_turn (hone.snd_busy hbusy)
      rw [if_pos ((hsync.snd_at (hsync.snd_busy hbusy)).file_ok hex).2] at hturn
      rw [hj, show j = s.snd.idx by omega]
    · cases hk
  · intro it rest k hchan hk htype
    have hmem : it ∈ s.toRcv := by
      rw [hchan]
      exact List.mem_cons_self ..
    obtain ⟨j, hj, hjturn⟩ := hst.req_file it hmem htype
    unfold RecvState.handling at hk
    split at hk
    · rename_i f hphase
      cases hk
      have hbusy : s.rcv.pc ≠ .idle := fun hidle => by rw [hidle] at hphase; cases hphase
      have hitturn : it.turn = s.rcv.turn := (hsync.turns.inside_turn ⟨f, hphase⟩).2 it hmem
      have hturn := hst.rcv_turn (hone.rcv_busy hbusy)
        ((hsync.rcv_at (hsync.rcv_busy hbusy)).file_done f hphase)
      rw [hj, show j = s.rcv.completed.length by omega]
    · cases hk
  · intro completed hmem
    -- the log has this one entry, and the script records one call
    have hlen : s.rcv.log.length ≤ 1 := by
      have := hone.rcv_le
      unfold SessionSys.rcvCount at this
      omega
    obtain ⟨e, he⟩ : ∃ e, s.rcv.log = [e] := by
      refine List.length_eq_one_iff.mp ?_
      have := List.length_pos_of_mem hmem
      omega
    have hclean : s.rcv.Clean := by
      intro e' he'
      rw [he] at he' hmem
      rw [List.mem_singleton.mp he', ← List.mem_singleton.mp hmem]
    have hrec := (hsync.rcv_at hclean).record_eq
    have hpre := record_take_prefix c.snd (script [batch]) s.rcv.turn
    rw [hrec, record_script, he] at hpre
    rw [he] at hmem
    have hhead : e.1 = batch.map (SourceFile.announced c.snd.senderPath) := by
      have := List.cons_prefix_cons.mp hpre
      exact this.1
    rw [← hhead, ← List.mem_singleton.mp hmem]

/-- Two sessions with small packets. -/
def smallPair : SessionParams where
  snd := { cfg := quickDegrade, provider := none, senderPath := none }
  rcv := { cfg := quickDegrade, provider := none, pathSep := 47, validator := none }

/-- Two files, `a` and `b`. -/
def smallBatch : List SourceFile := [⟨[97], some [1, 2, 3]⟩, ⟨[98], some [4]⟩]

/-- A RESUME_REQ, a repeated DONE and a DATA packet are lost on the way. -/
def lossyRun : List SessionLabel :=
  [.sndCall, .rcvCall, .rcvRecv .good, .sndRecv, .rcvRecv .good, .loseToRcv 0,
    .sndTimeout .resend, .rcvRecv .good, .sndRecv, .rcvRecv .good, .sndRecv,
    .sndTimeout .resend, .loseToRcv 1, .rcvRecv .good, .sndRecv, .rcvRecv .good,
    .rcvRecv .good, .sndRecv, .loseToRcv 0, .sndTimeout .resend, .rcvRecv .good, .sndRecv,
    .rcvRecv .good, .sndRecv, .rcvRecv .good, .sndRecv]

theorem batch_isolation_lossy_run :
    ∃ s : SessionSys, Lts.Reach (SessionSys.step smallPair) (fun _ _ => True)
        (SessionSys.init smallPair (fun _ => none) [smallBatch] [[]]) s
      ∧ ∃ completed, (completed, Status.ok) ∈ s.rcv.log
        ∧ completed = smallBatch.map (SourceFile.announced none) := by
  have hrun : (lossyRun.foldlM (Lts.checked (SessionSys.step smallPair) (fun _ _ => true))
      (SessionSys.init smallPair (fun _ => none) [smallBatch] [[]])).map
        (fun s => s.rcv.log.map Prod.snd) = some [.ok] := by
    decide +kernel
  obtain ⟨s, hs, hlog⟩ := Option.map_eq_some_iff.mp hrun
  have hreach := (Lts.Reach.of_foldlM hs).mono (fun _ _ _ => trivial)
  obtain ⟨e, he, hok⟩ : ∃ e ∈ s.rcv.log, e.2 = .ok :=
    List.mem_map.mp (by rw [hlog]; exact List.mem_singleton_self _)
  have hmem : (e.1, Status.ok) ∈ s.rcv.log := by
    rw [← hok]
    exact he
  have hiso := batch_isolation (c := smallPair) quickDegrade_accepted hreach
  exact ⟨s, hreach, e.1, hmem, hiso.2.2 _ hmem⟩

end ValProtocol
