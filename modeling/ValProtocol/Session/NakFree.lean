/-
  ValProtocol.Session.NakFree
  ───────────────────────────
  DATA_NAK between two sessions of this implementation.

  The sender handles DATA_NAK (`handle_nak_retransmit`, `src/val_sender.c`
  lines 317-347) and the receiver sends it for a packet ahead of `written`
  (`src/val_receiver.c`).  But a packet names its offset only where the sender
  stands at its own mark, and that mark came from the receiver: in no run does
  a session see a gap.  What a lost packet costs is always a timeout.

    • `nak_free` — in every run, with any window, losses, delays and write
      failures, no DATA_NAK is ever in flight, and no offset in flight is ahead
      of the receiver's data loop.
-/
import ValProtocol.Data.Gaps
import ValProtocol.Session.Transit

namespace ValProtocol

/-! ## §1. The step conditions. -/

/-- The 64-bit counter of stored bytes does not wrap. -/
def SessionSys.noWrap (s : SessionSys) : SessionLabel → Bool
  | .rcvRecv _ =>
      match s.rcv.pc, s.toRcv with
      | .dataWait _ d, it :: _ =>
          decide (it.send.type = .data → d.written + it.send.payload.length < 2 ^ 64)
      | _, _ => true
  | _ => true

/-- The windows of the resume negotiation land, and the counter does not
wrap. -/
def Unwrapped (c : SessionParams) (s : SessionSys) (l : SessionLabel) : Prop :=
  WindowLands c s l ∧ s.noWrap l = true

theorem Unwrapped.room {c : SessionParams} {s : SessionSys} {fs : FsOutcome}
    (h : Unwrapped c s (.rcvRecv fs)) {f : RecvFile} {d : RecvData} (hpc : s.rcv.pc = .dataWait f d)
    {it : Item} {rest : List Item} (hchan : s.toRcv = it :: rest) (htype : it.send.type = .data) :
    d.written + it.send.payload.length < 2 ^ 64 := by
  have hroom := h.2
  simp only [SessionSys.noWrap, hpc, hchan, decide_eq_true_eq] at hroom
  exact hroom htype

/-- The data phase of every file is a run of the transfer. -/
theorem relay_unwrapped (c : SessionParams) : Relay c (Unwrapped c) DataSys.NoWrap where
  lands := fun _ _ h => h.1
  quiet := by
    intro x l hl
    cases l with
    | rcvRecv short => exact absurd rfl (hl short)
    | sndRecv | sndTimeout | rcvTimeout | loseToRcv _ | loseToSnd _ | copyToRcv _ _
    | copyToSnd _ _ => trivial
  takes := by
    intro s fs f d it rest x rest' hadm hpc hchan hx hxs d' p rest'' hd' hp
    rw [hx] at hd'
    cases hd'
    rw [hxs] at hp
    cases hp
    exact hadm.room hpc hchan

section Runs

variable {c : SessionParams} {batch : List SourceFile} {D : Nat → Option Bytes}
  {s s' : SessionSys} {f : RecvFile} {d : RecvData}

/-! ## §2. The data loop. -/

/-- The transfer the data loop shows, once DATA is in flight. -/
theorem Underway.transfer {content : Bytes} {off : Nat}
    (h : Underway DataSys.NoWrap c content f off d s) {it : Item} (hit : it ∈ s.toRcv)
    (htype : it.send.type = .data) :
    (c.transfer content off).Ok ∧ d.written < 2 ^ 64
      ∧ Flying (c.transfer content off) d.written it.send := by
  have hbody : it.send.type.isBody = true := by
    rw [htype]
    rfl
  rcases h with hstill | ⟨flow, x, hmir⟩
  · -- nothing is under way but a DONE
    have hdone := (hstill.req_ok it hit hbody).1
    rw [htype] at hdone
    cases hdone
  · have hgap := gapless_embedded hmir.whole flow hmir.run
    have hw := DataSys.written_of_wait hmir.rcv_at
    have hmem : it.send ∈ x.toRcv := by
      rw [hmir.down_eq]
      exact List.mem_filter.mpr ⟨List.mem_map_of_mem hit, hbody⟩
    rw [← hw]
    exact ⟨hmir.whole, hgap.written_lt, hgap.flying it.send hmem⟩

/-- Anything but DATA is answered with a DONE_ACK or not at all. -/
theorem onDataFrame_no_nak (cfg : Config) (mtu : Nat) (d : RecvData) {fr : Frame}
    (short : Option Nat) (htype : PacketType.ofByte fr.type ≠ .data) :
    ∀ p ∈ (onDataFrame cfg mtu d fr short).1, p.type ≠ .dataNak := by
  intro p hp
  unfold onDataFrame at hp
  dsimp only at hp
  split at hp
  · exact absurd hp List.not_mem_nil
  · rename_i q hq
    split at hp
    · rename_i hdata
      exact absurd ((recvFrame_type hq).symm.trans hdata) htype
    · rw [List.mem_singleton.mp hp]
      show PacketType.doneAck ≠ .dataNak
      decide
    all_goals exact absurd hp List.not_mem_nil

/-- **A round of the data loop** sends no DATA_NAK. -/
theorem Carried.no_nak (hj : Joint c batch D s) (h : Carried DataSys.NoWrap c batch s)
    (hpc : s.rcv.pc = .dataWait f d) {it : Item} {rest : List Item} (hchan : s.toRcv = it :: rest)
    {fs : FsOutcome} (hadm : Unwrapped c s (.rcvRecv fs)) :
    ∀ p ∈ (onDataFrame c.rcv.cfg s.rcv.mtu d it.send.frame fs.short).1, p.type ≠ .dataNak := by
  have hmem : it ∈ s.toRcv := by
    rw [hchan]
    exact List.mem_cons_self ..
  have hframe : PacketType.ofByte it.send.frame.type = it.send.type := by
    obtain ⟨e, -, hreq⟩ := hj.sync.req_fits it hmem
    exact Send.frame_type hreq.named
  by_cases htype : it.send.type = .data
  · -- the transfer takes the packet, and acknowledges
    obtain ⟨st, -, -, -, -, hunder⟩ := h.data_at f d hpc
    obtain ⟨hok, hlt, hfly⟩ := hunder.transfer hmem htype
    have hmtu : s.rcv.mtu = c.mtu := hj.rcv_mtu (f := f) (by rw [hpc]; rfl)
    have hack := onDataFrame_acknowledges hok hfly hlt
      (fun _ => hadm.room hpc hchan htype) fs.short
    rw [hmtu]
    intro p hp
    obtain ⟨off, -, hoff⟩ := hack.acks_ok p hp
    rcases hoff with rfl | rfl
    · show PacketType.dataAck ≠ .dataNak
      decide
    · show PacketType.doneAck ≠ .dataNak
      decide
  · exact onDataFrame_no_nak _ _ _ _ (by rw [hframe]; exact htype)

/-! ## §3. Every run. -/

/-- **A step of the receiver** sends no DATA_NAK. -/
theorem FileRecv.no_nak {fr : Option Frame} {fs : FsOutcome} {r : List Send × RecvState}
    (h : FileRecv c.rcv s.rcv fr fs r)
    (hround : ∀ f d frame, s.rcv.pc = .dataWait f d → fr = some frame →
      ∀ p ∈ (onDataFrame c.rcv.cfg s.rcv.mtu d frame fs.short).1, p.type ≠ .dataNak) :
    ∀ p ∈ r.1, p.type ≠ .dataNak := by
  have hbodiless : ∀ {sends : List Send}, Bodiless sends → ∀ p ∈ sends, p.type ≠ .dataNak := by
    intro sends hsends p hp heq
    have hbody := hsends p hp
    rw [heq] at hbody
    cases hbody
  have hsends : ∀ (f : RecvFile) (res : List Send × RecvResult),
      (s.rcv.onRecvResult c.rcv f res).1 = res.1 := by
    intro f res
    unfold RecvState.onRecvResult
    split <;> rfl
  cases h with
  | away hstage hstage' files_eq starts_eq completed_eq sends_ok => exact hbodiless sends_ok
  | opens hpick hopens sends_ok =>
      intro p hp heq
      rw [sends_ok p hp (by rw [heq]; rfl)] at heq
      cases heq
  | @takes f d frame hpc hfr =>
      rw [hsends]
      exact hround f d frame hpc hfr
  | @pauses f d hpc hfr =>
      intro p hp
      rw [hsends] at hp
      unfold onDataTimeout at hp
      split at hp
      · exact absurd hp List.not_mem_nil
      · exact absurd hp List.not_mem_nil
  | idles hpc => exact fun p hp => absurd hp List.not_mem_nil
  | ends hpc hfr htype =>
      intro p hp
      rw [List.mem_singleton.mp hp]
      show PacketType.doneAck ≠ .dataNak
      decide
  | gives hpc hpc' files_eq starts_eq log_eq sends_ok => exact hbodiless sends_ok

/-- What every run keeps. -/
structure NakFree (c : SessionParams) (batch : List SourceFile) (s : SessionSys) : Prop where
  joint : ∃ D, Joint c batch D s
  carried : Carried DataSys.NoWrap c batch s
  no_nak : ∀ it ∈ s.toSnd, it.send.type ≠ .dataNak

theorem nakFree_init (hc : c.Regular) (files : Bytes → Option Bytes) (batch : List SourceFile)
    (dir : Bytes) : NakFree c batch (SessionSys.init c files [batch] [dir]) :=
  ⟨⟨_, joint_init hc files batch dir⟩, .outside nofun, nofun⟩

/-- **One step.** -/
theorem nakFree_step (hc : c.Regular) {l : SessionLabel} (h : NakFree c batch s)
    (hadm : Unwrapped c s l) (hstep : s.step c l = some s') : NakFree c batch s' := by
  obtain ⟨D, hj⟩ := h.joint
  refine ⟨joint_step hc hj hadm.1 hstep,
    carried_step hc (relay_unwrapped c) hj h.carried hadm hstep, ?_⟩
  -- what the receiver sends is behind what was in flight
  have hbehind : ∀ {down : List Item} {r : List Send × RecvState},
      (∀ p ∈ r.1, p.type ≠ .dataNak) →
      ∀ it ∈ ({ s with toRcv := down }.answered r).toSnd, it.send.type ≠ .dataNak := by
    intro down r hr it hit
    rcases List.mem_append.mp hit with hit | hit
    · exact h.no_nak it hit
    · exact hr _ (mem_stamped hit).1
  cases SessionSys.step_inv hstep with
  | sndCall hcalls hidle => exact h.no_nak
  | rcvCall hcalls hidle => exact h.no_nak
  | @sndRecv it rest hchan hbusy =>
      intro it' hit'
      exact h.no_nak it' (by rw [hchan]; exact List.mem_cons_of_mem _ hit')
  | sndTimeout hbusy => exact h.no_nak
  | @rcvRecv it rest fs hchan hbusy =>
      refine hbehind (FileRecv.no_nak
        (RecvState.onFrame_file hc.no_validator s.rcv it.send.frame fs) ?_)
      intro f d frame hpc hfr
      cases hfr
      exact h.carried.no_nak hj hpc hchan hadm
  | @rcvTimeout timer fs hbusy =>
      exact @hbehind s.toRcv _ (FileRecv.no_nak
        (RecvState.onTimeout_file hc.no_validator s.rcv timer fs) nofun)
  | lose hl hrcv hsnd => exact fun it hit => h.no_nak it (hsnd.subset hit)

/-- **No DATA_NAK between two sessions.**  In every run of one
`val_send_files` call against one `val_receive_files` call, with any window
and whatever is lost or late or cannot be written, no DATA_NAK is in flight;
and the receiver's data loop has reached every offset that a DATA packet in
flight names. -/
theorem nak_free (hc : c.Regular) (files : Bytes → Option Bytes) (batch : List SourceFile)
    (dir : Bytes)
    (h : Lts.Reach (SessionSys.step c) (Unwrapped c) (SessionSys.init c files [batch] [dir]) s) :
    (∀ it ∈ s.toSnd, it.send.type ≠ .dataNak)
    ∧ ∀ f d, s.rcv.pc = .dataWait f d → ∀ it ∈ s.toRcv, it.send.type = .data →
        it.send.includeDataOffset = true → it.send.offset ≤ d.written := by
  have hinv := h.invariant (I := NakFree c batch) (nakFree_init hc files batch dir)
    fun _ _ _ hi hadm hstep => nakFree_step hc hi hadm hstep
  refine ⟨hinv.no_nak, fun f d hpc it hit htype hexp => ?_⟩
  obtain ⟨st, -, -, -, -, hunder⟩ := hinv.carried.data_at f d hpc
  exact (hunder.transfer hit htype).2.2.reached htype hexp

end Runs

/-! ## §4. A lost packet. -/

theorem unevenPair_regular : unevenPair.Regular where
  snd_ok := unevenPair_snd
  rcv_ok := unevenPair_rcv
  no_validator := rfl
  snd_crc := nofun
  rcv_crc := nofun
  mtu_max := by decide

/-- The first packet of the first window is lost, and the second one stored in
its place. -/
def gapRun : List SessionLabel :=
  [.sndCall, .rcvCall, .rcvRecv .good, .sndRecv, .rcvRecv .good, .rcvRecv .good, .sndRecv,
    .loseToRcv 0, .rcvRecv .good, .sndTimeout .pace]

/-- What is in flight, and where the data loop stands. -/
def SessionSys.dataView (s : SessionSys) : Option Nat × List (Nat × Bool) × List PacketType :=
  (match s.rcv.pc with
    | .dataWait _ d => some d.written
    | _ => none,
    s.toRcv.map (fun it => (it.send.offset, it.send.includeDataOffset)),
    s.toSnd.map (fun it => it.send.type))

theorem nak_free_gap_run :
    ∃ s : SessionSys, s.dataView = (some 500, [(0, true), (492, false)], [.dataAck])
      ∧ (∀ it ∈ s.toSnd, it.send.type ≠ .dataNak)
      ∧ ∀ f d, s.rcv.pc = .dataWait f d → ∀ it ∈ s.toRcv, it.send.type = .data →
          it.send.includeDataOffset = true → it.send.offset ≤ d.written := by
  obtain ⟨s, hreach, hview⟩ := Lts.Reach.exists_of_foldlM (SessionSys.step unevenPair)
    SessionSys.noWrap (SessionSys.init unevenPair (fun _ => none) [unevenBatch] [[]])
    SessionSys.dataView gapRun
    (show _ = some (some 500, [(0, true), (492, false)], [.dataAck]) by decide +kernel)
  exact ⟨s, hview, nak_free unevenPair_regular (fun _ => none) unevenBatch [] (hreach.mono
    fun s l hl => ⟨windowLands_of_long64 (c := unevenPair) rfl rfl s l, hl⟩)⟩

end ValProtocol
