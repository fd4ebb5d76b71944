/-
  ValProtocol.Session.Transit
  ───────────────────────────
  The data phase of a file inside a session is a run of the transfer system
  of `ValProtocol.Data.System`, with the steps from outside that
  `ValProtocol.Data.Embedded` adds.

  While the receiver is in its data loop, either nothing of the data phase is
  under way yet (`Still`), or the two sides, and the packets of the data phase
  in the two channels, are a reached state of the transfer (`Mirrors`).

    • `carried_step` — every step of the joint system keeps this,
    • `Carried.roundOk` — so the target file is closed with the agreed bytes in
      front and a prefix of the sender's behind them, all of these when the
      file is complete.
-/
import ValProtocol.Data.Embedded
import ValProtocol.Session.Capabilities
import ValProtocol.Session.Starts

namespace ValProtocol

/-! ## §1. The packets of the data phase. -/

/-- What of a channel belongs to the data phase. -/
def bodyOf (items : List Item) : List Send :=
  (items.map Item.send).filter (fun p => p.type.isBody)

theorem bodyOf_append (xs ys : List Item) : bodyOf (xs ++ ys) = bodyOf xs ++ bodyOf ys := by
  unfold bodyOf
  rw [List.map_append, List.filter_append]

theorem bodyOf_cons_body {it : Item} (h : it.send.type.isBody = true) (rest : List Item) :
    bodyOf (it :: rest) = it.send :: bodyOf rest := by
  simp only [bodyOf, List.map_cons, List.filter_cons, h, if_true]

theorem bodyOf_cons_other {it : Item} (h : it.send.type.isBody = false) (rest : List Item) :
    bodyOf (it :: rest) = bodyOf rest := by
  simp only [bodyOf, List.map_cons, List.filter_cons, h, Bool.false_eq_true, if_false]

theorem bodyOf_sublist {xs ys : List Item} (h : xs.Sublist ys) :
    (bodyOf xs).Sublist (bodyOf ys) := (h.map _).filter _

theorem mem_bodyOf {items : List Item} {p : Send} (h : p ∈ bodyOf items) :
    ∃ it ∈ items, it.send = p ∧ it.send.type.isBody = true := by
  obtain ⟨hmem, hbody⟩ := List.mem_filter.mp h
  obtain ⟨it, hit, rfl⟩ := List.mem_map.mp hmem
  exact ⟨it, hit, rfl, hbody⟩

theorem bodyOf_nil_of {items : List Item} (h : ∀ it ∈ items, it.send.type.isBody = false) :
    bodyOf items = [] := by
  apply List.eq_nil_iff_forall_not_mem.mpr
  intro p hp
  obtain ⟨it, hit, -, hbody⟩ := mem_bodyOf hp
  rw [h it hit] at hbody
  cases hbody

/-- Stamped packets of the data phase are all of them. -/
theorem bodyOf_stamped {sends : List Send} (h : ∀ p ∈ sends, p.type.isBody = true)
    (turn : Nat) (file : Option Nat) :
    bodyOf (sends.map (fun p => (⟨p, turn, file⟩ : Item))) = sends := by
  unfold bodyOf
  rw [map_send_stamped]
  exact List.filter_eq_self.mpr h

/-- A round of the transfer sends nothing else. -/
theorem afterData_body (c : DataParams) (m : Move) :
    ∀ p ∈ (afterData c (m.run c.io)).1, p.type.isBody = true := by
  have hdata : ∀ p ∈ (m.run c.io).1, p.type.isBody = true := by
    intro p hp
    rw [Move.run_data c.io m p hp]
    rfl
  intro p hp
  unfold afterData at hp
  split at hp
  · exact hdata p hp
  · rcases List.mem_append.mp hp with hp | hp
    · exact hdata p hp
    · rw [List.mem_singleton.mp hp]
      rfl
  · exact hdata p hp

theorem SendPhase.onFrame_body (c : DataParams) (f : Frame) (ph : SendPhase) :
    ∀ p ∈ (ph.onFrame c f).1, p.type.isBody = true := by
  cases ph with
  | data d => exact afterData_body c _
  | doneWait tries flow =>
      intro p hp
      simp only [SendPhase.onFrame] at hp
      repeat' split at hp
      all_goals exact absurd hp List.not_mem_nil
  | returned st => exact fun p hp => absurd hp List.not_mem_nil

theorem SendPhase.onTimeout_body (c : DataParams) (ph : SendPhase) :
    ∀ p ∈ (ph.onTimeout c).1, p.type.isBody = true := by
  cases ph with
  | data d => exact afterData_body c _
  | doneWait tries flow =>
      intro p hp
      simp only [SendPhase.onTimeout] at hp
      split at hp
      · exact absurd hp List.not_mem_nil
      · rw [List.mem_singleton.mp hp]
        rfl
  | returned st => exact fun p hp => absurd hp List.not_mem_nil

/-- Nor does the data loop. -/
theorem onDataFrame_body (cfg : Config) (mtu : Nat) (d : RecvData) (f : Frame)
    (short : Option Nat) : ∀ p ∈ (onDataFrame cfg mtu d f short).1, p.type.isBody = true := by
  intro p hp
  unfold onDataFrame at hp
  dsimp only at hp
  split at hp
  · exact absurd hp List.not_mem_nil
  · split at hp
    · rcases (onData_reply _ _ short).1 p hp with ht | ht
      all_goals
        rw [ht]
        rfl
    · rw [List.mem_singleton.mp hp]
      rfl
    · exact absurd hp List.not_mem_nil
    · exact absurd hp List.not_mem_nil
    · exact absurd hp List.not_mem_nil
    · exact absurd hp List.not_mem_nil

/-- A packet from outside the data phase does not touch the file. -/
theorem onDataFrame_other (cfg : Config) (mtu : Nat) (d : RecvData) {f : Frame}
    (short : Option Nat) (h : (PacketType.ofByte f.type).isBody = false) :
    (onDataFrame cfg mtu d f short).1 = []
    ∧ ((onDataFrame cfg mtu d f short).2 = .wait { d with tries := cfg.retries.dataRetries }
      ∨ ∃ st, (onDataFrame cfg mtu d f short).2
          = .fail { d with tries := cfg.retries.dataRetries } st) := by
  unfold onDataFrame
  dsimp only
  split
  · exact ⟨rfl, Or.inr ⟨_, rfl⟩⟩
  · rename_i p hp
    have htype := recvFrame_type hp
    split
    · rename_i hdata
      rw [← htype, hdata] at h
      cases h
    · rename_i hdone
      rw [← htype, hdone] at h
      cases h
    · exact ⟨rfl, Or.inr ⟨_, rfl⟩⟩
    · exact ⟨rfl, Or.inr ⟨_, rfl⟩⟩
    · exact ⟨rfl, Or.inr ⟨_, rfl⟩⟩
    · exact ⟨rfl, Or.inl rfl⟩

/-! ## §2. The two senders. -/

/-- The transfer of a file's bytes from an offset on. -/
def SessionParams.transfer (c : SessionParams) (content : Bytes) (off : Nat) : DataParams :=
  ⟨c.snd.cfg, c.rcv.cfg, ⟨content, c.mtu, off⟩⟩

/-- The sender of a session stands where the one of a transfer stands. -/
inductive SendState.Matches (io : SendFile) (t : SendState) : SendPhase → Prop where
  | data {d : SendData} (hpc : t.pc = .ackWait io d) : t.Matches io (.data d)
  | doneWait {tries : Nat} {flow : Flow} (hpc : t.pc = .doneWait io.size tries false)
      (flow_eq : t.flow = flow) : t.Matches io (.doneWait tries flow)
  | returned {st : Status} (hpc : t.pc = .idle) : t.Matches io (.returned st)

section Senders

variable {c : SessionParams} {content : Bytes} {off : Nat} {t : SendState} {ph : SendPhase}

/-- Behind a round of the window. -/
theorem SendState.onDataResult_matches (c : SessionParams) (content : Bytes) (off : Nat)
    (t : SendState) (r : List Send × DataResult) :
    (t.onDataResult c.snd (c.transfer content off).io r).1
        = (afterData (c.transfer content off) r).1
    ∧ (t.onDataResult c.snd (c.transfer content off).io r).2.Matches
        (c.transfer content off).io (afterData (c.transfer content off) r).2 := by
  unfold SendState.onDataResult afterData
  cases hr : r.2 with
  | wait d => exact ⟨rfl, .data rfl⟩
  | complete flow => exact ⟨rfl, .doneWait rfl rfl⟩
  | fail st => exact ⟨rfl, .returned rfl⟩

/-- A frame that ends no file. -/
theorem SendState.Matches.onFrame (h : t.Matches (c.transfer content off).io ph)
    (hmtu : t.mtu = c.mtu) (hlive : ph.isReturned = false) {f : Frame}
    (hack : PacketType.ofByte f.type ≠ .doneAck) :
    (t.onFrame c.snd f).1 = (ph.onFrame (c.transfer content off) f).1
    ∧ (t.onFrame c.snd f).2.Matches (c.transfer content off).io
        (ph.onFrame (c.transfer content off) f).2 := by
  cases h with
  | @data d hpc =>
      unfold SendState.onFrame
      rw [hpc]
      exact SendState.onDataResult_matches c content off _ _
  | @doneWait tries flow hpc flow_eq =>
      unfold SendState.onFrame
      rw [hpc]
      simp only [SendPhase.onFrame]
      rw [hmtu, show (c.transfer content off).io.mtu = c.mtu from rfl]
      cases hread : controlFrame c.mtu 32 f with
      | error st => exact ⟨rfl, .returned rfl⟩
      | ok p =>
          have hne : p.type ≠ .doneAck := by
            rw [controlFrame_type hread]
            exact hack
          dsimp only
          rw [if_neg hne, if_neg hne]
          exact ⟨rfl, .doneWait hpc flow_eq⟩
  | returned hpc => cases hlive

theorem SendState.Matches.onTimeout (h : t.Matches (c.transfer content off).io ph)
    (hlive : ph.isReturned = false) (timer : HelloTimer) :
    (t.onTimeout c.snd timer).1 = (ph.onTimeout (c.transfer content off)).1
    ∧ (t.onTimeout c.snd timer).2.Matches (c.transfer content off).io
        (ph.onTimeout (c.transfer content off)).2 := by
  cases h with
  | @data d hpc =>
      unfold SendState.onTimeout
      rw [hpc]
      exact SendState.onDataResult_matches c content off _ _
  | @doneWait tries flow hpc flow_eq =>
      unfold SendState.onTimeout
      rw [hpc]
      simp only [SendPhase.onTimeout]
      split
      · exact ⟨rfl, .returned rfl⟩
      · exact ⟨rfl, .doneWait rfl (by rw [← flow_eq]; rfl)⟩
  | returned hpc => cases hlive

/-- A packet from outside the data phase: the wait goes on, or the call
returns. -/
theorem SendState.Matches.onOther (h : t.Matches (c.transfer content off).io ph) {f : Frame}
    (hother : (PacketType.ofByte f.type).isBody = false) (hlive : ph.isReturned = false) :
    (t.onFrame c.snd f).1 = []
    ∧ ((t.onFrame c.snd f).2.Matches (c.transfer content off).io ph
      ∨ (t.onFrame c.snd f).2.pc = .idle) := by
  cases h with
  | @data d hpc =>
      unfold SendState.onFrame
      rw [hpc]
      dsimp only
      unfold onAckFrame
      split
      · exact ⟨rfl, Or.inr rfl⟩
      · rename_i p hp
        have htype := recvControl_type hp
        split
        · exact ⟨rfl, Or.inr rfl⟩
        · rename_i hnak
          rw [← htype, hnak] at hother
          cases hother
        · rename_i hack
          rw [← htype, hack] at hother
          cases hother
        · exact ⟨rfl, Or.inr rfl⟩
        · exact ⟨rfl, Or.inl (.data rfl)⟩
  | @doneWait tries flow hpc flow_eq =>
      unfold SendState.onFrame
      rw [hpc]
      dsimp only
      split
      · exact ⟨rfl, Or.inr rfl⟩
      · rename_i p hp
        have hne : p.type ≠ .doneAck := by
          intro hack
          rw [← controlFrame_type hp, hack] at hother
          cases hother
        rw [if_neg hne]
        exact ⟨rfl, Or.inl (.doneWait hpc flow_eq)⟩
  | returned hpc => cases hlive

end Senders

/-! ## §3. One call on each side. -/

/-- Two configurations the library accepts, no validator, the CRC-32 of the
library on both sides, and packets whose length field holds their content. -/
structure SessionParams.Regular (c : SessionParams) : Prop where
  snd_ok : c.snd.cfg.Accepted
  rcv_ok : c.rcv.cfg.Accepted
  no_validator : c.rcv.validator = none
  snd_crc : StandardProvider c.snd.provider
  rcv_crc : StandardProvider c.rcv.provider
  mtu_max : c.mtu ≤ 65547

/-- What every run keeps, as long as the windows land; `D` is the local file
behind each target path. -/
structure Joint (c : SessionParams) (batch : List SourceFile) (D : Nat → Option Bytes)
    (s : SessionSys) : Prop where
  sync : Sync c (script [batch]) s
  one : OneCall s
  stamped : Stamped s
  batches : s.sndBatches = [batch]
  agreed : Agreed c batch D s
  started : Started c batch s
  capable : Capable c s
  replies : ∀ it ∈ s.toSnd, it.send.type.isBody = true → it.send.type.isFileReply = true

/-- The receiver's packets of the data phase are replies. -/
theorem FileRecv.body_reply {env : RecvEnv} {r : RecvState} {fr : Option Frame} {fs : FsOutcome}
    {out : List Send × RecvState} (h : FileRecv env r fr fs out) :
    ∀ p ∈ out.1, p.type.isBody = true → p.type.isFileReply = true := by
  have hno : ∀ {sends : List Send}, Bodiless sends →
      ∀ p ∈ sends, p.type.isBody = true → p.type.isFileReply = true := by
    intro sends hsends p hp hbody
    rw [hsends p hp] at hbody
    cases hbody
  have hround : ∀ (f : RecvFile) (res : List Send × RecvResult),
      (r.onRecvResult env f res).1 = res.1 := by
    intro f res
    unfold RecvState.onRecvResult
    split <;> rfl
  cases h with
  | away hstage hstage' files_eq starts_eq completed_eq sends_ok => exact hno sends_ok
  | opens hpick hopens sends_ok =>
      intro p hp hbody
      rw [sends_ok p hp hbody]
      rfl
  | @takes f d frame hpc hfr =>
      intro p hp hbody
      rw [hround] at hp
      unfold onDataFrame at hp
      dsimp only at hp
      split at hp
      · exact absurd hp List.not_mem_nil
      · split at hp
        · rcases (onData_reply _ _ _).1 p hp with ht | ht
          all_goals
            rw [ht]
            rfl
        · rw [List.mem_singleton.mp hp]
          rfl
        · exact absurd hp List.not_mem_nil
        · exact absurd hp List.not_mem_nil
        · exact absurd hp List.not_mem_nil
        · exact absurd hp List.not_mem_nil
  | @pauses f d hpc hfr =>
      intro p hp
      rw [hround] at hp
      unfold onDataTimeout at hp
      split at hp
      · exact absurd hp List.not_mem_nil
      · exact absurd hp List.not_mem_nil
  | idles hpc => exact fun p hp => absurd hp List.not_mem_nil
  | ends hpc hfr htype =>
      intro p hp _
      rw [List.mem_singleton.mp hp]
      rfl
  | gives hpc hpc' files_eq starts_eq log_eq sends_ok => exact hno sends_ok

section Runs

variable {c : SessionParams} {batch : List SourceFile} {D : Nat → Option Bytes}
  {s s' : SessionSys}

theorem joint_init (hc : c.Regular) (files : Bytes → Option Bytes) (batch : List SourceFile)
    (dir : Bytes) : Joint c batch (fun _ => none) (SessionSys.init c files [batch] [dir]) := by
  obtain ⟨hsync, hone, hst⟩ := single_init (c := c) hc.rcv_ok.packetSize_min files batch dir
  exact
    { sync := hsync
      one := hone
      stamped := hst
      batches := rfl
      agreed := ⟨nofun, nofun, nofun, nofun, List.Pairwise.nil, nofun, nofun, nofun, nofun, nofun⟩
      started := started_init files dir
      capable := capable_init c files [batch] [dir]
      replies := nofun }

theorem joint_step {l : SessionLabel} (hc : c.Regular) (h : Joint c batch D s)
    (hlands : WindowLands c s l) (hstep : s.step c l = some s') : ∃ D', Joint c batch D' s' := by
  obtain ⟨hsync', hone', hst'⟩ := single_step h.sync h.one h.stamped hstep
  have hb' := (calls_step hstep).batches_eq.trans h.batches
  obtain ⟨D', hA'⟩ := agreed_step hc.no_validator hc.snd_crc hc.rcv_crc hc.rcv_ok h.sync h.one
    h.stamped hb' hone' h.agreed hlands hstep
  have hstarted' := started_step hc.no_validator hc.snd_crc hc.rcv_crc hc.rcv_ok h.sync h.one
    h.stamped h.agreed h.started hstep
  refine ⟨D', hsync', hone', hst', hb', hA', hstarted',
    capable_step hc.snd_ok hc.rcv_ok h.capable hstep, ?_⟩
  -- the replies of a step of the receiver
  have hnew : ∀ {fr : Option Frame} {fs : FsOutcome} {r : List Send × RecvState}
      {down : List Item}, FileRecv c.rcv s.rcv fr fs r →
      ∀ it ∈ ({ s with toRcv := down }.answered r).toSnd, it.send.type.isBody = true →
        it.send.type.isFileReply = true := by
    intro fr fs r down hfile it hit hbody
    rcases List.mem_append.mp hit with hit | hit
    · exact h.replies it hit hbody
    · exact hfile.body_reply _ (mem_stamped hit).1 hbody
  cases SessionSys.step_inv hstep with
  | sndCall hcalls hidle => exact h.replies
  | rcvCall hcalls hidle => exact h.replies
  | @sndRecv it rest hchan hbusy =>
      intro i hi
      apply h.replies i
      rw [hchan]
      exact List.mem_cons_of_mem _ hi
  | sndTimeout hbusy => exact h.replies
  | @rcvRecv it rest fs hchan hbusy =>
      exact hnew (RecvState.onFrame_file hc.no_validator s.rcv it.send.frame fs)
  | @rcvTimeout timer fs hbusy =>
      exact @hnew none fs _ s.toRcv (RecvState.onTimeout_file hc.no_validator s.rcv timer fs)
  | lose hl hrcv hsnd => exact fun it hit => h.replies it (hsnd.subset hit)

/-! ## §4. While the receiver is inside a file. -/

variable {f : RecvFile}

/-- Both sides are in the exchange of this file, and so is everything on its
way to the receiver. -/
structure AtFile (s : SessionSys) : Prop where
  log_nil : s.rcv.log = []
  turn_eq : s.rcv.turn = s.rcv.completed.length + 1
  snd_turn : s.snd.turn = s.rcv.turn
  down_turn : ∀ it ∈ s.toRcv, it.turn = s.rcv.turn

theorem Joint.atFile (h : Joint c batch D s) (hphase : s.rcv.pc.phase = .file f) : AtFile s := by
  have hbusy : s.rcv.pc ≠ .idle := fun hidle => by rw [hidle] at hphase; cases hphase
  have hlog := h.one.rcv_busy hbusy
  have hdone := (h.sync.rcv_at (h.sync.rcv_busy hbusy)).file_done f hphase
  obtain ⟨hturn, hdown⟩ := h.sync.turns.inside_turn ⟨f, hphase⟩
  exact ⟨hlog, h.stamped.rcv_turn hlog hdone, hturn.symm, hdown⟩

/-- A sender in the exchange of a file is at the receiver's. -/
theorem Joint.idx_eq (h : Joint c batch D s) (hat : AtFile s)
    (hex : s.snd.pc.exchange = some .file) : s.snd.idx = s.rcv.completed.length := by
  have hbusy := SendPc.busy_of_exchange hex
  have hturn := h.stamped.snd_turn (h.one.snd_busy hbusy)
  rw [if_pos ((h.sync.snd_at (h.sync.snd_busy hbusy)).file_ok hex).2] at hturn
  have h1 := hat.turn_eq
  have h2 := hat.snd_turn
  omega

/-- The sender makes no call now. -/
theorem Joint.no_sndCall (h : Joint c batch D s) (hat : AtFile s) (hidle : s.snd.pc = .idle) :
    s.sndCalls = [] := by
  by_contra hcalls
  have hlog := h.one.snd_next hcalls
  have hturn := h.stamped.snd_turn hlog
  rw [h.stamped.snd_new hidle hlog, if_neg Bool.false_ne_true] at hturn
  have h1 := hat.turn_eq
  have h2 := hat.snd_turn
  omega

/-- DATA and DONE are all there is of the data phase on the way down, and
belong to this file. -/
theorem Joint.down_body (h : Joint c batch D s) (hat : AtFile s) {it : Item} (hit : it ∈ s.toRcv)
    (hbody : it.send.type.isBody = true) :
    (it.send.type = .data ∨ it.send.type = .done) ∧ it.file = some s.rcv.completed.length := by
  obtain ⟨e, -, hreq⟩ := h.sync.req_fits it hit
  have htype : it.send.type = .data ∨ it.send.type = .done := by
    have hkind := hreq.kind (by intro hmeta; rw [hmeta] at hbody; cases hbody)
    generalize it.send.type = ty at hbody hkind
    cases e with
    | hello => cases ty <;> first | (cases hkind; done) | cases hbody
    | file src =>
        cases ty <;> first
          | exact Or.inl rfl
          | exact Or.inr rfl
          | (cases hkind; done)
          | cases hbody
    | eot => cases ty <;> first | (cases hkind; done) | cases hbody
  have hreqtype : it.send.type.isFileRequest = true := by
    rcases htype with ht | ht
    all_goals
      rw [ht]
      rfl
  obtain ⟨k, hk, hturn⟩ := h.stamped.req_file it hit hreqtype
  refine ⟨htype, ?_⟩
  have h1 := hat.turn_eq
  have h2 := hat.down_turn it hit
  rw [hk, show k = s.rcv.completed.length by omega]

/-- And the way up holds acknowledgements of this file; none of them ends
it. -/
theorem Joint.up_body (h : Joint c batch D s) (hat : AtFile s) {it : Item} (hit : it ∈ s.toSnd)
    (hbody : it.send.type.isBody = true) : it.file = some s.rcv.completed.length := by
  obtain ⟨k, hk, hturn⟩ := h.stamped.rep_file it hit (h.replies it hit hbody)
  have h1 := hat.turn_eq
  have h2 := hat.snd_turn
  have h3 : it.turn = s.snd.turn := h.sync.turns.up_turn it hit
  rw [hk, show k = s.rcv.completed.length by omega]

theorem Joint.up_open (h : Joint c batch D s) (hat : AtFile s) {it : Item} (hit : it ∈ s.toSnd) :
    it.send.type ≠ .doneAck := by
  intro hack
  have hcloses : itemView.closes it := by
    show it.send.type.isFinal = true
    rw [hack]
    rfl
  have h1 := h.sync.turns.up_closes it hit hcloses
  have h2 := hat.snd_turn
  omega

/-- The size announced is the one of the sender's file. -/
theorem Joint.size_eq (h : Joint c batch D s) (hphase : s.rcv.pc.phase = .file f) :
    f.size = (contentAt batch s.rcv.completed.length).length :=
  recv_size h.sync h.one h.stamped hphase

/-- The packet size of a side inside a file. -/
theorem Joint.rcv_mtu (h : Joint c batch D s) (hphase : s.rcv.pc.phase = .file f) :
    s.rcv.mtu = c.mtu :=
  h.capable.rcv_ok.mtu_eq (h.capable.rcv_ok.done hphase nofun nofun)

theorem Joint.snd_ready (h : Joint c batch D s) (hex : s.snd.pc.exchange = some .file) :
    s.snd.mtu = c.mtu ∧ s.snd.flow.Capped (adoptedWindow c.snd.cfg c.rcv.cfg) := by
  have hbusy := SendPc.busy_of_exchange hex
  have hdone := ((h.sync.snd_at (h.sync.snd_busy hbusy)).file_ok hex).2
  exact ⟨h.capable.snd_ok.mtu_eq hdone, h.capable.snd_ok.flow_ok hdone⟩

/-- **Before the start is settled** nothing of the data phase exists. -/
theorem Joint.nothing_yet (h : Joint c batch D s) (hphase : s.rcv.pc.phase = .file f)
    (hstage : ∀ g, s.rcv.pc.stage ≠ .settled g) :
    s.snd.pc.transfers = false ∧ (∀ it ∈ s.toRcv, it.send.type.isBody = false)
      ∧ ∀ it ∈ s.toSnd, it.send.type.isBody = false := by
  have hat := h.atFile hphase
  have hun : ¬ s.rcv.Settled s.rcv.completed.length := by
    rintro (hne | hlt | ⟨-, g, hg⟩)
    · exact hne hat.log_nil
    · exact Nat.lt_irrefl _ hlt
    · exact hstage g hg
  -- a file the sender has started is one the receiver has settled
  have hsnd : ∀ e ∈ s.snd.starts, e.file ≠ s.rcv.completed.length := by
    intro e he hk
    obtain ⟨st, hst, hfile, -⟩ := (h.started.snd_chose e he).2
    have hset := (h.agreed.starts_ok st hst).1
    rw [hfile, hk] at hset
    exact hun hset
  refine ⟨?_, ?_, ?_⟩
  · by_contra htr
    have htr' : s.snd.pc.transfers = true := by simpa using htr
    obtain ⟨e, he, hk⟩ := h.started.snd_at htr'
    have hex : s.snd.pc.exchange = some .file := by
      cases hpc : s.snd.pc <;> rw [hpc] at htr' <;> first | rfl | cases htr'
    exact hsnd e he (hk.trans (h.idx_eq hat hex))
  · intro it hit
    by_contra hbody
    have hbody' : it.send.type.isBody = true := by simpa using hbody
    obtain ⟨e, he, hk⟩ := h.started.body_req it hit hbody' _ (h.down_body hat hit hbody').2
    exact hsnd e he hk
  · intro it hit
    by_contra hbody
    have hbody' : it.send.type.isBody = true := by simpa using hbody
    exact hun (h.started.body_rep it hit hbody' _ (h.up_body hat hit hbody'))

/-- The receiver starts a file once. -/
theorem Agreed.start_unique (h : Agreed c batch D s) {a b : RecvStart} (ha : a ∈ s.rcv.starts)
    (hb : b ∈ s.rcv.starts) (hfile : a.file = b.file) : a = b := by
  by_contra hne
  have hsymm : Std.Symm (fun x y : RecvStart => x.file ≠ y.file) := ⟨fun _ _ hxy => hxy.symm⟩
  exact h.starts_once.forall ha hb hne hfile

theorem contentAt_of_readable {k : Nat} {src : SourceFile} {content : Bytes}
    (hsrc : batch[k]? = some src) (hread : src.readable = some content) :
    contentAt batch k = content := by
  unfold contentAt
  rw [hsrc]
  show src.content.getD [] = content
  rw [(SourceFile.readable_spec hread).1]
  rfl

/-! ## §5. Where the data phase stands. -/

/-- A condition `adm` on the steps of a session under which the data phase of
every file is a run under `A`. -/
structure Relay (c : SessionParams) (adm : SessionSys → SessionLabel → Prop)
    (A : DataSys → DataLabel → Prop) : Prop where
  lands : ∀ s l, adm s l → WindowLands c s l
  quiet : ∀ x l, (∀ short, l ≠ .rcvRecv short) → A x l
  takes : ∀ {s : SessionSys} {fs : FsOutcome} {f : RecvFile} {d : RecvData} {it : Item}
    {rest : List Item} {x : DataSys} {rest' : List Send}, adm s (.rcvRecv fs) →
    s.rcv.pc = .dataWait f d → s.toRcv = it :: rest → x.rcv = .wait d →
    x.toRcv = it.send :: rest' → A x (.rcvRecv fs.short)

/-- Every run of the transfer under `A` is intact. -/
def IntactRuns (A : DataSys → DataLabel → Prop) (c : SessionParams) (t : DataParams)
    (e : Bytes) : Prop :=
  ∀ {flow : Flow} {x : DataSys}, t.Ok → flow.Capped (adoptedWindow c.snd.cfg c.rcv.cfg) →
    Lts.Reach (DataSys.embeddedStep t) (EmbeddedLabel.Lift A) (DataSys.init t flow e) x →
    Intact t e x

/-- Besides, the transfers are intact. -/
structure Shelter (c : SessionParams) (adm : SessionSys → SessionLabel → Prop)
    (A : DataSys → DataLabel → Prop) : Prop extends Relay c adm A where
  intact : ∀ t e, IntactRuns A c t e

/-- Nothing of the data phase is under way, but for a DONE where nothing is
left to send. -/
structure Still (c : SessionParams) (f : RecvFile) (off : Nat) (d : RecvData)
    (s : SessionSys) : Prop where
  data_eq : ∃ tries, d = { initRecv c.rcv.cfg (openedWith off (s.rcv.files f.path)) off f.size with
    tries := tries }
  snd_out : ∀ io ds, s.snd.pc ≠ .ackWait io ds
  snd_done : s.snd.pc.transfers = true → f.size ≤ off
  req_ok : ∀ it ∈ s.toRcv, it.send.type.isBody = true → it.send.type = .done ∧ f.size ≤ off
  rep_ok : ∀ it ∈ s.toSnd, it.send.type.isBody = true → it.send = sendBare .dataAck 0

/-- The state `x` of the transfer shows in the session. -/
structure Mirrors (A : DataSys → DataLabel → Prop) (c : SessionParams) (content : Bytes)
    (f : RecvFile) (off : Nat) (d : RecvData) (s : SessionSys) (flow : Flow) (x : DataSys) :
    Prop where
  whole : (c.transfer content off).Ok
  flow_ok : flow.Capped (adoptedWindow c.snd.cfg c.rcv.cfg)
  run : Lts.Reach (DataSys.embeddedStep (c.transfer content off)) (EmbeddedLabel.Lift A)
    (DataSys.init (c.transfer content off) flow (openedWith off (s.rcv.files f.path))) x
  snd_at : s.snd.Matches (c.transfer content off).io x.snd
  rcv_at : x.rcv = .wait d
  down_eq : x.toRcv = bodyOf s.toRcv
  up_eq : x.toSnd = bodyOf s.toSnd

/-- The data loop of the receiver's file `f`, entered at `off`. -/
def Underway (A : DataSys → DataLabel → Prop) (c : SessionParams) (content : Bytes)
    (f : RecvFile) (off : Nat) (d : RecvData) (s : SessionSys) : Prop :=
  Still c f off d s ∨ ∃ flow x, Mirrors A c content f off d s flow x

variable {A : DataSys → DataLabel → Prop} {content : Bytes} {off : Nat} {d : RecvData}

/-- Nothing was going on, and the sender's step does not change that. -/
theorem Still.sent_keep (h : Still c f off d s) {r : List Send × SendState} {up : List Item}
    (hup : up ⊆ s.toSnd) (hout : ∀ io ds, r.2.pc ≠ .ackWait io ds)
    (hdone : r.2.pc.transfers = true → f.size ≤ off)
    (hreq : ∀ p ∈ r.1, p.type.isBody = true → p.type = .done ∧ f.size ≤ off) :
    Still c f off d ({ s with toSnd := up }.sent r) where
  data_eq := h.data_eq
  snd_out := hout
  snd_done := hdone
  req_ok := by
    intro it hit hbody
    rcases List.mem_append.mp hit with hit | hit
    · exact h.req_ok it hit hbody
    · exact hreq _ (mem_stamped hit).1 hbody
  rep_ok := fun it hit => h.rep_ok it (hup hit)

/-- Where the sender begins, if it does. -/
theorem SendState.startFile_cases (env : SendEnv) {t : SendState} (hmtu : minPacketSize ≤ t.mtu)
    (content : Bytes) (off : Nat) :
    t.startFile env content off = ([], t.ret .io)
    ∨ t.startFile env content off = (t.started content.length off).onDataResult env
        ⟨content, t.mtu, off⟩ (startData env.cfg ⟨content, t.mtu, off⟩ t.flow) := by
  unfold SendState.startFile
  split
  · exact Or.inl rfl
  · right
    dsimp only
    have hroom : ¬ (t.started content.length off).mtu ≤ wireHeaderSize + wireTrailerSize := by
      show ¬ t.mtu ≤ _
      simp only [minPacketSize] at hmtu
      simp only [wireHeaderSize, wireTrailerSize]
      omega
    rw [if_neg hroom]
    rfl

/-- **The data phase begins**: nothing of it was under way, so its first
window goes out over channels that hold at most acknowledgements of 0. -/
theorem Still.begins (h : Still c f off d s) (hwhole : (c.transfer content off).Ok)
    (hsize : f.size = content.length)
    (hflow : s.snd.flow.Capped (adoptedWindow c.snd.cfg c.rcv.cfg)) {t : SendState}
    {up : List Item} (hup : up ⊆ s.toSnd) :
    ∃ flow x, Mirrors A c content f off d ({ s with toSnd := up }.sent
      (t.onDataResult c.snd (c.transfer content off).io
        (startData c.snd.cfg (c.transfer content off).io s.snd.flow))) flow x := by
  have hlt : off < f.size := by
    rw [hsize]
    exact hwhole.resume_lt
  obtain ⟨tries, hd⟩ := h.data_eq
  obtain ⟨hsends, hmatch⟩ := SendState.onDataResult_matches c content off t
    (startData c.snd.cfg (c.transfer content off).io s.snd.flow)
  set r := t.onDataResult c.snd (c.transfer content off).io
    (startData c.snd.cfg (c.transfer content off).io s.snd.flow) with hr
  set x₀ := DataSys.init (c.transfer content off) s.snd.flow
    (openedWith off (s.rcv.files f.path)) with hx₀
  have hbody : ∀ p ∈ x₀.toRcv, p.type.isBody = true :=
    afterData_body (c.transfer content off) (dataLoop c.snd.cfg _ _)
  have hrcv : x₀.rcv = .wait (initRecv c.rcv.cfg (openedWith off (s.rcv.files f.path)) off
      f.size) := by
    rw [hsize]
    rfl
  -- the retry budget of the data loop, then what the way up still holds
  have hfresh : Lts.Reach (DataSys.embeddedStep (c.transfer content off))
      (EmbeddedLabel.Lift A) x₀ { x₀ with rcv := .wait d } := by
    refine .one (.refresh tries) trivial ?_
    simp only [DataSys.embeddedStep, hrcv]
    rw [hd]
  have hstray := @DataSys.reach_stray (c.transfer content off) A { x₀ with rcv := .wait d }
    (bodyOf up) ?_
  · refine ⟨s.snd.flow, { x₀ with rcv := .wait d, toSnd := x₀.toSnd ++ bodyOf up }, hwhole,
      hflow, hfresh.trans hstray, hmatch, rfl, ?_, rfl⟩
    show x₀.toRcv = bodyOf (s.toRcv ++ r.1.map _)
    have hnone : bodyOf s.toRcv = [] := by
      apply bodyOf_nil_of
      intro it hit
      by_contra hb
      have := (h.req_ok it hit (by simpa using hb)).2
      omega
    rw [bodyOf_append, hnone, List.nil_append, bodyOf_stamped (by rw [hsends]; exact hbody),
      hsends]
    rfl
  · intro p hp
    obtain ⟨it, hit, rfl, hb⟩ := mem_bodyOf hp
    exact h.rep_ok it (hup hit) hb

/-! ## §6. The sender's steps. -/

theorem SendPc.exchange_of_content {pc : SendPc} {content : Bytes}
    (h : pc.content = some content) : pc.exchange = some .file := by
  cases pc <;> first | rfl | cases h

/-- **A step of the sender** while nothing of the data phase is under way. -/
theorem Still.sent (hc : c.Regular) (hj : Joint c batch D s) (hphase : s.rcv.pc.phase = .file f)
    (h : Still c f off d s) {st : RecvStart} (hst : st ∈ s.rcv.starts)
    (hfile : st.file = s.rcv.completed.length) (hoff : st.offset = off) {fr : Option Frame}
    {r : List Send × SendState} {up : List Item} (hup : up ⊆ s.toSnd)
    (hhead : ∀ frame, fr = some frame → ∃ it ∈ s.toSnd, frame = it.send.frame)
    (hstep : FileSend c.snd s.snd fr r) :
    Underway A c (contentAt batch s.rcv.completed.length) f off d
      ({ s with toSnd := up }.sent r) := by
  have hat := hj.atFile hphase
  -- the offset the sender hears is the one the receiver has settled
  have hsame : ∀ {off' : Nat}, s.snd.pc.exchange = some .file → s.rcv.Chose s.snd.idx off' →
      off' = off := by
    rintro off' hex ⟨st', hst', hfile', rfl⟩
    rw [hj.idx_eq hat hex] at hfile'
    rw [hj.agreed.start_unique hst' hst (hfile'.trans hfile.symm), hoff]
  cases hstep with
  | @away sends s' hpc' starts_eq sends_ok =>
      refine Or.inl (h.sent_keep hup ?_ ?_ ?_)
      · intro io ds hpc
        rw [show s'.pc = .ackWait io ds from hpc] at hpc'
        cases hpc'
      · intro htr
        exact absurd (htr.symm.trans hpc') nofun
      · intro p hp hbody
        rw [sends_ok p hp] at hbody
        cases hbody
  | @enters content' off' hears hcontent =>
      have hex := SendPc.exchange_of_content hcontent
      obtain ⟨hmtu, hflow⟩ := hj.snd_ready hex
      obtain ⟨src, hsrc, hread⟩ := hj.agreed.snd_content content' hcontent
      rw [hj.idx_eq hat hex] at hsrc
      have hbytes := contentAt_of_readable hsrc hread
      have hsize := hj.size_eq hphase
      have hch : s.rcv.Chose s.snd.idx off' := by
        cases hj.agreed.hears hj.sync hj.one hj.stamped hc.snd_crc hc.rcv_ok hhead hears with
        | zero hch => exact hch
        | resume hex hsrc' hcontent' hch hcrc => exact hch
      obtain rfl := hsame hex hch
      rw [hbytes] at hsize ⊢
      have hmin := SessionParams.mtu_min hc.snd_ok hc.rcv_ok
      rcases SendState.startFile_cases c.snd (by rw [hmtu]; exact hmin) content' off' with heq | heq
      · rw [heq]
        exact Or.inl (h.sent_keep hup nofun nofun fun p hp => absurd hp List.not_mem_nil)
      · rw [heq, hmtu]
        show Underway A c content' f off' d ({ s with toSnd := up }.sent
          ((s.snd.started content'.length off').onDataResult c.snd (c.transfer content' off').io
            (startData c.snd.cfg (c.transfer content' off').io s.snd.flow)))
        by_cases hlt : off' < content'.length
        · right
          refine h.begins ⟨hmin, hc.mtu_max, ?_, hlt⟩ hsize hflow hup
          exact (SourceFile.readable_spec hread).2
        · -- an empty file: DONE goes out at once
          rw [startData_complete c.snd.cfg s.snd.flow (Nat.not_lt.mp hlt)]
          refine Or.inl (h.sent_keep hup nofun (fun _ => by omega) ?_)
          intro p hp _
          rw [List.mem_singleton.mp hp]
          exact ⟨rfl, by omega⟩
  | @skips content' hears hcontent =>
      have hex := SendPc.exchange_of_content hcontent
      have hch := hj.started.hears_skip hj.agreed hj.sync hj.one hj.stamped hc.rcv_ok hhead hears
        rfl
      have hle : f.size ≤ off := by
        rw [← hsame hex hch, hj.size_eq hphase, hj.idx_eq hat hex]
        exact Nat.le_refl _
      refine Or.inl (h.sent_keep hup nofun (fun _ => hle) ?_)
      intro p hp _
      rw [List.mem_singleton.mp hp]
      exact ⟨rfl, hle⟩
  | moves m hpc => exact absurd hpc (h.snd_out _ _)
  | waits hpc sends_ok =>
      have hle : f.size ≤ off := h.snd_done (by rw [hpc]; rfl)
      refine Or.inl (h.sent_keep hup nofun (fun _ => hle) ?_)
      intro p hp _
      rw [sends_ok p hp]
      exact ⟨rfl, hle⟩

section Mirror

variable {flow : Flow} {x : DataSys}

/-- A sender that matches a running one is in the exchange of its file. -/
theorem SendState.Matches.exchange {io : SendFile} {t : SendState} {ph : SendPhase}
    (h : t.Matches io ph) (hlive : ph.isReturned = false) : t.pc.exchange = some .file := by
  cases h with
  | data hpc =>
      rw [hpc]
      rfl
  | doneWait hpc flow_eq =>
      rw [hpc]
      rfl
  | returned hpc => cases hlive

theorem SendState.Matches.live {io : SendFile} {t : SendState} {ph : SendPhase}
    (h : t.Matches io ph) (hbusy : t.pc ≠ .idle) : ph.isReturned = false := by
  cases h with
  | data hpc => rfl
  | doneWait hpc flow_eq => rfl
  | returned hpc => exact absurd hpc hbusy

/-- The transfer moves on, and the session's sender with it. -/
theorem Mirrors.follow (h : Mirrors A c content f off d s flow x) {x' : DataSys}
    {r : List Send × SendState} {up : List Item}
    (hrun : Lts.Reach (DataSys.embeddedStep (c.transfer content off)) (EmbeddedLabel.Lift A) x x')
    (hsnd : r.2.Matches (c.transfer content off).io x'.snd) (hrcv : x'.rcv = x.rcv)
    (hdown : x'.toRcv = x.toRcv ++ r.1) (hbody : ∀ p ∈ r.1, p.type.isBody = true)
    (hup : x'.toSnd = bodyOf up) :
    Mirrors A c content f off d ({ s with toSnd := up }.sent r) flow x' where
  whole := h.whole
  flow_ok := h.flow_ok
  run := h.run.trans hrun
  snd_at := hsnd
  rcv_at := hrcv.trans h.rcv_at
  down_eq := by
    show x'.toRcv = bodyOf (s.toRcv ++ r.1.map _)
    rw [hdown, h.down_eq, bodyOf_append, bodyOf_stamped hbody]
  up_eq := hup

/-- **The sender takes a frame.** -/
theorem Mirrors.sndRecv {adm : SessionSys → SessionLabel → Prop} (hsh : Relay c adm A)
    (h : Mirrors A c content f off d s flow x) (hj : Joint c batch D s)
    (hphase : s.rcv.pc.phase = .file f) {it : Item} {rest : List Item}
    (hchan : s.toSnd = it :: rest) (hbusy : s.snd.pc ≠ .idle) :
    ∃ x', Mirrors A c content f off d
      ({ s with toSnd := rest }.sent (s.snd.onFrame c.snd it.send.frame)) flow x' := by
  have hmem : it ∈ s.toSnd := by
    rw [hchan]
    exact List.mem_cons_self ..
  have hlive := h.snd_at.live hbusy
  have hmtu := (hj.snd_ready (h.snd_at.exchange hlive)).1
  have htype := Send.frame_type (hj.sync.rep_named it hmem)
  cases hbody : it.send.type.isBody with
  | true =>
      obtain ⟨hsends, hmatch⟩ := h.snd_at.onFrame hmtu hlive (f := it.send.frame)
        (by rw [htype]; exact hj.up_open (hj.atFile hphase) hmem)
      have hup : x.toSnd = it.send :: bodyOf rest := by
        rw [h.up_eq, hchan, bodyOf_cons_body hbody]
      have hstep : x.embeddedStep (c.transfer content off) (.own .sndRecv)
          = some ({ x with toSnd := bodyOf rest }.sent
              (x.snd.onFrame (c.transfer content off) it.send.frame)) := by
        simp only [DataSys.embeddedStep, DataSys.step, hup, hlive, Bool.false_eq_true, if_false]
      refine ⟨_, h.follow (.one (.own .sndRecv) (hsh.quiet x .sndRecv (by intro _ h; cases h)) hstep) hmatch rfl ?_ ?_
        rfl⟩
      · rw [hsends]
        rfl
      · rw [hsends]
        exact SendPhase.onFrame_body _ _ _
  | false =>
      obtain ⟨hsends, hmatch⟩ := h.snd_at.onOther (f := it.send.frame) (by rw [htype]; exact hbody)
        hlive
      have hup : x.toSnd = bodyOf rest := by rw [h.up_eq, hchan, bodyOf_cons_other hbody]
      have hnone : ∀ p ∈ (s.snd.onFrame c.snd it.send.frame).1, p.type.isBody = true := by
        rw [hsends]
        exact fun p hp => absurd hp List.not_mem_nil
      rcases hmatch with hmatch | hidle
      · exact ⟨x, h.follow .refl hmatch rfl (by rw [hsends, List.append_nil]) hnone hup⟩
      · refine ⟨_, h.follow (.one (.quit .ok) trivial rfl) (.returned hidle) rfl ?_ hnone hup⟩
        rw [hsends, List.append_nil]

/-- **The sender times out.** -/
theorem Mirrors.sndTimeout {adm : SessionSys → SessionLabel → Prop} (hsh : Relay c adm A)
    (h : Mirrors A c content f off d s flow x) (hbusy : s.snd.pc ≠ .idle) (timer : HelloTimer) :
    ∃ x', Mirrors A c content f off d (s.sent (s.snd.onTimeout c.snd timer)) flow x' := by
  have hlive := h.snd_at.live hbusy
  obtain ⟨hsends, hmatch⟩ := h.snd_at.onTimeout hlive timer
  have hstep : x.embeddedStep (c.transfer content off) (.own .sndTimeout)
      = some (x.sent (x.snd.onTimeout (c.transfer content off))) := by
    simp only [DataSys.embeddedStep, DataSys.step, hlive, Bool.false_eq_true, if_false]
  refine ⟨_, @Mirrors.follow c s f A content off d flow x h _ _ s.toSnd
    (.one (.own .sndTimeout) (hsh.quiet x .sndTimeout (by intro _ h; cases h)) hstep) hmatch rfl ?_ ?_ h.up_eq⟩
  · rw [hsends]
    rfl
  · rw [hsends]
    exact SendPhase.onTimeout_body _ _

theorem Mirrors.lose {adm : SessionSys → SessionLabel → Prop} (hsh : Relay c adm A)
    (h : Mirrors A c content f off d s flow x) {toRcv toSnd : List Item}
    (hrcv : toRcv.Sublist s.toRcv) (hsnd : toSnd.Sublist s.toSnd) :
    ∃ x', Mirrors A c content f off d { s with toRcv := toRcv, toSnd := toSnd } flow x' := by
  have hdown := bodyOf_sublist hrcv
  have hup := bodyOf_sublist hsnd
  rw [← h.down_eq] at hdown
  rw [← h.up_eq] at hup
  have hrun := @DataSys.reach_lose (c.transfer content off) A
    (fun y l hl => hsh.quiet y l (by intro short heq; rw [heq] at hl; cases hl)) x _ _ hdown hup
  exact ⟨_, h.whole, h.flow_ok, h.run.trans hrun, h.snd_at, h.rcv_at, rfl, rfl⟩

end Mirror

theorem Still.lose (h : Still c f off d s) {toRcv toSnd : List Item}
    (hrcv : toRcv.Sublist s.toRcv) (hsnd : toSnd.Sublist s.toSnd) :
    Still c f off d { s with toRcv := toRcv, toSnd := toSnd } :=
  ⟨h.data_eq, h.snd_out, h.snd_done, fun it hit => h.req_ok it (hrcv.subset hit),
    fun it hit => h.rep_ok it (hsnd.subset hit)⟩

/-! ## §7. The receiver's steps. -/

/-- What a round of the data loop may leave behind: the whole rest of the
file, or a prefix of it where the call returns. -/
def RecvResult.Delivers (base rest : Bytes) : RecvResult → Prop
  | .wait _ => True
  | .complete d => d.file = base ++ rest
  | .fail d _ => ∃ n, d.file = base ++ rest.take n

/-- An intact transfer delivers. -/
theorem Intact.delivers {t : DataParams} {e : Bytes} {x : DataSys} (h : Intact t e x) :
    x.rcv.Delivers e (t.io.content.drop t.io.resumeOff) := by
  cases hr : x.rcv with
  | wait d => trivial
  | complete d =>
      have hfile := h.complete (h.done_rcv d hr)
      rw [hr] at hfile
      exact hfile
  | fail d st =>
      obtain ⟨k, hfile, -⟩ := h.file_ok.file_eq
      rw [hr] at hfile
      exact ⟨k, hfile⟩

/-- A round of the data loop goes well: what it closes is right if transfers
are intact, and where it waits on, the data phase is under way. -/
structure RoundOk (A : DataSys → DataLabel → Prop) (c : SessionParams) (content : Bytes)
    (f : RecvFile) (off : Nat) (s : SessionSys) (down : List Item)
    (r : List Send × RecvResult) : Prop where
  delivers : IntactRuns A c (c.transfer content off) (openedWith off (s.rcv.files f.path)) →
    r.2.Delivers (openedWith off (s.rcv.files f.path)) (content.drop off)
  goes_on : ∀ d, r.2 = .wait d → Underway A c content f off d
    ({ s with toRcv := down }.answered (s.rcv.onRecvResult c.rcv f r))

/-- The transfer moves on, and the session's receiver with it. -/
theorem Mirrors.round {flow : Flow} {x x' : DataSys} (h : Mirrors A c content f off d s flow x)
    {r : List Send × RecvResult} {down : List Item}
    (hrun : Lts.Reach (DataSys.embeddedStep (c.transfer content off)) (EmbeddedLabel.Lift A) x x')
    (hsnd : x'.snd = x.snd) (hrcv : x'.rcv = r.2) (hdown : x'.toRcv = bodyOf down)
    (hup : x'.toSnd = x.toSnd ++ r.1) (hbody : ∀ p ∈ r.1, p.type.isBody = true) :
    RoundOk A c content f off s down r := by
  have hreach := h.run.trans hrun
  refine ⟨fun hintact => ?_, fun d' hd' => Or.inr ⟨flow, x', h.whole, h.flow_ok, ?_, ?_, ?_, hdown, ?_⟩⟩
  · have hdel := (hintact h.whole h.flow_ok hreach).delivers
    rw [hrcv] at hdel
    exact hdel
  · unfold RecvState.onRecvResult
    rw [hd']
    exact hreach
  · rw [hsnd]
    exact h.snd_at
  · rw [hrcv, hd']
  · unfold RecvState.onRecvResult
    rw [hd']
    show x'.toSnd = bodyOf (s.toSnd ++ r.1.map _)
    rw [hup, h.up_eq, bodyOf_append, bodyOf_stamped hbody]

/-- A receive that fails outside the data phase leaves the file as it is. -/
theorem Mirrors.fails {flow : Flow} {x : DataSys} (h : Mirrors A c content f off d s flow x)
    (hintact : IntactRuns A c (c.transfer content off) (openedWith off (s.rcv.files f.path))) :
    ∃ n, d.file = openedWith off (s.rcv.files f.path) ++ (content.drop off).take n := by
  have hok := (hintact h.whole h.flow_ok h.run).file_ok
  rw [h.rcv_at] at hok
  exact ⟨_, hok.wait_file⟩

/-- **The receiver takes a frame** in its data loop. -/
theorem Mirrors.takes {adm : SessionSys → SessionLabel → Prop} (hsh : Relay c adm A)
    {flow : Flow} {x : DataSys} (h : Mirrors A c content f off d s flow x)
    (hj : Joint c batch D s) (hpc : s.rcv.pc = .dataWait f d) {it : Item} {rest : List Item}
    {fs : FsOutcome} (hchan : s.toRcv = it :: rest) (hadm : adm s (.rcvRecv fs)) :
    RoundOk A c content f off s rest
      (onDataFrame c.rcv.cfg s.rcv.mtu d it.send.frame fs.short) := by
  have hphase : s.rcv.pc.phase = .file f := by
    rw [hpc]
    rfl
  have hmem : it ∈ s.toRcv := by
    rw [hchan]
    exact List.mem_cons_self ..
  have hnamed : it.send.type.isNamed = true := by
    obtain ⟨e, -, hreq⟩ := hj.sync.req_fits it hmem
    exact hreq.named
  rw [hj.rcv_mtu hphase]
  cases hbody : it.send.type.isBody with
  | true =>
      have hdown : x.toRcv = it.send :: bodyOf rest := by
        rw [h.down_eq, hchan, bodyOf_cons_body hbody]
      have hstep : x.embeddedStep (c.transfer content off) (.own (.rcvRecv fs.short))
          = some ({ x with toRcv := bodyOf rest }.answered
              (onDataFrame c.rcv.cfg c.mtu d it.send.frame fs.short)) := by
        simp only [DataSys.embeddedStep, DataSys.step, hdown, h.rcv_at]
        rfl
      exact h.round (.one (.own (.rcvRecv fs.short))
        (hsh.takes hadm hpc hchan h.rcv_at hdown) hstep) rfl rfl rfl rfl (onDataFrame_body _ _ _ _ _)
  | false =>
      obtain ⟨hsends, hres⟩ := onDataFrame_other c.rcv.cfg c.mtu d fs.short
        (f := it.send.frame) (by rw [Send.frame_type hnamed]; exact hbody)
      have hdown : x.toRcv = bodyOf rest := by rw [h.down_eq, hchan, bodyOf_cons_other hbody]
      rcases hres with hres | ⟨st, hres⟩
      · -- the retry budget is fresh again
        have hstep : x.embeddedStep (c.transfer content off)
            (.refresh c.rcv.cfg.retries.dataRetries)
            = some { x with rcv := .wait { d with tries := c.rcv.cfg.retries.dataRetries } } := by
          simp only [DataSys.embeddedStep, h.rcv_at]
        refine h.round (.one (.refresh c.rcv.cfg.retries.dataRetries) trivial hstep) rfl
          hres.symm hdown ?_ ?_
        · rw [hsends, List.append_nil]
        · exact onDataFrame_body _ _ _ _ _
      · refine ⟨fun hintact => ?_, fun d' hd' => ?_⟩
        · rw [hres]
          obtain ⟨n, hn⟩ := h.fails hintact
          exact ⟨n, hn⟩
        · rw [hres] at hd'
          cases hd'

theorem Mirrors.pauses {adm : SessionSys → SessionLabel → Prop} (hsh : Relay c adm A)
    {flow : Flow} {x : DataSys} (h : Mirrors A c content f off d s flow x) :
    RoundOk A c content f off s s.toRcv (onDataTimeout d) := by
  have hstep : x.embeddedStep (c.transfer content off) (.own .rcvTimeout)
      = some (x.answered (onDataTimeout d)) := by
    simp only [DataSys.embeddedStep, DataSys.step, h.rcv_at]
  refine h.round (.one (.own .rcvTimeout) (hsh.quiet x .rcvTimeout (by intro _ h; cases h)) hstep) rfl rfl
    h.down_eq rfl ?_
  intro p hp
  unfold onDataTimeout at hp
  split at hp
  · exact absurd hp List.not_mem_nil
  · exact absurd hp List.not_mem_nil

/-- Another try, and nothing else. -/
theorem Still.retries (h : Still c f off d s) (tries : Nat) {down : List Item}
    (hdown : down ⊆ s.toRcv) :
    Still c f off { d with tries := tries } ({ s with toRcv := down }.answered
      (s.rcv.onRecvResult c.rcv f ([], .wait { d with tries := tries }))) where
  data_eq := by
    obtain ⟨n, hd⟩ := h.data_eq
    exact ⟨tries, by rw [hd]; rfl⟩
  snd_out := h.snd_out
  snd_done := h.snd_done
  req_ok := fun it hit => h.req_ok it (hdown hit)
  rep_ok := by
    intro it hit
    apply h.rep_ok it
    rcases List.mem_append.mp hit with hit | hit
    · exact hit
    · exact absurd hit List.not_mem_nil

/-- The file is as it was opened. -/
theorem Still.file_eq (h : Still c f off d s) :
    d.file = openedWith off (s.rcv.files f.path) := by
  obtain ⟨n, hd⟩ := h.data_eq
  rw [hd]
  rfl

theorem Still.fails (h : Still c f off d s) (rest : Bytes) :
    ∃ n, d.file = openedWith off (s.rcv.files f.path) ++ rest.take n :=
  ⟨0, by rw [List.take_zero, List.append_nil, h.file_eq]⟩

theorem Still.takes (h : Still c f off d s) (hj : Joint c batch D s)
    (hpc : s.rcv.pc = .dataWait f d) {it : Item} {rest : List Item} {fs : FsOutcome}
    (hchan : s.toRcv = it :: rest) :
    RoundOk A c (contentAt batch s.rcv.completed.length) f off s rest
      (onDataFrame c.rcv.cfg s.rcv.mtu d it.send.frame fs.short) := by
  have hphase : s.rcv.pc.phase = .file f := by
    rw [hpc]
    rfl
  have hmem : it ∈ s.toRcv := by
    rw [hchan]
    exact List.mem_cons_self ..
  have hsub : rest ⊆ s.toRcv := by
    rw [hchan]
    exact List.subset_cons_self _ _
  have htype : PacketType.ofByte it.send.frame.type = it.send.type := by
    obtain ⟨e, -, hreq⟩ := hj.sync.req_fits it hmem
    exact Send.frame_type hreq.named
  cases hbody : it.send.type.isBody with
  | true =>
      -- DONE, where nothing is left to send
      obtain ⟨hdone, hle⟩ := h.req_ok it hmem hbody
      have hrest : (contentAt batch s.rcv.completed.length).drop off = [] := by
        rw [List.drop_eq_nil_iff, ← hj.size_eq hphase]
        exact hle
      unfold onDataFrame
      dsimp only
      split
      · refine ⟨fun _ => ?_, nofun⟩
        exact h.fails _
      · rename_i p hp
        rw [recvFrame_type hp, htype, hdone]
        refine ⟨fun _ => ?_, nofun⟩
        show d.file = _
        rw [hrest, List.append_nil, h.file_eq]
  | false =>
      obtain ⟨hsends, hres⟩ := onDataFrame_other c.rcv.cfg s.rcv.mtu d fs.short
        (f := it.send.frame) (by rw [htype]; exact hbody)
      generalize onDataFrame c.rcv.cfg s.rcv.mtu d it.send.frame fs.short = r at hsends hres
      obtain ⟨sends, res⟩ := r
      dsimp only at hsends hres
      subst hsends
      rcases hres with hres | ⟨st, hres⟩
      · rw [hres]
        refine ⟨fun _ => trivial, fun d' hd' => ?_⟩
        cases hd'
        exact Or.inl (h.retries _ hsub)
      · rw [hres]
        exact ⟨fun _ => h.fails _, nofun⟩

theorem Still.pauses (h : Still c f off d s) (content : Bytes) :
    RoundOk A c content f off s s.toRcv (onDataTimeout d) := by
  unfold onDataTimeout
  split
  · exact ⟨fun _ => h.fails _, nofun⟩
  · refine ⟨fun _ => trivial, fun d' hd' => ?_⟩
    cases hd'
    exact Or.inl (h.retries _ fun _ hx => hx)

/-! ## §8. Every step. -/

/-- **Both waits behind a settled start**: the start is on record, with the
local file as it was; a file that is skipped is not touched, and the data
phase of any other is under way. -/
structure Carried (A : DataSys → DataLabel → Prop) (c : SessionParams)
    (batch : List SourceFile) (s : SessionSys) : Prop where
  data_at : ∀ f d, s.rcv.pc = .dataWait f d → ∃ st ∈ s.rcv.starts,
    st.file = s.rcv.completed.length ∧ st.existing = s.rcv.files f.path
      ∧ (st.offset < f.size ∨ c.rcv.cfg.resume.mode = .never)
      ∧ Underway A c (contentAt batch s.rcv.completed.length) f st.offset d s
  skip_at : ∀ f tries, s.rcv.pc = .skipWait f tries → ∃ st ∈ s.rcv.starts,
    st.file = s.rcv.completed.length ∧ st.existing = s.rcv.files f.path ∧ f.size ≤ st.offset

/-- No file is open. -/
theorem Carried.outside (h : ∀ g, s.rcv.pc.stage ≠ .settled g) : Carried A c batch s where
  data_at := fun f d hpc => absurd (by rw [hpc]; rfl) (h f)
  skip_at := fun f tries hpc => absurd (by rw [hpc]; rfl) (h f)

/-- The start is settled. -/
theorem Carried.opened (hj : Joint c batch D s) {r : RecvState} {sends : List Send}
    {down : List Item} (hdown : down ⊆ s.toRcv) (hphase : s.rcv.pc.phase = .file f)
    (hstage : ∀ g, s.rcv.pc.stage ≠ .settled g) (hopens : s.rcv.Opens c.rcv f off r)
    (hsends : ∀ p ∈ sends, p.type.isBody = true → p = sendBare .dataAck 0) :
    Carried A c batch ({ s with toRcv := down }.answered (sends, r)) := by
  obtain ⟨hquiet, hreq, hrep⟩ := hj.nothing_yet hphase hstage
  set st : RecvStart := ⟨s.rcv.completed.length, f.size, off, s.rcv.files f.path⟩ with hst
  have hmem : st ∈ (s.rcv.started f off).starts :=
    List.mem_append_right _ (List.mem_singleton_self _)
  cases hopens with
  | target hoff =>
      refine ⟨fun g d hpc => ?_, nofun⟩
      cases hpc
      refine ⟨st, hmem, rfl, rfl, hoff, Or.inl ⟨⟨_, rfl⟩, ?_, ?_, ?_, ?_⟩⟩
      · intro io ds hpc
        rw [show s.snd.pc = .ackWait io ds from hpc] at hquiet
        cases hquiet
      · intro htr
        exact absurd (htr.symm.trans hquiet) nofun
      · intro it hit hbody
        rw [hreq it (hdown hit)] at hbody
        cases hbody
      · intro it hit hbody
        rcases List.mem_append.mp hit with hit | hit
        · rw [hrep it hit] at hbody
          cases hbody
        · exact hsends _ (mem_stamped hit).1 hbody
  | skipped hoff tries =>
      refine ⟨nofun, fun g n hpc => ?_⟩
      cases hpc
      exact ⟨st, hmem, rfl, rfl, hoff⟩
  | refused st' hst' => exact .outside nofun

/-- A round of the data loop. -/
theorem Carried.round {r : List Send × RecvResult} {down : List Item} {st : RecvStart}
    (hst : st ∈ s.rcv.starts) (hfile : st.file = s.rcv.completed.length)
    (hex : st.existing = s.rcv.files f.path)
    (hoff : st.offset < f.size ∨ c.rcv.cfg.resume.mode = .never)
    (hr : RoundOk A c (contentAt batch s.rcv.completed.length) f st.offset s down r) :
    Carried A c batch ({ s with toRcv := down }.answered (s.rcv.onRecvResult c.rcv f r)) := by
  cases hres : r.2 with
  | wait d =>
      have hgo := hr.goes_on d hres
      have hpc : (s.rcv.onRecvResult c.rcv f r).2 = { s.rcv with pc := .dataWait f d } := by
        unfold RecvState.onRecvResult
        rw [hres]
      refine ⟨fun g d' hd' => ?_, fun g n hd' => ?_⟩
      · have heq : RecvPc.dataWait f d = .dataWait g d' :=
          (congrArg RecvState.pc hpc).symm.trans hd'
        cases heq
        refine ⟨st, ?_, ?_, ?_, hoff, ?_⟩
        · show st ∈ (s.rcv.onRecvResult c.rcv f r).2.starts
          rw [hpc]
          exact hst
        · show st.file = (s.rcv.onRecvResult c.rcv f r).2.completed.length
          rw [hpc]
          exact hfile
        · show st.existing = (s.rcv.onRecvResult c.rcv f r).2.files f.path
          rw [hpc]
          exact hex
        · show Underway A c (contentAt batch
            (s.rcv.onRecvResult c.rcv f r).2.completed.length) f st.offset d _
          rw [show (s.rcv.onRecvResult c.rcv f r).2.completed = s.rcv.completed by rw [hpc]]
          exact hgo
      · have heq : RecvPc.dataWait f d = .skipWait g n :=
          (congrArg RecvState.pc hpc).symm.trans hd'
        cases heq
  | complete d =>
      apply Carried.outside
      show ∀ g, (s.rcv.onRecvResult c.rcv f r).2.pc.stage ≠ .settled g
      unfold RecvState.onRecvResult
      rw [hres]
      exact nofun
  | fail d st' =>
      apply Carried.outside
      show ∀ g, (s.rcv.onRecvResult c.rcv f r).2.pc.stage ≠ .settled g
      unfold RecvState.onRecvResult
      rw [hres]
      exact nofun

/-- Every round of the data loop of a carried file goes well. -/
theorem Carried.roundOk {adm : SessionSys → SessionLabel → Prop} (hsh : Relay c adm A)
    (h : Carried A c batch s) (hj : Joint c batch D s) (hpc : s.rcv.pc = .dataWait f d) :
    ∃ st ∈ s.rcv.starts, st.file = s.rcv.completed.length ∧ st.existing = s.rcv.files f.path
      ∧ (st.offset < f.size ∨ c.rcv.cfg.resume.mode = .never)
      ∧ (∀ it rest fs, s.toRcv = it :: rest → adm s (.rcvRecv fs) →
        RoundOk A c (contentAt batch s.rcv.completed.length) f st.offset s rest
          (onDataFrame c.rcv.cfg s.rcv.mtu d it.send.frame fs.short))
      ∧ RoundOk A c (contentAt batch s.rcv.completed.length) f st.offset s s.toRcv
          (onDataTimeout d) := by
  obtain ⟨st, hst, hfile, hex, hoff, hu⟩ := h.data_at f d hpc
  refine ⟨st, hst, hfile, hex, hoff, ?_, ?_⟩
  · intro it rest fs hchan hadm
    rcases hu with hstill | ⟨flow, x, hmir⟩
    · exact hstill.takes hj hpc hchan
    · exact hmir.takes hsh hj hpc hchan hadm
  · rcases hu with hstill | ⟨flow, x, hmir⟩
    · exact hstill.pauses _
    · exact hmir.pauses hsh

/-- A step of the receiver. -/
theorem Carried.answered {adm : SessionSys → SessionLabel → Prop} (hsh : Relay c adm A)
    (h : Carried A c batch s) (hj : Joint c batch D s) {fr : Option Frame} {fs : FsOutcome}
    {r : List Send × RecvState} {down : List Item} (hdown : down ⊆ s.toRcv)
    (htook : fr = none ∧ down = s.toRcv
      ∨ ∃ it, fr = some it.send.frame ∧ s.toRcv = it :: down ∧ adm s (.rcvRecv fs))
    (hstep : FileRecv c.rcv s.rcv fr fs r) :
    Carried A c batch ({ s with toRcv := down }.answered r) := by
  cases hstep with
  | away hstage hstage' files_eq starts_eq completed_eq sends_ok => exact .outside hstage'
  | @opens f off sends s' hpick hopens sends_ok =>
      refine .opened hj hdown (f := f) ?_ ?_ hopens sends_ok
      · rcases hpick.stage with hs | ⟨_, _, hs⟩
        all_goals exact RecvPc.phase_of_stage (by rw [hs]; rfl)
      · rcases hpick.stage with hs | ⟨_, _, hs⟩
        all_goals
          rw [hs]
          exact nofun
  | @takes f d frame hpc hfr =>
      obtain ⟨st, hst, hfile, hex, hoff, htakes, -⟩ := h.roundOk hsh hj hpc
      rcases htook with ⟨hnone, -⟩ | ⟨it, hsome, hchan, hadm⟩
      · rw [hnone] at hfr
        cases hfr
      · rw [hsome] at hfr
        cases hfr
        exact .round hst hfile hex hoff (htakes it down fs hchan hadm)
  | @pauses f d hpc hfr =>
      obtain ⟨st, hst, hfile, hex, hoff, -, hpauses⟩ := h.roundOk hsh hj hpc
      rcases htook with ⟨-, rfl⟩ | ⟨it, hsome, -⟩
      · exact .round hst hfile hex hoff hpauses
      · rw [hsome] at hfr
        cases hfr
  | @idles f tries tries' hpc =>
      obtain ⟨st, hst, hfile, hex, hoff⟩ := h.skip_at f tries hpc
      refine ⟨nofun, fun g n hpc' => ?_⟩
      cases hpc'
      exact ⟨st, hst, hfile, hex, hoff⟩
  | ends hpc hfr htype => exact .outside nofun
  | @gives f tries sends s' st hpc hpc' files_eq starts_eq log_eq sends_ok =>
      apply Carried.outside
      show ∀ g, s'.pc.stage ≠ .settled g
      rw [hpc']
      exact nofun

/-- A step of the sender. -/
theorem Carried.sent (h : Carried A c batch s) {r : List Send × SendState} {up : List Item}
    {calls : List (List SourceFile)}
    (hstep : ∀ f d st, s.rcv.pc = .dataWait f d → st ∈ s.rcv.starts →
      st.file = s.rcv.completed.length →
      Underway A c (contentAt batch s.rcv.completed.length) f st.offset d s →
      Underway A c (contentAt batch s.rcv.completed.length) f st.offset d
        ({ s with toSnd := up, sndCalls := calls }.sent r)) :
    Carried A c batch ({ s with toSnd := up, sndCalls := calls }.sent r) := by
  refine ⟨fun f d hpc => ?_, h.skip_at⟩
  obtain ⟨st, hst, hfile, hex, hoff, hu⟩ := h.data_at f d hpc
  exact ⟨st, hst, hfile, hex, hoff, hstep f d st hpc hst hfile hu⟩

/-- **Step lemma.** -/
theorem carried_step {adm : SessionSys → SessionLabel → Prop} (hc : c.Regular)
    (hsh : Relay c adm A) {l : SessionLabel} (hj : Joint c batch D s)
    (h : Carried A c batch s) (hadm : adm s l) (hstep : s.step c l = some s') :
    Carried A c batch s' := by
  have hphase : ∀ {f : RecvFile} {d : RecvData}, s.rcv.pc = .dataWait f d →
      s.rcv.pc.phase = .file f := by
    intro f d hpc
    rw [hpc]
    rfl
  cases SessionSys.step_inv hstep with
  | @sndCall batch' rest hcalls hidle =>
      refine @Carried.sent c batch s A h _ s.toSnd rest fun f d st hpc _ _ _ => ?_
      have hnil := hj.no_sndCall (hj.atFile (hphase hpc)) hidle
      rw [hcalls] at hnil
      cases hnil
  | @rcvCall dir rest hcalls hidle =>
      apply Carried.outside
      show ∀ g, (s.rcv.call c.rcv dir).pc.stage ≠ .settled g
      unfold RecvState.call
      dsimp only
      split <;> exact nofun
  | @sndRecv it rest hchan hbusy =>
      have hsub : rest ⊆ s.toSnd := by
        rw [hchan]
        exact List.subset_cons_self _ _
      refine h.sent fun f d st hpc hst hfile hu => ?_
      rcases hu with hstill | ⟨flow, x, hmir⟩
      · refine hstill.sent hc hj (hphase hpc) hst hfile rfl hsub ?_
          (SendState.onFrame_file c.snd s.snd it.send.frame)
        rintro _ ⟨⟩
        exact ⟨it, by rw [hchan]; exact List.mem_cons_self .., rfl⟩
      · exact Or.inr ⟨flow, hmir.sndRecv hsh hj (hphase hpc) hchan hbusy⟩
  | @sndTimeout timer hbusy =>
      refine @Carried.sent c batch s A h _ s.toSnd s.sndCalls fun f d st hpc hst hfile hu => ?_
      rcases hu with hstill | ⟨flow, x, hmir⟩
      · exact @Still.sent c batch D s f A st.offset d hc hj (hphase hpc) hstill st hst hfile rfl
          none _ s.toSnd (fun _ hx => hx) nofun (SendState.onTimeout_file c.snd s.snd timer)
      · exact Or.inr ⟨flow, hmir.sndTimeout hsh hbusy timer⟩
  | @rcvRecv it rest fs hchan hbusy =>
      refine h.answered hsh hj ?_ (Or.inr ⟨it, rfl, hchan, hadm⟩)
        (RecvState.onFrame_file hc.no_validator s.rcv it.send.frame fs)
      rw [hchan]
      exact List.subset_cons_self _ _
  | @rcvTimeout timer fs hbusy =>
      exact @Carried.answered c batch D s A adm hsh h hj none fs _ s.toRcv (fun _ hx => hx)
        (Or.inl ⟨rfl, rfl⟩) (RecvState.onTimeout_file hc.no_validator s.rcv timer fs)
  | @lose l toRcv toSnd hl hrcv hsnd =>
      refine ⟨fun f d hpc => ?_, h.skip_at⟩
      obtain ⟨st, hst, hfile, hex, hoff, hu⟩ := h.data_at f d hpc
      refine ⟨st, hst, hfile, hex, hoff, ?_⟩
      rcases hu with hstill | ⟨flow, x, hmir⟩
      · exact Or.inl (hstill.lose hrcv hsnd)
      · exact Or.inr ⟨flow, hmir.lose hsh hrcv hsnd⟩

end Runs

end ValProtocol
