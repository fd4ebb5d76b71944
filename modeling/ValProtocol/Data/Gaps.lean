/-
  ValProtocol.Data.Gaps
  ─────────────────────
  The data loop answers a DATA packet ahead of `written` with a DATA_NAK.
  Between the two sides of this implementation that branch is dead: a packet
  names its offset only at the sender's mark, and the mark is an
  acknowledgement the receiver has sent.

    • `gapless_embedded` — in every run with any window, whatever is lost,
      copied or late, no explicit offset in flight is ahead of the receiver,
      and nothing but acknowledgements is in flight to the sender.
-/
import ValProtocol.Data.Embedded

namespace ValProtocol

/-! ## §1. The invariant. -/

/-- A packet on its way to the receiver: readable, and where it names an
offset, one the receiver has reached. -/
structure Flying (c : DataParams) (written : Nat) (p : Send) : Prop where
  whole : p.Whole c.io.mtu
  kind : p.type = .data ∨ p.type = .done
  reached : p.type = .data → p.includeDataOffset = true → p.offset ≤ written

/-- **Nothing is ahead of the receiver.** -/
structure Gapless (c : DataParams) (s : DataSys) : Prop where
  mark_le : ∀ d, s.snd = .data d → d.lastAcked ≤ s.written
  flying : ∀ p ∈ s.toRcv, Flying c s.written p
  acks_ok : ∀ p ∈ s.toSnd, AckOk s.written p
  written_lt : s.written < 2 ^ 64

theorem Flying.mono {c : DataParams} {w w' : Nat} {p : Send} (hw : w ≤ w')
    (h : Flying c w p) : Flying c w' p :=
  ⟨h.whole, h.kind, fun hd he => Nat.le_trans (h.reached hd he) hw⟩

/-- The counter of the receiver does not wrap. -/
def DataSys.NoWrap (s : DataSys) : DataLabel → Prop
  | .rcvRecv _ => ∀ d p rest, s.rcv = .wait d → s.toRcv = p :: rest → p.type = .data →
      d.written + p.payload.length < 2 ^ 64
  | _ => True

/-! ## §2. The sender. -/

/-- A move from a mark the receiver has reached. -/
def Move.Backed (w : Nat) : Move → Prop
  | .stay d | .fill d => d.lastAcked ≤ w
  | .finish _ | .stop _ => True

section Sender

variable {c : DataParams} {w : Nat}

/-- The fill loop leaves the mark alone and names no other offset. -/
theorem fillLoop_flying (hc : c.Ok) (fuel : Nat) {d : SendData} (h : d.lastAcked ≤ w) :
    (fillLoop c.io fuel d).1.lastAcked ≤ w
    ∧ ∀ p ∈ (fillLoop c.io fuel d).2.1, Flying c w p := by
  have hmax := hc.mtu_max
  have hsize := hc.size_lt
  refine fillLoop_rule (I := fun d => d.lastAcked ≤ w) (S := Flying c w) ?_ fuel d h
  intro d n hd hpos hle hfit hlen
  refine ⟨hd, ?_, Or.inl rfl, ?_⟩
  · -- the content is what was staged, and it fits
    set p : Send := ⟨.data, (c.io.content.drop d.readPos).take n, d.nextToSend,
      d.nextToSend == d.lastAcked⟩ with hp
    have hst : p.staged.length = p.payload.length + (if p.explicitData then 8 else 0) :=
      Send.staged_length_of_not_isAck rfl
    have hex : p.explicitData = (d.nextToSend == d.lastAcked) := by simp [Send.explicitData, hp]
    have hpay : p.payload.length = n := hlen
    rw [hex, hpay] at hst
    simp only [SendFile.maxPayload, wireHeaderSize, wireTrailerSize] at hfit
    refine ⟨⟨rfl, show d.nextToSend < 2 ^ 64 by omega⟩, by omega, ?_⟩
    simp only [wireHeaderSize, wireTrailerSize]
    omega
  · intro _ hexp
    have hmark : d.nextToSend = d.lastAcked := by simpa using hexp
    show d.nextToSend ≤ w
    omega

theorem Move.Backed.run (hc : c.Ok) {m : Move} (h : m.Backed w) :
    (∀ p ∈ (m.run c.io).1, Flying c w p)
    ∧ ∀ d, (m.run c.io).2 = .wait d → d.lastAcked ≤ w := by
  cases m with
  | stay d =>
      refine ⟨fun p hp => absurd hp List.not_mem_nil, fun d' hd' => ?_⟩
      cases hd'
      exact h
  | fill d =>
      obtain ⟨hmark, hsends⟩ := fillLoop_flying hc d.win h
      rw [Move.run, fillAndWait_sends]
      refine ⟨hsends, fun d' hd' => ?_⟩
      rcases fillAndWait_cases c.io d with ⟨st, hst⟩ | hw
      · rw [hst] at hd'
        cases hd'
      · rw [hw] at hd'
        cases hd'
        exact hmark
  | finish flow =>
      refine ⟨fun p hp => absurd hp List.not_mem_nil, fun d hd => ?_⟩
      cases hd
  | stop st =>
      refine ⟨fun p hp => absurd hp List.not_mem_nil, fun d hd => ?_⟩
      cases hd

theorem dataLoop_backed (cfg : Config) (io : SendFile) {d : SendData} (h : d.lastAcked ≤ w) :
    (dataLoop cfg io d).Backed w := by
  unfold dataLoop
  split
  · exact h
  · trivial

theorem onDataAck_backed (cfg : Config) (io : SendFile) {d : SendData} {off : Nat}
    (hoff : off ≤ w) (h : d.lastAcked ≤ w) : (onDataAck cfg io d off).Backed w := by
  simp only [onDataAck]
  split
  · exact h
  · split
    · exact hoff
    · exact dataLoop_backed cfg io (show (advance cfg io d off).lastAcked ≤ w from hoff)

theorem onAckTimeout_backed (cfg : Config) {d : SendData} (h : d.lastAcked ≤ w) :
    (onAckTimeout cfg d).Backed w := by
  unfold onAckTimeout
  split
  · trivial
  · exact h

/-- What a step of the sender may send, and where it may stand. -/
structure SendsBacked (c : DataParams) (w : Nat) (r : List Send × SendPhase) : Prop where
  flying : ∀ p ∈ r.1, Flying c w p
  mark_le : ∀ d, r.2 = .data d → d.lastAcked ≤ w

theorem SendsBacked.none {ph : SendPhase} (h : ∀ d, ph ≠ .data d) : SendsBacked c w ([], ph) :=
  ⟨fun _ hp => absurd hp List.not_mem_nil, fun d hd => absurd hd (h d)⟩

/-- Where the data phase is not, there is no mark. -/
theorem SendPhase.doneWait_ne (n : Nat) (flow : Flow) (d : SendData) :
    SendPhase.doneWait n flow ≠ .data d := by
  intro h
  cases h

theorem SendPhase.returned_ne (st : Status) (d : SendData) :
    SendPhase.returned st ≠ .data d := by
  intro h
  cases h

/-- DONE can always be read. -/
theorem flying_done (hc : c.Ok) (w : Nat) : Flying c w (sendBare .done c.io.size) := by
  have hsize := hc.size_lt
  refine ⟨⟨⟨rfl, show c.io.size < 2 ^ 64 by omega⟩, Nat.zero_le _, Nat.zero_le _⟩, Or.inr rfl, ?_⟩
  intro hd
  cases hd

theorem Move.Backed.step (hc : c.Ok) {m : Move} (h : m.Backed w) :
    SendsBacked c w (afterData c (m.run c.io)) := by
  obtain ⟨hsends, hmark⟩ := h.run hc
  unfold afterData
  split
  · rename_i d hd
    refine ⟨hsends, fun d' hd' => ?_⟩
    cases hd'
    exact hmark d hd
  · rename_i flow hd
    refine ⟨fun p hp => ?_, fun d hd => absurd hd (SendPhase.doneWait_ne _ flow d)⟩
    rcases List.mem_append.mp hp with hp | hp
    · exact hsends p hp
    · rw [List.mem_singleton.mp hp]
      exact flying_done hc w
  · rename_i st hd
    exact ⟨hsends, fun d hd => absurd hd (SendPhase.returned_ne st d)⟩

/-- **The sender on an acknowledgement.** -/
theorem onFrame_backed (hc : c.Ok) {ph : SendPhase} (h : ∀ d, ph = .data d → d.lastAcked ≤ w)
    (hw : w < 2 ^ 64) {p : Send} (hp : AckOk w p) : SendsBacked c w (ph.onFrame c p.frame) := by
  obtain ⟨off, hoff, hp⟩ := hp
  cases ph with
  | data d =>
      rcases hp with rfl | rfl
      · rw [SendPhase.onFrame, onAckFrame_ack c.sndCfg d hc.mtu_min (by omega)]
        exact (onDataAck_backed c.sndCfg c.io hoff (h d rfl)).step hc
      · rw [SendPhase.onFrame, onAckFrame_doneAck hc d (by omega)]
        exact Move.Backed.step hc (show (Move.stay d).Backed w from h d rfl)
  | doneWait n flow =>
      simp only [SendPhase.onFrame]
      split
      · exact .none (SendPhase.returned_ne _)
      · split
        · exact .none (SendPhase.returned_ne _)
        · exact .none (SendPhase.doneWait_ne n flow)
  | returned st => exact .none (SendPhase.returned_ne st)

theorem onTimeout_backed (hc : c.Ok) {ph : SendPhase} (h : ∀ d, ph = .data d → d.lastAcked ≤ w) :
    SendsBacked c w (ph.onTimeout c) := by
  cases ph with
  | data d => exact (onAckTimeout_backed c.sndCfg (h d rfl)).step hc
  | doneWait n flow =>
      simp only [SendPhase.onTimeout]
      split
      · exact .none (SendPhase.returned_ne _)
      · refine ⟨fun p hp => ?_, fun d hd => absurd hd (SendPhase.doneWait_ne _ _ d)⟩
        rw [List.mem_singleton.mp hp]
        exact flying_done hc w
  | returned st => exact .none (SendPhase.returned_ne st)

end Sender

/-! ## §3. The receiver. -/

/-- A step of the receiver only moves on, and acknowledges where it is. -/
structure Acknowledges (w : Nat) (r : List Send × RecvResult) : Prop where
  written_le : w ≤ r.2.data.written
  written_lt : r.2.data.written < 2 ^ 64
  acks_ok : ∀ q ∈ r.1, AckOk r.2.data.written q

/-- **The receiver on a packet in flight.**  It is in order or behind, so no
DATA_NAK is sent. -/
theorem onDataFrame_acknowledges {c : DataParams} (hc : c.Ok) {d : RecvData} {p : Send}
    (hp : Flying c d.written p) (hlt : d.written < 2 ^ 64)
    (hroom : p.type = .data → d.written + p.payload.length < 2 ^ 64) (short : Option Nat) :
    Acknowledges d.written (onDataFrame c.rcvCfg c.io.mtu d p.frame short) := by
  have hmin := hc.mtu_min
  simp only [minPacketSize] at hmin
  unfold onDataFrame
  dsimp only
  rw [recvFrame_whole hp.whole (by omega) (Nat.le_refl _)]
  rcases hp.kind with hdata | hdone
  · have htype : p.packet.type = .data := hdata
    replace hroom := hroom hdata
    have hpay : p.packet.payload = p.payload := by
      show p.delivered = p.payload
      simp only [Send.delivered, hdata]
    have hlen : p.packet.len = p.payload.length := by
      show p.delivered.length = _
      rw [show p.delivered = p.payload from hpay]
    have hoff : p.packet.off = if p.includeDataOffset then p.offset else uint64Max := by
      show p.deliveredOffset = _
      simp only [Send.deliveredOffset, hdata]
    simp only [htype]
    set d₁ : RecvData := { d with tries := c.rcvCfg.retries.dataRetries } with hd₁
    by_cases hin : p.packet.off = uint64Max ∨ p.packet.off = d₁.written
    · -- in order
      rw [onData_inOrder short hin, hpay, hlen]
      rcases onInOrder_cases d₁ p.payload short with ⟨k, -, heq⟩ | heq
      · rw [heq]
        exact ⟨Nat.le_refl _, hlt, fun q hq => absurd hq List.not_mem_nil⟩
      · rw [heq]
        have hmod : (d₁.written + p.payload.length) % 2 ^ 64 = d.written + p.payload.length :=
          Nat.mod_eq_of_lt hroom
        rw [hmod]
        refine ⟨Nat.le_add_right _ _, hroom, fun q hq => ?_⟩
        exact ⟨_, Nat.le_refl _, Or.inl (List.mem_singleton.mp hq)⟩
    · -- an explicit offset the receiver has passed
      obtain ⟨hmax, hne⟩ := not_or.mp hin
      have hexp : p.includeDataOffset = true := by
        by_contra hfalse
        rw [hoff, if_neg hfalse] at hmax
        exact hmax rfl
      have hle := hp.reached hdata hexp
      rw [hoff, if_pos hexp] at hmax hne
      have hbehind : p.packet.off < d₁.written := by
        rw [hoff, if_pos hexp]
        show p.offset < d.written
        exact lt_of_le_of_ne hle hne
      obtain ⟨d', hd', -, hwr, -, hsends⟩ := onData_behind (d := d₁) short
        (by rw [hoff, if_pos hexp]; exact hmax) hbehind
      have hpos : (onData d₁ p.packet short).2.data.written = d.written := by
        rw [hd']
        exact hwr
      refine ⟨by rw [hpos], by rw [hpos]; exact hlt, fun q hq => ?_⟩
      rw [hpos]
      exact ⟨d.written, Nat.le_refl _, Or.inl (hsends q hq)⟩
  · have htype : p.packet.type = .done := hdone
    simp only [htype]
    refine ⟨Nat.le_refl _, hlt, fun q hq => ?_⟩
    exact ⟨d.written, Nat.le_refl _, Or.inr (List.mem_singleton.mp hq)⟩

/-! ## §4. Every run. -/

section Runs

variable {c : DataParams} {s s' : DataSys}

theorem Gapless.sent (h : Gapless c s) {r : List Send × SendPhase}
    (hr : SendsBacked c s.written r) : Gapless c (s.sent r) := by
  refine ⟨hr.mark_le, fun p hp => ?_, h.acks_ok, h.written_lt⟩
  rcases List.mem_append.mp hp with hp | hp
  · exact h.flying p hp
  · exact hr.flying p hp

theorem Gapless.answered (h : Gapless c s) {r : List Send × RecvResult}
    (hr : Acknowledges s.written r) : Gapless c (s.answered r) := by
  have hw : s.written ≤ (s.answered r).written := hr.written_le
  refine ⟨fun d hd => Nat.le_trans (h.mark_le d hd) hw, fun p hp => (h.flying p hp).mono hw,
    fun p hp => ?_, hr.written_lt⟩
  rcases List.mem_append.mp hp with hp | hp
  · exact (h.acks_ok p hp).mono hw
  · exact hr.acks_ok p hp

theorem Gapless.channels (h : Gapless c s) {toRcv toSnd : List Send}
    (h1 : ∀ p ∈ toRcv, p ∈ s.toRcv) (h2 : ∀ p ∈ toSnd, p ∈ s.toSnd) :
    Gapless c { s with toRcv := toRcv, toSnd := toSnd } :=
  ⟨h.mark_le, fun p hp => h.flying p (h1 p hp), fun p hp => h.acks_ok p (h2 p hp), h.written_lt⟩

/-- The locals of a waiting receiver. -/
theorem DataSys.written_of_wait {d : RecvData} (h : s.rcv = .wait d) : s.written = d.written := by
  rw [DataSys.written, h]
  rfl

/-- **One step of the transfer.** -/
theorem gapless_step (hc : c.Ok) {l : DataLabel} (h : Gapless c s) (hwrap : s.NoWrap l)
    (hs : s.step c l = some s') : Gapless c s' := by
  cases l with
  | sndRecv =>
      simp only [DataSys.step] at hs
      split at hs
      · cases hs
      rename_i p rest hto
      split at hs
      · cases hs
      · cases hs
        have h' := h.channels (fun q hq => hq)
          (fun q hq => by rw [hto]; exact List.mem_cons_of_mem p hq : ∀ q ∈ rest, q ∈ s.toSnd)
        have hack := h.acks_ok p (by rw [hto]; exact List.mem_cons_self ..)
        exact h'.sent (onFrame_backed hc h.mark_le h.written_lt hack)
  | sndTimeout =>
      simp only [DataSys.step] at hs
      split at hs
      · cases hs
      · cases hs
        exact h.sent (onTimeout_backed hc h.mark_le)
  | rcvRecv short =>
      simp only [DataSys.step] at hs
      split at hs
      · rename_i d p rest hrcv hto
        cases hs
        have h' := h.channels
          (fun q hq => by rw [hto]; exact List.mem_cons_of_mem p hq : ∀ q ∈ rest, q ∈ s.toRcv)
          (fun q hq => hq)
        have hp := h.flying p (by rw [hto]; exact List.mem_cons_self ..)
        have hw := DataSys.written_of_wait hrcv
        have hlt := h.written_lt
        rw [hw] at hp hlt
        have hack := onDataFrame_acknowledges hc hp hlt (hwrap d p rest hrcv hto) short
        rw [← hw] at hack
        exact h'.answered hack
      · cases hs
  | rcvTimeout =>
      simp only [DataSys.step] at hs
      split at hs
      · rename_i d hrcv
        cases hs
        have hw := DataSys.written_of_wait hrcv
        have hlt := h.written_lt
        rw [hw] at hlt
        refine h.answered ?_
        rw [hw]
        unfold onDataTimeout
        split
        · exact ⟨Nat.le_refl _, hlt, fun q hq => absurd hq List.not_mem_nil⟩
        · exact ⟨Nat.le_refl _, hlt, fun q hq => absurd hq List.not_mem_nil⟩
      · cases hs
  | loseToRcv i | loseToSnd i | copyToRcv i j | copyToSnd i j =>
      obtain ⟨toRcv, toSnd, rfl, h1, h2⟩ := env_step rfl hs
      exact h.channels h1 h2

theorem gapless_embeddedStep (hc : c.Ok) {l : EmbeddedLabel} (h : Gapless c s)
    (hwrap : EmbeddedLabel.Lift DataSys.NoWrap s l) (hs : s.embeddedStep c l = some s') :
    Gapless c s' := by
  cases l with
  | own l => exact gapless_step hc h hwrap hs
  | refresh tries =>
      simp only [DataSys.embeddedStep] at hs
      split at hs
      · rename_i d hrcv
        cases hs
        have hw := DataSys.written_of_wait hrcv
        have hsame : ({ s with rcv := .wait { d with tries := tries } } : DataSys).written
            = s.written := hw.symm
        refine ⟨?_, ?_, ?_, ?_⟩
        all_goals rw [hsame]
        · exact h.mark_le
        · exact h.flying
        · exact h.acks_ok
        · exact h.written_lt
      · cases hs
  | quit st =>
      cases hs
      exact ⟨fun d hd => absurd hd (SendPhase.returned_ne st d), h.flying, h.acks_ok, h.written_lt⟩
  | stray =>
      cases hs
      refine ⟨h.mark_le, h.flying, fun p hp => ?_, h.written_lt⟩
      rcases List.mem_append.mp hp with hp | hp
      · exact h.acks_ok p hp
      · exact ⟨0, Nat.zero_le _, Or.inl (List.mem_singleton.mp hp)⟩

theorem gapless_init (hc : c.Ok) (flow : Flow) (e : Bytes) :
    Gapless c (DataSys.init c flow e) := by
  have hsize := hc.size_lt
  have hstart := hc.resume_lt
  have hbegin : (dataLoop c.sndCfg c.io (initData c.io flow)).Backed c.io.resumeOff :=
    dataLoop_backed c.sndCfg c.io (Nat.le_refl _)
  have hsent := hbegin.step hc
  exact ⟨hsent.mark_le, hsent.flying, fun p hp => absurd hp List.not_mem_nil,
    show c.io.resumeOff < 2 ^ 64 by omega⟩

/-- **In every run nothing is ahead of the receiver.** -/
theorem gapless_embedded (hc : c.Ok) (flow : Flow) {e : Bytes}
    (h : Lts.Reach (DataSys.embeddedStep c) (EmbeddedLabel.Lift DataSys.NoWrap)
      (DataSys.init c flow e) s) : Gapless c s :=
  h.invariant (gapless_init hc flow e) fun _ _ _ hi hadm hs => gapless_embeddedStep hc hi hadm hs

end Runs

end ValProtocol
