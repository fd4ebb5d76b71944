/-
  ValProtocol.Session.Capabilities
  ────────────────────────────────
  What HELLO promises and the rest of a session keeps, over every run of two
  sessions with loss and arbitrary delays: the packet size every frame fits,
  and the window the sender fills.

    • `SendState.Capable`, `RecvState.Capable` — the invariant of each side,
      kept by every step; every packet sent fits the negotiated size,
    • `mtu_agreement`      — both sides work with the smaller packet size, and
      no frame in flight is too long for its reader,
    • `window_advertised`  — the negotiated window is the advertised one
      exactly when this side configured its window or the peer takes one
      packet at a time; then the sender stays inside it,
    • `window_unadvertised` — a window left at its default exceeds it.
-/
import ValProtocol.Session.Walk

namespace ValProtocol

/-! ## §1. The window HELLO promises. -/

/-- `tx_max_window_packets` of this side's HELLO. -/
def Config.advertisedTx (cfg : Config) : Nat :=
  (fillLocalHello cfg cfg.packetSize).txMaxWindowPackets

/-- `rx_max_window_packets` of this side's HELLO. -/
def Config.advertisedRx (cfg : Config) : Nat :=
  (fillLocalHello cfg cfg.packetSize).rxMaxWindowPackets

/-- The rule of the specification: the smaller of what `own` offers to send
and what `peer` offers to take, 0 read as 1. -/
def promisedWindow (own peer : Config) : Nat :=
  min own.advertisedTx (if peer.advertisedRx ≠ 0 then peer.advertisedRx else 1)

/-- What `val__adopt_peer_hello` stores in `negotiated_window_packets`. -/
def adoptedWindow (own peer : Config) : Nat :=
  (initialFlow own (fillLocalHello peer peer.packetSize) freshFlow).negotiatedWindow

/-- Neither the size in HELLO nor the window before it matters. -/
theorem initialFlow_negotiated (own peer : Config) (size : Nat) (flow : Flow) :
    (initialFlow own (fillLocalHello peer size) flow).negotiatedWindow
      = adoptedWindow own peer := rfl

/-- An accepted cap is offered as it stands, and as 1 when it is unset. -/
theorem advertised_eq {cfg : Config} (h : cfg.Accepted) :
    cfg.advertisedTx = max 1 cfg.txFlow.windowCapPackets
      ∧ cfg.advertisedRx = max 1 cfg.txFlow.windowCapPackets := by
  have hlt := h.windowCap_lt
  have hmax : (if cfg.txFlow.windowCapPackets ≠ 0 then cfg.txFlow.windowCapPackets else 1)
      = max 1 cfg.txFlow.windowCapPackets := by
    split <;> omega
  simp only [Config.advertisedTx, Config.advertisedRx, fillLocalHello, hmax]
  rw [if_neg (by omega)]
  exact ⟨rfl, rfl⟩

theorem adoptedWindow_eq (own : Config) {peer : Config} (hpeer : peer.Accepted) :
    adoptedWindow own peer
      = min (if own.txFlow.windowCapPackets ≠ 0 then own.txFlow.windowCapPackets else 4)
          (max 1 peer.txFlow.windowCapPackets) := by
  have hrx : (fillLocalHello peer peer.packetSize).rxMaxWindowPackets
      = max 1 peer.txFlow.windowCapPackets := (advertised_eq hpeer).2
  simp only [adoptedWindow, initialFlow, hrx]
  have hlocal : 1 ≤ (if own.txFlow.windowCapPackets ≠ 0 then own.txFlow.windowCapPackets
      else 4) := by
    split <;> omega
  generalize (if own.txFlow.windowCapPackets ≠ 0 then own.txFlow.windowCapPackets else 4)
    = localDesired at hlocal ⊢
  rw [if_pos (show max 1 peer.txFlow.windowCapPackets ≠ 0 by omega)]
  have hmin : (if localDesired < max 1 peer.txFlow.windowCapPackets then localDesired
      else max 1 peer.txFlow.windowCapPackets)
      = min localDesired (max 1 peer.txFlow.windowCapPackets) := by
    split <;> omega
  rw [hmin, if_neg (by omega)]

/-- The two functions disagree about a window left at 0: 4 packets here, 1 in
HELLO. -/
theorem adoptedWindow_eq_iff {own peer : Config} (hown : own.Accepted) (hpeer : peer.Accepted) :
    adoptedWindow own peer = promisedWindow own peer
      ↔ own.txFlow.windowCapPackets ≠ 0 ∨ peer.txFlow.windowCapPackets ≤ 1 := by
  rw [adoptedWindow_eq own hpeer, promisedWindow, (advertised_eq hown).1,
    (advertised_eq hpeer).2]
  rw [if_pos (show max 1 peer.txFlow.windowCapPackets ≠ 0 by omega)]
  by_cases hzero : own.txFlow.windowCapPackets = 0
  · rw [if_neg (not_not.mpr hzero)]
    omega
  · rw [if_pos hzero]
    omega

/-! ## §2. The congestion window inside the cap. -/

/-- The cap is as negotiated, and the window respects it. -/
structure Flow.Capped (cap : Nat) (fl : Flow) : Prop where
  cap_eq : fl.negotiatedWindow = cap
  bounded : fl.Bounded

namespace Flow.Capped

variable {cap : Nat} {fl : Flow}

theorem recordError (h : fl.Capped cap) (cfg : TxFlowConfig) :
    (recordTransmissionError cfg fl).Capped cap :=
  ⟨by rw [recordTransmissionError_negotiated, h.cap_eq], h.bounded.recordError cfg⟩

theorem recordSuccess (h : fl.Capped cap) (cfg : TxFlowConfig) :
    (recordTransmissionSuccess cfg fl).Capped cap :=
  ⟨by rw [recordTransmissionSuccess_negotiated, h.cap_eq], h.bounded.recordSuccess cfg⟩

theorem retransmit (h : fl.Capped cap) (b : Bool) :
    ({ fl with inRetransmit := b } : Flow).Capped cap :=
  ⟨h.cap_eq, h.bounded.cap_lt, h.bounded.window_pos, h.bounded.window_le⟩

theorem window_le (h : fl.Capped cap) : fl.window ≤ cap := by
  rw [h.bounded.window_eq, ← h.cap_eq]
  exact h.bounded.window_le

end Flow.Capped

/-- The data phase stays inside the cap: `inflight` counts at most `win`
packets, and these cover what is not acknowledged. -/
structure SendData.Capped (cap : Nat) (io : SendFile) (d : SendData) : Prop where
  flow_ok : d.flow.Capped cap
  win_le : d.win ≤ cap
  inflight_le : d.inflight ≤ d.win
  span_le : d.nextToSend - d.lastAcked ≤ d.inflight * io.maxPayload

/-- Where a move starts from. -/
def Move.Capped (cap : Nat) (io : SendFile) : Move → Prop
  | .stay d | .fill d => d.Capped cap io
  | .finish flow => flow.Capped cap
  | .stop _ => True

/-- Where a move ends. -/
def DataResult.Capped (cap : Nat) (io : SendFile) : DataResult → Prop
  | .wait d => d.Capped cap io
  | .complete flow => flow.Capped cap
  | .fail _ => True

section DataPhase

variable {cap : Nat} {io : SendFile} {d : SendData}

theorem SendData.Capped.sent (h : d.Capped cap io) {n : Nat} (hlt : d.inflight < d.win)
    (hn : n ≤ io.maxPayload) : (d.sent n).Capped cap io := by
  have hspan := h.span_le
  refine ⟨h.flow_ok, h.win_le, hlt, ?_⟩
  show d.nextToSend + n - d.lastAcked ≤ (d.inflight + 1) * io.maxPayload
  rw [Nat.add_mul, Nat.one_mul]
  omega

/-- The fill loop keeps `inflight` below `win` by its own guard. -/
theorem fillLoop_capped (fuel : Nat) (h : d.Capped cap io) :
    (fillLoop io fuel d).1.Capped cap io := by
  induction fuel generalizing d with
  | zero => exact h
  | succ fuel ih =>
      rw [fillLoop_succ]
      split
      · rename_i hguard
        split
        · exact h
        · rename_i d' sent hp
          rcases sendDataPacket_cases hp with ⟨rfl, -⟩ | ⟨n, -, -, hmax, -, rfl, -⟩
          · exact ih h
          · exact ih (h.sent hguard.1 (by omega))
      · exact h

theorem Move.Capped.run {m : Move} (h : m.Capped cap io) : (m.run io).2.Capped cap io := by
  cases m with
  | stay d => exact h
  | fill d =>
      rcases fillAndWait_cases io d with ⟨st, hst⟩ | hw
      · rw [Move.run, hst]
        trivial
      · have hd : d.Capped cap io := h
        have hfill := fillLoop_capped d.win hd
        rw [Move.run, hw]
        exact ⟨hd.flow_ok.retransmit false, hfill.win_le, hfill.inflight_le, hfill.span_le⟩
  | finish flow => exact h
  | stop st => trivial

theorem dataLoop_capped (cfg : Config) (h : d.Capped cap io) :
    (dataLoop cfg io d).Capped cap io := by
  unfold dataLoop
  split
  · exact ⟨h.flow_ok, h.win_le, h.inflight_le, h.span_le⟩
  · exact h.flow_ok

theorem initData_capped {flow : Flow} (h : flow.Capped cap) :
    (initData io flow).Capped cap io := by
  have hpos := h.bounded.window_pos
  refine ⟨h, ?_, Nat.zero_le _, ?_⟩
  · show (if flow.currentWindow ≠ 0 then flow.currentWindow else _) ≤ cap
    rw [if_pos (by omega), ← h.cap_eq]
    exact h.bounded.window_le
  · show io.resumeOff - io.resumeOff ≤ _
    omega

/-- A rewind starts an empty window. -/
theorem rewind_capped (cfg : Config) (h : d.Capped cap io) (seek : Int) :
    (rewind cfg d seek).Capped cap io := by
  have hflow := (h.flow_ok.recordError cfg.txFlow).retransmit true
  refine ⟨hflow, hflow.window_le, Nat.zero_le _, ?_⟩
  show d.lastAcked - d.lastAcked ≤ _
  omega

/-- A partial acknowledgement leaves no more packets than before. -/
theorem advance_capped (cfg : Config) (h : d.Capped cap io) {off : Nat}
    (hoff : d.lastAcked < off) (hmax : 0 < io.maxPayload) (hcap : cap < 2 ^ 16) :
    (advance cfg io d off).Capped cap io := by
  have hspan := h.span_le
  have hin := h.inflight_le
  have hwin := h.win_le
  have hflow : (if d.flow.inRetransmit then d.flow
      else recordTransmissionSuccess cfg.txFlow d.flow).Capped cap := by
    split
    · exact h.flow_ok
    · exact h.flow_ok.recordSuccess cfg.txFlow
  -- the bytes left are fewer, so they need no more packets
  have hleft : (if d.nextToSend > off then d.nextToSend - off else 0)
      ≤ d.inflight * io.maxPayload := by
    split <;> omega
  have hceil : ((if d.nextToSend > off then d.nextToSend - off else 0) + io.maxPayload - 1)
      / io.maxPayload ≤ d.inflight := by
    rw [Nat.div_le_iff_le_mul_add_pred hmax, Nat.mul_comm]
    omega
  have hmod : ((if d.nextToSend > off then d.nextToSend - off else 0) + io.maxPayload - 1)
      / io.maxPayload % 2 ^ 32
      = ((if d.nextToSend > off then d.nextToSend - off else 0) + io.maxPayload - 1)
      / io.maxPayload := Nat.mod_eq_of_lt (by omega)
  refine ⟨hflow.retransmit false, hwin, ?_, ?_⟩
  · show _ / io.maxPayload % 2 ^ 32 ≤ d.win
    rw [hmod]
    omega
  · show d.nextToSend - off ≤ _ / io.maxPayload % 2 ^ 32 * io.maxPayload
    rw [hmod]
    have hdiv := Nat.div_add_mod ((if d.nextToSend > off then d.nextToSend - off else 0)
      + io.maxPayload - 1) io.maxPayload
    have hrem := Nat.mod_lt ((if d.nextToSend > off then d.nextToSend - off else 0)
      + io.maxPayload - 1) hmax
    rw [Nat.mul_comm] at hdiv
    have hout : d.nextToSend - off = (if d.nextToSend > off then d.nextToSend - off else 0) := by
      split <;> omega
    omega

theorem onDataAck_capped (cfg : Config) (h : d.Capped cap io) (off : Nat)
    (hmax : 0 < io.maxPayload) (hcap : cap < 2 ^ 16) :
    (onDataAck cfg io d off).Capped cap io := by
  unfold onDataAck
  split
  · exact ⟨h.flow_ok, h.win_le, h.inflight_le, h.span_le⟩
  · have hadv := advance_capped cfg h (show d.lastAcked < off by omega) hmax hcap
    dsimp only
    split
    · exact hadv
    · exact dataLoop_capped cfg hadv

theorem onDataNak_capped (cfg : Config) (h : d.Capped cap io) (off : Nat) :
    (onDataNak cfg io d off).Capped cap io := by
  have hspan := h.span_le
  have hd : ({ d with
      lastAcked := if off > d.lastAcked ∧ off ≤ io.size then off else d.lastAcked } :
        SendData).Capped cap io := by
    refine ⟨h.flow_ok, h.win_le, h.inflight_le, ?_⟩
    show d.nextToSend - (if _ then off else d.lastAcked) ≤ d.inflight * io.maxPayload
    split <;> omega
  exact rewind_capped cfg hd _

theorem onAckFrame_capped (cfg : Config) (h : d.Capped cap io) (f : Frame)
    (hmax : 0 < io.maxPayload) (hcap : cap < 2 ^ 16) :
    (onAckFrame cfg io d f).Capped cap io := by
  unfold onAckFrame
  split
  · trivial
  · split
    · trivial
    · exact onDataNak_capped cfg h _
    · exact onDataAck_capped cfg h _ hmax hcap
    · trivial
    · exact h

theorem onAckTimeout_capped (cfg : Config) (h : d.Capped cap io) :
    (onAckTimeout cfg d).Capped cap io := by
  unfold onAckTimeout
  split
  · trivial
  · have hr := rewind_capped cfg h (toSigned 64 d.lastAcked)
    exact ⟨hr.flow_ok, hr.win_le, hr.inflight_le, hr.span_le⟩

/-- DATA packets of a move fit the packet size. -/
theorem Move.run_fits (m : Move) :
    ∀ p ∈ (m.run io).1, p.type = .data ∧ p.staged.length ≤ io.maxPayload := by
  intro p hp
  cases m with
  | stay d => exact absurd hp List.not_mem_nil
  | fill d =>
      rw [Move.run, fillAndWait_sends] at hp
      refine (fillLoop_rule (I := fun _ => True)
        (S := fun p => p.type = .data ∧ p.staged.length ≤ io.maxPayload) ?_ d.win d trivial).2 p hp
      intro d' n _ _ _ hmax hlen
      refine ⟨trivial, rfl, ?_⟩
      show (stageContent .data _ _ _).length ≤ io.maxPayload
      cases hb : (d'.nextToSend == d'.lastAcked) with
      | true =>
          rw [hb, if_pos rfl] at hmax
          simp only [stageContent, if_true, List.length_append, LittleEndian.putLe_length, hlen]
          omega
      | false =>
          simp only [stageContent, Bool.false_eq_true, if_false, hlen]
          omega
  | finish flow => exact absurd hp List.not_mem_nil
  | stop st => exact absurd hp List.not_mem_nil

end DataPhase

/-! ## §3. The sender. -/

/-- A packet of a side whose HELLO is `hello`: it fits the packet size. -/
structure Send.Measured (p hello : Send) (mtu : Nat) : Prop where
  named : p.type.isNamed = true
  hello_eq : p.type = .hello → p = hello
  fits : p.staged.length ≤ mtu - wireHeaderSize - wireTrailerSize

/-- Staging adds at most an offset or the words of a NAK. -/
theorem Send.staged_length_le (p : Send) : p.staged.length ≤ p.payload.length + 12 := by
  show (stageContent _ _ _ _).length ≤ _
  unfold stageContent
  split
  · split
    · simp only [List.length_append, LittleEndian.putLe_length]
      omega
    · omega
  · split
    · simp only [LittleEndian.putLe_length]
      omega
    · simp
  · split
    · simp only [LittleEndian.putLe_length]
      omega
    · simp
  · split
    · simp only [LittleEndian.putLe_length]
      omega
    · simp
  · simp only [List.length_append, LittleEndian.putLe_length]
    omega
  · omega

/-- A packet that fits every packet size. -/
structure Send.Small (p : Send) : Prop where
  named : p.type.isNamed = true
  not_hello : p.type ≠ .hello
  staged_le : p.staged.length ≤ 400

theorem Send.Small.of_payload {p : Send} (hnamed : p.type.isNamed = true)
    (htype : p.type ≠ .hello) (hlen : p.payload.length ≤ 300) : p.Small := by
  have hst := p.staged_length_le
  exact ⟨hnamed, htype, by omega⟩

/-- Acknowledgements are small whatever their payload. -/
theorem Send.Small.of_ack {p : Send} (h : p.isAck = true) : p.Small := by
  have hst := Send.staged_ack_length h
  refine ⟨?_, fun ht => ?_, by omega⟩
  · unfold Send.isAck at h
    split at h
    all_goals first
      | (rename_i ht; rw [ht]; rfl)
      | cases h
  · simp [Send.isAck, ht] at h

theorem Send.Small.bare {t : PacketType} (hnamed : t.isNamed = true) (ht : t ≠ .hello)
    (off : Nat) : (sendBare t off).Small :=
  .of_payload hnamed ht (Nat.zero_le _)

theorem Send.Small.resumeResp {resp : Bytes} (h : resp.length = wireResumeRespSize) :
    (sendResumeResp resp).Small := by
  refine .of_payload rfl nofun ?_
  show resp.length ≤ 300
  rw [h]
  decide

theorem Send.Small.error (st : Status) (detail : Nat) : (sendError st detail).Small := by
  refine .of_payload rfl nofun ?_
  show (serializeErrorPayload st detail).length ≤ 300
  simp [serializeErrorPayload]

theorem Send.Small.verifyResult (st : Status) (crc : Nat) : (sendVerifyResult st crc).Small := by
  refine .of_payload rfl nofun ?_
  show (serializeVerifyResponse st crc).length ≤ 300
  rw [serializeVerifyResponse_length]
  decide

theorem Send.Small.measured {hello : Send} {mtu : Nat} {p : Send} (h : p.Small)
    (hmtu : minPacketSize ≤ mtu) : p.Measured hello mtu := by
  have hst := h.staged_le
  simp only [minPacketSize] at hmtu
  refine ⟨h.named, fun ht => absurd ht h.not_hello, ?_⟩
  simp only [wireHeaderSize, wireTrailerSize]
  omega

theorem Send.Measured.of_hello {cfg : Config} {size mtu : Nat} (hmtu : minPacketSize ≤ mtu) :
    (sendHello cfg size).Measured (sendHello cfg size) mtu := by
  have hst := (sendHello cfg size).staged_length_le
  have hlen : (sendHello cfg size).payload.length = wireHandshakeSize :=
    serializeHandshake_length _
  simp only [minPacketSize] at hmtu
  simp only [wireHandshakeSize] at hlen
  refine ⟨rfl, fun _ => rfl, ?_⟩
  simp only [wireHeaderSize, wireTrailerSize]
  omega

/-- **The sender's side of what was negotiated**: nothing but the handshake
happens before it, the packet size and the cap stand behind it. -/
structure SendState.Capable (env : SendEnv) (cap mtu : Nat) (s : SendState) : Prop where
  early : s.handshakeDone = false →
    s.mtu = env.cfg.packetSize ∧ (s.pc.exchange = none ∨ s.pc.exchange = some .hello)
  mtu_eq : s.handshakeDone = true → s.mtu = mtu
  flow_ok : s.handshakeDone = true → s.flow.Capped cap
  window_ok : ∀ io d, s.pc = .ackWait io d → io.mtu = mtu ∧ d.Capped cap io
  verify_ok : ∀ content n endOff payload, s.pc = .verifyWait content n endOff payload →
    payload.length = wireVerifyReqPayloadSize

/-- Where a step of the sender may end. -/
def SendState.Lands (env : SendEnv) (cap mtu : Nat) (r : List Send × SendState) : Prop :=
  r.2.Capable env cap mtu
    ∧ ∀ p ∈ r.1, p.Measured (sendHello env.cfg env.cfg.packetSize) mtu

section Sender

variable {env : SendEnv} {cap mtu : Nat} {s : SendState}

namespace SendState

/-- Inside a file or an EOT exchange the handshake is done. -/
theorem Capable.done (h : s.Capable env cap mtu) {k : ExchangeKind}
    (hk : s.pc.exchange = some k) (hne : k ≠ .hello) : s.handshakeDone = true := by
  by_contra hfalse
  rcases (h.early (by simpa using hfalse)).2 with hex | hex
  · rw [hk] at hex
    cases hex
  · rw [hk] at hex
    cases hex
    exact hne rfl

/-- A wait outside the data phase and the VERIFY wait. -/
theorem Capable.goes {s' : SendState} (h : s.Capable env cap mtu)
    (hdone : s'.handshakeDone = s.handshakeDone) (hmtu : s'.mtu = s.mtu)
    (hflow : s.handshakeDone = true → s'.flow.Capped cap)
    (hpc : s'.pc.exchange = none ∨ s'.pc.exchange = some .hello ∨ s.handshakeDone = true)
    (hwin : ∀ io d, s'.pc ≠ .ackWait io d)
    (hver : ∀ content n endOff payload, s'.pc ≠ .verifyWait content n endOff payload) :
    s'.Capable env cap mtu where
  early := by
    intro hd
    rw [hdone] at hd
    rw [hmtu]
    refine ⟨(h.early hd).1, ?_⟩
    rcases hpc with hp | hp | hp
    · exact Or.inl hp
    · exact Or.inr hp
    · rw [hp] at hd
      cases hd
  mtu_eq := by
    rw [hdone, hmtu]
    exact h.mtu_eq
  flow_ok := by
    rw [hdone]
    exact hflow
  window_ok := fun io d hp => absurd hp (hwin io d)
  verify_ok := fun content n endOff payload hp => absurd hp (hver content n endOff payload)

/-- A call that returns. -/
theorem Capable.ret (h : s.Capable env cap mtu) (st : Status) :
    (s.ret st).Capable env cap mtu :=
  h.goes rfl rfl h.flow_ok (Or.inl rfl) nofun nofun

theorem Lands.stay (h : s.Capable env cap mtu) : Lands env cap mtu ([], s) :=
  ⟨h, fun _ hp => absurd hp List.not_mem_nil⟩

theorem Lands.stop (h : s.Capable env cap mtu) (st : Status) :
    Lands env cap mtu ([], s.ret st) :=
  .stay (h.ret st)

/-- One small packet, then a wait. -/
theorem Lands.one {s' : SendState} {p : Send} (h : s'.Capable env cap mtu)
    (hmtu : minPacketSize ≤ mtu) (hp : p.Small) : Lands env cap mtu ([p], s') := by
  refine ⟨h, fun q hq => ?_⟩
  rw [List.mem_singleton.mp hq]
  exact hp.measured hmtu

/-- At the head of the loop over the files. -/
theorem Lands.begin (h : s.Capable env cap mtu) (hdone : s.handshakeDone = true)
    (hmtu : minPacketSize ≤ mtu) : Lands env cap mtu (s.beginFile env) := by
  unfold SendState.beginFile
  split
  · exact .one (h.goes rfl rfl h.flow_ok (Or.inr (Or.inr hdone)) nofun nofun) hmtu (.bare rfl (by nofun) _)
  · rename_i f hf
    split
    · exact .stop h _
    · rename_i content hread
      refine ⟨h.goes rfl rfl h.flow_ok (Or.inr (Or.inr hdone)) nofun nofun, fun p hp => ?_⟩
      rcases List.mem_cons.mp hp with rfl | hp
      · refine (Send.Small.of_payload rfl (by nofun) ?_).measured hmtu
        show (serializeMeta (f.announced env.senderPath)).length ≤ 300
        rw [serializeMeta_length (SourceFile.announced_fits hread env.senderPath)]
        decide
      · rw [List.mem_singleton.mp hp]
        exact (Send.Small.bare rfl (by nofun) _).measured hmtu

/-- Behind a round of the data phase. -/
theorem Lands.data {io : SendFile} {m : Move} (h : s.Capable env cap mtu)
    (hdone : s.handshakeDone = true) (hmtu : minPacketSize ≤ mtu) (hio : io.mtu = mtu)
    (hm : m.Capped cap io) : Lands env cap mtu (s.onDataResult env io (m.run io)) := by
  have hend := hm.run
  have hsends : ∀ p ∈ (m.run io).1,
      p.Measured (sendHello env.cfg env.cfg.packetSize) mtu := by
    intro p hp
    obtain ⟨hdata, hfits⟩ := m.run_fits p hp
    refine ⟨by rw [hdata]; rfl, fun hh => ?_, ?_⟩
    · rw [hdata] at hh
      cases hh
    · rw [← hio]
      exact hfits
  unfold SendState.onDataResult
  split
  · rename_i d hd
    rw [hd] at hend
    refine ⟨⟨fun hd => ?_, h.mtu_eq, h.flow_ok, ?_, nofun⟩, hsends⟩
    · rw [show s.handshakeDone = false from hd] at hdone
      cases hdone
    · intro io' d' hpc
      cases hpc
      exact ⟨hio, hend⟩
  · rename_i flow hd
    rw [hd] at hend
    refine ⟨h.goes rfl rfl (fun _ => hend) (Or.inr (Or.inr hdone)) nofun nofun, fun p hp => ?_⟩
    rcases List.mem_append.mp hp with hp | hp
    · exact hsends p hp
    · rw [List.mem_singleton.mp hp]
      exact (Send.Small.bare rfl (by nofun) _).measured hmtu
  · exact ⟨h.ret _, hsends⟩

/-- `on_file_start` changes nothing here. -/
theorem Capable.started (h : s.Capable env cap mtu) (size off : Nat) :
    (s.started size off).Capable env cap mtu :=
  ⟨h.early, h.mtu_eq, h.flow_ok, h.window_ok, h.verify_ok⟩

/-- Behind the negotiation of a file. -/
theorem Lands.outcome (h : s.Capable env cap mtu) (hdone : s.handshakeDone = true)
    (hmtu : minPacketSize ≤ mtu) (content : Bytes) {o : ResumeOutcome}
    (ho : ∀ endOff payload, o = .verify endOff payload →
      payload.length = wireVerifyReqPayloadSize) :
    Lands env cap mtu (s.onOutcome env content o) := by
  cases o with
  | start off =>
      show Lands env cap mtu (s.startFile env content off)
      unfold SendState.startFile
      split
      · exact .stop h _
      · dsimp only
        split
        · exact .stop (h.started _ _) _
        · exact .data (h.started _ _) hdone hmtu (h.mtu_eq hdone)
            (dataLoop_capped env.cfg (initData_capped (h.flow_ok hdone)))
  | skip =>
      exact .one (h.goes rfl rfl h.flow_ok (Or.inr (Or.inr hdone)) nofun nofun) hmtu (.bare rfl (by nofun) _)
  | verify endOff payload =>
      have hlen := ho endOff payload rfl
      refine .one ⟨fun hd => ?_, h.mtu_eq, h.flow_ok, nofun, ?_⟩ hmtu (.of_payload rfl (by nofun) ?_)
      · rw [show s.handshakeDone = false from hd] at hdone
        cases hdone
      · intro content' n endOff' payload' hpc
        cases hpc
        exact hlen
      · show payload.length ≤ 300
        rw [hlen]
        decide
  | fail st => exact .stop h st

/-- A VERIFY request has its wire size. -/
theorem onResumeResp_request {m endOff : Nat} {content payload request : Bytes}
    (h : onResumeResp env m content payload = .verify endOff request) :
    request.length = wireVerifyReqPayloadSize := by
  have hsound := onResumeResp_sound env m content payload
  rwa [h] at hsound

theorem onVerifyResult_request {endOff endOff' : Nat} {payload request : Bytes} :
    onVerifyResult endOff payload ≠ .verify endOff' request := by
  unfold onVerifyResult
  split <;> exact nofun

/-- The sender on a frame that is no HELLO it waits for. -/
theorem Capable.onOther {f : Frame} (h : s.Capable env cap mtu) (hmtu : minPacketSize ≤ mtu)
    (hlt : cap < 2 ^ 16)
    (hgreet : ¬ ((∃ n, s.pc = .helloWait n) ∧ PacketType.ofByte f.type = .hello)) :
    Lands env cap mtu (s.onFrame env f) := by
  have hstay : Lands env cap mtu ([], s) := .stay h
  unfold SendState.onFrame
  split
  · exact hstay
  · -- anything else in the handshake
    rename_i n hpc
    unfold SendState.onHelloFrame
    split
    · exact .stop h _
    · rename_i p hp
      split
      · exact .stop h _
      · exact .stop h _
      · rename_i htype
        rw [recvControl_type hp] at htype
        exact absurd ⟨⟨n, hpc⟩, htype⟩ hgreet
      · exact hstay
  · rename_i content n hpc
    have hdone := h.done (k := .file) (by rw [hpc]; rfl) (by decide)
    split
    · exact .stop h _
    · split
      · split
        · exact .stop h _
        · exact .outcome h hdone hmtu content (fun _ _ ho => onResumeResp_request ho)
      · exact hstay
  · rename_i content n endOff payload hpc
    have hdone := h.done (k := .file) (by rw [hpc]; rfl) (by decide)
    split
    · exact .stop h _
    · split
      · split
        · exact .stop h _
        · exact .outcome h hdone hmtu content
            (fun _ _ ho => absurd ho onVerifyResult_request)
      · exact hstay
  · rename_i io d hpc
    have hdone := h.done (k := .file) (by rw [hpc]; rfl) (by decide)
    obtain ⟨hio, hd⟩ := h.window_ok io d hpc
    have hpos : 0 < io.maxPayload := by
      simp only [SendFile.maxPayload, hio, wireHeaderSize, wireTrailerSize]
      simp only [minPacketSize] at hmtu
      omega
    exact .data ⟨h.early, h.mtu_eq, fun _ => hd.flow_ok, h.window_ok, h.verify_ok⟩ hdone hmtu
      hio (onAckFrame_capped env.cfg hd f hpos hlt)
  · rename_i size' n skip hpc
    have hdone := h.done (k := .file) (by rw [hpc]; rfl) (by decide)
    split
    · exact .stop h _
    · split
      · refine .begin ⟨h.early, h.mtu_eq, fun _ => ?_, h.window_ok, h.verify_ok⟩ hdone hmtu
        show Flow.Capped cap (if skip then s.flow
          else recordTransmissionSuccess env.cfg.txFlow s.flow)
        split
        · exact h.flow_ok hdone
        · exact (h.flow_ok hdone).recordSuccess _
      · exact hstay
  · split
    · exact .stop h _
    · split
      · exact .stay (h.goes rfl rfl h.flow_ok (Or.inl rfl) (fun _ _ hp => by cases hp)
          (fun _ _ _ _ hp => by cases hp))
      · exact hstay

/-- **The sender on a frame**; a HELLO it waits for is the peer's. -/
theorem Capable.onFrame {peer : Config} {size : Nat} {f : Frame} (h : s.Capable env cap mtu)
    (hcfg : env.cfg.Accepted) (hpeer : peer.Accepted) (hmin : minPacketSize ≤ size)
    (hmax : size ≤ maxPacketSize) (hcap : adoptedWindow env.cfg peer = cap)
    (hmtu : min size env.cfg.packetSize = mtu)
    (hello : PacketType.ofByte f.type = .hello → f = (sendHello peer size).frame) :
    Lands env cap mtu (s.onFrame env f) := by
  have hown := hcfg.packetSize_min
  have hlegal : minPacketSize ≤ mtu := by omega
  have hlt : cap < 2 ^ 16 := by
    rw [← hcap]
    exact (initialFlow_bounded hcfg _ _).cap_lt
  by_cases hgreet : (∃ n, s.pc = .helloWait n) ∧ PacketType.ofByte f.type = .hello
  · -- the peer's HELLO
    obtain ⟨⟨n, hpc⟩, htype⟩ := hgreet
    have hsize : minPacketSize ≤ s.mtu := by
      by_cases hd : s.handshakeDone = true
      · rw [h.mtu_eq hd]
        exact hlegal
      · rw [(h.early (by simpa using hd)).1]
        exact hown
    rw [hello htype, SendState.onFrame_hello size hpc hsize hcfg hpeer hmin hmax]
    refine .begin ⟨by simp, fun _ => hmtu, fun _ => ⟨?_, ?_⟩, ?_, ?_⟩ rfl hlegal
    · rw [← hcap]
      exact initialFlow_negotiated _ _ _ _
    · exact initialFlow_bounded hcfg _ _
    · intro io d hp
      rw [show s.pc = _ from hp] at hpc
      cases hpc
    · intro content n' endOff payload hp
      rw [show s.pc = _ from hp] at hpc
      cases hpc
  exact h.onOther hlegal hlt hgreet

/-- **The sender on a timeout.** -/
theorem Capable.onTimeout (h : s.Capable env cap mtu) (hmtu : minPacketSize ≤ mtu)
    (timer : HelloTimer) : Lands env cap mtu (s.onTimeout env timer) := by
  unfold SendState.onTimeout
  split
  · exact .stay h
  · split
    · exact .stop h _
    · split
      · exact .stay h
      · refine ⟨h.goes rfl rfl h.flow_ok (Or.inr (Or.inl rfl)) nofun nofun, fun p hp => ?_⟩
        rw [List.mem_singleton.mp hp]
        exact .of_hello hmtu
    · exact .stay h
  · rename_i content n hpc
    have hdone := h.done (k := .file) (by rw [hpc]; rfl) nofun
    split
    · exact .stop h _
    · exact .one (h.goes rfl rfl h.flow_ok (Or.inr (Or.inr hdone)) nofun nofun) hmtu (.bare rfl (by nofun) _)
  · rename_i content n endOff payload hpc
    have hdone := h.done (k := .file) (by rw [hpc]; rfl) nofun
    have hlen := h.verify_ok content n endOff payload hpc
    split
    · exact .stop h _
    · -- VERIFY is repeated with the payload it had
      refine .one ⟨fun hd => ?_, h.mtu_eq, h.flow_ok, nofun, ?_⟩ hmtu (.of_payload rfl (by nofun) ?_)
      · rw [show s.handshakeDone = false from hd] at hdone
        cases hdone
      · intro content' n' endOff' payload' hp
        cases hp
        exact hlen
      · show payload.length ≤ 300
        rw [hlen]
        decide
  · rename_i io d hpc
    have hdone := h.done (k := .file) (by rw [hpc]; rfl) nofun
    obtain ⟨hio, hd⟩ := h.window_ok io d hpc
    exact .data ⟨h.early, h.mtu_eq, fun _ => hd.flow_ok, h.window_ok, h.verify_ok⟩ hdone hmtu
      hio (onAckTimeout_capped env.cfg hd)
  · rename_i size n skip hpc
    have hdone := h.done (k := .file) (by rw [hpc]; rfl) nofun
    split
    · exact .stop h _
    · exact .one (h.goes rfl rfl (fun hd => (h.flow_ok hd).recordError _) (Or.inr (Or.inr hdone))
        nofun nofun) hmtu (.bare rfl (by nofun) _)
  · rename_i n hpc
    have hdone := h.done (k := .eot) (by rw [hpc]; rfl) nofun
    split
    · exact .stop h _
    · exact .one (h.goes rfl rfl h.flow_ok (Or.inr (Or.inr hdone)) nofun nofun) hmtu (.bare rfl (by nofun) _)

/-- `val_send_files` is called between two calls. -/
theorem Capable.call (h : s.Capable env cap mtu) (hmtu : minPacketSize ≤ mtu)
    (batch : List SourceFile) :
    Lands env cap mtu (s.call env batch) := by
  have hs : ({ s with batch := batch, idx := 0 } : SendState).Capable env cap mtu :=
    ⟨h.early, h.mtu_eq, h.flow_ok, h.window_ok, h.verify_ok⟩
  unfold SendState.call
  dsimp only
  split
  · exact .stop hs _
  · split
    · rename_i hdone
      exact .begin hs hdone hmtu
    · refine ⟨hs.goes rfl rfl h.flow_ok (Or.inr (Or.inl rfl)) nofun nofun, fun p hp => ?_⟩
      rw [List.mem_singleton.mp hp]
      exact .of_hello hmtu

end SendState

end Sender

/-! ## §4. The receiver. -/

/-- **The receiver's side of what was negotiated.** -/
structure RecvState.Capable (env : RecvEnv) (cap mtu : Nat) (s : RecvState) : Prop where
  early : s.handshakeDone = false →
    s.mtu = env.cfg.packetSize ∧ (s.pc.phase = .none ∨ s.pc.phase = .hello)
  mtu_eq : s.handshakeDone = true → s.mtu = mtu
  flow_ok : s.handshakeDone = true → s.flow.Capped cap
  resp_ok : ∀ f n resp off, s.pc = .verifyWait f n resp off → resp.length = wireResumeRespSize

/-- Where a step of the receiver may end. -/
def RecvState.Lands (env : RecvEnv) (cap mtu : Nat) (r : List Send × RecvState) : Prop :=
  r.2.Capable env cap mtu ∧ ∀ p ∈ r.1, p.Measured (sendHello env.cfg mtu) mtu

section Receiver

variable {env : RecvEnv} {cap mtu : Nat} {s : RecvState}

namespace RecvState

/-- What a step leaves alone behind the handshake. -/
structure SameCaps (s s' : RecvState) : Prop where
  done_eq : s'.handshakeDone = s.handshakeDone
  mtu_eq : s'.mtu = s.mtu
  flow_eq : s'.flow = s.flow

theorem Capable.done (h : s.Capable env cap mtu) {k : RecvPhase} (hk : s.pc.phase = k)
    (hnone : k ≠ .none) (hhello : k ≠ .hello) : s.handshakeDone = true := by
  by_contra hfalse
  rcases (h.early (by simpa using hfalse)).2 with hp | hp
  · exact hnone (hk ▸ hp)
  · exact hhello (hk ▸ hp)

/-- Any wait but the one for VERIFY. -/
theorem Capable.goes {s' : RecvState} (h : s.Capable env cap mtu) (same : s.SameCaps s')
    (hpc : s'.pc.phase = .none ∨ s'.pc.phase = .hello ∨ s.handshakeDone = true)
    (hver : ∀ f n resp off, s'.pc ≠ .verifyWait f n resp off) : s'.Capable env cap mtu where
  early := by
    intro hd
    rw [same.done_eq] at hd
    rw [same.mtu_eq]
    refine ⟨(h.early hd).1, ?_⟩
    rcases hpc with hp | hp | hp
    · exact Or.inl hp
    · exact Or.inr hp
    · rw [hp] at hd
      cases hd
  mtu_eq := by
    rw [same.done_eq, same.mtu_eq]
    exact h.mtu_eq
  flow_ok := by
    rw [same.done_eq, same.flow_eq]
    exact h.flow_ok
  resp_ok := fun f n resp off hp => absurd hp (hver f n resp off)

theorem Lands.stay (h : s.Capable env cap mtu) : Lands env cap mtu ([], s) :=
  ⟨h, fun _ hp => absurd hp List.not_mem_nil⟩

/-- A call that returns. -/
theorem Lands.stop {s₁ : RecvState} (h : s.Capable env cap mtu) (same : s.SameCaps s₁)
    (st : Status) : Lands env cap mtu ([], s₁.ret st) :=
  .stay (h.goes ⟨same.done_eq, same.mtu_eq, same.flow_eq⟩ (Or.inl rfl) nofun)

/-- Small packets, then a wait. -/
theorem Lands.small {s' : RecvState} {sends : List Send} (h : s'.Capable env cap mtu)
    (hmtu : minPacketSize ≤ mtu)
    (hsends : ∀ p ∈ sends, p.Small) :
    Lands env cap mtu (sends, s') :=
  ⟨h, fun p hp => (hsends p hp).measured hmtu⟩

/-- From the `fopen` on. -/
theorem Capable.openTarget {s₁ : RecvState} (h : s.Capable env cap mtu)
    (hdone : s.handshakeDone = true) (same : s.SameCaps s₁) (f : RecvFile) (off : Nat)
    (skipping : Bool) (fs : FsOutcome) :
    (s₁.openTarget env f off skipping fs).Capable env cap mtu := by
  have hsame : ∀ {s' : RecvState}, s₁.SameCaps s' → s.SameCaps s' := fun h' =>
    ⟨h'.done_eq.trans same.done_eq, h'.mtu_eq.trans same.mtu_eq, h'.flow_eq.trans same.flow_eq⟩
  unfold RecvState.openTarget
  split
  · exact h.goes (hsame ⟨rfl, rfl, rfl⟩) (Or.inr (Or.inr hdone)) nofun
  · split
    · exact h.goes (hsame ⟨rfl, rfl, rfl⟩) (Or.inl rfl) nofun
    · exact h.goes (hsame ⟨rfl, rfl, rfl⟩) (Or.inr (Or.inr hdone)) nofun

theorem validate_small (env : RecvEnv) (s : RecvState) (f : RecvFile) (b : Bool) :
    ∀ p ∈ (s.validate env f b).1, p.Small := by
  have hnil : ∀ p ∈ ([] : List Send), p.Small :=
    fun p hp => absurd hp List.not_mem_nil
  unfold RecvState.validate
  split
  · exact hnil
  · split
    · intro p hp
      rw [List.mem_singleton.mp hp]
      exact .error _ _
    · intro p hp
      dsimp only at hp
      split at hp
      · rw [List.mem_singleton.mp hp]
        exact (.bare rfl (by nofun) _)
      · exact hnil p hp
    · exact hnil

/-- The start offset is settled behind a small packet. -/
theorem Lands.settle {q : Send} (h : s.Capable env cap mtu) (hdone : s.handshakeDone = true)
    (hmtu : minPacketSize ≤ mtu) (hq : q.Small) (f : RecvFile)
    (off : Nat) (skipping ackSkip : Bool) (fs : FsOutcome) :
    Lands env cap mtu
      (q :: (s.settle env f off skipping ackSkip fs).1,
        (s.settle env f off skipping ackSkip fs).2) := by
  have same : s.SameCaps (s.started f off) := ⟨rfl, rfl, rfl⟩
  have hcons : ∀ {l : List Send}, (∀ p ∈ l, p.Small) →
      ∀ p ∈ q :: l, p.Small := by
    intro l hl p hp
    rcases List.mem_cons.mp hp with rfl | hp
    · exact hq
    · exact hl p hp
  -- what the validator's verdict makes the receiver send is small as well
  have hsends := validate_small env (s.started f off) f ackSkip
  unfold RecvState.settle
  dsimp only
  split
  · split
    · rename_i hv
      rw [hv] at hsends
      exact .small (h.goes ⟨rfl, rfl, rfl⟩ (Or.inl rfl) nofun) hmtu (hcons hsends)
    · rename_i hv
      rw [hv] at hsends
      have same' : s.SameCaps (if ackSkip then (s.started f off).started f f.size
          else s.started f off) := by
        cases ackSkip <;> exact ⟨rfl, rfl, rfl⟩
      dsimp only
      exact .small (h.openTarget hdone same' f _ _ fs) hmtu (hcons hsends)
    · rename_i hv
      rw [hv] at hsends
      dsimp only
      exact .small (h.openTarget hdone same f _ _ fs) hmtu (hcons hsends)
  · exact .small (h.openTarget hdone same f _ _ fs) hmtu
      (hcons (fun p hp => absurd hp List.not_mem_nil))

theorem Lands.answerResume (h : s.Capable env cap mtu) (hdone : s.handshakeDone = true)
    (hmtu : minPacketSize ≤ mtu) (f : RecvFile) (fs : FsOutcome) :
    Lands env cap mtu (s.answerResume env f fs) := by
  have hresp : (sendResumeResp (s.decision env f).wire).Small :=
    .resumeResp (serializeResumeResp_length _)
  unfold RecvState.answerResume
  dsimp only
  split
  · exact .settle h hdone hmtu hresp f _ _ _ fs
  · exact .settle h hdone hmtu hresp f _ _ _ fs
  · exact .settle h hdone hmtu hresp f _ _ _ fs
  · refine .small ⟨fun hd => ?_, h.mtu_eq, h.flow_ok, ?_⟩ hmtu ?_
    · rw [show s.handshakeDone = false from hd] at hdone
      cases hdone
    · intro f' n resp off hpc
      cases hpc
      exact serializeResumeResp_length _
    · intro p hp
      rw [List.mem_singleton.mp hp]
      exact hresp
  · refine .small (h.goes ⟨rfl, rfl, rfl⟩ (Or.inl rfl) nofun) hmtu ?_
    intro p hp
    rcases List.mem_cons.mp hp with rfl | hp
    · exact hresp
    · rw [List.mem_singleton.mp hp]
      exact .error _ _

theorem Lands.legacyStart (h : s.Capable env cap mtu) (hdone : s.handshakeDone = true)
    (hmtu : minPacketSize ≤ mtu) (f : RecvFile) (fs : FsOutcome) :
    Lands env cap mtu (s.legacyStart env f fs) :=
  .settle h hdone hmtu (.bare rfl (by nofun) _) f _ _ _ fs

theorem Lands.answerVerify (h : s.Capable env cap mtu) (hdone : s.handshakeDone = true)
    (hmtu : minPacketSize ≤ mtu) (f : RecvFile) (off : Nat) (payload : Bytes) (fs : FsOutcome) :
    Lands env cap mtu (s.answerVerify env f off payload fs) := by
  unfold RecvState.answerVerify
  split
  · refine .small (h.goes ⟨rfl, rfl, rfl⟩ (Or.inl rfl) nofun) hmtu ?_
    intro p hp
    rw [List.mem_singleton.mp hp]
    exact .verifyResult _ _
  · dsimp only
    split
    all_goals exact .settle h hdone hmtu (.verifyResult _ _) f _ _ _ fs

/-- A round of the data loop sends acknowledgements. -/
theorem onDataFrame_small (cfg : Config) (m : Nat) (d : RecvData) (fr : Frame)
    (short : Option Nat) :
    ∀ p ∈ (onDataFrame cfg m d fr short).1, p.Small := by
  have hnil : ∀ p ∈ ([] : List Send), p.Small :=
    fun p hp => absurd hp List.not_mem_nil
  unfold onDataFrame
  dsimp only
  split
  · exact hnil
  · split
    · intro p hp
      rcases (onData_reply _ _ _).1 p hp with ht | ht
      all_goals exact .of_ack (by simp [Send.isAck, ht])
    · intro p hp
      rw [List.mem_singleton.mp hp]
      exact (.bare rfl (by simp) _)
    · exact hnil
    · exact hnil
    · exact hnil
    · exact hnil

/-- Behind a round of the data loop. -/
theorem Lands.round {f : RecvFile} {r : List Send × RecvResult} (h : s.Capable env cap mtu)
    (hdone : s.handshakeDone = true) (hmtu : minPacketSize ≤ mtu)
    (hsends : ∀ p ∈ r.1, p.Small) :
    Lands env cap mtu (s.onRecvResult env f r) := by
  unfold RecvState.onRecvResult
  split
  · exact .small (h.goes ⟨rfl, rfl, rfl⟩ (Or.inr (Or.inr hdone)) nofun) hmtu hsends
  · exact .small (h.goes ⟨rfl, rfl, rfl⟩ (Or.inr (Or.inr hdone)) nofun) hmtu hsends
  · exact .small (h.goes ⟨rfl, rfl, rfl⟩ (Or.inl rfl) nofun) hmtu hsends

/-- **The receiver on a frame**; a HELLO it waits for is the peer's. -/
theorem Capable.onFrame {peer : Config} {fr : Frame} (h : s.Capable env cap mtu)
    (hcfg : env.cfg.Accepted) (hpeer : peer.Accepted)
    (hcap : adoptedWindow env.cfg peer = cap)
    (hmtu : min peer.packetSize env.cfg.packetSize = mtu)
    (hello : PacketType.ofByte fr.type = .hello → fr = (sendHello peer peer.packetSize).frame)
    (fs : FsOutcome) : Lands env cap mtu (s.onFrame env fr fs) := by
  have hown := hcfg.packetSize_min
  have hsize := hpeer.packetSize_min
  have hlegal : minPacketSize ≤ mtu := by omega
  have hstay : Lands env cap mtu ([], s) := .stay h
  have hstop : ∀ st, Lands env cap mtu ([], s.ret st) := .stop h ⟨rfl, rfl, rfl⟩
  by_cases hgreet : s.pc = .helloWait ∧ PacketType.ofByte fr.type = .hello
  · -- the peer's HELLO
    obtain ⟨hpc, htype⟩ := hgreet
    have hread : minPacketSize ≤ s.mtu := by
      by_cases hd : s.handshakeDone = true
      · rw [h.mtu_eq hd]
        exact hlegal
      · rw [(h.early (by simpa using hd)).1]
        exact hown
    rw [hello htype, RecvState.onFrame_hello hpc hread hcfg hpeer fs, hmtu]
    refine ⟨⟨nofun, fun _ => rfl, fun _ => ⟨?_, ?_⟩, nofun⟩, fun p hp => ?_⟩
    · rw [← hcap]
      exact initialFlow_negotiated _ _ _ _
    · exact initialFlow_bounded hcfg _ _
    · rw [List.mem_singleton.mp hp]
      exact .of_hello hlegal
  unfold RecvState.onFrame
  split
  · exact hstay
  · -- anything else in the handshake
    rename_i hpc
    unfold RecvState.onHelloFrame
    split
    · exact hstop _
    · rename_i p hp
      split
      · exact hstop _
      · exact hstop _
      · rename_i htype
        rw [recvControl_type hp] at htype
        exact absurd ⟨hpc, htype⟩ hgreet
      · exact hstay
  · rename_i n hpc
    have hdone := h.done (k := .header) (by rw [hpc]; rfl) nofun nofun
    unfold RecvState.onMetaFrame
    split
    · exact hstop _
    · split
      · refine .small (h.goes ⟨rfl, rfl, rfl⟩ (Or.inl rfl) nofun) hlegal ?_
        intro p hp
        rw [List.mem_singleton.mp hp]
        exact .bare rfl (by nofun) _
      · exact hstop _
      · split
        · exact hstop _
        · refine .stay (h.goes ⟨rfl, rfl, rfl⟩ (Or.inr (Or.inr hdone)) ?_)
          intro f m resp off
          unfold RecvState.acceptMeta
          dsimp only
          split <;> exact nofun
      · exact hstop _
  · rename_i f hpc
    have hdone := h.done (k := .file f) (by rw [hpc]; rfl) nofun nofun
    split
    · split
      · exact .answerResume h hdone hlegal f fs
      · exact .legacyStart h hdone hlegal f fs
    · split
      · exact hstop _
      · exact .legacyStart h hdone hlegal f fs
  · rename_i f n hpc
    have hdone := h.done (k := .file f) (by rw [hpc]; rfl) nofun nofun
    split
    · exact hstop _
    · split
      · exact .answerResume h hdone hlegal f fs
      · exact hstop _
      · exact hstop _
      · exact hstay
  · rename_i f n resp off hpc
    have hdone := h.done (k := .file f) (by rw [hpc]; rfl) nofun nofun
    split
    · exact hstop _
    · split
      · refine .small h hlegal ?_
        intro p hp
        rw [List.mem_singleton.mp hp]
        exact .resumeResp (h.resp_ok f n resp off hpc)
      · exact .answerVerify h hdone hlegal f off _ fs
      · exact hstay
  · rename_i f d hpc
    have hdone := h.done (k := .file f) (by rw [hpc]; rfl) nofun nofun
    exact .round h hdone hlegal (onDataFrame_small _ _ _ _ _)
  · rename_i f n hpc
    have hdone := h.done (k := .file f) (by rw [hpc]; rfl) nofun nofun
    split
    · exact hstop _
    · split
      · refine .small (h.goes ⟨rfl, rfl, rfl⟩ (Or.inr (Or.inr hdone)) nofun) hlegal ?_
        intro p hp
        rw [List.mem_singleton.mp hp]
        exact .bare rfl (by nofun) _
      · refine .small (h.goes ⟨rfl, rfl, rfl⟩ (Or.inl rfl) nofun) hlegal ?_
        intro p hp
        rw [List.mem_singleton.mp hp]
        exact .bare rfl (by nofun) _
      · exact hstop _
      · exact .stay (h.goes ⟨rfl, rfl, rfl⟩ (Or.inr (Or.inr hdone)) nofun)

/-- **The receiver on a timeout.** -/
theorem Capable.onTimeout (h : s.Capable env cap mtu) (hmtu : minPacketSize ≤ mtu)
    (timer : HelloTimer) (fs : FsOutcome) : Lands env cap mtu (s.onTimeout env timer fs) := by
  have hstop : ∀ st, Lands env cap mtu ([], s.ret st) := .stop h ⟨rfl, rfl, rfl⟩
  -- one try less
  have hretry : ∀ {s' : RecvState}, s.SameCaps s' → s.handshakeDone = true →
      (∀ f n resp off, s'.pc ≠ .verifyWait f n resp off) → Lands env cap mtu ([], s') :=
    fun same hdone hver => .stay (h.goes same (Or.inr (Or.inr hdone)) hver)
  unfold RecvState.onTimeout
  split
  · exact .stay h
  · split
    · exact hstop _
    · exact .stay h
  · rename_i n hpc
    have hdone := h.done (k := .header) (by rw [hpc]; rfl) nofun nofun
    split
    · exact hstop _
    · exact hretry ⟨rfl, rfl, rfl⟩ hdone nofun
  · rename_i f hpc
    have hdone := h.done (k := .file f) (by rw [hpc]; rfl) nofun nofun
    exact .legacyStart h hdone hmtu f fs
  · rename_i f n hpc
    have hdone := h.done (k := .file f) (by rw [hpc]; rfl) nofun nofun
    split
    · exact hstop _
    · exact hretry ⟨rfl, rfl, rfl⟩ hdone nofun
  · rename_i f n resp off hpc
    have hdone := h.done (k := .file f) (by rw [hpc]; rfl) nofun nofun
    split
    · exact hstop _
    · refine .stay ⟨fun hd => ?_, h.mtu_eq, h.flow_ok, ?_⟩
      · rw [show s.handshakeDone = false from hd] at hdone
        cases hdone
      · intro f' n' resp' off' hp
        cases hp
        exact h.resp_ok _ _ _ _ hpc
  · rename_i f d hpc
    have hdone := h.done (k := .file f) (by rw [hpc]; rfl) nofun nofun
    refine .round h hdone hmtu ?_
    unfold onDataTimeout
    split <;> exact fun p hp => absurd hp List.not_mem_nil
  · rename_i f n hpc
    have hdone := h.done (k := .file f) (by rw [hpc]; rfl) nofun nofun
    split
    · exact hstop _
    · exact hretry ⟨rfl, rfl, rfl⟩ hdone nofun

/-- `val_receive_files` is called. -/
theorem Capable.call (h : s.Capable env cap mtu) (dir : Bytes) :
    (s.call env dir).Capable env cap mtu := by
  unfold RecvState.call
  dsimp only
  split
  · rename_i hdone
    exact h.goes ⟨rfl, rfl, rfl⟩ (Or.inr (Or.inr hdone)) nofun
  · exact h.goes ⟨rfl, rfl, rfl⟩ (Or.inr (Or.inl rfl)) nofun

end RecvState

end Receiver

/-! ## §5. Both sides, in every run. -/

/-- **The invariant of the two sessions**: each side keeps what was
negotiated, and every packet in flight was measured. -/
structure Capable (c : SessionParams) (s : SessionSys) : Prop where
  snd_ok : s.snd.Capable c.snd (adoptedWindow c.snd.cfg c.rcv.cfg) c.mtu
  rcv_ok : s.rcv.Capable c.rcv (adoptedWindow c.rcv.cfg c.snd.cfg) c.mtu
  toRcv_ok : ∀ it ∈ s.toRcv, it.send.Measured (sendHello c.snd.cfg c.snd.cfg.packetSize) c.mtu
  toSnd_ok : ∀ it ∈ s.toSnd, it.send.Measured (sendHello c.rcv.cfg c.mtu) c.mtu

/-- A HELLO frame is the HELLO of its side. -/
theorem Send.Measured.hello_frame {p hello : Send} {mtu : Nat} (h : p.Measured hello mtu)
    (htype : PacketType.ofByte p.frame.type = .hello) : p.frame = hello.frame := by
  rw [Send.frame_type h.named] at htype
  rw [h.hello_eq htype]

section Joint

variable {c : SessionParams} {s s' : SessionSys}

theorem Capable.sent (h : Capable c s) {r : List Send × SendState} {up : List Item}
    {calls : List (List SourceFile)}
    (hr : SendState.Lands c.snd (adoptedWindow c.snd.cfg c.rcv.cfg) c.mtu r)
    (hup : ∀ it ∈ up, it ∈ s.toSnd) :
    Capable c ({ s with toSnd := up, sndCalls := calls }.sent r) := by
  refine ⟨hr.1, h.rcv_ok, fun it hit => ?_, fun it hit => h.toSnd_ok it (hup it hit)⟩
  rcases List.mem_append.mp hit with hit | hit
  · exact h.toRcv_ok it hit
  · obtain ⟨p, hp, rfl⟩ := List.mem_map.mp hit
    exact hr.2 p hp

theorem Capable.answered (h : Capable c s) {r : List Send × RecvState} {down : List Item}
    (hr : RecvState.Lands c.rcv (adoptedWindow c.rcv.cfg c.snd.cfg) c.mtu r)
    (hdown : ∀ it ∈ down, it ∈ s.toRcv) :
    Capable c ({ s with toRcv := down }.answered r) := by
  refine ⟨h.snd_ok, hr.1, fun it hit => h.toRcv_ok it (hdown it hit), fun it hit => ?_⟩
  rcases List.mem_append.mp hit with hit | hit
  · exact h.toSnd_ok it hit
  · obtain ⟨p, hp, rfl⟩ := List.mem_map.mp hit
    exact hr.2 p hp

/-- **Every step keeps what was negotiated.** -/
theorem capable_step (hs : c.snd.cfg.Accepted) (hr : c.rcv.cfg.Accepted) {l : SessionLabel}
    (h : Capable c s) (hstep : s.step c l = some s') : Capable c s' := by
  have hmin := SessionParams.mtu_min hs hr
  have hmax := c.mtu_max hs
  cases SessionSys.step_inv hstep with
  | @sndCall batch rest hcalls hidle =>
      exact @Capable.sent c s h _ s.toSnd rest (h.snd_ok.call hmin batch) (fun _ hit => hit)
  | rcvCall hcalls hidle => exact ⟨h.snd_ok, h.rcv_ok.call _, h.toRcv_ok, h.toSnd_ok⟩
  | @sndRecv it rest hchan hbusy =>
      have hit : it ∈ s.toSnd := by
        rw [hchan]
        exact List.mem_cons_self
      refine h.sent (h.snd_ok.onFrame hs hr hmin hmax rfl ?_ (h.toSnd_ok it hit).hello_frame) ?_
      · unfold SessionParams.mtu
        omega
      · intro it' hit'
        rw [hchan]
        exact List.mem_cons_of_mem _ hit'
  | sndTimeout hbusy =>
      exact @Capable.sent c s h _ s.toSnd s.sndCalls (h.snd_ok.onTimeout hmin _)
        (fun _ hit => hit)
  | @rcvRecv it rest fs hchan hbusy =>
      have hit : it ∈ s.toRcv := by
        rw [hchan]
        exact List.mem_cons_self
      refine h.answered (h.rcv_ok.onFrame hr hs rfl rfl (h.toRcv_ok it hit).hello_frame fs) ?_
      intro it' hit'
      rw [hchan]
      exact List.mem_cons_of_mem _ hit'
  | rcvTimeout hbusy =>
      exact @Capable.answered c s h _ s.toRcv (h.rcv_ok.onTimeout hmin _ _) (fun _ hit => hit)
  | lose hl hrcv hsnd =>
      exact ⟨h.snd_ok, h.rcv_ok, fun it hit => h.toRcv_ok it (hrcv.subset hit),
        fun it hit => h.toSnd_ok it (hsnd.subset hit)⟩

theorem capable_init (c : SessionParams) (files : Bytes → Option Bytes)
    (sndCalls : List (List SourceFile)) (rcvCalls : List Bytes) :
    Capable c (SessionSys.init c files sndCalls rcvCalls) where
  snd_ok := ⟨fun _ => ⟨rfl, Or.inl rfl⟩, nofun, nofun, nofun, nofun⟩
  rcv_ok := ⟨fun _ => ⟨rfl, Or.inl rfl⟩, nofun, nofun, nofun⟩
  toRcv_ok := fun _ hit => absurd hit List.not_mem_nil
  toSnd_ok := fun _ hit => absurd hit List.not_mem_nil

/-- In every run, whatever is lost or late. -/
theorem capable_run (hs : c.snd.cfg.Accepted) (hr : c.rcv.cfg.Accepted)
    {files : Bytes → Option Bytes} {sndCalls : List (List SourceFile)} {rcvCalls : List Bytes}
    (h : Lts.Reach (SessionSys.step c) (fun _ _ => True)
      (SessionSys.init c files sndCalls rcvCalls) s) : Capable c s :=
  h.invariant (capable_init c files sndCalls rcvCalls)
    (fun _ _ _ hI _ hstep => capable_step hs hr hI hstep)

end Joint

/-! ## §6. Two uneven sessions. -/

/-- `negotiated_window_packets` and `current_window_packets`, which the data
phase works on while it runs. -/
def SendState.liveFlow (s : SendState) : Flow :=
  match s.pc with
  | .ackWait _ d => d.flow
  | _ => s.flow

/-- The DATA packets the sender counts as unacknowledged. -/
def SendState.outstanding (s : SendState) : Nat :=
  match s.pc with
  | .ackWait _ d => d.inflight
  | _ => 0

/-- The bytes sent and not acknowledged, in packets of full size. -/
def SendState.spans (s : SendState) (n : Nat) : Prop :=
  match s.pc with
  | .ackWait io d => d.nextToSend - d.lastAcked ≤ n * io.maxPayload
  | _ => True

/-- Packets of 1024 bytes and a window left at its default on the sender's
side, packets of 512 bytes and four of them on the receiver's. -/
def unevenPair : SessionParams where
  snd :=
    { cfg := { quickDegrade with packetSize := 1024, txFlow := ⟨0, 0, 1, 0⟩ }, provider := none,
      senderPath := none }
  rcv :=
    { cfg := { quickDegrade with txFlow := ⟨4, 0, 1, 0⟩ }, provider := none, pathSep := 47,
      validator := none }

theorem unevenPair_snd : unevenPair.snd.cfg.Accepted :=
  { quickDegrade_accepted with
    packetSize_min := by decide, packetSize_max := by decide, windowCap_lt := by decide,
    initialCwnd_lt := by decide }

theorem unevenPair_rcv : unevenPair.rcv.cfg.Accepted :=
  { quickDegrade_accepted with
    windowCap_lt := by decide, initialCwnd_lt := by decide }

/-- A file of 992 bytes. -/
def unevenBatch : List SourceFile := [⟨[97], some (List.replicate 992 7)⟩]

/-- The receiver starts late and takes the repeated HELLO, the first one being
lost; then the sender's first window. -/
def unevenRun : List SessionLabel :=
  [.sndCall, .sndTimeout .resend, .loseToRcv 0, .rcvCall, .rcvRecv .good, .sndRecv,
    .rcvRecv .good, .rcvRecv .good, .sndRecv]

/-- Handshakes, packet sizes, windows, packets outstanding, lengths in flight. -/
def SessionSys.capabilities (s : SessionSys) :
    (Bool × Bool) × (Nat × Nat) × (Nat × Nat) × Nat × List Nat :=
  ((s.snd.handshakeDone, s.rcv.handshakeDone), (s.snd.mtu, s.rcv.mtu),
    (s.snd.liveFlow.negotiatedWindow, s.rcv.flow.negotiatedWindow), s.snd.outstanding,
    s.toRcv.map (fun it => it.send.frame.content.length))

theorem unevenRun_reach :
    ∃ s : SessionSys, Lts.Reach (SessionSys.step unevenPair) (fun _ _ => True)
        (SessionSys.init unevenPair (fun _ => none) [unevenBatch] [[]]) s
      ∧ s.capabilities = ((true, true), (512, 512), (4, 1), 2, [500, 500]) := by
  obtain ⟨s, hreach, hview⟩ := Lts.Reach.exists_of_foldlM (SessionSys.step unevenPair)
    (fun _ _ => true) (SessionSys.init unevenPair (fun _ => none) [unevenBatch] [[]])
    SessionSys.capabilities unevenRun
    (show _ = some ((true, true), (512, 512), (4, 1), 2, [500, 500]) by decide +kernel)
  exact ⟨s, hreach.mono (fun _ _ _ => trivial), hview⟩

/-! ## §7. The packet size. -/

/-- What the encoder emits is at most what it staged. -/
theorem Send.Measured.content_le {p hello : Send} {mtu : Nat} (h : p.Measured hello mtu) :
    p.frame.content.length ≤ mtu - wireHeaderSize - wireTrailerSize := by
  have hcut : p.frame.content.length = p.staged.length % 2 ^ 16 := cutContent_length _
  have hmod := Nat.mod_le p.staged.length (2 ^ 16)
  have hfits := h.fits
  omega

/-- Before its handshake a side still reads frames of its own packet size. -/
theorem Capable.snd_mtu {c : SessionParams} {s : SessionSys} (h : Capable c s) :
    c.mtu ≤ s.snd.mtu := by
  by_cases hd : s.snd.handshakeDone = true
  · rw [h.snd_ok.mtu_eq hd]
  · rw [(h.snd_ok.early (by simpa using hd)).1]
    exact Nat.min_le_left _ _

theorem Capable.rcv_mtu {c : SessionParams} {s : SessionSys} (h : Capable c s) :
    c.mtu ≤ s.rcv.mtu := by
  by_cases hd : s.rcv.handshakeDone = true
  · rw [h.rcv_ok.mtu_eq hd]
  · rw [(h.rcv_ok.early (by simpa using hd)).1]
    exact Nat.min_le_right _ _

/-- **MTU agreement**: in every run of the two sessions, both sides work with
the smaller packet size once their handshakes are done; and every frame in
flight leaves room for header and trailer in it, so that the length check of
its reader passes. -/
theorem mtu_agreement {c : SessionParams} (hs : c.snd.cfg.Accepted) (hr : c.rcv.cfg.Accepted)
    {files : Bytes → Option Bytes} {sndCalls : List (List SourceFile)} {rcvCalls : List Bytes}
    {s : SessionSys}
    (h : Lts.Reach (SessionSys.step c) (fun _ _ => True)
      (SessionSys.init c files sndCalls rcvCalls) s) :
    (s.snd.handshakeDone = true → s.snd.mtu = min c.snd.cfg.packetSize c.rcv.cfg.packetSize)
    ∧ (s.rcv.handshakeDone = true → s.rcv.mtu = min c.snd.cfg.packetSize c.rcv.cfg.packetSize)
    ∧ (∀ it ∈ s.toRcv ++ s.toSnd, it.send.frame.content.length
        ≤ min c.snd.cfg.packetSize c.rcv.cfg.packetSize - wireHeaderSize - wireTrailerSize)
    ∧ (∀ it ∈ s.toRcv, ¬ it.send.frame.content.length
        > s.rcv.mtu - wireHeaderSize - wireTrailerSize)
    ∧ ∀ it ∈ s.toSnd, ¬ it.send.frame.content.length
        > s.snd.mtu - wireHeaderSize - wireTrailerSize := by
  have hcap := capable_run hs hr h
  have hmin : c.mtu = min c.snd.cfg.packetSize c.rcv.cfg.packetSize := rfl
  have hsnd := hcap.snd_mtu
  have hrcv := hcap.rcv_mtu
  refine ⟨hcap.snd_ok.mtu_eq, hcap.rcv_ok.mtu_eq, ?_, ?_, ?_⟩
  · intro it hit
    rcases List.mem_append.mp hit with hit | hit
    · exact (hcap.toRcv_ok it hit).content_le
    · exact (hcap.toSnd_ok it hit).content_le
  · intro it hit
    have := (hcap.toRcv_ok it hit).content_le
    omega
  · intro it hit
    have := (hcap.toSnd_ok it hit).content_le
    omega

theorem mtu_agreement_uneven :
    ∃ s : SessionSys, s.capabilities = ((true, true), (512, 512), (4, 1), 2, [500, 500])
      ∧ s.snd.mtu = min unevenPair.snd.cfg.packetSize unevenPair.rcv.cfg.packetSize
      ∧ s.rcv.mtu = min unevenPair.snd.cfg.packetSize unevenPair.rcv.cfg.packetSize
      ∧ ∀ it ∈ s.toRcv ++ s.toSnd, it.send.frame.content.length
        ≤ min unevenPair.snd.cfg.packetSize unevenPair.rcv.cfg.packetSize - wireHeaderSize
          - wireTrailerSize := by
  obtain ⟨s, hreach, hview⟩ := unevenRun_reach
  obtain ⟨hsnd, hrcv, hfits, -⟩ := mtu_agreement unevenPair_snd unevenPair_rcv hreach
  have hdone : (s.snd.handshakeDone, s.rcv.handshakeDone) = (true, true) :=
    congrArg Prod.fst hview
  exact ⟨s, hview, hsnd (congrArg Prod.fst hdone), hrcv (congrArg Prod.snd hdone), hfits⟩

/-! ## §8. The window. -/

/-- The window of a side follows what the two HELLOs said. -/
structure Flow.Follows (own peer : Config) (fl : Flow) : Prop where
  negotiated_eq : fl.negotiatedWindow = promisedWindow own peer
  current_pos : 1 ≤ fl.currentWindow
  current_le : fl.currentWindow ≤ fl.negotiatedWindow

theorem Flow.Capped.follows_iff {own peer : Config} {fl : Flow}
    (h : fl.Capped (adoptedWindow own peer)) (hown : own.Accepted) (hpeer : peer.Accepted) :
    fl.Follows own peer
      ↔ own.txFlow.windowCapPackets ≠ 0 ∨ peer.txFlow.windowCapPackets ≤ 1 := by
  rw [← adoptedWindow_eq_iff hown hpeer]
  constructor
  · intro hf
    rw [← h.cap_eq, hf.negotiated_eq]
  · intro heq
    exact ⟨h.cap_eq.trans heq, h.bounded.window_pos, h.bounded.window_le⟩

/-- HELLO says what its side advertises. -/
theorem hello_advertises {cfg : Config} (h : cfg.Accepted) {size : Nat}
    (hsize : size ≤ maxPacketSize) :
    (deserializeHandshake (sendHello cfg size).payload).txMaxWindowPackets = cfg.advertisedTx
    ∧ (deserializeHandshake (sendHello cfg size).payload).rxMaxWindowPackets
      = cfg.advertisedRx := by
  show (deserializeHandshake (serializeHandshake (fillLocalHello cfg size))).txMaxWindowPackets = _
    ∧ (deserializeHandshake (serializeHandshake (fillLocalHello cfg size))).rxMaxWindowPackets = _
  rw [deserialize_serializeHandshake (fillLocalHello_fits h hsize)]
  exact ⟨rfl, rfl⟩

/-- The sender's flow state, wherever it lives. -/
theorem SendState.Capable.liveFlow_ok {env : SendEnv} {cap mtu : Nat} {s : SendState}
    (h : s.Capable env cap mtu) (hdone : s.handshakeDone = true) : s.liveFlow.Capped cap := by
  unfold SendState.liveFlow
  split
  · rename_i io d hpc
    exact (h.window_ok io d hpc).2.flow_ok
  · exact h.flow_ok hdone

/-- The sender stays inside the cap. -/
theorem SendState.Capable.outstanding_le {env : SendEnv} {cap mtu : Nat} {s : SendState}
    (h : s.Capable env cap mtu) : s.outstanding ≤ cap ∧ s.spans cap := by
  unfold SendState.outstanding SendState.spans
  split
  · rename_i io d hpc
    obtain ⟨-, hd⟩ := h.window_ok io d hpc
    have hin := hd.inflight_le
    have hwin := hd.win_le
    have hle : d.inflight * io.maxPayload ≤ cap * io.maxPayload :=
      Nat.mul_le_mul_right _ (by omega)
    exact ⟨by omega, Nat.le_trans hd.span_le hle⟩
  · exact ⟨Nat.zero_le _, trivial⟩

/-- **The window HELLO advertises**: in every run of the two sessions every
HELLO carries its side's advertisement; behind its handshake a side follows
the two advertisements exactly when it has a window of its own configured or
the peer takes one packet at a time; and then the sender has no more DATA
packets outstanding than it advertised. -/
theorem window_advertised {c : SessionParams} (hs : c.snd.cfg.Accepted)
    (hr : c.rcv.cfg.Accepted) {files : Bytes → Option Bytes}
    {sndCalls : List (List SourceFile)} {rcvCalls : List Bytes} {s : SessionSys}
    (h : Lts.Reach (SessionSys.step c) (fun _ _ => True)
      (SessionSys.init c files sndCalls rcvCalls) s) :
    (∀ it ∈ s.toRcv, it.send.type = .hello →
      (deserializeHandshake it.send.payload).txMaxWindowPackets = c.snd.cfg.advertisedTx
      ∧ (deserializeHandshake it.send.payload).rxMaxWindowPackets = c.snd.cfg.advertisedRx)
    ∧ (∀ it ∈ s.toSnd, it.send.type = .hello →
      (deserializeHandshake it.send.payload).txMaxWindowPackets = c.rcv.cfg.advertisedTx
      ∧ (deserializeHandshake it.send.payload).rxMaxWindowPackets = c.rcv.cfg.advertisedRx)
    ∧ (s.snd.handshakeDone = true → (s.snd.liveFlow.Follows c.snd.cfg c.rcv.cfg
      ↔ c.snd.cfg.txFlow.windowCapPackets ≠ 0 ∨ c.rcv.cfg.txFlow.windowCapPackets ≤ 1))
    ∧ (s.rcv.handshakeDone = true → (s.rcv.flow.Follows c.rcv.cfg c.snd.cfg
      ↔ c.rcv.cfg.txFlow.windowCapPackets ≠ 0 ∨ c.snd.cfg.txFlow.windowCapPackets ≤ 1))
    ∧ (c.snd.cfg.txFlow.windowCapPackets ≠ 0 ∨ c.rcv.cfg.txFlow.windowCapPackets ≤ 1 →
      s.snd.outstanding ≤ c.snd.cfg.advertisedTx ∧ s.snd.spans c.snd.cfg.advertisedTx) := by
  have hcap := capable_run hs hr h
  have hmax := c.mtu_max hs
  refine ⟨?_, ?_, ?_, ?_, ?_⟩
  · intro it hit htype
    rw [(hcap.toRcv_ok it hit).hello_eq htype]
    exact hello_advertises hs hs.packetSize_max
  · intro it hit htype
    rw [(hcap.toSnd_ok it hit).hello_eq htype]
    exact hello_advertises hr hmax
  · intro hdone
    exact (hcap.snd_ok.liveFlow_ok hdone).follows_iff hs hr
  · intro hdone
    exact (hcap.rcv_ok.flow_ok hdone).follows_iff hr hs
  · intro hcond
    obtain ⟨hout, hspan⟩ := hcap.snd_ok.outstanding_le
    have hadv : adoptedWindow c.snd.cfg c.rcv.cfg ≤ c.snd.cfg.advertisedTx := by
      rw [(adoptedWindow_eq_iff hs hr).mpr hcond]
      exact Nat.min_le_left _ _
    refine ⟨Nat.le_trans hout hadv, ?_⟩
    unfold SendState.spans at hspan ⊢
    split
    · rename_i io d hpc
      rw [hpc] at hspan
      exact Nat.le_trans hspan (Nat.mul_le_mul_right _ hadv)
    · trivial

theorem window_advertised_uneven :
    ∃ s : SessionSys, s.capabilities = ((true, true), (512, 512), (4, 1), 2, [500, 500])
      ∧ ¬ s.snd.liveFlow.Follows unevenPair.snd.cfg unevenPair.rcv.cfg
      ∧ s.rcv.flow.Follows unevenPair.rcv.cfg unevenPair.snd.cfg := by
  obtain ⟨s, hreach, hview⟩ := unevenRun_reach
  obtain ⟨-, -, hsnd, hrcv, -⟩ := window_advertised unevenPair_snd unevenPair_rcv hreach
  have hdone : (s.snd.handshakeDone, s.rcv.handshakeDone) = (true, true) :=
    congrArg Prod.fst hview
  refine ⟨s, hview, fun hf => ?_, (hrcv (congrArg Prod.snd hdone)).mpr (Or.inl (by decide))⟩
  exact absurd ((hsnd (congrArg Prod.fst hdone)).mp hf) (by decide)

/-- **A window left at its default is not the advertised one**: the sender
advertises one packet, takes four for its cap and has two outstanding. -/
theorem window_unadvertised :
    ∃ s : SessionSys, Lts.Reach (SessionSys.step unevenPair) (fun _ _ => True)
        (SessionSys.init unevenPair (fun _ => none) [unevenBatch] [[]]) s
      ∧ s.snd.handshakeDone = true
      ∧ unevenPair.snd.cfg.advertisedTx = 1
      ∧ promisedWindow unevenPair.snd.cfg unevenPair.rcv.cfg = 1
      ∧ s.snd.liveFlow.negotiatedWindow = 4
      ∧ s.snd.outstanding = 2 := by
  obtain ⟨s, hreach, hview⟩ := unevenRun_reach
  have hdone : (s.snd.handshakeDone, s.rcv.handshakeDone) = (true, true) :=
    congrArg Prod.fst hview
  have hwin : (s.snd.liveFlow.negotiatedWindow, s.rcv.flow.negotiatedWindow) = (4, 1) :=
    congrArg (fun v => v.2.2.1) hview
  have hout : s.snd.outstanding = 2 := congrArg (fun v => v.2.2.2.1) hview
  exact ⟨s, hreach, congrArg Prod.fst hdone, rfl, rfl, congrArg Prod.fst hwin, hout⟩

end ValProtocol
