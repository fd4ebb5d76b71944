/-
  ValProtocol.Session.Walk
  ────────────────────────
  Walking through a run without faults, packet by packet.

  What happens next depends only on the two parties and the packets in flight
  (`View`); their stamps play no part.  `Leads` says that such a run gets to a
  view with a given property; its rules are the two deliveries, and each
  transition of the parties is one lemma:

    • `greet` — the handshake, from two fresh sessions to the first
      packets of the batch;
    • `Leads.announce`, `Leads.respond`, `Leads.judge` — SEND_META, then
      the two round trips of the resume negotiation.
-/
import ValProtocol.Data.HighWater
import ValProtocol.Session.Calm
import ValProtocol.Session.Negotiation
import ValProtocol.Session.Turns

namespace ValProtocol

/-! ## §1. Views. -/

/-- The parties, the packets in flight, the calls to come. -/
structure View where
  snd : SendState
  rcv : RecvState
  down : List Send
  up : List Send
  sndCalls : List (List SourceFile)
  rcvCalls : List Bytes

def SessionSys.view (s : SessionSys) : View where
  snd := s.snd
  rcv := s.rcv
  down := s.toRcv.map Item.send
  up := s.toSnd.map Item.send
  sndCalls := s.sndCalls
  rcvCalls := s.rcvCalls

/-- Both calls are running. -/
def View.mid (snd : SendState) (rcv : RecvState) (down up : List Send) : View :=
  ⟨snd, rcv, down, up, [], []⟩

/-- Without faults the view `v` can get to one with `P`. -/
def Leads (c : SessionParams) (v : View) (P : View → Prop) : Prop :=
  ∀ s : SessionSys, s.view = v → ∃ n s', Lts.Steps (Calm c) n s s' ∧ P s'.view

section Leads

variable {c : SessionParams} {v : View} {P Q : View → Prop} {snd snd' : SendState}
  {rcv rcv' : RecvState} {down up out : List Send} {p : Send}

theorem Leads.now (h : P v) : Leads c v P :=
  fun s hs => ⟨0, s, .zero s, hs ▸ h⟩

/-- One step first. -/
theorem Leads.step {v' : View} (h : ∀ s : SessionSys, s.view = v → ∃ s', Calm c s s' ∧ s'.view = v')
    (hnext : Leads c v' P) : Leads c v P := by
  intro s hs
  obtain ⟨s₁, hstep, hv⟩ := h s hs
  obtain ⟨n, s₂, hrun, hP⟩ := hnext s₁ hv
  exact ⟨n + 1, s₂, .succ hstep hrun, hP⟩

theorem map_send_stamped (sends : List Send) (turn : Nat) (file : Option Nat) :
    (sends.map (fun p => (⟨p, turn, file⟩ : Item))).map Item.send = sends := by
  rw [List.map_map]
  exact List.map_id _

/-- What a run without faults gets to is reached. -/
theorem Leads.reach {s : SessionSys} (h : Leads c s.view P) :
    ∃ s', Lts.Reach (SessionSys.step c) (fun _ _ => True) s s' ∧ P s'.view := by
  obtain ⟨n, s', hrun, hP⟩ := h s rfl
  suffices H : ∀ {n : Nat} {a b : SessionSys}, Lts.Steps (Calm c) n a b →
      Lts.Reach (SessionSys.step c) (fun _ _ => True) s a →
      Lts.Reach (SessionSys.step c) (fun _ _ => True) s b from ⟨s', H hrun .refl, hP⟩
  intro n a b hrun
  induction hrun with
  | zero a => exact fun ha => ha
  | succ hcalm _ ih =>
      intro ha
      obtain ⟨l, -, hstep⟩ := hcalm
      exact ih (.tail l ha trivial hstep)

/-- The receiver takes the next packet. -/
theorem Leads.deliver (hbusy : rcv.pc ≠ .idle)
    (hstep : rcv.onFrame c.rcv p.frame .good = (out, rcv'))
    (hnext : Leads c (.mid snd rcv' down (up ++ out)) P) :
    Leads c (.mid snd rcv (p :: down) up) P := by
  refine Leads.step ?_ hnext
  rintro ⟨snd₀, rcv₀, toRcv, toSnd, sndCalls, rcvCalls⟩ hv
  injection hv with h1 h2 h3 h4 h5 h6
  dsimp only at h1 h2 h3 h4 h5 h6
  subst h1 h2 h4 h5 h6
  obtain ⟨it, rest, rfl, rfl, rfl⟩ := List.map_eq_cons_iff.mp h3
  have hcalm := RecvMove.calm (c := c) (s := ⟨snd₀, rcv₀, it :: rest, toSnd, [], []⟩) (.recv hbusy)
  rw [hstep] at hcalm
  refine ⟨_, hcalm, ?_⟩
  simp only [SessionSys.view, View.mid, List.map_append, map_send_stamped]

/-- The sender takes the next packet. -/
theorem Leads.reply (hbusy : snd.pc ≠ .idle)
    (hstep : snd.onFrame c.snd p.frame = (out, snd'))
    (hnext : Leads c (.mid snd' rcv (down ++ out) up) P) :
    Leads c (.mid snd rcv down (p :: up)) P := by
  refine Leads.step ?_ hnext
  rintro ⟨snd₀, rcv₀, toRcv, toSnd, sndCalls, rcvCalls⟩ hv
  injection hv with h1 h2 h3 h4 h5 h6
  dsimp only at h1 h2 h3 h4 h5 h6
  subst h1 h2 h3 h5 h6
  obtain ⟨it, rest, rfl, rfl, rfl⟩ := List.map_eq_cons_iff.mp h4
  have hcalm := SendMove.calm (c := c) (s := ⟨snd₀, rcv₀, toRcv, it :: rest, [], []⟩) (.recv hbusy)
  rw [hstep] at hcalm
  refine ⟨_, hcalm, ?_⟩
  simp only [SessionSys.view, View.mid, List.map_append, map_send_stamped]

end Leads

/-! ## §2. Packets in the waits. -/

section Frames

/-- A packet without content, read without a buffer. -/
theorem recvFrame_bare {t : PacketType} {mtu : Nat} (ht : t.isNamed = true)
    (hraw : (sendBare t 0).staged = []) :
    recvFrame mtu none (sendBare t 0).frame = .ok ⟨t, [], 0, (sendBare t 0).deliveredOffset⟩ := by
  have hlen : (sendBare t 0).staged.length = 0 := by rw [hraw, List.length_nil]
  have h := recvFrame_frame_nobuf (s := sendBare t 0) (P := mtu) ⟨ht, Nat.two_pow_pos 64⟩
    (by rw [hlen]; decide) (by rw [hlen]; exact Nat.zero_le _)
  rw [hlen] at h
  exact h

/-- A control packet in `val_internal_wait_control`. -/
theorem Send.Raw.controlFrame_eq {p : Send} (h : p.Raw) (mtu cap : Nat)
    (hoff : p.offset < 2 ^ 64)
    (hfit : p.payload.length ≤ mtu - wireHeaderSize - wireTrailerSize)
    (hcap : p.payload.length ≤ cap) (hcancel : p.type ≠ .cancel) (herror : p.type ≠ .error) :
    ∃ q, ValProtocol.controlFrame mtu cap p.frame = .ok q ∧ q.type = p.type
      ∧ q.payload = p.payload ∧ q.len = p.payload.length := by
  have hrecv := @recvControl_send p ⟨h.named, hoff⟩ h.not_data mtu cap
    (by rw [h.staged_eq]; exact h.len_lt) (by rw [h.staged_eq]; exact hfit)
    (by rw [h.staged_eq]; exact hcap)
  have hq : ValProtocol.controlFrame mtu cap p.frame = .ok p.packet := by
    unfold ValProtocol.controlFrame
    rw [hrecv]
    dsimp only
    have htype : p.packet.type = p.type := rfl
    rw [htype]
    split
    · rename_i hc
      exact absurd hc hcancel
    · rename_i he
      exact absurd he herror
    · rfl
  exact ⟨_, hq, h.controlFrame hq⟩

end Frames

/-! ## §3. The receiver's transitions. -/

section Receiver

variable {env : RecvEnv} {s : RecvState} {f : RecvFile}

/-- SEND_META in the metadata wait. -/
theorem RecvState.onFrame_meta {tries : Nat} (hpc : s.pc = .metaWait tries)
    (hmtu : minPacketSize ≤ s.mtu) {src : SourceFile} {content : Bytes}
    (hread : src.readable = some content) (senderPath : Option Bytes) (fs : FsOutcome) :
    s.onFrame env (sendMeta senderPath src).frame fs
      = ([], s.acceptMeta env (serializeMeta (src.announced senderPath))) := by
  have hlen : (serializeMeta (src.announced senderPath)).length = wireMetaSize :=
    serializeMeta_length (SourceFile.announced_fits hread senderPath)
  have hstaged : (sendMeta senderPath src).staged.length = wireMetaSize := hlen
  simp only [minPacketSize] at hmtu
  have hwhole : (sendMeta senderPath src).Whole s.mtu := by
    refine ⟨⟨rfl, Nat.two_pow_pos 64⟩, ?_, ?_⟩
    all_goals
      rw [hstaged]
      simp only [wireMetaSize, wireHeaderSize, wireTrailerSize]
      omega
  have hrecv := recvFrame_whole hwhole (by omega) (Nat.le_refl s.mtu)
  have hlt : ¬ (serializeMeta (src.announced senderPath)).length < wireMetaSize := by omega
  unfold RecvState.onFrame
  rw [hpc]
  show s.onMetaFrame env _ = _
  unfold RecvState.onMetaFrame
  rw [hrecv]
  exact if_neg hlt

/-- What the receiver makes of it: the name it computes is the sender's. -/
theorem RecvState.incomingFile_announced {src : SourceFile} {content : Bytes}
    (hread : src.readable = some content) (senderPath : Option Bytes) :
    s.incomingFile env (serializeMeta (src.announced senderPath))
      = ⟨src.announced senderPath, src.name,
          joinPath env.pathSep 512 s.outputDirectory src.name⟩ := by
  have hname : cleanFilename (maxFilename + 1) (serializeMeta (src.announced senderPath))
      = src.name := by
    show cleanFilename (maxFilename + 1) (nulField maxFilename src.name ++ _) = _
    exact cleanFilename_field (cleanFilename_clean _) _
  unfold RecvState.incomingFile
  rw [deserialize_serializeMeta (SourceFile.announced_fits hread senderPath)]
  dsimp only
  rw [hname]

/-- RESUME_REQ before the decision. -/
theorem RecvState.onFrame_resumeReq (hstage : s.pc.stage = .undecided f) (fs : FsOutcome) :
    s.onFrame env (sendBare .resumeReq 0).frame fs = s.answerResume env f fs := by
  have hrecv : recvFrame s.mtu none (sendBare .resumeReq 0).frame = .ok ⟨.resumeReq, [], 0, 0⟩ :=
    recvFrame_bare rfl rfl
  unfold RecvState.onFrame
  cases hpc : s.pc with
  | neverPeek g =>
      rw [hpc] at hstage
      obtain rfl : g = f := by injection hstage
      dsimp only
      rw [hrecv]
      exact if_pos rfl
  | resumeReqWait g tries =>
      rw [hpc] at hstage
      obtain rfl : g = f := by injection hstage
      dsimp only
      rw [hrecv]
  | idle | helloWait | metaWait _ | verifyWait _ _ _ _ | dataWait _ _ | skipWait _ _ =>
      rw [hpc] at hstage
      cases hstage

/-- VERIFY behind the receiver's own question. -/
theorem RecvState.onFrame_verify {tries off : Nat} {resp : Bytes}
    (hpc : s.pc = .verifyWait f tries resp off) (hmtu : minPacketSize ≤ s.mtu)
    {payload : Bytes} (hlen : payload.length = wireVerifyReqPayloadSize) (fs : FsOutcome) :
    s.onFrame env (sendVerify payload).frame fs = s.answerVerify env f off payload fs := by
  simp only [minPacketSize] at hmtu
  have hraw : (sendVerify payload).Raw := sendVerify_raw (by rw [hlen]; decide)
  obtain ⟨q, hq, htype, hpay, -⟩ := hraw.controlFrame_eq s.mtu wireVerifyReqPayloadSize
    (Nat.two_pow_pos 64)
    (by
      show payload.length ≤ _
      rw [hlen]
      simp only [wireVerifyReqPayloadSize, wireHeaderSize, wireTrailerSize]
      omega)
    (Nat.le_of_eq hlen) (fun h => by cases h) (fun h => by cases h)
  unfold RecvState.onFrame
  rw [hpc]
  dsimp only
  rw [hq]
  dsimp only
  rw [show q.type = .verify from htype, show q.payload = payload from hpay]

/-- DONE behind the data. -/
theorem RecvState.onFrame_done {d : RecvData} (hpc : s.pc = .dataWait f d)
    (hmtu : minPacketSize ≤ s.mtu) {size : Nat} (hsize : size < 2 ^ 64) (fs : FsOutcome) :
    s.onFrame env (sendBare .done size).frame fs
      = ([sendBare .doneAck d.written], (s.closed f d.file).fileDone env f) := by
  simp only [minPacketSize] at hmtu
  have hwhole : (sendBare .done size).Whole s.mtu := ⟨⟨rfl, hsize⟩, Nat.zero_le _, Nat.zero_le _⟩
  have hrecv := recvFrame_whole hwhole (by omega) (Nat.le_refl s.mtu)
  unfold RecvState.onFrame
  rw [hpc]
  simp only [onDataFrame, hrecv]
  rfl

/-- DONE of a skipped file. -/
theorem RecvState.onFrame_done_skip {tries : Nat} (hpc : s.pc = .skipWait f tries)
    (hmtu : minPacketSize ≤ s.mtu) {size : Nat} (hsize : size < 2 ^ 64) (fs : FsOutcome) :
    s.onFrame env (sendBare .done size).frame fs
      = ([sendBare .doneAck f.size], s.fileDone env f) := by
  simp only [minPacketSize] at hmtu
  have hwhole : (sendBare .done size).Whole s.mtu := ⟨⟨rfl, hsize⟩, Nat.zero_le _, Nat.zero_le _⟩
  have hrecv := recvFrame_whole hwhole (by omega) (Nat.le_refl s.mtu)
  unfold RecvState.onFrame
  rw [hpc]
  simp only [hrecv]
  rfl

/-- EOT in the metadata wait. -/
theorem RecvState.onFrame_eot {tries : Nat} (hpc : s.pc = .metaWait tries)
    (hmtu : minPacketSize ≤ s.mtu) (fs : FsOutcome) :
    s.onFrame env (sendBare .eot 0).frame fs
      = ([sendBare .eotAck 0], { s.ret .ok with turn := s.turn + 1 }) := by
  simp only [minPacketSize] at hmtu
  have hwhole : (sendBare .eot 0).Whole s.mtu :=
    ⟨⟨rfl, Nat.two_pow_pos 64⟩, Nat.zero_le _, Nat.zero_le _⟩
  have hrecv := recvFrame_whole hwhole (by omega) (Nat.le_refl s.mtu)
  unfold RecvState.onFrame
  rw [hpc]
  simp only [RecvState.onMetaFrame, hrecv]
  rfl

/-- A target path always fits its buffer. -/
theorem RecvState.targetPath_lt (hdir : s.outputDirectory.length ≤ maxPath)
    (hname : f.name.length ≤ maxFilename) :
    (s.targetPath env f).length < maxPath * 2 + 8 := by
  simp only [maxPath, maxFilename] at hdir hname
  unfold RecvState.targetPath
  by_cases h : s.outputDirectory = []
  · rw [if_neg (not_not.mpr h)]
    simp only [maxPath]
    omega
  · rw [if_pos h, List.length_append, List.length_cons]
    simp only [maxPath]
    omega

/-- The start offset is settled, no validator being installed and the
filesystem willing. -/
theorem RecvState.settle_good (hv : env.validator = none)
    (hpath : (s.targetPath env f).length < maxPath * 2 + 8) (off : Nat) (skipping ackSkip : Bool) :
    s.settle env f off skipping ackSkip .good
      = ([], (s.started f off).openTarget env f off
          (if env.cfg.resume.mode = .never then skipping else decide (off ≥ f.size)) .good) := by
  have hshort : ¬ ((s.started f off).targetPath env f).length ≥ maxPath * 2 + 8 :=
    Nat.not_le.mpr hpath
  unfold RecvState.settle
  dsimp only
  by_cases hmode : env.cfg.resume.mode = .never
  · rw [if_pos hmode, if_pos hmode]
    simp only [RecvState.validate, hshort, if_false, hv, Option.map_none, Option.getD_none]
  · rw [if_neg hmode, if_neg hmode]

end Receiver

/-! ## §4. The sender's transitions. -/

section Sender

variable {env : SendEnv} {s : SendState} {content : Bytes}

/-- RESUME_RESP behind RESUME_REQ. -/
theorem SendState.onFrame_resumeResp {tries : Nat} (hpc : s.pc = .resumeWait content tries)
    (hmtu : minPacketSize ≤ s.mtu) (d : ResumeDecision) :
    s.onFrame env (sendResumeResp d.wire).frame
      = s.onOutcome env content (onResumeResp env s.mtu content d.wire) := by
  simp only [minPacketSize] at hmtu
  have hlen : d.wire.length = wireResumeRespSize := serializeResumeResp_length _
  obtain ⟨q, hq, htype, hpay, hqlen⟩ := (sendResumeResp_raw d).controlFrame_eq s.mtu
    wireResumeRespSize (Nat.two_pow_pos 64)
    (by
      show d.wire.length ≤ _
      rw [hlen]
      simp only [wireResumeRespSize, wireHeaderSize, wireTrailerSize]
      omega)
    (Nat.le_of_eq hlen) (fun h => by cases h) (fun h => by cases h)
  have hfull : ¬ q.len < wireResumeRespSize := by
    rw [hqlen, show (sendResumeResp d.wire).payload = d.wire from rfl, hlen]
    exact Nat.lt_irrefl _
  unfold SendState.onFrame
  rw [hpc]
  dsimp only
  rw [hq]
  dsimp only
  rw [if_pos (show q.type = .resumeResp from htype), if_neg hfull,
    show q.payload = d.wire from hpay]

/-- The result of a VERIFY. -/
theorem SendState.onFrame_verifyResult {tries endOff : Nat} {payload : Bytes}
    (hpc : s.pc = .verifyWait content tries endOff payload) (hmtu : minPacketSize ≤ s.mtu)
    (st : Status) (crc : Nat) (hst : st.toUInt64 < 2 ^ 64) :
    s.onFrame env (sendVerifyResult st crc).frame
      = s.onOutcome env content (onVerifyResult endOff (serializeVerifyResponse st crc)) := by
  simp only [minPacketSize] at hmtu
  have hlen : (serializeVerifyResponse st crc).length = 8 := serializeVerifyResponse_length _ _
  obtain ⟨q, hq, htype, hpay, hqlen⟩ := (sendVerifyResult_raw st crc).controlFrame_eq s.mtu 32 hst
    (by
      show (serializeVerifyResponse st crc).length ≤ _
      rw [hlen]
      simp only [wireHeaderSize, wireTrailerSize]
      omega)
    (by
      show (serializeVerifyResponse st crc).length ≤ _
      rw [hlen]
      decide) (fun h => by cases h) (fun h => by cases h)
  have hfull : ¬ q.len < 4 := by
    rw [hqlen, show (sendVerifyResult st crc).payload = serializeVerifyResponse st crc from rfl,
      hlen]
    decide
  unfold SendState.onFrame
  rw [hpc]
  dsimp only
  rw [hq]
  dsimp only
  rw [if_pos (show q.type = .verify from htype), if_neg hfull,
    show q.payload = serializeVerifyResponse st crc from hpay]

/-- An acknowledgement in `val_internal_wait_control`. -/
theorem controlFrame_ack (t : PacketType) (off : Nat) {mtu : Nat} (ht : (sendBare t off).isAck = true)
    (hoff : off < 2 ^ 64) (hmtu : minPacketSize ≤ mtu) :
    ∃ q, controlFrame mtu 32 (sendBare t off).frame = .ok q ∧ q.type = t := by
  have hnamed : t.isNamed = true := by cases t <;> first | rfl | cases ht
  obtain ⟨q, hq, htype, -⟩ := recvControl_ack (s := sendBare t off) ⟨hnamed, hoff⟩ ht hmtu
    (show 12 ≤ 32 by decide)
  refine ⟨q, ?_, htype⟩
  have htype' : q.type = t := htype
  unfold controlFrame
  rw [hq]
  dsimp only
  rw [htype']
  cases t <;> first | rfl | cases ht

/-- DONE_ACK behind DONE. -/
theorem SendState.onFrame_doneAck {size tries off : Nat} {skip : Bool}
    (hpc : s.pc = .doneWait size tries skip) (hmtu : minPacketSize ≤ s.mtu) (hoff : off < 2 ^ 64) :
    s.onFrame env (sendBare .doneAck off).frame
      = { s with
          flow := if skip then s.flow else recordTransmissionSuccess env.cfg.txFlow s.flow,
          idx := s.idx + 1, turn := s.turn + 1 }.beginFile env := by
  obtain ⟨q, hq, htype⟩ := controlFrame_ack .doneAck off rfl hoff hmtu
  unfold SendState.onFrame
  rw [hpc]
  dsimp only
  rw [hq]
  exact if_pos htype

/-- EOT_ACK behind EOT. -/
theorem SendState.onFrame_eotAck {tries : Nat} (hpc : s.pc = .eotWait tries)
    (hmtu : minPacketSize ≤ s.mtu) :
    s.onFrame env (sendBare .eotAck 0).frame = ([], { s.ret .ok with turn := s.turn + 1 }) := by
  obtain ⟨q, hq, htype⟩ := controlFrame_ack .eotAck 0 rfl (Nat.two_pow_pos 64) hmtu
  unfold SendState.onFrame
  rw [hpc]
  dsimp only
  rw [hq]
  exact if_pos htype

end Sender

/-! ## §5. The handshake. -/

/-- The packet size both sides work with. -/
def SessionParams.mtu (c : SessionParams) : Nat := min c.snd.cfg.packetSize c.rcv.cfg.packetSize

/-- The sender between two exchanges, `k` files being done. -/
structure SendReady (c : SessionParams) (batch : List SourceFile) (k : Nat) (s : SendState) :
    Prop where
  mtu_eq : s.mtu = c.mtu
  batch_eq : s.batch = batch
  idx_eq : s.idx = k
  log_eq : s.log = []
  flow_ok : s.flow.Bounded

/-- The receiver inside its call. -/
structure RecvReady (c : SessionParams) (dir : Bytes) (files : Bytes → Option Bytes)
    (completed : List MetaPayload) (s : RecvState) : Prop where
  mtu_eq : s.mtu = c.mtu
  dir_eq : s.outputDirectory = dir.take maxPath
  files_eq : s.files = files
  completed_eq : s.completed = completed
  log_eq : s.log = []

theorem SessionParams.mtu_min {c : SessionParams} (hs : c.snd.cfg.Accepted)
    (hr : c.rcv.cfg.Accepted) : minPacketSize ≤ c.mtu := by
  have h1 := hs.packetSize_min
  have h2 := hr.packetSize_min
  unfold SessionParams.mtu
  omega

theorem SessionParams.mtu_max (c : SessionParams) (hs : c.snd.cfg.Accepted) :
    c.mtu ≤ maxPacketSize := by
  have := hs.packetSize_max
  unfold SessionParams.mtu
  omega

/-- The peer's HELLO in a handshake loop. -/
theorem recvControl_hello (cfg : Config) (size : Nat) {mtu : Nat} (hmtu : minPacketSize ≤ mtu) :
    ∃ q, recvControl mtu wireHandshakeSize (sendHello cfg size).frame = .ok q ∧ q.type = .hello
      ∧ q.payload = serializeHandshake (fillLocalHello cfg size) ∧ q.len = wireHandshakeSize := by
  simp only [minPacketSize] at hmtu
  have hlen : (serializeHandshake (fillLocalHello cfg size)).length = wireHandshakeSize :=
    serializeHandshake_length _
  have hstaged : (sendHello cfg size).staged.length = wireHandshakeSize := hlen
  refine ⟨_, recvControl_send (s := sendHello cfg size) ⟨rfl, Nat.two_pow_pos 64⟩
    (fun h => by cases h) (by rw [hstaged]; decide) ?_ (by rw [hstaged]), rfl, rfl, hlen⟩
  rw [hstaged]
  simp only [wireHandshakeSize, wireHeaderSize, wireTrailerSize]
  omega

/-- HELLO reaches the receiver. -/
theorem RecvState.onFrame_hello {env : RecvEnv} {s : RecvState} {peer : Config}
    (hpc : s.pc = .helloWait) (hmtu : minPacketSize ≤ s.mtu) (h : env.cfg.Accepted)
    (hpeer : peer.Accepted) (fs : FsOutcome) :
    s.onFrame env (sendHello peer peer.packetSize).frame fs
      = ([sendHello env.cfg (min peer.packetSize env.cfg.packetSize)],
          { s with
            handshakeDone := true, mtu := min peer.packetSize env.cfg.packetSize,
            flow := initialFlow env.cfg (fillLocalHello peer peer.packetSize) s.flow,
            turn := s.turn + 1, pc := .metaWait env.cfg.retries.metaRetries }) := by
  obtain ⟨q, hq, htype, hpay, hlen⟩ := recvControl_hello peer peer.packetSize hmtu
  have hfull : ¬ q.len < wireHandshakeSize := by
    rw [hlen]
    exact Nat.lt_irrefl _
  unfold RecvState.onFrame
  rw [hpc]
  dsimp only
  unfold RecvState.onHelloFrame
  rw [hq]
  dsimp only
  rw [htype]
  dsimp only
  rw [if_neg hfull, hpay, adopt_peer h hpeer s.flow hpeer.packetSize_min hpeer.packetSize_max]
  dsimp only
  rw [if_neg (by simp [missingFeatures, builtinFeatures])]

/-- The answer reaches the sender, which goes on to the first file. -/
theorem SendState.onFrame_hello {env : SendEnv} {s : SendState} {peer : Config} {tries : Nat}
    (size : Nat) (hpc : s.pc = .helloWait tries) (hmtu : minPacketSize ≤ s.mtu) (h : env.cfg.Accepted)
    (hpeer : peer.Accepted) (hmin : minPacketSize ≤ size) (hmax : size ≤ maxPacketSize) :
    s.onFrame env (sendHello peer size).frame
      = { s with
          handshakeDone := true, mtu := min size env.cfg.packetSize,
          flow := initialFlow env.cfg (fillLocalHello peer size) s.flow,
          turn := s.turn + 1 }.beginFile env := by
  obtain ⟨q, hq, htype, hpay, hlen⟩ := recvControl_hello peer size hmtu
  have hfull : ¬ q.len < wireHandshakeSize := by
    rw [hlen]
    exact Nat.lt_irrefl _
  unfold SendState.onFrame
  rw [hpc]
  dsimp only
  unfold SendState.onHelloFrame
  rw [hq]
  dsimp only
  rw [htype]
  dsimp only
  rw [if_neg hfull, hpay, adopt_peer h hpeer s.flow hmin hmax, ← hpc]

section Greet

variable {c : SessionParams} {batch : List SourceFile} {dir : Bytes}
  {files : Bytes → Option Bytes} {P : View → Prop}

/-- Both applications make their calls. -/
theorem Leads.calls (hne : batch ≠ [])
    (hnext : Leads c (.mid
      { SendState.fresh c.snd.cfg with
        batch := batch, pc := .helloWait c.snd.cfg.retries.handshakeRetries }
      { RecvState.fresh c.rcv.cfg files with
        outputDirectory := dir.take maxPath, pc := .helloWait }
      [sendHello c.snd.cfg c.snd.cfg.packetSize] []) P) :
    Leads c (SessionSys.init c files [batch] [dir]).view P := by
  have hcall : (SendState.fresh c.snd.cfg).call c.snd batch
      = ([sendHello c.snd.cfg c.snd.cfg.packetSize],
          { SendState.fresh c.snd.cfg with
            batch := batch, pc := .helloWait c.snd.cfg.retries.handshakeRetries }) :=
    if_neg hne
  rintro ⟨snd, rcv, toRcv, toSnd, sndCalls, rcvCalls⟩ hv
  injection hv with h1 h2 h3 h4 h5 h6
  dsimp only [SessionSys.init] at h1 h2 h3 h4 h5 h6
  subst h1 h2 h5 h6
  obtain rfl : toRcv = [] := List.map_eq_nil_iff.mp h3
  obtain rfl : toSnd = [] := List.map_eq_nil_iff.mp h4
  have hsnd := SendMove.calm (c := c) (s := ⟨SendState.fresh c.snd.cfg,
    RecvState.fresh c.rcv.cfg files, [], [], [batch], [dir]⟩) (.call rfl)
  rw [hcall] at hsnd
  have hrcv := RecvMove.calm (c := c) (s := ⟨{ SendState.fresh c.snd.cfg with
      batch := batch, pc := .helloWait c.snd.cfg.retries.handshakeRetries },
    RecvState.fresh c.rcv.cfg files,
    [⟨sendHello c.snd.cfg c.snd.cfg.packetSize, 0, some 0⟩], [], [], [dir]⟩) (.call rfl)
  obtain ⟨n, s', hrun, hP⟩ := hnext ⟨_, _, [⟨sendHello c.snd.cfg c.snd.cfg.packetSize, 0, some 0⟩],
    [], [], []⟩ rfl
  exact ⟨n + 1 + 1, s', .succ hsnd (.succ hrcv hrun), hP⟩

/-- **The handshake.**  The first packets of the batch follow it. -/
theorem greet (hs : c.snd.cfg.Accepted) (hr : c.rcv.cfg.Accepted) (hne : batch ≠ [])
    (hnext : ∀ snd rcv, SendReady c batch 0 snd → snd.starts = [] →
      RecvReady c dir files [] rcv → rcv.pc = .metaWait c.rcv.cfg.retries.metaRetries →
      Leads c (.mid (snd.beginFile c.snd).2 rcv (snd.beginFile c.snd).1 []) P) :
    Leads c (SessionSys.init c files [batch] [dir]).view P := by
  have hmin := SessionParams.mtu_min hs hr
  have hmax := c.mtu_max hs
  have hmtu : min c.mtu c.snd.cfg.packetSize = c.mtu := by
    unfold SessionParams.mtu
    omega
  refine Leads.calls hne ?_
  refine Leads.deliver nofun (RecvState.onFrame_hello rfl hr.packetSize_min hr hs .good) ?_
  refine Leads.reply nofun (SendState.onFrame_hello c.mtu rfl hs.packetSize_min hs hr
    hmin hmax) ?_
  rw [List.nil_append]
  exact hnext _ _ ⟨hmtu, rfl, rfl, rfl, initialFlow_bounded hs _ _⟩ rfl
    ⟨rfl, rfl, rfl, rfl, rfl⟩ rfl

/-- The data phase is entered. -/
theorem SendReady.startFile {k : Nat} {snd : SendState} {content : Bytes}
    (h : SendReady c batch k snd) (hmin : minPacketSize ≤ c.mtu) {off : Nat}
    (hoff : off < 2 ^ 63) :
    snd.onOutcome c.snd content (.start off)
      = (snd.started content.length off).onDataResult c.snd ⟨content, c.mtu, off⟩
          (startData c.snd.cfg ⟨content, c.mtu, off⟩ snd.flow) := by
  have hseek : ¬ (off ≠ 0 ∧ toSigned 64 off < 0) := by
    rw [toSigned_of_lt hoff]
    omega
  have hroom : ¬ (snd.started content.length off).mtu ≤ wireHeaderSize + wireTrailerSize := by
    show ¬ snd.mtu ≤ _
    rw [h.mtu_eq]
    simp only [minPacketSize] at hmin
    simp only [wireHeaderSize, wireTrailerSize]
    omega
  show snd.startFile c.snd content off = _
  unfold SendState.startFile
  rw [if_neg hseek]
  dsimp only
  rw [if_neg hroom, ← h.mtu_eq]
  rfl

theorem SendState.onDataResult_starts (env : SendEnv) (s : SendState) (io : SendFile)
    (r : List Send × DataResult) : (s.onDataResult env io r).2.starts = s.starts := by
  unfold SendState.onDataResult
  split <;> rfl

/-- Entering the data phase is recorded. -/
theorem SendReady.start_starts {k : Nat} {snd : SendState} (h : SendReady c batch k snd)
    (content : Bytes) (hmin : minPacketSize ≤ c.mtu) {off : Nat} (hoff : off < 2 ^ 63) :
    (snd.onOutcome c.snd content (.start off)).2.starts
      = snd.starts ++ [⟨k, content.length, off⟩] := by
  rw [h.startFile hmin hoff, SendState.onDataResult_starts, ← h.idx_eq]
  rfl

end Greet

/-! ## §6. The negotiation. -/

section Negotiate

variable {c : SessionParams} {snd : SendState} {rcv : RecvState} {content : Bytes} {f : RecvFile}
  {tries : Nat} {P : View → Prop}

/-- SEND_META and RESUME_REQ are on their way: the receiver accepts the
first. -/
theorem Leads.announce {tries : Nat} (hpc : rcv.pc = .metaWait tries)
    (hmtu : minPacketSize ≤ rcv.mtu) {src : SourceFile} (hread : src.readable = some content)
    {down : List Send}
    (hnext : Leads c (.mid snd
      (rcv.acceptMeta c.rcv (serializeMeta (src.announced c.snd.senderPath))) down []) P) :
    Leads c (.mid snd rcv (sendMeta c.snd.senderPath src :: down) []) P := by
  refine Leads.deliver ?_ (RecvState.onFrame_meta hpc hmtu hread c.snd.senderPath .good) hnext
  rw [hpc]
  exact nofun

/-- A file that is not there yet is before its decision. -/
theorem RecvState.acceptMeta_stage (env : RecvEnv) (s : RecvState) (payload : Bytes) :
    (s.acceptMeta env payload).pc.stage = .undecided (s.incomingFile env payload) := by
  unfold RecvState.acceptMeta
  dsimp only
  split <;> rfl

theorem RecvPc.busy_of_stage {pc : RecvPc} (h : pc.stage = .undecided f) : pc ≠ .idle := by
  intro hidle
  rw [hidle] at h
  cases h

/-- RESUME_REQ is answered at once. -/
theorem Leads.respond (hstage : rcv.pc.stage = .undecided f)
    (hpc : snd.pc = .resumeWait content tries) (hmtu : minPacketSize ≤ snd.mtu)
    {d : ResumeDecision} {rcv' : RecvState}
    (hanswer : rcv.answerResume c.rcv f .good = ([sendResumeResp d.wire], rcv'))
    {o : ResumeOutcome} (ho : onResumeResp c.snd snd.mtu content d.wire = o) {out : List Send}
    {snd' : SendState} (hout : snd.onOutcome c.snd content o = (out, snd'))
    (hnext : Leads c (.mid snd' rcv' out []) P) :
    Leads c (.mid snd rcv [sendBare .resumeReq 0] []) P := by
  have hreq : rcv.onFrame c.rcv (sendBare .resumeReq 0).frame .good
      = ([sendResumeResp d.wire], rcv') := by
    rw [RecvState.onFrame_resumeReq hstage, hanswer]
  have hresp : snd.onFrame c.snd (sendResumeResp d.wire).frame = (out, snd') := by
    rw [SendState.onFrame_resumeResp hpc hmtu, ho, hout]
  refine Leads.deliver (RecvPc.busy_of_stage hstage) hreq ?_
  refine Leads.reply ?_ hresp hnext
  rw [hpc]
  exact nofun

/-- A VERIFY request is judged, and the sender reads the verdict. -/
theorem Leads.judge {tries' endOff off : Nat} {resp payload : Bytes}
    (hrpc : rcv.pc = .verifyWait f tries' resp off) (hrmtu : minPacketSize ≤ rcv.mtu)
    (hlen : payload.length = wireVerifyReqPayloadSize)
    (hpc : snd.pc = .verifyWait content tries endOff payload) (hmtu : minPacketSize ≤ snd.mtu)
    {st : Status} (hst : st = .ok ∨ st = .skipped ∨ st = .resumeVerify) {crc : Nat}
    {rcv' : RecvState}
    (hanswer : rcv.answerVerify c.rcv f off payload .good = ([sendVerifyResult st crc], rcv'))
    {o : ResumeOutcome} (ho : onVerifyResult endOff (serializeVerifyResponse st crc) = o)
    {out : List Send} {snd' : SendState} (hout : snd.onOutcome c.snd content o = (out, snd'))
    (hnext : Leads c (.mid snd' rcv' out []) P) :
    Leads c (.mid snd rcv [sendVerify payload] []) P := by
  have hword : st.toUInt64 < 2 ^ 64 := by rcases hst with rfl | rfl | rfl <;> decide
  have hreq : rcv.onFrame c.rcv (sendVerify payload).frame .good
      = ([sendVerifyResult st crc], rcv') := by
    rw [RecvState.onFrame_verify hrpc hrmtu hlen, hanswer]
  have hresult : snd.onFrame c.snd (sendVerifyResult st crc).frame = (out, snd') := by
    rw [SendState.onFrame_verifyResult hpc hmtu st crc hword, ho, hout]
  refine Leads.deliver ?_ hreq ?_
  · rw [hrpc]
    exact nofun
  · refine Leads.reply ?_ hresult hnext
    rw [hpc]
    exact nofun

/-- The answer to RESUME_REQ when it settles the start: from the beginning. -/
theorem RecvState.answerResume_zero {env : RecvEnv} {s : RecvState}
    (hv : env.validator = none) (hpath : (s.targetPath env f).length < maxPath * 2 + 8)
    (hdec : determineResumeAction env s.mtu (s.files f.path) f.size = .startZero) :
    s.answerResume env f .good
      = ([sendResumeResp ResumeDecision.startZero.wire], (s.settle env f 0 false true .good).2) := by
  unfold RecvState.answerResume
  rw [hdec]
  show (_ :: (s.settle env f 0 false true .good).1, _) = _
  rw [RecvState.settle_good hv hpath]
  rfl

/-- Or not at all. -/
theorem RecvState.answerResume_skip {env : RecvEnv} {s : RecvState}
    (hv : env.validator = none) (hpath : (s.targetPath env f).length < maxPath * 2 + 8)
    (hdec : determineResumeAction env s.mtu (s.files f.path) f.size = .skipFile) :
    s.answerResume env f .good
      = ([sendResumeResp ResumeDecision.skipFile.wire],
          (s.settle env f f.size true true .good).2) := by
  unfold RecvState.answerResume
  rw [hdec]
  show (_ :: (s.settle env f f.size true true .good).1, _) = _
  rw [RecvState.settle_good hv hpath]
  rfl

/-- The answer to RESUME_REQ when the window has to be verified. -/
theorem RecvState.answerResume_asks {env : RecvEnv} {s : RecvState} {len crc window : Nat}
    (hdec : determineResumeAction env s.mtu (s.files f.path) f.size
      = ⟨.verifyFirst, len, crc, window⟩) :
    s.answerResume env f .good
      = ([sendResumeResp (ResumeDecision.mk .verifyFirst len crc window).wire],
          { s with
            pc := .verifyWait f env.cfg.retries.ackRetries
              (ResumeDecision.mk .verifyFirst len crc window).wire len }) := by
  unfold RecvState.answerResume
  rw [hdec]
  rfl

/-- The answer to VERIFY. -/
theorem RecvState.answerVerify_good {env : RecvEnv} {s : RecvState} (hv : env.validator = none)
    (hpath : (s.targetPath env f).length < maxPath * 2 + 8) {file payload : Bytes}
    (hfile : s.files f.path = some file) {st : Status} {crc : Nat}
    (hverdict : verifyVerdict env s.mtu file payload = (st, crc)) {off : Nat} :
    s.answerVerify env f off payload .good
      = ([sendVerifyResult st crc],
          (match st with
            | .ok => s.settle env f off false true .good
            | .skipped => s.settle env f f.size true true .good
            | _ => s.settle env f 0 false true .good).2) := by
  unfold RecvState.answerVerify
  rw [hfile]
  dsimp only
  rw [hverdict]
  cases st
  all_goals
    dsimp only
    rw [RecvState.settle_good hv hpath]

end Negotiate

/-- Two sessions with small packets, this resume configuration on the
receiver's side and a `long` of `bits` bits. -/
def resumePair (resume : ResumeConfig) (bits : Nat) : SessionParams where
  snd := { cfg := { quickDegrade with longBits := bits }, provider := none, senderPath := none }
  rcv :=
    { cfg := { quickDegrade with resume := resume, longBits := bits }, provider := none,
      pathSep := 47, validator := none }

/-- TAIL over the whole local file. -/
def tailPair : SessionParams := resumePair ⟨.tail, 0, 0, false⟩ 64

/-- The receiver has the first two bytes of `a`. -/
def halfThere (path : Bytes) : Option Bytes := if path = [97] then some [1, 2] else none

theorem resumePair_snd (resume : ResumeConfig) {bits : Nat} (hbits : bits = 32 ∨ bits = 64) :
    (resumePair resume bits).snd.cfg.Accepted :=
  { quickDegrade_accepted with longBits_ok := hbits }

theorem resumePair_rcv {resume : ResumeConfig} {bits : Nat} (hbits : bits = 32 ∨ bits = 64)
    (hcap : resume.tailCapBytes < 2 ^ 32) (hmin : resume.minVerifyBytes < 2 ^ 32) :
    (resumePair resume bits).rcv.cfg.Accepted :=
  { quickDegrade_accepted with tailCap_lt := hcap, minVerify_lt := hmin, longBits_ok := hbits }

end ValProtocol
