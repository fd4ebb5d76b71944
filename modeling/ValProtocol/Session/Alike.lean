/-
  ValProtocol.Session.Alike
  ─────────────────────────
  Sessions that differ in nothing but their retry counters and, on the sender's
  side, in what the flow control has counted.

  Where the window is one packet, neither plays a part in what is sent.  So two
  alike parties send the same packets on the same frame, and are alike
  afterwards:

    • `RecvState.onFrame_alike` — the receiver, on any frame,
    • `SendState.onFrame_alike` — the sender, on the acknowledgements of a
      receiver that is where it should be.
-/
import ValProtocol.Session.Transit

namespace ValProtocol

/-! ## §1. The receiver. -/

/-- The same wait, with its own tries. -/
inductive RecvPc.Alike : RecvPc → RecvPc → Prop where
  | idle : Alike .idle .idle
  | helloWait : Alike .helloWait .helloWait
  | metaWait (m n : Nat) : Alike (.metaWait m) (.metaWait n)
  | neverPeek (f : RecvFile) : Alike (.neverPeek f) (.neverPeek f)
  | resumeReqWait (f : RecvFile) (m n : Nat) : Alike (.resumeReqWait f m) (.resumeReqWait f n)
  | verifyWait (f : RecvFile) (m n : Nat) (resp : Bytes) (off : Nat) :
      Alike (.verifyWait f m resp off) (.verifyWait f n resp off)
  | dataWait (f : RecvFile) (d : RecvData) (m n : Nat) :
      Alike (.dataWait f { d with tries := m }) (.dataWait f { d with tries := n })
  | skipWait (f : RecvFile) (m n : Nat) : Alike (.skipWait f m) (.skipWait f n)

theorem RecvPc.Alike.rfl (pc : RecvPc) : pc.Alike pc := by
  cases pc with
  | idle => exact .idle
  | helloWait => exact .helloWait
  | metaWait n => exact .metaWait n n
  | neverPeek f => exact .neverPeek f
  | resumeReqWait f n => exact .resumeReqWait f n n
  | verifyWait f n resp off => exact .verifyWait f n n resp off
  | dataWait f d => exact .dataWait f d d.tries d.tries
  | skipWait f n => exact .skipWait f n n

/-- The same session in the same wait. -/
def RecvState.Alike (s t : RecvState) : Prop := ∃ pc, t = { s with pc := pc } ∧ s.pc.Alike pc

section Receiver

variable {env : RecvEnv}

theorem RecvState.Alike.rfl (s : RecvState) : s.Alike s := ⟨s.pc, Eq.refl s, .rfl s.pc⟩

/-- The same outcome on both sides. -/
def RecvState.SameOut (r r' : List Send × RecvState) : Prop := r.1 = r'.1 ∧ r.2.Alike r'.2

theorem RecvState.SameOut.rfl (r : List Send × RecvState) : SameOut r r := ⟨Eq.refl _, .rfl r.2⟩

theorem RecvState.SameOut.of_eq {r r' : List Send × RecvState} (h : r = r') : SameOut r r' := by
  rw [h]
  exact .rfl r'

/-- **The receiver on a frame.** -/
theorem RecvState.onFrame_alike {s t : RecvState} (h : s.Alike t) (fr : Frame) (fs : FsOutcome) :
    SameOut (s.onFrame env fr fs) (t.onFrame env fr fs) := by
  obtain ⟨pc, rfl, hpc⟩ := h
  obtain ⟨pc₀, done, mtu, flow, dir, files, starts, completed, log, turn⟩ := s
  dsimp only at hpc ⊢
  cases hpc with
  | idle => exact .rfl _
  | helloWait => exact .rfl _
  | metaWait m n => exact .of_eq rfl
  | neverPeek f => exact .rfl _
  | resumeReqWait f m n =>
      unfold RecvState.onFrame
      dsimp only
      split
      · exact .of_eq rfl
      · split
        · exact .of_eq rfl
        · exact .of_eq rfl
        · exact .of_eq rfl
        · exact ⟨rfl, _, rfl, .resumeReqWait f m n⟩
  | verifyWait f m n resp off =>
      unfold RecvState.onFrame
      dsimp only
      split
      · exact .of_eq rfl
      · split
        · exact ⟨rfl, _, rfl, .verifyWait f m n resp off⟩
        · exact .of_eq rfl
        · exact ⟨rfl, _, rfl, .verifyWait f m n resp off⟩
  | dataWait f d m n => exact .of_eq rfl
  | skipWait f m n => exact .of_eq rfl

/-- The wait sits through `k` more silent rounds, and every packet of the data
loop has been answered. -/
def RecvPc.Lasts (k : Nat) : RecvPc → Prop
  | .idle | .helloWait | .neverPeek _ => True
  | .metaWait n | .resumeReqWait _ n | .verifyWait _ n _ _ | .skipWait _ n => k ≤ n
  | .dataWait _ d => k ≤ d.tries ∧ d.pktsSinceAck = 0

/-- So does every wait the receiver comes to. -/
structure RecvEnv.Lasts (env : RecvEnv) (k : Nat) : Prop where
  meta_le : k ≤ env.cfg.retries.metaRetries
  ack_le : k ≤ env.cfg.retries.ackRetries
  data_le : k ≤ env.cfg.retries.dataRetries

theorem RecvEnv.Lasts.mono {k m : Nat} (h : env.Lasts k) (hm : m ≤ k) : env.Lasts m :=
  ⟨Nat.le_trans hm h.meta_le, Nat.le_trans hm h.ack_le, Nat.le_trans hm h.data_le⟩

theorem RecvPc.Lasts.mono {pc : RecvPc} {k m : Nat} (h : pc.Lasts k) (hm : m ≤ k) :
    pc.Lasts m := by
  cases pc with
  | idle | helloWait | neverPeek f => trivial
  | metaWait n | resumeReqWait f n | verifyWait f n resp off | skipWait f n =>
      exact Nat.le_trans hm h
  | dataWait f d => exact ⟨Nat.le_trans hm h.1, h.2⟩

section Lasts

variable {s : RecvState} {k : Nat}

theorem RecvState.lasts_settle (henv : env.Lasts k) (f : RecvFile) (off : Nat)
    (skipping ackSkip : Bool) (fs : FsOutcome) :
    (s.settle env f off skipping ackSkip fs).2.pc.Lasts k := by
  have hopen : ∀ (s₁ : RecvState) (off : Nat) (skipping : Bool),
      (s₁.openTarget env f off skipping fs).pc.Lasts k := by
    intro s₁ off skipping
    unfold RecvState.openTarget
    split
    · exact henv.ack_le
    · split
      · trivial
      · exact ⟨henv.data_le, rfl⟩
  unfold RecvState.settle
  dsimp only
  split
  · split
    · trivial
    · exact hopen _ _ _
    · exact hopen _ _ _
  · exact hopen _ _ _

theorem RecvState.lasts_answerResume (henv : env.Lasts k) (f : RecvFile) (fs : FsOutcome) :
    (s.answerResume env f fs).2.pc.Lasts k := by
  unfold RecvState.answerResume
  dsimp only
  split
  · exact lasts_settle henv f _ _ _ fs
  · exact lasts_settle henv f _ _ _ fs
  · exact lasts_settle henv f _ _ _ fs
  · exact henv.ack_le
  · trivial

theorem RecvState.lasts_answerVerify (henv : env.Lasts k) (f : RecvFile) (off : Nat)
    (payload : Bytes) (fs : FsOutcome) : (s.answerVerify env f off payload fs).2.pc.Lasts k := by
  unfold RecvState.answerVerify
  split
  · trivial
  · dsimp only
    split
    · exact lasts_settle henv f _ _ _ fs
    · exact lasts_settle henv f _ _ _ fs
    · exact lasts_settle henv f _ _ _ fs

theorem onInOrder_lasts {d d' : RecvData} {payload : Bytes} {len : Nat} {short : Option Nat}
    (h : (onInOrder d payload len short).2 = .wait d') :
    d'.tries = d.tries ∧ d'.pktsSinceAck = 0 := by
  have hstride : d.pktsSinceAck + 1 ≥ ackStride := Nat.le_add_left 1 _
  unfold onInOrder at h
  split at h
  · cases h
  · dsimp only at h
    rw [if_pos hstride] at h
    split at h
    all_goals cases h
    all_goals exact ⟨rfl, rfl⟩

theorem onData_lasts {d d' : RecvData} {p : Packet} {short : Option Nat}
    (h : (onData d p short).2 = .wait d') (hack : d.pktsSinceAck = 0) :
    d'.tries = d.tries ∧ d'.pktsSinceAck = 0 := by
  unfold onData at h
  dsimp only at h
  generalize (if p.off = uint64Max then d.written else p.off) = off at h
  split at h
  · exact onInOrder_lasts h
  · cases h
    unfold cadence
    split
    · exact ⟨rfl, rfl⟩
    · exact ⟨rfl, hack⟩

/-- A round of the data loop starts with a fresh budget. -/
theorem onDataFrame_lasts {cfg : Config} {mtu : Nat} {d d' : RecvData} {fr : Frame}
    {short : Option Nat} (h : (onDataFrame cfg mtu d fr short).2 = .wait d')
    (hack : d.pktsSinceAck = 0) :
    d'.tries = cfg.retries.dataRetries ∧ d'.pktsSinceAck = 0 := by
  unfold onDataFrame at h
  dsimp only at h
  split at h
  · cases h
  · split at h
    · exact onData_lasts h hack
    · cases h
    · cases h
    · cases h
    · cases h
    · cases h
      exact ⟨rfl, hack⟩

/-- **Nor does a frame shorten a wait.** -/
theorem RecvState.onFrame_lasts (henv : env.Lasts k) (h : s.pc.Lasts k) (fr : Frame)
    (fs : FsOutcome) : (s.onFrame env fr fs).2.pc.Lasts k := by
  unfold RecvState.onFrame
  split
  · exact h
  -- HELLO: the metadata wait behind it starts with its own budget
  · unfold RecvState.onHelloFrame
    split
    · trivial
    · split
      · trivial
      · trivial
      · split
        · exact h
        · dsimp only
          split
          · trivial
          · split
            · trivial
            · exact henv.meta_le
      · exact h
  -- metadata, under VAL_RESUME_NEVER with a look for the RESUME_REQ
  · unfold RecvState.onMetaFrame
    split
    · trivial
    · split
      · trivial
      · trivial
      · split
        · trivial
        · unfold RecvState.acceptMeta
          dsimp only
          split
          · trivial
          · exact henv.ack_le
      · trivial
  · rename_i f hpc
    split
    · split
      · exact lasts_answerResume henv f fs
      · exact lasts_settle henv f _ _ _ fs
    · split
      · trivial
      · exact lasts_settle henv f _ _ _ fs
  · rename_i f n hpc
    split
    · trivial
    · split
      · exact lasts_answerResume henv f fs
      · trivial
      · trivial
      · exact h
  · rename_i f n resp off hpc
    split
    · trivial
    · split
      · exact h
      · exact lasts_answerVerify henv f off _ fs
      · exact h
  -- the data loop reloads `tries` with every packet
  · rename_i f d hpc
    unfold RecvState.onRecvResult
    split
    · rename_i d' hres
      rw [hpc] at h
      obtain ⟨htries, hack⟩ := onDataFrame_lasts hres h.2
      refine ⟨?_, hack⟩
      rw [htries]
      exact henv.data_le
    · exact henv.meta_le
    · trivial
  · rename_i f n hpc
    split
    · trivial
    · split
      · exact henv.meta_le
      · trivial
      · trivial
      · exact henv.ack_le

/-- **A silent round** costs a try and nothing else, the look for a RESUME_REQ
and the end of the handshake budget apart. -/
theorem RecvState.onTimeout_alike {t : RecvState} (h : s.Alike t) (hlast : s.pc.Lasts (k + 1))
    (hbusy : s.pc ≠ .idle) (hpeek : ∀ f, s.pc ≠ .neverPeek f) (timer : HelloTimer)
    (htimer : s.pc = .helloWait → timer ≠ .expired) (fs : FsOutcome) :
    (s.onTimeout env timer fs).1 = [] ∧ (s.onTimeout env timer fs).2.Alike t
      ∧ (s.onTimeout env timer fs).2.pc.Lasts k := by
  obtain ⟨pc, rfl, hpc⟩ := h
  obtain ⟨pc₀, done, mtu, flow, dir, files, starts, completed, log, turn⟩ := s
  dsimp only at hpc hlast hbusy hpeek htimer ⊢
  have hdrop : ∀ {n : Nat}, k + 1 ≤ n → n ≠ 0 ∧ k ≤ n - 1 := by
    intro n hn
    omega
  cases hpc with
  | idle => exact absurd rfl hbusy
  | helloWait =>
      unfold RecvState.onTimeout
      dsimp only
      rw [if_neg (htimer rfl)]
      exact ⟨rfl, .rfl _, trivial⟩
  | metaWait m n =>
      obtain ⟨hne, hle⟩ := hdrop hlast
      unfold RecvState.onTimeout
      dsimp only
      rw [if_neg hne]
      exact ⟨rfl, ⟨_, rfl, .metaWait _ _⟩, hle⟩
  | neverPeek f => exact absurd rfl (hpeek f)
  | resumeReqWait f m n =>
      obtain ⟨hne, hle⟩ := hdrop hlast
      unfold RecvState.onTimeout
      dsimp only
      rw [if_neg hne]
      exact ⟨rfl, ⟨_, rfl, .resumeReqWait _ _ _⟩, hle⟩
  | verifyWait f m n resp off =>
      obtain ⟨hne, hle⟩ := hdrop hlast
      unfold RecvState.onTimeout
      dsimp only
      rw [if_neg hne]
      exact ⟨rfl, ⟨_, rfl, .verifyWait _ _ _ _ _⟩, hle⟩
  | dataWait f d m n =>
      obtain ⟨hne, hle⟩ := hdrop hlast.1
      unfold RecvState.onTimeout
      dsimp only
      unfold onDataTimeout
      rw [if_neg hne]
      exact ⟨rfl, ⟨_, rfl, .dataWait f d (m - 1) n⟩, hle, hlast.2⟩
  | skipWait f m n =>
      obtain ⟨hne, hle⟩ := hdrop hlast
      unfold RecvState.onTimeout
      dsimp only
      rw [if_neg hne]
      exact ⟨rfl, ⟨_, rfl, .skipWait _ _ _⟩, hle⟩

end Lasts

end Receiver

/-! ## §2. A window of one packet. -/

/-- The wait for the one packet, with the handle behind it. -/
structure OneWait (io : SendFile) (d : SendData) : Prop extends OneOk io d where
  read_eq : d.readPos = d.nextToSend

section Window

variable {cfg : Config} {io : SendFile} {d : SendData} {k : Nat}

/-- A fill keeps the handle behind what is sent, and the budget as it is. -/
theorem fillAndWait_keeps {sends : List Send} {d' : SendData}
    (h : fillAndWait io d = (sends, .wait d')) (hread : d.readPos = d.nextToSend) :
    d'.readPos = d'.nextToSend ∧ d'.tries = d.tries := by
  have hloop := (@fillLoop_rule io
    (fun e => e.readPos = e.nextToSend ∧ e.tries = d.tries) (fun _ => True) (by
      intro e n he _ _ _ _
      refine ⟨⟨?_, he.2⟩, trivial⟩
      show (if e.nextToSend + n ≠ e.nextToSend + n then _ else e.readPos + n) = e.nextToSend + n
      rw [if_neg (fun hne => hne rfl), he.1]) d.win d ⟨hread, rfl⟩).1
  unfold fillAndWait at h
  dsimp only at h
  split at h
  · cases h
  · cases h
    exact hloop

/-- **One fill** sends the packet at the mark. -/
theorem OneReady.fill (hmax : 8 < io.maxPayload) (h : OneReady io d) :
    ∃ d', fillAndWait io d = ([io.packetAt d.lastAcked], .wait d')
      ∧ d'.lastAcked = d.lastAcked ∧ d'.tries = d.tries ∧ OneWait io d' := by
  obtain ⟨d', heq, hacked, hone⟩ := fillAndWait_one hmax h
  obtain ⟨hread, htries⟩ := fillAndWait_keeps heq h.read_eq
  exact ⟨d', heq, hacked, htries, hone, hread⟩

/-- The budget of a window is no smaller than the one of a wait. -/
theorem le_windowTries (hk : k ≤ cfg.retries.ackRetries) (hsmall : cfg.retries.ackRetries + 6 < 256)
    (io : SendFile) (d : SendData) : k ≤ windowTries cfg io d := by
  unfold windowTries
  dsimp only
  split
  · rw [Nat.mod_eq_of_lt]
    · split <;> omega
    · split <;> split <;> omega
  · split <;> omega

/-- The data phase begins with the packet at the offset. -/
theorem startData_one (hok : (DataParams.mk cfg cfg io).Ok) {flow : Flow} (hf : flow.Single)
    (hk : k ≤ cfg.retries.ackRetries) (hsmall : cfg.retries.ackRetries + 6 < 256) :
    ∃ d, startData cfg io flow = ([io.packetAt io.resumeOff], .wait d)
      ∧ d.lastAcked = io.resumeOff ∧ OneWait io d ∧ k ≤ d.tries := by
  have hlt : (initData io flow).lastAcked < io.size := hok.resume_lt
  have hwin : (initData io flow).win = 1 := by
    simp only [initData, hf.current_eq, ne_eq, Nat.one_ne_zero, not_false_eq_true, if_true]
  have hready : OneReady io { initData io flow with
      tries := windowTries cfg io (initData io flow) } := by
    refine ⟨hf, hwin, rfl, hlt, rfl, ?_⟩
    simp only [SendData.readPos, initData, ne_eq, not_true_eq_false, if_false]
  obtain ⟨d, heq, hacked, htries, hone⟩ := hready.fill hok.maxPayload_gt
  refine ⟨d, ?_, hacked, hone, ?_⟩
  · simp only [startData, dataLoop, hlt, if_true, Move.run, heq]
    rfl
  · rw [htries]
    exact le_windowTries hk hsmall io _

/-- What an acknowledgement at `off` leads to, by where the mark is. -/
inductive OneAck (cfg : Config) (io : SendFile) (k mark off : Nat) :
    List Send × DataResult → Prop where
  | old {d' : SendData} (hoff : off ≤ mark) (hacked : d'.lastAcked = mark) (hone : OneWait io d')
      (htries : k ≤ d'.tries) : OneAck cfg io k mark off ([], .wait d')
  | next {d' : SendData} (hoff : ¬ off ≤ mark) (hlt : off < io.size) (hacked : d'.lastAcked = off)
      (hone : OneWait io d') (htries : k ≤ d'.tries) :
      OneAck cfg io k mark off ([io.packetAt off], .wait d')
  | all {flow : Flow} (hoff : ¬ off ≤ mark) (hge : io.size ≤ off) :
      OneAck cfg io k mark off ([], .complete flow)

/-- **An acknowledgement**: an old one changes nothing, one of the packet in
flight brings on the next. -/
theorem OneWait.ack (hok : (DataParams.mk cfg cfg io).Ok) (h : OneWait io d)
    (hk : k ≤ cfg.retries.ackRetries) (hsmall : cfg.retries.ackRetries + 6 < 256)
    (htries : k ≤ d.tries) {off : Nat} (hnear : off ≤ d.lastAcked ∨ off = d.nextToSend) :
    OneAck cfg io k d.lastAcked off ((onDataAck cfg io d off).run io) := by
  by_cases hold : off ≤ d.lastAcked
  · have heq : onDataAck cfg io d off = .stay { d with firstAckGrace := false } := if_pos hold
    rw [heq]
    exact .old hold rfl ⟨⟨h.flow_single, h.win_eq, h.acked_lt, h.next_eq, h.target_eq⟩, h.read_eq⟩
      htries
  · have hnext : off = d.nextToSend := hnear.resolve_left hold
    have hfirst : onDataAck cfg io d off
        = (if (advance cfg io d off).lastAcked < (advance cfg io d off).targetAck
          then .stay (advance cfg io d off) else dataLoop cfg io (advance cfg io d off)) :=
      if_neg hold
    have htarget : ¬ (advance cfg io d off).lastAcked < (advance cfg io d off).targetAck := by
      show ¬ off < d.targetAck
      rw [h.target_eq]
      omega
    rw [hfirst, if_neg htarget]
    -- the whole window has been acknowledged
    unfold dataLoop
    split
    · rename_i hlt
      have hflow : (advance cfg io d off).flow.Single := by
        show Flow.Single { (if d.flow.inRetransmit then d.flow
          else recordTransmissionSuccess cfg.txFlow d.flow) with inRetransmit := false }
        split
        · exact ⟨h.flow_single.negotiated_eq, h.flow_single.current_eq⟩
        · have hfs := h.flow_single.recordSuccess cfg.txFlow
          exact ⟨hfs.negotiated_eq, hfs.current_eq⟩
      have hpos := hok.maxPayload_gt
      dsimp only at hpos
      -- `inflight` is recounted from the bytes behind the mark, of which there are none
      have hinfl : (advance cfg io d off).inflight = 0 := by
        show ((if d.nextToSend > off then d.nextToSend - off else 0)
          + io.maxPayload - 1) / io.maxPayload % 2 ^ 32 = 0
        rw [if_neg (by omega), Nat.div_eq_of_lt (by omega), Nat.zero_mod]
      have hready : OneReady io { advance cfg io d off with
          tries := windowTries cfg io (advance cfg io d off) } :=
        ⟨hflow, h.win_eq, hinfl, hlt, hnext.symm, h.read_eq⟩
      obtain ⟨d', heq, hacked, htr, hone⟩ := hready.fill hok.maxPayload_gt
      show OneAck cfg io k d.lastAcked off (fillAndWait io _)
      rw [heq]
      refine .next hold hlt hacked hone ?_
      rw [htr]
      show k ≤ windowTries cfg io (advance cfg io d off)
      exact le_windowTries hk hsmall io _
    · rename_i hge
      exact .all hold (Nat.not_lt.mp hge)

/-- **A silent round** sends the packet again. -/
theorem OneWait.silent (hok : (DataParams.mk cfg cfg io).Ok) (h : OneWait io d)
    (htries : k + 1 ≤ d.tries) :
    ∃ d', (onAckTimeout cfg d).run io = ([io.packetAt d.lastAcked], .wait d')
      ∧ d'.lastAcked = d.lastAcked ∧ OneWait io d' ∧ k ≤ d'.tries := by
  have hsize := hok.size_lt
  have hlt := h.acked_lt
  dsimp only at hsize
  have hfs := h.flow_single.recordError cfg.txFlow
  have hready : OneReady io
      { rewind cfg d (toSigned 64 d.lastAcked) with tries := d.tries - 1 } := by
    refine ⟨⟨hfs.negotiated_eq, hfs.current_eq⟩, ?_, rfl, hlt, rfl, ?_⟩
    · show Flow.window { recordTransmissionError cfg.txFlow d.flow with inRetransmit := true } = 1
      simp only [Flow.window, hfs.current_eq]
      rfl
    · -- the handle is put back to the mark
      have hpos : (if d.pos ≠ d.lastAcked
          then fseekSet d.pos (toSigned 64 d.lastAcked) else d.pos) = d.lastAcked := by
        split
        · exact fseekSet_of_lt (by omega) _
        · rename_i hp
          simpa using hp
      simp only [SendData.readPos, rewind, ne_eq, not_true_eq_false, if_false]
      simpa using hpos
  obtain ⟨d', heq, hacked, htr, hone⟩ := hready.fill hok.maxPayload_gt
  refine ⟨d', ?_, hacked, hone, ?_⟩
  · unfold onAckTimeout
    rw [if_neg (by omega)]
    exact heq
  · rw [htr]
    show k ≤ d.tries - 1
    omega

/-- **Any other packet** but a DATA_NAK is answered without a look at the
window. -/
theorem onAckFrame_unmoved (cfg : Config) (io : SendFile) {f : Frame}
    (hack : PacketType.ofByte f.type ≠ .dataAck) (hnak : PacketType.ofByte f.type ≠ .dataNak) :
    (∃ st, ∀ d, onAckFrame cfg io d f = .stop st) ∨ ∀ d, onAckFrame cfg io d f = .stay d := by
  unfold onAckFrame
  cases hrecv : recvControl io.mtu 32 f with
  | error st => exact Or.inl ⟨st, fun _ => rfl⟩
  | ok p =>
      have htype := recvControl_type hrecv
      rw [← htype] at hack hnak
      dsimp only
      split
      · exact Or.inl ⟨_, fun _ => rfl⟩
      · rename_i h
        exact absurd h hnak
      · rename_i h
        exact absurd h hack
      · exact Or.inl ⟨_, fun _ => rfl⟩
      · exact Or.inr fun _ => rfl

end Window

/-! ## §3. The sender. -/

/-- The packet a wait sends again. -/
def SendPc.request (cfg : Config) : SendPc → Option Send
  | .idle => none
  | .helloWait _ => some (sendHello cfg cfg.packetSize)
  | .resumeWait _ _ => some (sendBare .resumeReq 0)
  | .verifyWait _ _ _ payload => some (sendVerify payload)
  | .ackWait io d => some (io.packetAt d.lastAcked)
  | .doneWait size _ _ => some (sendBare .done size)
  | .eotWait _ => some (sendBare .eot 0)

/-- The same wait, with its own retries and flow control. -/
inductive SendPc.Alike (cfg : Config) : SendPc → SendPc → Prop where
  | idle : Alike cfg .idle .idle
  | helloWait (m n : Nat) : Alike cfg (.helloWait m) (.helloWait n)
  | resumeWait {content : Bytes} (hlt : content.length < 2 ^ 63) (m n : Nat) :
      Alike cfg (.resumeWait content m) (.resumeWait content n)
  | verifyWait {content : Bytes} (hlt : content.length < 2 ^ 63) (m n endOff : Nat)
      (payload : Bytes) :
      Alike cfg (.verifyWait content m endOff payload) (.verifyWait content n endOff payload)
  | ackWait {io : SendFile} {d d' : SendData} (hok : (DataParams.mk cfg cfg io).Ok)
      (hone : OneWait io d) (hone' : OneWait io d') (hacked : d'.lastAcked = d.lastAcked) :
      Alike cfg (.ackWait io d) (.ackWait io d')
  | doneWait (size m n : Nat) (skip : Bool) :
      Alike cfg (.doneWait size m skip) (.doneWait size n skip)
  | eotWait (m n : Nat) : Alike cfg (.eotWait m) (.eotWait n)

/-- The same session in the same wait. -/
def SendState.Alike (cfg : Config) (s t : SendState) : Prop :=
  ∃ pc flow, t = { s with pc := pc, flow := flow } ∧ s.pc.Alike cfg pc

theorem SendPc.Alike.request_eq {cfg : Config} {pc pc' : SendPc} (h : pc.Alike cfg pc') :
    pc'.request cfg = pc.request cfg := by
  cases h with
  | ackWait hok hone hone' hacked =>
      unfold SendPc.request
      dsimp only
      rw [hacked]
  | _ => rfl

theorem SendPc.Alike.idle_iff {cfg : Config} {pc pc' : SendPc} (h : pc.Alike cfg pc') :
    pc = .idle ↔ pc' = .idle := by
  cases h <;> simp

/-- The wait sits through `k` more silent rounds. -/
def SendPc.Lasts (k : Nat) : SendPc → Prop
  | .idle => True
  | .helloWait n | .resumeWait _ n | .verifyWait _ n _ _ | .doneWait _ n _ | .eotWait n => k ≤ n
  | .ackWait _ d => k ≤ d.tries

theorem SendPc.Lasts.mono {pc : SendPc} {k m : Nat} (h : pc.Lasts k) (hm : m ≤ k) :
    pc.Lasts m := by
  cases pc with
  | idle => trivial
  | helloWait n | resumeWait _ n | verifyWait _ n _ _ | doneWait _ n _ | eotWait n =>
      exact Nat.le_trans hm h
  | ackWait io d => exact Nat.le_trans hm h

/-- So does every wait the sender comes to; the budget of a large resumed file
does not wrap. -/
structure SendEnv.Lasts (env : SendEnv) (k : Nat) : Prop where
  hello_le : k ≤ env.cfg.retries.handshakeRetries
  ack_le : k ≤ env.cfg.retries.ackRetries
  ack_small : env.cfg.retries.ackRetries + 6 < 256

theorem SendEnv.Lasts.mono {env : SendEnv} {k m : Nat} (h : env.Lasts k) (hm : m ≤ k) :
    env.Lasts m :=
  ⟨Nat.le_trans hm h.hello_le, Nat.le_trans hm h.ack_le, h.ack_small⟩

/-- Ready for a data phase with a window of one packet. -/
structure SendState.Lone (s : SendState) : Prop where
  flow_single : s.flow.Single
  mtu_min : minPacketSize ≤ s.mtu
  mtu_max : s.mtu ≤ 65547

/-- What a step of the sender sends: nothing, its new request, or the header of
a file in front of it. -/
inductive SendState.Asks (cfg : Config) (last : Option PacketType) :
    List Send × SendState → Prop where
  | silent {s : SendState} : Asks cfg last ([], s)
  | request {s : SendState} {req : Send} (hreq : s.pc.request cfg = some req) :
      Asks cfg last ([req], s)
  | opens {s : SendState} {path : Option Bytes} {src : SourceFile} {content : Bytes} {n : Nat}
      (hpc : s.pc = .resumeWait content n)
      (hlast : last = some .hello ∨ last = some .doneAck) :
      Asks cfg last ([sendMeta path src, sendBare .resumeReq 0], s)

/-- Two alike sessions do the same. -/
structure SendState.Tracks (env : SendEnv) (k : Nat) (last : Option PacketType)
    (rs rt : List Send × SendState) : Prop where
  sends_eq : rs.1 = rt.1
  alike : rs.2.Alike env.cfg rt.2
  asks : SendState.Asks env.cfg last rt
  lasts : rs.2.pc.Lasts k

section Sender

variable {env : SendEnv} {k : Nat} {last : Option PacketType} {s : SendState}

theorem SendState.Tracks.silent {t : SendState} (h : s.Alike env.cfg t) (hl : s.pc.Lasts k) :
    SendState.Tracks env k last ([], s) ([], t) :=
  ⟨rfl, h, .silent, hl⟩

theorem SendState.Tracks.request {t : SendState} {req : Send} (h : s.Alike env.cfg t)
    (hl : s.pc.Lasts k) (hreq : t.pc.request env.cfg = some req) :
    SendState.Tracks env k last ([req], s) ([req], t) :=
  ⟨rfl, h, .request hreq, hl⟩

/-- The call returns. -/
theorem SendState.Tracks.ret (s : SendState) (pc : SendPc) (flow flow' : Flow) (st : Status) :
    SendState.Tracks env k last ([], { s with flow := flow' }.ret st)
      ([], { s with pc := pc, flow := flow }.ret st) :=
  .silent ⟨.idle, flow, rfl, .idle⟩ trivial

/-- The next file, or EOT. -/
theorem SendState.beginFile_tracks (henv : env.Lasts k) (s : SendState) (pc : SendPc)
    (flow : Flow) (hlast : last = some .hello ∨ last = some .doneAck) :
    SendState.Tracks env k last (s.beginFile env)
      ({ s with pc := pc, flow := flow }.beginFile env) := by
  unfold SendState.beginFile
  dsimp only
  split
  · exact .request ⟨_, flow, rfl, .eotWait _ _⟩ henv.ack_le rfl
  · split
    · exact .ret s pc flow s.flow .io
    · rename_i content hread
      obtain ⟨-, hlt⟩ := SourceFile.readable_spec hread
      exact ⟨rfl, ⟨_, flow, rfl, .resumeWait hlt _ _⟩, .opens rfl hlast, henv.ack_le⟩

/-- An acknowledgement in the data phase. -/
theorem SendState.Tracks.ack (henv : env.Lasts k) {io : SendFile}
    (hok : (DataParams.mk env.cfg env.cfg io).Ok) {mark off m : Nat}
    {rs rt : List Send × DataResult} (hs : OneAck env.cfg io k mark off rs)
    (ht : OneAck env.cfg io m mark off rt) (pc : SendPc) (flow : Flow) :
    SendState.Tracks env k last (s.onDataResult env io rs)
      ({ s with pc := pc, flow := flow }.onDataResult env io rt) := by
  cases hs with
  | old hoff hacked hone htries =>
      cases ht with
      | old hoff' hacked' hone' htries' =>
          exact .silent ⟨_, flow, rfl, .ackWait hok hone hone' (hacked'.trans hacked.symm)⟩ htries
      | next hoff' hlt hacked' hone' htries' => exact absurd hoff hoff'
      | all hoff' hge => exact absurd hoff hoff'
  | next hoff hlt hacked hone htries =>
      cases ht with
      | old hoff' hacked' hone' htries' => exact absurd hoff' hoff
      | next hoff' hlt' hacked' hone' htries' =>
          refine .request ⟨_, flow, rfl, .ackWait hok hone hone' (hacked'.trans hacked.symm)⟩
            htries ?_
          show some (io.packetAt _) = some (io.packetAt off)
          rw [hacked']
      | all hoff' hge => exact absurd hlt (Nat.not_lt.mpr hge)
  | all hoff hge =>
      cases ht with
      | old hoff' hacked' hone' htries' => exact absurd hoff' hoff
      | next hoff' hlt hacked' hone' htries' => exact absurd hlt (Nat.not_lt.mpr hge)
      | all hoff' hge' => exact .request ⟨_, _, rfl, .doneWait _ _ _ _⟩ henv.ack_le rfl

/-- The data phase begins, or has nothing to send. -/
theorem SendState.startFile_tracks (henv : env.Lasts k) {content : Bytes}
    (hlt : content.length < 2 ^ 63) (off : Nat) (hs : s.Lone) {pc : SendPc} {flow : Flow}
    (hf : flow.Single) :
    SendState.Tracks env k last (s.startFile env content off)
      ({ s with pc := pc, flow := flow }.startFile env content off) := by
  have hmin := hs.mtu_min
  simp only [minPacketSize] at hmin
  unfold SendState.startFile
  split
  · exact .ret s pc flow s.flow .io
  · dsimp only [SendState.started]
    have hmtu : ¬ s.mtu ≤ wireHeaderSize + wireTrailerSize := by
      simp only [wireHeaderSize, wireTrailerSize]
      omega
    rw [if_neg hmtu, if_neg hmtu]
    by_cases hoff : off < content.length
    · have hok : (DataParams.mk env.cfg env.cfg ⟨content, s.mtu, off⟩).Ok :=
        ⟨hs.mtu_min, hs.mtu_max, hlt, hoff⟩
      -- both windows are one packet wide, whatever the counters of `flow` say
      obtain ⟨d, heq, hacked, hone, htries⟩ :=
        startData_one hok hs.flow_single henv.ack_le henv.ack_small
      obtain ⟨d', heq', hacked', hone', -⟩ := startData_one hok hf henv.ack_le henv.ack_small
      rw [heq, heq']
      refine .request ⟨_, flow, rfl, .ackWait hok hone hone' (hacked'.trans hacked.symm)⟩ htries ?_
      show some (SendFile.packetAt _ _) = some (SendFile.packetAt _ off)
      rw [hacked']
    · have hge : (SendFile.mk content s.mtu off).size ≤ off := Nat.not_lt.mp hoff
      rw [startData_complete env.cfg s.flow hge, startData_complete env.cfg flow hge]
      exact .request ⟨_, _, rfl, .doneWait _ _ _ _⟩ henv.ack_le rfl

theorem SendState.onOutcome_tracks (henv : env.Lasts k) {content : Bytes}
    (hlt : content.length < 2 ^ 63) (o : ResumeOutcome) (hs : s.Lone) {pc : SendPc}
    {flow : Flow} (hf : flow.Single) :
    SendState.Tracks env k last (s.onOutcome env content o)
      ({ s with pc := pc, flow := flow }.onOutcome env content o) := by
  cases o with
  | start off => exact SendState.startFile_tracks henv hlt off hs hf
  | skip => exact .request ⟨_, flow, rfl, .doneWait _ _ _ _⟩ henv.ack_le rfl
  | verify endOff payload => exact .request ⟨_, flow, rfl, .verifyWait hlt _ _ _ _⟩ henv.ack_le rfl
  | fail st => exact .ret s pc flow s.flow st

/-- The HELLO is accepted or refused whatever has been counted before. -/
theorem adoptPeerHello_flow (cfg : Config) (peer : Handshake) :
    (∃ e, ∀ flow, adoptPeerHello cfg flow peer = .error e)
      ∨ ∃ mtu, ∀ flow, adoptPeerHello cfg flow peer = .ok ⟨mtu, initialFlow cfg peer flow⟩ := by
  unfold adoptPeerHello
  split
  · exact Or.inl ⟨_, fun _ => rfl⟩
  · split
    · exact Or.inl ⟨_, fun _ => rfl⟩
    · dsimp only
      generalize (if peer.packetSize < cfg.packetSize then peer.packetSize else cfg.packetSize)
        = negotiated
      split
      · exact Or.inl ⟨_, fun _ => rfl⟩
      · split
        · exact Or.inl ⟨_, fun _ => rfl⟩
        · exact Or.inr ⟨_, fun _ => rfl⟩

/-- The handshake wait. -/
theorem SendState.onHelloFrame_tracks (henv : env.Lasts k) {m n : Nat} {flow : Flow}
    (hpc : s.pc = .helloWait m) (hl : k ≤ m) {f : Frame} :
    SendState.Tracks env k (some (PacketType.ofByte f.type)) (s.onHelloFrame env f)
      ({ s with pc := .helloWait n, flow := flow }.onHelloFrame env f) := by
  have halike : s.Alike env.cfg { s with pc := .helloWait n, flow := flow } :=
    ⟨_, flow, rfl, by rw [hpc]; exact .helloWait m n⟩
  have hlasts : s.pc.Lasts k := by
    rw [hpc]
    exact hl
  unfold SendState.onHelloFrame
  dsimp only
  cases hrecv : recvControl s.mtu wireHandshakeSize f with
  | error st => exact .ret s _ flow s.flow st
  | ok p =>
      rw [← recvControl_type hrecv]
      dsimp only
      split
      · exact .ret s _ flow s.flow .aborted
      · exact .ret s _ flow s.flow .protocol
      · rename_i htype
        split
        · exact .silent halike hlasts
        -- the first file, or EOT, behind the adopted HELLO
        · rcases adoptPeerHello_flow env.cfg (deserializeHandshake p.payload) with ⟨e, he⟩ | ⟨mtu, hok⟩
          · have hnil := (adoptPeerHello_error (he s.flow)).1
            rw [he, he]
            dsimp only
            rw [hnil]
            exact .ret s _ flow s.flow e.2
          · rw [hok, hok]
            dsimp only
            refine SendState.beginFile_tracks (k := k) henv
              { s with
                handshakeDone := true, mtu := mtu,
                flow := initialFlow env.cfg (deserializeHandshake p.payload) s.flow,
                turn := s.turn + 1 } _ _ (Or.inl ?_)
            rw [htype]
      · exact .silent halike hlasts

/-- **The sender on a frame.** -/
theorem SendState.onFrame_tracks (henv : env.Lasts k) {t : SendState} (h : s.Alike env.cfg t)
    (hl : s.pc.Lasts k) (hs : s.pc.exchange = some .file → s.Lone)
    (ht : t.pc.exchange = some .file → t.Lone) {p : Send} (hp : p.type.isNamed = true)
    (hnak : p.type ≠ .dataNak)
    (hack : ∀ io d, s.pc = .ackWait io d → p.type = .dataAck →
      ∃ off, p = sendBare .dataAck off ∧ off < 2 ^ 64 ∧ (off ≤ d.lastAcked ∨ off = d.nextToSend)) :
    SendState.Tracks env k (some p.type) (s.onFrame env p.frame) (t.onFrame env p.frame) := by
  have htype := Send.frame_type hp
  obtain ⟨pc, flow, rfl, hpc⟩ := h
  generalize hspc : s.pc = spc at hpc
  have halike : s.Alike env.cfg { s with pc := pc, flow := flow } :=
    ⟨pc, flow, rfl, by rw [hspc]; exact hpc⟩
  unfold SendState.onFrame
  dsimp only
  rw [hspc]
  cases hpc with
  | idle => exact .silent halike hl
  | helloWait m n =>
      rw [← htype]
      rw [hspc] at hl
      exact SendState.onHelloFrame_tracks henv hspc hl
  | @resumeWait content hlt m n =>
      dsimp only
      split
      · exact .ret s _ flow s.flow _
      · split
        · split
          · exact .ret s _ flow s.flow .protocol
          · exact SendState.onOutcome_tracks henv hlt _ (hs (by rw [hspc]; rfl)) (ht rfl).flow_single
        · exact .silent halike hl
  | @verifyWait content hlt m n endOff payload =>
      dsimp only
      split
      · exact .ret s _ flow s.flow _
      · split
        · split
          · exact .ret s _ flow s.flow .protocol
          · exact SendState.onOutcome_tracks henv hlt _ (hs (by rw [hspc]; rfl)) (ht rfl).flow_single
        · exact .silent halike hl
  | @ackWait io d d' hok hone hone' hacked =>
      dsimp only
      rw [hspc] at hl
      by_cases hdata : p.type = .dataAck
      · obtain ⟨off, rfl, hoff, hnear⟩ := hack io d hspc hdata
        have hnear' : off ≤ d'.lastAcked ∨ off = d'.nextToSend := by
          rw [hone'.next_eq, hacked, ← hone.next_eq]
          exact hnear
        have hmark := hone'.ack hok (Nat.zero_le _) henv.ack_small (Nat.zero_le _) hnear'
        rw [hacked] at hmark
        rw [onAckFrame_ack env.cfg d hok.mtu_min hoff, onAckFrame_ack env.cfg d' hok.mtu_min hoff]
        exact SendState.Tracks.ack (s := { s with flow := d.flow }) henv hok
          (hone.ack hok henv.ack_le henv.ack_small hl hnear) hmark _ _
      · rcases onAckFrame_unmoved env.cfg io (f := p.frame) (by rw [htype]; exact hdata)
          (by rw [htype]; exact hnak) with ⟨st, hstop⟩ | hstay
        · rw [hstop, hstop]
          exact .ret s _ d'.flow d.flow st
        · rw [hstay, hstay]
          exact .silent ⟨_, d'.flow, rfl, .ackWait hok hone hone' hacked⟩ hl
  | doneWait size m n skip =>
      dsimp only
      split
      · exact .ret s _ flow s.flow _
      · rename_i q hq
        split
        · rename_i hdone
          refine SendState.beginFile_tracks (k := k) henv
            { s with
              flow := if skip then s.flow else recordTransmissionSuccess env.cfg.txFlow s.flow,
              idx := s.idx + 1, turn := s.turn + 1 } _ _ (Or.inr ?_)
          rw [← htype, ← controlFrame_type hq, hdone]
        · exact .silent halike hl
  | eotWait m n =>
      dsimp only
      split
      · exact .ret s _ flow s.flow _
      · split
        · exact .silent ⟨_, flow, rfl, .idle⟩ trivial
        · exact .silent halike hl

/-- **A silent round** sends the request again and changes nothing else. -/
theorem SendState.onTimeout_alike {t : SendState} (h : s.Alike env.cfg t)
    (hl : s.pc.Lasts (k + 1)) {req : Send} (hreq : t.pc.request env.cfg = some req)
    {timer : HelloTimer} (htimer : timer ≠ .expired) :
    (timer = .pace ∧ s.onTimeout env timer = ([], s))
      ∨ ∃ s', s.onTimeout env timer = ([req], s') ∧ s'.Alike env.cfg t ∧ s'.pc.Lasts k := by
  obtain ⟨pc, flow, rfl, hpc⟩ := h
  rw [hpc.request_eq] at hreq
  generalize hspc : s.pc = spc at hpc hl hreq
  have hdrop : ∀ {n : Nat}, k + 1 ≤ n → n ≠ 0 ∧ k ≤ n - 1 := by
    intro n hn
    omega
  unfold SendState.onTimeout
  rw [hspc]
  cases hpc with
  | idle => cases hreq
  | helloWait m n =>
      cases hreq
      obtain ⟨hne, hle⟩ := hdrop hl
      cases timer with
      | expired => exact absurd rfl htimer
      | resend =>
          dsimp only
          rw [if_neg hne]
          exact Or.inr ⟨_, rfl, ⟨_, flow, rfl, .helloWait _ _⟩, hle⟩
      | pace => exact Or.inl ⟨rfl, rfl⟩
  | resumeWait hlt m n =>
      cases hreq
      obtain ⟨hne, hle⟩ := hdrop hl
      dsimp only
      rw [if_neg hne]
      exact Or.inr ⟨_, rfl, ⟨_, flow, rfl, .resumeWait hlt _ _⟩, hle⟩
  | verifyWait hlt m n endOff payload =>
      cases hreq
      obtain ⟨hne, hle⟩ := hdrop hl
      dsimp only
      rw [if_neg hne]
      exact Or.inr ⟨_, rfl, ⟨_, flow, rfl, .verifyWait hlt _ _ _ _⟩, hle⟩
  | @ackWait io d d' hok hone hone' hacked =>
      cases hreq
      obtain ⟨d₁, heq, hacked₁, hone₁, hle⟩ := hone.silent hok hl
      dsimp only
      rw [heq]
      exact Or.inr ⟨_, rfl, ⟨_, flow, rfl, .ackWait hok hone₁ hone' (hacked.trans hacked₁.symm)⟩,
        hle⟩
  | doneWait size m n skip =>
      cases hreq
      obtain ⟨hne, hle⟩ := hdrop hl
      dsimp only
      rw [if_neg hne]
      exact Or.inr ⟨_, rfl, ⟨_, flow, rfl, .doneWait _ _ _ _⟩, hle⟩
  | eotWait m n =>
      cases hreq
      obtain ⟨hne, hle⟩ := hdrop hl
      dsimp only
      rw [if_neg hne]
      exact Or.inr ⟨_, rfl, ⟨_, flow, rfl, .eotWait _ _⟩, hle⟩

/-- A call before the handshake. -/
theorem SendState.call_tracks (henv : env.Lasts k) {t : SendState} (h : s.Alike env.cfg t)
    (hdone : s.handshakeDone = false) (batch : List SourceFile) :
    SendState.Tracks env k last (s.call env batch) (t.call env batch) := by
  obtain ⟨pc, flow, rfl, -⟩ := h
  unfold SendState.call
  dsimp only
  split
  · exact .ret { s with batch := batch, idx := 0 } pc flow s.flow .invalidArg
  · rw [hdone]
    exact .request ⟨_, flow, rfl, .helloWait _ _⟩ henv.hello_le rfl

end Sender

end ValProtocol
