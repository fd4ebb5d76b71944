/-
  ValProtocol.Session.Token
  ─────────────────────────
  Runs without faults with a window of one packet, seen as the way of a single
  token: the request the sender waits with, then the receiver's answer to it,
  then the next request.

  Only SEND_META breaks the alternation: it goes out in front of the
  RESUME_REQ of its file and has no answer of its own.

    • `solo_step` — what the data phase of such a session keeps, whatever the
      environment does,
    • `RecvState.onFrame_replies` — what the receiver makes of a request,
    • `guided_step` — a run without faults is never without its token, since
      it leads to the end of both calls.
-/
import ValProtocol.Session.Alike
import ValProtocol.Session.Delivery
import ValProtocol.Session.FaultFree

namespace ValProtocol

/-! ## §1. The data phase. -/

theorem SessionParams.Plain.regular {c : SessionParams} (hc : c.Plain) : c.Regular :=
  ⟨hc.snd_ok, hc.rcv_ok, hc.no_validator, hc.snd_crc, hc.rcv_crc, hc.mtu_max⟩

/-- What every run with a window of one packet keeps. -/
structure Solo (c : SessionParams) (batch : List SourceFile) (s : SessionSys) : Prop where
  joint : ∃ D, Joint c batch D s
  carried : Carried (fun _ _ => True) c batch s

section Solo

variable {c : SessionParams} {batch : List SourceFile} {s s' : SessionSys} {f : RecvFile}
  {d : RecvData}

theorem solo_step (hc : c.Plain) (hw : adoptedWindow c.snd.cfg c.rcv.cfg = 1) (h : Solo c batch s)
    {l : SessionLabel} (hstep : s.step c l = some s') : Solo c batch s' := by
  obtain ⟨D, hj⟩ := h.joint
  have hlands := windowLands_of_long64 hc.snd_long hc.rcv_long s l
  exact ⟨joint_step hc.regular hj hlands hstep,
    carried_step hc.regular (shelter_single hw).toRelay hj h.carried hlands hstep⟩

/-- A sender inside a file can start its data phase. -/
theorem Solo.snd_lone (hc : c.Plain) (hw : adoptedWindow c.snd.cfg c.rcv.cfg = 1)
    (h : Solo c batch s) (hex : s.snd.pc.exchange = some .file) : s.snd.Lone := by
  obtain ⟨D, hj⟩ := h.joint
  obtain ⟨hmtu, hflow⟩ := hj.snd_ready hex
  refine ⟨hflow.bounded.single (hflow.cap_eq.trans hw), ?_, ?_⟩
  · rw [hmtu]
    exact hc.mtu_min
  · rw [hmtu]
    exact hc.mtu_max

/-- **Stop-and-wait inside the session**: the transfer that shows in it. -/
theorem Solo.lockstep (hw : adoptedWindow c.snd.cfg c.rcv.cfg = 1) (h : Solo c batch s)
    (hpc : s.rcv.pc = .dataWait f d) :
    (∃ off, Still c f off d s)
      ∨ ∃ t : DataParams, ∃ e x, t.Ok ∧ t.rcvCfg = c.rcv.cfg ∧ t.io.mtu = s.rcv.mtu
        ∧ Lockstep t e x ∧ x.written = d.written ∧ s.snd.Matches t.io x.snd
        ∧ x.toRcv = bodyOf s.toRcv ∧ x.toSnd = bodyOf s.toSnd := by
  obtain ⟨D, hj⟩ := h.joint
  have hphase : s.rcv.pc.phase = .file f := by
    rw [hpc]
    rfl
  obtain ⟨st, -, -, -, -, hstill | ⟨flow, x, hmir⟩⟩ := h.carried.data_at f d hpc
  · exact Or.inl ⟨_, hstill⟩
  · have hflow := hmir.flow_ok
    have hlock := lockstep_embedded hmir.whole (hflow.bounded.single (hflow.cap_eq.trans hw))
      hmir.run
    refine Or.inr ⟨_, _, x, hmir.whole, rfl, (hj.rcv_mtu hphase).symm, hlock, ?_, hmir.snd_at,
      hmir.down_eq, hmir.up_eq⟩
    rw [DataSys.written, hmir.rcv_at]
    rfl

theorem mem_bodyOf_of {items : List Item} {it : Item} (hit : it ∈ items)
    (hbody : it.send.type.isBody = true) : it.send ∈ bodyOf items :=
  List.mem_filter.mpr ⟨List.mem_map_of_mem hit, hbody⟩

/-- DATA on its way names its offset, and the receiver has reached it. -/
theorem Solo.flight (hw : adoptedWindow c.snd.cfg c.rcv.cfg = 1) (h : Solo c batch s)
    (hpc : s.rcv.pc = .dataWait f d) {it : Item} (hit : it ∈ s.toRcv)
    (hdata : it.send.type = .data) :
    ∃ t : DataParams, t.Ok ∧ t.rcvCfg = c.rcv.cfg ∧ t.io.mtu = s.rcv.mtu
      ∧ FlightOk t.io d.written it.send ∧ it.send.includeDataOffset = true := by
  have hbody : it.send.type.isBody = true := by
    rw [hdata]
    rfl
  rcases h.lockstep hw hpc with ⟨off, hstill⟩
    | ⟨t, e, x, hok, hcfg, hmtu, hlock, hwritten, -, hdown, -⟩
  · have hdone := (hstill.req_ok it hit hbody).1
    rw [hdata] at hdone
    cases hdone
  · have hmem : it.send ∈ x.toRcv := by
      rw [hdown]
      exact mem_bodyOf_of hit hbody
    refine ⟨t, hok, hcfg, hmtu, ?_, hlock.explicit _ hmem hdata⟩
    rw [← hwritten]
    rcases hlock.intact.flight_ok _ hmem with hfl | hdone
    · exact hfl
    · rw [hdone] at hdata
      cases hdata

/-- A DATA_ACK on its way is one of the packet in flight, or an old one. -/
theorem Solo.acks_near (hw : adoptedWindow c.snd.cfg c.rcv.cfg = 1) (h : Solo c batch s)
    (hpc : s.rcv.pc = .dataWait f d) {io : SendFile} {ds : SendData}
    (hspc : s.snd.pc = .ackWait io ds) {it : Item} (hit : it ∈ s.toSnd)
    (hack : it.send.type = .dataAck) :
    ∃ off, it.send = sendBare .dataAck off ∧ off < 2 ^ 64
      ∧ (off ≤ ds.lastAcked ∨ off = ds.nextToSend) := by
  have hbody : it.send.type.isBody = true := by
    rw [hack]
    rfl
  rcases h.lockstep hw hpc with ⟨off, hstill⟩
    | ⟨t, e, x, hok, -, -, hlock, -, hsnd, -, hup⟩
  · exact absurd hspc (hstill.snd_out io ds)
  · have hmem : it.send ∈ x.toSnd := by
      rw [hup]
      exact mem_bodyOf_of hit hbody
    have hdata : x.snd = .data ds := by
      generalize x.snd = ph at hsnd
      cases hsnd with
      | data hpc' =>
          rw [hspc] at hpc'
          cases hpc'
          rfl
      | doneWait hpc' _ =>
          rw [hspc] at hpc'
          cases hpc'
      | returned hpc' =>
          rw [hspc] at hpc'
          cases hpc'
    obtain ⟨off, hoff, heq⟩ := hlock.intact.acks_ok _ hmem
    have hsize := hok.size_lt
    have hle := hlock.intact.file_ok.written_le
    have hnear := (hlock.near ds hdata).acks_near _ hmem hack
    rcases heq with heq | heq
    · rw [heq] at hnear
      refine ⟨off, heq, ?_, hnear⟩
      have hw' : x.written ≤ t.io.size := hle
      omega
    · rw [heq] at hack
      cases hack

end Solo

/-! ## §2. Answers. -/

/-- May the receiver be asked for this packet once more? -/
def RecvPc.repeats (p : Send) : RecvPc → Bool
  | .verifyWait _ _ _ _ => p.type == .resumeResp
  | .dataWait _ _ => p.type == .dataAck
  | _ => false

/-- The receiver makes nothing of this request any more. -/
def RecvPc.Deaf (req : Send) : RecvPc → Prop
  | .idle => True
  | .metaWait _ => req.type ≠ .eot ∧ req.type ≠ .sendMeta
  | .dataWait _ _ | .skipWait _ _ => req.type = .resumeReq ∨ req.type = .verify
  | _ => False

/-- The receiver has answered `req` with `p`. -/
structure Told (env : RecvEnv) (req p : Send) (rcv : RecvState) : Prop where
  not_nak : p.type ≠ .dataNak
  header_of : p.type = .hello ∨ p.type = .doneAck → ∃ n, rcv.pc = .metaWait n
  data_of : p.type = .dataAck → ∃ f d, rcv.pc = .dataWait f d
  no_peek : ∀ f, rcv.pc ≠ .neverPeek f
  again : rcv.pc.repeats p = true → ∀ s : RecvState, s.Alike rcv →
    (s.onFrame env req.frame .good).1 = [p] ∧ (s.onFrame env req.frame .good).2.Alike rcv
  spent : rcv.pc.repeats p = false → rcv.pc.Deaf req ∧ req.type ≠ .data

/-- What the receiver makes of a request: nothing, an error, or an answer. -/
inductive RecvState.Replies (env : RecvEnv) (req : Send) : List Send × RecvState → Prop where
  | silent {s : RecvState} : Replies env req ([], s)
  | fails {r : List Send × RecvState} (hlog : ∃ e ∈ r.2.log, e.2 ≠ .ok) : Replies env req r
  | tells {p : Send} {s : RecvState} (h : Told env req p s) : Replies env req ([p], s)

section Replies

variable {env : RecvEnv} {req : Send} {s : RecvState} {f : RecvFile}

/-- The call returns with an error. -/
theorem RecvState.Replies.ret (sends : List Send) {st : Status} (hst : st ≠ .ok) :
    RecvState.Replies env req (sends, s.ret st) :=
  .fails ⟨_, List.mem_append_right _ (List.mem_singleton_self _), hst⟩

/-- An answer that is given once. -/
theorem Told.once {p : Send} (hnak : p.type ≠ .dataNak) (hack : p.type ≠ .dataAck)
    (hheader : p.type = .hello ∨ p.type = .doneAck → ∃ n, s.pc = .metaWait n)
    (hpeek : ∀ f, s.pc ≠ .neverPeek f) (hrep : s.pc.repeats p = false)
    (hdeaf : s.pc.Deaf req ∧ req.type ≠ .data) : Told env req p s :=
  ⟨hnak, hheader, fun h => absurd h hack, hpeek, (fun h => by rw [hrep] at h; cases h),
    fun _ => hdeaf⟩

/-- The answer that ends an exchange is. -/
theorem Told.final {p : Send} (hp : p.type.isFinal = true)
    (hheader : p.type = .hello ∨ p.type = .doneAck → ∃ n, s.pc = .metaWait n)
    (hpeek : ∀ f, s.pc ≠ .neverPeek f) (hrep : s.pc.repeats p = false)
    (hdeaf : s.pc.Deaf req ∧ req.type ≠ .data) : Told env req p s :=
  .once (fun h => by rw [h] at hp; cases hp) (fun h => by rw [h] at hp; cases hp) hheader hpeek hrep
    hdeaf

/-- Without a validator the start is settled without another packet. -/
theorem RecvState.settle_quiet (hv : env.validator = none) (s : RecvState) (f : RecvFile)
    (off : Nat) (skipping ackSkip : Bool) (fs : FsOutcome) :
    (s.settle env f off skipping ackSkip fs).1 = []
      ∧ ∀ p : Send, p.type ≠ .dataAck →
        (∀ g, (s.settle env f off skipping ackSkip fs).2.pc ≠ .neverPeek g)
        ∧ (s.settle env f off skipping ackSkip fs).2.pc.repeats p = false
        ∧ (req.type = .resumeReq ∨ req.type = .verify →
          (s.settle env f off skipping ackSkip fs).2.pc.Deaf req) := by
  have hopen : ∀ (s₁ : RecvState) (off : Nat) (skipping : Bool) (p : Send), p.type ≠ .dataAck →
      (∀ g, (s₁.openTarget env f off skipping fs).pc ≠ .neverPeek g)
      ∧ (s₁.openTarget env f off skipping fs).pc.repeats p = false
      ∧ (req.type = .resumeReq ∨ req.type = .verify →
        (s₁.openTarget env f off skipping fs).pc.Deaf req) := by
    intro s₁ off skipping p hp
    unfold RecvState.openTarget
    split
    · exact ⟨nofun, rfl, id⟩
    · split
      · exact ⟨nofun, rfl, fun _ => trivial⟩
      · exact ⟨nofun, beq_eq_false_iff_ne.mpr hp, id⟩
  have hval : ∀ (s₁ : RecvState), s₁.validate env f ackSkip = ([], .error .invalidArg)
      ∨ s₁.validate env f ackSkip = ([], .ok false) := by
    intro s₁
    unfold RecvState.validate
    rw [hv]
    split
    · exact Or.inl rfl
    · exact Or.inr rfl
  unfold RecvState.settle
  dsimp only
  split
  · rcases hval (s.started f off) with heq | heq
    · rw [heq]
      exact ⟨rfl, fun p _ => ⟨nofun, rfl, fun _ => trivial⟩⟩
    · rw [heq]
      exact ⟨rfl, fun p hp => hopen _ _ _ p hp⟩
  · exact ⟨rfl, fun p hp => hopen _ _ _ p hp⟩

/-- The answer to a question about the start settles it. -/
theorem RecvState.Replies.settles (hv : env.validator = none) (off : Nat)
    (skipping ackSkip : Bool) (fs : FsOutcome) {p : Send}
    (hp : p.type = .resumeResp ∨ p.type = .verify)
    (hreq : req.type = .resumeReq ∨ req.type = .verify) :
    RecvState.Replies env req (p :: (s.settle env f off skipping ackSkip fs).1,
      (s.settle env f off skipping ackSkip fs).2) := by
  have hne : ∀ ty : PacketType, ty ≠ .resumeResp → ty ≠ .verify → p.type ≠ ty := by
    intro ty h1 h2 h
    rcases hp with hp | hp
    · exact h1 (h.symm.trans hp)
    · exact h2 (h.symm.trans hp)
  obtain ⟨hnil, hquiet⟩ := RecvState.settle_quiet hv s f off skipping ackSkip fs
  obtain ⟨hpeek, hrep, hdeaf⟩ := hquiet p (hne _ (by decide) (by decide))
  rw [hnil]
  refine .tells (.once (hne _ (by decide) (by decide)) (hne _ (by decide) (by decide)) ?_ hpeek hrep
    ⟨hdeaf hreq, fun h => by rw [h] at hreq; rcases hreq with h | h <;> cases h⟩)
  rintro (h | h)
  · exact absurd h (hne _ (by decide) (by decide))
  · exact absurd h (hne _ (by decide) (by decide))

/-- RESUME_REQ behind the receiver's own question. -/
theorem RecvState.onFrame_asked {tries off : Nat} {resp : Bytes}
    (hpc : s.pc = .verifyWait f tries resp off) :
    s.onFrame env (sendBare .resumeReq 0).frame .good = ([⟨.resumeResp, resp, 0, true⟩], s) := by
  have hraw : (sendBare .resumeReq 0).Raw := ⟨rfl, (fun h => by cases h), rfl, by decide⟩
  obtain ⟨q, hq, htype, -, -⟩ := hraw.controlFrame_eq s.mtu wireVerifyReqPayloadSize (by decide)
    (Nat.zero_le _) (Nat.zero_le _) (fun h => by cases h) (fun h => by cases h)
  have ht : q.type = .resumeReq := htype
  unfold RecvState.onFrame
  rw [hpc]
  dsimp only
  rw [hq]
  dsimp only
  rw [ht]

/-- A question that may be repeated. -/
theorem Told.question {tries off : Nat} {resp : Bytes}
    (hpc : s.pc = .verifyWait f tries resp off) :
    Told env (sendBare .resumeReq 0) ⟨.resumeResp, resp, 0, true⟩ s where
  not_nak := fun h => by cases h
  header_of := fun h => by rcases h with h | h <;> cases h
  data_of := fun h => by cases h
  no_peek := fun g h => by rw [hpc] at h; cases h
  spent := fun h => by rw [hpc] at h; cases h
  again := by
    intro _ s₁ h
    obtain ⟨pc, rfl, hal⟩ := h
    dsimp only at hpc
    rw [hpc] at hal
    generalize hspc : s₁.pc = spc at hal
    cases hal with
    | verifyWait f m n resp off =>
        rw [RecvState.onFrame_asked hspc]
        exact ⟨rfl, _, rfl, by rw [hspc, hpc]; exact .verifyWait _ _ _ _ _⟩

theorem RecvState.answerResume_replies (hv : env.validator = none) (fs : FsOutcome) :
    RecvState.Replies env (sendBare .resumeReq 0) (s.answerResume env f fs) := by
  unfold RecvState.answerResume
  dsimp only
  split
  · exact .settles hv _ _ _ fs (Or.inl rfl) (Or.inl rfl)
  · exact .settles hv _ _ _ fs (Or.inl rfl) (Or.inl rfl)
  · exact .settles hv _ _ _ fs (Or.inl rfl) (Or.inl rfl)
  · exact .tells (.question rfl)
  · exact .ret _ (by decide)

theorem RecvState.answerVerify_replies (hv : env.validator = none) (hreq : req.type = .verify)
    (off : Nat) (payload : Bytes) (fs : FsOutcome) : RecvState.Replies env req (s.answerVerify env f off payload fs) := by
  unfold RecvState.answerVerify
  split
  · exact .ret _ (by decide)
  · dsimp only
    split
    · exact .settles hv _ _ _ fs (Or.inr rfl) (Or.inr hreq)
    · exact .settles hv _ _ _ fs (Or.inr rfl) (Or.inr hreq)
    · exact .settles hv _ _ _ fs (Or.inr rfl) (Or.inr hreq)

/-- Behind the receiver's position the acknowledgement is given once more. -/
theorem onData_behind_eq {d : RecvData} {p : Packet} (short : Option Nat)
    (hoff : p.off ≠ uint64Max) (hlt : p.off < d.written) (hack : d.pktsSinceAck = 0) :
    onData d p short = ([sendBare .dataAck d.written], .wait d) := by
  have hne : p.off ≠ d.written := by omega
  have hquiet : cadence d = ([], d) := by
    unfold cadence
    rw [hack]
    rfl
  simp only [onData, hoff, if_false, hne, hlt, if_true, hquiet, List.append_nil]

/-- **One packet of the data loop**, and the same packet once more. -/
theorem onDataFrame_again {t : DataParams} (ht : t.Ok) {d : RecvData} {p : Send}
    (hp : FlightOk t.io d.written p) (hexp : p.includeDataOffset = true)
    (hack : d.pktsSinceAck = 0) :
    ∃ d', onDataFrame t.rcvCfg t.io.mtu d p.frame none
        = ([sendBare .dataAck d'.written], .wait d')
      ∧ ∀ m, onDataFrame t.rcvCfg t.io.mtu { d' with tries := m } p.frame none
        = ([sendBare .dataAck d'.written],
            .wait { d' with tries := t.rcvCfg.retries.dataRetries }) := by
  have hsize := ht.size_lt
  have hpos := hp.1.payload_pos
  have hend := hp.1.end_le
  have hle := hp.2 hexp
  have hrecv := hp.1.recv ht
  rw [hexp, if_pos rfl] at hrecv
  have hoff : p.offset ≠ uint64Max := by
    simp only [uint64Max]
    omega
  have hbehind : ∀ e : RecvData, p.offset < e.written → e.pktsSinceAck = 0 →
      ∀ m, onDataFrame t.rcvCfg t.io.mtu { e with tries := m } p.frame none
        = ([sendBare .dataAck e.written],
            .wait { e with tries := t.rcvCfg.retries.dataRetries }) := by
    intro e hlt hq m
    simp only [onDataFrame, hrecv]
    exact onData_behind_eq none hoff hlt hq
  by_cases hin : p.offset = d.written
  · have hmod : (d.written + p.payload.length) % 2 ^ 64 = d.written + p.payload.length :=
      Nat.mod_eq_of_lt (by omega)
    rcases onInOrder_cases { d with tries := t.rcvCfg.retries.dataRetries } p.payload none
      with ⟨k, -, heq⟩ | heq
    · -- nothing is cut short
      exfalso
      unfold onInOrder at heq
      simp only [Option.filter_none, ite_self] at heq
      split at heq
      · cases heq
      · split at heq <;> cases heq
    · refine ⟨{ d with
          file := d.file ++ p.payload, written := d.written + p.payload.length,
          pktsSinceAck := 0, tries := t.rcvCfg.retries.dataRetries }, ?_, ?_⟩
      · simp only [onDataFrame, hrecv]
        rw [onData_inOrder none (Or.inr hin)]
        dsimp only at heq ⊢
        rw [heq, hmod]
      · intro m
        exact hbehind { d with
          file := d.file ++ p.payload, written := d.written + p.payload.length,
          pktsSinceAck := 0, tries := t.rcvCfg.retries.dataRetries }
          (by dsimp only; omega) rfl m
  · refine ⟨{ d with tries := t.rcvCfg.retries.dataRetries }, ?_, ?_⟩
    · exact hbehind d (by omega) hack d.tries
    · intro m
      exact hbehind d (by omega) hack m

/-- The acknowledgement of a DATA packet may be asked for again. -/
theorem RecvState.onFrame_data_replies {d : RecvData} (hpc : s.pc = .dataWait f d)
    (hack : d.pktsSinceAck = 0) {t : DataParams} (ht : t.Ok) (hcfg : t.rcvCfg = env.cfg)
    (hmtu : t.io.mtu = s.mtu) (hp : FlightOk t.io d.written req)
    (hexp : req.includeDataOffset = true) :
    RecvState.Replies env req (s.onFrame env req.frame .good) := by
  obtain ⟨d', hfirst, hagain⟩ := onDataFrame_again ht hp hexp hack
  rw [hcfg, hmtu] at hfirst hagain
  have hstep : s.onFrame env req.frame .good
      = ([sendBare .dataAck d'.written], { s with pc := .dataWait f d' }) := by
    unfold RecvState.onFrame
    rw [hpc]
    show s.onRecvResult env f (onDataFrame env.cfg s.mtu d req.frame none) = _
    rw [hfirst]
    rfl
  rw [hstep]
  refine .tells ⟨(fun h => by cases h), (fun h => by rcases h with h | h <;> cases h),
    fun _ => ⟨f, d', rfl⟩, nofun, ?_, fun h => by cases h⟩
  intro _ s₁ h
  obtain ⟨pc, heq, hal⟩ := h
  obtain ⟨pc₁, done, mtu, flow, dir, files, starts, completed, log, turn⟩ := s₁
  cases heq
  dsimp only at hal hagain
  generalize hd : RecvPc.dataWait f d' = pc' at hal
  cases hal with
  | dataWait g e m n =>
      cases hd
      have hone := hagain m
      dsimp only at hone
      have hstep₁ : RecvState.onFrame env req.frame .good
          ⟨.dataWait f { e with tries := m }, s.handshakeDone, s.mtu, s.flow, s.outputDirectory,
            s.files, s.starts, s.completed, s.log, s.turn⟩
          = ([sendBare .dataAck e.written],
            ⟨.dataWait f { e with tries := env.cfg.retries.dataRetries }, s.handshakeDone, s.mtu,
              s.flow, s.outputDirectory, s.files, s.starts, s.completed, s.log, s.turn⟩) := by
        show RecvState.onRecvResult env _ f (onDataFrame env.cfg s.mtu _ req.frame none) = _
        rw [hone]
        rfl
      rw [hstep₁]
      exact ⟨rfl, _, rfl, .dataWait f e _ n⟩
  | _ => cases hd

/-- A HELLO is adopted and answered, or the call returns. -/
theorem RecvState.onFrame_hello_replies (hnamed : req.type.isNamed = true) (hpc : s.pc = .helloWait) :
    RecvState.Replies env req (s.onFrame env req.frame .good) := by
  have htype := Send.frame_type hnamed
  unfold RecvState.onFrame
  rw [hpc]
  dsimp only
  unfold RecvState.onHelloFrame
  split
  · exact .silent
  · rename_i p hp
    have hpt := (recvControl_type hp).trans htype
    split
    · exact .silent
    · exact .silent
    · rename_i hhello
      rw [hpt] at hhello
      split
      · exact .silent
      · dsimp only
        split
        · -- no feature is built in, so a refusal sends no ERROR
          rename_i sends st herr
          have hnil := (adoptPeerHello_error herr).1
          dsimp only at hnil
          rw [hnil]
          exact .silent
        · split
          · exact .ret _ (by decide)
          · refine .tells (.final rfl (fun _ => ⟨_, rfl⟩) (fun _ h => by cases h) rfl ?_)
            show (req.type ≠ .eot ∧ req.type ≠ .sendMeta) ∧ req.type ≠ .data
            rw [hhello]
            decide
    · exact .silent

/-- EOT is answered, SEND_META is not. -/
theorem RecvState.onFrame_meta_replies {n : Nat} (hnamed : req.type.isNamed = true)
    (hpc : s.pc = .metaWait n) : RecvState.Replies env req (s.onFrame env req.frame .good) := by
  have htype := Send.frame_type hnamed
  unfold RecvState.onFrame
  rw [hpc]
  dsimp only
  unfold RecvState.onMetaFrame
  split
  · exact .silent
  · rename_i p hp
    split
    · rename_i heot
      rw [recvFrame_type hp, htype] at heot
      exact .tells (.final rfl (fun h => by rcases h with h | h <;> cases h)
        (fun _ h => by cases h) rfl ⟨trivial, fun h => by rw [h] at heot; cases heot⟩)
    · exact .silent
    · split
      · exact .silent
      · exact .silent
    · exact .silent

/-- In the data loop DONE is answered. -/
theorem RecvState.onFrame_done_replies {g : RecvFile} {d : RecvData}
    (hnamed : req.type.isNamed = true) (hpc : s.pc = .dataWait g d) (hd : req.type ≠ .data) :
    RecvState.Replies env req (s.onFrame env req.frame .good) := by
  have htype := Send.frame_type hnamed
  unfold RecvState.onFrame
  rw [hpc]
  dsimp only
  unfold onDataFrame
  dsimp only
  split
  · exact .silent
  · rename_i p hp
    split
    · rename_i hdat
      rw [recvFrame_type hp, htype] at hdat
      exact absurd hdat hd
    · rename_i hdone
      rw [recvFrame_type hp, htype] at hdone
      refine .tells (.final rfl (fun _ => ⟨_, rfl⟩) (fun _ h => by cases h) rfl ?_)
      show (req.type ≠ .eot ∧ req.type ≠ .sendMeta) ∧ req.type ≠ .data
      rw [hdone]
      decide
    · exact .silent
    · exact .silent
    · exact .silent
    · exact .silent

/-- Behind a skipped file DONE and EOT are answered. -/
theorem RecvState.onFrame_skip_replies {g : RecvFile} {n : Nat} (hnamed : req.type.isNamed = true)
    (hpc : s.pc = .skipWait g n) : RecvState.Replies env req (s.onFrame env req.frame .good) := by
  have htype := Send.frame_type hnamed
  unfold RecvState.onFrame
  rw [hpc]
  dsimp only
  split
  · exact .silent
  · rename_i p hp
    split
    · rename_i hdone
      rw [recvFrame_type hp, htype] at hdone
      refine .tells (.final rfl (fun _ => ⟨_, rfl⟩) (fun _ h => by cases h) rfl ?_)
      show (req.type ≠ .eot ∧ req.type ≠ .sendMeta) ∧ req.type ≠ .data
      rw [hdone]
      decide
    · rename_i heot
      rw [recvFrame_type hp, htype] at heot
      exact .tells (.final rfl (fun h => by rcases h with h | h <;> cases h)
        (fun _ h => by cases h) rfl ⟨trivial, fun h => by rw [h] at heot; cases heot⟩)
    · exact .silent
    · exact .silent

/-- **The receiver on a request.** -/
theorem RecvState.onFrame_replies (hv : env.validator = none) (hl : s.pc.Lasts 0)
    (hnamed : req.type.isNamed = true) (hreq : req.type = .resumeReq → req = sendBare .resumeReq 0)
    (hpeek : ∀ f, s.pc = .neverPeek f → req = sendBare .resumeReq 0)
    (hdata : ∀ f d, s.pc = .dataWait f d → req.type = .data →
      ∃ t : DataParams, t.Ok ∧ t.rcvCfg = env.cfg ∧ t.io.mtu = s.mtu
        ∧ FlightOk t.io d.written req ∧ req.includeDataOffset = true) :
    RecvState.Replies env req (s.onFrame env req.frame .good) := by
  have htype := Send.frame_type hnamed
  cases hpc : s.pc with
  | idle =>
      unfold RecvState.onFrame
      rw [hpc]
      exact .silent
  | helloWait => exact RecvState.onFrame_hello_replies hnamed hpc
  | metaWait n => exact RecvState.onFrame_meta_replies hnamed hpc
  | neverPeek g =>
      -- only the sender's RESUME_REQ can be there in time
      rw [hpeek g hpc, RecvState.onFrame_resumeReq (f := g) (by rw [hpc]; rfl)]
      exact RecvState.answerResume_replies hv .good
  | resumeReqWait g n =>
      by_cases hr : req.type = .resumeReq
      · rw [hreq hr, RecvState.onFrame_resumeReq (f := g) (by rw [hpc]; rfl)]
        exact RecvState.answerResume_replies hv .good
      · unfold RecvState.onFrame
        rw [hpc]
        dsimp only
        split
        · exact .silent
        · rename_i p hp
          split
          · rename_i hresume
            rw [recvFrame_type hp, htype] at hresume
            exact absurd hresume hr
          · exact .silent
          · exact .silent
          · exact .silent
  | verifyWait g n resp off =>
      by_cases hr : req.type = .resumeReq
      · rw [hreq hr, RecvState.onFrame_asked hpc]
        exact .tells (.question hpc)
      · unfold RecvState.onFrame
        rw [hpc]
        dsimp only
        split
        · exact .silent
        · rename_i p hp
          split
          · rename_i hresume
            rw [controlFrame_type hp, htype] at hresume
            exact absurd hresume hr
          · rename_i hverify
            rw [controlFrame_type hp, htype] at hverify
            exact RecvState.answerVerify_replies hv hverify _ _ .good
          · exact .silent
  | dataWait g d =>
      by_cases hd : req.type = .data
      · obtain ⟨t, ht, hcfg, hmtu, hfl, hexp⟩ := hdata g d hpc hd
        rw [hpc] at hl
        exact RecvState.onFrame_data_replies hpc hl.2 ht hcfg hmtu hfl hexp
      · exact RecvState.onFrame_done_replies hnamed hpc hd
  | skipWait g n => exact RecvState.onFrame_skip_replies hnamed hpc

/-- SEND_META has no answer of its own. -/
theorem RecvState.onFrame_meta_silent {n : Nat} (hpc : s.pc = .metaWait n)
    (path : Option Bytes) (src : SourceFile) :
    (s.onFrame env (sendMeta path src).frame .good).1 = [] := by
  have htype : PacketType.ofByte (sendMeta path src).frame.type = .sendMeta :=
    Send.frame_type (p := sendMeta path src) rfl
  unfold RecvState.onFrame
  rw [hpc]
  dsimp only
  unfold RecvState.onMetaFrame
  split
  · rfl
  · rename_i p hp
    have ht := (recvFrame_type hp).trans htype
    split
    · rename_i heot
      rw [ht] at heot
      cases heot
    · rfl
    · split <;> rfl
    · rfl

end Replies

/-! ## §3. The course of a run without faults. -/

/-- A run without faults leads from here to the end of both calls. -/
def OnCourse (c : SessionParams) (batch : List SourceFile) (final : Bytes → Option Bytes)
    (done : List MetaPayload) (s : SessionSys) : Prop :=
  ∃ n t, Lts.Steps (Calm c) n s t ∧ Finished c batch final done t.view

section Course

variable {c : SessionParams} {batch : List SourceFile} {final : Bytes → Option Bytes}
  {done : List MetaPayload} {s s' : SessionSys}

theorem OnCourse.step (h : OnCourse c batch final done s) (hcalm : Calm c s s') :
    OnCourse c batch final done s' := by
  obtain ⟨n, t, hrun, hfin⟩ := h
  obtain ⟨m, -, hrest⟩ := (calm_diamond c).step_to hfin.terminal hrun hcalm
  exact ⟨m, t, hrest, hfin⟩

/-- Where nothing can happen both calls have ended. -/
theorem OnCourse.rest (h : OnCourse c batch final done s) (hs : Lts.Terminal (Calm c) s) :
    Finished c batch final done s.view := by
  obtain ⟨n, t, hrun, hfin⟩ := h
  cases hrun with
  | zero => exact hfin
  | succ hcalm _ => exact absurd hcalm (hs _)

theorem calm_rcvLog_grows {n : Nat} (h : Lts.Steps (Calm c) n s s') :
    s.rcv.log <+: s'.rcv.log := by
  induction h with
  | zero s => exact List.prefix_rfl
  | succ hcalm _ ih =>
      obtain ⟨l, -, hstep⟩ := hcalm
      have hkept := calls_step hstep
      exact List.IsPrefix.trans hkept.rcvLog_prefix ih

/-- No call fails on the way. -/
theorem OnCourse.clean (h : OnCourse c batch final done s) : s.snd.Clean ∧ s.rcv.Clean := by
  obtain ⟨n, t, hrun, hfin⟩ := h
  constructor
  · intro e he
    have hgrows := calm_log_prefix hrun
    have hmem := hgrows.subset he
    rw [show t.snd.log = _ from hfin.snd_log, List.mem_singleton] at hmem
    rw [hmem]
  · intro e he
    have hgrows := calm_rcvLog_grows hrun
    have hmem := hgrows.subset he
    rw [show t.rcv.log = _ from hfin.rcv_log, List.mem_singleton] at hmem
    rw [hmem]

/-- Neither party has anything to do. -/
theorem calm_stuck (hup : s.snd.pc ≠ .idle → s.toSnd = [])
    (hsc : s.snd.pc = .idle → s.sndCalls = []) (hdown : s.rcv.pc ≠ .idle → s.toRcv = [])
    (hrc : s.rcv.pc = .idle → s.rcvCalls = []) : Lts.Terminal (Calm c) s := by
  obtain ⟨snd, rcv, toRcv, toSnd, sndCalls, rcvCalls⟩ := s
  dsimp only at hup hsc hdown hrc
  intro s' hcalm
  rcases hcalm.cases with ⟨_, _, _, _, hmove, -⟩ | ⟨_, _, _, _, hmove, -⟩
  · cases hmove with
    | call hidle => exact absurd (hsc hidle) (List.cons_ne_nil _ _)
    | recv hbusy => exact absurd (hup hbusy) (List.cons_ne_nil _ _)
  · cases hmove with
    | call hidle => exact absurd (hrc hidle) (List.cons_ne_nil _ _)
    | recv hbusy => exact absurd (hdown hbusy) (List.cons_ne_nil _ _)

/-- A sender does not wait where nothing is in flight. -/
theorem OnCourse.not_stuck (h : OnCourse c batch final done s) (hbusy : s.snd.pc ≠ .idle)
    (hdown : s.rcv.pc ≠ .idle → s.toRcv = []) (hup : s.toSnd = []) (hcalls : s.rcvCalls = []) :
    False :=
  hbusy (h.rest (calm_stuck (fun _ => hup) (fun hidle => absurd hidle hbusy) hdown
    (fun _ => hcalls))).snd_pc

end Course

/-! ## §4. The token. -/

/-- **What is in flight** in a run without faults. -/
inductive Token (c : SessionParams) (s : SessionSys) : Prop where
  /-- before the sender's call, or behind it -/
  | quiet (hidle : s.snd.pc = .idle) (hdown : s.toRcv = []) (hup : s.toSnd = [])
      (hcall : s.sndCalls ≠ [] → s.snd.handshakeDone = false ∧ ∀ f, s.rcv.pc ≠ .neverPeek f)
  /-- the header of a file, and RESUME_REQ behind it -/
  | header {content : Bytes} {m n : Nat} {path : Option Bytes} {src : SourceFile}
      (hspc : s.snd.pc = .resumeWait content m) (hrpc : s.rcv.pc = .metaWait n)
      (hdown : s.toRcv.map Item.send = [sendMeta path src, sendBare .resumeReq 0])
      (hup : s.toSnd = [])
  /-- a request -/
  | asks {req : Send} (hreq : s.snd.pc.request c.snd.cfg = some req)
      (hdown : s.toRcv.map Item.send = [req]) (hup : s.toSnd = [])
      (hpeek : ∀ f, s.rcv.pc = .neverPeek f → req = sendBare .resumeReq 0)
  /-- its answer -/
  | told {req p : Send} (hreq : s.snd.pc.request c.snd.cfg = some req)
      (hdown : s.toRcv = []) (hup : s.toSnd.map Item.send = [p]) (hcalls : s.rcvCalls = [])
      (h : Told c.rcv req p s.rcv)

/-- What every state of a run without faults keeps. -/
structure Guided (c : SessionParams) (batch : List SourceFile) (final : Bytes → Option Bytes)
    (done : List MetaPayload) (s : SessionSys) : Prop where
  solo : Solo c batch s
  course : OnCourse c batch final done s
  count : s.rcvCount = 1
  token : Token c s
  self : s.snd.Alike c.snd.cfg s.snd
  answered : s.rcv.pc.Lasts 0

section Token

variable {c : SessionParams} {batch : List SourceFile} {final : Bytes → Option Bytes}
  {done : List MetaPayload} {s s' : SessionSys}

/-- What a sender waits with. -/
theorem SendPc.request_spec {cfg : Config} {pc : SendPc} {req : Send}
    (h : pc.request cfg = some req) :
    pc ≠ .idle ∧ req.type.isNamed = true ∧ (req.type = .resumeReq → req = sendBare .resumeReq 0) := by
  cases pc with
  | idle => cases h
  | resumeWait content m =>
      cases h
      exact ⟨nofun, rfl, fun _ => rfl⟩
  | helloWait m | verifyWait content m endOff payload | ackWait io d | doneWait size m skip
  | eotWait m =>
      cases h
      exact ⟨nofun, rfl, fun h => by cases h⟩

theorem SessionSys.rcvCalls_nil (hcount : s.rcvCount = 1) (hbusy : s.rcv.pc ≠ .idle) :
    s.rcvCalls = [] := by
  unfold SessionSys.rcvCount at hcount
  rw [if_neg hbusy] at hcount
  exact List.length_eq_zero_iff.mp (by omega)

theorem Solo.sndCalls_nil (h : Solo c batch s) (hbusy : s.snd.pc ≠ .idle) : s.sndCalls = [] := by
  obtain ⟨D, hj⟩ := h.joint
  have hlen := congrArg List.length hj.batches
  unfold SessionSys.sndBatches at hlen
  rw [if_neg hbusy] at hlen
  simp only [List.length_append, List.length_singleton] at hlen
  exact List.length_eq_zero_iff.mp (by omega)

theorem RecvState.call_pc (env : RecvEnv) (s : RecvState) (dir : Bytes) :
    (∀ f, (s.call env dir).pc ≠ .neverPeek f) ∧ (s.call env dir).pc.Lasts 0 := by
  unfold RecvState.call
  dsimp only
  split
  · exact ⟨nofun, Nat.zero_le _⟩
  · exact ⟨nofun, trivial⟩

/-- The sender's part of a step, its packet taken out of the channel. -/
theorem Token.sent {last : Option PacketType} {r : List Send × SendState}
    (hr : SendState.Asks c.snd.cfg last r) (hs' : OnCourse c batch final done (s.sent r))
    (hdown : s.toRcv = []) (hup : s.toSnd = []) (hsc : s.sndCalls = []) (hrc : s.rcvCalls = [])
    (hpeek : ∀ f, s.rcv.pc ≠ .neverPeek f)
    (hheader : last = some .hello ∨ last = some .doneAck → ∃ n, s.rcv.pc = .metaWait n) :
    Token c (s.sent r) := by
  have hout : (s.sent r).toRcv.map Item.send = r.1 := by
    show (s.toRcv ++ r.1.map _).map Item.send = r.1
    rw [hdown, List.nil_append, map_send_stamped]
  cases hr with
  | @silent s₁ =>
      have hnil : (s.sent ([], s₁)).toRcv = [] := List.map_eq_nil_iff.mp hout
      by_cases hidle : s₁.pc = .idle
      · exact .quiet hidle hnil hup fun hne => absurd hsc hne
      · exact absurd (hs'.not_stuck hidle (fun _ => hnil) hup hrc) id
  | request hreq => exact .asks hreq hout hup fun f hf => absurd hf (hpeek f)
  | opens hpc hlast =>
      obtain ⟨n, hn⟩ := hheader hlast
      exact .header hpc hn hout hup

/-- The receiver's part of a step that takes a request. -/
theorem Token.answered {req : Send} {r : List Send × RecvState}
    (hreq : s.snd.pc.request c.snd.cfg = some req) (hr : RecvState.Replies c.rcv req r)
    (hs' : OnCourse c batch final done (s.answered r)) (hdown : s.toRcv = []) (hup : s.toSnd = [])
    (hrc : s.rcvCalls = []) : Token c (s.answered r) := by
  have hbusy := (SendPc.request_spec hreq).1
  have hout : (s.answered r).toSnd.map Item.send = r.1 := by
    show (s.toSnd ++ r.1.map _).map Item.send = r.1
    rw [hup, List.nil_append, map_send_stamped]
  cases hr with
  | @silent s₁ =>
      have hnil : (s.answered ([], s₁)).toSnd = [] := List.map_eq_nil_iff.mp hout
      exact absurd (hs'.not_stuck hbusy (fun _ => hdown) hnil hrc) id
  | fails hlog =>
      obtain ⟨e, he, hne⟩ := hlog
      exact absurd (hs'.clean.2 e he) hne
  | tells h => exact .told hreq hdown hout hrc h

/-- The sender's call. -/
theorem Token.called (hne : batch ≠ []) (hdone : s.snd.handshakeDone = false)
    (hdown : s.toRcv = []) (hup : s.toSnd = []) (hpeek : ∀ f, s.rcv.pc ≠ .neverPeek f)
    {calls : List (List SourceFile)} :
    Token c ({ s with sndCalls := calls }.sent (s.snd.call c.snd batch)) := by
  have hcall : s.snd.call c.snd batch
      = ([sendHello c.snd.cfg c.snd.cfg.packetSize],
          { s.snd with
            batch := batch, idx := 0, pc := .helloWait c.snd.cfg.retries.handshakeRetries }) := by
    unfold SendState.call
    dsimp only
    rw [if_neg hne, hdone]
    rfl
  rw [hcall]
  refine .asks rfl ?_ hup fun f hf => absurd hf (hpeek f)
  show (s.toRcv ++ _).map Item.send = _
  rw [hdown]
  rfl

/-- The only call there is. -/
theorem Solo.call_eq (h : Solo c batch s) (hidle : s.snd.pc = .idle) {b : List SourceFile}
    {rest : List (List SourceFile)} (hcalls : s.sndCalls = b :: rest) : b = batch ∧ rest = [] := by
  obtain ⟨D, hj⟩ := h.joint
  have hb := hj.batches
  unfold SessionSys.sndBatches at hb
  rw [if_pos hidle, hcalls, List.nil_append] at hb
  obtain ⟨-, hcons⟩ := List.append_eq_singleton_iff.mp hb |>.resolve_right
    (fun hr => by cases hr.2)
  injection hcons with h1 h2
  exact ⟨h1, h2⟩

/-- What the sender takes belongs to its window. -/
theorem Guided.ack_near (hw : adoptedWindow c.snd.cfg c.rcv.cfg = 1)
    (h : Guided c batch final done s) {req p : Send} (htold : Told c.rcv req p s.rcv)
    (hup : s.toSnd.map Item.send = [p]) {io : SendFile} {d : SendData}
    (hpc : s.snd.pc = .ackWait io d) (hack : p.type = .dataAck) :
    ∃ off, p = sendBare .dataAck off ∧ off < 2 ^ 64
      ∧ (off ≤ d.lastAcked ∨ off = d.nextToSend) := by
  obtain ⟨f, rd, hrpc⟩ := htold.data_of hack
  obtain ⟨it, rest, hchan, rfl, -⟩ := List.map_eq_cons_iff.mp hup
  exact h.solo.acks_near hw hrpc hpc (by rw [hchan]; exact List.mem_cons_self ..) hack

/-- **The token moves on**, one step of a run without faults at a time. -/
theorem guided_step (hc : c.Plain) (hw : adoptedWindow c.snd.cfg c.rcv.cfg = 1) (hne : batch ≠ [])
    (henv : c.snd.Lasts 0) (h : Guided c batch final done s) {l : SessionLabel}
    (hl : l.isCalm = true) (hstep : s.step c l = some s') : Guided c batch final done s' := by
  have hsolo' := solo_step hc hw h.solo hstep
  have hcourse' := h.course.step ⟨l, hl, hstep⟩
  have hcount' : s'.rcvCount = 1 := (calls_step hstep).count_eq.trans h.count
  have hrenv : c.rcv.Lasts 0 := ⟨Nat.zero_le _, Nat.zero_le _, Nat.zero_le _⟩
  have htoken := h.token
  cases SessionSys.step_inv hstep with
  | @sndCall b rest hcalls hidle =>
      obtain ⟨rfl, rfl⟩ := h.solo.call_eq hidle hcalls
      cases htoken with
      | quiet _ hdown hup hcall =>
          obtain ⟨hdone, hpeek⟩ := hcall (by rw [hcalls]; exact List.cons_ne_nil _ _)
          have htracks := @SendState.call_tracks c.snd 0 none s.snd henv s.snd h.self hdone b
          exact ⟨hsolo', hcourse', hcount', .called hne hdone hdown hup hpeek, htracks.alike,
            h.answered⟩
      | header hspc => rw [hidle] at hspc; cases hspc
      | asks hreq => exact absurd hidle (SendPc.request_spec hreq).1
      | told hreq => exact absurd hidle (SendPc.request_spec hreq).1
  | @rcvCall dir rest hcalls hidle =>
      obtain ⟨hpeek, hlasts⟩ := RecvState.call_pc c.rcv s.rcv dir
      refine ⟨hsolo', hcourse', hcount', ?_, h.self, hlasts⟩
      cases htoken with
      | quiet hsidle hdown hup hcall =>
          exact .quiet hsidle hdown hup fun hne => ⟨(hcall hne).1, hpeek⟩
      | header hspc hrpc => rw [hidle] at hrpc; cases hrpc
      | asks hreq hdown hup _ => exact .asks hreq hdown hup fun f hf => absurd hf (hpeek f)
      | told _ _ _ hnil => rw [hcalls] at hnil; cases hnil
  | @sndRecv it rest hchan hbusy =>
      have hnil : s.toSnd ≠ [] := by
        rw [hchan]
        exact List.cons_ne_nil _ _
      cases htoken with
      | quiet hidle => exact absurd hidle hbusy
      | header _ _ _ hup => exact absurd hup hnil
      | asks _ _ hup => exact absurd hup hnil
      | @told req p hreq hdown hup hcalls htold =>
          have hmap := hup
          rw [hchan] at hmap
          injection hmap with hp hrest
          obtain rfl : rest = [] := List.map_eq_nil_iff.mp hrest
          subst hp
          obtain ⟨D, hj⟩ := h.solo.joint
          have htracks := SendState.onFrame_tracks (k := 0) henv h.self
            (by cases s.snd.pc <;> first | trivial | exact Nat.zero_le _)
            (h.solo.snd_lone hc hw) (h.solo.snd_lone hc hw)
            (hj.sync.rep_named it (by rw [hchan]; exact List.mem_singleton_self _)) htold.not_nak
            (fun io d hpc hack => h.ack_near hw htold hup hpc hack)
          exact ⟨hsolo', hcourse', hcount',
            .sent (s := { s with toSnd := [] }) htracks.asks hcourse' hdown rfl
              (h.solo.sndCalls_nil hbusy) hcalls htold.no_peek
              (fun hlast => htold.header_of (hlast.imp Option.some.inj Option.some.inj)),
            htracks.alike, h.answered⟩
  | @sndTimeout timer hbusy => cases hl
  | @rcvRecv it rest fs hchan hbusy =>
      obtain rfl : fs = .good := of_decide_eq_true hl
      have hlasts := RecvState.onFrame_lasts hrenv h.answered it.send.frame .good
      have hcalls := SessionSys.rcvCalls_nil h.count hbusy
      have hnil : s.toRcv ≠ [] := by
        rw [hchan]
        exact List.cons_ne_nil _ _
      cases htoken with
      | quiet _ hdown => exact absurd hdown hnil
      | @header content m n path src hspc hrpc hdown hup =>
          -- the header is taken, RESUME_REQ stays
          rw [hchan] at hdown
          injection hdown with hp hrest
          rw [hp]
          rw [hp] at hlasts hsolo' hcourse' hcount'
          have hsilent := @RecvState.onFrame_meta_silent c.rcv s.rcv n hrpc path src
          have hreq : s.snd.pc.request c.snd.cfg = some (sendBare .resumeReq 0) := by
            rw [hspc]
            rfl
          refine ⟨hsolo', hcourse', hcount', .asks hreq hrest ?_ fun _ _ => rfl, h.self, hlasts⟩
          show s.toSnd ++ _ = []
          rw [hsilent, hup]
          rfl
      | @asks req hreq hdown hup hpeek =>
          rw [hchan] at hdown
          injection hdown with hp hrest
          obtain rfl : rest = [] := List.map_eq_nil_iff.mp hrest
          subst hp
          obtain ⟨-, hnamed, hresume⟩ := SendPc.request_spec hreq
          have hreplies := RecvState.onFrame_replies hc.no_validator h.answered hnamed hresume hpeek
            (fun f d hpc hdata => h.solo.flight hw hpc
              (by rw [hchan]; exact List.mem_singleton_self _) hdata)
          exact ⟨hsolo', hcourse', hcount',
            .answered (s := { s with toRcv := [] }) hreq hreplies hcourse' rfl hup hcalls,
            h.self, hlasts⟩
      | told _ hdown => exact absurd hdown hnil
  | rcvTimeout hbusy => cases hl
  | lose hloss _ _ => cases l <;> first | (cases hloss; done) | cases hl

end Token

end ValProtocol
