/-
  ValProtocol.Session.Termination
  ───────────────────────────────
  Two calls come to an end.

  Every wait of both parties has a retry budget, but most budgets are refilled
  by what arrives, and what arrives may be the answer to a retransmission.
  The order of `SessionSys.rank` shows that this does not go on for ever: the
  sender only goes on (files, stages of a file, bytes acknowledged, tries);
  what it sends is bounded by that; the receiver's answers are bounded by what
  it is sent; and its own patience is all that is left.

    • `SendState.onFrame_work`, `SendState.onTimeout_work` — a step of the
      sender goes on, or sends nothing,
    • `session_terminates` — no run goes on changing for ever, and where one
      has come to rest both calls have returned.
-/
import ValProtocol.Data.Patience
import ValProtocol.Lib.Termination
import ValProtocol.Session.NakFree

namespace ValProtocol

open Lts

/-! ## §1. The sender. -/

/-- The stages before a send call with this many files left: four for each,
one for EOT. -/
def SendPc.stages (left : Nat) : SendPc → Nat
  | .idle => 0
  | .eotWait _ => 1
  | .doneWait _ _ _ => 4 * (left + 1)
  | .ackWait _ _ => 4 * (left + 1) + 1
  | .verifyWait _ _ _ _ => 4 * (left + 1) + 2
  | .resumeWait _ _ => 4 * (left + 1) + 3
  | .helloWait _ => 4 * (left + 2)

def SendState.stages (s : SendState) : Nat := s.pc.stages (s.batch.length - s.idx)

/-- The bytes an acknowledgement can still advance over, and the tries left. -/
def SendData.slack (d : SendData) : ℕ ×ₗ ℕ := toLex (2 ^ 64 - d.lastAcked, d.tries)

def SendPc.slack : SendPc → ℕ ×ₗ ℕ
  | .idle => toLex (0, 0)
  | .helloWait n | .resumeWait _ n | .verifyWait _ n _ _ | .doneWait _ n _ | .eotWait n =>
      toLex (0, n)
  | .ackWait _ d => d.slack

/-- What a send call has before it. -/
def SendState.work (s : SendState) : ℕ ×ₗ ℕ ×ₗ ℕ := toLex (s.stages, s.pc.slack)

section Sender

variable {env : SendEnv} {s s' : SendState}

/-- A later stage. -/
theorem SendState.work_lt (h : s'.stages < s.stages) : s'.work < s.work :=
  Lex.lt_of_left h _ _

/-- A call that is running has something before it. -/
theorem SendState.stages_pos (h : s.pc ≠ .idle) : 0 < s.stages := by
  unfold SendState.stages SendPc.stages
  split
  · rename_i hpc
    exact absurd hpc h
  all_goals omega

theorem SendState.ret_work (h : s.pc ≠ .idle) (st : Status) : (s'.ret st).work < s.work := by
  have hpos := SendState.stages_pos h
  exact SendState.work_lt (by show 0 < s.stages; exact hpos)

/-- The next file, or EOT. -/
theorem SendState.beginFile_stages (env : SendEnv) (s : SendState) :
    (s.beginFile env).2.stages < 4 * (s.batch.length + 1 - s.idx) + 4 := by
  unfold SendState.beginFile
  split
  · show 1 < _
    omega
  · rename_i f hf
    have hidx := (List.getElem?_eq_some_iff.mp hf).1
    split
    · show 0 < _
      omega
    · show 4 * (s.batch.length - s.idx + 1) + 3 < _
      omega

/-- A move of the data phase goes on from `v`, or waits on where it is. -/
inductive Move.Slack (v : ℕ ×ₗ ℕ) : Move → Prop where
  | stay {d : SendData} (h : d.slack ≤ v) : Slack v (.stay d)
  | fill {d : SendData} (h : d.slack < v) : Slack v (.fill d)
  | finish (flow : Flow) : Slack v (.finish flow)
  | stop (st : Status) : Slack v (.stop st)

/-- The fill loop leaves the slack alone. -/
theorem fillAndWait_slack {io : SendFile} {d d' : SendData}
    (h : (fillAndWait io d).2 = .wait d') : d'.slack = d.slack := by
  rcases fillAndWait_cases io d with ⟨st, hst⟩ | hw
  · rw [hst] at h
    cases h
  · rw [hw] at h
    cases h
    have hfill := fillLoop_filled io d.win d
    show toLex (2 ^ 64 - (fillLoop io d.win d).1.lastAcked, (fillLoop io d.win d).1.tries) = _
    rw [hfill.lastAcked_eq, hfill.tries_eq]
    rfl

/-- What one step of the sender may leave: less work, or as much and nothing
sent. -/
def SendState.GoesOn (s : SendState) (r : List Send × SendState) : Prop :=
  r.2.work < s.work ∨ r.2.work = s.work ∧ r.1 = []

section Round

variable {io₀ io : SendFile} {d d' : SendData} {flow : Flow}

/-- A wait of the data phase in its place in the call. -/
theorem SendState.work_ackWait (hpc : s.pc = .ackWait io₀ d) :
    s.work = toLex (4 * (s.batch.length - s.idx + 1) + 1, d.slack) := by
  unfold SendState.work SendState.stages
  rw [hpc]
  rfl

/-- The window is filled again. -/
theorem SendState.onDataResult_fill (hpc : s.pc = .ackWait io₀ d) (h : d'.slack < d.slack) :
    ({ s with flow := flow }.onDataResult env io (fillAndWait io d')).2.work < s.work := by
  rw [SendState.work_ackWait hpc]
  unfold SendState.onDataResult
  split
  · rename_i d'' hres
    refine Lex.lt_of_right rfl ?_
    show d''.slack < d.slack
    rwa [fillAndWait_slack hres]
  · exact Lex.lt_of_left (Nat.lt_succ_self _) _ _
  · exact Lex.lt_of_left (Nat.succ_pos _) _ _

/-- Behind a round of the data phase. -/
theorem SendState.onDataResult_work {m : Move} (hpc : s.pc = .ackWait io₀ d)
    (hm : m.Slack d.slack) :
    s.GoesOn ({ s with flow := flow }.onDataResult env io (m.run io)) := by
  cases hm with
  | @stay d' h =>
      show SendState.work { s with flow := flow, pc := .ackWait io d' } < _
        ∨ SendState.work { s with flow := flow, pc := .ackWait io d' } = _ ∧ ([] : List Send) = []
      rw [SendState.work_ackWait hpc]
      rcases h.lt_or_eq with hlt | heq
      · exact Or.inl (Lex.lt_of_right rfl hlt)
      · rw [← heq]
        exact Or.inr ⟨rfl, rfl⟩
  | fill h => exact Or.inl (SendState.onDataResult_fill hpc h)
  | finish flow' =>
      refine Or.inl ?_
      rw [SendState.work_ackWait hpc]
      exact Lex.lt_of_left (Nat.lt_succ_self _) _ _
  | stop st =>
      refine Or.inl ?_
      rw [SendState.work_ackWait hpc]
      exact Lex.lt_of_left (Nat.succ_pos _) _ _

end Round

/-- The offset of a frame from the wire. -/
theorem frameOffset_lt {f : Frame} (h : f.typeData < 2 ^ 32) : frameOffset f < 2 ^ 64 := by
  have hget : ∀ n (bs : Bytes), bs.length ≤ n → LittleEndian.getLe bs < 256 ^ n := by
    intro n bs hn
    exact Nat.lt_of_lt_of_le (LittleEndian.getLe_lt bs) (Nat.pow_le_pow_right (by omega) hn)
  have hhigh : (if f.content.length ≥ 4 then LittleEndian.getLe (f.content.take 4) else 0)
      < 2 ^ 32 := by
    split
    · exact hget 4 _ (List.length_take_le _ _)
    · exact Nat.two_pow_pos 32
  unfold frameOffset
  dsimp only
  split
  · split
    · exact hget 8 _ (List.length_take_le _ _)
    · decide
  all_goals omega

theorem recvFrame_off {P : Nat} {out : Option Nat} {f : Frame} {p : Packet}
    (h : recvFrame P out f = .ok p) : p.off = frameOffset f := by
  simp only [recvFrame] at h
  repeat' split at h
  all_goals cases h
  all_goals rfl

/-- The offset a wait sees is the one on the wire. -/
theorem recvControl_off {mtu cap : Nat} {f : Frame} {p : Packet}
    (h : recvControl mtu cap f = .ok p) : p.off = frameOffset f := by
  unfold recvControl at h
  split at h
  · cases h
  · rename_i q hq
    rw [← recvFrame_off hq]
    repeat' split at h
    all_goals cases h
    all_goals rfl

/-- **A frame in the data phase**, a DATA_NAK apart. -/
theorem onAckFrame_slack (cfg : Config) (io : SendFile) (d : SendData) {f : Frame}
    (hnak : PacketType.ofByte f.type ≠ .dataNak) (hdata : f.typeData < 2 ^ 32) :
    (onAckFrame cfg io d f).Slack d.slack := by
  unfold onAckFrame
  split
  · exact .stop _
  · rename_i p hp
    have hoff : p.off < 2 ^ 64 := by
      rw [recvControl_off hp]
      exact frameOffset_lt hdata
    split
    · exact .stop _
    · rename_i htype
      rw [recvControl_type hp] at htype
      exact absurd htype hnak
    · unfold onDataAck
      split
      · exact .stay (le_refl _)
      · -- the mark advances, whatever becomes of the tries
        rename_i hadv
        have hlt : ∀ d' : SendData, d'.lastAcked = p.off → d'.slack < d.slack := by
          intro d' hd'
          refine Lex.lt_of_left ?_ _ _
          omega
        dsimp only
        split
        · exact .stay (hlt _ rfl).le
        · unfold dataLoop
          split
          · exact .fill (hlt _ rfl)
          · exact .finish _
    · exact .stop _
    · exact .stay (le_refl _)

/-- The call returns. -/
theorem SendState.goesOn_ret (h : s.pc ≠ .idle) (st : Status) (sends : List Send) :
    s.GoesOn (sends, s.ret st) := Or.inl (SendState.ret_work h st)

/-- The wait goes on. -/
theorem SendState.goesOn_stay (s : SendState) : s.GoesOn ([], s) := Or.inr ⟨rfl, rfl⟩

/-- An outcome of the negotiation leads to a later stage. -/
theorem SendState.goesOn_outcome {content : Bytes} {o : ResumeOutcome}
    (hlate : 4 * (s.batch.length - s.idx + 1) + 1 < s.stages)
    (hverify : ∀ endOff payload, o = .verify endOff payload →
      4 * (s.batch.length - s.idx + 1) + 2 < s.stages) :
    s.GoesOn (s.onOutcome env content o) := by
  have hpos : ∀ s₁ : SendState, 0 < s.stages → ∀ st sends, s.GoesOn (sends, s₁.ret st) :=
    fun s₁ h st sends => Or.inl (SendState.work_lt h)
  cases o with
  | start off =>
      show s.GoesOn (s.startFile env content off)
      unfold SendState.startFile
      split
      · exact hpos _ (by omega) _ _
      · dsimp only
        split
        · exact hpos _ (by omega) _ _
        · unfold SendState.onDataResult
          split
          · exact Or.inl (SendState.work_lt hlate)
          · exact Or.inl (SendState.work_lt (Nat.lt_of_succ_lt hlate))
          · exact hpos _ (by omega) _ _
  | skip => exact Or.inl (SendState.work_lt (Nat.lt_of_succ_lt hlate))
  | verify endOff payload => exact Or.inl (SendState.work_lt (hverify endOff payload rfl))
  | fail st => exact hpos _ (by omega) _ _

theorem onVerifyResult_ne_verify (endOff : Nat) (payload : Bytes) (off : Nat) (req : Bytes) :
    onVerifyResult endOff payload ≠ .verify off req := by
  intro h
  unfold onVerifyResult at h
  split at h
  all_goals cases h

/-- **The sender on a frame**, a DATA_NAK apart. -/
theorem SendState.onFrame_work (env : SendEnv) (hbusy : s.pc ≠ .idle) {f : Frame}
    (hnak : PacketType.ofByte f.type ≠ .dataNak) (hdata : f.typeData < 2 ^ 32) :
    s.GoesOn (s.onFrame env f) := by
  unfold SendState.onFrame
  split
  · exact s.goesOn_stay
  · rename_i n hpc
    have hbegin : ∀ s₁ : SendState, s₁.batch = s.batch → s₁.idx = s.idx →
        s.GoesOn (s₁.beginFile env) := by
      intro s₁ hbatch hidx
      have hlt := s₁.beginFile_stages env
      refine Or.inl (SendState.work_lt (Nat.lt_of_lt_of_le hlt ?_))
      rw [hbatch, hidx]
      unfold SendState.stages
      rw [hpc]
      show _ ≤ 4 * (s.batch.length - s.idx + 2)
      omega
    unfold SendState.onHelloFrame
    split
    · exact SendState.goesOn_ret hbusy _ _
    · split
      · exact SendState.goesOn_ret hbusy _ _
      · exact SendState.goesOn_ret hbusy _ _
      · split
        · exact s.goesOn_stay
        · split
          · exact SendState.goesOn_ret hbusy _ _
          · exact hbegin _ rfl rfl
      · exact s.goesOn_stay
  · rename_i content n hpc
    have hstages : s.stages = 4 * (s.batch.length - s.idx + 1) + 3 := by
      unfold SendState.stages
      rw [hpc]
      rfl
    split
    · exact SendState.goesOn_ret hbusy _ _
    · split
      · split
        · exact SendState.goesOn_ret hbusy _ _
        · exact SendState.goesOn_outcome (by omega) (fun _ _ _ => by omega)
      · exact s.goesOn_stay
  · rename_i content n endOff payload hpc
    have hstages : s.stages = 4 * (s.batch.length - s.idx + 1) + 2 := by
      unfold SendState.stages
      rw [hpc]
      rfl
    split
    · exact SendState.goesOn_ret hbusy _ _
    · split
      · split
        · exact SendState.goesOn_ret hbusy _ _
        · refine SendState.goesOn_outcome (by omega) ?_
          intro off req hreq
          exact absurd hreq (onVerifyResult_ne_verify _ _ _ _)
      · exact s.goesOn_stay
  · rename_i io d hpc
    exact SendState.onDataResult_work hpc (onAckFrame_slack env.cfg io d hnak hdata)
  · rename_i size n skip hpc
    split
    · exact SendState.goesOn_ret hbusy _ _
    · split
      · -- the next file
        refine Or.inl (SendState.work_lt
          (Nat.lt_of_lt_of_le (SendState.beginFile_stages env _) ?_))
        unfold SendState.stages
        rw [hpc]
        show 4 * (s.batch.length + 1 - (s.idx + 1)) + 4 ≤ 4 * (s.batch.length - s.idx + 1)
        omega
      · exact s.goesOn_stay
  · split
    · exact SendState.goesOn_ret hbusy _ _
    · split
      · exact Or.inl (SendState.work_lt (SendState.stages_pos hbusy))
      · exact s.goesOn_stay

/-- One try less. -/
theorem SendState.work_tries {n : Nat} (hstages : s'.stages = s.stages)
    (hslack : s.pc.slack = toLex (0, n)) (hslack' : s'.pc.slack = toLex (0, n - 1)) (hn : n ≠ 0) :
    s'.work < s.work := by
  refine Lex.lt_of_right hstages ?_
  rw [hslack, hslack']
  exact Lex.lt_of_right rfl (by omega)

/-- **The sender on a timeout**: only the handshake loop has rounds in which
nothing happens. -/
theorem SendState.onTimeout_work (env : SendEnv) (hbusy : s.pc ≠ .idle) (timer : HelloTimer) :
    (s.onTimeout env timer).2.work < s.work
    ∨ timer ≠ .expired ∧ s.onTimeout env timer = ([], s) := by
  unfold SendState.onTimeout
  split
  · rename_i hpc
    exact absurd hpc hbusy
  · rename_i n hpc
    split
    · exact Or.inl (SendState.ret_work hbusy _)
    · split
      · exact Or.inr ⟨by decide, rfl⟩
      · rename_i hn
        refine Or.inl (SendState.work_tries ?_ (by rw [hpc]; rfl) rfl hn)
        unfold SendState.stages
        rw [hpc]
        rfl
    · exact Or.inr ⟨by decide, rfl⟩
  · rename_i content n hpc
    split
    · exact Or.inl (SendState.ret_work hbusy _)
    · rename_i hn
      refine Or.inl (SendState.work_tries ?_ (by rw [hpc]; rfl) rfl hn)
      unfold SendState.stages
      rw [hpc]
      rfl
  · rename_i content n endOff payload hpc
    split
    · exact Or.inl (SendState.ret_work hbusy _)
    · rename_i hn
      refine Or.inl (SendState.work_tries ?_ (by rw [hpc]; rfl) rfl hn)
      unfold SendState.stages
      rw [hpc]
      rfl
  · rename_i io d hpc
    refine Or.inl ?_
    unfold onAckTimeout
    split
    · exact SendState.ret_work hbusy _
    · refine SendState.onDataResult_fill hpc (Lex.lt_of_right rfl ?_)
      show d.tries - 1 < d.tries
      omega
  · rename_i size n skip hpc
    split
    · exact Or.inl (SendState.ret_work hbusy _)
    · rename_i hn
      refine Or.inl (SendState.work_tries ?_ (by rw [hpc]; rfl) rfl hn)
      unfold SendState.stages
      rw [hpc]
      rfl
  · rename_i n hpc
    split
    · exact Or.inl (SendState.ret_work hbusy _)
    · rename_i hn
      refine Or.inl (SendState.work_tries ?_ (by rw [hpc]; rfl) rfl hn)
      unfold SendState.stages
      rw [hpc]
      rfl

end Sender

/-! ## §2. The receiver. -/

/-- Does the receiver look whether a RESUME_REQ follows the metadata? -/
def RecvPc.peeks : RecvPc → Bool
  | .neverPeek _ => true
  | _ => false

/-- What that look can cost. -/
def RecvPc.peekCost (pc : RecvPc) : Nat := if pc.peeks then 4 else 0

theorem RecvPc.peekCost_of_not {pc : RecvPc} (h : pc.peeks = false) : pc.peekCost = 0 := by
  unfold RecvPc.peekCost
  rw [h]
  rfl

theorem RecvPc.peekCost_le (pc : RecvPc) : pc.peekCost ≤ 4 := by
  unfold RecvPc.peekCost
  split
  · exact Nat.le_refl 4
  · exact Nat.zero_le 4

/-- The silent waits the receiver can still sit through. -/
def RecvPc.patience : RecvPc → Nat
  | .idle | .neverPeek _ => 0
  | .helloWait => 1
  | .metaWait n | .resumeReqWait _ n | .verifyWait _ n _ _ | .skipWait _ n => n + 1
  | .dataWait _ d => d.tries + 1

section Receiver

variable {env : RecvEnv} {s : RecvState}

/-- A few answers, and the receiver does not peek next. -/
def RecvState.Answers (n : Nat) (r : List Send × RecvState) : Prop :=
  r.1.length ≤ n ∧ r.2.pc.peeks = false

theorem RecvState.Answers.mono {m n : Nat} {r : List Send × RecvState} (h : Answers m r)
    (hmn : m ≤ n) : Answers n r := ⟨Nat.le_trans h.1 hmn, h.2⟩

theorem RecvState.answers_settle (f : RecvFile) (off : Nat) (skipping ackSkip : Bool)
    (fs : FsOutcome) : Answers 1 (s.settle env f off skipping ackSkip fs) := by
  have hopen : ∀ (s₁ : RecvState) (off : Nat) (skipping : Bool),
      (s₁.openTarget env f off skipping fs).pc.peeks = false := by
    intro s₁ off skipping
    unfold RecvState.openTarget
    split
    · rfl
    · split
      · rfl
      · rfl
  have hval : ∀ s₁ : RecvState, (s₁.validate env f ackSkip).1.length ≤ 1 := by
    intro s₁
    unfold RecvState.validate
    split
    · exact Nat.zero_le 1
    · split
      · exact Nat.le_refl 1
      · dsimp only
        split
        · exact Nat.le_refl 1
        · exact Nat.zero_le 1
      · exact Nat.zero_le 1
  unfold RecvState.settle
  dsimp only
  split
  · have h := hval (s.started f off)
    split
    · rename_i sends st hres
      rw [hres] at h
      exact ⟨h, rfl⟩
    · rename_i sends hres
      rw [hres] at h
      exact ⟨h, hopen _ _ _⟩
    · rename_i sends hres
      rw [hres] at h
      exact ⟨h, hopen _ _ _⟩
  · exact ⟨Nat.zero_le 1, hopen _ _ _⟩

theorem RecvState.answers_cons {n : Nat} {r : List Send × RecvState} (p : Send)
    (h : Answers n r) : Answers (n + 1) (p :: r.1, r.2) :=
  ⟨by rw [List.length_cons]; exact Nat.succ_le_succ h.1, h.2⟩

theorem RecvState.answers_legacyStart (f : RecvFile) (fs : FsOutcome) :
    Answers 2 (s.legacyStart env f fs) :=
  answers_cons _ (answers_settle f 0 false false fs)

theorem RecvState.answers_answerResume (f : RecvFile) (fs : FsOutcome) :
    Answers 2 (s.answerResume env f fs) := by
  unfold RecvState.answerResume
  dsimp only
  split
  · exact answers_cons _ (answers_settle f _ _ _ fs)
  · exact answers_cons _ (answers_settle f _ _ _ fs)
  · exact answers_cons _ (answers_settle f _ _ _ fs)
  · exact ⟨Nat.le_succ 1, rfl⟩
  · exact ⟨Nat.le_refl 2, rfl⟩

theorem RecvState.answers_answerVerify (f : RecvFile) (off : Nat) (payload : Bytes)
    (fs : FsOutcome) : Answers 2 (s.answerVerify env f off payload fs) := by
  unfold RecvState.answerVerify
  split
  · exact ⟨Nat.le_succ 1, rfl⟩
  · dsimp only
    split
    · exact answers_cons _ (answers_settle f _ _ _ fs)
    · exact answers_cons _ (answers_settle f _ _ _ fs)
    · exact answers_cons _ (answers_settle f _ _ _ fs)

theorem RecvState.onRecvResult_sends (env : RecvEnv) (s : RecvState) (f : RecvFile)
    (r : List Send × RecvResult) : (s.onRecvResult env f r).1 = r.1 := by
  unfold RecvState.onRecvResult
  split <;> rfl

/-- Behind a round of the data loop. -/
theorem RecvState.answers_round {n : Nat} (f : RecvFile) {r : List Send × RecvResult}
    (h : r.1.length ≤ n) : Answers n (s.onRecvResult env f r) := by
  refine ⟨by rw [onRecvResult_sends]; exact h, ?_⟩
  unfold RecvState.onRecvResult
  split <;> rfl

theorem onInOrder_length (d : RecvData) (payload : Bytes) (len : Nat) (short : Option Nat) :
    (onInOrder d payload len short).1.length ≤ 1 := by
  unfold onInOrder
  split
  · exact Nat.zero_le 1
  · dsimp only
    split
    · exact Nat.le_refl 1
    · split
      · exact Nat.le_refl 1
      · exact Nat.zero_le 1

/-- A DATA packet is answered at most three times: DATA_NAK, DATA_ACK and the
cadence. -/
theorem onData_length (d : RecvData) (p : Packet) (short : Option Nat) :
    (onData d p short).1.length ≤ 3 := by
  have hcad : (cadence d).1.length ≤ 1 := by
    unfold cadence
    split
    · exact Nat.le_refl 1
    · exact Nat.zero_le 1
  unfold onData
  dsimp only
  generalize (if p.off = uint64Max then d.written else p.off) = off
  split
  · exact Nat.le_trans (onInOrder_length d _ _ short) (Nat.le_add_left 1 2)
  · rw [List.length_append]
    split
    · rw [List.length_singleton]
      omega
    · rw [List.length_cons, List.length_singleton]
      omega

theorem onDataFrame_length (cfg : Config) (mtu : Nat) (d : RecvData) (fr : Frame)
    (short : Option Nat) : (onDataFrame cfg mtu d fr short).1.length ≤ 3 := by
  unfold onDataFrame
  dsimp only
  split
  · exact Nat.zero_le 3
  · split
    · exact onData_length _ _ short
    · exact Nat.le_add_left 1 2
    all_goals exact Nat.zero_le 3

/-- **The receiver on a frame**: at most three answers, and none where it
peeks next. -/
theorem RecvState.onFrame_answers (env : RecvEnv) (s : RecvState) (fr : Frame) (fs : FsOutcome) :
    Answers 3 (s.onFrame env fr fs) ∨ (s.onFrame env fr fs).1 = [] := by
  have hsome : ∀ {n : Nat} {r : List Send × RecvState}, n ≤ 3 → Answers n r →
      Answers 3 r ∨ r.1 = [] := fun hn h => Or.inl (h.mono hn)
  unfold RecvState.onFrame
  split
  · exact Or.inr rfl
  · unfold RecvState.onHelloFrame
    split
    · exact Or.inr rfl
    · split
      · exact Or.inr rfl
      · exact Or.inr rfl
      · split
        · exact Or.inr rfl
        · dsimp only
          split
          · rename_i sends st herr
            exact Or.inr (adoptPeerHello_error herr).1
          · split
            · exact Or.inl ⟨Nat.le_add_left 1 2, rfl⟩
            · exact Or.inl ⟨Nat.le_add_left 1 2, rfl⟩
      · exact Or.inr rfl
  · unfold RecvState.onMetaFrame
    split
    · exact Or.inr rfl
    · split
      · exact Or.inl ⟨Nat.le_add_left 1 2, rfl⟩
      · exact Or.inr rfl
      · split
        · exact Or.inr rfl
        · exact Or.inr rfl
      · exact Or.inr rfl
  · rename_i f hpc
    split
    · split
      · exact hsome (by decide) (answers_answerResume f fs)
      · exact hsome (by decide) (answers_legacyStart f fs)
    · split
      · exact Or.inr rfl
      · exact hsome (by decide) (answers_legacyStart f fs)
  · rename_i f n hpc
    split
    · exact Or.inr rfl
    · split
      · exact hsome (by decide) (answers_answerResume f fs)
      · exact Or.inr rfl
      · exact Or.inr rfl
      · exact Or.inr rfl
  · rename_i f n resp off hpc
    split
    · exact Or.inr rfl
    · split
      · exact Or.inl ⟨Nat.le_add_left 1 2, by rw [hpc]; rfl⟩
      · exact hsome (by decide) (answers_answerVerify f off _ fs)
      · exact Or.inr rfl
  · rename_i f d hpc
    exact hsome (Nat.le_refl 3) (answers_round f (onDataFrame_length _ _ d fr fs.short))
  · rename_i f n hpc
    split
    · exact Or.inr rfl
    · split
      · exact Or.inl ⟨Nat.le_add_left 1 2, rfl⟩
      · exact Or.inl ⟨Nat.le_add_left 1 2, rfl⟩
      · exact Or.inr rfl
      · exact Or.inr rfl

/-- What a timeout of the receiver does. -/
inductive RecvState.Waits (s : RecvState) (timer : HelloTimer) : List Send × RecvState → Prop where
  /-- it has looked for a RESUME_REQ in vain -/
  | starts {r : List Send × RecvState} (hpeek : s.pc.peeks = true) (hans : Answers 2 r) :
      Waits s timer r
  /-- one silent wait less -/
  | tires {s' : RecvState} (hpeek : s'.pc.peeks = false) (hlt : s'.pc.patience < s.pc.patience) :
      Waits s timer ([], s')
  /-- a round of the handshake loop -/
  | paces (htimer : timer ≠ .expired) : Waits s timer ([], s)

/-- **The receiver on a timeout.** -/
theorem RecvState.onTimeout_waits (env : RecvEnv) (hbusy : s.pc ≠ .idle) (timer : HelloTimer)
    (fs : FsOutcome) : s.Waits timer (s.onTimeout env timer fs) := by
  unfold RecvState.onTimeout
  split
  · rename_i hpc
    exact absurd hpc hbusy
  · rename_i hpc
    split
    · exact .tires rfl (by rw [hpc]; exact Nat.zero_lt_one)
    · rename_i htimer
      exact .paces htimer
  · rename_i n hpc
    split
    · exact .tires rfl (by rw [hpc]; exact Nat.succ_pos n)
    · refine .tires rfl ?_
      rw [hpc]
      show n - 1 + 1 < n + 1
      omega
  · rename_i f hpc
    exact .starts (by rw [hpc]; rfl) (answers_legacyStart f fs)
  · rename_i f n hpc
    split
    · exact .tires rfl (by rw [hpc]; exact Nat.succ_pos n)
    · refine .tires rfl ?_
      rw [hpc]
      show n - 1 + 1 < n + 1
      omega
  · rename_i f n resp off hpc
    split
    · exact .tires rfl (by rw [hpc]; exact Nat.succ_pos n)
    · refine .tires rfl ?_
      rw [hpc]
      show n - 1 + 1 < n + 1
      omega
  · rename_i f d hpc
    unfold onDataTimeout
    split
    · exact .tires rfl (by rw [hpc]; exact Nat.succ_pos d.tries)
    · refine .tires rfl ?_
      rw [hpc]
      show d.tries - 1 + 1 < d.tries + 1
      omega
  · rename_i f n hpc
    split
    · exact .tires rfl (by rw [hpc]; exact Nat.succ_pos n)
    · refine .tires rfl ?_
      rw [hpc]
      show n - 1 + 1 < n + 1
      omega

end Receiver

/-! ## §3. The two together. -/

/-- What the receiver still has to answer for: an item in flight to it can
cost three answers, the receiver's look for a RESUME_REQ two. -/
def SessionSys.traffic (s : SessionSys) : Nat :=
  5 * s.toRcv.length + s.toSnd.length + s.rcv.pc.peekCost + s.rcvCalls.length

/-- The order in which two calls come to an end. -/
def SessionSys.rank (s : SessionSys) : ℕ ×ₗ (ℕ ×ₗ ℕ ×ₗ ℕ) ×ₗ ℕ ×ₗ ℕ :=
  toLex (s.sndCalls.length, toLex (s.snd.work, toLex (s.traffic, s.rcv.pc.patience)))

section System

variable {c : SessionParams} {s s' : SessionSys}

/-- What the sender's part of a step adds. -/
theorem SessionSys.sent_traffic (s : SessionSys) (r : List Send × SendState) :
    (s.sent r).traffic = s.traffic + 5 * r.1.length := by
  unfold SessionSys.traffic SessionSys.sent
  dsimp only
  rw [List.length_append, List.length_map]
  omega

/-- What the receiver's part of a step adds. -/
theorem SessionSys.answered_traffic (s : SessionSys) (r : List Send × RecvState) :
    (s.answered r).traffic + s.rcv.pc.peekCost
      = s.traffic + r.1.length + r.2.pc.peekCost := by
  unfold SessionSys.traffic SessionSys.answered
  dsimp only
  rw [List.length_append, List.length_map]
  omega

/-- The sender goes on. -/
theorem SessionSys.rank_of_work (hcalls : s'.sndCalls = s.sndCalls)
    (h : s'.snd.work < s.snd.work) : s'.rank < s.rank :=
  Lex.lt_of_right (by rw [hcalls]) (Lex.lt_of_left h _ _)

/-- There is less to answer. -/
theorem SessionSys.rank_of_traffic (hcalls : s'.sndCalls = s.sndCalls)
    (hwork : s'.snd.work = s.snd.work) (h : s'.traffic < s.traffic) : s'.rank < s.rank :=
  Lex.lt_of_right (by rw [hcalls]) (Lex.lt_of_right hwork (Lex.lt_of_left h _ _))

/-- **Every step** lowers the rank, or is a round of the handshake loop in
which nothing happens, or loses nothing. -/
theorem SessionSys.rank_down {l : SessionLabel} (hdata : ∀ it ∈ s.toSnd,
    PacketType.ofByte it.send.frame.type ≠ .dataNak) (hstep : s.step c l = some s') :
    s' = s ∨ s'.rank < s.rank := by
  cases SessionSys.step_inv hstep with
  | @sndCall batch rest hcalls hidle =>
      refine Or.inr (Lex.lt_of_left ?_ _ _)
      show rest.length < s.sndCalls.length
      rw [hcalls, List.length_cons]
      omega
  | @rcvCall dir rest hcalls hidle =>
      refine Or.inr (SessionSys.rank_of_traffic rfl rfl ?_)
      have hpeek : (s.rcv.call c.rcv dir).pc.peeks = false := by
        unfold RecvState.call
        dsimp only
        split <;> rfl
      unfold SessionSys.traffic
      dsimp only
      rw [RecvPc.peekCost_of_not hpeek, hcalls, List.length_cons]
      omega
  | @sndRecv it rest hchan hbusy =>
      have hmem : it ∈ s.toSnd := by
        rw [hchan]
        exact List.mem_cons_self ..
      have htaken : SessionSys.traffic { s with toSnd := rest } + 1 = s.traffic := by
        unfold SessionSys.traffic
        dsimp only
        rw [hchan, List.length_cons]
        omega
      rcases SendState.onFrame_work c.snd hbusy (hdata it hmem)
        (buildFrame_typeData_lt _ _ _ _) with hlt | ⟨heq, hnil⟩
      · exact Or.inr (SessionSys.rank_of_work rfl hlt)
      · -- nothing but the frame is gone
        refine Or.inr (SessionSys.rank_of_traffic rfl heq ?_)
        rw [SessionSys.sent_traffic, hnil, List.length_nil]
        omega
  | @sndTimeout timer hbusy =>
      rcases SendState.onTimeout_work c.snd hbusy timer with hlt | ⟨-, hsame⟩
      · exact Or.inr (SessionSys.rank_of_work rfl hlt)
      · refine Or.inl ?_
        rw [hsame]
        unfold SessionSys.sent
        rw [List.map_nil, List.append_nil]
  | @rcvRecv it rest fs hchan hbusy =>
      refine Or.inr (SessionSys.rank_of_traffic rfl rfl ?_)
      have htaken : SessionSys.traffic { s with toRcv := rest } + 5 = s.traffic := by
        unfold SessionSys.traffic
        dsimp only
        rw [hchan, List.length_cons]
        omega
      have hadd := SessionSys.answered_traffic { s with toRcv := rest }
        (s.rcv.onFrame c.rcv it.send.frame fs)
      rcases RecvState.onFrame_answers c.rcv s.rcv it.send.frame fs with ⟨hlen, hpeek⟩ | hnil
      · rw [RecvPc.peekCost_of_not hpeek] at hadd
        omega
      · have hcost := (s.rcv.onFrame c.rcv it.send.frame fs).2.pc.peekCost_le
        rw [hnil, List.length_nil] at hadd
        omega
  | @rcvTimeout timer fs hbusy =>
      have hwaits := RecvState.onTimeout_waits c.rcv hbusy timer fs
      generalize s.rcv.onTimeout c.rcv timer fs = r at hwaits ⊢
      have hadd := SessionSys.answered_traffic s r
      cases hwaits with
      | starts hpeek hans =>
          refine Or.inr (SessionSys.rank_of_traffic rfl rfl ?_)
          have hcost : s.rcv.pc.peekCost = 4 := by
            unfold RecvPc.peekCost
            rw [hpeek]
            rfl
          have hlen := hans.1
          rw [hcost, RecvPc.peekCost_of_not hans.2] at hadd
          omega
      | @tires rcv' hpeek hlt =>
          have hquiet : s.rcv.pc.peeks = false := by
            -- a look for a RESUME_REQ has no silent waits to lose
            cases hpc : s.rcv.pc with
            | neverPeek f =>
                rw [hpc] at hlt
                exact absurd hlt (Nat.not_lt_zero _)
            | _ => rfl
          refine Or.inr (Lex.lt_of_right rfl (Lex.lt_of_right rfl (Lex.lt_of_right ?_ hlt)))
          rw [RecvPc.peekCost_of_not hpeek, RecvPc.peekCost_of_not hquiet] at hadd
          exact hadd
      | paces htimer =>
          refine Or.inl ?_
          unfold SessionSys.answered
          rw [List.map_nil, List.append_nil]
  | @lose l toRcv toSnd hl hrcv hsnd =>
      by_cases hlen : toRcv.length = s.toRcv.length ∧ toSnd.length = s.toSnd.length
      · refine Or.inl ?_
        rw [hrcv.eq_of_length hlen.1, hsnd.eq_of_length hlen.2]
      · refine Or.inr (SessionSys.rank_of_traffic rfl rfl ?_)
        have h₁ := hrcv.length_le
        have h₂ := hsnd.length_le
        unfold SessionSys.traffic
        dsimp only
        omega

/-- **Both calls come to an end.** -/
theorem ranking (hc : c.Regular) (batch : List SourceFile) :
    Ranking (SessionSys.step c) (Unwrapped c) (NakFree c batch) SessionSys.rank where
  keep := fun hi hadm hstep => nakFree_step hc hi hadm hstep
  down := by
    intro s l s' hi hadm hstep
    refine SessionSys.rank_down ?_ hstep
    intro it hit
    obtain ⟨D, hj⟩ := hi.joint
    rw [Send.frame_type (hj.sync.rep_named it hit)]
    exact hi.no_nak it hit

/-- **At rest** no call is running and none is left. -/
theorem SessionSys.idle_of_still (h : Lts.Still (SessionSys.step c) (Unwrapped c) s) :
    s.snd.pc = .idle ∧ s.rcv.pc = .idle ∧ s.sndCalls = [] ∧ s.rcvCalls = [] := by
  have hsnd : s.snd.pc = .idle := by
    by_contra hbusy
    -- a wait that expires is admitted, and changes something
    have hstep : s.step c (.sndTimeout .expired)
        = some (s.sent (s.snd.onTimeout c.snd .expired)) := if_neg hbusy
    have hsame := h (.sndTimeout .expired) _ ⟨trivial, rfl⟩ hstep
    rcases SendState.onTimeout_work c.snd hbusy .expired with hlt | ⟨hne, -⟩
    · have hwork : (s.snd.onTimeout c.snd .expired).2.work = s.snd.work :=
        congrArg (fun t => t.snd.work) hsame
      exact absurd hlt (by rw [hwork]; exact lt_irrefl _)
    · exact hne rfl
  have hrcv : s.rcv.pc = .idle := by
    by_contra hbusy
    have hstep : s.step c (.rcvTimeout .expired .good)
        = some (s.answered (s.rcv.onTimeout c.rcv .expired .good)) := if_neg hbusy
    have hsame := h (.rcvTimeout .expired .good) _ ⟨trivial, rfl⟩ hstep
    have hpc : (s.rcv.onTimeout c.rcv .expired .good).2.pc = s.rcv.pc :=
      congrArg (fun t => t.rcv.pc) hsame
    have hwaits := RecvState.onTimeout_waits c.rcv hbusy .expired .good
    generalize s.rcv.onTimeout c.rcv .expired .good = r at hwaits hpc
    cases hwaits with
    | starts hpeek hans =>
        rw [← hpc, hans.2] at hpeek
        cases hpeek
    | tires hpeek hlt =>
        dsimp only at hpc
        rw [hpc] at hlt
        exact absurd hlt (Nat.lt_irrefl _)
    | paces htimer => exact htimer rfl
  refine ⟨hsnd, hrcv, ?_, ?_⟩
  · cases hcalls : s.sndCalls with
    | nil => rfl
    | cons batch rest =>
        have hstep : s.step c .sndCall
            = some ({ s with sndCalls := rest }.sent (s.snd.call c.snd batch)) := by
          simp only [SessionSys.step, hcalls, hsnd, if_true]
        have hsame := congrArg SessionSys.sndCalls (h .sndCall _ ⟨trivial, rfl⟩ hstep)
        rw [hcalls] at hsame
        exact absurd hsame (List.ne_cons_self)
  · cases hcalls : s.rcvCalls with
    | nil => rfl
    | cons dir rest =>
        have hstep : s.step c .rcvCall
            = some { s with rcvCalls := rest, rcv := s.rcv.call c.rcv dir } := by
          simp only [SessionSys.step, hcalls, hrcv, if_true]
        have hsame := congrArg SessionSys.rcvCalls (h .rcvCall _ ⟨trivial, rfl⟩ hstep)
        rw [hcalls] at hsame
        exact absurd hsame (List.ne_cons_self)

/-- Both calls have returned, once. -/
structure SessionSys.Returned (batch : List SourceFile) (s : SessionSys) : Prop where
  snd_idle : s.snd.pc = .idle
  rcv_idle : s.rcv.pc = .idle
  snd_log : ∃ st, s.snd.log = [(batch, st)]
  rcv_log : ∃ done st, s.rcv.log = [(done, st)]

/-- **Two calls come to an end.**  A run of one `val_send_files` call against
one `val_receive_files` call does not go on changing for ever, whatever is lost
or late or cannot be written; where nothing changes any more both calls have
returned; and from every reached state some run leads there. -/
theorem session_terminates (hc : c.Regular) (files : Bytes → Option Bytes)
    (batch : List SourceFile) (dir : Bytes) :
    (∀ run : Nat → SessionSys, run 0 = SessionSys.init c files [batch] [dir] →
      Lts.Endless (SessionSys.step c) (Unwrapped c) run → ∃ n, ∀ m, n ≤ m → run m = run n)
    ∧ (∀ s, Lts.Reach (SessionSys.step c) (Unwrapped c) (SessionSys.init c files [batch] [dir]) s →
        Lts.Still (SessionSys.step c) (Unwrapped c) s → s.Returned batch)
    ∧ ∀ s, Lts.Reach (SessionSys.step c) (Unwrapped c) (SessionSys.init c files [batch] [dir]) s →
        ∃ t, Lts.Reach (SessionSys.step c) (Unwrapped c) s t ∧ t.Returned batch := by
  have hinit := nakFree_init hc files batch dir
  have hkeep : ∀ s, Lts.Reach (SessionSys.step c) (Unwrapped c)
      (SessionSys.init c files [batch] [dir]) s → NakFree c batch s ∧ s.rcvCount = 1 := by
    intro s hs
    refine hs.invariant (I := fun s => NakFree c batch s ∧ s.rcvCount = 1) ⟨hinit, rfl⟩ ?_
    intro s l s' hi hadm hstep
    refine ⟨nakFree_step hc hi.1 hadm hstep, ?_⟩
    rw [(calls_step hstep).count_eq]
    exact hi.2
  have hrest : ∀ s, Lts.Reach (SessionSys.step c) (Unwrapped c)
      (SessionSys.init c files [batch] [dir]) s →
      Lts.Still (SessionSys.step c) (Unwrapped c) s → s.Returned batch := by
    intro s hs hstill
    obtain ⟨hnak, hcount⟩ := hkeep s hs
    obtain ⟨hsnd, hrcv, hsc, hrc⟩ := SessionSys.idle_of_still hstill
    obtain ⟨D, hj⟩ := hnak.joint
    have hbatches := hj.batches
    unfold SessionSys.sndBatches at hbatches
    rw [hsnd, if_pos rfl, hsc, List.append_nil, List.append_nil] at hbatches
    unfold SessionSys.rcvCount at hcount
    rw [hrcv, if_pos rfl, hrc, List.length_nil] at hcount
    refine ⟨hsnd, hrcv, ?_, ?_⟩
    · obtain ⟨e, he, hfst⟩ := List.map_eq_singleton_iff.mp hbatches
      exact ⟨e.2, by rw [he, ← hfst]⟩
    · obtain ⟨e, he⟩ := List.length_eq_one_iff.mp (by omega : s.rcv.log.length = 1)
      exact ⟨e.1, e.2, he⟩
  refine ⟨?_, hrest, ?_⟩
  · intro run h₀ hrun
    exact (ranking hc batch).stops (by rw [h₀]; exact hinit) hrun
  · intro s hs
    obtain ⟨t, ht, hstill⟩ := (ranking hc batch).settles (hkeep s hs).1
    exact ⟨t, ht, hrest t (hs.trans ht) hstill⟩

end System

/-- The run with a lost packet can be brought to an end. -/
theorem session_terminates_gap_run :
    ∃ s : SessionSys, s.dataView = (some 500, [(0, true), (492, false)], [.dataAck])
      ∧ ∃ t, Lts.Reach (SessionSys.step unevenPair) (Unwrapped unevenPair) s t
          ∧ t.Returned unevenBatch := by
  obtain ⟨s, hreach, hview⟩ := Lts.Reach.exists_of_foldlM (SessionSys.step unevenPair)
    SessionSys.noWrap (SessionSys.init unevenPair (fun _ => none) [unevenBatch] [[]])
    SessionSys.dataView gapRun
    (show _ = some (some 500, [(0, true), (492, false)], [.dataAck]) by decide +kernel)
  exact ⟨s, hview, (session_terminates unevenPair_regular (fun _ => none) unevenBatch []).2.2 s
    (hreach.mono fun s l hl => ⟨windowLands_of_long64 (c := unevenPair) rfl rfl s l, hl⟩)⟩

end ValProtocol
