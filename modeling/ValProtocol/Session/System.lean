/-
  ValProtocol.Session.System
  ──────────────────────────
  Two sessions and the link between them: successive `val_send_files` calls
  on one side, successive `val_receive_files` calls on the other, two FIFO
  channels of packets.

  A channel item is the arguments of the send call whose frame is in flight;
  the peer sees only `Send.frame`.  Items carry two stamps that are not on the
  wire: the emitter's exchange counter, and the file it was sent for (`i` of
  `val_send_files`; on the receiver's side the file being handled, counted by
  `files_completed`).

  The environment may let any wait time out and lose any item; a run that
  uses no `lose` label is one over reliable channels with arbitrary delays.
-/
import ValProtocol.Session.Receiver

namespace ValProtocol

/-! ## §1. The joint state and its steps. -/

/-- The file the sender is working on: from its SEND_META to its DONE_ACK. -/
def SendState.handling (s : SendState) : Option Nat :=
  match s.pc.exchange with
  | some .file => some s.idx
  | _ => none

/-- The file the receiver is working on: from accepting its SEND_META to
completing it. -/
def RecvState.handling (s : RecvState) : Option Nat :=
  match s.pc.phase with
  | .file _ => some s.completed.length
  | _ => none

/-- A packet in flight. -/
structure Item where
  send : Send
  turn : Nat
  file : Option Nat

/-- The two environments. -/
structure SessionParams where
  snd : SendEnv
  rcv : RecvEnv

/-- The joint state; `sndCalls` and `rcvCalls` are the calls the applications
have still to make. -/
structure SessionSys where
  snd : SendState
  rcv : RecvState
  toRcv : List Item
  toSnd : List Item
  sndCalls : List (List SourceFile)
  rcvCalls : List Bytes

/-- One step of a party or of the environment. -/
inductive SessionLabel where
  | sndCall
  | rcvCall
  | sndRecv
  | sndTimeout (timer : HelloTimer)
  | rcvRecv (fs : FsOutcome)
  | rcvTimeout (timer : HelloTimer) (fs : FsOutcome)
  | loseToRcv (i : Nat)
  | loseToSnd (i : Nat)
  deriving DecidableEq

namespace SessionSys

/-- The sender's part of a step: its packets carry the counters it has when
it sends them. -/
def sent (s : SessionSys) (r : List Send × SendState) : SessionSys :=
  { s with snd := r.2, toRcv := s.toRcv ++ r.1.map (fun p => ⟨p, r.2.turn, some r.2.idx⟩) }

/-- The receiver's part of a step: its packets belong to the exchange it was
in. -/
def answered (s : SessionSys) (r : List Send × RecvState) : SessionSys :=
  { s with
    rcv := r.2,
    toSnd := s.toSnd ++ r.1.map (fun p => ⟨p, s.rcv.turn, s.rcv.handling⟩) }

def step (c : SessionParams) (s : SessionSys) : SessionLabel → Option SessionSys
  | .sndCall =>
      match s.sndCalls with
      | [] => none
      | batch :: rest =>
          if s.snd.pc = .idle then
            some ({ s with sndCalls := rest }.sent (s.snd.call c.snd batch))
          else none
  | .rcvCall =>
      match s.rcvCalls with
      | [] => none
      | dir :: rest =>
          if s.rcv.pc = .idle then
            some { s with rcvCalls := rest, rcv := s.rcv.call c.rcv dir }
          else none
  | .sndRecv =>
      match s.toSnd with
      | [] => none
      | it :: rest =>
          if s.snd.pc = .idle then none
          else some ({ s with toSnd := rest }.sent (s.snd.onFrame c.snd it.send.frame))
  | .sndTimeout timer =>
      if s.snd.pc = .idle then none else some (s.sent (s.snd.onTimeout c.snd timer))
  | .rcvRecv fs =>
      match s.toRcv with
      | [] => none
      | it :: rest =>
          if s.rcv.pc = .idle then none
          else some ({ s with toRcv := rest }.answered (s.rcv.onFrame c.rcv it.send.frame fs))
  | .rcvTimeout timer fs =>
      if s.rcv.pc = .idle then none else some (s.answered (s.rcv.onTimeout c.rcv timer fs))
  | .loseToRcv i => some { s with toRcv := s.toRcv.eraseIdx i }
  | .loseToSnd i => some { s with toSnd := s.toSnd.eraseIdx i }

/-- Two fresh sessions, empty channels, the calls to come. -/
def init (c : SessionParams) (files : Bytes → Option Bytes)
    (sndCalls : List (List SourceFile)) (rcvCalls : List Bytes) : SessionSys where
  snd := SendState.fresh c.snd.cfg
  rcv := RecvState.fresh c.rcv.cfg files
  toRcv := []
  toSnd := []
  sndCalls := sndCalls
  rcvCalls := rcvCalls

end SessionSys

/-- Does the label lose a packet? -/
def SessionLabel.isLoss : SessionLabel → Bool
  | .loseToRcv _ | .loseToSnd _ => true
  | _ => false

/-- What each label does. -/
inductive SessionStep (c : SessionParams) (s : SessionSys) :
    SessionLabel → SessionSys → Prop where
  | sndCall {batch : List SourceFile} {rest : List (List SourceFile)}
      (hcalls : s.sndCalls = batch :: rest) (hidle : s.snd.pc = .idle) :
      SessionStep c s .sndCall ({ s with sndCalls := rest }.sent (s.snd.call c.snd batch))
  | rcvCall {dir : Bytes} {rest : List Bytes} (hcalls : s.rcvCalls = dir :: rest)
      (hidle : s.rcv.pc = .idle) :
      SessionStep c s .rcvCall { s with rcvCalls := rest, rcv := s.rcv.call c.rcv dir }
  | sndRecv {it : Item} {rest : List Item} (hchan : s.toSnd = it :: rest)
      (hbusy : s.snd.pc ≠ .idle) :
      SessionStep c s .sndRecv
        ({ s with toSnd := rest }.sent (s.snd.onFrame c.snd it.send.frame))
  | sndTimeout {timer : HelloTimer} (hbusy : s.snd.pc ≠ .idle) :
      SessionStep c s (.sndTimeout timer) (s.sent (s.snd.onTimeout c.snd timer))
  | rcvRecv {it : Item} {rest : List Item} {fs : FsOutcome} (hchan : s.toRcv = it :: rest)
      (hbusy : s.rcv.pc ≠ .idle) :
      SessionStep c s (.rcvRecv fs)
        ({ s with toRcv := rest }.answered (s.rcv.onFrame c.rcv it.send.frame fs))
  | rcvTimeout {timer : HelloTimer} {fs : FsOutcome} (hbusy : s.rcv.pc ≠ .idle) :
      SessionStep c s (.rcvTimeout timer fs) (s.answered (s.rcv.onTimeout c.rcv timer fs))
  | lose {l : SessionLabel} {toRcv toSnd : List Item} (hl : l.isLoss = true)
      (hrcv : toRcv.Sublist s.toRcv) (hsnd : toSnd.Sublist s.toSnd) :
      SessionStep c s l { s with toRcv := toRcv, toSnd := toSnd }

/-- **Inversion of a step.** -/
theorem SessionSys.step_inv {c : SessionParams} {s s' : SessionSys} {l : SessionLabel}
    (h : s.step c l = some s') : SessionStep c s l s' := by
  cases l with
  | sndCall =>
      simp only [SessionSys.step] at h
      split at h
      · cases h
      · rename_i batch rest hcalls
        split at h
        · rename_i hidle
          cases h
          exact .sndCall hcalls hidle
        · cases h
  | rcvCall =>
      simp only [SessionSys.step] at h
      split at h
      · cases h
      · rename_i dir rest hcalls
        split at h
        · rename_i hidle
          cases h
          exact .rcvCall hcalls hidle
        · cases h
  | sndRecv =>
      simp only [SessionSys.step] at h
      split at h
      · cases h
      · rename_i it rest hchan
        split at h
        · cases h
        · rename_i hbusy
          cases h
          exact .sndRecv hchan hbusy
  | sndTimeout timer =>
      simp only [SessionSys.step] at h
      split at h
      · cases h
      · rename_i hbusy
        cases h
        exact .sndTimeout hbusy
  | rcvRecv fs =>
      simp only [SessionSys.step] at h
      split at h
      · cases h
      · rename_i it rest hchan
        split at h
        · cases h
        · rename_i hbusy
          cases h
          exact .rcvRecv hchan hbusy
  | rcvTimeout timer fs =>
      simp only [SessionSys.step] at h
      split at h
      · cases h
      · rename_i hbusy
        cases h
        exact .rcvTimeout hbusy
  | loseToRcv i =>
      cases h
      exact .lose rfl (List.eraseIdx_sublist _ _) (List.Sublist.refl _)
  | loseToSnd i =>
      cases h
      exact .lose rfl (List.Sublist.refl _) (List.eraseIdx_sublist _ _)

/-! ## §2. Calls are accounted for. -/

/-- A step of the sender inside a call: the call goes on, or it returns. -/
theorem SendStep.log_cases {env : SendEnv} {s : SendState} {last : Option PacketType}
    {r : List Send × SendState} (h : SendStep env s last r) :
    (r.2.pc ≠ .idle ∧ r.2.log = s.log ∧ r.2.batch = s.batch)
    ∨ (r.2.pc = .idle ∧ ∃ st, r.2.log = s.log ++ [(s.batch, st)]) := by
  -- the next file is opened, or the call returns with the error
  have hbegin : ∀ s₁ : SendState, s₁.log = s.log → s₁.batch = s.batch →
      ((s₁.beginFile env).2.pc ≠ .idle ∧ (s₁.beginFile env).2.log = s.log
        ∧ (s₁.beginFile env).2.batch = s.batch)
      ∨ ((s₁.beginFile env).2.pc = .idle
        ∧ ∃ st, (s₁.beginFile env).2.log = s.log ++ [(s.batch, st)]) := by
    intro s₁ hlog hbatch
    unfold SendState.beginFile
    split
    · exact Or.inl ⟨nofun, hlog, hbatch⟩
    · split
      · refine Or.inr ⟨rfl, .io, ?_⟩
        show s₁.log ++ [(s₁.batch, _)] = _
        rw [hlog, hbatch]
      · exact Or.inl ⟨nofun, hlog, hbatch⟩
  cases h with
  | @within k sends s' hk hk' same sends_ok =>
      refine Or.inl ⟨?_, same.log_eq, same.batch_eq⟩
      intro hidle
      rw [show s'.pc = .idle from hidle] at hk'
      cases hk'
  | @failed k sends s₁ st hk same hst sends_ok =>
      refine Or.inr ⟨rfl, st, ?_⟩
      show s₁.log ++ [(s₁.batch, st)] = _
      rw [same.log_eq, same.batch_eq]
  | greeted hk hlast turn_eq batch_eq idx_eq log_eq done_eq => exact hbegin _ log_eq batch_eq
  | filed hk hlast turn_eq batch_eq idx_eq log_eq done_eq mtu_eq =>
      exact hbegin _ log_eq batch_eq
  | finished hk hlast => exact Or.inr ⟨rfl, .ok, rfl⟩

theorem SendState.call_log (env : SendEnv) (s : SendState) (batch : List SourceFile) :
    ((s.call env batch).2.pc ≠ .idle ∧ (s.call env batch).2.log = s.log
      ∧ (s.call env batch).2.batch = batch)
    ∨ ((s.call env batch).2.pc = .idle
      ∧ ∃ st, (s.call env batch).2.log = s.log ++ [(batch, st)]) := by
  unfold SendState.call
  dsimp only
  split
  · exact Or.inr ⟨rfl, _, rfl⟩
  · split
    · unfold SendState.beginFile
      split
      · exact Or.inl ⟨nofun, rfl, rfl⟩
      · split
        · exact Or.inr ⟨rfl, _, rfl⟩
        · exact Or.inl ⟨nofun, rfl, rfl⟩
    · exact Or.inl ⟨nofun, rfl, rfl⟩

/-- A step of the receiver inside a call: the call goes on, or it returns. -/
theorem RecvStep.log_cases {env : RecvEnv} {s : RecvState} {last : Option Frame}
    {r : List Send × RecvState} (h : RecvStep env s last r) (hbusy : s.pc ≠ .idle) :
    (r.2.pc ≠ .idle ∧ r.2.log = s.log)
    ∨ (r.2.pc = .idle ∧ ∃ st, r.2.log = s.log ++ [(s.completed, st)]) := by
  have hphase : ∀ pc : RecvPc, pc.phase = .none → pc = .idle := by
    intro pc hpc
    cases pc <;> first | rfl | cases hpc
  have hne : ∀ {pc : RecvPc} {ph : RecvPhase}, pc.phase = ph → ph ≠ .none → pc ≠ .idle := by
    intro pc ph hpc hph hidle
    rw [hidle] at hpc
    exact hph hpc.symm
  cases h with
  | @waits s' hph same =>
      refine Or.inl ⟨?_, same.log_eq⟩
      intro hidle
      rw [show s'.pc = .idle from hidle] at hph
      exact hbusy (hphase _ hph.symm)
  | within hph hph' same sends_ok => exact Or.inl ⟨hne hph' nofun, same.log_eq⟩
  | @stopped s₁ st same hst =>
      refine Or.inr ⟨rfl, st, ?_⟩
      show s₁.log ++ [(s₁.completed, st)] = _
      rw [same.log_eq, same.completed_eq]
  | @failed f sends s₁ st hph same hst sends_ok =>
      refine Or.inr ⟨rfl, st, ?_⟩
      show s₁.log ++ [(s₁.completed, st)] = _
      rw [same.log_eq, same.completed_eq]
  | greeted hph hlast htype hph' turn_eq completed_eq log_eq done_eq mtu_min hp =>
      exact Or.inl ⟨hne hph' nofun, log_eq⟩
  | opened hph hlast hrecv htype hlen =>
      exact Or.inl ⟨hne (RecvState.acceptMeta_phase env s _) nofun, rfl⟩
  | filed hph hlast htype same => exact Or.inl ⟨nofun, same.log_eq⟩
  | finished hph hlast htype => exact Or.inr ⟨rfl, .ok, rfl⟩

theorem RecvState.call_busy (env : RecvEnv) (s : RecvState) (dir : Bytes) :
    (s.call env dir).pc ≠ .idle := by
  unfold RecvState.call
  dsimp only
  split <;> exact nofun

/-- The batches of the calls returned, running and to come. -/
def SessionSys.sndBatches (s : SessionSys) : List (List SourceFile) :=
  s.snd.log.map Prod.fst ++ ((if s.snd.pc = .idle then [] else [s.snd.batch]) ++ s.sndCalls)

/-- Calls to come, running and returned. -/
def SessionSys.rcvCount (s : SessionSys) : Nat :=
  s.rcvCalls.length + (if s.rcv.pc = .idle then 0 else 1) + s.rcv.log.length

/-- What a step does to the calls: none is made out of nothing, none
disappears, and what has returned stays as it is. -/
structure CallsKept (s : SessionSys) (l : SessionLabel) (s' : SessionSys) : Prop where
  batches_eq : s'.sndBatches = s.sndBatches
  count_eq : s'.rcvCount = s.rcvCount
  sndLog : s'.snd.log = s.snd.log
    ∨ (s.snd.pc = .idle → l = .sndCall) ∧ ∃ e, s'.snd.log = s.snd.log ++ [e]
  rcvLog : s'.rcv.log = s.rcv.log
    ∨ s.rcv.pc ≠ .idle ∧ ∃ e, s'.rcv.log = s.rcv.log ++ [e]

/-- A running call of the sender goes on or is logged. -/
theorem CallsKept.sent {s : SessionSys} {l : SessionLabel} {r : List Send × SendState} {up : List Item}
    {calls : List (List SourceFile)} {batch : List SourceFile}
    (hr : (r.2.pc ≠ .idle ∧ r.2.log = s.snd.log ∧ r.2.batch = batch)
      ∨ (r.2.pc = .idle ∧ ∃ st, r.2.log = s.snd.log ++ [(batch, st)]))
    (hbatch : (if s.snd.pc = .idle then [] else [s.snd.batch]) ++ s.sndCalls
      = batch :: calls)
    (hl : s.snd.pc = .idle → l = .sndCall) :
    CallsKept s l ({ s with toSnd := up, sndCalls := calls }.sent r) := by
  refine ⟨?_, rfl, ?_, Or.inl rfl⟩
  · unfold SessionSys.sndBatches
    rw [hbatch]
    show r.2.log.map Prod.fst ++ ((if r.2.pc = .idle then [] else [r.2.batch]) ++ calls) = _
    rcases hr with ⟨hpc, hlog, hb⟩ | ⟨hpc, st, hlog⟩
    · rw [if_neg hpc, hlog, hb]
      rfl
    · rw [if_pos hpc, hlog, List.map_append, List.append_assoc]
      rfl
  · rcases hr with ⟨-, hlog, -⟩ | ⟨-, st, hlog⟩
    · exact Or.inl hlog
    · exact Or.inr ⟨hl, _, hlog⟩

/-- A running call of the receiver goes on or is logged. -/
theorem CallsKept.answered {s : SessionSys} {l : SessionLabel} {r : List Send × RecvState} {down : List Item}
    (hr : (r.2.pc ≠ .idle ∧ r.2.log = s.rcv.log)
      ∨ (r.2.pc = .idle ∧ ∃ st, r.2.log = s.rcv.log ++ [(s.rcv.completed, st)]))
    (hbusy : s.rcv.pc ≠ .idle) : CallsKept s l ({ s with toRcv := down }.answered r) := by
  refine ⟨rfl, ?_, Or.inl rfl, ?_⟩
  · unfold SessionSys.rcvCount
    show s.rcvCalls.length + (if r.2.pc = .idle then 0 else 1) + r.2.log.length = _
    rw [if_neg hbusy]
    rcases hr with ⟨hpc, hlog⟩ | ⟨hpc, st, hlog⟩
    · rw [if_neg hpc, hlog]
    · rw [if_pos hpc, hlog, List.length_append, List.length_singleton]
      omega
  · rcases hr with ⟨-, hlog⟩ | ⟨-, st, hlog⟩
    · exact Or.inl hlog
    · exact Or.inr ⟨hbusy, _, hlog⟩

theorem CallsKept.sndLog_prefix {s s' : SessionSys} {l : SessionLabel}
    (h : CallsKept s l s') :
    s.snd.log <+: s'.snd.log := by
  rcases h.sndLog with heq | ⟨-, e, heq⟩
  · rewrite [heq]
    exact List.prefix_rfl
  · rw [heq]
    exact List.prefix_append _ _

theorem CallsKept.rcvLog_prefix {s s' : SessionSys} {l : SessionLabel}
    (h : CallsKept s l s') :
    s.rcv.log <+: s'.rcv.log := by
  rcases h.rcvLog with heq | ⟨-, e, heq⟩
  · rewrite [heq]
    exact List.prefix_rfl
  · rw [heq]
    exact List.prefix_append _ _

/-- **What one step does to the calls.** -/
theorem calls_step {c : SessionParams} {s s' : SessionSys} {l : SessionLabel}
    (h : s.step c l = some s') : CallsKept s l s' := by
  cases SessionSys.step_inv h with
  | @sndCall batch rest hcalls hidle =>
      refine @CallsKept.sent _ _ _ s.toSnd _ _ (SendState.call_log c.snd s.snd batch) ?_
        (fun _ => rfl)
      rw [if_pos hidle, hcalls, List.nil_append]
  | @rcvCall dir rest hcalls hidle =>
      refine ⟨rfl, ?_, Or.inl rfl, Or.inl rfl⟩
      unfold SessionSys.rcvCount
      show rest.length + (if (s.rcv.call c.rcv dir).pc = .idle then 0 else 1)
        + s.rcv.log.length = _
      rw [hcalls, if_pos hidle, if_neg (RecvState.call_busy c.rcv s.rcv dir), List.length_cons]
  | @sndRecv it rest hchan hbusy =>
      refine CallsKept.sent (SendState.onFrame_step c.snd hbusy it.send.frame).log_cases ?_
        (fun hidle => absurd hidle hbusy)
      rw [if_neg hbusy, List.singleton_append]
  | @sndTimeout timer hbusy =>
      refine @CallsKept.sent _ _ _ s.toSnd _ _
        (SendState.onTimeout_step c.snd hbusy timer).log_cases ?_
        (fun hidle => absurd hidle hbusy)
      rw [if_neg hbusy, List.singleton_append]
  | @rcvRecv it rest fs hchan hbusy =>
      exact CallsKept.answered
        ((RecvState.onFrame_step c.rcv s.rcv it.send.frame fs).log_cases hbusy) hbusy
  | @rcvTimeout timer fs hbusy =>
      exact @CallsKept.answered _ _ _ s.toRcv
        ((RecvState.onTimeout_step c.rcv s.rcv timer fs).log_cases hbusy) hbusy
  | lose hl hrcv hsnd => exact ⟨rfl, rfl, Or.inl rfl, Or.inl rfl⟩

/-! ## §3. The exchanges to come. -/

/-- One exchange of a run without faults. -/
inductive Exchange where
  | hello
  | file (f : SourceFile)
  | eot
  deriving Repr, DecidableEq

def Exchange.kind : Exchange → ExchangeKind
  | .hello => .hello
  | .file _ => .file
  | .eot => .eot

/-- A call: its files, then EOT. -/
def callScript (batch : List SourceFile) : List Exchange := batch.map .file ++ [.eot]

def callsScript (calls : List (List SourceFile)) : List Exchange := calls.flatMap callScript

/-- All exchanges of a list of calls on a fresh session. -/
def script (calls : List (List SourceFile)) : List Exchange := .hello :: callsScript calls

/-- May the packet be sent in this exchange? -/
def Exchange.Request (env : SendEnv) (e : Exchange) (p : Send) : Prop :=
  e.kind.request p.type = true
  ∨ ∃ f content, e = .file f ∧ f.readable = some content ∧ p = sendMeta env.senderPath f

/-- The answers that end an exchange. -/
def PacketType.isFinal : PacketType → Bool
  | .hello | .doneAck | .eotAck => true
  | _ => false

/-- No call of this side has failed. -/
def SendState.Clean (s : SendState) : Prop := ∀ e ∈ s.log, e.2 = .ok

def RecvState.Clean (s : RecvState) : Prop := ∀ e ∈ s.log, e.2 = .ok

theorem SendState.not_clean_ret {s : SendState} {st : Status} (h : st ≠ .ok) :
    ¬ (s.ret st).Clean := by
  intro hc
  exact h (hc (s.batch, st) (List.mem_append_right _ (List.mem_singleton_self _)))

theorem RecvState.not_clean_ret {s : RecvState} {st : Status} (h : st ≠ .ok) :
    ¬ (s.ret st).Clean := by
  intro hc
  exact h (hc (s.completed, st) (List.mem_append_right _ (List.mem_singleton_self _)))

/-- What the sender has before it, its own exchange first. -/
def SendState.ahead (s : SendState) (calls : List (List SourceFile)) : List Exchange :=
  match s.pc.exchange with
  | none => (if s.handshakeDone then [] else [.hello]) ++ callsScript calls
  | some .hello => .hello :: (callScript s.batch ++ callsScript calls)
  | some _ => callScript (s.batch.drop s.idx) ++ callsScript calls

/-- The sender is where the script says. -/
structure SendAt (sc : List Exchange) (s : SendState) (calls : List (List SourceFile)) :
    Prop where
  ahead_eq : sc.drop s.turn = s.ahead calls
  hello_ok : s.pc.exchange = some .hello → s.idx = 0 ∧ s.handshakeDone = false
  file_ok : s.pc.exchange = some .file → s.idx < s.batch.length ∧ s.handshakeDone = true
  eot_ok : s.pc.exchange = some .eot → s.batch.length ≤ s.idx ∧ s.handshakeDone = true

/-- The files of finished and unfinished calls in a list of exchanges. -/
def recordStep (env : SendEnv) (r : List (List MetaPayload) × List MetaPayload) :
    Exchange → List (List MetaPayload) × List MetaPayload
  | .hello => r
  | .file f => (r.1, r.2 ++ [f.announced env.senderPath])
  | .eot => (r.1 ++ [r.2], [])

def record (env : SendEnv) (es : List Exchange) : List (List MetaPayload) × List MetaPayload :=
  es.foldl (recordStep env) ([], [])

/-- The receiver is where the script says, and has completed what it says. -/
structure RecvAt (env : SendEnv) (sc : List Exchange) (s : RecvState) : Prop where
  record_eq : record env (sc.take s.turn) = (s.log.map Prod.fst, s.completed)
  hello_ok : s.pc.phase = .hello → s.handshakeDone = false
  fresh_ok : s.handshakeDone = false → s.turn = 0
  header_ok : s.pc.phase = .header → s.handshakeDone = true
  file_done : ∀ f, s.pc.phase = .file f → s.handshakeDone = true
  file_ok : ∀ f, s.pc.phase = .file f →
    ∃ src, sc[s.turn]? = some (.file src) ∧ f.announced = src.announced env.senderPath

theorem record_snoc (env : SendEnv) {sc : List Exchange} {n : Nat} {e : Exchange}
    (h : sc[n]? = some e) :
    record env (sc.take (n + 1)) = recordStep env (record env (sc.take n)) e := by
  rw [List.take_add_one, h, record, Option.toList_some, List.foldl_append]
  rfl

/-! ## §4. Reading the record. -/

section Record

variable (env : SendEnv)

theorem foldl_record_files (batch : List SourceFile)
    (r : List (List MetaPayload) × List MetaPayload) :
    (batch.map Exchange.file).foldl (recordStep env) r
      = (r.1, r.2 ++ batch.map (SourceFile.announced env.senderPath)) := by
  induction batch generalizing r with
  | nil => simp
  | cons f batch ih =>
      rw [List.map_cons, List.foldl_cons, ih]
      simp [recordStep]

theorem foldl_record_calls (calls : List (List SourceFile)) (done : List (List MetaPayload)) :
    (callsScript calls).foldl (recordStep env) (done, [])
      = (done ++ calls.map (fun b => b.map (SourceFile.announced env.senderPath)), []) := by
  induction calls generalizing done with
  | nil => simp [callsScript]
  | cons batch calls ih =>
      have hsplit : callsScript (batch :: calls)
          = batch.map Exchange.file ++ ([Exchange.eot] ++ callsScript calls) := by
        rw [callsScript, List.flatMap_cons, callScript, List.append_assoc]
        rfl
      rw [hsplit, List.foldl_append, foldl_record_files, List.foldl_append]
      show (callsScript calls).foldl (recordStep env) (done ++ [[] ++ _], []) = _
      rw [ih]
      simp

/-- The whole script records every call. -/
theorem record_script (calls : List (List SourceFile)) :
    (record env (script calls)).1
      = calls.map (fun b => b.map (SourceFile.announced env.senderPath)) := by
  show ((callsScript calls).foldl (recordStep env) ([], [])).1 = _
  rw [foldl_record_calls]
  rfl

theorem foldl_record_prefix (es : List Exchange)
    (r : List (List MetaPayload) × List MetaPayload) :
    r.1 <+: (es.foldl (recordStep env) r).1 := by
  induction es generalizing r with
  | nil => exact List.prefix_rfl
  | cons e es ih =>
      rw [List.foldl_cons]
      refine List.IsPrefix.trans ?_ (ih _)
      cases e with
      | hello => exact List.prefix_rfl
      | file f => exact List.prefix_rfl
      | eot => exact List.prefix_append _ _

/-- What has been recorded stays. -/
theorem record_take_prefix (es : List Exchange) (n : Nat) :
    (record env (es.take n)).1 <+: (record env es).1 := by
  have hsplit : record env es = (es.drop n).foldl (recordStep env) (record env (es.take n)) := by
    unfold record
    rw [← List.foldl_append, List.take_append_drop]
  rw [hsplit]
  exact foldl_record_prefix env _ _

theorem foldl_record_length (es : List Exchange)
    (r : List (List MetaPayload) × List MetaPayload) :
    (es.foldl (recordStep env) r).1.length = r.1.length + es.count .eot := by
  induction es generalizing r with
  | nil => simp
  | cons e es ih =>
      rw [List.foldl_cons, ih]
      cases e with
      | hello => simp [recordStep]
      | file f => simp [recordStep]
      | eot => simp [recordStep]; omega

/-- A finished EOT is on record. -/
theorem record_ne_nil {es : List Exchange} {t n : Nat} (h : es[t]? = some .eot) (hlt : t < n) :
    (record env (es.take n)).1 ≠ [] := by
  have hmem : Exchange.eot ∈ es.take n := by
    refine List.mem_of_getElem? (i := t) ?_
    rw [List.getElem?_take_of_lt hlt]
    exact h
  intro hnil
  have hlen := foldl_record_length env (es.take n) ([], [])
  rw [show (es.take n).foldl (recordStep env) ([], []) = record env (es.take n) from rfl, hnil]
    at hlen
  have hpos := List.count_pos_iff.mpr hmem
  simp only [List.length_nil] at hlen
  omega

end Record

end ValProtocol
