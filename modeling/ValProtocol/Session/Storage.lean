/-
  ValProtocol.Session.Storage
  ───────────────────────────
  What the receiver's data loop stores and what it says about it
  (`src/val_receiver.c` lines 732-1056), against an arbitrary peer.

    • `RecvState.Stored` — the counter `written` is the length of the target
      file, from the moment it is opened,
    • `acks_truthful`  — every packet the loop sends carries the length the
      target file has at that moment, and these lengths never decrease,
    • `size_enforced`  — a file is never longer than announced and complete
      only at its announced size, in every run in which the peer sends no
      in-order DATA beyond it and no DONE before it,
    • `size_ignored`   — nothing in the receiver checks either.
-/
import ValProtocol.Session.LoneReceiver

namespace ValProtocol

/-! ## §1. One round of the data loop. -/

/-- The file and the two counters are as before. -/
structure RecvData.Same (d d' : RecvData) : Prop where
  file_eq : d'.file = d.file
  written_eq : d'.written = d.written
  total_eq : d'.total = d.total

/-- **What one round can do.** -/
inductive RoundEffect (mtu : Nat) (d : RecvData) (i : RecvInput) :
    List Send × RecvResult → Prop where
  /-- an in-order packet is stored and acknowledged -/
  | stores {fr : Frame} {fs : FsOutcome} {p : Packet} {d' : RecvData} (hi : i = .frame fr fs)
      (hp : recvFrame mtu (some mtu) fr = .ok p) (htype : p.type = .data)
      (horder : p.off = uint64Max ∨ p.off = d.written) (hfile : d'.file = d.file ++ p.payload)
      (hwritten : d'.written = (d.written + p.payload.length) % 2 ^ 64)
      (htotal : d'.total = d.total) :
      RoundEffect mtu d i ([sendBare .dataAck d'.written], .wait d')
  /-- `fwrite` stores only the first bytes, and the call fails -/
  | torn {fr : Frame} {fs : FsOutcome} {p : Packet} {d' : RecvData} {k : Nat}
      (hi : i = .frame fr fs) (hp : recvFrame mtu (some mtu) fr = .ok p) (htype : p.type = .data)
      (horder : p.off = uint64Max ∨ p.off = d.written)
      (hfile : d'.file = d.file ++ p.payload.take k) :
      RoundEffect mtu d i ([], .fail d' .io)
  /-- nothing is stored, the position is reaffirmed at most -/
  | keeps {sends : List Send} {r : RecvResult} (same : d.Same r.data)
      (hnot : ∀ d', r ≠ .complete d')
      (hsends : ∀ q ∈ sends, q = sendBare .dataAck d.written ∨ q = sendNak d.written) :
      RoundEffect mtu d i (sends, r)
  /-- DONE -/
  | completes {fr : Frame} {fs : FsOutcome} {p : Packet} {d' : RecvData} (hi : i = .frame fr fs)
      (hp : recvFrame mtu (some mtu) fr = .ok p) (htype : p.type = .done) (same : d.Same d') :
      RoundEffect mtu d i ([sendBare .doneAck d.written], .complete d')

/-- DATA. -/
theorem RoundEffect.data {mtu : Nat} {d d₀ : RecvData} {fr : Frame} {fs : FsOutcome} {p : Packet}
    (hp : recvFrame mtu (some mtu) fr = .ok p) (hlen : p.payload.length = p.len)
    (htype : p.type = .data) (same : d₀.Same d) (short : Option Nat) :
    RoundEffect mtu d₀ (.frame fr fs) (onData d p short) := by
  by_cases horder : p.off = uint64Max ∨ p.off = d.written
  · rw [onData_inOrder short horder, ← hlen]
    rcases onInOrder_cases d p.payload short with ⟨k, -, h⟩ | h
    · rw [h]
      exact .torn rfl hp htype (same.written_eq ▸ horder)
        (show d.file ++ p.payload.take k = d₀.file ++ p.payload.take k by rw [same.file_eq])
    · rw [h]
      generalize hd' : ({ d with
        file := d.file ++ p.payload, written := (d.written + p.payload.length) % 2 ^ 64,
        pktsSinceAck := 0 } : RecvData) = d'
      rw [show (d.written + p.payload.length) % 2 ^ 64 = d'.written by rw [← hd']]
      refine .stores rfl hp htype (same.written_eq ▸ horder) ?_ ?_ ?_
      all_goals rw [← hd']
      · rw [← same.file_eq]
      · rw [← same.written_eq]
      · exact same.total_eq
  · -- behind or ahead: the position is reaffirmed
    rw [not_or] at horder
    have heff : (if p.off = uint64Max then d.written else p.off) = p.off := if_neg horder.1
    have hack : sendBare .dataAck d.written = sendBare .dataAck d₀.written := by
      rw [same.written_eq]
    have hnak : sendNak d.written = sendNak d₀.written := by
      rw [same.written_eq]
    have hcad : d₀.Same (cadence d).2
        ∧ ∀ q ∈ (cadence d).1, q = sendBare .dataAck d₀.written := by
      unfold cadence
      split
      · exact ⟨⟨same.file_eq, same.written_eq, same.total_eq⟩, by simp [hack]⟩
      · exact ⟨same, fun q hq => absurd hq List.not_mem_nil⟩
    simp only [onData, heff, horder.2, if_false]
    refine .keeps hcad.1 (fun _ h => by cases h) ?_
    intro q hq
    rcases List.mem_append.mp hq with hq | hq
    · split at hq
      · rw [List.mem_singleton.mp hq]
        exact Or.inl hack
      · rcases List.mem_cons.mp hq with rfl | hq
        · exact Or.inr hnak
        · rw [List.mem_singleton.mp hq]
          exact Or.inl hack
    · exact Or.inl (hcad.2 q hq)

/-- **Every round has one of the effects.** -/
theorem DataRound.effect {cfg : Config} {mtu : Nat} (hmtu : minPacketSize ≤ mtu) {d : RecvData}
    {i : RecvInput} {r : List Send × RecvResult} (h : DataRound cfg mtu d i r) :
    RoundEffect mtu d i r := by
  have hnil : ∀ q ∈ ([] : List Send), q = sendBare .dataAck d.written ∨ q = sendNak d.written :=
    fun q hq => absurd hq List.not_mem_nil
  have hpos : 0 < mtu := Nat.lt_of_lt_of_le (by decide) hmtu
  cases h with
  | frame fr fs =>
      -- the retry budget is no part of the effect
      have same : d.Same { d with tries := cfg.retries.dataRetries } := ⟨rfl, rfl, rfl⟩
      unfold onDataFrame
      dsimp only
      split
      · exact .keeps same (fun _ h => by cases h) hnil
      · rename_i p hp
        split
        · rename_i htype
          exact .data hp (recvFrame_payload_length hpos hp) htype same fs.short
        · rename_i htype
          exact .completes rfl hp htype same
        · exact .keeps same (fun _ h => by cases h) hnil
        · exact .keeps same (fun _ h => by cases h) hnil
        · exact .keeps same (fun _ h => by cases h) hnil
        · exact .keeps same (fun _ h => by cases h) hnil
  | timeout timer fs =>
      unfold onDataTimeout
      split
      · exact .keeps ⟨rfl, rfl, rfl⟩ (fun _ h => by cases h) hnil
      · exact .keeps ⟨rfl, rfl, rfl⟩ (fun _ h => by cases h) hnil

/-! ## §2. The counter is the length of the file. -/

/-- **`written` counts what the target file holds.** -/
structure RecvState.Stored (s : RecvState) : Prop where
  mtu_min : minPacketSize ≤ s.mtu
  /-- the loop -/
  loop : ∀ f d, s.pc = .dataWait f d → d.file.length = d.written ∧ d.total = f.size
  /-- the offset agreed on with the sender, until the file is opened -/
  agreed : ∀ f n resp off, s.pc = .verifyWait f n resp off →
    ∃ file, s.files f.path = some file ∧ file.length = off ∧ off < 2 ^ 63 ∧ off ≤ f.size

/-- The file open for writing stays below 2^64 bytes. -/
def RecvState.Small (s : RecvState) : Prop :=
  ∀ f d, s.pc = .dataWait f d → d.file.length < 2 ^ 64

/-- The same as a test. -/
def RecvState.isSmall (s : RecvState) : Bool :=
  match s.pc with
  | .dataWait _ d => d.file.length < 2 ^ 64
  | _ => true

theorem RecvState.small_of_isSmall {s : RecvState} (h : s.isSmall = true) : s.Small := by
  intro f d hpc
  rw [RecvState.isSmall, hpc] at h
  simpa using h

/-- One round keeps the counter right while the file stays small. -/
theorem RoundEffect.counter {mtu : Nat} {d d' : RecvData} {i : RecvInput} {sends : List Send}
    (h : RoundEffect mtu d i (sends, .wait d')) (hlen : d.file.length = d.written)
    (hsmall : d'.file.length < 2 ^ 64) : d'.file.length = d'.written ∧ d'.total = d.total := by
  cases h with
  | stores _ _ _ _ hfile hwritten htotal =>
      rw [hfile, List.length_append] at hsmall ⊢
      rw [hwritten, ← hlen, Nat.mod_eq_of_lt hsmall]
      exact ⟨rfl, htotal⟩
  | keeps same _ _ =>
      have hfile : d'.file = d.file := same.file_eq
      have hwritten : d'.written = d.written := same.written_eq
      exact ⟨by rw [hfile, hwritten, hlen], same.total_eq⟩

/-- One step keeps the counter right. -/
theorem RecvState.Stored.step {env : RecvEnv} {s : RecvState} {i : RecvInput}
    {r : List Send × RecvState} (h : s.Stored) (hreact : s.react env i = some r)
    (hsmall : r.2.Small) : r.2.Stored := by
  have hmtu := RecvState.react_mtu hreact h.mtu_min
  cases RecvState.react_effect hreact with
  | @called dir _ _ =>
      refine ⟨hmtu, ?_, ?_⟩
      all_goals
        intros
        rename_i hpc
        unfold RecvState.call at hpc
        dsimp only at hpc
        split at hpc <;> cases hpc
  | aside files_eq _ closed waits =>
      refine ⟨hmtu, fun f d hpc => absurd hpc (closed f d), ?_⟩
      intro f n resp off hpc
      obtain ⟨n', hbefore⟩ := waits f n resp off hpc
      rw [files_eq]
      exact h.agreed f n' resp off hbefore
  | asks files_eq _ _ hfile hsize hle hask =>
      refine ⟨hmtu, fun f d hpc => (by rw [hask] at hpc; cases hpc), ?_⟩
      intro f n resp off hpc
      rw [hask] at hpc
      cases hpc
      rw [files_eq]
      exact ⟨_, hfile, rfl, hsize, hle⟩
  | opens files_eq _ _ hopen horigin _ =>
      refine ⟨hmtu, ?_, fun f n resp off hpc => (by rw [hopen] at hpc; cases hpc)⟩
      intro f d hpc
      rw [hopen] at hpc
      cases hpc
      refine ⟨?_, rfl⟩
      show (if _ = 0 then [] else _).length = _
      split
      · -- from 0 the file is truncated
        rename_i hzero
        rw [hzero]
        rfl
      · -- elsewhere the offset is the length that was verified
        rename_i hne
        obtain ⟨n, resp, hwait⟩ := horigin.resolve_left hne
        obtain ⟨file, hfile, hlen, -, -⟩ := h.agreed _ _ _ _ hwait
        rw [hfile]
        exact hlen
  | @round f d r hwait hround =>
      have heffect := hround.effect h.mtu_min
      obtain ⟨hlen, htotal⟩ := h.loop f d hwait
      cases r with
      | mk sends res =>
          cases res with
          | wait d' =>
              obtain ⟨hlen', htotal'⟩ := heffect.counter hlen (hsmall f d' rfl)
              refine ⟨hmtu, ?_, fun _ _ _ _ hpc => by cases hpc⟩
              intro g d'' hpc
              cases hpc
              exact ⟨hlen', htotal'.trans htotal⟩
          | complete d' => exact ⟨hmtu, (fun _ _ hpc => by cases hpc), (fun _ _ _ _ hpc => by cases hpc)⟩
          | fail d' st => exact ⟨hmtu, (fun _ _ hpc => by cases hpc), (fun _ _ _ _ hpc => by cases hpc)⟩

/-! ## §3. Acknowledgements. -/

/-- How long the target file is: as written so far while it is open, as closed
behind it. -/
def RecvState.targetLength (s : RecvState) (f : RecvFile) : Nat :=
  match s.pc with
  | .dataWait _ d => d.file.length
  | _ => ((s.files f.path).getD []).length

theorem RecvState.targetLength_of_open {s : RecvState} {g : RecvFile} {d : RecvData}
    (f : RecvFile) (hpc : s.pc = .dataWait g d) : s.targetLength f = d.file.length := by
  rw [RecvState.targetLength, hpc]

/-- The receiver, and what the data loop of its current file has sent, each
packet with the length of the target file at that moment. -/
structure AckRun where
  rcv : RecvState
  acks : List (Send × Nat)

def AckRun.step (env : RecvEnv) (x : AckRun) (i : RecvInput) : Option AckRun :=
  (x.rcv.react env i).map fun r =>
    ⟨r.2, match x.rcv.pc.openFile with
      | some f => x.acks ++ r.1.map (fun q => (q, r.2.targetLength f))
      | none => []⟩

def AckRun.start (cfg : Config) (files : Bytes → Option Bytes) : AckRun :=
  ⟨RecvState.fresh cfg files, []⟩

/-- Behind a round the target file is what the round left of it. -/
theorem RecvState.targetLength_onRecvResult (env : RecvEnv) (s : RecvState) (f : RecvFile)
    (r : List Send × RecvResult) :
    (s.onRecvResult env f r).2.targetLength f = r.2.data.file.length := by
  unfold RecvState.onRecvResult
  split
  · rename_i d hd
    rw [hd]
    rfl
  · rename_i d hd
    rw [hd]
    show ((Function.update s.files f.path (some d.file) f.path).getD []).length = _
    rw [Function.update_self]
    rfl
  · rename_i d st hd
    rw [hd]
    show ((Function.update s.files f.path (some d.file) f.path).getD []).length = _
    rw [Function.update_self]
    rfl

/-- The three kinds of packets the loop sends. -/
def Send.isDataReply (q : Send) : Prop :=
  q.type = .dataAck ∨ q.type = .dataNak ∨ q.type = .doneAck

/-- The packets of a round carry the length the target file has behind it. -/
theorem RoundEffect.offsets {mtu : Nat} {d : RecvData} {i : RecvInput}
    {r : List Send × RecvResult} (h : RoundEffect mtu d i r)
    (hlen : d.file.length = d.written) (hsmall : d.file.length < 2 ^ 64)
    (hsmall' : ∀ d', r.2 = .wait d' → d'.file.length < 2 ^ 64) :
    d.file.length ≤ r.2.data.file.length
    ∧ ∀ q ∈ r.1, q.isDataReply ∧ q.offset = r.2.data.file.length
        ∧ r.2.data.file.length < 2 ^ 64 := by
  cases h with
  | @stores fr fs p d' hi hp htype horder hfile hwritten htotal =>
      obtain ⟨hlen', -⟩ := RoundEffect.counter
        (.stores hi hp htype horder hfile hwritten htotal) hlen (hsmall' d' rfl)
      refine ⟨?_, ?_⟩
      · show d.file.length ≤ d'.file.length
        rw [hfile, List.length_append]
        omega
      · intro q hq
        rw [List.mem_singleton.mp hq]
        exact ⟨Or.inl rfl, hlen'.symm, hsmall' d' rfl⟩
  | @torn fr fs p d' k hi hp htype horder hfile =>
      refine ⟨?_, fun q hq => absurd hq List.not_mem_nil⟩
      show d.file.length ≤ d'.file.length
      rw [hfile, List.length_append]
      omega
  | keeps same _ hsends =>
      dsimp only
      rw [same.file_eq]
      refine ⟨Nat.le_refl _, ?_⟩
      intro q hq
      rcases hsends q hq with rfl | rfl
      · exact ⟨Or.inl rfl, hlen.symm, hsmall⟩
      · exact ⟨Or.inr (Or.inl rfl), hlen.symm, hsmall⟩
  | @completes fr fs p d' _ _ _ same =>
      show d.file.length ≤ d'.file.length ∧ _
      refine ⟨Nat.le_of_eq (by rw [same.file_eq]), ?_⟩
      intro q hq
      rw [List.mem_singleton.mp hq]
      have hfile : d'.file.length = d.file.length := by rw [same.file_eq]
      exact ⟨Or.inr (Or.inr rfl), hlen.symm.trans hfile.symm, lt_of_eq_of_lt hfile hsmall⟩

/-- The offset of an acknowledgement, read from its frame. -/
theorem frameOffset_ack {q : Send} (htype : q.isDataReply) (hoff : q.offset < 2 ^ 64) :
    frameOffset q.frame = q.offset := by
  have hack : q.isAck = true := by
    rcases htype with h | h | h <;> simp [Send.isAck, h]
  have hnamed : q.type.isNamed = true := by
    rcases htype with h | h | h <;> simp [PacketType.isNamed, h]
  have hstaged := Send.staged_ack_length hack
  rw [frameOffset_frame ⟨hnamed, hoff⟩ (by omega)]
  rcases htype with h | h | h <;> simp [Send.deliveredOffset, h]

/-- **The loop has told the truth so far.** -/
structure AckRun.Truthful (x : AckRun) : Prop where
  stored : x.rcv.Stored
  small : x.rcv.Small
  exact : ∀ e ∈ x.acks, e.1.isDataReply ∧ e.1.offset = e.2 ∧ e.2 < 2 ^ 64
  sorted : x.acks.Pairwise (fun a b => a.2 ≤ b.2)
  reached : ∀ f d, x.rcv.pc = .dataWait f d → ∀ e ∈ x.acks, e.2 ≤ d.file.length

theorem AckRun.Truthful.step {env : RecvEnv} {x x' : AckRun} {i : RecvInput} (h : x.Truthful)
    (hsmall : x'.rcv.Small) (hstep : x.step env i = some x') : x'.Truthful := by
  obtain ⟨r, hreact, rfl⟩ := Option.map_eq_some_iff.mp hstep
  have hstored := h.stored.step hreact hsmall
  cases hopen : x.rcv.pc.openFile with
  | none =>
      -- outside the loop the record is empty
      refine ⟨hstored, hsmall, ?_, ?_, ?_⟩
      all_goals simp
  | some f =>
      obtain ⟨d, hpc⟩ := RecvPc.openFile_eq_some.mp hopen
      obtain ⟨q, hround, rfl⟩ := RecvState.react_round hpc hreact
      have hlen := (h.stored.loop f d hpc).1
      have hsmall' : ∀ d', q.2 = .wait d' → d'.file.length < 2 ^ 64 := by
        intro d' hd'
        apply hsmall f
        unfold RecvState.onRecvResult
        rw [hd']
      obtain ⟨hgrow, hsent⟩ :=
        (hround.effect h.stored.mtu_min).offsets hlen (h.small f d hpc) hsmall'
      have hfst : (x.rcv.onRecvResult env f q).1 = q.1 := by
        unfold RecvState.onRecvResult
        split <;> rfl
      rw [← RecvState.targetLength_onRecvResult env x.rcv f q] at hgrow hsent
      dsimp only
      rw [hfst]
      generalize (x.rcv.onRecvResult env f q).2 = s' at *
      have hnew : ∀ e ∈ q.1.map (fun p => (p, s'.targetLength f)),
          e.1.isDataReply ∧ e.1.offset = e.2 ∧ e.2 < 2 ^ 64 ∧ e.2 = s'.targetLength f := by
        intro e he
        obtain ⟨p, hp, rfl⟩ := List.mem_map.mp he
        obtain ⟨h1, h2, h3⟩ := hsent p hp
        exact ⟨h1, h2, h3, rfl⟩
      have hold : ∀ e ∈ x.acks, e.2 ≤ s'.targetLength f :=
        fun e he => (h.reached f d hpc e he).trans hgrow
      refine ⟨hstored, hsmall, ?_, ?_, ?_⟩
      · intro e he
        rcases List.mem_append.mp he with he | he
        · exact h.exact e he
        · obtain ⟨h1, h2, h3, -⟩ := hnew e he
          exact ⟨h1, h2, h3⟩
      · rw [List.pairwise_append]
        refine ⟨h.sorted, ?_, ?_⟩
        · -- the packets of one round carry one length
          rw [List.pairwise_map]
          exact List.pairwise_of_forall (fun _ _ => Nat.le_refl _)
        · intro a ha b hb
          rw [(hnew b hb).2.2.2]
          exact hold a ha
      · intro g d' hpc' e he
        rw [← RecvState.targetLength_of_open f hpc']
        rcases List.mem_append.mp he with he | he
        · exact hold e he
        · exact Nat.le_of_eq (hnew e he).2.2.2

/-- **Acknowledgements are truthful and monotone.**  Whatever arrives, every
DATA_ACK, DATA_NAK and DONE_ACK of a data loop carries, on the wire too, the
length of the target file when it was sent, and these lengths never decrease;
only the stored file has to stay below 2^64 bytes. -/
theorem acks_truthful {env : RecvEnv} (hcfg : env.cfg.Accepted) {files : Bytes → Option Bytes}
    {x : AckRun}
    (hreach : Lts.Reach (AckRun.step env)
      (fun x i => ∀ x', x.step env i = some x' → x'.rcv.Small) (.start env.cfg files) x) :
    (∀ e ∈ x.acks, e.1.isDataReply ∧ e.1.offset = e.2 ∧ frameOffset e.1.frame = e.2)
    ∧ x.acks.Pairwise (fun a b => a.2 ≤ b.2) := by
  have htrue : x.Truthful := by
    apply hreach.invariant (I := AckRun.Truthful)
    · refine ⟨⟨hcfg.packetSize_min, ?_, ?_⟩, ?_, ?_, .nil, ?_⟩
      · exact fun _ _ hpc => by cases hpc
      · exact fun _ _ _ _ hpc => by cases hpc
      · exact fun _ _ hpc => by cases hpc
      · exact fun _ he => absurd he List.not_mem_nil
      · exact fun _ _ hpc => by cases hpc
    · intro x i x' hx hsmall hstep
      exact hx.step (hsmall x' hstep) hstep
  refine ⟨?_, htrue.sorted⟩
  intro e he
  obtain ⟨htype, hoff, hlt⟩ := htrue.exact e he
  exact ⟨htype, hoff, (frameOffset_ack htype (by omega)).trans hoff⟩

/-- A DATA frame arrives. -/
def dataInput (payload : Bytes) (off : Nat) : RecvInput :=
  .frame (⟨.data, payload, off, true⟩ : Send).frame .good

/-- Three bytes at 0, a packet ahead of the file, the three bytes again. -/
theorem acks_truthful_reordered :
    ∃ x : AckRun, x.acks.map (fun e => (e.1.type, e.2))
        = [(.dataAck, 3), (.dataNak, 3), (.dataAck, 3), (.dataAck, 3)]
      ∧ ((∀ e ∈ x.acks, e.1.isDataReply ∧ e.1.offset = e.2 ∧ frameOffset e.1.frame = e.2)
        ∧ x.acks.Pairwise (fun a b => a.2 ≤ b.2)) := by
  obtain ⟨x, hreach, hacks⟩ := Lts.Reach.exists_of_foldlM (AckRun.step plainReceiver)
    (fun x i => ((x.step plainReceiver i).map (·.rcv.isSmall)).getD true)
    (.start quickDegrade fun _ => none) (fun x => x.acks.map (fun e => (e.1.type, e.2)))
    (announcing quickDegrade [0x6F] [0x61] 5
      ++ [dataInput [1, 2, 3] 0, dataInput [1, 2, 3] 6, dataInput [1, 2, 3] 0])
    (show _ = some [(.dataAck, 3), (.dataNak, 3), (.dataAck, 3), (.dataAck, 3)] by decide +kernel)
  refine ⟨x, hacks, acks_truthful quickDegrade_accepted (hreach.mono ?_)⟩
  intro x i hadm x' hstep
  rw [hstep] at hadm
  exact RecvState.small_of_isSmall hadm

/-! ## §4. The announced size. -/

/-- Does the peer keep to the announced size with this input?  No in-order DATA
beyond it, no DONE before it. -/
def RecvState.keepsSize (s : RecvState) : RecvInput → Bool
  | .frame fr _ =>
      match s.pc, recvFrame s.mtu (some s.mtu) fr with
      | .dataWait f d, .ok p =>
          if p.type = .data ∧ (p.off = uint64Max ∨ p.off = d.written) then
            d.written + p.payload.length ≤ f.size
          else if p.type = .done then d.written = f.size
          else true
      | _, _ => true
  | _ => true

theorem RecvState.keepsSize_spec {s : RecvState} {fr : Frame} {fs : FsOutcome} {f : RecvFile}
    {d : RecvData} {p : Packet} (h : s.keepsSize (.frame fr fs) = true)
    (hpc : s.pc = .dataWait f d) (hp : recvFrame s.mtu (some s.mtu) fr = .ok p) :
    (p.type = .data → p.off = uint64Max ∨ p.off = d.written →
      d.written + p.payload.length ≤ f.size)
    ∧ (p.type = .done → d.written = f.size) := by
  simp only [RecvState.keepsSize, hpc, hp] at h
  refine ⟨?_, ?_⟩
  · intro htype horder
    rw [if_pos ⟨htype, horder⟩] at h
    exact of_decide_eq_true h
  · intro htype
    rw [if_neg (fun hdata => by rw [htype] at hdata; cases hdata.1), if_pos htype] at h
    exact of_decide_eq_true h

/-- How a data loop ended: its file, what is behind the target path then, and
whether the file was reported with `VAL_OK` and counted. -/
structure LoopEnd where
  file : RecvFile
  content : Option Bytes
  ok : Bool

/-- The receiver and the data loops it has left. -/
structure SizeRun where
  rcv : RecvState
  ended : List LoopEnd

def SizeRun.step (env : RecvEnv) (x : SizeRun) (i : RecvInput) : Option SizeRun :=
  (x.rcv.react env i).map fun r =>
    ⟨r.2, match x.rcv.pc.openFile, r.2.pc.openFile with
      | some f, none => x.ended ++
          [⟨f, r.2.files f.path, decide (r.2.completed = x.rcv.completed ++ [f.announced])⟩]
      | _, _ => x.ended⟩

def SizeRun.start (cfg : Config) (files : Bytes → Option Bytes) : SizeRun :=
  ⟨RecvState.fresh cfg files, []⟩

/-- **The file at hand keeps to its announced size.** -/
structure RecvState.Sized (s : RecvState) : Prop where
  stored : s.Stored
  size_lt : ∀ f, s.pc.phase = .file f → f.size < 2 ^ 64
  bounded : ∀ f d, s.pc = .dataWait f d → d.file.length ≤ f.size

theorem incomingFile_size_lt (env : RecvEnv) (s : RecvState) (payload : Bytes) :
    (s.incomingFile env payload).size < 2 ^ 64 := by
  have h := LittleEndian.getLe_lt
    (LittleEndian.slice ((maxFilename + 1) + (maxPath + 1)) 8 payload)
  have hlen : (LittleEndian.slice ((maxFilename + 1) + (maxPath + 1)) 8 payload).length ≤ 8 :=
    List.length_take_le ..
  have hpow := Nat.pow_le_pow_right (show 0 < 256 by decide) hlen
  exact Nat.lt_of_lt_of_le h hpow

/-- One round within the announced size. -/
theorem RoundEffect.within {s : RecvState} {f : RecvFile} {d : RecvData} {i : RecvInput}
    {r : List Send × RecvResult} (h : RoundEffect s.mtu d i r) (hpc : s.pc = .dataWait f d)
    (hlen : d.file.length = d.written) (hle : d.file.length ≤ f.size) (hkeep : s.keepsSize i = true) :
    r.2.data.file.length ≤ f.size
    ∧ ∀ d', r.2 = .complete d' → d'.file.length = f.size := by
  cases h with
  | @stores fr fs p d' hi hp htype horder hfile _ _ =>
      refine ⟨?_, fun _ h => by cases h⟩
      subst hi
      have hroom := (RecvState.keepsSize_spec hkeep hpc hp).1 htype horder
      show d'.file.length ≤ f.size
      rw [hfile, List.length_append]
      omega
  | @torn fr fs p d' k hi hp htype horder hfile =>
      refine ⟨?_, fun _ h => by cases h⟩
      subst hi
      have hroom := (RecvState.keepsSize_spec hkeep hpc hp).1 htype horder
      show d'.file.length ≤ f.size
      rw [hfile, List.length_append, List.length_take]
      omega
  | @keeps sends r same hnot _ =>
      refine ⟨?_, fun d' h => absurd h (hnot d')⟩
      show r.data.file.length ≤ f.size
      rw [same.file_eq]
      exact hle
  | @completes fr fs p d' hi hp htype same =>
      subst hi
      have hdone := (RecvState.keepsSize_spec hkeep hpc hp).2 htype
      have hfile : d'.file.length = d.file.length := by rw [same.file_eq]
      refine ⟨?_, ?_⟩
      · show d'.file.length ≤ f.size
        omega
      · intro d'' h
        cases h
        omega

theorem RecvState.Sized.step {env : RecvEnv} {s : RecvState} {i : RecvInput}
    {r : List Send × RecvState} (h : s.Sized) (hkeep : s.keepsSize i = true)
    (hreact : s.react env i = some r) : r.2.Sized := by
  have hsize : ∀ f, r.2.pc.phase = .file f → f.size < 2 ^ 64 := by
    intro f hphase
    rcases RecvState.react_file hreact hphase with hbefore | ⟨payload, rfl⟩
    · exact h.size_lt f hbefore
    · exact incomingFile_size_lt env s payload
  have hbound : ∀ f d, r.2.pc = .dataWait f d → d.file.length ≤ f.size := by
    intro f d' hpc'
    cases RecvState.react_effect hreact with
    | @called dir _ _ =>
        have hopen := RecvPc.openFile_eq_some.mpr ⟨d', hpc'⟩
        rw [RecvState.call_openFile] at hopen
        cases hopen
    | aside _ _ closed _ => exact absurd hpc' (closed f d')
    | asks _ _ _ _ _ _ hask =>
        rw [hask] at hpc'
        cases hpc'
    | opens _ _ _ hopen horigin _ =>
        rw [hopen] at hpc'
        cases hpc'
        show (if _ = 0 then [] else _).length ≤ _
        split
        · exact Nat.zero_le _
        · rename_i hne
          obtain ⟨n, resp, hwait⟩ := horigin.resolve_left hne
          obtain ⟨file, hfile, hlen, -, hle⟩ := h.stored.agreed _ _ _ _ hwait
          rw [hfile]
          exact le_of_eq_of_le hlen hle
    | @round g d q hwait hround =>
        have hopen := RecvPc.openFile_eq_some.mpr ⟨d', hpc'⟩
        obtain rfl := RecvState.onRecvResult_openFile hopen
        have hin := (hround.effect h.stored.mtu_min).within hwait (h.stored.loop _ d hwait).1
          (h.bounded _ d hwait) hkeep
        rw [← RecvState.targetLength_onRecvResult env s f q,
          RecvState.targetLength_of_open f hpc'] at hin
        exact hin.1
  refine ⟨h.stored.step hreact ?_, hsize, hbound⟩
  intro f d hpc
  exact Nat.lt_of_le_of_lt (hbound f d hpc) (hsize f (by rw [hpc]; rfl))

/-- What a round leaves behind when it ends the loop. -/
theorem RecvState.onRecvResult_closed {env : RecvEnv} {s : RecvState} {f : RecvFile}
    {r : List Send × RecvResult} (h : (s.onRecvResult env f r).2.pc.openFile = none) :
    (s.onRecvResult env f r).2.files f.path = some r.2.data.file
    ∧ ((s.onRecvResult env f r).2.completed = s.completed ++ [f.announced] →
        ∃ d, r.2 = .complete d) := by
  unfold RecvState.onRecvResult at h ⊢
  split at h
  · cases h
  · rename_i d hd
    rw [hd]
    refine ⟨?_, fun _ => ⟨d, rfl⟩⟩
    show Function.update s.files f.path (some d.file) f.path = some d.file
    exact Function.update_self ..
  · rename_i d st hd
    rw [hd]
    refine ⟨?_, ?_⟩
    · show Function.update s.files f.path (some d.file) f.path = some d.file
      exact Function.update_self ..
    · -- a call that fails has no completed files any more
      intro hcompleted
      exact absurd hcompleted.symm (List.append_ne_nil_of_right_ne_nil _ (List.cons_ne_nil _ _))

/-- **A run within the announced sizes.** -/
structure SizeRun.Within (x : SizeRun) : Prop where
  sized : x.rcv.Sized
  ended : ∀ e ∈ x.ended, ∃ content, e.content = some content ∧ content.length ≤ e.file.size
    ∧ (e.ok = true → content.length = e.file.size)

theorem SizeRun.Within.step {env : RecvEnv} {x x' : SizeRun} {i : RecvInput} (h : x.Within)
    (hkeep : x.rcv.keepsSize i = true) (hstep : x.step env i = some x') : x'.Within := by
  obtain ⟨r, hreact, rfl⟩ := Option.map_eq_some_iff.mp hstep
  refine ⟨h.sized.step hkeep hreact, ?_⟩
  intro e he
  dsimp only at he
  split at he
  swap
  · exact h.ended e he
  rename_i f hopen hclosed
  rcases List.mem_append.mp he with he | he
  · exact h.ended e he
  obtain ⟨d, hpc⟩ := RecvPc.openFile_eq_some.mp hopen
  obtain ⟨q, hround, rfl⟩ := RecvState.react_round hpc hreact
  obtain ⟨hfile, hcomplete⟩ := RecvState.onRecvResult_closed hclosed
  obtain ⟨hle, hdone⟩ := (hround.effect h.sized.stored.mtu_min).within hpc
    (h.sized.stored.loop f d hpc).1 (h.sized.bounded f d hpc) hkeep
  rw [List.mem_singleton.mp he]
  refine ⟨q.2.data.file, hfile, hle, ?_⟩
  intro hok
  obtain ⟨d', hd'⟩ := hcomplete (of_decide_eq_true hok)
  rw [hd']
  exact hdone d' hd'

/-- **Only files of the announced size are reported as received**, and none is
ever longer, in every run in which the peer keeps to the sizes it announces. -/
theorem size_enforced {env : RecvEnv} (hcfg : env.cfg.Accepted) {files : Bytes → Option Bytes}
    {x : SizeRun}
    (hreach : Lts.Reach (SizeRun.step env) (fun x i => x.rcv.keepsSize i = true)
      (.start env.cfg files) x) :
    (∀ f d, x.rcv.pc = .dataWait f d → d.file.length ≤ f.size)
    ∧ ∀ e ∈ x.ended, ∃ content, e.content = some content ∧ content.length ≤ e.file.size
        ∧ (e.ok = true → content.length = e.file.size) := by
  have hwithin : x.Within := by
    apply hreach.invariant (I := SizeRun.Within)
    · refine ⟨⟨⟨hcfg.packetSize_min, ?_, ?_⟩, ?_, ?_⟩, ?_⟩
      · exact fun _ _ hpc => by cases hpc
      · exact fun _ _ _ _ hpc => by cases hpc
      · exact fun _ hphase => by cases hphase
      · exact fun _ _ hpc => by cases hpc
      · exact fun _ he => absurd he List.not_mem_nil
    · intro x i x' hx hkeep hstep
      exact hx.step hkeep hstep
  exact ⟨hwithin.sized.bounded, hwithin.ended⟩

/-- What a run shows of its loops: announced and real size of the open file, and
of the files left behind. -/
def SizeRun.sizes (x : SizeRun) : Option (Nat × Nat) × List (Nat × Option Nat × Bool) :=
  (x.rcv.pc.openFile.map (fun f => (f.size, x.rcv.targetLength f)),
    x.ended.map (fun e => (e.file.size, e.content.map List.length, e.ok)))

/-- DONE arrives. -/
def doneInput : RecvInput := .frame (sendBare .done 0).frame .good

theorem size_enforced_five :
    ∃ x : SizeRun, x.sizes = (none, [(5, some 5, true)])
      ∧ ((∀ f d, x.rcv.pc = .dataWait f d → d.file.length ≤ f.size)
        ∧ ∀ e ∈ x.ended, ∃ content, e.content = some content ∧ content.length ≤ e.file.size
            ∧ (e.ok = true → content.length = e.file.size)) := by
  obtain ⟨x, hreach, hsizes⟩ := Lts.Reach.exists_of_foldlM (SizeRun.step plainReceiver)
    (fun x i => x.rcv.keepsSize i) (.start quickDegrade fun _ => none) SizeRun.sizes
    (announcing quickDegrade [0x6F] [0x61] 5
      ++ [dataInput [1, 2, 3] 0, dataInput [4, 5] 3, doneInput])
    (show _ = some (none, [(5, some 5, true)]) by decide +kernel)
  exact ⟨x, hsizes, size_enforced quickDegrade_accepted hreach⟩

/-- **The announced size is not enforced**: six bytes go into a file of five,
and DONE completes a file of five bytes with three in it. -/
theorem size_ignored :
    (∃ x : SizeRun, Lts.Reach (SizeRun.step plainReceiver) (fun _ _ => True)
        (.start quickDegrade fun _ => none) x
      ∧ x.sizes = (some (5, 6), []))
    ∧ ∃ x : SizeRun, Lts.Reach (SizeRun.step plainReceiver) (fun _ _ => True)
        (.start quickDegrade fun _ => none) x
      ∧ x.sizes = (none, [(5, some 3, true)]) := by
  constructor
  · obtain ⟨x, hreach, hsizes⟩ := Lts.Reach.exists_of_foldlM (SizeRun.step plainReceiver)
      (fun _ _ => true) (.start quickDegrade fun _ => none) SizeRun.sizes
      (announcing quickDegrade [0x6F] [0x61] 5 ++ [dataInput [1, 2, 3, 4, 5, 6] 0])
      (show _ = some (some (5, 6), []) by decide +kernel)
    exact ⟨x, hreach.mono (fun _ _ _ => trivial), hsizes⟩
  · obtain ⟨x, hreach, hsizes⟩ := Lts.Reach.exists_of_foldlM (SizeRun.step plainReceiver)
      (fun _ _ => true) (.start quickDegrade fun _ => none) SizeRun.sizes
      (announcing quickDegrade [0x6F] [0x61] 5 ++ [dataInput [1, 2, 3] 0, doneInput])
      (show _ = some (none, [(5, some 3, true)]) by decide +kernel)
    exact ⟨x, hreach.mono (fun _ _ _ => trivial), hsizes⟩

end ValProtocol
