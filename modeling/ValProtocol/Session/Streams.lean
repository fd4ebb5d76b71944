/-
  ValProtocol.Session.Streams
  ───────────────────────────
  Two sessions over two byte streams, as over a TCP connection: what a side
  sends goes through `val__internal_send_packet_core` byte by byte behind what
  is there already, and a wait reads with `val_internal_recv_packet`, in
  whatever chunks the `recv` hook returns them and whatever the clock says.

  The system of `ValProtocol.Session.System` passes frames.  Here the frames
  are gone: a side sees bytes, and a read that loses its place is a `fault`.

    • `streams_carry_frames` — the byte system and the frame system without
      losses reach the same states of the two sessions, and at every moment
      the bytes in a stream are those of the frames in flight.  No send is
      refused, and no read reports a wrong CRC or an excessive length.
-/
import ValProtocol.Lib.Simulations
import ValProtocol.Session.Capabilities
import ValProtocol.Wire.Reading

namespace ValProtocol

/-! ## §1. Bytes instead of frames. -/

/-- What the hooks do during one call of `val_internal_recv_packet`. -/
structure ReadHooks where
  chunk : Nat → Option Nat
  clock : Nat → Nat
  toMs : Nat
  fuel : Nat

/-- The transport of a call on these bytes. -/
def ReadHooks.over (io : ReadHooks) (stream : Bytes) : Transport :=
  ⟨stream, io.chunk, io.clock, 0, 0⟩

/-- The hook does not fail, and the call does not run out of time with bytes
of a frame in its hands. -/
structure ReadHooks.Keeps (io : ReadHooks) (stream : Bytes) : Prop where
  sound : (io.over stream).Sound
  whole : (io.over stream).tearsFrame ⟨none, io.toMs, io.fuel⟩ = false

/-- A `send` hook that takes everything. -/
def SendHooks.reliable : SendHooks := ⟨true, fun bytes => bytes.length⟩

/-- The packets of a step, one behind the other, up to the first that
`val__internal_send_packet_core` refuses. -/
def writeAll (provider : Option CrcProvider) (P : Nat) : List Send → Bytes × Option Status
  | [] => ([], none)
  | p :: ps =>
      match p.run .reliable provider P with
      | (.ok, bytes) =>
          let rest := writeAll provider P ps
          (bytes ++ rest.1, rest.2)
      | (st, bytes) => (bytes, some st)

/-- The joint state: `down` and `up` are the bytes written and not yet read.
`fault` is the status of a send or a read that should not have failed. -/
structure ByteSys where
  snd : SendState
  rcv : RecvState
  down : Bytes
  up : Bytes
  sndCalls : List (List SourceFile)
  rcvCalls : List Bytes
  fault : Option Status

/-- One step of a party; what a read finds is up to the hooks. -/
inductive ByteLabel where
  | sndCall
  | rcvCall
  | sndRead (io : ReadHooks)
  | sndTimeout (timer : HelloTimer)
  | rcvRead (io : ReadHooks) (fs : FsOutcome)
  | rcvTimeout (timer : HelloTimer) (fs : FsOutcome)

/-- The step as one over frames. -/
def ByteLabel.overFrames : ByteLabel → SessionLabel
  | .sndCall => .sndCall
  | .rcvCall => .rcvCall
  | .sndRead _ => .sndRecv
  | .sndTimeout timer => .sndTimeout timer
  | .rcvRead _ fs => .rcvRecv fs
  | .rcvTimeout timer fs => .rcvTimeout timer fs

theorem ByteLabel.overFrames_isLoss (l : ByteLabel) : l.overFrames.isLoss = false := by
  cases l <;> rfl

namespace ByteSys

variable (c : SessionParams)

/-- The sender's part of a step; `effective_packet_size` is the one it has
when it sends. -/
def sent (s : ByteSys) (r : List Send × SendState) : ByteSys :=
  let w := writeAll c.snd.provider r.2.mtu r.1
  { s with snd := r.2, down := s.down ++ w.1, fault := w.2 }

/-- The receiver's part of a step. -/
def answered (s : ByteSys) (r : List Send × RecvState) : ByteSys :=
  let w := writeAll c.rcv.provider r.2.mtu r.1
  { s with rcv := r.2, up := s.up ++ w.1, fault := w.2 }

/-- A side that is not in a call takes no step; a slice that brings nothing is
repeated. -/
def step (s : ByteSys) (l : ByteLabel) : Option ByteSys :=
  if s.fault ≠ none then none
  else
    match l with
    | .sndCall =>
        match s.sndCalls with
        | [] => none
        | batch :: rest =>
            if s.snd.pc = .idle then
              some ({ s with sndCalls := rest }.sent c (s.snd.call c.snd batch))
            else none
    | .rcvCall =>
        match s.rcvCalls with
        | [] => none
        | dir :: rest =>
            if s.rcv.pc = .idle then
              some { s with rcvCalls := rest, rcv := s.rcv.call c.rcv dir }
            else none
    | .sndRead io =>
        if s.snd.pc = .idle then none
        else
          match readFrame io.fuel c.snd.provider s.snd.mtu io.toMs (io.over s.up) with
          | none => none
          | some (.ok f, t) => some ({ s with up := t.stream }.sent c (s.snd.onFrame c.snd f))
          | some (.error .timeout, t) => some { s with up := t.stream }
          | some (.error st, t) => some { s with up := t.stream, fault := some st }
    | .sndTimeout timer =>
        if s.snd.pc = .idle then none else some (s.sent c (s.snd.onTimeout c.snd timer))
    | .rcvRead io fs =>
        if s.rcv.pc = .idle then none
        else
          match readFrame io.fuel c.rcv.provider s.rcv.mtu io.toMs (io.over s.down) with
          | none => none
          | some (.ok f, t) =>
              some ({ s with down := t.stream }.answered c (s.rcv.onFrame c.rcv f fs))
          | some (.error .timeout, t) => some { s with down := t.stream }
          | some (.error st, t) => some { s with down := t.stream, fault := some st }
    | .rcvTimeout timer fs =>
        if s.rcv.pc = .idle then none else some (s.answered c (s.rcv.onTimeout c.rcv timer fs))

/-- Two fresh sessions and empty streams. -/
def init (files : Bytes → Option Bytes) (sndCalls : List (List SourceFile))
    (rcvCalls : List Bytes) : ByteSys where
  snd := SendState.fresh c.snd.cfg
  rcv := RecvState.fresh c.rcv.cfg files
  down := []
  up := []
  sndCalls := sndCalls
  rcvCalls := rcvCalls
  fault := none

/-- The reads of a run keep to the frames. -/
def Keeps (s : ByteSys) : ByteLabel → Prop
  | .sndRead io => io.Keeps s.up
  | .rcvRead io _ => io.Keeps s.down
  | _ => True

end ByteSys

/-! ## §2. Bytes and frames. -/

/-- The bytes of what is in flight. -/
def wireOf (provider : Option CrcProvider) (items : List Item) : Bytes :=
  (items.map (fun it => it.send.frame)).flatMap (Frame.bytes provider)

theorem wireOf_cons (provider : Option CrcProvider) (it : Item) (items : List Item) :
    wireOf provider (it :: items) = it.send.frame.bytes provider ++ wireOf provider items := rfl

theorem wireOf_append (provider : Option CrcProvider) (xs ys : List Item) :
    wireOf provider (xs ++ ys) = wireOf provider xs ++ wireOf provider ys := by
  unfold wireOf
  rw [List.map_append, List.flatMap_append]

/-- **Measured packets are written**, all of them and whole. -/
theorem writeAll_measured (provider : Option CrcProvider) {mtu P : Nat} (hP : mtu ≤ P)
    {hello : Send} {ps : List Send} (h : ∀ p ∈ ps, p.Measured hello mtu) :
    writeAll provider P ps = ((ps.map Send.frame).flatMap (Frame.bytes provider), none) := by
  induction ps with
  | nil => rfl
  | cons p ps ih =>
      have hfits := (h p (List.mem_cons_self ..)).content_le
      have hrun : p.run .reliable provider P = (.ok, p.frame.bytes provider) := by
        have hle : ¬ (buildFrame p.type p.payload p.offset p.includeDataOffset).content.length
            > P - wireHeaderSize - wireTrailerSize := by
          show ¬ p.frame.content.length > _
          omega
        simp only [Send.run, sendPacketCore, SendHooks.reliable, encodeFrame, hle, if_false,
          Bool.true_eq_false, ne_eq, not_true_eq_false]
        rfl
      have hrest := ih (fun q hq => h q (List.mem_cons_of_mem _ hq))
      simp only [writeAll, hrun, hrest]
      rfl

/-- What is in flight towards a reader is well formed for it. -/
theorem measured_wellFormed {mtu P : Nat} (hP : mtu ≤ P) {hello : Send} {items : List Item}
    (h : ∀ it ∈ items, it.send.Measured hello mtu) :
    ∀ f ∈ items.map (fun it => it.send.frame), f.WellFormed P := by
  intro f hf
  obtain ⟨it, hit, rfl⟩ := List.mem_map.mp hf
  have hfits := (h it hit).content_le
  exact buildFrame_wellFormed (show it.send.frame.content.length ≤ _ by omega)

/-- **The byte system carries the frames of the frame system.** -/
structure Carries (c : SessionParams) (b : ByteSys) (s : SessionSys) : Prop where
  snd_eq : b.snd = s.snd
  rcv_eq : b.rcv = s.rcv
  down_eq : b.down = wireOf c.snd.provider s.toRcv
  up_eq : b.up = wireOf c.rcv.provider s.toSnd
  sndCalls_eq : b.sndCalls = s.sndCalls
  rcvCalls_eq : b.rcvCalls = s.rcvCalls
  fault_eq : b.fault = none

/-- Two fresh sessions. -/
theorem carries_init (c : SessionParams) (files : Bytes → Option Bytes)
    (sndCalls : List (List SourceFile)) (rcvCalls : List Bytes) :
    Carries c (ByteSys.init c files sndCalls rcvCalls)
      (SessionSys.init c files sndCalls rcvCalls) :=
  ⟨rfl, rfl, rfl, rfl, rfl, rfl, rfl⟩

section Steps

variable {c : SessionParams} {b : ByteSys} {s : SessionSys}

/-- The sender's part of a step is carried. -/
theorem Carries.sent (h : Carries c b s) {r : List Send × SendState} {up : Bytes}
    {toSnd : List Item} {bcalls calls : List (List SourceFile)}
    (hup : up = wireOf c.rcv.provider toSnd) (hcalls : bcalls = calls)
    (hcap : Capable c ({ s with toSnd := toSnd, sndCalls := calls }.sent r)) :
    Carries c ({ b with up := up, sndCalls := bcalls }.sent c r)
      ({ s with toSnd := toSnd, sndCalls := calls }.sent r) := by
  have hmtu : c.mtu ≤ r.2.mtu := hcap.snd_mtu
  have hr : ∀ p ∈ r.1, p.Measured (sendHello c.snd.cfg c.snd.cfg.packetSize) c.mtu :=
    fun p hp => hcap.toRcv_ok _ (List.mem_append_right _ (List.mem_map_of_mem hp))
  have hw := writeAll_measured c.snd.provider hmtu hr
  constructor
  · rfl
  · exact h.rcv_eq
  · show b.down ++ (writeAll c.snd.provider r.2.mtu r.1).1 = wireOf c.snd.provider (s.toRcv ++ _)
    rw [hw, wireOf_append, h.down_eq]
    unfold wireOf
    rw [List.map_map]
    rfl
  · exact hup
  · exact hcalls
  · exact h.rcvCalls_eq
  · show (writeAll c.snd.provider r.2.mtu r.1).2 = none
    rw [hw]

/-- The receiver's part of a step is carried. -/
theorem Carries.answered (h : Carries c b s) {r : List Send × RecvState} {down : Bytes}
    {toRcv : List Item} (hdown : down = wireOf c.snd.provider toRcv)
    (hcap : Capable c ({ s with toRcv := toRcv }.answered r)) :
    Carries c ({ b with down := down }.answered c r) ({ s with toRcv := toRcv }.answered r) := by
  have hmtu : c.mtu ≤ r.2.mtu := hcap.rcv_mtu
  have hr : ∀ p ∈ r.1, p.Measured (sendHello c.rcv.cfg c.mtu) c.mtu :=
    fun p hp => hcap.toSnd_ok _ (List.mem_append_right _ (List.mem_map_of_mem hp))
  have hw := writeAll_measured c.rcv.provider hmtu hr
  constructor
  · exact h.snd_eq
  · rfl
  · exact hdown
  · show b.up ++ (writeAll c.rcv.provider r.2.mtu r.1).1 = wireOf c.rcv.provider (s.toSnd ++ _)
    rw [hw, wireOf_append, h.up_eq]
    unfold wireOf
    rw [List.map_map]
    rfl
  · exact h.sndCalls_eq
  · exact h.rcvCalls_eq
  · show (writeAll c.rcv.provider r.2.mtu r.1).2 = none
    rw [hw]

/-! ## §3. What a read finds. -/

/-- The receiver reads the first frame in flight, or nothing. -/
theorem Carries.rcvRead (h : Carries c b s) (hcap : Capable c s)
    (hcrc : SameCrc c.snd.provider c.rcv.provider) {io : ReadHooks} (hio : io.Keeps b.down)
    {r : Except Status Frame} {t : Transport}
    (hread : readFrame io.fuel c.rcv.provider b.rcv.mtu io.toMs (io.over b.down) = some (r, t)) :
    (r = .error .timeout ∧ t.stream = b.down)
    ∨ ∃ it rest, s.toRcv = it :: rest ∧ r = .ok it.send.frame
        ∧ t.stream = wireOf c.snd.provider rest := by
  have hmtu : c.mtu ≤ b.rcv.mtu := by
    rw [h.rcv_eq]
    exact hcap.rcv_mtu
  rcases readFrame_framed hcrc (measured_wellFormed hmtu hcap.toRcv_ok) h.down_eq hio.sound
    hio.whole hread with hto | ⟨f, rest, hcut, hr, hst⟩
  · exact Or.inl hto
  · obtain ⟨it, items, hitems, rfl, rfl⟩ := List.map_eq_cons_iff.mp hcut
    exact Or.inr ⟨it, items, hitems, hr, hst⟩

/-- The sender reads the first frame in flight, or nothing. -/
theorem Carries.sndRead (h : Carries c b s) (hcap : Capable c s)
    (hcrc : SameCrc c.rcv.provider c.snd.provider) {io : ReadHooks} (hio : io.Keeps b.up)
    {r : Except Status Frame} {t : Transport}
    (hread : readFrame io.fuel c.snd.provider b.snd.mtu io.toMs (io.over b.up) = some (r, t)) :
    (r = .error .timeout ∧ t.stream = b.up)
    ∨ ∃ it rest, s.toSnd = it :: rest ∧ r = .ok it.send.frame
        ∧ t.stream = wireOf c.rcv.provider rest := by
  have hmtu : c.mtu ≤ b.snd.mtu := by
    rw [h.snd_eq]
    exact hcap.snd_mtu
  rcases readFrame_framed hcrc (measured_wellFormed hmtu hcap.toSnd_ok) h.up_eq hio.sound
    hio.whole hread with hto | ⟨f, rest, hcut, hr, hst⟩
  · exact Or.inl hto
  · obtain ⟨it, items, hitems, rfl, rfl⟩ := List.map_eq_cons_iff.mp hcut
    exact Or.inr ⟨it, items, hitems, hr, hst⟩

/-- Hooks that bring the bytes one by one and leave the time. -/
def ReadHooks.slow (fuel : Nat) : ReadHooks := ⟨fun _ => some 1, fun _ => 0, 1, fuel⟩

theorem ReadHooks.slow_live (fuel : Nat) (stream : Bytes) :
    ((ReadHooks.slow fuel).over stream).Live where
  noError := by
    intro i h
    cases h
  progress := fun i => ⟨i, Nat.le_refl i, 1, Nat.one_pos, rfl⟩

/-- The first frame in flight can be read. -/
theorem slow_reads {provider sender : Option CrcProvider} (hcrc : SameCrc sender provider)
    {mtu P : Nat} (hP : mtu ≤ P) {hello : Send} {it : Item} (rest : List Item)
    (h : it.send.Measured hello mtu) :
    ∃ fuel t, (ReadHooks.slow fuel).Keeps (wireOf sender (it :: rest))
      ∧ readFrame fuel provider P 1 ((ReadHooks.slow fuel).over (wireOf sender (it :: rest)))
          = some (.ok it.send.frame, t)
      ∧ t.stream = wireOf sender rest := by
  have hfits := h.content_le
  have hwf : it.send.frame.WellFormed P :=
    buildFrame_wellFormed (show it.send.frame.content.length ≤ _ by omega)
  have hlive := ReadHooks.slow_live 0 (wireOf sender (it :: rest))
  have hpatient : ((ReadHooks.slow 0).over (wireOf sender (it :: rest))).Patient 1 := by
    intro i j _
    show (0 + 2 ^ 32 - 0) % 2 ^ 32 < 1
    decide
  obtain ⟨fuel, t, hread, hst⟩ := readFrame_live hcrc hwf hlive hpatient (wireOf_cons ..)
  exact ⟨fuel, t, ⟨(ReadHooks.slow_live fuel _).noError, readFrame_ok_tearsFrame hread⟩, hread, hst⟩

end Steps

/-! ## §4. The two simulations. -/

section Simulations

variable {c : SessionParams} {b : ByteSys} {s : SessionSys}

/-- A step of the byte system is the same step of the frame system; a slice
that brings nothing is none. -/
theorem Carries.forth (h : Carries c b s) (hcap : Capable c s) (hs : c.snd.cfg.Accepted)
    (hr : c.rcv.cfg.Accepted) (hcrc : SameCrc c.snd.provider c.rcv.provider) {l : ByteLabel}
    {b' : ByteSys} (hadm : b.Keeps l) (hstep : b.step c l = some b') :
    b' = b ∨ ∃ s', s.step c l.overFrames = some s' ∧ Carries c b' s' ∧ Capable c s' := by
  have hgo : ∀ {s' : SessionSys}, s.step c l.overFrames = some s' →
      (Capable c s' → Carries c b' s') →
      b' = b ∨ ∃ s', s.step c l.overFrames = some s' ∧ Carries c b' s' ∧ Capable c s' := by
    intro s' hs' hcar
    have hcap' := capable_step hs hr hcap hs'
    exact Or.inr ⟨s', hs', hcar hcap', hcap'⟩
  unfold ByteSys.step at hstep
  rw [if_neg (by rw [h.fault_eq]; simp)] at hstep
  cases l with
  | sndCall =>
      dsimp only at hstep
      split at hstep
      · cases hstep
      · rename_i batch rest hcalls
        split at hstep
        · rename_i hidle
          cases hstep
          rw [h.snd_eq] at hidle
          rw [h.sndCalls_eq] at hcalls
          have hs' : s.step c .sndCall
              = some ({ s with sndCalls := rest }.sent (s.snd.call c.snd batch)) := by
            simp only [SessionSys.step, hcalls, hidle, if_true]
          refine hgo hs' fun hcap' => ?_
          rw [h.snd_eq]
          exact h.sent h.up_eq rfl hcap'
        · cases hstep
  | rcvCall =>
      dsimp only at hstep
      split at hstep
      · cases hstep
      · rename_i dir rest hcalls
        split at hstep
        · rename_i hidle
          cases hstep
          rw [h.rcv_eq] at hidle
          rw [h.rcvCalls_eq] at hcalls
          have hs' : s.step c .rcvCall
              = some { s with rcvCalls := rest, rcv := s.rcv.call c.rcv dir } := by
            simp only [SessionSys.step, hcalls, hidle, if_true]
          refine hgo hs' fun _ => ?_
          rw [h.rcv_eq]
          exact ⟨h.snd_eq, rfl, h.down_eq, h.up_eq, h.sndCalls_eq, rfl, h.fault_eq⟩
        · cases hstep
  | sndRead io =>
      dsimp only at hstep
      split at hstep
      · cases hstep
      rename_i hbusy
      have hbusy' : ¬ s.snd.pc = .idle := by rw [← h.snd_eq]; exact hbusy
      cases hread : readFrame io.fuel c.snd.provider b.snd.mtu io.toMs (io.over b.up) with
      | none =>
          rw [hread] at hstep
          cases hstep
      | some r =>
          obtain ⟨r, t⟩ := r
          rw [hread] at hstep
          rcases h.sndRead hcap (fun d => (hcrc d).symm) hadm hread with
            ⟨rfl, hst⟩ | ⟨it, rest, hchan, rfl, hst⟩
          · cases hstep
            rw [hst]
            exact Or.inl rfl
          · cases hstep
            have hs' : s.step c .sndRecv
                = some ({ s with toSnd := rest }.sent (s.snd.onFrame c.snd it.send.frame)) := by
              simp only [SessionSys.step, hchan, hbusy', if_false]
            refine hgo hs' fun hcap' => ?_
            rw [h.snd_eq]
            exact h.sent hst h.sndCalls_eq hcap'
  | sndTimeout timer =>
      dsimp only at hstep
      split at hstep
      · cases hstep
      rename_i hbusy
      have hbusy' : ¬ s.snd.pc = .idle := by rw [← h.snd_eq]; exact hbusy
      cases hstep
      have hs' : s.step c (.sndTimeout timer) = some (s.sent (s.snd.onTimeout c.snd timer)) := by
        simp only [SessionSys.step, hbusy', if_false]
      refine hgo hs' fun hcap' => ?_
      have hsent := @Carries.sent c b s h (b.snd.onTimeout c.snd timer) b.up s.toSnd b.sndCalls
        s.sndCalls h.up_eq h.sndCalls_eq
      rw [h.snd_eq] at hsent ⊢
      exact hsent hcap'
  | rcvRead io fs =>
      dsimp only at hstep
      split at hstep
      · cases hstep
      rename_i hbusy
      have hbusy' : ¬ s.rcv.pc = .idle := by rw [← h.rcv_eq]; exact hbusy
      cases hread : readFrame io.fuel c.rcv.provider b.rcv.mtu io.toMs (io.over b.down) with
      | none =>
          rw [hread] at hstep
          cases hstep
      | some r =>
          obtain ⟨r, t⟩ := r
          rw [hread] at hstep
          rcases h.rcvRead hcap hcrc hadm hread with ⟨rfl, hst⟩ | ⟨it, rest, hchan, rfl, hst⟩
          · cases hstep
            rw [hst]
            exact Or.inl rfl
          · cases hstep
            have hs' : s.step c (.rcvRecv fs)
                = some ({ s with toRcv := rest }.answered
                    (s.rcv.onFrame c.rcv it.send.frame fs)) := by
              simp only [SessionSys.step, hchan, hbusy', if_false]
            refine hgo hs' fun hcap' => ?_
            rw [h.rcv_eq]
            exact h.answered hst hcap'
  | rcvTimeout timer fs =>
      dsimp only at hstep
      split at hstep
      · cases hstep
      rename_i hbusy
      have hbusy' : ¬ s.rcv.pc = .idle := by rw [← h.rcv_eq]; exact hbusy
      cases hstep
      have hs' : s.step c (.rcvTimeout timer fs)
          = some (s.answered (s.rcv.onTimeout c.rcv timer fs)) := by
        simp only [SessionSys.step, hbusy', if_false]
      refine hgo hs' fun hcap' => ?_
      rw [h.rcv_eq]
      exact @Carries.answered c b s h _ b.down s.toRcv h.down_eq hcap'

/-- Without losses a step of the frame system is a step of the byte system
with hooks that bring the bytes one by one. -/
theorem Carries.back (h : Carries c b s) (hcap : Capable c s) (hs : c.snd.cfg.Accepted)
    (hr : c.rcv.cfg.Accepted) (hcrc : SameCrc c.snd.provider c.rcv.provider) {l : SessionLabel}
    {s' : SessionSys} (hadm : l.isLoss = false) (hstep : s.step c l = some s') :
    ∃ l' b', l'.overFrames = l ∧ b.Keeps l' ∧ b.step c l' = some b' ∧ Carries c b' s'
      ∧ Capable c s' := by
  have hcap' := capable_step hs hr hcap hstep
  have hfault : ¬ b.fault ≠ none := by rw [h.fault_eq]; simp
  cases SessionSys.step_inv hstep with
  | @sndCall batch rest hcalls hidle =>
      have hb : b.step c .sndCall
          = some ({ b with sndCalls := rest }.sent c (s.snd.call c.snd batch)) := by
        simp only [ByteSys.step, hfault, if_false, h.sndCalls_eq, hcalls, h.snd_eq, hidle, if_true]
      exact ⟨.sndCall, _, rfl, trivial, hb, h.sent h.up_eq rfl hcap', hcap'⟩
  | @rcvCall dir rest hcalls hidle =>
      have hb : b.step c .rcvCall
          = some { b with rcvCalls := rest, rcv := s.rcv.call c.rcv dir } := by
        simp only [ByteSys.step, hfault, if_false, h.rcvCalls_eq, hcalls, h.rcv_eq, hidle, if_true]
      exact ⟨.rcvCall, _, rfl, trivial, hb,
        ⟨h.snd_eq, rfl, h.down_eq, h.up_eq, h.sndCalls_eq, rfl, h.fault_eq⟩, hcap'⟩
  | @sndRecv it rest hchan hbusy =>
      have hit : it ∈ s.toSnd := by
        rw [hchan]
        exact List.mem_cons_self ..
      obtain ⟨fuel, t, hkeeps, hread, hst⟩ := slow_reads (fun d => (hcrc d).symm) hcap.snd_mtu
        rest (hcap.toSnd_ok it hit)
      rw [← hchan, ← h.up_eq] at hkeeps hread
      have hb : b.step c (.sndRead (.slow fuel))
          = some ({ b with up := t.stream }.sent c (s.snd.onFrame c.snd it.send.frame)) := by
        simp only [ByteSys.step, hfault, if_false, h.snd_eq, hbusy]
        rw [show readFrame (ReadHooks.slow fuel).fuel c.snd.provider s.snd.mtu
          (ReadHooks.slow fuel).toMs ((ReadHooks.slow fuel).over b.up) = _ from hread]
      exact ⟨.sndRead (.slow fuel), _, rfl, hkeeps, hb, h.sent hst h.sndCalls_eq hcap', hcap'⟩
  | @sndTimeout timer hbusy =>
      have hb : b.step c (.sndTimeout timer) = some (b.sent c (s.snd.onTimeout c.snd timer)) := by
        simp only [ByteSys.step, hfault, if_false, h.snd_eq, hbusy]
      exact ⟨.sndTimeout timer, _, rfl, trivial, hb,
        @Carries.sent c b s h _ b.up s.toSnd b.sndCalls s.sndCalls h.up_eq h.sndCalls_eq hcap', hcap'⟩
  | @rcvRecv it rest fs hchan hbusy =>
      have hit : it ∈ s.toRcv := by
        rw [hchan]
        exact List.mem_cons_self ..
      obtain ⟨fuel, t, hkeeps, hread, hst⟩ := slow_reads hcrc hcap.rcv_mtu rest
        (hcap.toRcv_ok it hit)
      rw [← hchan, ← h.down_eq] at hkeeps hread
      have hb : b.step c (.rcvRead (.slow fuel) fs)
          = some ({ b with down := t.stream }.answered c
              (s.rcv.onFrame c.rcv it.send.frame fs)) := by
        simp only [ByteSys.step, hfault, if_false, h.rcv_eq, hbusy]
        rw [show readFrame (ReadHooks.slow fuel).fuel c.rcv.provider s.rcv.mtu
          (ReadHooks.slow fuel).toMs ((ReadHooks.slow fuel).over b.down) = _ from hread]
      exact ⟨.rcvRead (.slow fuel) fs, _, rfl, hkeeps, hb, h.answered hst hcap', hcap'⟩
  | @rcvTimeout timer fs hbusy =>
      have hb : b.step c (.rcvTimeout timer fs)
          = some (b.answered c (s.rcv.onTimeout c.rcv timer fs)) := by
        simp only [ByteSys.step, hfault, if_false, h.rcv_eq, hbusy]
      exact ⟨.rcvTimeout timer fs, _, rfl, trivial, hb,
        @Carries.answered c b s h _ b.down s.toRcv h.down_eq hcap', hcap'⟩
  | lose hl hrcv hsnd =>
      rw [hl] at hadm
      cases hadm

/-- **Bytes to frames.** -/
theorem bytes_to_frames (hs : c.snd.cfg.Accepted) (hr : c.rcv.cfg.Accepted)
    (hcrc : SameCrc c.snd.provider c.rcv.provider) :
    Lts.Simulation (ByteSys.step c) ByteSys.Keeps (SessionSys.step c)
      (fun _ l => l.isLoss = false) (fun b s => Carries c b s ∧ Capable c s) := by
  refine ⟨fun {b l b' s} hR hadm hstep => ?_⟩
  obtain ⟨h, hcap⟩ := hR
  rcases h.forth hcap hs hr hcrc hadm hstep with rfl | ⟨s', hs', hcar, hcap'⟩
  · exact ⟨s, .refl, h, hcap⟩
  · exact ⟨s', .one _ l.overFrames_isLoss hs', hcar, hcap'⟩

/-- **Frames to bytes.** -/
theorem frames_to_bytes (hs : c.snd.cfg.Accepted) (hr : c.rcv.cfg.Accepted)
    (hcrc : SameCrc c.snd.provider c.rcv.provider) :
    Lts.Simulation (SessionSys.step c) (fun _ l => l.isLoss = false) (ByteSys.step c)
      ByteSys.Keeps (fun s b => Carries c b s ∧ Capable c s) := by
  refine ⟨fun {s l s' b} hR hadm hstep => ?_⟩
  obtain ⟨h, hcap⟩ := hR
  obtain ⟨l', b', -, hkeeps, hb, hcar, hcap'⟩ := h.back hcap hs hr hcrc hadm hstep
  exact ⟨b', .one l' hkeeps hb, hcar, hcap'⟩

end Simulations

/-! ## §5. Streams carry frames. -/

/-- **The two systems reach the same states.**  Over two byte streams, in
every run whose reads tear no frame, the sessions go through what they go
through over frames without losses, with exactly the bytes of the frames in
flight in the streams; no send is refused and no read fails.  And every run
over frames without losses is one over bytes. -/
theorem streams_carry_frames {c : SessionParams} (hs : c.snd.cfg.Accepted)
    (hr : c.rcv.cfg.Accepted) (hcrc : SameCrc c.snd.provider c.rcv.provider)
    (files : Bytes → Option Bytes) (sndCalls : List (List SourceFile)) (rcvCalls : List Bytes) :
    (∀ b, Lts.Reach (ByteSys.step c) ByteSys.Keeps (ByteSys.init c files sndCalls rcvCalls) b →
      b.fault = none
      ∧ ∃ s, Lts.Reach (SessionSys.step c) (fun _ l => l.isLoss = false)
          (SessionSys.init c files sndCalls rcvCalls) s ∧ Carries c b s)
    ∧ ∀ s, Lts.Reach (SessionSys.step c) (fun _ l => l.isLoss = false)
        (SessionSys.init c files sndCalls rcvCalls) s →
      ∃ b, Lts.Reach (ByteSys.step c) ByteSys.Keeps (ByteSys.init c files sndCalls rcvCalls) b
        ∧ Carries c b s := by
  have h₀ := carries_init c files sndCalls rcvCalls
  have hcap₀ := capable_init c files sndCalls rcvCalls
  constructor
  · intro b hb
    obtain ⟨s, hreach, hcar, -⟩ := (bytes_to_frames hs hr hcrc).reach ⟨h₀, hcap₀⟩ hb
    exact ⟨hcar.fault_eq, s, hreach, hcar⟩
  · intro s hreach
    obtain ⟨b, hb, hcar, -⟩ := (frames_to_bytes hs hr hcrc).reach ⟨h₀, hcap₀⟩ hreach
    exact ⟨b, hb, hcar⟩

/-- Handshake, metadata and the first window of the uneven pair over bytes:
two DATA frames of 512 bytes are in the stream. -/
theorem streams_carry_frames_uneven :
    ∃ b, Lts.Reach (ByteSys.step unevenPair) ByteSys.Keeps
        (ByteSys.init unevenPair (fun _ => none) [unevenBatch] [[]]) b
      ∧ b.snd.handshakeDone = true ∧ b.rcv.handshakeDone = true ∧ b.down.length = 1024
      ∧ b.fault = none := by
  obtain ⟨s, hreach, hview⟩ := Lts.Reach.exists_of_foldlM (SessionSys.step unevenPair)
    (fun _ l => !l.isLoss) (SessionSys.init unevenPair (fun _ => none) [unevenBatch] [[]])
    SessionSys.capabilities
    [.sndCall, .rcvCall, .rcvRecv .good, .sndRecv, .rcvRecv .good, .rcvRecv .good, .sndRecv]
    (show _ = some ((true, true), (512, 512), (4, 1), 2, [500, 500]) by decide +kernel)
  obtain ⟨hforth, hback⟩ := streams_carry_frames unevenPair_snd unevenPair_rcv
    (fun _ => rfl) (fun _ => none) [unevenBatch] [[]]
  obtain ⟨b, hb, hcar⟩ := hback s (hreach.mono fun _ l h => by simpa using h)
  have hdone : (s.snd.handshakeDone, s.rcv.handshakeDone) = (true, true) :=
    congrArg Prod.fst hview
  have hlens : s.toRcv.map (fun it => it.send.frame.content.length) = [500, 500] :=
    congrArg (fun v => v.2.2.2.2) hview
  refine ⟨b, hb, ?_, ?_, ?_, (hforth b hb).1⟩
  · rw [hcar.snd_eq]
    exact congrArg Prod.fst hdone
  · rw [hcar.rcv_eq]
    exact congrArg Prod.snd hdone
  · rw [hcar.down_eq]
    have hsum : ∀ items : List Item, (wireOf none items).length
        = (items.map (fun it => it.send.frame.content.length)).sum + 12 * items.length := by
      intro items
      induction items with
      | nil => rfl
      | cons it items ih =>
          rw [wireOf_cons, List.length_append, ih, Frame.bytes_length, List.map_cons,
            List.sum_cons, List.length_cons]
          omega
    have htwo := congrArg List.length hlens
    rw [List.length_map] at htwo
    show (wireOf none s.toRcv).length = 1024
    rw [hsum, hlens, htwo]
    rfl

end ValProtocol
