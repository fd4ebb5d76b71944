/-
  ValProtocol.Wire.Timeouts
  ─────────────────────────
  Successive calls of `val_internal_recv_packet` on one byte stream, with
  the calls that time out simply repeated, as the micro-slicing callers do
  (`val_internal_recv_until_deadline`, `src/val_core.c` lines 1085-1148).

  `val_recv_full` keeps nothing of a read that times out: the bytes it has
  taken are gone, and the next call parses what follows them as a header.

    • `framing_kept`  — in every run in which no call times out with bytes of
      a frame taken, the packets delivered are those of a prefix of the
      frames written, and every call starts at a frame boundary,
    • `framing_lost`  — one pause behind a header, and the file data behind it
      is delivered as a packet nobody wrote.
-/
import Mathlib.Data.List.Forall2
import ValProtocol.Lib.Lts
import ValProtocol.Wire.RoundTrip

namespace ValProtocol

open LittleEndian

/-! ## §1. Runs of calls. -/

/-- The arguments of one call: payload buffer, timeout, and the rounds its
loops may take. -/
structure RecvCall where
  out : Option Nat
  toMs : Nat
  fuel : Nat
  deriving Repr, DecidableEq

/-- The stream and what the calls have returned with `VAL_OK`, each packet
with the buffer it was asked for. -/
structure StreamState where
  transport : Transport
  delivered : List (Option Nat × Packet)

/-- One call.  A timeout is repeated, so the run goes on behind it; any other
error ends the run. -/
def StreamState.step (provider : Option CrcProvider) (P : Nat) (s : StreamState) (c : RecvCall) :
    Option StreamState :=
  match recvPacket c.fuel provider P c.out c.toMs s.transport with
  | some (.ok p, t) => some ⟨t, s.delivered ++ [(c.out, p)]⟩
  | some (.error .timeout, t) => some ⟨t, s.delivered⟩
  | _ => none

/-- A stream nobody has read from. -/
def StreamState.start (t : Transport) : StreamState := ⟨t, []⟩

/-- The read of the content: nothing is asked for when there is none. -/
def recvContent (fuel contentLen toMs : Nat) (t : Transport) :
    Option (Except Status Bytes × Transport) :=
  if contentLen > 0 then recvFull fuel contentLen toMs t else some (.ok [], t)

/-- Does the call run out of time with bytes of a frame in its hands?  Either
the header read has taken some, or the content or trailer read gives up. -/
def Transport.tearsFrame (t : Transport) (c : RecvCall) : Bool :=
  match recvFull c.fuel wireHeaderSize c.toMs t with
  | some (.error .timeout, t₁) => t₁.stream != t.stream
  | some (.ok header, t₁) =>
      match recvContent c.fuel (getLe (slice 2 2 header)) c.toMs t₁ with
      | some (.error .timeout, _) => true
      | some (.ok _, t₂) =>
          match recvFull c.fuel wireTrailerSize c.toMs t₂ with
          | some (.error .timeout, _) => true
          | _ => false
      | _ => false
  | _ => false

/-! ## §2. What a read that succeeds has read. -/

/-- The loop moves bytes from the stream to its buffer, up to the request. -/
theorem recvLoop_ok {start need toMs fuel : Nat} {got bs : Bytes} {t t' : Transport}
    (hgot : got.length ≤ need) (h : recvLoop start need toMs fuel got t = some (.ok bs, t')) :
    got ++ t.stream = bs ++ t'.stream ∧ bs.length = need := by
  induction fuel generalizing got t with
  | zero => cases h
  | succ fuel ih =>
      by_cases hfull : need ≤ got.length
      · rw [recvLoop_full hfull] at h
        cases h
        exact ⟨rfl, by omega⟩
      · cases hk : t.chunk t.calls with
        | none =>
            simp only [recvLoop, ge_iff_le, hfull, if_false, Transport.ticks, Transport.recv, hk]
              at h
            cases h
        | some k =>
            obtain ⟨t₁, -, -, hst, hres⟩ :=
              recvLoop_round start toMs (show got.length < need by omega) hk
            generalize hn : min k (need - got.length) = n at hst hres
            -- what came moves over, and never more than was asked for
            have hmove : (got ++ t.stream.take n) ++ t₁.stream = got ++ t.stream := by
              rw [hst, List.append_assoc, List.take_append_drop]
            have hle : (got ++ t.stream.take n).length ≤ need := by
              rw [List.length_append, List.length_take]
              omega
            rcases hres with hto | hgo
            · rw [hto fuel] at h
              cases h
            · rw [hgo fuel] at h
              split at h
              · cases h
                exact ⟨hmove.symm, by omega⟩
              · rw [← hmove]
                exact ih hle h

theorem recvFull_ok {need toMs fuel : Nat} {bs : Bytes} {t t' : Transport}
    (h : recvFull fuel need toMs t = some (.ok bs, t')) :
    t.stream = bs ++ t'.stream ∧ bs.length = need :=
  recvLoop_ok (Nat.zero_le need) h

theorem recvContent_ok {contentLen toMs fuel : Nat} {bs : Bytes} {t t' : Transport}
    (h : recvContent fuel contentLen toMs t = some (.ok bs, t')) :
    t.stream = bs ++ t'.stream ∧ bs.length = contentLen := by
  unfold recvContent at h
  split at h
  · exact recvFull_ok h
  · cases h
    refine ⟨rfl, ?_⟩
    show 0 = contentLen
    omega

/-- **A call that returns `VAL_OK` has read three parts** that belong together
and pass the check. -/
theorem recvPacket_ok {fuel : Nat} {provider : Option CrcProvider} {P : Nat} {out : Option Nat}
    {toMs : Nat} {t t' : Transport} {p : Packet}
    (h : recvPacket fuel provider P out toMs t = some (.ok p, t')) :
    ∃ header content trailer : Bytes,
      t.stream = header ++ (content ++ (trailer ++ t'.stream))
      ∧ header.length = wireHeaderSize ∧ content.length = getLe (slice 2 2 header)
      ∧ trailer.length = wireTrailerSize
      ∧ checkParts provider P out header content trailer = .ok p := by
  unfold recvPacket at h
  dsimp only at h
  split at h
  · cases h
  · cases h
  rename_i header t₁ hheader
  split at h
  · cases h
  split at h
  · cases h
  · cases h
  rename_i content t₂ hcontent
  split at h
  · cases h
  · cases h
  rename_i trailer t₃ htrailer
  -- header, content and trailer were taken from the stream one behind the other
  obtain ⟨hs₁, hl₁⟩ := recvFull_ok hheader
  obtain ⟨hs₂, hl₂⟩ := recvContent_ok hcontent
  obtain ⟨hs₃, hl₃⟩ := recvFull_ok htrailer
  have hcheck : some (checkParts provider P out header content trailer, t₃) = some (.ok p, t') := by
    rw [← h, checkParts]
    split <;> rfl
  obtain ⟨hp, rfl⟩ := Prod.mk.inj (Option.some.inj hcheck)
  refine ⟨header, content, trailer, ?_, hl₁, hl₂, hl₃, hp⟩
  rw [hs₁, hs₂, hs₃]

/-- A complete frame is never reported as a timeout. -/
theorem recvFrame_ne_timeout (P : Nat) (out : Option Nat) (f : Frame) :
    recvFrame P out f ≠ .error .timeout := by
  intro h
  rcases recvFrame_refuses h with hst | hst
  all_goals cases hst

/-- **A timeout outside a frame** takes nothing from the stream. -/
theorem recvPacket_timeout {provider : Option CrcProvider} {P : Nat} {c : RecvCall}
    {t t' : Transport} (hkeep : t.tearsFrame c = false)
    (h : recvPacket c.fuel provider P c.out c.toMs t = some (.error .timeout, t')) :
    t'.stream = t.stream := by
  unfold recvPacket at h
  unfold Transport.tearsFrame at hkeep
  dsimp only at h
  split at h
  · cases h
  · -- the header
    rename_i st t₁ hheader
    cases h
    rw [hheader] at hkeep
    simpa using hkeep
  rename_i header t₁ hheader
  rw [hheader] at hkeep
  dsimp only at hkeep
  split at h
  · cases h
  split at h
  · cases h
  · -- the content
    rename_i st t₂ hcontent
    cases h
    rw [recvContent, hcontent] at hkeep
    cases hkeep
  rename_i content t₂ hcontent
  rw [recvContent, hcontent] at hkeep
  dsimp only at hkeep
  split at h
  · cases h
  · -- the trailer
    rename_i st t₃ htrailer
    cases h
    rw [htrailer] at hkeep
    cases hkeep
  · split at h
    · cases h
    · exact absurd (congrArg Prod.fst (Option.some.inj h)) (recvFrame_ne_timeout _ _ _)

/-! ## §3. Frame boundaries. -/

/-- A frame as the encoder builds them, small enough for the reader's MTU. -/
structure Frame.WellFormed (P : Nat) (f : Frame) : Prop where
  content_lt : f.content.length < 2 ^ 16
  typeData_lt : f.typeData < 2 ^ 32
  fits : f.content.length ≤ P - wireHeaderSize - wireTrailerSize

/-- The parts a call has read from the front of a frame are the frame's. -/
theorem parts_eq {sender : Option CrcProvider} {P : Nat} {f : Frame} (hf : f.WellFormed P)
    {header content trailer rest rest' : Bytes}
    (hheader : header.length = wireHeaderSize)
    (hcontent : content.length = getLe (slice 2 2 header))
    (htrailer : trailer.length = wireTrailerSize)
    (h : f.bytes sender ++ rest = header ++ (content ++ (trailer ++ rest'))) :
    header = serializeFrameHeader f.type f.flags f.content.length f.typeData
    ∧ content = f.content ∧ trailer = putLe 4 (internalCrc32 sender f.body).toNat
    ∧ rest = rest' := by
  obtain ⟨-, -, hcl, -⟩ := header_fields f.type f.flags hf.content_lt hf.typeData_lt
  rw [f.bytes_parts, List.append_assoc, List.append_assoc] at h
  obtain ⟨hh, h⟩ := List.append_inj h (by rw [hheader, serializeFrameHeader_length]; rfl)
  rw [← hh, hcl] at hcontent
  obtain ⟨hc, h⟩ := List.append_inj h hcontent.symm
  obtain ⟨ht, hr⟩ := List.append_inj h (by rw [htrailer, putLe_length]; rfl)
  exact ⟨hh.symm, hc.symm, ht.symm, hr⟩

/-- **The calls have delivered the frames `done`** and stand in front of the
frames `todo`. -/
structure Framed (sender : Option CrcProvider) (P : Nat) (done todo : List Frame)
    (s : StreamState) : Prop where
  delivered : List.Forall₂ (fun f (d : Option Nat × Packet) => recvFrame P d.1 f = .ok d.2)
    done s.delivered
  stream : s.transport.stream = todo.flatMap (Frame.bytes sender)

/-- One call keeps to the frame boundaries. -/
theorem Framed.step {sender provider : Option CrcProvider} (hagree : SameCrc sender provider)
    {P : Nat} {done todo : List Frame} (htodo : ∀ f ∈ todo, f.WellFormed P)
    {s s' : StreamState} {c : RecvCall} (hkeep : s.transport.tearsFrame c = false)
    (h : Framed sender P done todo s) (hstep : s.step provider P c = some s') :
    ∃ done' todo', done ++ todo = done' ++ todo' ∧ Framed sender P done' todo' s' := by
  unfold StreamState.step at hstep
  split at hstep
  · rename_i p t hrun
    cases hstep
    obtain ⟨header, content, trailer, hst, hh, hc, ht, hcheck⟩ := recvPacket_ok hrun
    rw [h.stream] at hst
    cases todo with
    | nil =>
        -- nothing is left to read
        have hlen := congrArg List.length hst
        simp only [List.flatMap_nil, List.length_nil, List.length_append, hh,
          wireHeaderSize] at hlen
        omega
    | cons f todo =>
        have hf := htodo f (List.mem_cons_self ..)
        rw [List.flatMap_cons] at hst
        obtain ⟨rfl, rfl, rfl, hrest⟩ := parts_eq hf hh hc ht hst
        rw [checkParts_frame hagree P c.out hf.content_lt hf.typeData_lt] at hcheck
        refine ⟨done ++ [f], todo, by simp, ?_, hrest.symm⟩
        exact List.rel_append h.delivered (.cons hcheck .nil)
  · rename_i t hrun
    cases hstep
    refine ⟨done, todo, rfl, h.delivered, ?_⟩
    rw [← h.stream]
    exact recvPacket_timeout hkeep hrun
  · cases hstep

/-- **Framing survives timeouts between frames.**  The packets delivered are
those of the frames of a prefix, whatever the arrival of the bytes. -/
theorem framing_kept {sender provider : Option CrcProvider} (hagree : SameCrc sender provider)
    {P : Nat} {frames : List Frame} (hframes : ∀ f ∈ frames, f.WellFormed P) {t : Transport}
    (hstream : t.stream = frames.flatMap (Frame.bytes sender)) {s : StreamState}
    (hreach : Lts.Reach (StreamState.step provider P)
      (fun s c => s.transport.tearsFrame c = false) (.start t) s) :
    ∃ done todo, frames = done ++ todo ∧ Framed sender P done todo s := by
  apply hreach.invariant
    (I := fun s => ∃ done todo, frames = done ++ todo ∧ Framed sender P done todo s)
  · exact ⟨[], frames, rfl, .nil, hstream⟩
  · rintro s c s' ⟨done, todo, hcut, hk⟩ hkeep hstep
    have htodo : ∀ f ∈ todo, f.WellFormed P := by
      intro f hf
      exact hframes f (by rw [hcut]; exact List.mem_append_right _ hf)
    rw [hcut]
    exact hk.step hagree htodo hkeep hstep

/-! ## §4. A pause inside a frame. -/

/-- A transport that pauses: `first` bytes arrive, then none until the clock
has passed the deadline, then everything.  The clock jumps behind `reads`
readings. -/
def pausing (bytes : Bytes) (first reads : Nat) : Transport where
  stream := bytes
  chunk := fun i => some (if i = 0 then first else if i = 1 then 0 else bytes.length)
  clock := fun i => if i < reads then 0 else 1000
  calls := 0
  reads := 0

/-- A DATA frame whose payload is the bytes of an EOT frame, as a file may
hold them. -/
def nestedFrame : Frame := buildFrame .data ((buildFrame .eot [] 0 false).bytes none) 0 false

theorem buildFrame_wellFormed {P : Nat} {type : PacketType} {payload : Bytes} {offset : Nat}
    {incl : Bool}
    (h : (buildFrame type payload offset incl).content.length
      ≤ P - wireHeaderSize - wireTrailerSize) :
    (buildFrame type payload offset incl).WellFormed P :=
  ⟨buildFrame_content_lt .., buildFrame_typeData_lt .., h⟩

/-- Two frames and a pause in front of them: the first call times out, the
next two read them. -/
theorem framing_kept_late_start :
    let frames := [nestedFrame, buildFrame .done [] 0 false]
    let t := pausing (frames.flatMap (Frame.bytes none)) 0 2
    (∀ f ∈ frames, f.WellFormed 512)
      ∧ ∃ s, Lts.Reach (StreamState.step none 512)
          (fun s c => s.transport.tearsFrame c = false) (.start t) s
        ∧ s.delivered.length = 2
        ∧ ∃ done todo, frames = done ++ todo ∧ Framed none 512 done todo s := by
  intro frames t
  have hframes : ∀ f ∈ frames, f.WellFormed 512 := by
    intro f hf
    simp only [frames, List.mem_cons, List.not_mem_nil, or_false] at hf
    rcases hf with rfl | rfl
    · exact buildFrame_wellFormed (by decide +kernel)
    · exact buildFrame_wellFormed (by decide +kernel)
  obtain ⟨s, hreach, hout⟩ := Lts.Reach.exists_of_foldlM (StreamState.step none 512)
    (fun s c => !s.transport.tearsFrame c) (.start t) StreamState.delivered
    (List.replicate 3 ⟨some 512, 100, 5⟩)
    (show _ = some [
      (some 512, ⟨.data, (buildFrame .eot [] 0 false).bytes none, 12, uint64Max⟩),
      (some 512, ⟨.done, [], 0, 0⟩)] by decide +kernel)
  have hreach' : Lts.Reach (StreamState.step none 512)
      (fun s c => s.transport.tearsFrame c = false) (.start t) s :=
    hreach.mono (fun s c h => by simpa using h)
  exact ⟨hframes, s, hreach', by rw [hout]; rfl,
    framing_kept (fun _ => rfl) hframes rfl hreach'⟩

/-- **A pause behind a header breaks the framing**: the DATA frame is the only
one written, and an EOT is delivered. -/
theorem framing_lost :
    let t := pausing (nestedFrame.bytes none) 8 4
    nestedFrame.WellFormed 512 ∧ t.stream = [nestedFrame].flatMap (Frame.bytes none)
      ∧ ∃ s, Lts.Reach (StreamState.step none 512) (fun _ _ => True) (.start t) s
        ∧ s.delivered = [(some 512, ⟨.eot, [], 0, 0⟩)]
        ∧ ¬ ∃ done todo, [nestedFrame] = done ++ todo
            ∧ List.Forall₂ (fun f (d : Option Nat × Packet) => recvFrame 512 d.1 f = .ok d.2)
                done s.delivered := by
  intro t
  obtain ⟨s, hreach, hout⟩ := Lts.Reach.exists_of_foldlM (StreamState.step none 512)
    (fun _ _ => true) (.start t) StreamState.delivered (List.replicate 2 ⟨some 512, 100, 5⟩)
    (show _ = some [(some 512, ⟨.eot, [], 0, 0⟩)] by decide +kernel)
  refine ⟨buildFrame_wellFormed (by decide +kernel), by decide +kernel, s,
    hreach.mono (fun _ _ _ => trivial), hout, ?_⟩
  rintro ⟨done, todo, hcut, hall⟩
  rw [hout] at hall
  -- the frame written is the only candidate, and it is no EOT
  cases hall with
  | cons hdata hnil =>
      cases hnil
      obtain ⟨rfl, -⟩ := List.cons_eq_cons.mp hcut
      revert hdata
      decide +kernel

end ValProtocol
