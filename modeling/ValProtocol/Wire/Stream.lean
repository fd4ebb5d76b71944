/-
  ValProtocol.Wire.Stream
  ───────────────────────
  The byte level of the receiver: `val_recv_full` (`src/val_core.c` lines
  12-43) and the three partial-read loops of `val_internal_recv_packet`
  (lines 880-974).

  The transport's `recv` hook may return any number of bytes up to the
  requested one, and the clock may read anything: `chunk i` is what the
  `i`-th call of the hook offers, `clock i` the `i`-th reading of
  `get_ticks_ms`.  `recv_full` loops until the bytes are there, the hook
  fails or the time is up, so the model carries fuel; `recvLoop_spec` says
  that enough fuel always exists while the hook keeps making progress.
-/
import ValProtocol.Wire.Frame

namespace ValProtocol

open LittleEndian

/-! ## §1. The transport hooks. -/

/-- The environment of the byte-level receiver. -/
structure Transport where
  /-- bytes written by the peer and not yet read -/
  stream : Bytes
  /-- what the `i`-th `recv` call offers; `none` is a negative return -/
  chunk : Nat → Option Nat
  /-- the `i`-th reading of `get_ticks_ms` -/
  clock : Nat → Nat
  calls : Nat
  reads : Nat

/-- One reading of the clock. -/
def Transport.ticks (t : Transport) : Nat × Transport :=
  (t.clock t.reads, { t with reads := t.reads + 1 })

/-- One call of the `recv` hook for at most `n` bytes.  The time slice is
advice to the hook; which bytes arrive is up to `chunk`. -/
def Transport.recv (t : Transport) (n : Nat) (_slice : Nat) :
    Option Bytes × Transport :=
  let t' := { t with calls := t.calls + 1 }
  match t.chunk t.calls with
  | none => (none, t')
  | some k => (some (t.stream.take (min k n)),
      { t' with stream := t.stream.drop (min k n) })

/-! ## §2. `val_recv_full`. -/

/-- The time slice passed to the hook. -/
def recvSlice (start now toMs : Nat) : Nat :=
  let elapsed := if now ≥ start then now - start else 0
  let remaining := if toMs > elapsed then toMs - elapsed else 0
  if remaining ≠ 0 then remaining else if toMs ≠ 0 then 1 else 0

/-- The loop of `val_recv_full` with the bytes read so far. -/
def recvLoop (start need toMs : Nat) :
    Nat → Bytes → Transport → Option (Except Status Bytes × Transport)
  | 0, _, _ => none
  | fuel + 1, got, t =>
      if got.length ≥ need then some (.ok got, t)
      else
        let (now, t) := t.ticks
        match t.recv (need - got.length) (recvSlice start now toMs) with
        | (none, t) => some (.error .io, t)
        | (some bs, t) =>
            if (got ++ bs).length ≥ need then some (.ok (got ++ bs), t)
            else
              let (later, t) := t.ticks
              if (later + 2 ^ 32 - start) % 2 ^ 32 ≥ toMs then
                some (.error .timeout, t)
              else recvLoop start need toMs fuel (got ++ bs) t

/-- `val_recv_full`. -/
def recvFull (fuel need toMs : Nat) (t : Transport) :
    Option (Except Status Bytes × Transport) :=
  let (start, t) := t.ticks
  recvLoop start need toMs fuel [] t

/-! ## §3. `val_internal_recv_packet` on the byte stream. -/

/-- `val_internal_recv_packet`: header, content and trailer are read in
turn; the length is checked after the header, the CRC after the trailer. -/
def recvPacket (fuel : Nat) (provider : Option CrcProvider) (P : Nat)
    (out : Option Nat) (toMs : Nat) (t : Transport) :
    Option (Except Status Packet × Transport) :=
  match recvFull fuel wireHeaderSize toMs t with
  | none => none
  | some (.error st, t) => some (.error st, t)
  | some (.ok header, t) =>
      let contentLen := getLe (slice 2 2 header)
      if contentLen > P - wireHeaderSize - wireTrailerSize then
        some (.error .protocol, t)
      else
        match (if contentLen > 0 then recvFull fuel contentLen toMs t
               else some (.ok [], t)) with
        | none => none
        | some (.error st, t) => some (.error st, t)
        | some (.ok content, t) =>
            match recvFull fuel wireTrailerSize toMs t with
            | none => none
            | some (.error st, t) => some (.error st, t)
            | some (.ok trailer, t) =>
                if getLe trailer ≠ (internalCrc32 provider (header ++ content)).toNat
                then some (.error .crc, t)
                else
                  let f : Frame :=
                    { type := header.headD 0, flags := (header.drop 1).headD 0,
                      typeData := getLe (slice 4 4 header), content := content }
                  some (recvFrame P out f, t)

/-- Successive calls, up to the first one that does not return `VAL_OK`:
the packets delivered and the status that ended the sequence, if any. -/
def recvSeq (fuel : Nat) (provider : Option CrcProvider) (P : Nat)
    (out : Option Nat) (toMs : Nat) :
    Nat → Transport → Option (List Packet × Option Status)
  | 0, _ => some ([], none)
  | n + 1, t =>
      match recvPacket fuel provider P out toMs t with
      | none => none
      | some (.error st, _) => some ([], some st)
      | some (.ok p, t) =>
          (recvSeq fuel provider P out toMs n t).map
            (fun r => (p :: r.1, r.2))

/-! ## §4. A hook that keeps making progress fills every request. -/

/-- The hook never fails and offers bytes again and again. -/
structure Transport.Live (t : Transport) : Prop where
  noError : ∀ i, t.chunk i ≠ none
  progress : ∀ i, ∃ j, i ≤ j ∧ ∃ k, 0 < k ∧ t.chunk j = some k

/-- Two moments of one transport: same hooks, some bytes and calls later. -/
def Transport.SameHooks (t t' : Transport) : Prop :=
  t'.chunk = t.chunk ∧ t'.clock = t.clock

theorem Transport.SameHooks.live {t t' : Transport} (h : t.SameHooks t')
    (hl : t.Live) : t'.Live := by
  constructor
  · rw [h.1]
    exact hl.noError
  · rw [h.1]
    exact hl.progress

theorem Transport.SameHooks.trans {a b c : Transport}
    (h1 : a.SameHooks b) (h2 : b.SameHooks c) : a.SameHooks c :=
  ⟨h2.1.trans h1.1, h2.2.trans h1.2⟩

/-- How a read of the next `k` bytes behind `got` can end. -/
def ReadDone (got : Bytes) (k : Nat) (t : Transport)
    (r : Except Status Bytes) (t' : Transport) : Prop :=
  (r = .ok (got ++ t.stream.take k) ∧ t'.stream = t.stream.drop k
    ∧ t.SameHooks t')
  ∨ r = .error .timeout

/-- Reading `n` bytes and then the other `m - n` is reading `m`. -/
theorem ReadDone.extend {got : Bytes} {n m : Nat} {t t' t'' : Transport}
    {r : Except Status Bytes} (hnm : n ≤ m) (hsh : t.SameHooks t')
    (hst : t'.stream = t.stream.drop n)
    (h : ReadDone (got ++ t.stream.take n) (m - n) t' r t'') :
    ReadDone got m t r t'' := by
  rcases h with ⟨hr, hs, hh⟩ | hr
  · have hsum : n + (m - n) = m := by omega
    refine Or.inl ⟨?_, ?_, hsh.trans hh⟩
    · rw [hr, hst, List.append_assoc, ← List.take_add, hsum]
    · rw [hs, hst, List.drop_drop, hsum]
  · exact Or.inr hr

/-- One round of the loop with the hook offering `k` bytes: it times out,
completes the request, or goes on with what came. -/
theorem recvLoop_round (start toMs : Nat) {need k : Nat} {got : Bytes}
    {t : Transport} (hneed : got.length < need) (hk : t.chunk t.calls = some k) :
    ∃ t', t.SameHooks t' ∧ t'.calls = t.calls + 1
      ∧ t'.stream = t.stream.drop (min k (need - got.length))
      ∧ ((∀ fuel, recvLoop start need toMs (fuel + 1) got t
            = some (.error .timeout, t'))
         ∨ (∀ fuel, recvLoop start need toMs (fuel + 1) got t
            = if (got ++ t.stream.take (min k (need - got.length))).length ≥ need
              then some (.ok (got ++ t.stream.take (min k (need - got.length))), t')
              else recvLoop start need toMs fuel
                (got ++ t.stream.take (min k (need - got.length))) t')) := by
  have hn : ¬ got.length ≥ need := by omega
  by_cases hfull : (got ++ t.stream.take (min k (need - got.length))).length ≥ need
  · refine ⟨{ t with
        stream := t.stream.drop (min k (need - got.length)),
        calls := t.calls + 1, reads := t.reads + 1 }, ⟨rfl, rfl⟩, rfl, rfl, Or.inr ?_⟩
    intro fuel
    simp only [recvLoop, hn, if_false, Transport.ticks, Transport.recv, hk, hfull,
      if_true]
  · refine ⟨{ t with
        stream := t.stream.drop (min k (need - got.length)),
        calls := t.calls + 1, reads := t.reads + 1 + 1 }, ⟨rfl, rfl⟩, rfl, rfl, ?_⟩
    simp only [recvLoop, hn, if_false, Transport.ticks, Transport.recv, hk, hfull]
    by_cases hto : (t.clock (t.reads + 1) + 2 ^ 32 - start) % 2 ^ 32 ≥ toMs
    · exact Or.inl (fun _ => by simp only [hto, if_true])
    · exact Or.inr (fun _ => by simp only [hto, if_false])

/-- A loop that has its bytes returns them. -/
theorem recvLoop_full {start need toMs fuel : Nat} {got : Bytes} {t : Transport}
    (h : need ≤ got.length) :
    recvLoop start need toMs (fuel + 1) got t = some (.ok got, t) := by
  simp only [recvLoop, ge_iff_le, h, if_true]

/-- The loop returns `r` once it has enough fuel. -/
def LoopReturns (start need toMs : Nat) (got : Bytes) (t : Transport)
    (r : Except Status Bytes) (t' : Transport) : Prop :=
  ∃ N, ∀ fuel, N ≤ fuel → recvLoop start need toMs fuel got t = some (r, t')

/-- A round that needs no further fuel decides the loop. -/
theorem LoopReturns.of_succ {start need toMs : Nat} {got : Bytes}
    {t t' : Transport} {r : Except Status Bytes}
    (h : ∀ fuel, recvLoop start need toMs (fuel + 1) got t = some (r, t')) :
    LoopReturns start need toMs got t r t' := by
  refine ⟨1, fun fuel hf => ?_⟩
  obtain ⟨f, rfl⟩ : ∃ f, fuel = f + 1 := ⟨fuel - 1, by omega⟩
  exact h f

/-- A round that goes on returns what the rest returns. -/
theorem LoopReturns.of_round {start need toMs : Nat} {got got' : Bytes}
    {t t₁ t' : Transport} {r : Except Status Bytes}
    (h : ∀ fuel, recvLoop start need toMs (fuel + 1) got t
      = recvLoop start need toMs fuel got' t₁)
    (hrest : LoopReturns start need toMs got' t₁ r t') :
    LoopReturns start need toMs got t r t' := by
  obtain ⟨N, hN⟩ := hrest
  refine ⟨N + 1, fun fuel hf => ?_⟩
  obtain ⟨f, rfl⟩ : ∃ f, fuel = f + 1 := ⟨fuel - 1, by omega⟩
  rw [h f, hN f (by omega)]

/-- The induction step of `recvLoop_spec`: `ih` covers smaller requests,
`again` a round in which nothing came. -/
theorem recvLoop_spec_step (start need toMs : Nat) {m k : Nat} {got : Bytes}
    {t : Transport}
    (ih : ∀ m' < m, ∀ (got : Bytes) (t : Transport), t.Live →
      need - got.length = m' → m' ≤ t.stream.length →
      ∃ r t', LoopReturns start need toMs got t r t' ∧ ReadDone got m' t r t')
    (hl : t.Live) (hm : need - got.length = m) (hlen : m ≤ t.stream.length)
    (hpos : 0 < m) (hk : t.chunk t.calls = some k)
    (again : k = 0 → ∀ t', t.SameHooks t' → t'.calls = t.calls + 1 →
      t'.stream = t.stream →
      ∃ r t'', LoopReturns start need toMs got t' r t'' ∧ ReadDone got m t' r t'') :
    ∃ r t', LoopReturns start need toMs got t r t' ∧ ReadDone got m t r t' := by
  obtain ⟨t', hsh, hcalls, hst, hres⟩ :=
    recvLoop_round start toMs (show got.length < need by omega) hk
  rw [hm] at hst hres
  have htake : (t.stream.take (min k m)).length = min k m := by
    rw [List.length_take]; omega
  rcases hres with hto | hgo
  · exact ⟨_, t', .of_succ hto, Or.inr rfl⟩
  · by_cases hall : m ≤ k
    · -- the offer completes the request
      have hmin : min k m = m := Nat.min_eq_right hall
      rw [hmin] at hgo hst htake
      refine ⟨_, t', .of_succ fun fuel => ?_, Or.inl ⟨rfl, hst, hsh⟩⟩
      rw [hgo fuel, if_pos]
      rw [List.length_append, htake]
      omega
    · -- the loop goes on with the rest
      have hmin : min k m = k := Nat.min_eq_left (by omega)
      rw [hmin] at hgo hst htake
      have hrest : ∃ r t'', LoopReturns start need toMs (got ++ t.stream.take k) t' r t''
          ∧ ReadDone (got ++ t.stream.take k) (m - k) t' r t'' := by
        rcases Nat.eq_zero_or_pos k with hk0 | hk0
        · subst hk0
          simpa using again rfl t' hsh hcalls (by simpa using hst)
        · refine ih (m - k) (by omega) _ t' (hsh.live hl) ?_ ?_
          · rw [List.length_append, htake]; omega
          · rw [hst, List.length_drop]; omega
      obtain ⟨r, t'', hrun, hdone⟩ := hrest
      refine ⟨r, t'', .of_round (fun fuel => ?_) hrun, hdone.extend (by omega) hsh hst⟩
      rw [hgo fuel, if_neg]
      rw [List.length_append, htake]
      omega

/-- **Enough fuel exists.**  While the hook makes progress and the stream
holds what is asked for, the loop returns the next bytes of the stream, or
the clock ran out on it. -/
theorem recvLoop_spec (start need toMs : Nat) :
    ∀ (m : Nat) (got : Bytes) (t : Transport), t.Live →
      need - got.length = m → m ≤ t.stream.length →
      ∃ r t', LoopReturns start need toMs got t r t' ∧ ReadDone got m t r t' := by
  intro m
  -- outer induction: the bytes still missing
  induction m using Nat.strong_induction_on with
  | _ m ih =>
    intro got t hl hm hlen
    rcases Nat.eq_zero_or_pos m with hz | hpos
    · subst hz
      exact ⟨.ok got, t, .of_succ fun _ => recvLoop_full (by omega),
        Or.inl ⟨by simp, by simp, rfl, rfl⟩⟩
    · -- inner induction: the calls until the hook offers something
      obtain ⟨j, hij, k, hk0, hk⟩ := hl.progress t.calls
      obtain ⟨d, rfl⟩ : ∃ d, j = t.calls + d := ⟨j - t.calls, by omega⟩
      clear hij
      induction d generalizing t with
      | zero =>
          exact recvLoop_spec_step start need toMs ih hl hm hlen hpos hk
            (fun h => absurd h (by omega))
      | succ d ihd =>
          obtain ⟨k₀, hk₀⟩ := Option.ne_none_iff_exists'.mp (hl.noError t.calls)
          refine recvLoop_spec_step start need toMs ih hl hm hlen hpos hk₀ ?_
          intro _ t' hsh hcalls hst
          refine ihd t' (hsh.live hl) (by rw [hst]; simpa using hlen) ?_
          rw [hsh.1, hcalls, ← hk]
          congr 1
          omega

/-! ## §5. A clock that leaves time. -/

/-- No two readings, the earlier one first, are `toMs` apart. -/
def Transport.Patient (t : Transport) (toMs : Nat) : Prop :=
  ∀ i j, i ≤ j → (t.clock j + 2 ^ 32 - t.clock i) % 2 ^ 32 < toMs

/-- A patient clock never ends the loop. -/
theorem recvLoop_patient {start need toMs : Nat} :
    ∀ (fuel : Nat) (got : Bytes) (t t' : Transport) (i : Nat),
      t.Patient toMs → start = t.clock i → i ≤ t.reads →
      recvLoop start need toMs fuel got t ≠ some (.error .timeout, t') := by
  intro fuel
  induction fuel with
  | zero => intro got t t' i _ _ _ h; cases h
  | succ fuel ih =>
      intro got t t' i hp hs hi h
      have hclock := hp i (t.reads + 1) (by omega)
      rw [← hs] at hclock
      simp only [recvLoop, Transport.ticks, Transport.recv] at h
      split at h
      · cases h
      · cases hk : t.chunk t.calls with
        | none => simp only [hk] at h; cases h
        | some k =>
            simp only [hk] at h
            split at h
            · cases h
            · simp only [ge_iff_le, Nat.not_le.mpr hclock, if_false] at h
              refine ih _ _ _ i ?_ ?_ ?_ h
              · exact hp
              · exact hs
              · show i ≤ t.reads + 1 + 1
                omega

theorem Transport.SameHooks.patient {t t' : Transport} {toMs : Nat}
    (h : t.SameHooks t') (hp : t.Patient toMs) : t'.Patient toMs := by
  intro i j hij
  rw [h.2]
  exact hp i j hij

theorem recvFull_patient {fuel need toMs : Nat} {t t' : Transport}
    (hp : t.Patient toMs) :
    recvFull fuel need toMs t ≠ some (.error .timeout, t') :=
  recvLoop_patient fuel [] t.ticks.2 t' t.reads hp rfl
    (by simp only [Transport.ticks]; omega)

/-! ## §6. Reading one frame. -/

/-- `recvFull` reads the next `need` bytes, or runs out of time. -/
theorem recvFull_spec (need toMs : Nat) {t : Transport} (hl : t.Live)
    (hlen : need ≤ t.stream.length) :
    ∃ r t', (∃ N, ∀ fuel, N ≤ fuel → recvFull fuel need toMs t = some (r, t'))
      ∧ ((r = .ok (t.stream.take need) ∧ t'.stream = t.stream.drop need
            ∧ t.SameHooks t')
          ∨ (r = .error .timeout ∧ ¬ t.Patient toMs)) := by
  have hsh : t.SameHooks t.ticks.2 := ⟨rfl, rfl⟩
  obtain ⟨r, t', hrun, hdone⟩ :=
    recvLoop_spec t.ticks.1 need toMs need [] t.ticks.2 (hsh.live hl) rfl hlen
  refine ⟨r, t', hrun, ?_⟩
  rcases hdone with ⟨hr, hst, hh⟩ | hr
  · exact Or.inl ⟨hr, hst, hsh.trans hh⟩
  · refine Or.inr ⟨hr, fun hp => ?_⟩
    obtain ⟨N, hN⟩ := hrun
    have hlast := hN N (Nat.le_refl N)
    rw [hr] at hlast
    exact recvFull_patient hp hlast

/-- The header fields of a frame, read back. -/
theorem header_fields (t fl : UInt8) {n d : Nat} (hn : n < 2 ^ 16) (hd : d < 2 ^ 32) :
    (serializeFrameHeader t fl n d).headD 0 = t
    ∧ ((serializeFrameHeader t fl n d).drop 1).headD 0 = fl
    ∧ getLe (slice 2 2 (serializeFrameHeader t fl n d)) = n
    ∧ getLe (slice 4 4 (serializeFrameHeader t fl n d)) = d := by
  have hcut : serializeFrameHeader t fl n d = [t, fl] ++ (putLe 2 n ++ putLe 4 d) := rfl
  have h2 : slice 2 2 (serializeFrameHeader t fl n d) = putLe 2 n := by
    rw [hcut, slice_skip (by simp)]
    exact slice_here (by simp)
  have h4 : slice 4 4 (serializeFrameHeader t fl n d) = putLe 4 d := by
    rw [hcut, slice_skip (by simp), slice_skip (by simp)]
    simp only [putLe_length]
    exact slice_all (by simp)
  refine ⟨rfl, rfl, ?_, ?_⟩
  · rw [h2, getLe_putLe_of_lt (by simpa using hn)]
  · rw [h4, getLe_putLe_of_lt (by simpa using hd)]

/-- A header and a content, read as a frame. -/
def Frame.ofParts (header content : Bytes) : Frame where
  type := header.headD 0
  flags := (header.drop 1).headD 0
  typeData := getLe (slice 4 4 header)
  content := content

/-- What a call makes of the three parts once they are read. -/
def checkParts (provider : Option CrcProvider) (P : Nat) (out : Option Nat)
    (header content trailer : Bytes) : Except Status Packet :=
  if getLe trailer ≠ (internalCrc32 provider (header ++ content)).toNat then .error .crc
  else recvFrame P out (.ofParts header content)

/-- How one call on a stream that starts with three parts can end: with the
verdict `v` on them and the stream behind them, or with a timeout. -/
def ReadsTo (toMs : Nat) (v : Except Status Packet) (rest : Bytes) (t : Transport)
    (r : Except Status Packet) (t' : Transport) : Prop :=
  (r = v ∧ t'.stream = rest ∧ t.SameHooks t') ∨ (r = .error .timeout ∧ ¬ t.Patient toMs)

/-- **One call reads the three parts the header announces**, however their
bytes are chunked and whatever they hold. -/
theorem recvPacket_parts (provider : Option CrcProvider) (P : Nat) (out : Option Nat)
    (toMs : Nat) {header content trailer rest : Bytes}
    (hheader : header.length = wireHeaderSize) (htrailer : trailer.length = wireTrailerSize)
    (hcl : getLe (slice 2 2 header) = content.length)
    (hfit : content.length ≤ P - wireHeaderSize - wireTrailerSize)
    {t : Transport} (hl : t.Live)
    (hstream : t.stream = header ++ (content ++ (trailer ++ rest))) :
    ∃ r t', (∃ N, ∀ fuel, N ≤ fuel →
        recvPacket fuel provider P out toMs t = some (r, t'))
      ∧ ReadsTo toMs (checkParts provider P out header content trailer) rest t r t' := by
  -- the header
  obtain ⟨r₁, t₁, ⟨N₁, hrun₁⟩, hd₁⟩ :=
    recvFull_spec wireHeaderSize toMs hl
      (by rw [hstream, List.length_append, hheader]; omega)
  rcases hd₁ with ⟨hr₁, hs₁, hh₁⟩ | ⟨hr₁, hnp⟩
  swap
  · refine ⟨.error .timeout, t₁, ⟨N₁, fun fuel hf => ?_⟩, Or.inr ⟨rfl, hnp⟩⟩
    simp only [recvPacket, hrun₁ fuel hf, hr₁]
  rw [hstream, ← hheader, List.take_left] at hr₁
  rw [hstream, ← hheader, List.drop_left] at hs₁
  -- the content
  have hcontentRead : ∃ r₂ t₂, (∃ N, ∀ fuel, N ≤ fuel →
        (if content.length > 0 then recvFull fuel content.length toMs t₁
         else some (.ok [], t₁)) = some (r₂, t₂))
      ∧ ((r₂ = .ok content ∧ t₂.stream = trailer ++ rest ∧ t₁.SameHooks t₂)
          ∨ (r₂ = .error .timeout ∧ ¬ t.Patient toMs)) := by
    by_cases hpos : content.length > 0
    · simp only [if_pos hpos]
      obtain ⟨r₂, t₂, hrun₂, hd₂⟩ :=
        recvFull_spec content.length toMs (hh₁.live hl) (by rw [hs₁]; simp)
      refine ⟨r₂, t₂, hrun₂, ?_⟩
      rcases hd₂ with ⟨hr₂, hs₂, hh₂⟩ | ⟨hr₂, hnp⟩
      · rw [hs₁, List.take_left] at hr₂
        rw [hs₁, List.drop_left] at hs₂
        exact Or.inl ⟨hr₂, hs₂, hh₂⟩
      · exact Or.inr ⟨hr₂, fun hp => hnp (hh₁.patient hp)⟩
    · have hnil : content = [] := by
        rw [← List.length_eq_zero_iff]; omega
      simp only [if_neg hpos]
      refine ⟨.ok [], t₁, ⟨0, fun _ _ => rfl⟩, Or.inl ⟨by rw [hnil], ?_, rfl, rfl⟩⟩
      rw [hs₁, hnil, List.nil_append]
  obtain ⟨r₂, t₂, ⟨N₂, hrun₂⟩, hd₂⟩ := hcontentRead
  have hfit' : ¬ content.length > P - wireHeaderSize - wireTrailerSize := by omega
  rcases hd₂ with ⟨hr₂, hs₂, hh₂⟩ | ⟨hr₂, hnp⟩
  swap
  · refine ⟨.error .timeout, t₂, ⟨max N₁ N₂, fun fuel hf => ?_⟩, Or.inr ⟨rfl, hnp⟩⟩
    simp only [recvPacket, hrun₁ fuel (by omega), hr₁, hcl, hfit', if_false,
      hrun₂ fuel (by omega), hr₂]
  -- the trailer
  obtain ⟨r₃, t₃, ⟨N₃, hrun₃⟩, hd₃⟩ :=
    recvFull_spec wireTrailerSize toMs (hh₂.live (hh₁.live hl))
      (by rw [hs₂, List.length_append, htrailer]; omega)
  rcases hd₃ with ⟨hr₃, hs₃, hh₃⟩ | ⟨hr₃, hnp⟩
  swap
  · refine ⟨.error .timeout, t₃, ⟨max N₁ (max N₂ N₃), fun fuel hf => ?_⟩,
      Or.inr ⟨rfl, fun hp => hnp (hh₂.patient (hh₁.patient hp))⟩⟩
    simp only [recvPacket, hrun₁ fuel (by omega), hr₁, hcl, hfit', if_false,
      hrun₂ fuel (by omega), hr₂, hrun₃ fuel (by omega), hr₃]
  rw [hs₂, ← htrailer, List.take_left] at hr₃
  rw [hs₂, ← htrailer, List.drop_left] at hs₃
  refine ⟨_, t₃, ⟨max N₁ (max N₂ N₃), fun fuel hf => ?_⟩,
    Or.inl ⟨rfl, hs₃, hh₁.trans (hh₂.trans hh₃)⟩⟩
  simp only [recvPacket, hrun₁ fuel (by omega), hr₁, hcl, hfit', if_false,
    hrun₂ fuel (by omega), hr₂, hrun₃ fuel (by omega), hr₃]
  rw [checkParts]
  split <;> rfl

/-- The parts of a written frame. -/
theorem Frame.bytes_parts (sender : Option CrcProvider) (f : Frame) :
    f.bytes sender = serializeFrameHeader f.type f.flags f.content.length f.typeData
      ++ (f.content ++ putLe 4 (internalCrc32 sender f.body).toNat) := by
  rw [Frame.bytes, Frame.body, List.append_assoc]

/-- The parts of a written frame pass the check. -/
theorem checkParts_frame {provider sender : Option CrcProvider}
    (hagree : SameCrc sender provider) (P : Nat) (out : Option Nat) {f : Frame}
    (hcontent : f.content.length < 2 ^ 16) (hdata : f.typeData < 2 ^ 32) :
    checkParts provider P out
        (serializeFrameHeader f.type f.flags f.content.length f.typeData) f.content
        (putLe 4 (internalCrc32 sender f.body).toNat)
      = recvFrame P out f := by
  obtain ⟨hty, hfl, -, htd⟩ := header_fields f.type f.flags hcontent hdata
  have hcrc : getLe (putLe 4 (internalCrc32 sender f.body).toNat)
      = (internalCrc32 provider f.body).toNat := by
    rw [getLe_putLe_of_lt (by simpa using (internalCrc32 sender f.body).toNat_lt),
      hagree f.body]
  have hsame : Frame.ofParts
      (serializeFrameHeader f.type f.flags f.content.length f.typeData) f.content = f := by
    rw [Frame.ofParts, hty, hfl, htd]
  rw [checkParts, hsame, if_neg]
  exact fun hne => hne hcrc

/-- How one call on a stream that starts with `f` can end: with the frame's
interpretation and the stream behind it, or with a timeout. -/
def FrameDone (P toMs : Nat) (out : Option Nat) (f : Frame) (rest : Bytes)
    (t : Transport) (r : Except Status Packet) (t' : Transport) : Prop :=
  (r = recvFrame P out f ∧ t'.stream = rest ∧ t.SameHooks t')
  ∨ (r = .error .timeout ∧ ¬ t.Patient toMs)

/-- **One call reads exactly one frame**, however its bytes are chunked. -/
theorem recvPacket_spec {provider sender : Option CrcProvider}
    (hagree : SameCrc sender provider) (P : Nat) (out : Option Nat) (toMs : Nat) {f : Frame}
    (hcontent : f.content.length < 2 ^ 16) (hdata : f.typeData < 2 ^ 32)
    (hfit : f.content.length ≤ P - wireHeaderSize - wireTrailerSize)
    {t : Transport} (hl : t.Live) {rest : Bytes}
    (hstream : t.stream = f.bytes sender ++ rest) :
    ∃ r t', (∃ N, ∀ fuel, N ≤ fuel →
        recvPacket fuel provider P out toMs t = some (r, t'))
      ∧ FrameDone P toMs out f rest t r t' := by
  obtain ⟨-, -, hcl, -⟩ := header_fields f.type f.flags hcontent hdata
  obtain ⟨r, t', hrun, hdone⟩ :=
    recvPacket_parts provider P out toMs (serializeFrameHeader_length ..)
      (putLe_length 4 (internalCrc32 sender f.body).toNat) hcl hfit hl
      (by rw [hstream, f.bytes_parts, List.append_assoc, List.append_assoc])
  rw [checkParts_frame hagree P out hcontent hdata] at hdone
  exact ⟨r, t', hrun, hdone⟩

end ValProtocol
