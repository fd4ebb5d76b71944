/-
  ValProtocol.Files.Region
  ────────────────────────
  `val_internal_crc32_region` (`src/val_core.c` lines 414-456): the CRC of a
  window of an open file, read in chunks of the packet size.

    • `crc32Region_spec` — the result is the CRC-32 of the window at the
      position the seek reaches, whatever the chunk size and whichever
      branch computes it; a window past the end is `VAL_ERR_IO`.
    • `RegionReader.crc_exact` — so two sides with different buffers agree on
      the same bytes, and a byte past the end is an error.
    • `crc_past_end` — a window of no bytes behind the end is none.

  The position passes through `(long)start_offset`, so on a platform with a
  32-bit `long` the seek does not always reach `start_offset`
  (`crc32Region_of_lt` is the case where it does).
-/
import ValProtocol.Data.HighWater
import ValProtocol.Data.System

namespace ValProtocol

open LittleEndian (slice)

/-! ## §1. The function. -/

/-- The incremental branch: `left` bytes from `pos` on in chunks of `step`.
Every round reads at least one byte, so `left` rounds are enough. -/
def regionLoop (step : Nat) (content : Bytes) : Nat → Nat → Nat → UInt32 → Except Status UInt32
  | 0, _, _, state => .ok state
  | fuel + 1, left, pos, state =>
      if left = 0 then .ok state
      else
        let take := if left < step then left else step
        let chunk := slice pos take content
        if chunk.length ≠ take then .error .io
        else regionLoop step content fuel (left - take) (pos + take)
          (crc32UpdateState state chunk)

/-- The chunk size: the effective packet size, or the configured one when it is
0, and no more than that. -/
def regionStep (cfg : Config) (mtu : Nat) : Nat :=
  let step := if mtu ≠ 0 then mtu else cfg.packetSize
  if step > cfg.packetSize then cfg.packetSize else step

/-- `val_internal_crc32_region` on a file with this content.  The check for a
step of 0 stands in front of the cut to `packet_size` in the code, which makes
no difference where `packet_size` is not 0. -/
def crc32Region (cfg : Config) (provider : Option CrcProvider) (mtu : Nat) (content : Bytes)
    (start length : Nat) : Except Status UInt32 :=
  let step := regionStep cfg mtu
  if step = 0 then .error .invalidArg
  else
    let target := toSigned cfg.longBits start
    -- `fseek` refuses a negative position
    if target < 0 then .error .io
    else
      match provider with
      | some p =>
          if length ≤ step then
            let window := slice target.toNat length content
            if window.length ≠ length then .error .io else .ok (p 0xFFFFFFFF window)
          else
            (regionLoop step content length length target.toNat crc32InitState).map
              crc32FinalizeState
      | none =>
          (regionLoop step content length length target.toNat crc32InitState).map
            crc32FinalizeState

/-! ## §2. Independence of the chunking. -/

theorem slice_add (pos a b : Nat) (content : Bytes) :
    slice pos (a + b) content = slice pos a content ++ slice (pos + a) b content := by
  simp only [slice, List.take_add, List.drop_drop]

theorem slice_length_le (pos n : Nat) (content : Bytes) : (slice pos n content).length ≤ n := by
  simp only [slice, List.length_take]
  exact Nat.min_le_left _ _

/-- The loop reads the window or fails. -/
theorem regionLoop_spec {step : Nat} (hstep : 0 < step) (content : Bytes) :
    ∀ (fuel left pos : Nat) (state : UInt32), left ≤ fuel →
      regionLoop step content fuel left pos state
        = if (slice pos left content).length = left
          then .ok (crc32UpdateState state (slice pos left content)) else .error .io := by
  intro fuel
  induction fuel with
  | zero =>
      intro left pos state hle
      obtain rfl : left = 0 := by omega
      simp [regionLoop, slice, crc32UpdateState]
  | succ fuel ih =>
      intro left pos state hle
      unfold regionLoop
      by_cases h0 : left = 0
      · subst h0
        simp [slice, crc32UpdateState]
      · rw [if_neg h0]
        set take := if left < step then left else step with htake
        have hpos : 0 < take := by rw [htake]; split <;> omega
        have hle' : take ≤ left := by rw [htake]; split <;> omega
        have hsplit : slice pos left content
            = slice pos take content ++ slice (pos + take) (left - take) content := by
          rw [← slice_add, Nat.add_sub_cancel' hle']
        have h1 := slice_length_le pos take content
        have h2 := slice_length_le (pos + take) (left - take) content
        by_cases hc : (slice pos take content).length = take
        · -- a full chunk: the rest decides
          simp only [hc, ne_eq, not_true_eq_false, if_false]
          rw [ih _ _ _ (by omega), hsplit, List.length_append, hc, ← crc32UpdateState_append]
          by_cases hr : (slice (pos + take) (left - take) content).length = left - take
          · rw [if_pos hr, if_pos (by omega)]
          · rw [if_neg hr, if_neg (by omega)]
        · -- a short chunk: the whole window is short too
          simp only [ne_eq, hc, not_false_eq_true, if_true]
          rw [if_neg]
          rw [hsplit, List.length_append]
          omega

theorem regionStep_pos {cfg : Config} (hcfg : 0 < cfg.packetSize) (mtu : Nat) :
    0 < regionStep cfg mtu := by
  unfold regionStep
  dsimp only
  repeat' split
  all_goals omega

theorem regionStep_eq_zero {cfg : Config} {mtu : Nat} : regionStep cfg mtu = 0 ↔
    cfg.packetSize = 0 := by
  unfold regionStep
  dsimp only
  repeat' split
  all_goals omega

/-- **The region CRC**: chunk size and provider do not matter. -/
theorem crc32Region_spec {cfg : Config} {provider : Option CrcProvider}
    (hp : StandardProvider provider) (mtu : Nat) (hcfg : 0 < cfg.packetSize)
    (content : Bytes) (start length : Nat) :
    crc32Region cfg provider mtu content start length
      = if toSigned cfg.longBits start < 0 then .error .io
        else
          let window := slice (toSigned cfg.longBits start).toNat length content
          if window.length = length then .ok (crc32 window) else .error .io := by
  unfold crc32Region
  have hstep := regionStep_pos hcfg mtu
  generalize regionStep cfg mtu = step at hstep
  rw [if_neg (by omega)]
  by_cases hneg : toSigned cfg.longBits start < 0
  · simp only [hneg, if_true]
  · simp only [hneg, if_false]
    generalize (toSigned cfg.longBits start).toNat = pos
    -- both incremental branches
    have hloop : (regionLoop step content length length pos crc32InitState).map
        crc32FinalizeState
        = if (slice pos length content).length = length
          then .ok (crc32 (slice pos length content)) else .error .io := by
      rw [regionLoop_spec hstep content length length pos _ (Nat.le_refl _)]
      split
      · rfl
      · rfl
    cases provider with
    | none => exact hloop
    | some p =>
        by_cases hone : length ≤ step
        · simp only [hone, if_true, hp p rfl]
          by_cases hl : (slice pos length content).length = length
          · simp only [hl, ne_eq, not_true_eq_false, if_false, if_true]
          · simp only [hl, ne_eq, not_false_eq_true, if_true, if_false]
        · simp only [hone, if_false, hloop]

/-! ## §3. Errors, and the seek that lands. -/

theorem regionLoop_error {step : Nat} {content : Bytes} {st : Status} :
    ∀ (fuel left pos : Nat) (state : UInt32),
      regionLoop step content fuel left pos state = .error st → st = .io := by
  intro fuel
  induction fuel with
  | zero =>
      intro left pos state h
      cases h
  | succ fuel ih =>
      intro left pos state h
      unfold regionLoop at h
      dsimp only at h
      generalize (if left < step then left else step) = take at h
      split at h
      · cases h
      · split at h
        · cases h
          rfl
        · exact ih _ _ _ h

/-- Without a packet size there is no buffer to read into; otherwise only the
file can fail. -/
theorem crc32Region_error {cfg : Config} {provider : Option CrcProvider} {mtu : Nat}
    {content : Bytes} {start length : Nat} {st : Status}
    (h : crc32Region cfg provider mtu content start length = .error st) :
    st = .invalidArg ∧ cfg.packetSize = 0 ∨ st = .io := by
  have hmap : ∀ {r : Except Status UInt32}, r.map crc32FinalizeState = .error st →
      r = .error st := by
    intro r h
    cases r with
    | error e => simpa [Except.map] using h
    | ok c => cases h
  simp only [crc32Region] at h
  have hstep : regionStep cfg mtu = 0 → cfg.packetSize = 0 := regionStep_eq_zero.mp
  generalize regionStep cfg mtu = step at h hstep
  split at h
  · rename_i hzero
    cases h
    exact Or.inl ⟨rfl, hstep hzero⟩
  split at h
  · cases h
    exact Or.inr rfl
  split at h
  · split at h
    · split at h
      · cases h
        exact Or.inr rfl
      · cases h
    · exact Or.inr (regionLoop_error _ _ _ _ (hmap h))
  · exact Or.inr (regionLoop_error _ _ _ _ (hmap h))

/-- The seek reaches `start` when `start` survives the cast. -/
theorem crc32Region_of_lt {cfg : Config} {provider : Option CrcProvider}
    (hp : StandardProvider provider) (mtu : Nat) (hcfg : 0 < cfg.packetSize)
    {content : Bytes} {start length : Nat} (hstart : toSigned cfg.longBits start = start)
    (hwin : start + length ≤ content.length) :
    crc32Region cfg provider mtu content start length
      = .ok (crc32 (slice start length content)) := by
  have hlen : (slice start length content).length = length := by
    simp only [slice, List.length_take, List.length_drop]
    omega
  -- the cast keeps `start`, so the seek is not refused
  have hnn : ¬ ((start : Int) < 0) := by omega
  rw [crc32Region_spec hp mtu hcfg, hstart]
  simp only [hnn, if_false, Int.toNat_natCast, hlen, if_true]

/-- A position that `(long)` leaves alone, or makes negative so that the seek
is refused. -/
def SeekLands (bits start : Nat) : Prop := 0 ≤ toSigned bits start → toSigned bits start = start

instance (bits start : Nat) : Decidable (SeekLands bits start) := by
  unfold SeekLands
  infer_instance

/-- A CRC that is reported is the one of the window. -/
theorem crc32Region_window {cfg : Config} {provider : Option CrcProvider}
    (hp : StandardProvider provider) {mtu : Nat} {content : Bytes} {start length : Nat}
    (hland : SeekLands cfg.longBits start) {crc : UInt32}
    (h : crc32Region cfg provider mtu content start length = .ok crc) :
    crc = crc32 (slice start length content) := by
  have hcfg : 0 < cfg.packetSize := by
    apply Nat.pos_of_ne_zero
    intro h0
    simp only [crc32Region, regionStep_eq_zero.mpr h0, if_true] at h
    cases h
  rw [crc32Region_spec hp mtu hcfg] at h
  split at h
  · cases h
  · rename_i hneg
    rw [hland (by omega), Int.toNat_natCast] at h
    dsimp only at h
    split at h
    · cases h
      rfl
    · cases h

/-! ## §4. Two sides. -/

/-- What decides how a side reads a region: its configuration, its
`crc32_provider` and its effective packet size. -/
structure RegionReader where
  cfg : Config
  provider : Option CrcProvider
  mtu : Nat

/-- A side of an open session with a 64-bit `long` and a provider that keeps
its contract. -/
structure RegionReader.Plain (r : RegionReader) : Prop where
  packetSize_pos : 0 < r.cfg.packetSize
  long_eq : r.cfg.longBits = 64
  provider_std : StandardProvider r.provider

/-- `val_internal_crc32_region` as this side runs it. -/
def RegionReader.crc (r : RegionReader) (content : Bytes) (start length : Nat) :
    Except Status UInt32 :=
  crc32Region r.cfg r.provider r.mtu content start length

namespace RegionReader

variable {r r' : RegionReader} {content content' : Bytes} {start start' length : Nat}

/-- A window inside the file. -/
theorem crc_within (hr : r.Plain) (hsize : content.length < 2 ^ 63)
    (hwin : start + length ≤ content.length) :
    r.crc content start length = .ok (crc32 (slice start length content)) := by
  apply crc32Region_of_lt hr.provider_std r.mtu hr.packetSize_pos ?_ hwin
  rw [hr.long_eq]
  exact toSigned_of_lt (by omega)

/-- A window with a byte past the end. -/
theorem crc_beyond (hr : r.Plain) (hstart : start < 2 ^ 64) (hlen : 0 < length)
    (hwin : content.length < start + length) :
    r.crc content start length = .error .io := by
  show crc32Region r.cfg r.provider r.mtu content start length = _
  rw [crc32Region_spec hr.provider_std r.mtu hr.packetSize_pos, hr.long_eq]
  by_cases hneg : toSigned 64 start < 0
  · rw [if_pos hneg]
  · -- the cast keeps the position, and the read comes up short
    have hlt : start < 2 ^ 63 := by
      simp only [toSigned, Int.bmod_def] at hneg
      omega
    have hshort : (slice start length content).length ≠ length := by
      simp only [slice, List.length_take, List.length_drop]
      omega
    rw [if_neg hneg, toSigned_of_lt hlt, Int.toNat_natCast]
    simp only [hshort, if_false]

/-- Two sides on the same bytes, each in its own file. -/
theorem crc_agree (hr : r.Plain) (hr' : r'.Plain) (hsize : content.length < 2 ^ 63)
    (hsize' : content'.length < 2 ^ 63) (hwin : start + length ≤ content.length)
    (hwin' : start' + length ≤ content'.length)
    (hsame : slice start' length content' = slice start length content) :
    r'.crc content' start' length = r.crc content start length := by
  rw [crc_within hr hsize hwin, crc_within hr' hsize' hwin', hsame]

/-- **The region CRC is the CRC of the region**, for every buffer, provider and
effective packet size; a region with a byte past the end of the file has none. -/
theorem crc_exact (hr : r.Plain) (hsize : content.length < 2 ^ 63) :
    (∀ start length, start + length ≤ content.length →
      r.crc content start length = .ok (crc32 (slice start length content)))
    ∧ (∀ start length, start < 2 ^ 64 → 0 < length → content.length < start + length →
      r.crc content start length = .error .io)
    ∧ ∀ r' : RegionReader, r'.Plain → ∀ content' start start' length, content'.length < 2 ^ 63 →
      start + length ≤ content.length → start' + length ≤ content'.length →
      slice start' length content' = slice start length content →
      r'.crc content' start' length = r.crc content start length := by
  refine ⟨?_, ?_, ?_⟩
  · intro start length hwin
    exact crc_within hr hsize hwin
  · intro start length hstart hlen hwin
    exact crc_beyond hr hstart hlen hwin
  · intro r' hr' content' start start' length hsize' hwin hwin' hsame
    exact crc_agree hr hr' hsize hsize' hwin hwin' hsame

/-- A side without a provider, before a packet size is agreed. -/
def software : RegionReader := ⟨quickDegrade, none, 0⟩

/-- A side that leaves the CRC to its hardware and reads a byte at a time. -/
def hardware : RegionReader := ⟨quickDegrade, some (fun _ d => crc32 d), 1⟩

theorem software_plain : software.Plain where
  packetSize_pos := by decide
  long_eq := rfl
  provider_std := standardProvider_none

theorem hardware_plain : hardware.Plain where
  packetSize_pos := by decide
  long_eq := rfl
  provider_std := by
    intro p hp d
    cases hp
    rfl

theorem crc_exact_small :
    software.crc [1, 2, 3] 1 2 = .ok (crc32 [2, 3])
    ∧ software.crc [1, 2, 3] 2 2 = .error .io
    ∧ hardware.crc [2, 3] 0 2 = software.crc [1, 2, 3] 1 2 := by
  have h := crc_exact software_plain (show [1, 2, 3].length < 2 ^ 63 by decide)
  exact ⟨h.1 1 2 (by decide), h.2.1 2 2 (by decide) (by decide) (by decide),
    h.2.2 hardware hardware_plain [2, 3] 1 0 2 (by decide) (by decide) (by decide) rfl⟩

end RegionReader

/-- **No bytes behind the end**: the seek succeeds, nothing is read, and the CRC
of no bytes is reported. -/
theorem crc_past_end :
    ¬ ∀ (r : RegionReader) (content : Bytes) (start length : Nat), r.Plain →
      content.length < start + length → r.crc content start length = .error .io := by
  intro h
  have hio := h RegionReader.software [] 1 0 RegionReader.software_plain (by decide)
  have hok : RegionReader.software.crc [] 1 0 = .ok 0 := by
    show crc32Region quickDegrade none 0 [] 1 0 = .ok 0
    rfl
  rw [hok] at hio
  cases hio

end ValProtocol
