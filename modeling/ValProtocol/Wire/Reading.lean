/-
  ValProtocol.Wire.Reading
  ────────────────────────
  The part of `val_internal_recv_packet` that every wait shares: header,
  content and trailer are taken from the stream and their CRC is checked
  (`src/val_core.c` lines 880-974), before the caller's buffer plays a role.

    • `recvPacket_eq_readFrame` — the call is this part and then `recvFrame`,
    • `readFrame_framed` — in front of well-formed frames, a call whose hook
      does not fail and that tears no frame takes the first frame or nothing.
      It reports no CRC error, no length error and no I/O error.
-/
import ValProtocol.Wire.Timeouts

namespace ValProtocol

open LittleEndian

/-! ## §1. One frame off the stream. -/

/-- `val_internal_recv_packet` up to the CRC check. -/
def readFrame (fuel : Nat) (provider : Option CrcProvider) (P toMs : Nat) (t : Transport) :
    Option (Except Status Frame × Transport) :=
  match recvFull fuel wireHeaderSize toMs t with
  | none => none
  | some (.error st, t) => some (.error st, t)
  | some (.ok header, t) =>
      if getLe (slice 2 2 header) > P - wireHeaderSize - wireTrailerSize then
        some (.error .protocol, t)
      else
        match recvContent fuel (getLe (slice 2 2 header)) toMs t with
        | none => none
        | some (.error st, t) => some (.error st, t)
        | some (.ok content, t) =>
            match recvFull fuel wireTrailerSize toMs t with
            | none => none
            | some (.error st, t) => some (.error st, t)
            | some (.ok trailer, t) =>
                if getLe trailer ≠ (internalCrc32 provider (header ++ content)).toNat then
                  some (.error .crc, t)
                else some (.ok (.ofParts header content), t)

/-- **The call is the read and then the interpretation of the frame.** -/
theorem recvPacket_eq_readFrame (fuel : Nat) (provider : Option CrcProvider) (P : Nat)
    (out : Option Nat) (toMs : Nat) (t : Transport) :
    recvPacket fuel provider P out toMs t
      = (readFrame fuel provider P toMs t).map fun r => (r.1.bind (recvFrame P out), r.2) := by
  unfold recvPacket readFrame recvContent
  dsimp only
  cases hheader : recvFull fuel wireHeaderSize toMs t with
  | none => rfl
  | some r₁ =>
      obtain ⟨header | header, t₁⟩ := r₁
      · rfl
      · by_cases hlen : getLe (slice 2 2 header) > P - wireHeaderSize - wireTrailerSize
        · simp only [hlen, if_true]
          rfl
        · simp only [hlen, if_false]
          generalize (if getLe (slice 2 2 header) > 0
            then recvFull fuel (getLe (slice 2 2 header)) toMs t₁ else some (.ok [], t₁)) = read
          obtain _ | ⟨content | content, t₂⟩ := read
          · rfl
          · rfl
          · dsimp only
            cases htrailer : recvFull fuel wireTrailerSize toMs t₂ with
            | none => rfl
            | some r₃ =>
                obtain ⟨trailer | trailer, t₃⟩ := r₃
                · rfl
                · dsimp only
                  split <;> rfl

/-! ## §2. A hook that does not fail. -/

/-- The hook's return value is never negative. -/
def Transport.Sound (t : Transport) : Prop := ∀ i, t.chunk i ≠ none

/-- The loop reports no I/O error, and the hook stays the same. -/
theorem recvLoop_sound {start need toMs fuel : Nat} {got : Bytes} {t t' : Transport}
    {r : Except Status Bytes} (hsound : t.Sound)
    (h : recvLoop start need toMs fuel got t = some (r, t')) :
    t'.Sound ∧ ((∃ bs, r = .ok bs) ∨ r = .error .timeout) := by
  induction fuel generalizing got t with
  | zero => cases h
  | succ fuel ih =>
      by_cases hfull : need ≤ got.length
      · rw [recvLoop_full hfull] at h
        cases h
        exact ⟨hsound, Or.inl ⟨got, rfl⟩⟩
      · obtain ⟨k, hk⟩ := Option.ne_none_iff_exists'.mp (hsound t.calls)
        obtain ⟨t₁, hsame, -, -, hres⟩ :=
          recvLoop_round start toMs (show got.length < need by omega) hk
        have hsound₁ : t₁.Sound := by
          intro i
          rw [hsame.1]
          exact hsound i
        rcases hres with hto | hgo
        · rw [hto fuel] at h
          cases h
          exact ⟨hsound₁, Or.inr rfl⟩
        · rw [hgo fuel] at h
          split at h
          · cases h
            exact ⟨hsound₁, Or.inl ⟨_, rfl⟩⟩
          · exact ih hsound₁ h

theorem recvFull_sound {need toMs fuel : Nat} {t t' : Transport} {r : Except Status Bytes}
    (hsound : t.Sound) (h : recvFull fuel need toMs t = some (r, t')) :
    t'.Sound ∧ ((∃ bs, r = .ok bs) ∨ r = .error .timeout) := by
  have hticks : (t.ticks).2.Sound := hsound
  exact recvLoop_sound hticks h

theorem recvContent_sound {contentLen toMs fuel : Nat} {t t' : Transport}
    {r : Except Status Bytes} (hsound : t.Sound)
    (h : recvContent fuel contentLen toMs t = some (r, t')) :
    t'.Sound ∧ ((∃ bs, r = .ok bs) ∨ r = .error .timeout) := by
  unfold recvContent at h
  split at h
  · exact recvFull_sound hsound h
  · cases h
    exact ⟨hsound, Or.inl ⟨[], rfl⟩⟩

/-! ## §3. In front of frames. -/

/-- What a read that has not timed out took from the stream. -/
inductive ReadParts (provider : Option CrcProvider) (P : Nat) (t : Transport) :
    Except Status Frame → Transport → Prop where
  /-- the header announces more than the packet size allows -/
  | long {header : Bytes} {t' : Transport} (hstream : t.stream = header ++ t'.stream)
      (hheader : header.length = wireHeaderSize)
      (hlen : getLe (slice 2 2 header) > P - wireHeaderSize - wireTrailerSize) :
      ReadParts provider P t (.error .protocol) t'
  /-- three parts that belong together -/
  | parts {header content trailer : Bytes} {t' : Transport} {r : Except Status Frame}
      (hstream : t.stream = header ++ (content ++ (trailer ++ t'.stream)))
      (hheader : header.length = wireHeaderSize)
      (hcontent : content.length = getLe (slice 2 2 header))
      (htrailer : trailer.length = wireTrailerSize)
      (hr : r = if getLe trailer ≠ (internalCrc32 provider (header ++ content)).toNat
        then .error .crc else .ok (.ofParts header content)) : ReadParts provider P t r t'

/-- **Inversion of a read** behind a hook that does not fail. -/
theorem readFrame_inv {fuel : Nat} {provider : Option CrcProvider} {P toMs : Nat}
    {t t' : Transport} {r : Except Status Frame} (hsound : t.Sound)
    (h : readFrame fuel provider P toMs t = some (r, t')) :
    r = .error .timeout ∨ ReadParts provider P t r t' := by
  unfold readFrame at h
  split at h
  · cases h
  · rename_i st t₁ hheader
    cases h
    rcases (recvFull_sound hsound hheader).2 with ⟨bs, hbs⟩ | hst
    · cases hbs
    · cases hst
      exact Or.inl rfl
  rename_i header t₁ hheader
  obtain ⟨hs₁, hl₁⟩ := recvFull_ok hheader
  have hsound₁ := (recvFull_sound hsound hheader).1
  split at h
  · rename_i hlong
    cases h
    exact Or.inr (.long hs₁ hl₁ hlong)
  split at h
  · cases h
  · rename_i st t₂ hcontent
    cases h
    rcases (recvContent_sound hsound₁ hcontent).2 with ⟨bs, hbs⟩ | hst
    · cases hbs
    · cases hst
      exact Or.inl rfl
  rename_i content t₂ hcontent
  obtain ⟨hs₂, hl₂⟩ := recvContent_ok hcontent
  have hsound₂ := (recvContent_sound hsound₁ hcontent).1
  split at h
  · cases h
  · rename_i st t₃ htrailer
    cases h
    rcases (recvFull_sound hsound₂ htrailer).2 with ⟨bs, hbs⟩ | hst
    · cases hbs
    · cases hst
      exact Or.inl rfl
  rename_i trailer t₃ htrailer
  obtain ⟨hs₃, hl₃⟩ := recvFull_ok htrailer
  have hstream : t.stream = header ++ (content ++ (trailer ++ t₃.stream)) := by
    rw [hs₁, hs₂, hs₃]
  right
  split at h
  · rename_i hcrc
    cases h
    exact .parts hstream hl₁ hl₂ hl₃ (by rw [if_pos hcrc])
  · rename_i hcrc
    cases h
    exact .parts hstream hl₁ hl₂ hl₃ (by rw [if_neg hcrc])

/-- A read that times out outside a frame takes nothing. -/
theorem readFrame_timeout {fuel : Nat} {provider : Option CrcProvider} {P toMs : Nat}
    {t t' : Transport} (hkeep : t.tearsFrame ⟨none, toMs, fuel⟩ = false)
    (h : readFrame fuel provider P toMs t = some (.error .timeout, t')) :
    t'.stream = t.stream := by
  refine @recvPacket_timeout provider P _ _ _ hkeep ?_
  rw [recvPacket_eq_readFrame, h]
  rfl

/-- The header of a frame announces the frame's content. -/
theorem header_of_frame {sender : Option CrcProvider} {P : Nat} {f : Frame}
    (hf : f.WellFormed P) {header rest rest' : Bytes} (hheader : header.length = wireHeaderSize)
    (h : f.bytes sender ++ rest = header ++ rest') :
    getLe (slice 2 2 header) = f.content.length := by
  obtain ⟨-, -, hcl, -⟩ := header_fields f.type f.flags hf.content_lt hf.typeData_lt
  rw [f.bytes_parts, List.append_assoc, List.append_assoc] at h
  obtain ⟨rfl, -⟩ := List.append_inj h (by rw [hheader, serializeFrameHeader_length]; rfl)
  exact hcl

/-- A read in front of a frame that does not time out takes this frame. -/
theorem ReadParts.first {sender provider : Option CrcProvider} (hagree : SameCrc sender provider)
    {P : Nat} {f : Frame} (hf : f.WellFormed P) {t t' : Transport} {r : Except Status Frame}
    (h : ReadParts provider P t r t') {rest : Bytes} (hstream : t.stream = f.bytes sender ++ rest) :
    r = .ok f ∧ t'.stream = rest := by
  cases h with
  | long hst hheader hlen =>
      rw [hstream] at hst
      rw [header_of_frame hf hheader hst] at hlen
      have := hf.fits
      omega
  | parts hst hheader hcontent htrailer hr =>
      rw [hstream] at hst
      obtain ⟨rfl, rfl, rfl, hrest⟩ := parts_eq hf hheader hcontent htrailer hst
      obtain ⟨hty, hfl, -, htd⟩ := header_fields f.type f.flags hf.content_lt hf.typeData_lt
      have hsame : Frame.ofParts
          (serializeFrameHeader f.type f.flags f.content.length f.typeData) f.content = f := by
        rw [Frame.ofParts, hty, hfl, htd]
      have hcrc : getLe (putLe 4 (internalCrc32 sender f.body).toNat)
          = (internalCrc32 provider f.body).toNat := by
        rw [getLe_putLe_of_lt (by simpa using (internalCrc32 sender f.body).toNat_lt), hagree]
      refine ⟨?_, hrest.symm⟩
      rw [hr, hsame, if_neg]
      exact fun hne => hne hcrc

/-- An empty stream holds no header. -/
theorem ReadParts.not_empty {provider : Option CrcProvider} {P : Nat} {t t' : Transport}
    {r : Except Status Frame} (h : ReadParts provider P t r t') : t.stream ≠ [] := by
  -- both cases have taken the eight bytes of a header
  have hshort : ∀ {header rest : Bytes}, header.length = wireHeaderSize →
      t.stream = header ++ rest → t.stream ≠ [] := by
    intro header rest hheader hst hnil
    rw [hst] at hnil
    have hlen := congrArg List.length hnil
    simp only [List.length_append, List.length_nil, hheader, wireHeaderSize] at hlen
    omega
  cases h with
  | long hst hheader => exact hshort hheader hst
  | parts hst hheader => exact hshort hheader hst

/-- **A call in front of frames** takes the first one, or nothing. -/
theorem readFrame_framed {sender provider : Option CrcProvider} (hagree : SameCrc sender provider)
    {P fuel toMs : Nat} {todo : List Frame} (htodo : ∀ f ∈ todo, f.WellFormed P)
    {t t' : Transport} (hstream : t.stream = todo.flatMap (Frame.bytes sender))
    (hsound : t.Sound) (hkeep : t.tearsFrame ⟨none, toMs, fuel⟩ = false)
    {r : Except Status Frame} (h : readFrame fuel provider P toMs t = some (r, t')) :
    (r = .error .timeout ∧ t'.stream = t.stream)
    ∨ ∃ f rest, todo = f :: rest ∧ r = .ok f ∧ t'.stream = rest.flatMap (Frame.bytes sender) := by
  rcases readFrame_inv hsound h with rfl | hparts
  · exact Or.inl ⟨rfl, readFrame_timeout hkeep h⟩
  right
  cases todo with
  | nil => exact absurd hstream hparts.not_empty
  | cons f rest =>
      rw [List.flatMap_cons] at hstream
      exact ⟨f, rest, rfl, hparts.first hagree (htodo f (List.mem_cons_self ..)) hstream⟩

/-! ## §4. A frame can be read. -/

/-- **With enough time and rounds the next frame is read**, whatever the
chunks. -/
theorem readFrame_live {sender provider : Option CrcProvider} (hagree : SameCrc sender provider)
    {P toMs : Nat} {f : Frame} (hf : f.WellFormed P) {t : Transport} (hl : t.Live)
    (hpatient : t.Patient toMs) {rest : Bytes} (hstream : t.stream = f.bytes sender ++ rest) :
    ∃ fuel t', readFrame fuel provider P toMs t = some (.ok f, t') ∧ t'.stream = rest := by
  obtain ⟨r, t', ⟨N, hrun⟩, hdone⟩ := recvPacket_spec hagree P none toMs hf.content_lt
    hf.typeData_lt hf.fits hl hstream
  have hN := hrun N (Nat.le_refl N)
  rw [recvPacket_eq_readFrame] at hN
  obtain ⟨⟨r₁, t₁⟩, hread, heq⟩ := Option.map_eq_some_iff.mp hN
  rcases hdone with ⟨hr, -, -⟩ | ⟨-, hlate⟩
  · rcases readFrame_inv hl.noError hread with rfl | hparts
    · -- a frame that is there is no timeout
      have hto : recvFrame P none f = .error .timeout := by
        rw [← hr]
        exact (congrArg Prod.fst heq).symm
      exact absurd hto (recvFrame_ne_timeout P none f)
    · obtain ⟨rfl, hst⟩ := hparts.first hagree hf hstream
      exact ⟨N, t₁, hread, hst⟩
  · exact absurd hpatient hlate

/-- A call that has read its frame has torn none. -/
theorem readFrame_ok_tearsFrame {fuel : Nat} {provider : Option CrcProvider} {P toMs : Nat}
    {t t' : Transport} {f : Frame} (h : readFrame fuel provider P toMs t = some (.ok f, t')) :
    t.tearsFrame ⟨none, toMs, fuel⟩ = false := by
  unfold readFrame at h
  unfold Transport.tearsFrame
  dsimp only
  split at h
  · cases h
  · cases h
  rename_i header t₁ hheader
  rw [hheader]
  dsimp only
  split at h
  · cases h
  split at h
  · cases h
  · cases h
  rename_i content t₂ hcontent
  rw [hcontent]
  dsimp only
  split at h
  · cases h
  · cases h
  rename_i trailer t₃ htrailer
  rw [htrailer]

end ValProtocol
