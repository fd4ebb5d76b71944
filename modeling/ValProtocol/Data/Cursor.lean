/-
  ValProtocol.Data.Cursor
  ───────────────────────
  Where `send_data_packet` reads (`src/val_sender.c` lines 258-315).

  Three numbers have to agree whenever it calls `fread`: the position of the
  file handle, the cursor the code keeps of it, and `*next_to_send`.  The
  position is moved by the resume seek, by each read, by the rewind of a
  timeout (through `int64_t`) and by the rewind of a NAK (through `long`).

    • `cursor_right_iff` — over every run of the data phase against any peer
      they agree exactly when every NAK that makes the sender seek names a
      position that a `long` can hold,
    • `cursor_lost`      — a NAK beyond 2 GiB where a `long` has 32 bits.
-/
import ValProtocol.Data.HighWater
import ValProtocol.Data.System

namespace ValProtocol

/-! ## §1. The sender alone against any peer. -/

/-- What one round of `wait_for_window_ack` ends with. -/
inductive WaitInput where
  | frame (f : Frame)
  | timeout
  deriving Repr, DecidableEq

/-- What the sender does then. -/
def WaitInput.move (cfg : Config) (io : SendFile) (d : SendData) : WaitInput → Move
  | .frame f => onAckFrame cfg io d f
  | .timeout => onAckTimeout cfg d

/-- The three numbers as an `fread` finds them. -/
structure FreadAt where
  /-- the position of the file handle -/
  pos : Nat
  /-- `io_ctx.file_cursor` -/
  cursor : Nat
  /-- `*next_to_send` -/
  next : Nat
  deriving Repr, DecidableEq

/-- `to_read`. -/
def SendFile.toRead (io : SendFile) (d : SendData) (includeOffset : Bool) : Nat :=
  let remaining := io.size - d.nextToSend
  let maxThis := if includeOffset then io.maxPayload - 8 else io.maxPayload
  if remaining < maxThis then remaining else maxThis

/-- The `fread` of one `send_data_packet`, when it comes to it. -/
def freadAt (io : SendFile) (d : SendData) (includeOffset : Bool) : Option FreadAt :=
  if io.maxPayload = 0 then none
  else if d.nextToSend ≥ io.size then none
  else if includeOffset ∧ io.maxPayload ≤ 8 then none
  else if io.toRead d includeOffset = 0 then none
  else
    some ⟨d.readPos, if d.fileCursor ≠ d.nextToSend then d.nextToSend else d.fileCursor,
      d.nextToSend⟩

/-- The reads of a fill loop. -/
def fillReads (io : SendFile) : Nat → SendData → List FreadAt
  | 0, _ => []
  | fuel + 1, d =>
      if d.inflight < d.win ∧ d.nextToSend < io.size then
        (freadAt io d (d.nextToSend == d.lastAcked)).toList ++
          match sendDataPacket io d (d.nextToSend == d.lastAcked) with
          | .error _ => []
          | .ok (d', _) => fillReads io fuel d'
      else []

/-- One round of the fill loop. -/
theorem fillReads_succ (io : SendFile) (fuel : Nat) (d : SendData) :
    fillReads io (fuel + 1) d
      = if d.inflight < d.win ∧ d.nextToSend < io.size then
          (freadAt io d (d.nextToSend == d.lastAcked)).toList ++
            match sendDataPacket io d (d.nextToSend == d.lastAcked) with
            | .error _ => []
            | .ok (d', _) => fillReads io fuel d'
        else [] := rfl

/-- The reads of a move. -/
def Move.reads (io : SendFile) : Move → List FreadAt
  | .fill d => fillReads io d.win d
  | _ => []

/-- The reads of a run. -/
def runReads (cfg : Config) (io : SendFile) : List WaitInput → Move → List FreadAt
  | [], m => m.reads io
  | i :: is, m =>
      m.reads io ++
        match (m.run io).2 with
        | .wait d => runReads cfg io is (i.move cfg io d)
        | _ => []

/-- The packets of a run. -/
def runSends (cfg : Config) (io : SendFile) : List WaitInput → Move → List Send
  | [], m => (m.run io).1
  | i :: is, m =>
      (m.run io).1 ++
        match (m.run io).2 with
        | .wait d => runSends cfg io is (i.move cfg io d)
        | _ => []

/-- **The cursor is right**: every read is at `*next_to_send`, and every DATA
packet carries the file's bytes at its offset. -/
structure CursorRight (cfg : Config) (io : SendFile) (is : List WaitInput) (m : Move) : Prop where
  reads : ∀ r ∈ runReads cfg io is m, r.pos = r.next ∧ r.cursor = r.next
  sends : ∀ p ∈ runSends cfg io is m,
    p.payload = (io.content.drop p.offset).take p.payload.length

/-- Where a NAK at `off` makes the sender go back to. -/
def nakMark (io : SendFile) (d : SendData) (off : Nat) : Nat :=
  if off > d.lastAcked ∧ off ≤ io.size then off else d.lastAcked

/-- A NAK finds its mark: a `long` holds it, or the handle stands there
already, or there is nothing behind it to read. -/
def WaitInput.finds (cfg : Config) (io : SendFile) (d : SendData) : WaitInput → Bool
  | .timeout => true
  | .frame f =>
      match recvControl io.mtu 32 f with
      | .error _ => true
      | .ok p =>
          p.type != .dataNak
            || decide (toSigned cfg.longBits (nakMark io d p.off) = nakMark io d p.off
              ∨ d.pos = nakMark io d p.off ∨ io.size ≤ nakMark io d p.off)

/-- Every NAK of the run finds its mark. -/
def naksFind (cfg : Config) (io : SendFile) : List WaitInput → Move → Bool
  | [], _ => true
  | i :: is, m =>
      match (m.run io).2 with
      | .wait d => i.finds cfg io d && naksFind cfg io is (i.move cfg io d)
      | _ => true

/-! ## §2. The handle between two waits. -/

/-- The handle stands where the next packet begins; at the end of the file it
does not matter. -/
structure Aligned (io : SendFile) (d : SendData) : Prop where
  cursor_eq : d.fileCursor = d.nextToSend
  pos_eq : d.pos = d.nextToSend ∨ io.size ≤ d.nextToSend
  next_le : d.nextToSend ≤ io.size
  acked_le : d.lastAcked ≤ io.size

/-- A waiting sender expects nothing beyond the file. -/
structure WaitAligned (io : SendFile) (d : SendData) : Prop extends Aligned io d where
  target_le : d.targetAck ≤ io.size

inductive MoveAligned (io : SendFile) : Move → Prop where
  | stay {d : SendData} : WaitAligned io d → MoveAligned io (.stay d)
  | fill {d : SendData} : Aligned io d → MoveAligned io (.fill d)
  | finish (flow : Flow) : MoveAligned io (.finish flow)
  | stop (st : Status) : MoveAligned io (.stop st)

section Fill

variable {io : SendFile} {d : SendData}

theorem Aligned.readPos_eq (h : Aligned io d) (hlt : d.nextToSend < io.size) :
    d.readPos = d.nextToSend := by
  have hpos : d.pos = d.nextToSend := by
    rcases h.pos_eq with hpos | hend
    · exact hpos
    · omega
  unfold SendData.readPos
  rw [if_neg (by rw [h.cursor_eq]; exact fun hne => hne rfl), hpos]

/-- A read finds the cursor at `*next_to_send`, and the handle where the
position was moved to. -/
theorem freadAt_eq {b : Bool} {r : FreadAt} (h : freadAt io d b = some r) :
    d.nextToSend < io.size ∧ r = ⟨d.readPos, d.nextToSend, d.nextToSend⟩ := by
  unfold freadAt at h
  split at h
  · cases h
  split at h
  · cases h
  rename_i hlt
  split at h
  · cases h
  split at h
  · cases h
  · cases h
    refine ⟨by omega, ?_⟩
    have hcur : (if d.fileCursor ≠ d.nextToSend then d.nextToSend else d.fileCursor)
        = d.nextToSend := by
      by_cases hne : d.fileCursor = d.nextToSend
      · rw [if_neg (fun h => h hne), hne]
      · rw [if_pos hne]
    rw [hcur]

/-- With room for more than an offset, a fill reads. -/
theorem freadAt_some (b : Bool) (hmax : 8 < io.maxPayload) (hlt : d.nextToSend < io.size) :
    freadAt io d b = some ⟨d.readPos, d.nextToSend, d.nextToSend⟩ := by
  cases hr : freadAt io d b with
  | some r => rw [(freadAt_eq hr).2]
  | none =>
      exfalso
      unfold freadAt at hr
      have hread : io.toRead d b ≠ 0 := by
        unfold SendFile.toRead
        cases b
        all_goals
          simp only [if_true, Bool.false_eq_true, if_false]
          split <;> omega
      rw [if_neg (by omega), if_neg (by omega), if_neg (by omega), if_neg hread] at hr
      cases hr

/-- **The fill loop** keeps the handle aligned, and reads and sends what it
should. -/
theorem Aligned.fillLoop (fuel : Nat) (h : Aligned io d) :
    Aligned io (fillLoop io fuel d).1
      ∧ (∀ r ∈ fillReads io fuel d, r.pos = r.next ∧ r.cursor = r.next)
      ∧ ∀ p ∈ (ValProtocol.fillLoop io fuel d).2.1,
          p.payload = (io.content.drop p.offset).take p.payload.length := by
  induction fuel generalizing d with
  | zero =>
      exact ⟨h, fun r hr => absurd hr List.not_mem_nil, fun p hp => absurd hp List.not_mem_nil⟩
  | succ fuel ih =>
      rw [fillReads_succ, fillLoop_succ]
      by_cases hgo : d.inflight < d.win ∧ d.nextToSend < io.size
      · have hread := h.readPos_eq hgo.2
        have hhere : ∀ r ∈ (freadAt io d (d.nextToSend == d.lastAcked)).toList,
            r.pos = r.next ∧ r.cursor = r.next := by
          intro r hr
          rw [Option.mem_toList] at hr
          rw [(freadAt_eq hr).2]
          exact ⟨hread, rfl⟩
        rw [if_pos hgo, if_pos hgo]
        cases hp : sendDataPacket io d (d.nextToSend == d.lastAcked) with
        | error st =>
            dsimp only
            rw [List.append_nil]
            exact ⟨h, hhere, fun p hp => absurd hp List.not_mem_nil⟩
        | ok r =>
            obtain ⟨d', sent⟩ := r
            dsimp only
            rcases sendDataPacket_cases hp with ⟨rfl, rfl⟩ | ⟨n, -, hle, -, hlen, rfl, rfl⟩
            · obtain ⟨h1, h2, h3⟩ := ih h
              exact ⟨h1, List.forall_mem_append.mpr ⟨hhere, h2⟩, h3⟩
            · -- one packet further
              have hnext : Aligned io (d.sent n) :=
                ⟨rfl, Or.inl (by show d.readPos + n = d.nextToSend + n; rw [hread]), hle,
                  h.acked_le⟩
              obtain ⟨h1, h2, h3⟩ := ih hnext
              refine ⟨h1, List.forall_mem_append.mpr ⟨hhere, h2⟩, ?_⟩
              intro p hp
              rcases List.mem_cons.mp hp with rfl | hp
              · show (io.content.drop d.readPos).take n = _
                rw [hlen, hread]
              · exact h3 p hp
      · rw [if_neg hgo, if_neg hgo]
        exact ⟨h, fun r hr => absurd hr List.not_mem_nil, fun p hp => absurd hp List.not_mem_nil⟩

/-- Carrying out a move. -/
theorem MoveAligned.run {m : Move} (h : MoveAligned io m) :
    (∀ d, (m.run io).2 = .wait d → WaitAligned io d)
      ∧ (∀ r ∈ m.reads io, r.pos = r.next ∧ r.cursor = r.next)
      ∧ ∀ p ∈ (m.run io).1, p.payload = (io.content.drop p.offset).take p.payload.length := by
  cases h with
  | stay h =>
      refine ⟨?_, fun r hr => absurd hr List.not_mem_nil, fun p hp => absurd hp List.not_mem_nil⟩
      intro d hd
      cases hd
      exact h
  | @fill d₀ h =>
      obtain ⟨hend, hreads, hsends⟩ := h.fillLoop d₀.win
      refine ⟨?_, hreads, ?_⟩
      · intro d hd
        rcases fillAndWait_cases io d₀ with ⟨st, hst⟩ | hw
        · rw [Move.run, hst] at hd
          cases hd
        · rw [Move.run, hw] at hd
          cases hd
          exact ⟨⟨hend.cursor_eq, hend.pos_eq, hend.next_le, hend.acked_le⟩, hend.next_le⟩
      · show ∀ p ∈ (fillAndWait io d₀).1, _
        rw [fillAndWait_sends]
        exact hsends
  | finish flow =>
      exact ⟨fun d hd => (by cases hd), fun r hr => absurd hr List.not_mem_nil,
        fun p hp => absurd hp List.not_mem_nil⟩
  | stop st =>
      exact ⟨fun d hd => (by cases hd), fun r hr => absurd hr List.not_mem_nil,
        fun p hp => absurd hp List.not_mem_nil⟩

end Fill

/-! ## §3. One input. -/

section Input

variable {cfg : Config} {io : SendFile} {d : SendData}

/-- The state a rewind leaves when the seek puts the handle on the mark, or
the mark is the end of the file. -/
theorem Aligned.rewind (cfg : Config) (h : Aligned io d) {seek : Int}
    (hseek : d.pos = d.lastAcked ∨ fseekSet d.pos seek = d.lastAcked ∨ io.size ≤ d.lastAcked) :
    Aligned io (rewind cfg d seek) := by
  refine ⟨rfl, ?_, h.acked_le, h.acked_le⟩
  show (if d.pos ≠ d.lastAcked then fseekSet d.pos seek else d.pos) = d.lastAcked
    ∨ io.size ≤ d.lastAcked
  by_cases hpos : d.pos = d.lastAcked
  · left
    rw [if_neg (fun hne => hne hpos)]
    exact hpos
  · rw [if_pos hpos]
    rcases hseek with hseek | hseek
    · exact absurd hseek hpos
    · exact hseek

/-- A timeout seeks through `int64_t`, which holds every offset of the file. -/
theorem onAckTimeout_aligned (hsize : io.size < 2 ^ 63) (h : WaitAligned io d) :
    MoveAligned io (onAckTimeout cfg d) := by
  unfold onAckTimeout
  split
  · exact .stop _
  · have hle := h.acked_le
    have hback : Aligned io (ValProtocol.rewind cfg d (toSigned 64 d.lastAcked)) :=
      h.toAligned.rewind cfg (Or.inr (Or.inl (fseekSet_of_lt (by omega) _)))
    exact .fill ⟨hback.cursor_eq, hback.pos_eq, hback.next_le, hback.acked_le⟩

/-- A DATA_ACK does not touch the handle. -/
theorem onDataAck_aligned (h : WaitAligned io d) (off : Nat) :
    MoveAligned io (onDataAck cfg io d off) := by
  have htarget := h.target_le
  unfold onDataAck
  split
  · exact .stay ⟨⟨h.cursor_eq, h.pos_eq, h.next_le, h.acked_le⟩, htarget⟩
  · dsimp only
    split
    · rename_i hlt
      have hlt' : off < d.targetAck := hlt
      exact .stay ⟨⟨h.cursor_eq, h.pos_eq, h.next_le, show off ≤ io.size by omega⟩, htarget⟩
    · unfold dataLoop
      split
      · rename_i hlt
        exact .fill ⟨h.cursor_eq, h.pos_eq, h.next_le, Nat.le_of_lt hlt⟩
      · exact .finish _

theorem nakMark_le (h : WaitAligned io d) (off : Nat) : nakMark io d off ≤ io.size := by
  have := h.acked_le
  unfold nakMark
  split <;> omega

theorem onDataNak_eq (cfg : Config) (io : SendFile) (d : SendData) (off : Nat) :
    onDataNak cfg io d off
      = .fill (rewind cfg { d with lastAcked := nakMark io d off }
          (toSigned cfg.longBits (nakMark io d off))) := rfl

/-- A NAK that finds its mark. -/
theorem onDataNak_aligned (h : WaitAligned io d) {off : Nat}
    (hfind : toSigned cfg.longBits (nakMark io d off) = nakMark io d off
      ∨ d.pos = nakMark io d off ∨ io.size ≤ nakMark io d off) :
    MoveAligned io (onDataNak cfg io d off) := by
  rw [onDataNak_eq]
  have hmoved : Aligned io { d with lastAcked := nakMark io d off } :=
    ⟨h.cursor_eq, h.pos_eq, h.next_le, nakMark_le h off⟩
  refine .fill (hmoved.rewind cfg ?_)
  rcases hfind with hlong | hpos | hend
  · refine Or.inr (Or.inl ?_)
    show fseekSet d.pos (toSigned cfg.longBits (nakMark io d off)) = nakMark io d off
    rw [hlong, fseekSet, if_neg (by omega)]
    exact Int.toNat_natCast _
  · exact Or.inl hpos
  · exact Or.inr (Or.inr hend)

/-- **A NAK that misses its mark** starts a fill that reads elsewhere. -/
theorem onDataNak_misses (hmtu : minPacketSize ≤ io.mtu) {off : Nat}
    (hlong : toSigned cfg.longBits (nakMark io d off) ≠ nakMark io d off)
    (hpos : d.pos ≠ nakMark io d off) (hlt : nakMark io d off < io.size) :
    ∃ r ∈ (onDataNak cfg io d off).reads io, r.pos ≠ r.next := by
  have hmax : 8 < io.maxPayload := by
    simp only [minPacketSize] at hmtu
    simp only [SendFile.maxPayload, wireHeaderSize, wireTrailerSize]
    omega
  rw [onDataNak_eq]
  set mark := nakMark io d off with hmark
  set d' := rewind cfg { d with lastAcked := mark } (toSigned cfg.longBits mark) with hd'
  have hnext : d'.nextToSend = mark := rfl
  have hread : d'.readPos ≠ mark := by
    -- the cursor claims the mark, so the position is what the seek left
    have hcur : d'.readPos = d'.pos := by
      unfold SendData.readPos
      exact if_neg (fun hne => hne rfl)
    have hseek : d'.pos = fseekSet d.pos (toSigned cfg.longBits mark) := if_pos hpos
    rw [hcur, hseek]
    unfold fseekSet
    split
    · exact hpos
    · intro heq
      apply hlong
      omega
  have hwin : ∃ k, d'.win = k + 1 := by
    have hpos : 1 ≤ d'.win := by
      show 1 ≤ Flow.window _
      unfold Flow.window
      split <;> omega
    exact ⟨d'.win - 1, by omega⟩
  obtain ⟨k, hk⟩ := hwin
  refine ⟨⟨d'.readPos, d'.nextToSend, d'.nextToSend⟩, ?_, hread⟩
  show _ ∈ fillReads io d'.win d'
  rw [hk, fillReads_succ]
  have hin : d'.inflight < d'.win := by
    rw [hk]
    exact Nat.succ_pos k
  rw [if_pos ⟨hin, hlt⟩, freadAt_some _ hmax hlt]
  exact List.mem_append_left _ (Option.mem_toList.mpr rfl)

/-- An input that is no missed NAK keeps the handle aligned. -/
theorem WaitInput.move_aligned (hsize : io.size < 2 ^ 63) (h : WaitAligned io d) {i : WaitInput}
    (hfind : i.finds cfg io d = true) : MoveAligned io (i.move cfg io d) := by
  cases i with
  | timeout => exact onAckTimeout_aligned hsize h
  | frame f =>
      show MoveAligned io (onAckFrame cfg io d f)
      unfold onAckFrame
      unfold WaitInput.finds at hfind
      dsimp only at hfind
      cases hp : recvControl io.mtu 32 f with
      | error st => exact .stop st
      | ok p =>
          rw [hp] at hfind
          dsimp only at hfind ⊢
          split
          · exact .stop _
          · rename_i hnak
            rw [hnak] at hfind
            exact onDataNak_aligned h (of_decide_eq_true hfind)
          · exact onDataAck_aligned h _
          · exact .stop _
          · exact .stay h

/-- A missed NAK is read back at once. -/
theorem WaitInput.move_misses (hmtu : minPacketSize ≤ io.mtu) {i : WaitInput}
    (hfind : i.finds cfg io d = false) :
    ∃ r ∈ (i.move cfg io d).reads io, r.pos ≠ r.next := by
  cases i with
  | timeout => cases hfind
  | frame f =>
      show ∃ r ∈ (onAckFrame cfg io d f).reads io, r.pos ≠ r.next
      unfold onAckFrame
      unfold WaitInput.finds at hfind
      dsimp only at hfind
      cases hp : recvControl io.mtu 32 f with
      | error st =>
          rw [hp] at hfind
          cases hfind
      | ok p =>
          rw [hp] at hfind
          simp only [Bool.or_eq_false_iff, bne_eq_false_iff_eq, decide_eq_false_iff_not, not_or,
            Nat.not_le] at hfind
          obtain ⟨htype, hlong, hpos, hlt⟩ := hfind
          dsimp only
          rw [htype]
          exact onDataNak_misses hmtu hlong hpos hlt

end Input

/-! ## §4. Whole runs. -/

/-- The reads of a run begin with those of its first move. -/
theorem Move.reads_subset (cfg : Config) (io : SendFile) (is : List WaitInput) (m : Move) :
    ∀ r ∈ m.reads io, r ∈ runReads cfg io is m := by
  intro r hr
  cases is with
  | nil => exact hr
  | cons i is => exact List.mem_append_left _ hr

theorem cursorRight_iff_naksFind {cfg : Config} {io : SendFile} (hmtu : minPacketSize ≤ io.mtu)
    (hsize : io.size < 2 ^ 63) (is : List WaitInput) {m : Move} (hm : MoveAligned io m) :
    CursorRight cfg io is m ↔ naksFind cfg io is m = true := by
  induction is generalizing m with
  | nil =>
      obtain ⟨-, hreads, hsends⟩ := hm.run
      exact ⟨fun _ => rfl, fun _ => ⟨hreads, hsends⟩⟩
  | cons i is ih =>
      obtain ⟨hwait, hreads, hsends⟩ := hm.run
      cases hr : (m.run io).2 with
      | complete flow =>
          refine ⟨fun _ => by simp only [naksFind, hr], fun _ => ⟨?_, ?_⟩⟩
          · simpa only [runReads, hr, List.append_nil] using hreads
          · simpa only [runSends, hr, List.append_nil] using hsends
      | fail st =>
          refine ⟨fun _ => by simp only [naksFind, hr], fun _ => ⟨?_, ?_⟩⟩
          · simpa only [runReads, hr, List.append_nil] using hreads
          · simpa only [runSends, hr, List.append_nil] using hsends
      | wait d =>
          have hd := hwait d hr
          simp only [naksFind, hr, Bool.and_eq_true]
          cases hfind : i.finds cfg io d with
          | true =>
              -- the input finds its place, so what follows is again a run of this kind
              have hnext := ih (i.move_aligned hsize hd hfind)
              constructor
              · intro hright
                refine ⟨rfl, hnext.mp ⟨?_, ?_⟩⟩
                · intro r hr'
                  apply hright.reads
                  simp only [runReads, hr]
                  exact List.mem_append_right _ hr'
                · intro p hp
                  apply hright.sends
                  simp only [runSends, hr]
                  exact List.mem_append_right _ hp
              · intro hrest
                have hright := hnext.mpr hrest.2
                refine ⟨?_, ?_⟩
                · simp only [runReads, hr]
                  exact List.forall_mem_append.mpr ⟨hreads, hright.reads⟩
                · simp only [runSends, hr]
                  exact List.forall_mem_append.mpr ⟨hsends, hright.sends⟩
          | false =>
              constructor
              · intro hright
                -- a NAK that is not found moves the handle, and the next read shows it
                obtain ⟨r, hmem, hne⟩ := i.move_misses hmtu hfind
                have hin : r ∈ runReads cfg io (i :: is) m := by
                  simp only [runReads, hr]
                  exact List.mem_append_right _ (Move.reads_subset cfg io is _ r hmem)
                exact absurd (hright.reads r hin).1 hne
              · intro hrest
                cases hrest.1

/-- The data phase begins with the handle at the resume offset. -/
theorem dataLoop_init_aligned (cfg : Config) (io : SendFile) (flow : Flow) :
    MoveAligned io (dataLoop cfg io (initData io flow)) := by
  unfold dataLoop
  split
  · rename_i hlt
    have hle : io.resumeOff ≤ io.size := Nat.le_of_lt hlt
    exact .fill ⟨rfl, Or.inl rfl, hle, hle⟩
  · exact .finish _

/-- **The sender's file cursor.**  For every file below 2^63 bytes, resume
offset, MTU and configuration, and every run of the data phase against any
peer: whenever `fread` is called, the handle, the cursor and `*next_to_send`
agree, and every DATA packet carries the file's bytes at its offset, if and
only if every NAK finds its mark. -/
theorem cursor_right_iff (cfg : Config) (flow : Flow) {io : SendFile}
    (hmtu : minPacketSize ≤ io.mtu) (hsize : io.size < 2 ^ 63) (is : List WaitInput) :
    CursorRight cfg io is (dataLoop cfg io (initData io flow))
      ↔ naksFind cfg io is (dataLoop cfg io (initData io flow)) = true :=
  cursorRight_iff_naksFind hmtu hsize is (dataLoop_init_aligned cfg io flow)

/-- A NAK, a timeout and two acknowledgements behind a small file. -/
theorem cursor_right_small :
    naksFind quickDegrade smallFile
        [.frame (sendNak 492).frame, .timeout, .frame (sendBare .dataAck 984).frame,
          .frame (sendBare .dataAck 1476).frame]
        (dataLoop quickDegrade smallFile (initData smallFile twoPackets)) = true
      ∧ CursorRight quickDegrade smallFile
        [.frame (sendNak 492).frame, .timeout, .frame (sendBare .dataAck 984).frame,
          .frame (sendBare .dataAck 1476).frame]
        (dataLoop quickDegrade smallFile (initData smallFile twoPackets)) := by
  have hfind : naksFind quickDegrade smallFile
      [.frame (sendNak 492).frame, .timeout, .frame (sendBare .dataAck 984).frame,
        .frame (sendBare .dataAck 1476).frame]
      (dataLoop quickDegrade smallFile (initData smallFile twoPackets)) = true := by
    decide +kernel
  refine ⟨hfind, ?_⟩
  exact (cursor_right_iff quickDegrade twoPackets (by decide)
    (by rw [smallFile_size]; decide) _).mpr hfind

/-- A platform whose `long` has 32 bits. -/
def narrowLong : Config := { quickDegrade with longBits := 32 }

/-- A file of `n` bytes resumed at `r`. -/
def longFile (n r : Nat) : SendFile where
  content := List.replicate n 0
  mtu := 512
  resumeOff := r

/-- A window of one packet. -/
def onePacket : Flow := ⟨1, 1, 0, 0, false⟩

/-- The first packet behind the resume offset. -/
theorem longFile_first {n r : Nat} (hn : n = r + 1000) :
    ∃ d, ((dataLoop narrowLong (longFile n r) (initData (longFile n r) onePacket)).run
        (longFile n r)).2 = .wait d ∧ d.pos = r + 492 ∧ d.lastAcked = r := by
  have hsize : (longFile n r).size = n := List.length_replicate
  have hmax : (longFile n r).maxPayload = 500 := rfl
  set d₀ : SendData := { initData (longFile n r) onePacket with
    tries := windowTries narrowLong (longFile n r) (initData (longFile n r) onePacket) } with hd₀
  have hlt : d₀.nextToSend < (longFile n r).size := by
    show r < (longFile n r).size
    omega
  have hmove : dataLoop narrowLong (longFile n r) (initData (longFile n r) onePacket)
      = .fill d₀ := if_pos hlt
  have hread : d₀.readPos = r := if_neg (fun hne => hne rfl)
  obtain ⟨k, hk, hsend⟩ := sendDataPacket_aligned true (by rw [hmax]; decide) hlt hread
  have hk' : k = 492 := by
    rw [hk, hsize, hmax]
    show min (n - r) (500 - 8) = 492
    omega
  have hexp : (d₀.nextToSend == d₀.lastAcked) = true := beq_self_eq_true _
  have hloop : (fillLoop (longFile n r) 1 d₀).1 = d₀.sent 492
      ∧ (fillLoop (longFile n r) 1 d₀).2.2 = none := by
    rw [fillLoop_succ, if_pos ⟨Nat.zero_lt_one, hlt⟩, hexp, hsend, hk']
    exact ⟨rfl, rfl⟩
  refine ⟨{ d₀.sent 492 with
    targetAck := (d₀.sent 492).nextToSend,
    flow := { (d₀.sent 492).flow with inRetransmit := false } }, ?_, ?_, rfl⟩
  · have hwin : d₀.win = 1 := rfl
    rw [hmove]
    show (fillAndWait (longFile n r) d₀).2 = _
    unfold fillAndWait
    dsimp only
    rw [hwin, hloop.2, hloop.1]
  · show d₀.readPos + 492 = r + 492
    rw [hread]

theorem longFile_lost {r : Nat} (hr : r = 2 ^ 31) :
    ¬ CursorRight narrowLong (longFile (r + 1000) r) [.frame (sendNak 0).frame]
      (dataLoop narrowLong (longFile (r + 1000) r) (initData (longFile (r + 1000) r) onePacket)) := by
  have hsize : (longFile (r + 1000) r).size = r + 1000 := List.length_replicate
  intro hright
  have hall := (cursorRight_iff_naksFind
    (show minPacketSize ≤ 512 by decide) (by rw [hsize]; omega) _
    (dataLoop_init_aligned narrowLong (longFile (r + 1000) r) onePacket)).mp hright
  obtain ⟨d, hd, hpos, hack⟩ := longFile_first (r := r) rfl
  simp only [naksFind, hd, Bool.and_true] at hall
  obtain ⟨p, hp, htype, hoff⟩ : ∃ p, recvControl 512 32 (sendNak 0).frame = .ok p
      ∧ p.type = (sendNak 0).type ∧ p.off = (sendNak 0).offset :=
    recvControl_ack ⟨rfl, Nat.two_pow_pos 64⟩ rfl (by decide) (by decide)
  have hmark : nakMark (longFile (r + 1000) r) d p.off = r := by
    have hoff' : p.off = 0 := hoff
    unfold nakMark
    rw [hoff', if_neg (fun h => absurd h.1 (Nat.not_lt_zero _)), hack]
  have hnak : recvControl (longFile (r + 1000) r).mtu 32 (sendNak 0).frame = .ok p := hp
  have htype' : p.type = .dataNak := htype
  -- the cast makes the target negative
  have hwrong : toSigned narrowLong.longBits r = -r := by
    show Int.bmod r (2 ^ 32) = _
    rw [Int.bmod_def, hr]
    omega
  unfold WaitInput.finds at hall
  dsimp only at hall
  rw [hnak] at hall
  dsimp only at hall
  rw [htype', hmark, hpos, hsize, hwrong] at hall
  have hcases := of_decide_eq_true hall
  omega

/-- **A cursor that is wrong.**  `(long)` of 2^31 is negative where a `long`
has 32 bits, the seek of the NAK is refused, and the packet of offset 2^31 is
read 492 bytes further on. -/
theorem cursor_lost :
    ¬ CursorRight narrowLong (longFile (2 ^ 31 + 1000) (2 ^ 31)) [.frame (sendNak 0).frame]
      (dataLoop narrowLong (longFile (2 ^ 31 + 1000) (2 ^ 31))
        (initData (longFile (2 ^ 31 + 1000) (2 ^ 31)) onePacket)) :=
  longFile_lost rfl

end ValProtocol
