/-
  ValProtocol.Session.Abort
  ─────────────────────────
  A CANCEL or ERROR packet between the SEND_META of a file and its first DATA
  packet (`src/val_receiver.c` lines 348-743 and 818-1037).

  Until the target is opened nothing is written.  It is opened with "wb" for a
  start at zero, which empties it, and with "ab" behind a verified tail, which
  keeps it; both happen before the data loop receives its first packet.

    • `Untouched.step`    — one step that takes no DATA packet,
    • `abort_before_data` — the call returns with the packet's status, and the
      old file is unchanged unless it has been opened for a start at zero,
    • `abort_empties`     — a file emptied by a transfer that never sent data.
-/
import ValProtocol.Session.LoneReceiver
import ValProtocol.Session.Walk

namespace ValProtocol

/-! ## §1. Before the first DATA packet. -/

/-- The steps inside a file before its first DATA packet, with no CANCEL so
far. -/
def BeforeData (f : RecvFile) (s : RecvState) (i : RecvInput) : Prop :=
  s.pc.phase = .file f
    ∧ ∀ fr fs, i = .frame fr fs →
      PacketType.ofByte fr.type ≠ .data ∧ PacketType.ofByte fr.type ≠ .cancel

/-- The target has been opened with "wb" and not written since. -/
def RecvPc.openedFresh : RecvPc → Bool
  | .dataWait _ d => decide (d.written = 0)
  | _ => false

/-- The filesystem is still `files`, and the transfer of `f` has at most opened
its target: empty for a start at zero, otherwise as it stood. -/
structure Untouched (files : Bytes → Option Bytes) (f : RecvFile) (s : RecvState) : Prop where
  files_eq : s.files = files
  verifying : ∀ g n resp off, s.pc = .verifyWait g n resp off →
    ∃ old, files g.path = some old ∧ old.length = off
  written : ∀ d, s.pc = .dataWait f d →
    (d.written = 0 ∧ d.file = []) ∨ (d.written ≠ 0 ∧ files f.path = some d.file)

section Step

variable {env : RecvEnv} {files : Bytes → Option Bytes} {f : RecvFile} {s : RecvState}
  {i : RecvInput}

/-- A round of the data loop without a DATA packet goes on with the file as it
is, or leaves the loop. -/
theorem DataRound.no_data {d : RecvData} {r : List Send × RecvResult}
    (h : DataRound env.cfg s.mtu d i r)
    (hdata : ∀ fr fs, i = .frame fr fs → PacketType.ofByte fr.type ≠ .data)
    {d' : RecvData} (hwait : r.2 = .wait d') : d'.written = d.written ∧ d'.file = d.file := by
  cases h with
  | frame fr fs =>
      have hne := hdata fr fs rfl
      unfold onDataFrame at hwait
      dsimp only at hwait
      split at hwait
      · cases hwait
      · rename_i p hp
        split at hwait
        · rename_i ht
          exact absurd (by rw [← recvFrame_type hp, ht]) hne
        all_goals cases hwait
        exact ⟨rfl, rfl⟩
  | timeout timer fs =>
      unfold onDataTimeout at hwait
      by_cases hzero : d.tries = 0
      · rw [if_pos hzero] at hwait
        cases hwait
      · rw [if_neg hzero] at hwait
        cases hwait
        exact ⟨rfl, rfl⟩

/-- **One step that takes no DATA packet** and stays with the file. -/
theorem Untouched.step {s' : RecvState} (h : Untouched files f s) (hbefore : BeforeData f s i)
    (hstep : s.step env i = some s') (hphase' : s'.pc.phase = .file f) :
    Untouched files f s' := by
  obtain ⟨hphase, hquiet⟩ := hbefore
  obtain ⟨r, hr, rfl⟩ := Option.map_eq_some_iff.mp hstep
  have heffect := RecvState.react_effect hr
  generalize r = r at heffect hphase' ⊢
  cases heffect with
  | called _ hidle =>
      rw [hidle] at hphase
      cases hphase
  | aside hfiles _ hclosed hwaits =>
      refine ⟨hfiles.trans h.files_eq, ?_, fun d hd => absurd hd (hclosed f d)⟩
      intro g n resp off hpc
      obtain ⟨n', hpc'⟩ := hwaits g n resp off hpc
      exact h.verifying g n' resp off hpc'
  | asks hfiles _ _ hfile _ _ hpc =>
      refine ⟨hfiles.trans h.files_eq, ?_, ?_⟩
      · intro g n resp off hpc'
        rw [hpc] at hpc'
        cases hpc'
        exact ⟨_, h.files_eq ▸ hfile, rfl⟩
      · intro d hd
        rw [hpc] at hd
        cases hd
  | @opens _ _ g off hfiles _ hfile hpc horigin _ =>
      have hg : g = f := by
        rw [hphase] at hfile
        exact (RecvPhase.file.inj hfile).symm
      subst hg
      refine ⟨hfiles.trans h.files_eq, ?_, ?_⟩
      · intro g' n resp off' hpc'
        rw [hpc] at hpc'
        cases hpc'
      · intro d hd
        rw [hpc] at hd
        cases hd
        by_cases hzero : off = 0
        · exact Or.inl ⟨hzero, if_pos hzero⟩
        · -- "ab" behind a good VERIFY: the file is as long as the start offset
          obtain ⟨n, resp, hwait⟩ := horigin.resolve_left hzero
          obtain ⟨old, hold, -⟩ := h.verifying _ _ _ _ hwait
          refine Or.inr ⟨hzero, ?_⟩
          show files g.path = some (if off = 0 then [] else (s.files g.path).getD [])
          rw [if_neg hzero, h.files_eq, hold]
          rfl
  | @round g d r hpc hround =>
      have hg : g = f := by
        rw [hpc] at hphase
        exact RecvPhase.file.inj hphase
      subst hg
      unfold RecvState.onRecvResult at hphase' ⊢
      split at hphase' <;> rename_i hres
      · obtain ⟨hwritten, hfile⟩ := hround.no_data (fun fr fs hi => (hquiet fr fs hi).1) hres
        refine ⟨h.files_eq, (fun _ _ _ _ hpc' => by cases hpc'), ?_⟩
        intro d₁ hd
        cases hd
        rw [hwritten, hfile]
        exact h.written d hpc
      · cases hphase'
      · cases hphase'

/-- A step of the metadata wait leaves every file alone. -/
theorem Untouched.announced {s₀ s₁ : RecvState} {tries : Nat} (hwait : s₀.pc = .metaWait tries)
    (hstep : s₀.step env i = some s₁) (f : RecvFile) : Untouched s₀.files f s₁ := by
  have hphase : s₀.pc.phase = .header := by rw [hwait]; rfl
  obtain ⟨r, hr, rfl⟩ := Option.map_eq_some_iff.mp hstep
  have heffect := RecvState.react_effect hr
  generalize r = r at heffect ⊢
  cases heffect with
  | called _ hidle => rw [hwait] at hidle; cases hidle
  | aside hfiles _ hclosed hwaits =>
      refine ⟨hfiles, ?_, fun d hd => absurd hd (hclosed f d)⟩
      intro g n resp off hpc
      obtain ⟨n', hpc'⟩ := hwaits g n resp off hpc
      rw [hwait] at hpc'
      cases hpc'
  | asks _ _ hfile => rw [hphase] at hfile; cases hfile
  | opens _ _ hfile => rw [hphase] at hfile; cases hfile
  | round hpc => rw [hwait] at hpc; cases hpc

end Step

/-! ## §2. The packet that ends the call. -/

/-- What the call returns on a CANCEL or ERROR packet.  The VERIFY wait has no
room for a payload longer than a VERIFY request. -/
def RecvPc.abortStatus (pc : RecvPc) (fr : Frame) : Status :=
  match pc with
  | .verifyWait _ _ _ _ =>
      if fr.content.length > wireVerifyReqPayloadSize then .invalidArg
      else if PacketType.ofByte fr.type = .cancel then .aborted else .protocol
  | _ => if PacketType.ofByte fr.type = .cancel then .aborted else .protocol

section Packet

variable {mtu : Nat} {fr : Frame}

/-- A CANCEL or ERROR packet is received by whoever has room for its payload. -/
theorem recvFrame_abort (hfit : fr.content.length ≤ mtu - wireHeaderSize - wireTrailerSize)
    (htype : PacketType.ofByte fr.type = .cancel ∨ PacketType.ofByte fr.type = .error)
    (out : Option Nat) (hroom : ∀ cap, out = some cap → fr.content.length ≤ cap) :
    ∃ p, recvFrame mtu out fr = .ok p ∧ p.type = PacketType.ofByte fr.type
      ∧ p.len = fr.content.length := by
  have hoff : fr.hasOffset = false := by
    unfold Frame.hasOffset
    rcases htype with h | h
    all_goals
      rw [h]
      rfl
  unfold recvFrame
  dsimp only
  rw [if_neg (by omega)]
  split
  · exact ⟨_, rfl, rfl, rfl⟩
  · exact ⟨_, rfl, rfl, rfl⟩
  · rename_i cap _
    have := hroom cap rfl
    rw [hoff, if_neg Bool.false_ne_true, if_neg (by omega)]
    exact ⟨_, rfl, rfl, rfl⟩

/-- The VERIFY wait on it. -/
theorem controlFrame_abort (hfit : fr.content.length ≤ mtu - wireHeaderSize - wireTrailerSize)
    (htype : PacketType.ofByte fr.type = .cancel ∨ PacketType.ofByte fr.type = .error)
    (cap : Nat) :
    controlFrame mtu cap fr = .error (if fr.content.length > cap then .invalidArg
      else if PacketType.ofByte fr.type = .cancel then .aborted else .protocol) := by
  obtain ⟨p, hp, hptype, hlen⟩ := recvFrame_abort hfit htype none (fun _ h => by cases h)
  have hdata : p.type ≠ .data := by
    rw [hptype]
    rcases htype with h | h <;> rw [h] <;> decide
  unfold controlFrame recvControl
  rw [hp]
  dsimp only
  by_cases hroom : fr.content.length > cap
  · rw [if_pos ⟨by omega, hdata⟩, if_neg (by omega), if_pos hroom]
  · rw [if_neg hroom, if_pos (show p.len ≤ cap by omega)]
    by_cases hlong : p.len > 0 ∧ p.type ≠ .data
    · rw [if_pos hlong]
      dsimp only
      rcases htype with h | h
      all_goals
        rw [hptype, h]
        rfl
    · rw [if_neg hlong]
      dsimp only
      rcases htype with h | h
      all_goals
        rw [hptype, h]
        rfl

end Packet

/-- A frame reaches the receiver inside a call. -/
theorem RecvState.step_frame (env : RecvEnv) {s : RecvState} (h : s.pc ≠ .idle) (fr : Frame)
    (fs : FsOutcome) : s.step env (.frame fr fs) = some (s.onFrame env fr fs).2 := by
  unfold RecvState.step RecvState.react
  dsimp only
  rw [if_neg h]
  rfl

/-- `fclose` of the file that is open, if any. -/
def RecvState.closedOpen (s : RecvState) : RecvState :=
  match s.pc with
  | .dataWait f d => s.closed f d.file
  | _ => s

/-- **The packet ends the call**: whatever is open is closed. -/
theorem RecvState.onFrame_abort (env : RecvEnv) {s : RecvState} {f : RecvFile} {fr : Frame}
    (hphase : s.pc.phase = .file f)
    (hfit : fr.content.length ≤ s.mtu - wireHeaderSize - wireTrailerSize)
    (htype : PacketType.ofByte fr.type = .cancel
      ∨ PacketType.ofByte fr.type = .error ∧ ∀ n, s.pc ≠ .skipWait f n)
    (hpeek : s.pc ≠ .neverPeek f) (fs : FsOutcome) :
    (s.onFrame env fr fs).2 = s.closedOpen.ret (s.pc.abortStatus fr) := by
  have htype' : PacketType.ofByte fr.type = .cancel ∨ PacketType.ofByte fr.type = .error :=
    htype.imp_right And.left
  unfold RecvState.onFrame RecvState.closedOpen RecvPc.abortStatus
  cases hpc : s.pc with
  | idle => rw [hpc] at hphase; cases hphase
  | helloWait => rw [hpc] at hphase; cases hphase
  | metaWait _ => rw [hpc] at hphase; cases hphase
  | neverPeek g =>
      rw [hpc] at hphase hpeek
      rw [RecvPhase.file.inj hphase] at hpeek
      exact absurd rfl hpeek
  | resumeReqWait g n =>
      obtain ⟨p, hp, hptype, -⟩ := recvFrame_abort hfit htype' none (fun _ h => by cases h)
      dsimp only
      rw [hp]
      dsimp only
      rw [hptype]
      rcases htype' with ht | ht <;> rw [ht] <;> rfl
  | verifyWait g n resp off =>
      dsimp only
      rw [controlFrame_abort hfit htype']
  | dataWait g d =>
      obtain ⟨p, hp, hptype, -⟩ := recvFrame_abort hfit htype' (some s.mtu)
        (fun cap h => by cases h; omega)
      unfold onDataFrame
      dsimp only
      rw [hp]
      dsimp only
      rw [hptype]
      rcases htype' with ht | ht <;> rw [ht] <;> rfl
  | skipWait g n =>
      obtain ⟨p, hp, hptype, -⟩ := recvFrame_abort hfit htype' (some s.mtu)
        (fun cap h => by cases h; omega)
      -- a skipped file takes no notice of ERROR
      have hcancel : PacketType.ofByte fr.type = .cancel := by
        rcases htype with ht | ⟨-, hskip⟩
        · exact ht
        · rw [hpc] at hphase
          exact absurd (by rw [hpc, RecvPhase.file.inj hphase]) (hskip n)
      dsimp only
      rw [hp]
      dsimp only
      rw [hptype, hcancel]
      rfl

/-- What is closed before any data is the file as it stood, or an empty one. -/
theorem Untouched.closedOpen {files : Bytes → Option Bytes} {f : RecvFile} {s : RecvState}
    (h : Untouched files f s) (hphase : s.pc.phase = .file f) (path : Bytes) :
    s.closedOpen.files path
      = if path = f.path ∧ s.pc.openedFresh = true then some [] else files path := by
  have aside : s.closedOpen = s → s.pc.openedFresh = false → s.closedOpen.files path
      = if path = f.path ∧ s.pc.openedFresh = true then some [] else files path := by
    intro hsame hfresh
    rw [hsame, hfresh, if_neg (fun hc => Bool.false_ne_true hc.2)]
    exact congrFun h.files_eq path
  cases hpc : s.pc with
  | dataWait g d =>
      have hg : g = f := by
        rw [hpc] at hphase
        exact RecvPhase.file.inj hphase
      subst hg
      unfold RecvState.closedOpen RecvPc.openedFresh
      rw [hpc]
      show Function.update s.files g.path (some d.file) path = _
      rw [h.files_eq]
      -- the open file is the only one that closing writes
      by_cases hpath : path = g.path
      · rw [hpath, Function.update_self]
        rcases h.written d hpc with ⟨hzero, hempty⟩ | ⟨hpos, hold⟩
        · rw [if_pos ⟨rfl, decide_eq_true hzero⟩, hempty]
        · rw [if_neg (fun hc => hpos (of_decide_eq_true hc.2)), hold]
      · rw [Function.update_of_ne hpath, if_neg (fun hc => hpath hc.1)]
  | _ =>
      rw [← hpc]
      refine aside ?_ ?_
      · unfold RecvState.closedOpen
        rw [hpc]
      · rw [hpc]
        rfl

/-! ## §3. The call. -/

/-- **An abort before the first DATA packet.**  For every resume mode, every
filesystem and every run in which the metadata wait takes a SEND_META for `f`
and no DATA packet arrives after it: a CANCEL or ERROR packet that arrives next
ends the call with its status, and every file is byte for byte what it was at
the SEND_META, but for a target that has been opened for a start at zero, which
is empty.  Not covered are the single receive of `NEVER` that looks for a
RESUME_REQ, and ERROR packets at a skipped file. -/
theorem abort_before_data {env : RecvEnv} {s₀ s₁ s : RecvState} {tries : Nat} {fr₀ fr : Frame}
    {fs₀ : FsOutcome} {f : RecvFile} (hwait : s₀.pc = .metaWait tries)
    (hmeta : s₀.step env (.frame fr₀ fs₀) = some s₁)
    (hrun : Lts.Reach (RecvState.step env) (BeforeData f) s₁ s)
    (hphase : s.pc.phase = .file f)
    (hfit : fr.content.length ≤ s.mtu - wireHeaderSize - wireTrailerSize)
    (htype : PacketType.ofByte fr.type = .cancel
      ∨ PacketType.ofByte fr.type = .error ∧ ∀ n, s.pc ≠ .skipWait f n)
    (hpeek : s.pc ≠ .neverPeek f) (fs : FsOutcome) :
    ∃ s', s.step env (.frame fr fs) = some s' ∧ s'.pc = .idle
      ∧ s'.log = s.log ++ [(s.completed, s.pc.abortStatus fr)]
      ∧ ∀ path, s'.files path
        = if path = f.path ∧ s.pc.openedFresh = true then some [] else s₀.files path := by
  have huntouched : s.pc.phase = .file f → Untouched s₀.files f s := by
    apply Lts.Reach.invariant (I := fun s => s.pc.phase = .file f → Untouched s₀.files f s) _ _ hrun
    · exact fun _ => Untouched.announced hwait hmeta f
    · intro s i s' ih hbefore hstep hphase'
      exact (ih hbefore.1).step hbefore hstep hphase'
  have hidle : s.pc ≠ .idle := by
    intro hidle
    rw [hidle] at hphase
    cases hphase
  have hend := RecvState.onFrame_abort env hphase hfit htype hpeek fs
  have hclosed := (huntouched hphase).closedOpen hphase
  have hsame : s.closedOpen.log = s.log ∧ s.closedOpen.completed = s.completed := by
    unfold RecvState.closedOpen
    split
    · exact ⟨rfl, rfl⟩
    · exact ⟨rfl, rfl⟩
  refine ⟨_, RecvState.step_frame env hidle fr fs, ?_⟩
  rw [hend]
  refine ⟨rfl, ?_, hclosed⟩
  show s.closedOpen.log ++ [(s.closedOpen.completed, s.pc.abortStatus fr)] = _
  rw [hsame.1, hsame.2]

/-- The receiver behind these inputs. -/
def RecvState.behind (env : RecvEnv) (s : RecvState) (inputs : List RecvInput) : RecvState :=
  inputs.foldl (fun s i => (s.step env i).getD s) s

theorem RecvState.step_behind {env : RecvEnv} {s : RecvState} {i : RecvInput}
    (h : (s.step env i).isSome = true) : s.step env i = some (s.behind env [i]) := by
  obtain ⟨s', hs'⟩ := Option.isSome_iff_exists.mp h
  unfold RecvState.behind
  rw [List.foldl_cons, List.foldl_nil, hs']
  rfl

/-- A CANCEL packet of the peer. -/
def cancelFrame : Frame := (sendBare .cancel 0).frame

/-- The SEND_META of `a` with four bytes. -/
def fourBytes : Bytes := serializeMeta ⟨nulField maxFilename [97], nulField maxPath [], 4⟩

/-- A TAIL receiver that holds half of `a`, at the wait for metadata. -/
def tailWaiting : RecvState :=
  (RecvState.fresh quickDegrade halfThere).behind tailPair.rcv
    [.call [], .frame (sendHello quickDegrade 512).frame .good]

def tailAnnounced : RecvState :=
  tailWaiting.behind tailPair.rcv
    [.frame (⟨.sendMeta, fourBytes, 0, true⟩ : Send).frame .good]

def tailVerifying : RecvState :=
  tailAnnounced.behind tailPair.rcv [.frame (sendBare .resumeReq 0).frame .good]

/-- The VERIFY request is awaited when the CANCEL arrives. -/
theorem abort_before_data_tail :
    ∃ s', tailVerifying.step tailPair.rcv (.frame cancelFrame .good) = some s'
      ∧ s'.log = [([], .aborted)] ∧ s'.files [97] = some [1, 2] := by
  have hwait : tailWaiting.pc = .metaWait 3 := by decide +kernel
  have hmeta : tailWaiting.step tailPair.rcv
      (.frame (⟨.sendMeta, fourBytes, 0, true⟩ : Send).frame .good) = some tailAnnounced := by
    apply RecvState.step_behind
    decide +kernel
  have hresume : tailAnnounced.step tailPair.rcv
      (.frame (sendBare .resumeReq 0).frame .good) = some tailVerifying := by
    apply RecvState.step_behind
    decide +kernel
  have hphase : tailAnnounced.pc.phase = .file (tailWaiting.incomingFile tailPair.rcv fourBytes)
      ∧ tailVerifying.pc.phase = .file (tailWaiting.incomingFile tailPair.rcv fourBytes) := by
    decide +kernel
  have hrun : Lts.Reach (RecvState.step tailPair.rcv)
      (BeforeData (tailWaiting.incomingFile tailPair.rcv fourBytes))
      tailAnnounced tailVerifying := by
    refine .tail _ .refl ⟨hphase.1, ?_⟩ hresume
    intro fr fs hi
    cases hi
    exact ⟨by decide, by decide⟩
  have hstart : tailVerifying.log = [] ∧ tailVerifying.completed = []
      ∧ tailVerifying.pc.abortStatus cancelFrame = .aborted
      ∧ tailVerifying.pc.openedFresh = false ∧ tailWaiting.files [97] = some [1, 2] := by
    decide +kernel
  obtain ⟨hlog₀, hcompleted, hstatus, hfresh, hold⟩ := hstart
  obtain ⟨s', hs', -, hlog, hfiles⟩ := abort_before_data hwait hmeta hrun hphase.2
    (show cancelFrame.content.length ≤ _ by decide +kernel) (Or.inl (by decide))
    (by decide +kernel) .good
  refine ⟨s', hs', ?_, ?_⟩
  · rw [hlog, hlog₀, hcompleted, hstatus]
    rfl
  · rw [hfiles, hfresh, if_neg (fun hc => Bool.false_ne_true hc.2), hold]

/-- **A CANCEL before any data, and the old file is gone.**  The receiver has
two bytes of `a` and starts at zero; no DATA packet is ever received. -/
theorem abort_empties :
    halfThere [97] = some [1, 2]
      ∧ ∃ s : RecvState, (announcing quickDegrade [] [97] 4
          ++ [RecvInput.frame cancelFrame .good]).foldlM (RecvState.step plainReceiver)
            (RecvState.fresh quickDegrade halfThere) = some s
        ∧ s.log = [([], .aborted)] ∧ s.files [97] = some [] := by
  refine ⟨by decide, ?_⟩
  have hrun : ((announcing quickDegrade [] [97] 4
        ++ [RecvInput.frame cancelFrame .good]).foldlM
      (RecvState.step plainReceiver) (RecvState.fresh quickDegrade halfThere)).map
        (fun s => (s.log, s.files [97]))
      = some ([([], .aborted)], some []) := by
    decide +kernel
  obtain ⟨s, hs, hview⟩ := Option.map_eq_some_iff.mp hrun
  exact ⟨s, hs, (Prod.mk.inj hview).1, (Prod.mk.inj hview).2⟩

end ValProtocol
