/-
  ValProtocol.Session.Starts
  ──────────────────────────
  Why a file starts where it starts, and that both sides start it at the same
  place, skipped files included.

  `ValProtocol.Session.Agreement` follows the answers that lead to an offset
  below the file's size.  Here the answers that skip a file are followed as
  well: every offset the receiver settles has a reason (`StartOk`), every file
  the sender starts is one the receiver has settled at the same offset, and
  no packet of the data phase exists before both have.

    • `started_step` — one step of the joint system keeps `Started`.
-/
import ValProtocol.Session.Agreement
import ValProtocol.Session.FileSteps

namespace ValProtocol

/-! ## §1. Reasons. -/

/-- The bytes of file `k` of a batch. -/
def contentAt (batch : List SourceFile) (k : Nat) : Bytes :=
  (batch[k]?.bind SourceFile.content).getD []

/-- The local file is continued at `off`: it has that many bytes, and its tail
window has the CRC-32 of the sender's. -/
def Resumable (env : RecvEnv) (content : Bytes) (existing : Option Bytes) (off : Nat) : Prop :=
  ∃ file, existing = some file ∧ file.length = off ∧ 0 < off ∧ off ≤ content.length
    ∧ env.cfg.resume.mode = .tail
    ∧ crc32 (tailWindow env.cfg.resume off file) = crc32 (tailWindow env.cfg.resume off content)

/-- The local file is kept: the policy says so. -/
def Skippable (env : RecvEnv) (existing : Option Bytes) : Prop :=
  ∃ file, existing = some file ∧ 0 < file.length
    ∧ (env.cfg.resume.mode = .skipExisting
      ∨ env.cfg.resume.mode = .tail ∧ env.cfg.resume.mismatchSkip = true)

/-- The local file is given up: were it one that `VAL_RESUME_TAIL` continues,
then its tail window has another CRC-32 than the sender's.  A window whose
position does not survive `(long)` is not compared. -/
def Refuted (env : RecvEnv) (content : Bytes) (existing : Option Bytes) : Prop :=
  ∀ file, existing = some file → env.cfg.resume.mode = .tail → 0 < file.length →
    file.length ≤ content.length → file.length < 2 ^ 63 →
    toSigned env.cfg.longBits (file.length - verifyLength env.cfg.resume file.length)
      = (file.length - verifyLength env.cfg.resume file.length : Nat) →
    crc32 (tailWindow env.cfg.resume file.length file)
      ≠ crc32 (tailWindow env.cfg.resume file.length content)

/-- The file starts at 0, behind the local bytes, or nowhere. -/
structure StartOk (env : RecvEnv) (batch : List SourceFile) (st : RecvStart) : Prop where
  size_eq : st.size = sizeAt batch st.file
  why : st.offset = 0 ∧ Refuted env (contentAt batch st.file) st.existing
    ∨ Resumable env (contentAt batch st.file) st.existing st.offset
    ∨ Skippable env st.existing ∧ st.offset = st.size

/-- The tail window of a local file of that length. -/
theorem slice_tail_length (cfg : ResumeConfig) {file : Bytes} (hpos : 0 < file.length) :
    file.length - verifyLength cfg file.length + verifyLength cfg file.length ≤ file.length := by
  have := (verifyLength_bounds cfg hpos).2
  omega

/-- A local file that is given up at once is none that could be continued. -/
theorem determineResumeAction_refuted {env : RecvEnv} (hp : StandardProvider env.provider)
    (hrcv : env.cfg.Accepted) {mtu : Nat} {existing : Option Bytes} {content : Bytes}
    (h : determineResumeAction env mtu existing content.length = .startZero) :
    Refuted env content existing := by
  intro file hfile hmode hpos hle hlt hlong
  exfalso
  have hsize := hrcv.packetSize_min
  have hregion : crc32Region env.cfg env.provider mtu file
      (throughLong env.cfg.longBits (file.length - verifyLength env.cfg.resume file.length))
      (verifyLength env.cfg.resume file.length)
      = .ok (crc32 (tailWindow env.cfg.resume file.length file)) := by
    have hback : throughLong env.cfg.longBits
        (file.length - verifyLength env.cfg.resume file.length)
        = file.length - verifyLength env.cfg.resume file.length := by
      unfold throughLong
      rw [hlong]
      omega
    rw [hback]
    exact crc32Region_of_lt hp mtu (by simp only [minPacketSize] at hsize; omega) hlong
      (slice_tail_length env.cfg.resume hpos)
  unfold determineResumeAction at h
  simp only [hfile, hmode, hregion, Nat.not_le.mpr hlt, Nat.pos_iff_ne_zero.mp hpos,
    Nat.not_lt.mpr hle, if_false] at h
  cases h

/-- The decision to skip is one of the policy. -/
theorem determineResumeAction_skip {env : RecvEnv} {mtu incoming : Nat}
    {existing : Option Bytes}
    (h : determineResumeAction env mtu existing incoming = .skipFile) :
    Skippable env existing := by
  unfold determineResumeAction at h
  split at h
  · cases h
  · rename_i file
    split at h
    · cases h
    · split at h
      · cases h
      · rename_i hmode
        split at h
        · rename_i hpos
          exact ⟨file, rfl, hpos, Or.inl hmode⟩
        · cases h
      · rename_i hmode
        split at h
        · cases h
        · rename_i hne
          split at h
          · split at h
            · rename_i hskip
              exact ⟨file, rfl, Nat.pos_of_ne_zero hne, Or.inr ⟨hmode, hskip⟩⟩
            · cases h
          · dsimp only at h
            split at h
            · cases h
            · cases h

/-- A RESUME_RESP that asks for a VERIFY is none that skips. -/
theorem AskOk.not_skip {c : SessionParams} {batch : List SourceFile} (hrcv : c.rcv.cfg.Accepted)
    {existing : Option Bytes} {k off : Nat} {resp : Bytes}
    (h : AskOk c batch existing k resp off) : resp ≠ ResumeDecision.skipFile.wire := by
  obtain ⟨file, crc, hask, -, hcrc, rfl⟩ := h
  have hlt := hask.lt
  have hwin := verifyLength_lt hrcv file.length
  intro heq
  have hread := congrArg deserializeResumeResp heq
  rw [ResumeDecision.deserialize_wire (show file.length < 2 ^ 64 by omega) hcrc
    (show verifyLength c.rcv.cfg.resume file.length < 2 ^ 64 by omega),
    ResumeDecision.deserialize_wire (by decide) (by decide) (by decide)] at hread
  injection hread with hact
  cases hact

theorem startZero_not_skip : ResumeDecision.startZero.wire ≠ ResumeDecision.skipFile.wire := by
  decide

/-- A verdict other than "skipped" is written with another status. -/
theorem sendVerifyResult_skipped {st : Status} {crc crc' : Nat}
    (h : sendVerifyResult st crc = sendVerifyResult .skipped crc')
    (hst : st = .ok ∨ st = .skipped ∨ st = .resumeVerify) : st = .skipped := by
  injection h with _ _ hoff
  rcases hst with rfl | rfl | rfl
  · cases hoff
  · rfl
  · cases hoff

/-! ## §2. The invariant. -/

section Starts

variable (c : SessionParams) (batch : List SourceFile)

/-- **Both sides start a file at the same place.** -/
structure Started (s : SessionSys) : Prop where
  rcv_why : ∀ st ∈ s.rcv.starts, StartOk c.rcv batch st
  rcv_mode : ∀ f resp off, s.rcv.pc.stage = .verifying f resp off →
    c.rcv.cfg.resume.mode = .tail
  rcv_peek : ∀ f, s.rcv.pc = .neverPeek f → c.rcv.cfg.resume.mode = .never
  resp_skip : ∀ it ∈ s.toSnd, it.send = sendResumeResp ResumeDecision.skipFile.wire →
    ∀ k, it.file = some k → s.rcv.Chose k (sizeAt batch k)
  reply_skip : ∀ it ∈ s.toSnd, ∀ crc, it.send = sendVerifyResult .skipped crc →
    ∀ k, it.file = some k → s.rcv.Chose k (sizeAt batch k)
  snd_chose : ∀ e ∈ s.snd.starts, e.size = sizeAt batch e.file ∧ s.rcv.Chose e.file e.offset
  snd_at : s.snd.pc.transfers = true → ∃ e ∈ s.snd.starts, e.file = s.snd.idx
  body_req : ∀ it ∈ s.toRcv, it.send.type.isBody = true → ∀ k, it.file = some k →
    ∃ e ∈ s.snd.starts, e.file = k
  body_rep : ∀ it ∈ s.toSnd, it.send.type.isBody = true → ∀ k, it.file = some k →
    s.rcv.Settled k

variable {c batch} {D : Nat → Option Bytes} {s : SessionSys}

/-! ## §3. The receiver's steps. -/

/-- The file the receiver answers for is its current one. -/
theorem RecvState.handling_eq {r : RecvState} {k : Nat} (h : r.handling = some k) :
    k = r.completed.length := by
  unfold RecvState.handling at h
  split at h
  · cases h
    rfl
  · cases h

/-- What a VERIFY request on its way to the receiver asks. -/
structure Verified (c : SessionParams) (batch : List SourceFile) (s : SessionSys) (file : Bytes)
    (resumeOff : Nat) (p : Packet) : Prop where
  resume_eq : resumeOff = file.length
  pos : 0 < file.length
  le : file.length ≤ sizeAt batch s.rcv.completed.length
  ok : (verifyVerdict c.rcv s.rcv.mtu file p.payload).1 = .ok →
    crc32 (tailWindow c.rcv.cfg.resume file.length file)
      = crc32 (tailWindow c.rcv.cfg.resume file.length
          (contentAt batch s.rcv.completed.length))
  bad : (verifyVerdict c.rcv s.rcv.mtu file p.payload).1 ≠ .ok →
    toSigned c.rcv.cfg.longBits (file.length - verifyLength c.rcv.cfg.resume file.length)
      = (file.length - verifyLength c.rcv.cfg.resume file.length : Nat) →
    crc32 (tailWindow c.rcv.cfg.resume file.length file)
      ≠ crc32 (tailWindow c.rcv.cfg.resume file.length
          (contentAt batch s.rcv.completed.length))

/-- Equal CRCs of a window that can be read are a good verdict. -/
theorem verifyVerdict_bad (hp : StandardProvider c.rcv.provider) (hrcv : c.rcv.cfg.Accepted)
    {mtu size : Nat} {existing : Option Bytes} {file content : Bytes}
    (hask : Asked c size existing file)
    (hlong : toSigned c.rcv.cfg.longBits
        (file.length - verifyLength c.rcv.cfg.resume file.length)
      = (file.length - verifyLength c.rcv.cfg.resume file.length : Nat))
    (h : (verifyVerdict c.rcv mtu file (serializeVerifyRequest
      ⟨file.length - verifyLength c.rcv.cfg.resume file.length,
        (crc32 (tailWindow c.rcv.cfg.resume file.length content)).toNat,
        verifyLength c.rcv.cfg.resume file.length⟩)).1 ≠ .ok) :
    crc32 (tailWindow c.rcv.cfg.resume file.length file)
      ≠ crc32 (tailWindow c.rcv.cfg.resume file.length content) := by
  intro heq
  apply h
  have hsize := hrcv.packetSize_min
  have hregion := crc32Region_of_lt hp mtu
    (show 0 < c.rcv.cfg.packetSize by simp only [minPacketSize] at hsize; omega) hlong
    (slice_tail_length c.rcv.cfg.resume hask.pos)
  unfold verifyVerdict
  rw [deserialize_serializeVerifyRequest (verifyRequest_fits hrcv hask.lt _)]
  simp only [hregion]
  exact if_pos (congrArg UInt32.toNat heq)

/-- A VERIFY packet the receiver takes was sent for the file it is at. -/
theorem Agreed.verified (h : Agreed c batch D s) (hsync : Sync c (script [batch]) s)
    (hone : OneCall s) (hstamp : Stamped s) (hpr : StandardProvider c.rcv.provider)
    (hrcv : c.rcv.cfg.Accepted) (hbusy : s.rcv.pc ≠ .idle) {f : RecvFile} {resp file : Bytes}
    {resumeOff : Nat} (hstage : s.rcv.pc.stage = .verifying f resp resumeOff)
    (hfile : s.rcv.files f.path = some file) {it : Item} (hit : it ∈ s.toRcv) {p : Packet}
    (hp : controlFrame s.rcv.mtu wireVerifyReqPayloadSize it.send.frame = .ok p)
    (htype : p.type = .verify) : Verified c batch s file resumeOff p := by
  have hlog := hone.rcv_busy hbusy
  have hphase : s.rcv.pc.phase = .file f := RecvPc.phase_of_stage (by rw [hstage]; rfl)
  obtain ⟨hlocal, asked, crc₀, hask, hresume, -, -⟩ := h.rcv_verify f resp resumeOff hstage
  have hsame : asked = file := by
    have hex := hlocal.symm.trans hfile
    rw [hask.existing_eq] at hex
    exact Option.some.inj hex
  subst hsame
  -- the item is a request of the current exchange
  have hnamed : it.send.type.isNamed = true := by
    obtain ⟨e, -, hreq⟩ := hsync.req_fits it hit
    exact hreq.named
  have hverify : it.send.type = .verify := by
    rw [← Send.frame_type hnamed, ← controlFrame_type hp, htype]
  obtain ⟨j, hj, hjturn⟩ := hstamp.req_file it hit (by rw [hverify]; rfl)
  have hjk : j = s.rcv.completed.length := by
    have h1 : it.turn = s.rcv.turn := (hsync.turns.inside_turn ⟨f, hphase⟩).2 it hit
    have h2 := hstamp.rcv_turn hlog
      ((hsync.rcv_at (hsync.rcv_busy hbusy)).file_done f hphase)
    omega
  subst hjk
  obtain ⟨-, endOff, payload, hsend, file', src, content, hask', hsrc, hcontent, -, hpay⟩ :=
    h.req_ok it hit hverify _ hj
  have hsame : file' = asked := by
    have hex := hask'.existing_eq
    rw [hask.existing_eq] at hex
    exact (Option.some.inj hex).symm
  subst hsame
  have hpayload : p.payload = payload := by
    rw [hsend] at hp
    refine ((sendVerify_raw ?_).controlFrame hp).2.1
    rw [hpay, serializeVerifyRequest_length]
    decide
  have hbytes : contentAt batch s.rcv.completed.length = content := by
    unfold contentAt
    rw [hsrc]
    show src.content.getD [] = content
    rw [hcontent]
    rfl
  refine ⟨hresume, hask.pos, hask.le, fun hok => ?_, fun hbad hlong => ?_⟩
  · rw [hpayload, hpay] at hok
    rw [hbytes]
    exact verifyVerdict_ok hpr hrcv hask hok
  · rw [hpayload, hpay] at hbad
    rw [hbytes]
    exact verifyVerdict_bad hpr hrcv hask hlong hbad

/-- A settled start is not under negotiation. -/
theorem RecvState.Settles.not_verifying {r r' : RecvState} {f g : RecvFile} {off resumeOff : Nat}
    {resp : Bytes} (h : r.Settles f off r') : r'.pc.stage ≠ .verifying g resp resumeOff := by
  rcases h.ends with ⟨hs, -⟩ | ⟨hs, -⟩ | ⟨hs, -⟩
  · rw [hs]
    exact nofun
  · rw [hs]
    exact nofun
  · rw [hs]
    exact nofun

/-- A VERIFY is asked for under `VAL_RESUME_TAIL` only. -/
theorem NegRecv.verifying_mode {env : RecvEnv} {r : RecvState} {fr : Option Frame}
    {out : List Send × RecvState} (h : NegRecv env r fr out) {f : RecvFile} {resp : Bytes}
    {off : Nat} (hstage : out.2.pc.stage = .verifying f resp off) :
    r.pc.stage = .verifying f resp off ∨ env.cfg.resume.mode = .tail := by
  cases h with
  | keep stage_eq same starts_eq files_eq sends_ok => exact Or.inl (stage_eq.symm.trans hstage)
  | opens hout =>
      unfold RecvState.acceptMeta at hstage
      dsimp only at hstage
      split at hstage <;> cases hstage
  | repeats hold => exact Or.inl hstage
  | @asks g s' hund hfr hact hstage' same starts_eq files_eq =>
      rcases determineResumeAction_cases env r.mtu (r.files g.path) g.size with
        hd | hd | ⟨_, _, _, _, _, _, hmode, _⟩
      · rw [show r.decision env g = _ from hd] at hact
        cases hact
      · rw [show r.decision env g = _ from hd] at hact
        cases hact
      · exact Or.inr hmode
  | decides hund hdec settles sends_ok => exact absurd hstage settles.not_verifying
  | presumes hund settles sends_ok => exact absurd hstage settles.not_verifying
  | verdict hver hfr hp htype hf hoff settles sends_ok =>
      exact absurd hstage settles.not_verifying
  | gone hver hf => cases hstage
  | leaves hstage' starts_eq sends_ok hleft => exact absurd (hstage'.symm.trans hstage) nofun

/-- What is settled stays settled while the receiver's call runs. -/
theorem FileRecv.settled_mono {env : RecvEnv} {r : RecvState} {fr : Option Frame}
    {fs : FsOutcome} {out : List Send × RecvState} (h : FileRecv env r fr fs out)
    (hlog : r.log = []) {k : Nat} (hk : r.Settled k) : out.2.Settled k := by
  have hret : ∀ {r' : RecvState} {e : List MetaPayload × Status}, r'.log = r.log ++ [e] →
      r'.Settled k := by
    intro r' e he
    left
    rw [he]
    exact List.append_ne_nil_of_right_ne_nil _ (List.cons_ne_nil _ _)
  -- a file that is settled but not completed keeps its stage
  have hkeep : ∀ {r' : RecvState}, r'.completed = r.completed →
      (∀ f, r.pc.stage = .settled f → r'.pc.stage = .settled f) → r'.Settled k := by
    intro r' hc hst
    rcases hk with hne | hlt | ⟨heq, f, hf⟩
    · exact absurd hlog hne
    · exact Or.inr (Or.inl (by rw [hc]; exact hlt))
    · exact Or.inr (Or.inr ⟨by rw [hc]; exact heq, f, hst f hf⟩)
  have hpast : ∀ {r' : RecvState} {m : MetaPayload}, r'.completed = r.completed ++ [m] →
      r'.Settled k := by
    intro r' m hm
    right
    left
    rw [hm, List.length_append, List.length_singleton]
    rcases hk with hne | hlt | ⟨heq, -⟩
    · exact absurd hlog hne
    · omega
    · omega
  have hround : ∀ {f : RecvFile} {d : RecvData} (res : List Send × RecvResult),
      r.pc = .dataWait f d → (r.onRecvResult env f res).2.Settled k := by
    intro f d res hpc
    unfold RecvState.onRecvResult
    split
    · refine hkeep rfl ?_
      intro g hg
      rw [hpc] at hg
      exact hg
    · exact hpast rfl
    · exact hret rfl
  cases h with
  | @away sends s' hstage hstage' files_eq starts_eq completed_eq sends_ok =>
      rcases completed_eq with ⟨hc, -⟩ | ⟨st, hl⟩
      · exact hkeep hc fun f hf => absurd hf (hstage f)
      · exact hret hl
  | @opens f off sends s' hpick hopens sends_ok =>
      have hout : ∀ g, r.pc.stage ≠ .settled g := by
        rcases hpick.stage with hs | ⟨_, _, hs⟩
        all_goals
          rw [hs]
          exact nofun
      cases hopens with
      | target hoff => exact hkeep rfl fun g hg => absurd hg (hout g)
      | skipped hoff tries => exact hkeep rfl fun g hg => absurd hg (hout g)
      | refused st hst => exact hret rfl
  | takes hpc hfr => exact hround _ hpc
  | pauses hpc hfr => exact hround _ hpc
  | idles hpc =>
      refine hkeep rfl ?_
      intro g hg
      rw [hpc] at hg
      exact hg
  | ends hpc hfr htype => exact hpast rfl
  | gives hpc hpc' files_eq starts_eq log_eq sends_ok => exact hret log_eq

/-- A packet of the data phase comes from a receiver that has settled its
file. -/
theorem FileRecv.body_settled {env : RecvEnv} {r : RecvState} {fr : Option Frame}
    {fs : FsOutcome} {out : List Send × RecvState} (h : FileRecv env r fr fs out)
    (hlog : r.log = []) {p : Send} (hp : p ∈ out.1) (hbody : p.type.isBody = true) :
    out.2.Settled r.completed.length := by
  have hno : ∀ {sends : List Send}, Bodiless sends → p ∈ sends →
      out.2.Settled r.completed.length := by
    intro sends hsends hmem
    rw [hsends p hmem] at hbody
    cases hbody
  have hkept := h
  cases h with
  | away hstage hstage' files_eq starts_eq completed_eq sends_ok => exact hno sends_ok hp
  | opens hpick hopens sends_ok =>
      cases hopens with
      | target hoff => exact Or.inr (Or.inr ⟨rfl, _, rfl⟩)
      | skipped hoff tries => exact Or.inr (Or.inr ⟨rfl, _, rfl⟩)
      | refused st hst =>
          exact Or.inl (List.append_ne_nil_of_right_ne_nil _ (List.cons_ne_nil _ _))
  | @takes f d frame hpc hfr =>
      exact hkept.settled_mono hlog (Or.inr (Or.inr ⟨rfl, f, by rw [hpc]; rfl⟩))
  | @pauses f d hpc hfr =>
      exact hkept.settled_mono hlog (Or.inr (Or.inr ⟨rfl, f, by rw [hpc]; rfl⟩))
  | idles hpc => exact absurd hp List.not_mem_nil
  | @ends f tries frame hpc hfr htype =>
      exact hkept.settled_mono hlog (Or.inr (Or.inr ⟨rfl, f, by rw [hpc]; rfl⟩))
  | gives hpc hpc' files_eq starts_eq log_eq sends_ok => exact hno sends_ok hp

/-- **Every start offset has a reason.** -/
theorem Started.picks (h : Started c batch s) (hA : Agreed c batch D s)
    (hsync : Sync c (script [batch]) s) (hone : OneCall s) (hstamp : Stamped s)
    (hpr : StandardProvider c.rcv.provider) (hrcv : c.rcv.cfg.Accepted)
    (hbusy : s.rcv.pc ≠ .idle) {fr : Option Frame} {f : RecvFile} {off : Nat}
    (hhead : ∀ frame, fr = some frame → ∃ it ∈ s.toRcv, frame = it.send.frame)
    (hpick : s.rcv.Picks c.rcv fr f off) :
    off = 0 ∧ Refuted c.rcv (contentAt batch s.rcv.completed.length) (s.rcv.files f.path)
    ∨ Resumable c.rcv (contentAt batch s.rcv.completed.length) (s.rcv.files f.path) off
    ∨ Skippable c.rcv (s.rcv.files f.path) ∧ off = f.size := by
  have hsize : f.size = (contentAt batch s.rcv.completed.length).length := by
    apply recv_size hsync hone hstamp
    rcases hpick.stage with hs | ⟨_, _, hs⟩
    all_goals exact RecvPc.phase_of_stage (by rw [hs]; rfl)
  cases hpick with
  | peeks hpc =>
      refine Or.inl ⟨rfl, ?_⟩
      intro file _ hmode
      rw [h.rcv_peek f hpc] at hmode
      cases hmode
  | restarts hstage hdec =>
      rw [hsize] at hdec
      exact Or.inl ⟨rfl, determineResumeAction_refuted hpr hrcv hdec⟩
  | keeps hstage hdec => exact Or.inr (Or.inr ⟨determineResumeAction_skip hdec, rfl⟩)
  | @verdict resp file resumeOff off frame p hstage hfr hp htype hfile hoff =>
      obtain ⟨it, hit, rfl⟩ := hhead frame hfr
      have hver := hA.verified hsync hone hstamp hpr hrcv hbusy hstage hfile hit hp htype
      have hmode := h.rcv_mode f resp resumeOff hstage
      rcases hoff with ⟨hok, hoff⟩ | ⟨hskip, hoff⟩ | ⟨hbad, hoff⟩
      · right
        left
        rw [hoff, hver.resume_eq]
        exact ⟨file, hfile, rfl, hver.pos, hver.le, hmode, hver.ok hok⟩
      · -- only the policy turns a mismatch into a skip
        refine Or.inr (Or.inr ⟨⟨file, hfile, hver.pos, Or.inr ⟨hmode, ?_⟩⟩, hoff⟩)
        have hstatus : mismatchStatus c.rcv = .skipped := by
          unfold verifyVerdict at hskip
          dsimp only at hskip
          split at hskip
          · rename_i crc _
            by_cases heq : crc.toNat = (deserializeVerifyRequest p.payload).crc
            · rw [if_pos heq] at hskip
              cases hskip
            · rwa [if_neg heq] at hskip
          · exact hskip
        unfold mismatchStatus at hstatus
        split at hstatus
        · rename_i hpolicy
          exact hpolicy.1
        · cases hstatus
      · refine Or.inl ⟨hoff, ?_⟩
        intro file' hfile' _ _ _ _ hlong
        rw [hfile] at hfile'
        cases hfile'
        exact hver.bad (by rw [hbad]; exact nofun) hlong

/-- A step leaves the starts alone or settles one. -/
theorem FileRecv.starts_cases {env : RecvEnv} {r : RecvState} {fr : Option Frame}
    {fs : FsOutcome} {out : List Send × RecvState} (h : FileRecv env r fr fs out) :
    out.2.starts = r.starts
    ∨ ∃ f off, r.Picks env fr f off
        ∧ out.2.starts = r.starts ++ [⟨r.completed.length, f.size, off, r.files f.path⟩] := by
  have hround : ∀ (f : RecvFile) (res : List Send × RecvResult),
      (r.onRecvResult env f res).2.starts = r.starts := by
    intro f res
    unfold RecvState.onRecvResult
    split <;> rfl
  cases h with
  | away hstage hstage' files_eq starts_eq completed_eq sends_ok peek_ok => exact Or.inl starts_eq
  | @opens f off sends s' hpick hopens sends_ok =>
      refine Or.inr ⟨f, off, hpick, ?_⟩
      cases hopens with
      | target hoff => rfl
      | skipped hoff tries => rfl
      | refused st hst => rfl
  | takes hpc hfr => exact Or.inl (hround _ _)
  | pauses hpc hfr => exact Or.inl (hround _ _)
  | idles hpc => exact Or.inl rfl
  | ends hpc hfr htype => exact Or.inl rfl
  | gives hpc hpc' files_eq starts_eq log_eq sends_ok => exact Or.inl starts_eq

/-- **Every start of the receiver has a reason.** -/
theorem Started.start_ok (h : Started c batch s) (hA : Agreed c batch D s)
    (hsync : Sync c (script [batch]) s) (hone : OneCall s) (hstamp : Stamped s)
    (hpr : StandardProvider c.rcv.provider) (hrcv : c.rcv.cfg.Accepted)
    (hbusy : s.rcv.pc ≠ .idle) {fr : Option Frame} {fs : FsOutcome} {r : List Send × RecvState}
    (hhead : ∀ frame, fr = some frame → ∃ it ∈ s.toRcv, frame = it.send.frame)
    (hfile : FileRecv c.rcv s.rcv fr fs r) :
    s.rcv.starts ⊆ r.2.starts ∧ ∀ st ∈ r.2.starts, StartOk c.rcv batch st := by
  rcases hfile.starts_cases with heq | ⟨f, off, hpick, heq⟩
  · rw [heq]
    exact ⟨fun _ hx => hx, h.rcv_why⟩
  · rw [heq]
    refine ⟨List.subset_append_left _ _, fun st hst => ?_⟩
    rcases List.mem_append.mp hst with hst | hst
    · exact h.rcv_why st hst
    · rw [List.mem_singleton.mp hst]
      refine ⟨?_, h.picks hA hsync hone hstamp hpr hrcv hbusy hhead hpick⟩
      apply recv_size hsync hone hstamp
      rcases hpick.stage with hs | ⟨_, _, hs⟩
      all_goals exact RecvPc.phase_of_stage (by rw [hs]; rfl)

/-- The peek of `VAL_RESUME_NEVER` belongs to that mode. -/
theorem FileRecv.peek_mode {env : RecvEnv} {r : RecvState} {fr : Option Frame} {fs : FsOutcome}
    {out : List Send × RecvState} (h : FileRecv env r fr fs out) {f : RecvFile}
    (hpc : out.2.pc = .neverPeek f) :
    r.pc = .neverPeek f ∨ env.cfg.resume.mode = .never := by
  have hround : ∀ (g : RecvFile) (res : List Send × RecvResult),
      (r.onRecvResult env g res).2.pc ≠ .neverPeek f := by
    intro g res
    unfold RecvState.onRecvResult
    split <;> exact nofun
  cases h with
  | away hstage hstage' files_eq starts_eq completed_eq sends_ok peek_ok => exact peek_ok f hpc
  | opens hpick hopens sends_ok =>
      cases hopens with
      | target hoff => cases hpc
      | skipped hoff tries => cases hpc
      | refused st hst => cases hpc
  | takes hpc' hfr => exact absurd hpc (hround _ _)
  | pauses hpc' hfr => exact absurd hpc (hround _ _)
  | idles hpc' => cases hpc
  | ends hpc' hfr htype => cases hpc
  | gives hpc' hidle files_eq starts_eq log_eq sends_ok =>
      rw [show _ = RecvPc.neverPeek f from hpc] at hidle
      cases hidle

/-- **A step of the receiver.** -/
theorem Started.answered (h : Started c batch s) (hA : Agreed c batch D s)
    (hsync : Sync c (script [batch]) s) (hone : OneCall s) (hstamp : Stamped s)
    (hpr : StandardProvider c.rcv.provider) (hrcv : c.rcv.cfg.Accepted)
    (hbusy : s.rcv.pc ≠ .idle) {fr : Option Frame} {fs : FsOutcome} {r : List Send × RecvState}
    {down : List Item} (hdown : down ⊆ s.toRcv)
    (hhead : ∀ frame, fr = some frame → ∃ it ∈ s.toRcv, frame = it.send.frame)
    (hneg : NegRecv c.rcv s.rcv fr r) (hfile : FileRecv c.rcv s.rcv fr fs r) :
    Started c batch ({ s with toRcv := down }.answered r) := by
  have hlog := hone.rcv_busy hbusy
  obtain ⟨hsub, hwhy⟩ := h.start_ok hA hsync hone hstamp hpr hrcv hbusy hhead hfile
  have hsize : ∀ {f : RecvFile}, s.rcv.pc.stage.file = some f →
      f.size = sizeAt batch s.rcv.completed.length :=
    fun hf => recv_size hsync hone hstamp (RecvPc.phase_of_stage hf)
  refine
    { rcv_why := hwhy
      rcv_mode := ?_
      rcv_peek := ?_
      resp_skip := ?_
      reply_skip := ?_
      snd_chose := fun e he => ⟨(h.snd_chose e he).1, (h.snd_chose e he).2.mono hsub⟩
      snd_at := h.snd_at
      body_req := fun it hit => h.body_req it (hdown hit)
      body_rep := ?_ }
  · intro f resp off hstage
    rcases hneg.verifying_mode hstage with hold | hmode
    · exact h.rcv_mode f resp off hold
    · exact hmode
  · intro f hpc
    rcases hfile.peek_mode hpc with hold | hmode
    · exact h.rcv_peek f hold
    · exact hmode
  · intro it hit hsend k hk
    rcases List.mem_append.mp hit with hit | hit
    · exact (h.resp_skip it hit hsend k hk).mono hsub
    · obtain ⟨hmem, -, hfile'⟩ := mem_stamped hit
      obtain rfl := RecvState.handling_eq (hfile'.symm.trans hk)
      rw [hsend] at hmem
      -- the only new RESUME_RESP that skips is the decision to do so
      have hquiet : ∀ {sends : List Send}, (∀ p ∈ sends, p.type.isNegotiation = false) →
          sendResumeResp ResumeDecision.skipFile.wire ∉ sends := by
        intro sends hsends hin
        cases hsends _ hin
      cases hneg with
      | keep stage_eq same starts_eq files_eq sends_ok => exact absurd hmem (hquiet sends_ok)
      | opens hstage => exact absurd hmem List.not_mem_nil
      | @repeats f resp off hstage =>
          obtain ⟨-, hask⟩ := hA.rcv_verify f resp off hstage
          have heq := List.mem_singleton.mp hmem
          injection heq with _ hpay
          exact absurd hpay.symm (hask.not_skip hrcv)
      | @asks f s' hstage hfr hact hstage' same starts_eq files_eq =>
          have heq := List.mem_singleton.mp hmem
          injection heq with _ hpay
          -- the action is the first word
          rcases determineResumeAction_cases c.rcv s.rcv.mtu (s.rcv.files f.path) f.size with
            hd | hd | ⟨file, crc, -, -, -, hlt, -, -, hd⟩
          · rw [show s.rcv.decision c.rcv f = _ from hd] at hact
            cases hact
          · rw [show s.rcv.decision c.rcv f = _ from hd] at hact
            cases hact
          · have hwin := verifyLength_lt hrcv file.length
            have hcrc := crc.toNat_lt
            rw [show s.rcv.decision c.rcv f = _ from hd] at hpay
            have hread := congrArg deserializeResumeResp hpay
            rw [ResumeDecision.deserialize_wire (by decide) (by decide) (by decide),
              ResumeDecision.deserialize_wire (show file.length < 2 ^ 64 by omega)
                (show crc.toNat < 2 ^ 32 from hcrc)
                (show verifyLength c.rcv.cfg.resume file.length < 2 ^ 64 by omega)] at hread
            injection hread with hword
            cases hword
      | @decides f off sends s' hstage hdec settles sends_ok =>
          rcases List.mem_cons.mp hmem with heq | hmem
          · injection heq with _ hpay
            rcases hdec with ⟨hd, -⟩ | ⟨-, hoff⟩
            · rw [hd] at hpay
              exact absurd hpay.symm startZero_not_skip
            · have hchose := settles.chose
              rw [hoff, hsize (by rw [hstage]; rfl)] at hchose
              exact hchose
          · exact absurd hmem (hquiet sends_ok)
      | presumes hstage settles sends_ok => exact absurd hmem (hquiet sends_ok)
      | verdict hstage hfr hp htype hf hoff settles sends_ok =>
          rcases List.mem_cons.mp hmem with heq | hmem
          · cases heq
          · exact absurd hmem (hquiet sends_ok)
      | gone hstage hf =>
          cases List.mem_singleton.mp hmem
      | leaves hstage' starts_eq sends_ok hleft => exact absurd hmem (hquiet sends_ok)
  · intro it hit crc hsend k hk
    rcases List.mem_append.mp hit with hit | hit
    · exact (h.reply_skip it hit crc hsend k hk).mono hsub
    · obtain ⟨hmem, -, hfile'⟩ := mem_stamped hit
      obtain rfl := RecvState.handling_eq (hfile'.symm.trans hk)
      rw [hsend] at hmem
      have hquiet : ∀ {sends : List Send}, (∀ p ∈ sends, p.type.isNegotiation = false) →
          sendVerifyResult .skipped crc ∉ sends := by
        intro sends hsends hin
        cases hsends _ hin
      cases hneg with
      | keep stage_eq same starts_eq files_eq sends_ok => exact absurd hmem (hquiet sends_ok)
      | opens hstage => exact absurd hmem List.not_mem_nil
      | repeats hstage => cases List.mem_singleton.mp hmem
      | asks hstage hfr hact hstage' same starts_eq files_eq =>
          cases List.mem_singleton.mp hmem
      | decides hstage hdec settles sends_ok =>
          rcases List.mem_cons.mp hmem with heq | hmem
          · cases heq
          · exact absurd hmem (hquiet sends_ok)
      | presumes hstage settles sends_ok => exact absurd hmem (hquiet sends_ok)
      | @verdict f resp file resumeOff off frame p sends s' hstage hfr hp htype hf hoff settles
          sends_ok =>
          rcases List.mem_cons.mp hmem with heq | hmem
          · have hskipped := sendVerifyResult_skipped heq.symm
              (verifyVerdict_cases c.rcv s.rcv.mtu file p.payload)
            have hchose := settles.chose
            rcases hoff with ⟨hok, -⟩ | ⟨-, hoff⟩ | ⟨hbad, -⟩
            · rw [hok] at hskipped
              cases hskipped
            · rw [hoff, hsize (by rw [hstage]; rfl)] at hchose
              exact hchose
            · rw [hbad] at hskipped
              cases hskipped
          · exact absurd hmem (hquiet sends_ok)
      | gone hstage hf =>
          have hskipped := sendVerifyResult_skipped (List.mem_singleton.mp hmem).symm
            (Or.inr (Or.inr rfl))
          cases hskipped
      | leaves hstage' starts_eq sends_ok hleft => exact absurd hmem (hquiet sends_ok)
  · intro it hit hbody k hk
    rcases List.mem_append.mp hit with hit | hit
    · exact hfile.settled_mono hlog (h.body_rep it hit hbody k hk)
    · obtain ⟨hmem, -, hfile'⟩ := mem_stamped hit
      obtain rfl := RecvState.handling_eq (hfile'.symm.trans hk)
      exact hfile.body_settled hlog hmem hbody

/-! ## §4. The sender's steps. -/

/-- A round of the window leaves the starts and the file alone. -/
theorem SendState.onDataResult_keeps (env : SendEnv) (t : SendState) (io : SendFile)
    (r : List Send × DataResult) :
    (t.onDataResult env io r).2.starts = t.starts ∧ (t.onDataResult env io r).2.idx = t.idx := by
  unfold SendState.onDataResult
  split <;> exact ⟨rfl, rfl⟩

/-- The file is started where the data phase begins. -/
theorem SendState.startFile_starts (env : SendEnv) (t : SendState) (content : Bytes) (off : Nat) :
    t.startFile env content off = ([], t.ret .io)
    ∨ (t.startFile env content off).2.starts = t.starts ++ [⟨t.idx, content.length, off⟩]
      ∧ (t.startFile env content off).2.idx = t.idx := by
  unfold SendState.startFile
  split
  · exact Or.inl rfl
  · right
    dsimp only
    split
    · exact ⟨rfl, rfl⟩
    · exact SendState.onDataResult_keeps env _ _ _

/-- In the data phase, behind a step of the sender, the current file is
started; so it is where a packet of the data phase has been sent. -/
theorem FileSend.at_file {env : SendEnv} {t : SendState} {fr : Option Frame}
    {r : List Send × SendState} (h : FileSend env t fr r)
    (hat : t.pc.transfers = true → ∃ e ∈ t.starts, e.file = t.idx)
    (hnow : r.2.pc.transfers = true ∨ ∃ p ∈ r.1, p.type.isBody = true) :
    ∃ e ∈ r.2.starts, e.file = r.2.idx := by
  -- a start added for the current file
  have hadd : ∀ {n off : Nat}, r.2.starts = t.starts ++ [⟨t.idx, n, off⟩] → r.2.idx = t.idx →
      ∃ e ∈ r.2.starts, e.file = r.2.idx := by
    intro n off hst hidx
    rw [hst, hidx]
    exact ⟨_, List.mem_append_right _ (List.mem_singleton_self _), rfl⟩
  cases h with
  | away hpc' starts_eq sends_ok =>
      rcases hnow with hpc | ⟨p, hp, hbody⟩
      · exact absurd (hpc.symm.trans hpc') nofun
      · rw [sends_ok p hp] at hbody
        cases hbody
  | @enters content off hears hcontent =>
      rcases SendState.startFile_starts env t content off with heq | ⟨hst, hidx⟩
      · rw [heq] at hnow
        rcases hnow with hpc | ⟨p, hp, -⟩
        · cases hpc
        · exact absurd hp List.not_mem_nil
      · exact hadd hst hidx
  | skips hears hcontent => exact hadd rfl rfl
  | @moves io d m hpc =>
      obtain ⟨hst, hidx⟩ :=
        SendState.onDataResult_keeps env { t with flow := d.flow } io (m.run io)
      rw [hst, hidx]
      exact hat (by rw [hpc]; rfl)
  | waits hpc sends_ok => exact hat (by rw [hpc]; rfl)

theorem FileSend.starts_sub {env : SendEnv} {t : SendState} {fr : Option Frame}
    {r : List Send × SendState} (h : FileSend env t fr r) : t.starts ⊆ r.2.starts := by
  cases h with
  | away hpc' starts_eq sends_ok =>
      rw [starts_eq]
      exact fun _ hx => hx
  | @enters content off hears hcontent =>
      rcases SendState.startFile_starts env t content off with heq | ⟨hst, -⟩
      · rw [heq]
        exact fun _ hx => hx
      · rw [hst]
        exact List.subset_append_left _ _
  | skips hears hcontent => exact List.subset_append_left _ _
  | @moves io d m hpc =>
      rw [(SendState.onDataResult_keeps env { t with flow := d.flow } io (m.run io)).1]
      exact fun _ hx => hx
  | waits hpc sends_ok => exact fun _ hx => hx

/-- Only a negotiating sender hears. -/
theorem SendState.Hears.content_eq {env : SendEnv} {t : SendState} {fr : Option Frame}
    {content : Bytes} {o : ResumeOutcome} (h : t.Hears env fr content o) :
    t.pc.content = some content := by
  cases h with
  | resp hpc hfr hp htype =>
      rw [hpc]
      rfl
  | verdict hpc hfr hp htype =>
      rw [hpc]
      rfl

/-- **A skip the sender hears is one the receiver has chosen.** -/
theorem Started.hears_skip (h : Started c batch s) (hA : Agreed c batch D s)
    (hsync : Sync c (script [batch]) s) (hone : OneCall s) (hstamp : Stamped s)
    (hrcv : c.rcv.cfg.Accepted) {fr : Option Frame}
    (hhead : ∀ frame, fr = some frame → ∃ it ∈ s.toSnd, frame = it.send.frame)
    {content : Bytes} {o : ResumeOutcome} (ho : s.snd.Hears c.snd fr content o)
    (hskip : o = .skip) : s.rcv.Chose s.snd.idx (sizeAt batch s.snd.idx) := by
  -- an item the sender takes in the exchange of file `idx` belongs to that file
  have hfile : s.snd.pc.exchange = some .file → ∀ it ∈ s.toSnd,
      it.send.type.isFileReply = true → it.file = some s.snd.idx := by
    intro hex it hit htype
    obtain ⟨j, hj, hjturn⟩ := hstamp.rep_file it hit htype
    have hbusy : s.snd.pc ≠ .idle := fun hidle => by rw [hidle] at hex; cases hex
    have hitturn : it.turn = s.snd.turn := hsync.turns.up_turn it hit
    have hturn := hstamp.snd_turn (hone.snd_busy hbusy)
    rw [if_pos ((hsync.snd_at (hsync.snd_busy hbusy)).file_ok hex).2] at hturn
    rw [hj, show j = s.snd.idx by omega]
  have htypes : ∀ {it : Item} {mtu cap : Nat} {q : Packet}, it ∈ s.toSnd →
      controlFrame mtu cap it.send.frame = .ok q → it.send.type = q.type := by
    intro it mtu cap q hit hq
    rw [controlFrame_type hq, Send.frame_type (hsync.rep_named it hit)]
  cases ho with
  | @resp n f p hpc hfr hq htype =>
      obtain ⟨it, hit, rfl⟩ := hhead f hfr
      have hty := (htypes hit hq).trans htype
      have hk := hfile (by rw [hpc]; rfl) it hit (by rw [hty]; rfl)
      rcases (hA.resp_ok it hit hty _ hk).2 with
        ⟨hsend, -⟩ | hsend | ⟨resp, off, hsend, file, crc, hask, -, hcrc, rfl⟩
      · rw [hsend] at hq
        rw [((sendResumeResp_raw _).controlFrame hq).2.1] at hskip
        exact absurd ((onResumeResp_startZero _ _ _).symm.trans hskip) nofun
      · exact h.resp_skip it hit hsend _ hk
      · -- a question is answered with a request or an error
        obtain ⟨src, hsrc, hread⟩ := hA.snd_content content (by rw [hpc]; rfl)
        have hsize : sizeAt batch s.snd.idx = content.length := by
          unfold sizeAt
          rw [hsrc]
          show (src.content.getD []).length = _
          rw [(SourceFile.readable_spec hread).1, Option.getD_some]
        have hle := hask.le
        rw [hsize] at hle
        obtain ⟨hpos, hwin⟩ := verifyLength_bounds c.rcv.cfg.resume hask.pos
        rw [hsend] at hq
        rw [((sendResumeResp_raw _).controlFrame hq).2.1] at hskip
        have hreq := onResumeResp_verifyFirst c.snd s.snd.mtu hle hask.lt hcrc hpos hwin
          (verifyLength_lt hrcv _)
        have hcontra := hreq.symm.trans hskip
        split at hcontra <;> cases hcontra
  | @verdict n endOff payload f p hpc hfr hq htype =>
      obtain ⟨it, hit, rfl⟩ := hhead f hfr
      have hty := (htypes hit hq).trans htype
      have hk := hfile (by rw [hpc]; rfl) it hit (by rw [hty]; rfl)
      obtain ⟨st, crc, hsend, hst⟩ := (hA.reply_ok it hit hty _ hk).2
      have hverdict : st = .ok ∨ st = .skipped ∨ st = .resumeVerify := by
        rcases hst with hst | ⟨hst, -⟩ | ⟨hst, -⟩
        · exact Or.inr (Or.inl hst)
        · exact Or.inr (Or.inr hst)
        · exact Or.inl hst
      have hread : onVerifyResult endOff (serializeVerifyResponse st crc) = .skip := by
        rw [hsend] at hq
        rw [((sendVerifyResult_raw st crc).controlFrame hq).2.1] at hskip
        exact hskip
      rw [onVerifyResult_verdict _ _ hverdict] at hread
      rcases hverdict with rfl | rfl | rfl
      · cases hread
      · exact h.reply_skip it hit crc hsend _ hk
      · cases hread

/-- **A step of the sender.** -/
theorem Started.sent (h : Started c batch s) (hA : Agreed c batch D s)
    (hsync : Sync c (script [batch]) s) (hone : OneCall s) (hstamp : Stamped s)
    (hps : StandardProvider c.snd.provider) (hrcv : c.rcv.cfg.Accepted) {fr : Option Frame}
    {r : List Send × SendState} {up : List Item} {calls : List (List SourceFile)}
    (hup : up ⊆ s.toSnd)
    (hhead : ∀ frame, fr = some frame → ∃ it ∈ s.toSnd, frame = it.send.frame)
    (hneg : NegSend c.snd s.snd fr r) (hfile : FileSend c.snd s.snd fr r) :
    Started c batch ({ s with toSnd := up, sndCalls := calls }.sent r) where
  rcv_why := h.rcv_why
  rcv_mode := h.rcv_mode
  rcv_peek := h.rcv_peek
  resp_skip := fun it hit => h.resp_skip it (hup hit)
  reply_skip := fun it hit => h.reply_skip it (hup hit)
  snd_chose := by
    intro e he
    replace he : e ∈ r.2.starts := he
    rcases hneg.starts with heq | ⟨content, off, heq, hhears⟩
    · rw [heq] at he
      exact h.snd_chose e he
    · rw [heq] at he
      rcases List.mem_append.mp he with he | he
      · exact h.snd_chose e he
      · rw [List.mem_singleton.mp he]
        -- the content is the one of the batch
        have hcontent : s.snd.pc.content = some content := by
          rcases hhears with hh | ⟨hh, -⟩
          · exact hh.content_eq
          · exact hh.content_eq
        obtain ⟨src, hsrc, hread⟩ := hA.snd_content content hcontent
        have hsize : content.length = sizeAt batch s.snd.idx := by
          unfold sizeAt
          rw [hsrc]
          show _ = (src.content.getD []).length
          rw [(SourceFile.readable_spec hread).1, Option.getD_some]
        refine ⟨hsize, ?_⟩
        rcases hhears with hh | ⟨hh, hoff⟩
        · cases hA.hears hsync hone hstamp hps hrcv hhead hh with
          | zero hch => exact hch
          | resume hex hsrc' hcontent' hch hcrc => exact hch
        · have hch := h.hears_skip hA hsync hone hstamp hrcv hhead hh rfl
          show s.rcv.Chose s.snd.idx off
          rw [hoff, hsize]
          exact hch
  snd_at := fun hpc => hfile.at_file h.snd_at (Or.inl hpc)
  body_req := by
    intro it hit hbody k hk
    rcases List.mem_append.mp hit with hit | hit
    · obtain ⟨e, he, heq⟩ := h.body_req it hit hbody k hk
      exact ⟨e, hfile.starts_sub he, heq⟩
    · obtain ⟨hmem, -, hf⟩ := mem_stamped hit
      obtain ⟨e, he, heq⟩ := hfile.at_file h.snd_at (Or.inr ⟨it.send, hmem, hbody⟩)
      rw [hf] at hk
      cases hk
      exact ⟨e, he, heq⟩
  body_rep := fun it hit => h.body_rep it (hup hit)

/-! ## §5. Every step. -/

theorem started_init (files : Bytes → Option Bytes) (dir : Bytes) :
    Started c batch (SessionSys.init c files [batch] [dir]) :=
  ⟨nofun, nofun, nofun, nofun, nofun, nofun, nofun, nofun, nofun⟩

/-- **Step lemma.** -/
theorem started_step {s' : SessionSys} {l : SessionLabel} (hv : c.rcv.validator = none)
    (hps : StandardProvider c.snd.provider) (hpr : StandardProvider c.rcv.provider)
    (hrcv : c.rcv.cfg.Accepted) (hsync : Sync c (script [batch]) s) (hone : OneCall s)
    (hstamp : Stamped s) (hA : Agreed c batch D s) (h : Started c batch s)
    (hstep : s.step c l = some s') : Started c batch s' := by
  cases SessionSys.step_inv hstep with
  | @sndCall batch' rest hcalls hidle =>
      exact @Started.sent c batch D s h hA hsync hone hstamp hps hrcv none _ s.toSnd rest
        (fun _ hx => hx) nofun (SendState.call_neg c.snd s.snd batch')
        (SendState.call_file c.snd s.snd batch')
  | @rcvCall dir rest hcalls hidle =>
      have hstage : (s.rcv.call c.rcv dir).pc.stage = .outside := by
        unfold RecvState.call
        dsimp only
        split <;> rfl
      have hset : ∀ k, s.rcv.Settled k → (s.rcv.call c.rcv dir).Settled k := by
        rintro k (hne | hk | ⟨-, f, hf⟩)
        · exact Or.inl hne
        · exact Or.inr (Or.inl hk)
        · rw [hidle] at hf
          cases hf
      refine ⟨h.rcv_why, ?_, ?_, h.resp_skip, h.reply_skip, h.snd_chose, h.snd_at, h.body_req,
        fun it hit hbody k hk => hset k (h.body_rep it hit hbody k hk)⟩
      · intro f resp off hf
        exact absurd (hstage.symm.trans hf) nofun
      · intro f hf
        rw [show (s.rcv.call c.rcv dir).pc = .neverPeek f from hf] at hstage
        cases hstage
  | @sndRecv it rest hchan hbusy =>
      refine h.sent hA hsync hone hstamp hps hrcv ?_ ?_
        (SendState.onFrame_neg c.snd s.snd it.send.frame)
        (SendState.onFrame_file c.snd s.snd it.send.frame)
      · rw [hchan]
        exact List.subset_cons_self _ _
      · rintro _ ⟨⟩
        exact ⟨it, by rw [hchan]; exact List.mem_cons_self .., rfl⟩
  | @sndTimeout timer hbusy =>
      exact @Started.sent c batch D s h hA hsync hone hstamp hps hrcv none _ s.toSnd s.sndCalls
        (fun _ hx => hx) nofun (SendState.onTimeout_neg c.snd s.snd timer)
        (SendState.onTimeout_file c.snd s.snd timer)
  | @rcvRecv it rest fs hchan hbusy =>
      refine h.answered hA hsync hone hstamp hpr hrcv hbusy ?_ ?_
        (RecvState.onFrame_neg hv s.rcv it.send.frame fs)
        (RecvState.onFrame_file hv s.rcv it.send.frame fs)
      · rw [hchan]
        exact List.subset_cons_self _ _
      · rintro _ ⟨⟩
        exact ⟨it, by rw [hchan]; exact List.mem_cons_self .., rfl⟩
  | @rcvTimeout timer fs hbusy =>
      exact @Started.answered c batch D s h hA hsync hone hstamp hpr hrcv hbusy none fs _ s.toRcv
        (fun _ hx => hx) nofun (RecvState.onTimeout_neg hv s.rcv timer fs)
        (RecvState.onTimeout_file hv s.rcv timer fs)
  | lose hl hrcv' hsnd' =>
      exact ⟨h.rcv_why, h.rcv_mode, h.rcv_peek, fun it hit => h.resp_skip it (hsnd'.subset hit),
        fun it hit => h.reply_skip it (hsnd'.subset hit), h.snd_chose, h.snd_at,
        fun it hit => h.body_req it (hrcv'.subset hit),
        fun it hit => h.body_rep it (hsnd'.subset hit)⟩

end Starts

end ValProtocol
