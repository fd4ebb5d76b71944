/-
  ValProtocol.Session.FaultFree
  ─────────────────────────────
  What a batch does to the receiver's directory when nothing goes wrong.

  `stored` says what a file becomes, from what stands under its name and the
  sender's content; a batch is the left fold of that over its files, so a
  later file may meet what an earlier one left behind.

    • `negotiate`        — the two sides settle on a start, and what the
      receiver keeps in front of it completes the stored file;
    • `transfer`         — the data phase, packet by packet;
    • `batch_semantics`  — both calls return `VAL_OK`, and the directory is
      the fold, along every run.
-/
import ValProtocol.Data.Transfer
import ValProtocol.Session.Walk

namespace ValProtocol

/-! ## §1. What a file becomes. -/

/-- The file under a name after a transfer: `existing` is what was there. -/
def stored (cfg : ResumeConfig) (existing : Option Bytes) (content : Bytes) : Bytes :=
  match cfg.mode, existing with
  | .never, _ => content
  | _, none => content
  | .skipExisting, some e => if e ≠ [] then e else content
  | .tail, some e =>
      if e = [] then content
      else if e.length > content.length
          ∨ crc32 (tailWindow cfg e.length e) ≠ crc32 (tailWindow cfg e.length content) then
        if cfg.mismatchSkip then e else content
      else e ++ content.drop e.length

/-- The path of a name in the receiver's directory. -/
def targetFile (env : RecvEnv) (dir name : Bytes) : Bytes :=
  joinPath env.pathSep 512 (dir.take maxPath) name

/-- The receiver's directory: what stands under each name. -/
def directory (env : RecvEnv) (dir : Bytes) (files : Bytes → Option Bytes) (name : Bytes) :
    Option Bytes :=
  files (targetFile env dir name)

/-- One file of a batch, as the directory sees it. -/
def receiveNamed (cfg : ResumeConfig) (D : Bytes → Option Bytes) (f : SourceFile) :
    Bytes → Option Bytes :=
  Function.update D f.name (some (stored cfg (D f.name) (f.content.getD [])))

/-- One file of a batch, as the filesystem sees it. -/
def receiveFile (env : RecvEnv) (dir : Bytes) (files : Bytes → Option Bytes) (f : SourceFile) :
    Bytes → Option Bytes :=
  Function.update files (targetFile env dir f.name)
    (some (stored env.cfg.resume (files (targetFile env dir f.name)) (f.content.getD [])))

theorem SourceFile.name_length (f : SourceFile) : f.name.length ≤ maxFilename :=
  (cleanFilename_clean _).length_le

theorem targetFile_inj {env : RecvEnv} {dir a b : Bytes} (ha : a.length ≤ maxFilename)
    (hb : b.length ≤ maxFilename) (h : targetFile env dir a = targetFile env dir b) : a = b := by
  have hdir : (dir.take maxPath).length ≤ maxPath := List.length_take_le _ _
  simp only [maxPath, maxFilename] at hdir ha hb
  exact joinPath_inj (by simp only [maxPath]; omega) (by simp only [maxPath]; omega) h

/-- The fold on the filesystem is the fold on the directory. -/
theorem directory_fold (env : RecvEnv) (dir : Bytes) (batch : List SourceFile)
    (files : Bytes → Option Bytes) {name : Bytes} (hname : name.length ≤ maxFilename) :
    directory env dir (batch.foldl (receiveFile env dir) files) name
      = batch.foldl (receiveNamed env.cfg.resume) (directory env dir files) name := by
  -- the two directories agree on every name a file can have
  suffices H : ∀ D : Bytes → Option Bytes,
      (∀ n : Bytes, n.length ≤ maxFilename → directory env dir files n = D n) →
      directory env dir (batch.foldl (receiveFile env dir) files) name
        = batch.foldl (receiveNamed env.cfg.resume) D name from H _ (fun _ _ => rfl)
  induction batch generalizing files with
  | nil => exact fun D hD => hD name hname
  | cons f batch ih =>
      intro D hD
      rw [List.foldl_cons, List.foldl_cons]
      apply ih
      intro n hn
      have hf := f.name_length
      unfold directory receiveFile receiveNamed
      by_cases heq : n = f.name
      · subst heq
        rw [Function.update_self, Function.update_self, ← hD _ hn]
        rfl
      · rw [Function.update_of_ne (fun h => heq (targetFile_inj hn hf h)),
          Function.update_of_ne heq]
        exact hD n hn

/-- File sizes fit the `int64_t` of `ftell`. -/
def Sized (files : Bytes → Option Bytes) : Prop := ∀ path e, files path = some e → e.length < 2 ^ 63

theorem stored_length {cfg : ResumeConfig} {existing : Option Bytes} {content : Bytes}
    (hcontent : content.length < 2 ^ 63) (he : ∀ e, existing = some e → e.length < 2 ^ 63) :
    (stored cfg existing content).length < 2 ^ 63 := by
  unfold stored
  split
  · exact hcontent
  · exact hcontent
  · rename_i e _
    split
    · exact he e rfl
    · exact hcontent
  · rename_i e _
    have := he e rfl
    split
    · exact hcontent
    · split
      · split
        · exact he e rfl
        · exact hcontent
      · rename_i hcond
        have hle : ¬ e.length > content.length := fun h => hcond (Or.inl h)
        rw [List.length_append, List.length_drop]
        omega

theorem Sized.receiveFile {env : RecvEnv} {dir : Bytes} {files : Bytes → Option Bytes}
    (h : Sized files) {f : SourceFile} {content : Bytes} (hread : f.readable = some content) :
    Sized (receiveFile env dir files f) := by
  obtain ⟨hc, hlt⟩ := SourceFile.readable_spec hread
  intro path e he
  unfold ValProtocol.receiveFile at he
  by_cases hp : path = targetFile env dir f.name
  · rw [hp, Function.update_self] at he
    cases he
    rw [hc, Option.getD_some]
    exact stored_length hlt (fun e he => h _ e he)
  · rw [Function.update_of_ne hp] at he
    exact h path e he

/-! ## §2. The data phase. -/

section Transfer

variable {c : SessionParams} {batch : List SourceFile} {k : Nat} {dir : Bytes}
  {files : Bytes → Option Bytes} {completed : List MetaPayload} {P : View → Prop}

/-- Behind the data: DONE is on its way, the file is complete. -/
structure Transferred (c : SessionParams) (batch : List SourceFile) (k : Nat) (dir : Bytes)
    (files : Bytes → Option Bytes) (completed : List MetaPayload) (f : RecvFile) (final : Bytes)
    (snd : SendState) (rcv : RecvState) : Prop where
  snd_ready : SendReady c batch k snd
  rcv_ready : RecvReady c dir files completed rcv
  snd_pc : ∃ tries skip, snd.pc = .doneWait f.size tries skip
  rcv_pc : (∃ d, rcv.pc = .dataWait f d ∧ d.file = final ∧ d.written < 2 ^ 63)
    ∨ (∃ tries, rcv.pc = .skipWait f tries ∧ files f.path = some final)

/-- **The data phase**, from any point of it: `w` bytes are acknowledged and
`ps` are the packets in flight. -/
theorem transfer {io : SendFile} (hio : io.mtu = c.mtu)
    (hok : (DataParams.mk c.snd.cfg c.rcv.cfg io).Ok) {f : RecvFile} (hsize : f.size = io.size)
    {final : Bytes}
    (hnext : ∀ snd rcv, Transferred c batch k dir files completed f final snd rcv →
      Leads c (.mid snd rcv [sendBare .done f.size] []) P)
    (left : Nat) {w : Nat} (hleft : io.size - w = left) {ps : List Send} (hps : ps ≠ [])
    {snd : SendState} {d : SendData} (hsnd : SendReady c batch k snd)
    (hspc : snd.pc = .ackWait io d) (hwin : Window io w ps d) (hstart : io.resumeOff ≤ w)
    {rcv : RecvState} {rd : RecvData} (hrcv : RecvReady c dir files completed rcv)
    (hrpc : rcv.pc = .dataWait f rd) (hw : rd.written = w)
    (hfile : rd.file ++ io.content.drop w = final) :
    Leads c (.mid snd rcv ps []) P := by
  -- each round takes one packet and its acknowledgement, so `w` grows
  induction left using Nat.strong_induction_on generalizing w ps snd d rcv rd with
  | _ left ih =>
    obtain ⟨p, ps, rfl⟩ := List.exists_cons_of_ne_nil hps
    obtain ⟨rd', hrecv, hw', hfile'⟩ := hwin.receive (c := ⟨c.snd.cfg, c.rcv.cfg, io⟩) hok hw
    have hack := hwin.ack (c := ⟨c.snd.cfg, c.rcv.cfg, io⟩) hok hstart
    have hpos : 0 < p.payload.length ∧ w + p.payload.length ≤ io.size
        ∧ p.payload = (io.content.drop w).take p.payload.length := by
      cases hwin.covers with
      | cons hp hoff _ =>
          have := hp.end_le
          exact ⟨hp.payload_pos, by omega, by rw [← hoff]; exact hp.payload_eq⟩
    obtain ⟨hpos, hend, hbytes⟩ := hpos
    -- what has been written and what is to come still make the file
    have hgrown : rd'.file ++ io.content.drop (w + p.payload.length) = final := by
      rw [hfile', ← hfile, List.append_assoc]
      congr 1
      rw [← List.drop_drop]
      nth_rewrite 1 [hbytes]
      exact List.take_append_drop _ _
    have hrcv' : RecvReady c dir files completed { rcv with pc := .dataWait f rd' } :=
      ⟨hrcv.mtu_eq, hrcv.dir_eq, hrcv.files_eq, hrcv.completed_eq, hrcv.log_eq⟩
    have htaken : rcv.onFrame c.rcv p.frame .good
        = ([sendBare .dataAck (w + p.payload.length)], { rcv with pc := .dataWait f rd' }) := by
      have hframe : onDataFrame c.rcv.cfg rcv.mtu rd p.frame none
          = ([sendBare .dataAck (w + p.payload.length)], .wait rd') := by
        rw [hrcv.mtu_eq, ← hio]
        exact hrecv
      unfold RecvState.onFrame
      rw [hrpc]
      show rcv.onRecvResult c.rcv f (onDataFrame c.rcv.cfg rcv.mtu rd p.frame none) = _
      rw [hframe]
      rfl
    refine Leads.deliver ?_ htaken ?_
    · rw [hrpc]
      exact nofun
    · have hstep : snd.onFrame c.snd (sendBare .dataAck (w + p.payload.length)).frame
          = { snd with flow := d.flow }.onDataResult c.snd io
              ((onAckFrame c.snd.cfg io d
                (sendBare .dataAck (w + p.payload.length)).frame).run io) := by
        unfold SendState.onFrame
        rw [hspc]
      have hbusy : snd.pc ≠ .idle := by
        rw [hspc]
        exact nofun
      have hwaits : ∀ d', SendReady c batch k { snd with flow := d.flow, pc := .ackWait io d' } :=
        fun d' => ⟨hsnd.mtu_eq, hsnd.batch_eq, hsnd.idx_eq, hsnd.log_eq, hwin.flow_ok⟩
      dsimp only at hack
      rcases hack with ⟨hne, d', hr, hwin'⟩ | ⟨rfl, hlt, ps', d', hr, hne, hwin'⟩
        | ⟨rfl, hall, flow, hr, hflow⟩
      · -- the window is still open
        rw [hr] at hstep
        refine Leads.reply hbusy hstep ?_
        rw [List.append_nil]
        exact ih _ (by omega) rfl hne (hwaits d') rfl hwin' (by omega) hrcv' rfl hw' hgrown
      · -- the next window follows
        rw [hr] at hstep
        refine Leads.reply hbusy hstep ?_
        exact ih _ (by omega) rfl hne (hwaits d') rfl hwin' (by omega) hrcv' rfl hw' hgrown
      · -- everything is acknowledged: DONE
        have hlt := hok.size_lt
        rw [hr] at hstep
        refine Leads.reply hbusy hstep ?_
        show Leads c (.mid _ _ [sendBare .done io.size] []) P
        rw [← hsize]
        refine hnext _ _ ⟨⟨hsnd.mtu_eq, hsnd.batch_eq, hsnd.idx_eq, hsnd.log_eq, hflow⟩, hrcv',
          ⟨_, _, by rw [hsize]⟩, Or.inl ⟨rd', rfl, ?_, ?_⟩⟩
        · rw [← hgrown, hall, SendFile.size, List.drop_length, List.append_nil]
        · rw [hw', hall]
          exact hlt

end Transfer

/-! ## §3. What the two sides decide. -/

section Decide

variable {env : RecvEnv} {mtu : Nat}

theorem throughLong_of_lt {v : Nat} (h : v < 2 ^ 63) : throughLong 64 v = v := by
  unfold throughLong
  rw [toSigned_of_lt h]
  omega

/-- The tail window lies inside a file that is at least as long. -/
theorem crc32Region_tail {cfg : Config} {provider : Option CrcProvider} (resume : ResumeConfig)
    (hp : StandardProvider provider) (hcfg : 0 < cfg.packetSize)
    (hlong : cfg.longBits = 64) {r : Nat} {content : Bytes} (hr : 0 < r)
    (hle : r ≤ content.length) (hlt : r < 2 ^ 63) :
    crc32Region cfg provider mtu content (r - verifyLength resume r) (verifyLength resume r)
      = .ok (crc32 (tailWindow resume r content)) := by
  have hwin := verifyLength_bounds resume hr
  refine crc32Region_of_lt hp mtu hcfg ?_ (by omega)
  rw [hlong]
  exact toSigned_of_lt (by omega)

/-- **The decision, and what it stores.** -/
theorem determineResumeAction_stored (mtu : Nat) (hp : StandardProvider env.provider)
    (hcfg : 0 < env.cfg.packetSize) (hlong : env.cfg.longBits = 64) {existing : Option Bytes}
    (hsized : ∀ e, existing = some e → e.length < 2 ^ 63) (content : Bytes) :
    (determineResumeAction env mtu existing content.length = .startZero
        ∧ stored env.cfg.resume existing content = content)
    ∨ (determineResumeAction env mtu existing content.length = .skipFile
        ∧ existing = some (stored env.cfg.resume existing content)
        ∧ env.cfg.resume.mode ≠ .never)
    ∨ ∃ e, existing = some e ∧ 0 < e.length ∧ e.length ≤ content.length
        ∧ env.cfg.resume.mode = .tail
        ∧ determineResumeAction env mtu existing content.length
          = ⟨.verifyFirst, e.length, (crc32 (tailWindow env.cfg.resume e.length e)).toNat,
              verifyLength env.cfg.resume e.length⟩ := by
  cases existing with
  | none =>
      refine Or.inl ⟨rfl, ?_⟩
      unfold stored
      split <;> first | rfl | contradiction
  | some e =>
      have hlt := hsized e rfl
      have hsmall : ¬ e.length ≥ 2 ^ 63 := by omega
      unfold determineResumeAction stored
      simp only [hsmall, if_false]
      cases hmode : env.cfg.resume.mode with
      | never => exact Or.inl ⟨rfl, rfl⟩
      | skipExisting =>
          by_cases he : e = []
          · left
            simp [he]
          · right
            left
            have hpos : e.length > 0 := List.length_pos_of_ne_nil he
            simp [he, hpos]
      | tail =>
          by_cases he : e = []
          · left
            simp [he]
          · have hpos : 0 < e.length := List.length_pos_of_ne_nil he
            have hne : ¬ e.length = 0 := by omega
            simp only [hne, if_false, he]
            by_cases hlarge : e.length > content.length
            · -- a larger local file is kept or started over
              simp only [hlarge, if_true, true_or]
              cases env.cfg.resume.mismatchSkip with
              | true => exact Or.inr (Or.inl ⟨rfl, rfl, nofun⟩)
              | false => exact Or.inl ⟨rfl, rfl⟩
            · refine Or.inr (Or.inr ⟨e, rfl, hpos, by omega, trivial, ?_⟩)
              have hwin := verifyLength_bounds env.cfg.resume hpos
              simp only [hlarge, if_false]
              rw [hlong, throughLong_of_lt (by omega),
                crc32Region_tail env.cfg.resume hp hcfg hlong hpos (Nat.le_refl _) hlt]

/-- The VERIFY request of a sender with this content. -/
def tailRequest (cfg : ResumeConfig) (r : Nat) (content : Bytes) : Bytes :=
  serializeVerifyRequest
    ⟨r - verifyLength cfg r, (crc32 (tailWindow cfg r content)).toNat, verifyLength cfg r⟩

/-- **The verdict on the sender's window.** -/
theorem verifyVerdict_tail (mtu : Nat) (hp : StandardProvider env.provider)
    (hcfg : env.cfg.Accepted) (hlong : env.cfg.longBits = 64) {e : Bytes}
    (hpos : 0 < e.length) (hlt : e.length < 2 ^ 63) (content : Bytes) :
    verifyVerdict env mtu e (tailRequest env.cfg.resume e.length content)
      = (if crc32 (tailWindow env.cfg.resume e.length e)
            = crc32 (tailWindow env.cfg.resume e.length content) then .ok
          else mismatchStatus env,
        (crc32 (tailWindow env.cfg.resume e.length e)).toNat) := by
  have hmin := hcfg.packetSize_min
  simp only [minPacketSize] at hmin
  unfold verifyVerdict tailRequest
  rw [deserialize_serializeVerifyRequest (verifyRequest_fits hcfg hlt _)]
  dsimp only
  rw [crc32Region_tail env.cfg.resume hp (by omega) hlong hpos (Nat.le_refl _) hlt]
  simp only [UInt32.toNat_inj]

end Decide

/-! ## §4. One file. -/

/-- What a batch needs of the two sessions: accepted configurations with
packets that fit the 16-bit length field, a 64-bit `long`, the standard
CRC-32, no validator. -/
structure SessionParams.Plain (c : SessionParams) : Prop where
  snd_ok : c.snd.cfg.Accepted
  rcv_ok : c.rcv.cfg.Accepted
  mtu_max : c.mtu ≤ 65547
  snd_long : c.snd.cfg.longBits = 64
  rcv_long : c.rcv.cfg.longBits = 64
  snd_crc : StandardProvider c.snd.provider
  rcv_crc : StandardProvider c.rcv.provider
  no_validator : c.rcv.validator = none

section File

variable {c : SessionParams} {batch : List SourceFile} {k : Nat} {dir : Bytes}
  {files : Bytes → Option Bytes} {completed : List MetaPayload} {P : View → Prop}
  {snd : SendState} {rcv : RecvState} {content : Bytes} {f : RecvFile}

/-- A new position in the same call. -/
theorem RecvReady.moved (h : RecvReady c dir files completed rcv) (pc : RecvPc) (off : Nat) :
    RecvReady c dir files completed { rcv.started f off with pc := pc } :=
  ⟨h.mtu_eq, h.dir_eq, h.files_eq, h.completed_eq, h.log_eq⟩

theorem SessionParams.Plain.mtu_min (hc : c.Plain) : minPacketSize ≤ c.mtu :=
  SessionParams.mtu_min hc.snd_ok hc.rcv_ok

theorem SendReady.moved (h : SendReady c batch k snd) (pc : SendPc) (size off : Nat) :
    SendReady c batch k { snd.started size off with pc := pc } :=
  ⟨h.mtu_eq, h.batch_eq, h.idx_eq, h.log_eq, h.flow_ok⟩

/-- Data from an offset inside the file. -/
theorem Leads.fromOffset (hc : c.Plain) (hlt : content.length < 2 ^ 63)
    (hsize : f.size = content.length) {off : Nat} (hoff : off < content.length)
    (hsnd : SendReady c batch k snd) (hrcv : RecvReady c dir files completed rcv)
    {pre final : Bytes} (hpc : rcv.pc = .dataWait f (initRecv c.rcv.cfg pre off f.size))
    (hfinal : pre ++ content.drop off = final)
    (hnext : ∀ snd rcv, Transferred c batch k dir files completed f final snd rcv →
      Leads c (.mid snd rcv [sendBare .done f.size] []) P) :
    Leads c (.mid (snd.onOutcome c.snd content (.start off)).2 rcv
      (snd.onOutcome c.snd content (.start off)).1 []) P := by
  have hok : (DataParams.mk c.snd.cfg c.rcv.cfg ⟨content, c.mtu, off⟩).Ok :=
    ⟨hc.mtu_min, hc.mtu_max, hlt, hoff⟩
  obtain ⟨ps, d, hdata, hne, hwin⟩ := startData_window hok hsnd.flow_ok
  rw [hsnd.startFile hc.mtu_min (by omega), show startData c.snd.cfg _ snd.flow = _ from hdata]
  exact transfer rfl hok hsize hnext _ rfl hne (hsnd.moved _ _ _) rfl hwin (Nat.le_refl off) hrcv
    hpc rfl hfinal

/-- A sender that has nothing to send goes straight to DONE. -/
theorem SendReady.onOutcome_end (hc : c.Plain) (hlt : content.length < 2 ^ 63)
    (hsnd : SendReady c batch k snd) {o : ResumeOutcome}
    (ho : o = .skip ∨ o = .start content.length) :
    ∃ skip, snd.onOutcome c.snd content o
      = ([sendBare .done content.length],
          { snd.started content.length content.length with
            pc := .doneWait content.length c.snd.cfg.retries.ackRetries skip }) := by
  rcases ho with rfl | rfl
  · exact ⟨true, rfl⟩
  · refine ⟨false, ?_⟩
    rw [hsnd.startFile hc.mtu_min hlt, startData_all _ rfl]
    rfl

/-- No data: the file is there already. -/
theorem Leads.fromEnd (hc : c.Plain) (hlt : content.length < 2 ^ 63)
    (hsize : f.size = content.length) (hsnd : SendReady c batch k snd)
    (hrcv : RecvReady c dir files completed rcv) {final : Bytes} {tries : Nat}
    (hpc : rcv.pc = .skipWait f tries) (hkept : files f.path = some final) {o : ResumeOutcome}
    (ho : o = .skip ∨ o = .start content.length)
    (hnext : ∀ snd rcv, Transferred c batch k dir files completed f final snd rcv →
      Leads c (.mid snd rcv [sendBare .done f.size] []) P) :
    Leads c (.mid (snd.onOutcome c.snd content o).2 rcv (snd.onOutcome c.snd content o).1 []) P := by
  obtain ⟨skip, hdone⟩ := hsnd.onOutcome_end hc hlt ho
  rw [hdone, ← hsize]
  exact hnext _ _ ⟨hsnd.moved _ _ _, hrcv, ⟨_, skip, rfl⟩, Or.inr ⟨tries, hpc, hkept⟩⟩

/-- The receiver opens the target for the whole file. -/
theorem RecvState.settle_zero (hc : c.Plain)
    (hpath : (rcv.targetPath c.rcv f).length < maxPath * 2 + 8) (hsize : 0 < f.size) :
    (rcv.settle c.rcv f 0 false true .good).2
      = { rcv.started f 0 with pc := .dataWait f (initRecv c.rcv.cfg [] 0 f.size) } := by
  have hnot : (if c.rcv.cfg.resume.mode = .never then false else decide (0 ≥ f.size)) = false := by
    split
    · rfl
    · exact decide_eq_false (by omega)
  rw [RecvState.settle_good hc.no_validator hpath, hnot]
  rfl

/-- The receiver leaves the file alone. -/
theorem RecvState.settle_skip (hc : c.Plain)
    (hpath : (rcv.targetPath c.rcv f).length < maxPath * 2 + 8) :
    (rcv.settle c.rcv f f.size true true .good).2
      = { rcv.started f f.size with pc := .skipWait f c.rcv.cfg.retries.ackRetries } := by
  have hskip : (if c.rcv.cfg.resume.mode = .never then true else decide (f.size ≥ f.size))
      = true := by
    split
    · rfl
    · exact decide_eq_true (Nat.le_refl _)
  rw [RecvState.settle_good hc.no_validator hpath, hskip]
  rfl

/-- The receiver appends to the local file. -/
theorem RecvState.settle_append (hc : c.Plain)
    (hpath : (rcv.targetPath c.rcv f).length < maxPath * 2 + 8)
    (hmode : c.rcv.cfg.resume.mode = .tail) {e : Bytes} (he : rcv.files f.path = some e)
    (hpos : 0 < e.length) (hlt : e.length < f.size) :
    (rcv.settle c.rcv f e.length false true .good).2
      = { rcv.started f e.length with
          pc := .dataWait f (initRecv c.rcv.cfg e e.length f.size) } := by
  have hnot : (if c.rcv.cfg.resume.mode = .never then false else decide (e.length ≥ f.size))
      = false := by
    rw [hmode]
    exact decide_eq_false (by omega)
  rw [RecvState.settle_good hc.no_validator hpath, hnot]
  unfold RecvState.openTarget
  rw [if_neg (by decide), if_neg (by decide), if_neg (by omega),
    show (rcv.started f e.length).files f.path = some e from he]
  rfl

/-- What TAIL stores over a local file that is not larger. -/
theorem stored_tail {cfg : ResumeConfig} (hmode : cfg.mode = .tail) {e : Bytes}
    (hpos : 0 < e.length) (hle : e.length ≤ content.length) :
    stored cfg (some e) content
      = if crc32 (tailWindow cfg e.length e) = crc32 (tailWindow cfg e.length content)
        then e ++ content.drop e.length
        else if cfg.mismatchSkip then e else content := by
  have hne : ¬ e = [] := List.ne_nil_of_length_pos hpos
  have hnlarge : ¬ e.length > content.length := by omega
  unfold stored
  simp only [hmode, hne, if_false, hnlarge, false_or]
  split <;> split <;> first | rfl | contradiction

/-- The VERIFY round trip: the verdict decides where both sides start. -/
theorem Leads.judged (hc : c.Plain) (hlt : content.length < 2 ^ 63) {e : Bytes}
    (hfile : rcv.files f.path = some e) (hpos : 0 < e.length) (hle : e.length ≤ content.length)
    (hsmtu : minPacketSize ≤ snd.mtu) (hrmtu : minPacketSize ≤ rcv.mtu) {tries : Nat}
    (hspc : snd.pc = .verifyWait content tries e.length
      (tailRequest c.rcv.cfg.resume e.length content))
    {tries' : Nat} {resp : Bytes} (hrpc : rcv.pc = .verifyWait f tries' resp e.length)
    (hpath : (rcv.targetPath c.rcv f).length < maxPath * 2 + 8)
    {st : Status} (hst : st = .ok ∨ st = .skipped ∨ st = .resumeVerify)
    (hgo : Leads c (.mid (snd.onOutcome c.snd content (match st with
        | .ok => .start e.length
        | .skipped => .skip
        | _ => .start 0)).2
      (match st with
        | .ok => rcv.settle c.rcv f e.length false true .good
        | .skipped => rcv.settle c.rcv f f.size true true .good
        | _ => rcv.settle c.rcv f 0 false true .good).2
      (snd.onOutcome c.snd content (match st with
        | .ok => .start e.length
        | .skipped => .skip
        | _ => .start 0)).1 []) P)
    (heq : (if crc32 (tailWindow c.rcv.cfg.resume e.length e)
        = crc32 (tailWindow c.rcv.cfg.resume e.length content) then .ok
      else mismatchStatus c.rcv) = st) :
    Leads c (.mid snd rcv [sendVerify (tailRequest c.rcv.cfg.resume e.length content)] []) P := by
  have hverdict := verifyVerdict_tail rcv.mtu hc.rcv_crc hc.rcv_ok hc.rcv_long hpos
    (show e.length < 2 ^ 63 by omega) content
  rw [heq] at hverdict
  exact Leads.judge hrpc hrmtu (serializeVerifyRequest_length _) hspc hsmtu hst
    (RecvState.answerVerify_good hc.no_validator hpath hfile hverdict)
    (onVerifyResult_verdict e.length _ hst) rfl hgo

/-- What follows each verdict. -/
theorem Leads.verified (hc : c.Plain) (hlt : content.length < 2 ^ 63)
    (hsize : f.size = content.length) {e : Bytes} (hex : files f.path = some e)
    (hpos : 0 < e.length) (hle : e.length ≤ content.length)
    (hmode : c.rcv.cfg.resume.mode = .tail) (hsnd : SendReady c batch k snd) {tries : Nat}
    (hspc : snd.pc = .verifyWait content tries e.length
      (tailRequest c.rcv.cfg.resume e.length content))
    (hrcv : RecvReady c dir files completed rcv) {tries' : Nat} {resp : Bytes}
    (hrpc : rcv.pc = .verifyWait f tries' resp e.length)
    (hpath : (rcv.targetPath c.rcv f).length < maxPath * 2 + 8)
    (hnext : ∀ snd rcv, Transferred c batch k dir files completed f
        (stored c.rcv.cfg.resume (some e) content) snd rcv →
      Leads c (.mid snd rcv [sendBare .done f.size] []) P) :
    Leads c (.mid snd rcv [sendVerify (tailRequest c.rcv.cfg.resume e.length content)] []) P := by
  have hmin := hc.mtu_min
  have hsmtu : minPacketSize ≤ snd.mtu := by rw [hsnd.mtu_eq]; exact hmin
  have hrmtu : minPacketSize ≤ rcv.mtu := by rw [hrcv.mtu_eq]; exact hmin
  have hfile : rcv.files f.path = some e := by rw [hrcv.files_eq]; exact hex
  have hstored := stored_tail hmode hpos hle
  by_cases heq : crc32 (tailWindow c.rcv.cfg.resume e.length e)
      = crc32 (tailWindow c.rcv.cfg.resume e.length content)
  · -- the windows agree: the local file is continued
    rw [if_pos heq] at hstored
    refine Leads.judged hc hlt hfile hpos hle hsmtu hrmtu hspc hrpc hpath (Or.inl rfl) ?_
      (if_pos heq)
    dsimp only
    by_cases hshort : e.length < content.length
    · rw [RecvState.settle_append hc hpath hmode hfile hpos (by omega)]
      exact Leads.fromOffset hc hlt hsize hshort hsnd (hrcv.moved _ _) rfl hstored.symm hnext
    · -- nothing is missing
      have hfull : e.length = content.length := by omega
      have hkept : stored c.rcv.cfg.resume (some e) content = e := by
        rw [hstored, hfull, List.drop_length, List.append_nil]
      rw [hkept] at hnext
      have hset : (rcv.settle c.rcv f e.length false true .good).2
          = { rcv.started f e.length with pc := .skipWait f c.rcv.cfg.retries.ackRetries } := by
        have hskip : (if c.rcv.cfg.resume.mode = .never then false
            else decide (e.length ≥ f.size)) = true := by
          rw [hmode]
          exact decide_eq_true (by omega)
        rw [RecvState.settle_good hc.no_validator hpath, hskip]
        rfl
      rw [hset]
      exact Leads.fromEnd hc hlt hsize hsnd (hrcv.moved _ _) rfl hex (Or.inr (by rw [hfull])) hnext
  · rw [if_neg heq] at hstored
    cases hskip : c.rcv.cfg.resume.mismatchSkip with
    | true =>
        have hm : mismatchStatus c.rcv = .skipped := by
          simp only [mismatchStatus, hskip, hmode, ne_eq, reduceCtorEq, not_false_eq_true,
            and_self, if_true]
        rw [hskip, if_pos rfl] at hstored
        rw [hstored] at hnext
        refine Leads.judged hc hlt hfile hpos hle hsmtu hrmtu hspc hrpc hpath
          (Or.inr (Or.inl rfl)) ?_ (by rw [if_neg heq, hm])
        dsimp only
        rw [RecvState.settle_skip hc hpath]
        exact Leads.fromEnd hc hlt hsize hsnd (hrcv.moved _ _) rfl hex (Or.inl rfl) hnext
    | false =>
        have hm : mismatchStatus c.rcv = .resumeVerify := by
          simp only [mismatchStatus, hskip, Bool.false_eq_true, false_and, if_false]
        rw [hskip, if_neg (by decide)] at hstored
        refine Leads.judged hc hlt hfile hpos hle hsmtu hrmtu hspc hrpc hpath
          (Or.inr (Or.inr rfl)) ?_ (by rw [if_neg heq, hm])
        dsimp only
        rw [RecvState.settle_zero hc hpath (by omega)]
        exact Leads.fromOffset hc hlt hsize (by omega) hsnd (hrcv.moved _ _) rfl hstored.symm hnext

/-- **The negotiation**, and the data phase behind it: whatever the two sides
settle on completes the stored file. -/
theorem negotiate (hc : c.Plain) (hsized : Sized files) (hpos : 0 < content.length)
    (hlt : content.length < 2 ^ 63) (hsize : f.size = content.length)
    (hsnd : SendReady c batch k snd) {tries : Nat} (hspc : snd.pc = .resumeWait content tries)
    (hrcv : RecvReady c dir files completed rcv) (hstage : rcv.pc.stage = .undecided f)
    (hpath : (rcv.targetPath c.rcv f).length < maxPath * 2 + 8)
    (hnext : ∀ snd rcv, Transferred c batch k dir files completed f
        (stored c.rcv.cfg.resume (files f.path) content) snd rcv →
      Leads c (.mid snd rcv [sendBare .done f.size] []) P) :
    Leads c (.mid snd rcv [sendBare .resumeReq 0] []) P := by
  have hmin := hc.mtu_min
  have hcfg : ∀ {cfg : Config}, cfg.Accepted → 0 < cfg.packetSize := by
    intro cfg hacc
    have := hacc.packetSize_min
    simp only [minPacketSize] at this
    omega
  have hsmtu : minPacketSize ≤ snd.mtu := by rw [hsnd.mtu_eq]; exact hmin
  have hrmtu : minPacketSize ≤ rcv.mtu := by rw [hrcv.mtu_eq]; exact hmin
  have hdec : ∀ {d}, determineResumeAction c.rcv c.mtu (files f.path) content.length = d →
      determineResumeAction c.rcv rcv.mtu (rcv.files f.path) f.size = d := by
    intro d h
    rw [hrcv.mtu_eq, hrcv.files_eq, hsize]
    exact h
  rcases determineResumeAction_stored c.mtu hc.rcv_crc (hcfg hc.rcv_ok) hc.rcv_long
      (fun e he => hsized _ e he) content with
    ⟨hd, hstored⟩ | ⟨hd, hkept, -⟩ | ⟨e, hex, hepos, hele, hmode, hd⟩
  · -- from the beginning
    refine Leads.respond hstage hspc hsmtu
      (RecvState.answerResume_zero hc.no_validator hpath (hdec hd))
      (onResumeResp_startZero c.snd snd.mtu content) rfl ?_
    rw [RecvState.settle_zero hc hpath (by omega)]
    exact Leads.fromOffset hc hlt hsize hpos hsnd (hrcv.moved _ _) rfl hstored.symm hnext
  · -- skipped
    refine Leads.respond hstage hspc hsmtu
      (RecvState.answerResume_skip hc.no_validator hpath (hdec hd))
      (onResumeResp_skipFile c.snd snd.mtu content) rfl ?_
    rw [RecvState.settle_skip hc hpath]
    exact Leads.fromEnd hc hlt hsize hsnd (hrcv.moved _ _) rfl hkept (Or.inl rfl) hnext
  · -- the tail window is verified
    have helt : e.length < 2 ^ 63 := by omega
    have hwin := verifyLength_bounds c.rcv.cfg.resume hepos
    have hcrc : (crc32 (tailWindow c.rcv.cfg.resume e.length e)).toNat < 2 ^ 32 :=
      (crc32 (tailWindow c.rcv.cfg.resume e.length e)).toNat_lt
    have hask := onResumeResp_verifyFirst c.snd c.mtu hele helt hcrc hwin.1 hwin.2
      (verifyLength_lt hc.rcv_ok e.length)
    rw [crc32Region_tail c.rcv.cfg.resume hc.snd_crc (hcfg hc.snd_ok) hc.snd_long hepos hele
      helt] at hask
    rw [← hsnd.mtu_eq] at hask
    refine Leads.respond hstage hspc hsmtu (RecvState.answerResume_asks (hdec hd)) hask rfl ?_
    rw [hex] at hnext
    exact Leads.verified hc hlt hsize hex hepos hele hmode
      ⟨hsnd.mtu_eq, hsnd.batch_eq, hsnd.idx_eq, hsnd.log_eq, hsnd.flow_ok⟩ rfl
      ⟨hrcv.mtu_eq, hrcv.dir_eq, hrcv.files_eq, hrcv.completed_eq, hrcv.log_eq⟩ rfl hpath hnext

/-- DONE_ACK: the sender goes on to the next exchange. -/
theorem Leads.doneAck (hc : c.Plain) (hsnd : SendReady c batch k snd) {size tries : Nat}
    {skip : Bool} (hspc : snd.pc = .doneWait size tries skip) {off : Nat} (hoff : off < 2 ^ 64)
    (hnext : ∀ snd, SendReady c batch (k + 1) snd →
      Leads c (.mid (snd.beginFile c.snd).2 rcv (snd.beginFile c.snd).1 []) P) :
    Leads c (.mid snd rcv [] [sendBare .doneAck off]) P := by
  have hflow : (if skip then snd.flow
      else recordTransmissionSuccess c.snd.cfg.txFlow snd.flow).Bounded := by
    split
    · exact hsnd.flow_ok
    · exact hsnd.flow_ok.recordSuccess _
  refine Leads.reply (by rw [hspc]; exact nofun)
    (SendState.onFrame_doneAck hspc (by rw [hsnd.mtu_eq]; exact hc.mtu_min) hoff) ?_
  rw [List.nil_append]
  exact hnext _ ⟨hsnd.mtu_eq, hsnd.batch_eq, by rw [← hsnd.idx_eq], hsnd.log_eq, hflow⟩

/-- DONE of a file the receiver has not opened: its filesystem stays. -/
theorem Leads.finishSkipped (hc : c.Plain) (hlt : f.size < 2 ^ 63)
    (hsnd : SendReady c batch k snd) {tries : Nat} {skip : Bool}
    (hspc : snd.pc = .doneWait f.size tries skip) (hrcv : RecvReady c dir files completed rcv)
    {tries' : Nat} (hrpc : rcv.pc = .skipWait f tries')
    (hnext : ∀ snd rcv, SendReady c batch (k + 1) snd →
      RecvReady c dir files (completed ++ [f.announced]) rcv →
      rcv.pc = .metaWait c.rcv.cfg.retries.metaRetries →
      Leads c (.mid (snd.beginFile c.snd).2 rcv (snd.beginFile c.snd).1 []) P) :
    Leads c (.mid snd rcv [sendBare .done f.size] []) P := by
  have hrmtu : minPacketSize ≤ rcv.mtu := by rw [hrcv.mtu_eq]; exact hc.mtu_min
  refine Leads.deliver (by rw [hrpc]; exact nofun)
    (RecvState.onFrame_done_skip hrpc hrmtu (by omega) .good) ?_
  refine Leads.doneAck hc hsnd hspc (by omega) (fun snd hsnd' => hnext snd _ hsnd' ?_ rfl)
  refine ⟨hrcv.mtu_eq, hrcv.dir_eq, hrcv.files_eq, ?_, hrcv.log_eq⟩
  show rcv.completed ++ _ = _
  rw [hrcv.completed_eq]

/-- DONE and its acknowledgement: both sides go on to the next exchange. -/
theorem Leads.finish (hc : c.Plain) {final : Bytes} (hlt : f.size < 2 ^ 63)
    (h : Transferred c batch k dir files completed f final snd rcv)
    (hnext : ∀ snd rcv, SendReady c batch (k + 1) snd →
      RecvReady c dir (Function.update files f.path (some final)) (completed ++ [f.announced]) rcv →
      rcv.pc = .metaWait c.rcv.cfg.retries.metaRetries →
      Leads c (.mid (snd.beginFile c.snd).2 rcv (snd.beginFile c.snd).1 []) P) :
    Leads c (.mid snd rcv [sendBare .done f.size] []) P := by
  obtain ⟨hsnd, hrcv, ⟨tries, skip, hspc⟩, hrpc⟩ := h
  have hrmtu : minPacketSize ≤ rcv.mtu := by rw [hrcv.mtu_eq]; exact hc.mtu_min
  rcases hrpc with ⟨d, hrpc, rfl, hwritten⟩ | ⟨tries', hrpc, hkept⟩
  · refine Leads.deliver (by rw [hrpc]; exact nofun)
      (RecvState.onFrame_done hrpc hrmtu (by omega) .good) ?_
    refine Leads.doneAck hc hsnd hspc (by omega) (fun snd hsnd' => hnext snd _ hsnd' ?_ rfl)
    refine ⟨hrcv.mtu_eq, hrcv.dir_eq, ?_, ?_, hrcv.log_eq⟩
    · show Function.update rcv.files f.path _ = _
      rw [hrcv.files_eq]
    · show rcv.completed ++ _ = _
      rw [hrcv.completed_eq]
  · refine Leads.finishSkipped hc hlt hsnd hspc hrcv hrpc ?_
    intro snd rcv hsnd' hrcv' hpc
    refine hnext snd rcv hsnd' ?_ hpc
    rw [← hkept, Function.update_eq_self]
    exact hrcv'

/-- The sender announces the next file of the batch. -/
theorem SendReady.beginFile_eq (hsnd : SendReady c batch k snd) {src : SourceFile}
    (hsrc : batch[k]? = some src) (hread : src.readable = some content) :
    snd.beginFile c.snd
      = ([sendMeta c.snd.senderPath src, sendBare .resumeReq 0],
          { snd with pc := .resumeWait content c.snd.cfg.retries.ackRetries }) := by
  unfold SendState.beginFile
  rw [hsnd.batch_eq, hsnd.idx_eq, hsrc]
  dsimp only
  rw [hread]

/-- The receiver's view of an announced file. -/
theorem RecvReady.incoming (hrcv : RecvReady c dir files completed rcv) {src : SourceFile}
    (hread : src.readable = some content) :
    let f := rcv.incomingFile c.rcv (serializeMeta (src.announced c.snd.senderPath))
    f.announced = src.announced c.snd.senderPath ∧ f.path = targetFile c.rcv dir src.name
      ∧ f.size = content.length ∧ (rcv.targetPath c.rcv f).length < maxPath * 2 + 8 := by
  obtain ⟨hcontent, -⟩ := SourceFile.readable_spec hread
  have hfile := @RecvState.incomingFile_announced c.rcv rcv src content hread c.snd.senderPath
  intro f
  have hann : f.announced = src.announced c.snd.senderPath :=
    congrArg RecvFile.announced hfile
  have hname : f.name = src.name := congrArg RecvFile.name hfile
  refine ⟨hann, ?_, ?_, ?_⟩
  · rw [show f.path = _ from congrArg RecvFile.path hfile, hrcv.dir_eq]
    rfl
  · unfold RecvFile.size
    rw [hann]
    show (src.content.getD []).length = _
    rw [hcontent, Option.getD_some]
  · apply RecvState.targetPath_lt
    · rw [hrcv.dir_eq]
      exact List.length_take_le _ _
    · rw [hname]
      exact src.name_length

/-- **One file**, from its SEND_META to the next exchange. -/
theorem Leads.file (hc : c.Plain) (hsized : Sized files) {src : SourceFile}
    (hsrc : batch[k]? = some src) (hread : src.readable = some content)
    (hpos : 0 < content.length) (hsnd : SendReady c batch k snd)
    (hrcv : RecvReady c dir files completed rcv)
    (hrpc : rcv.pc = .metaWait c.rcv.cfg.retries.metaRetries)
    (hnext : ∀ snd rcv, SendReady c batch (k + 1) snd →
      RecvReady c dir (receiveFile c.rcv dir files src)
        (completed ++ [src.announced c.snd.senderPath]) rcv →
      rcv.pc = .metaWait c.rcv.cfg.retries.metaRetries →
      Leads c (.mid (snd.beginFile c.snd).2 rcv (snd.beginFile c.snd).1 []) P) :
    Leads c (.mid (snd.beginFile c.snd).2 rcv (snd.beginFile c.snd).1 []) P := by
  obtain ⟨hcontent, hlt⟩ := SourceFile.readable_spec hread
  rw [hsnd.beginFile_eq hsrc hread]
  refine Leads.announce hrpc (by rw [hrcv.mtu_eq]; exact hc.mtu_min) hread ?_
  obtain ⟨hann, hfpath, hsize, hpath⟩ := hrcv.incoming hread
  set f := rcv.incomingFile c.rcv (serializeMeta (src.announced c.snd.senderPath)) with hf
  have hready : RecvReady c dir files completed
      (rcv.acceptMeta c.rcv (serializeMeta (src.announced c.snd.senderPath))) :=
    ⟨hrcv.mtu_eq, hrcv.dir_eq, hrcv.files_eq, hrcv.completed_eq, hrcv.log_eq⟩
  refine negotiate hc hsized hpos hlt hsize
    ⟨hsnd.mtu_eq, hsnd.batch_eq, hsnd.idx_eq, hsnd.log_eq, hsnd.flow_ok⟩ rfl hready
    (RecvState.acceptMeta_stage c.rcv rcv _) hpath ?_
  intro snd' rcv' htrans
  refine Leads.finish hc (by omega) htrans ?_
  intro snd₁ rcv₁ hsnd₁ hrcv₁ hpc₁
  refine hnext _ _ hsnd₁ ?_ hpc₁
  unfold receiveFile
  rw [← hann, ← hfpath, hcontent, Option.getD_some]
  exact hrcv₁

/-- Behind the last file: EOT, and both calls return. -/
structure Finished (c : SessionParams) (batch : List SourceFile) (files : Bytes → Option Bytes)
    (completed : List MetaPayload) (v : View) : Prop where
  snd_pc : v.snd.pc = .idle
  rcv_pc : v.rcv.pc = .idle
  snd_log : v.snd.log = [(batch, .ok)]
  rcv_log : v.rcv.log = [(completed, .ok)]
  files_eq : v.rcv.files = files
  quiet : v.down = [] ∧ v.up = [] ∧ v.sndCalls = [] ∧ v.rcvCalls = []

theorem Leads.eot (hc : c.Plain) (hk : batch[k]? = none) (hsnd : SendReady c batch k snd)
    (hrcv : RecvReady c dir files completed rcv) {tries : Nat} (hrpc : rcv.pc = .metaWait tries) :
    Leads c (.mid (snd.beginFile c.snd).2 rcv (snd.beginFile c.snd).1 [])
      (Finished c batch files completed) := by
  have hmin := hc.mtu_min
  have hbegin : snd.beginFile c.snd
      = ([sendBare .eot 0], { snd with pc := .eotWait c.snd.cfg.retries.ackRetries }) := by
    unfold SendState.beginFile
    rw [hsnd.batch_eq, hsnd.idx_eq, hk]
  rw [hbegin]
  refine Leads.deliver (by rw [hrpc]; exact nofun)
    (RecvState.onFrame_eot hrpc (by rw [hrcv.mtu_eq]; exact hmin) .good) ?_
  refine Leads.reply nofun
    (SendState.onFrame_eotAck rfl (show minPacketSize ≤ snd.mtu by rw [hsnd.mtu_eq]; exact hmin)) ?_
  refine Leads.now ⟨rfl, rfl, ?_, ?_, hrcv.files_eq, rfl, rfl, rfl, rfl⟩
  · show snd.log ++ [(snd.batch, _)] = _
    rw [hsnd.log_eq, hsnd.batch_eq]
    rfl
  · show rcv.log ++ [(rcv.completed, _)] = _
    rw [hrcv.log_eq, hrcv.completed_eq]
    rfl

/-- **The rest of a batch**, from any point between two files. -/
theorem Leads.remaining (hc : c.Plain) (rest : List SourceFile) (hrest : batch.drop k = rest)
    (hfiles : ∀ f ∈ rest, ∃ content, f.readable = some content ∧ 0 < content.length)
    (hsized : Sized files) (hsnd : SendReady c batch k snd)
    (hrcv : RecvReady c dir files completed rcv)
    (hrpc : rcv.pc = .metaWait c.rcv.cfg.retries.metaRetries) :
    Leads c (.mid (snd.beginFile c.snd).2 rcv (snd.beginFile c.snd).1 [])
      (Finished c batch (rest.foldl (receiveFile c.rcv dir) files)
        (completed ++ rest.map (SourceFile.announced c.snd.senderPath))) := by
  induction rest generalizing k files completed snd rcv with
  | nil =>
      rw [List.map_nil, List.append_nil]
      refine Leads.eot hc ?_ hsnd hrcv hrpc
      rw [List.getElem?_eq_none_iff]
      exact List.drop_eq_nil_iff.mp hrest
  | cons f rest ih =>
      obtain ⟨hk, hdrop⟩ := drop_cons_getElem? hrest
      obtain ⟨content, hread, hpos⟩ := hfiles f (List.mem_cons_self ..)
      refine Leads.file hc hsized hk hread hpos hsnd hrcv hrpc ?_
      intro snd' rcv' hsnd' hrcv' hrpc'
      have := ih hdrop (fun g hg => hfiles g (List.mem_cons_of_mem _ hg))
        (hsized.receiveFile hread) hsnd' hrcv' hrpc'
      rw [List.append_assoc, List.singleton_append] at this
      exact this

end File

/-! ## §5. The batch. -/

/-- Both calls have returned and nothing is in flight: nothing can happen. -/
theorem Finished.terminal {c : SessionParams} {batch : List SourceFile}
    {files : Bytes → Option Bytes} {completed : List MetaPayload} {s : SessionSys}
    (h : Finished c batch files completed s.view) : Lts.Terminal (Calm c) s := by
  obtain ⟨snd, rcv, toRcv, toSnd, sndCalls, rcvCalls⟩ := s
  obtain ⟨hsnd, hrcv, -, -, -, hdown, hup, hsc, hrc⟩ := h
  obtain rfl : toRcv = [] := List.map_eq_nil_iff.mp hdown
  obtain rfl : toSnd = [] := List.map_eq_nil_iff.mp hup
  obtain rfl : sndCalls = [] := hsc
  obtain rfl : rcvCalls = [] := hrc
  intro s' hcalm
  rcases hcalm.cases with ⟨_, _, _, _, hmove, -⟩ | ⟨_, _, _, _, hmove, -⟩
  all_goals cases hmove

/-- **Batch semantics on a fault-free link.**  For every non-empty batch of
non-empty files below 2^63 bytes and every receiver filesystem, two sessions
with a 64-bit `long`, the standard CRC-32 and no validator: there is one final
state `f`, `N` steps away, that every run leads to.  There both calls have
returned `VAL_OK`, the receiver has counted exactly the files of the batch, and
its directory is the left fold of `stored` over them. -/
theorem batch_semantics {c : SessionParams} (hc : c.Plain) {batch : List SourceFile}
    (hne : batch ≠ [])
    (hfiles : ∀ f ∈ batch, ∃ content, f.content = some content ∧ 0 < content.length
      ∧ content.length < 2 ^ 63)
    {files : Bytes → Option Bytes} (hsized : Sized files) (dir : Bytes) :
    ∃ N f, Lts.Terminal (Calm c) f
      ∧ f.snd.log = [(batch, .ok)]
      ∧ f.rcv.log = [(batch.map (SourceFile.announced c.snd.senderPath), .ok)]
      ∧ (∀ name : Bytes, name.length ≤ maxFilename →
        directory c.rcv dir f.rcv.files name
          = batch.foldl (receiveNamed c.rcv.cfg.resume) (directory c.rcv dir files) name)
      ∧ ∀ m s, Lts.Steps (Calm c) m (SessionSys.init c files [batch] [dir]) s →
        m ≤ N ∧ Lts.Steps (Calm c) (N - m) s f := by
  have hread : ∀ f ∈ batch, ∃ content, f.readable = some content ∧ 0 < content.length := by
    intro f hf
    obtain ⟨content, hcontent, hpos, hlt⟩ := hfiles f hf
    refine ⟨content, ?_, hpos⟩
    unfold SourceFile.readable
    rw [hcontent]
    exact Option.filter_eq_some_iff.mpr ⟨rfl, decide_eq_true hlt⟩
  -- one run that finishes; the diamond takes every other one to the same state
  have hleads : Leads c (SessionSys.init c files [batch] [dir]).view
      (Finished c batch (batch.foldl (receiveFile c.rcv dir) files)
        ([] ++ batch.map (SourceFile.announced c.snd.senderPath))) := by
    refine greet hc.snd_ok hc.rcv_ok hne ?_
    intro snd rcv hsnd _ hrcv hrpc
    exact Leads.remaining hc batch (List.drop_zero ..) hread hsized hsnd hrcv hrpc
  obtain ⟨N, f, hrun, hfin⟩ := hleads _ rfl
  refine ⟨N, f, hfin.terminal, hfin.snd_log, hfin.rcv_log, ?_, ?_⟩
  · intro name hname
    rw [show f.rcv.files = _ from hfin.files_eq]
    exact directory_fold c.rcv dir batch files hname
  · intro m s hsteps
    exact (calm_diamond c).steps_to hfin.terminal hrun hsteps

theorem tailPair_plain : tailPair.Plain where
  snd_ok := resumePair_snd _ (Or.inr rfl)
  rcv_ok := resumePair_rcv (Or.inr rfl) (by decide) (by decide)
  mtu_max := by decide
  snd_long := rfl
  rcv_long := rfl
  snd_crc := nofun
  rcv_crc := nofun
  no_validator := rfl

theorem halfThere_sized : Sized halfThere := by
  intro path e he
  unfold halfThere at he
  split at he
  · cases he
    decide
  · cases he

/-- Two files called `a`, the second under another directory. -/
def sameName : List SourceFile :=
  [⟨[97], some [1, 2, 3]⟩, ⟨[100, 47, 97], some [1, 2, 3, 4]⟩]

theorem sameName_readable : ∀ f ∈ sameName, ∃ content, f.content = some content
    ∧ 0 < content.length ∧ content.length < 2 ^ 63 := by
  intro f hf
  rcases List.mem_cons.mp hf with rfl | hf
  · exact ⟨_, rfl, by decide, by decide⟩
  · rw [List.mem_singleton.mp hf]
    exact ⟨_, rfl, by decide, by decide⟩

/-- The second file continues what the first one has completed. -/
theorem batch_semantics_same_name :
    ∃ N f, Lts.Steps (Calm tailPair) N (SessionSys.init tailPair halfThere [sameName] [[]]) f
      ∧ f.snd.log = [(sameName, .ok)]
      ∧ directory tailPair.rcv [] f.rcv.files [97] = some [1, 2, 3, 4] := by
  obtain ⟨N, f, -, hsnd, -, hdir, hruns⟩ := batch_semantics tailPair_plain
    (show sameName ≠ [] from nofun) sameName_readable halfThere_sized []
  refine ⟨N, f, ?_, hsnd, ?_⟩
  · exact (hruns 0 _ (.zero _)).2
  · rw [hdir _ (by decide)]
    decide +kernel

/-- A log only grows. -/
theorem calm_log_prefix {c : SessionParams} {n : Nat} {s s' : SessionSys}
    (h : Lts.Steps (Calm c) n s s') : s.snd.log <+: s'.snd.log := by
  induction h with
  | zero s => exact List.prefix_rfl
  | succ hcalm _ ih =>
      obtain ⟨l, -, hstep⟩ := hcalm
      have hkept := calls_step hstep
      exact List.IsPrefix.trans hkept.sndLog_prefix ih

/-- The empty batch is refused by `file_count == 0`. -/
theorem empty_batch_refused :
    ¬ ∃ N f, f.snd.log = [(([] : List SourceFile), Status.ok)]
      ∧ ∀ m s, Lts.Steps (Calm tailPair) m (SessionSys.init tailPair halfThere [[]] [[]]) s →
        m ≤ N ∧ Lts.Steps (Calm tailPair) (N - m) s f := by
  rintro ⟨N, f, hlog, hruns⟩
  have hcall : Calm tailPair (SessionSys.init tailPair halfThere [[]] [[]])
      { SessionSys.init tailPair halfThere [] [[]] with
        snd := (SendState.fresh tailPair.snd.cfg).ret .invalidArg } :=
    ⟨.sndCall, rfl, rfl⟩
  have hpre := calm_log_prefix (hruns 1 _ (.single hcall)).2
  rw [hlog] at hpre
  have heq := (List.cons_prefix_cons.mp hpre).1
  cases heq

end ValProtocol
