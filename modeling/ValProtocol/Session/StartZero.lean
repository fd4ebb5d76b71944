/-
  ValProtocol.Session.StartZero
  ─────────────────────────────
  Batches with empty files on a fault-free link, and what a decision to start
  at zero leaves behind (`src/val_receiver.c` lines 67-182 and 642-792).

  Outside `VAL_RESUME_NEVER` a file is skipped when the start offset reaches
  the announced size; for an empty file it does so at 0.  The target is then
  not opened: what stood under the name stays, or nothing does.

    • `Leads.emptyFile`    — an empty file, from its SEND_META to the next
      exchange,
    • `start_zero_iff`     — a file started at zero is exactly the sender's
      content, at its completion in any batch, if and only if the mode is
      `NEVER`, or the content is not empty, or the target was empty before,
    • `start_zero_missing` — an empty file that is never created.
-/
import ValProtocol.Session.FaultFree

namespace ValProtocol

/-! ## §1. What a file of any size becomes. -/

/-- What stands under a name behind a transfer: an empty file is not written
outside `NEVER`. -/
def leftBehind (cfg : ResumeConfig) (existing : Option Bytes) (content : Bytes) : Option Bytes :=
  if content = [] ∧ cfg.mode ≠ .never then existing else some (stored cfg existing content)

/-- One file of a batch, as the filesystem sees it. -/
def leaveFile (env : RecvEnv) (dir : Bytes) (files : Bytes → Option Bytes) (f : SourceFile) :
    Bytes → Option Bytes :=
  Function.update files (targetFile env dir f.name)
    (leftBehind env.cfg.resume (files (targetFile env dir f.name)) (f.content.getD []))

theorem Sized.leaveFile (env : RecvEnv) (dir : Bytes) {files : Bytes → Option Bytes}
    (h : Sized files) {f : SourceFile} {content : Bytes} (hread : f.readable = some content) :
    Sized (leaveFile env dir files f) := by
  obtain ⟨hc, hlt⟩ := SourceFile.readable_spec hread
  intro path e he
  unfold ValProtocol.leaveFile leftBehind at he
  by_cases hp : path = targetFile env dir f.name
  · rw [hp, Function.update_self, hc, Option.getD_some] at he
    split at he
    · exact h _ e he
    · cases he
      exact stored_length hlt (fun e he => h _ e he)
  · rw [Function.update_of_ne hp] at he
    exact h path e he

/-- **The decision to start at zero**: `determine_resume_action` says so, or
asks for a VERIFY whose verdict on the sender's window does. -/
def StartsAtZero (env : RecvEnv) (mtu : Nat) (existing : Option Bytes) (content : Bytes) : Prop :=
  determineResumeAction env mtu existing content.length = .startZero
  ∨ (determineResumeAction env mtu existing content.length).action = .verifyFirst
    ∧ ∃ e, existing = some e
      ∧ (verifyVerdict env mtu e (tailRequest env.cfg.resume e.length content)).1 = .resumeVerify

/-- Where the start-at-zero decision produces the file. -/
def ProducedWhen (cfg : ResumeConfig) (existing : Option Bytes) (content : Bytes) : Prop :=
  cfg.mode = .never ∨ content ≠ [] ∨ existing = some []

section Decide

variable {env : RecvEnv} {mtu : Nat} {existing : Option Bytes} {content : Bytes}

/-- A file started at zero is stored as the sender's content. -/
theorem StartsAtZero.stored_eq (hp : StandardProvider env.provider)
    (hcfg : env.cfg.Accepted) (hlong : env.cfg.longBits = 64)
    (hsized : ∀ e, existing = some e → e.length < 2 ^ 63)
    (h : StartsAtZero env mtu existing content) :
    stored env.cfg.resume existing content = content := by
  have hpacket : 0 < env.cfg.packetSize := by
    have := hcfg.packetSize_min
    simp only [minPacketSize] at this
    omega
  rcases determineResumeAction_stored mtu hp hpacket hlong hsized content with
    ⟨-, hstored⟩ | ⟨hd, -, -⟩ | ⟨e, hex, hpos, hle, hmode, hd⟩
  · exact hstored
  · -- a skip is no start
    rcases h with h | ⟨h, -⟩
    all_goals
      rw [hd] at h
      cases h
  · rcases h with h | ⟨-, e', hex', hverdict⟩
    · rw [hd] at h
      cases h
    · obtain rfl : e = e' := Option.some.inj (hex ▸ hex')
      rw [verifyVerdict_tail mtu hp hcfg hlong hpos (hsized e hex) content] at hverdict
      have hne : ¬ crc32 (tailWindow env.cfg.resume e.length e)
          = crc32 (tailWindow env.cfg.resume e.length content) := by
        intro heq
        rw [if_pos heq] at hverdict
        cases hverdict
      have hskip : env.cfg.resume.mismatchSkip = false := by
        by_contra hs
        rw [Bool.not_eq_false] at hs
        have hm : mismatchStatus env = .skipped := by
          unfold mismatchStatus
          rw [if_pos ⟨hs, by rw [hmode]; decide⟩]
        rw [if_neg hne, hm] at hverdict
        cases hverdict
      rw [hex, stored_tail hmode hpos hle, if_neg hne, hskip, if_neg Bool.false_ne_true]

/-- An empty file is started at zero or skipped. -/
theorem determineResumeAction_empty (env : RecvEnv) (mtu : Nat) (existing : Option Bytes) :
    determineResumeAction env mtu existing 0 = .startZero
    ∨ determineResumeAction env mtu existing 0 = .skipFile ∧ env.cfg.resume.mode ≠ .never := by
  unfold determineResumeAction
  cases existing with
  | none => exact Or.inl rfl
  | some e =>
      dsimp only
      by_cases hlarge : e.length ≥ 2 ^ 63
      · rw [if_pos hlarge]
        exact Or.inl rfl
      · rw [if_neg hlarge]
        cases env.cfg.resume.mode with
        | never => exact Or.inl rfl
        | skipExisting =>
            dsimp only
            split
            · exact Or.inr ⟨rfl, by decide⟩
            · exact Or.inl rfl
        | tail =>
            dsimp only
            by_cases hzero : e.length = 0
            · rw [if_pos hzero]
              exact Or.inl rfl
            · rw [if_neg hzero, if_pos (by omega)]
              split
              · exact Or.inr ⟨rfl, by decide⟩
              · exact Or.inl rfl

/-- **What a start at zero leaves.** -/
theorem StartsAtZero.leftBehind_iff (hp : StandardProvider env.provider)
    (hcfg : env.cfg.Accepted) (hlong : env.cfg.longBits = 64)
    (hsized : ∀ e, existing = some e → e.length < 2 ^ 63)
    (h : StartsAtZero env mtu existing content) :
    leftBehind env.cfg.resume existing content = some content
      ↔ ProducedWhen env.cfg.resume existing content := by
  have hstored := h.stored_eq hp hcfg hlong hsized
  unfold leftBehind ProducedWhen
  by_cases hempty : content = [] ∧ env.cfg.resume.mode ≠ .never
  · rw [if_pos hempty, hempty.1]
    constructor
    · exact fun hex => Or.inr (Or.inr hex)
    · rintro (hmode | hne | hex)
      · exact absurd hmode hempty.2
      · exact absurd rfl hne
      · exact hex
  · rw [if_neg hempty, hstored]
    refine iff_of_true rfl ?_
    by_cases hc : content = []
    · exact Or.inl (by by_contra hmode; exact hempty ⟨hc, hmode⟩)
    · exact Or.inr (Or.inl hc)

end Decide

/-! ## §2. An empty file on the link. -/

section File

variable {c : SessionParams} {batch : List SourceFile} {k : Nat} {dir : Bytes}
  {files : Bytes → Option Bytes} {completed : List MetaPayload} {P : View → Prop}
  {snd : SendState} {rcv : RecvState} {f : RecvFile}

/-- Behind the decision on an empty file: only `NEVER` opens the target. -/
theorem Leads.emptyStarted (hc : c.Plain) (hsize : f.size = 0) (hsnd : SendReady c batch k snd)
    (hrcv : RecvReady c dir files completed rcv) (hpc :
      (rcv.pc = .dataWait f (initRecv c.rcv.cfg [] 0 0) ∧ c.rcv.cfg.resume.mode = .never)
      ∨ (∃ tries, rcv.pc = .skipWait f tries) ∧ c.rcv.cfg.resume.mode ≠ .never)
    {o : ResumeOutcome} (ho : o = .skip ∨ o = .start 0)
    (hnext : ∀ snd rcv, SendReady c batch (k + 1) snd →
      RecvReady c dir (Function.update files f.path
          (leftBehind c.rcv.cfg.resume (files f.path) []))
        (completed ++ [f.announced]) rcv →
      rcv.pc = .metaWait c.rcv.cfg.retries.metaRetries →
      Leads c (.mid (snd.beginFile c.snd).2 rcv (snd.beginFile c.snd).1 []) P) :
    Leads c (.mid (snd.onOutcome c.snd [] o).2 rcv (snd.onOutcome c.snd [] o).1 []) P := by
  have hlt : ([] : Bytes).length < 2 ^ 63 := by decide
  obtain ⟨skip, hdone⟩ := hsnd.onOutcome_end hc hlt ho
  have hdone' : snd.onOutcome c.snd [] o = ([sendBare .done f.size],
      { snd.started 0 0 with pc := .doneWait f.size c.snd.cfg.retries.ackRetries skip }) := by
    rw [hdone, hsize]
    rfl
  rw [hdone']
  rcases hpc with ⟨hpc, hmode⟩ | ⟨⟨tries, hpc⟩, hmode⟩
  · have hleft : leftBehind c.rcv.cfg.resume (files f.path) [] = some [] := by
      unfold leftBehind stored
      rw [if_neg (fun h => h.2 hmode), hmode]
    rw [hleft] at hnext
    exact Leads.finish hc (by omega)
      ⟨hsnd.moved _ _ _, hrcv, ⟨_, skip, rfl⟩, Or.inl ⟨_, hpc, rfl, Nat.two_pow_pos 63⟩⟩ hnext
  · have hleft : leftBehind c.rcv.cfg.resume (files f.path) [] = files f.path :=
      if_pos ⟨rfl, hmode⟩
    rw [hleft, Function.update_eq_self] at hnext
    exact Leads.finishSkipped hc (by omega) (hsnd.moved _ _ _) rfl hrcv hpc hnext

/-- **An empty file**, from its SEND_META to the next exchange. -/
theorem Leads.emptyFile (hc : c.Plain) {src : SourceFile} (hsrc : batch[k]? = some src)
    (hread : src.readable = some []) (hsnd : SendReady c batch k snd)
    (hrcv : RecvReady c dir files completed rcv)
    (hrpc : rcv.pc = .metaWait c.rcv.cfg.retries.metaRetries)
    (hnext : ∀ snd rcv, SendReady c batch (k + 1) snd →
      RecvReady c dir (leaveFile c.rcv dir files src)
        (completed ++ [src.announced c.snd.senderPath]) rcv →
      rcv.pc = .metaWait c.rcv.cfg.retries.metaRetries →
      Leads c (.mid (snd.beginFile c.snd).2 rcv (snd.beginFile c.snd).1 []) P) :
    Leads c (.mid (snd.beginFile c.snd).2 rcv (snd.beginFile c.snd).1 []) P := by
  have hmin := hc.mtu_min
  have hsmtu : minPacketSize ≤ snd.mtu := by rw [hsnd.mtu_eq]; exact hmin
  rw [hsnd.beginFile_eq hsrc hread]
  refine Leads.announce hrpc (by rw [hrcv.mtu_eq]; exact hmin) hread ?_
  -- the receiver's view of the file
  obtain ⟨hann, hfpath, hsize, hpath⟩ := hrcv.incoming hread
  set f := rcv.incomingFile c.rcv (serializeMeta (src.announced c.snd.senderPath)) with hf
  set rcv₁ := rcv.acceptMeta c.rcv (serializeMeta (src.announced c.snd.senderPath)) with hrcv₁
  have hzero : f.size = 0 := hsize
  have hready : RecvReady c dir files completed rcv₁ :=
    ⟨hrcv.mtu_eq, hrcv.dir_eq, hrcv.files_eq, hrcv.completed_eq, hrcv.log_eq⟩
  have hsnd₁ : SendReady c batch k
      { snd with pc := .resumeWait [] c.snd.cfg.retries.ackRetries } :=
    ⟨hsnd.mtu_eq, hsnd.batch_eq, hsnd.idx_eq, hsnd.log_eq, hsnd.flow_ok⟩
  have hstage : rcv₁.pc.stage = .undecided f := RecvState.acceptMeta_stage c.rcv rcv _
  have hpath₁ : (rcv₁.targetPath c.rcv f).length < maxPath * 2 + 8 := hpath
  have hnext' : ∀ snd rcv, SendReady c batch (k + 1) snd →
      RecvReady c dir (Function.update files f.path
          (leftBehind c.rcv.cfg.resume (files f.path) []))
        (completed ++ [f.announced]) rcv →
      rcv.pc = .metaWait c.rcv.cfg.retries.metaRetries →
      Leads c (.mid (snd.beginFile c.snd).2 rcv (snd.beginFile c.snd).1 []) P := by
    have hcontent := (SourceFile.readable_spec hread).1
    intro snd' rcv' hsnd' hrcv' hpc'
    refine hnext snd' rcv' hsnd' ?_ hpc'
    unfold leaveFile
    rw [← hann, ← hfpath, hcontent]
    exact hrcv'
  rcases determineResumeAction_empty c.rcv rcv₁.mtu (rcv₁.files f.path) with hd | ⟨hd, hmode⟩
  · -- the decision is to start at zero
    refine Leads.respond hstage rfl hsmtu
      (RecvState.answerResume_zero hc.no_validator hpath₁ (by rw [hzero]; exact hd))
      (onResumeResp_startZero c.snd snd.mtu []) rfl ?_
    rw [RecvState.settle_good hc.no_validator hpath₁]
    by_cases hmode : c.rcv.cfg.resume.mode = .never
    · rw [if_pos hmode]
      refine Leads.emptyStarted hc hzero hsnd₁ (hready.moved _ 0) (Or.inl ⟨?_, hmode⟩)
        (Or.inr rfl) hnext'
      show RecvPc.dataWait f (initRecv c.rcv.cfg _ 0 f.size) = _
      rw [hzero]
      rfl
    · rw [if_neg hmode, decide_eq_true (show 0 ≥ f.size by omega)]
      exact Leads.emptyStarted hc hzero hsnd₁ (hready.moved _ 0) (Or.inr ⟨⟨_, rfl⟩, hmode⟩)
        (Or.inr rfl) hnext'
  · -- or to skip the file
    refine Leads.respond hstage rfl hsmtu
      (RecvState.answerResume_skip hc.no_validator hpath₁ (by rw [hzero]; exact hd))
      (onResumeResp_skipFile c.snd snd.mtu []) rfl ?_
    rw [RecvState.settle_skip hc hpath₁]
    exact Leads.emptyStarted hc hzero hsnd₁ (hready.moved _ _) (Or.inr ⟨⟨_, rfl⟩, hmode⟩)
      (Or.inl rfl) hnext'

/-- Between two files of a call: `k` of them are done, the sender has announced
the next one or sent EOT. -/
def Between (c : SessionParams) (batch : List SourceFile) (k : Nat) (dir : Bytes)
    (files : Bytes → Option Bytes) (completed : List MetaPayload) (v : View) : Prop :=
  ∃ snd rcv, SendReady c batch k snd ∧ RecvReady c dir files completed rcv
    ∧ rcv.pc = .metaWait c.rcv.cfg.retries.metaRetries
    ∧ v = .mid (snd.beginFile c.snd).2 rcv (snd.beginFile c.snd).1 []

/-- **Some files of a batch**, empty or not, from any point between two. -/
theorem Leads.several (hc : c.Plain) (rest tail : List SourceFile)
    (hrest : batch.drop k = rest ++ tail)
    (hfiles : ∀ f ∈ rest, ∃ content, f.readable = some content) (hsized : Sized files)
    {v : View} (hv : Between c batch k dir files completed v) :
    Leads c v (Between c batch (k + rest.length) dir (rest.foldl (leaveFile c.rcv dir) files)
      (completed ++ rest.map (SourceFile.announced c.snd.senderPath))) := by
  induction rest generalizing k files completed v with
  | nil =>
      rw [List.map_nil, List.append_nil]
      exact Leads.now hv
  | cons f rest ih =>
      rw [List.cons_append] at hrest
      obtain ⟨hk, hdrop⟩ := drop_cons_getElem? hrest
      obtain ⟨content, hread⟩ := hfiles f List.mem_cons_self
      obtain ⟨snd, rcv, hsnd, hrcv, hrpc, rfl⟩ := hv
      have hsized' := hsized.leaveFile c.rcv dir hread
      have hgo : ∀ snd rcv, SendReady c batch (k + 1) snd →
          RecvReady c dir (leaveFile c.rcv dir files f)
            (completed ++ [f.announced c.snd.senderPath]) rcv →
          rcv.pc = .metaWait c.rcv.cfg.retries.metaRetries →
          Leads c (.mid (snd.beginFile c.snd).2 rcv (snd.beginFile c.snd).1 [])
            (Between c batch (k + (f :: rest).length) dir
              ((f :: rest).foldl (leaveFile c.rcv dir) files)
              (completed ++ (f :: rest).map (SourceFile.announced c.snd.senderPath))) := by
        intro snd' rcv' hsnd' hrcv' hrpc'
        have := ih hdrop (fun g hg => hfiles g (List.mem_cons_of_mem _ hg)) hsized'
          ⟨snd', rcv', hsnd', hrcv', hrpc', rfl⟩
        rw [List.append_assoc, List.singleton_append] at this
        rw [List.length_cons, Nat.add_comm rest.length 1, ← Nat.add_assoc]
        exact this
      by_cases hempty : content = []
      · subst hempty
        exact Leads.emptyFile hc hk hread hsnd hrcv hrpc hgo
      · -- a file with content is left as it is received
        have hleave : leaveFile c.rcv dir files f = receiveFile c.rcv dir files f := by
          have hcontent := (SourceFile.readable_spec hread).1
          unfold leaveFile receiveFile leftBehind
          rw [hcontent, Option.getD_some, if_neg (fun h => hempty h.1)]
        rw [hleave] at hgo
        exact Leads.file hc hsized hk hread (List.length_pos_of_ne_nil hempty) hsnd hrcv hrpc hgo

/-- The files of a batch as far as they are done leave a filesystem whose sizes
fit. -/
theorem sized_foldl (env : RecvEnv) (dir : Bytes) (rest : List SourceFile)
    (hfiles : ∀ f ∈ rest, ∃ content, f.readable = some content) (hsized : Sized files) :
    Sized (rest.foldl (leaveFile env dir) files) := by
  induction rest generalizing files with
  | nil => exact hsized
  | cons f rest ih =>
      obtain ⟨content, hread⟩ := hfiles f List.mem_cons_self
      exact ih (fun g hg => hfiles g (List.mem_cons_of_mem _ hg)) (hsized.leaveFile env dir hread)

/-- A call comes by every point between two of its files. -/
theorem Leads.upTo (hc : c.Plain) (dir : Bytes) (hne : batch ≠ [])
    (hread : ∀ f ∈ batch, ∃ content, f.readable = some content) (hsized : Sized files)
    (k : Nat) (hk : k ≤ batch.length) :
    Leads c (SessionSys.init c files [batch] [dir]).view
      (Between c batch k dir ((batch.take k).foldl (leaveFile c.rcv dir) files)
        ((batch.take k).map (SourceFile.announced c.snd.senderPath))) := by
  refine greet hc.snd_ok hc.rcv_ok hne ?_
  intro snd rcv hsnd _ hrcv hrpc
  have hgo := Leads.several hc (batch.take k) (batch.drop k)
    (by rw [List.drop_zero, List.take_append_drop])
    (fun f hf => hread f (List.mem_of_mem_take hf)) hsized ⟨snd, rcv, hsnd, hrcv, hrpc, rfl⟩
  rw [Nat.zero_add, List.length_take, Nat.min_eq_left hk, List.nil_append] at hgo
  exact hgo

/-- And ends behind the last one. -/
theorem Leads.whole (hc : c.Plain) (dir : Bytes) (hne : batch ≠ [])
    (hread : ∀ f ∈ batch, ∃ content, f.readable = some content) (hsized : Sized files) :
    Leads c (SessionSys.init c files [batch] [dir]).view
      (Finished c batch (batch.foldl (leaveFile c.rcv dir) files)
        (batch.map (SourceFile.announced c.snd.senderPath))) := by
  intro s hs
  obtain ⟨n, s', hrun, hmid⟩ := Leads.upTo hc dir hne hread hsized batch.length
    (Nat.le_refl _) s hs
  rw [List.take_length] at hmid
  obtain ⟨snd, rcv, hsnd, hrcv, hrpc, hv⟩ := hmid
  have hend : batch[batch.length]? = none := List.getElem?_eq_none (Nat.le_refl _)
  obtain ⟨n', f, hrun', hfin⟩ := Leads.eot hc hend hsnd hrcv hrpc s' hv
  exact ⟨n + n', f, hrun.trans hrun', hfin⟩

end File

/-! ## §3. The batch. -/

/-- **Files started at zero.**  For every resume mode and configuration, every
batch of files below 2^63 bytes, empty ones included, and every receiver
filesystem: there is one final state `f` that every run leads to, with both
calls returned `VAL_OK`.  On the way the receiver comes to the wait for each
file's metadata, in a state `s`, and from there to the next such wait, with the
file completed, in a state `t`.  If the file is started at zero on what stands
under its name in `s`, then `t` has exactly the sender's content there if and
only if the mode is `NEVER`, the content is not empty, or the target was an
empty file. -/
theorem start_zero_iff {c : SessionParams} (hc : c.Plain) {batch : List SourceFile}
    (hne : batch ≠ [])
    (hfiles : ∀ f ∈ batch, ∃ content, f.content = some content ∧ content.length < 2 ^ 63)
    {files : Bytes → Option Bytes} (hsized : Sized files) (dir : Bytes) :
    ∃ N f, Lts.Terminal (Calm c) f
      ∧ f.snd.log = [(batch, .ok)]
      ∧ f.rcv.log = [(batch.map (SourceFile.announced c.snd.senderPath), .ok)]
      ∧ (∀ m s, Lts.Steps (Calm c) m (SessionSys.init c files [batch] [dir]) s →
        m ≤ N ∧ Lts.Steps (Calm c) (N - m) s f)
      ∧ ∀ k src content, batch[k]? = some src → src.content = some content →
        ∃ n s n' t, Lts.Steps (Calm c) n (SessionSys.init c files [batch] [dir]) s
          ∧ s.rcv.pc = .metaWait c.rcv.cfg.retries.metaRetries
          ∧ s.rcv.completed = (batch.take k).map (SourceFile.announced c.snd.senderPath)
          ∧ Lts.Steps (Calm c) n' s t
          ∧ t.rcv.pc = .metaWait c.rcv.cfg.retries.metaRetries
          ∧ t.rcv.completed = (batch.take (k + 1)).map (SourceFile.announced c.snd.senderPath)
          ∧ (StartsAtZero c.rcv c.mtu (s.rcv.files (targetFile c.rcv dir src.name)) content →
            (t.rcv.files (targetFile c.rcv dir src.name) = some content
              ↔ ProducedWhen c.rcv.cfg.resume (s.rcv.files (targetFile c.rcv dir src.name))
                content)) := by
  have hread : ∀ f ∈ batch, ∃ content, f.readable = some content := by
    intro f hf
    obtain ⟨content, hcontent, hlt⟩ := hfiles f hf
    refine ⟨content, ?_⟩
    unfold SourceFile.readable
    rw [hcontent]
    exact Option.filter_eq_some_iff.mpr ⟨rfl, decide_eq_true hlt⟩
  obtain ⟨N, f, hrun, hfin⟩ := Leads.whole hc dir hne hread hsized _ rfl
  refine ⟨N, f, hfin.terminal, hfin.snd_log, hfin.rcv_log, ?_, ?_⟩
  · intro m s hsteps
    exact (calm_diamond c).steps_to hfin.terminal hrun hsteps
  · intro k src content hsrc hcontent
    obtain ⟨hk, hget⟩ := List.getElem?_eq_some_iff.mp hsrc
    obtain ⟨n, s, hsteps, hs⟩ := Leads.upTo hc dir hne hread hsized k (by omega) _ rfl
    have hfiles' := sized_foldl c.rcv dir (batch.take k)
      (fun g hg => hread g (List.mem_of_mem_take hg)) hsized
    -- one more file
    have hdrop : batch.drop k = [src] ++ batch.drop (k + 1) := by
      rw [List.drop_eq_getElem_cons hk, hget]
      rfl
    have hone : ∀ g ∈ [src], ∃ content, g.readable = some content := by
      intro g hg
      rw [List.mem_singleton.mp hg]
      exact hread src (List.mem_of_getElem? hsrc)
    obtain ⟨n', t, hsteps', ht⟩ := Leads.several hc [src] _ hdrop hone hfiles' hs s rfl
    obtain ⟨snd, rcv, -, hrcv, hrpc, hv⟩ := hs
    obtain ⟨snd', rcv', -, hrcv', hrpc', hv'⟩ := ht
    have hsr : s.rcv = rcv := congrArg View.rcv hv
    have htr : t.rcv = rcv' := congrArg View.rcv hv'
    have htake : batch.take (k + 1) = batch.take k ++ [src] := by
      rw [List.take_add_one, hsrc]
      rfl
    refine ⟨n, s, n', t, hsteps, by rw [hsr]; exact hrpc, by rw [hsr]; exact hrcv.completed_eq,
      hsteps', by rw [htr]; exact hrpc', ?_, ?_⟩
    · rw [htr, hrcv'.completed_eq, htake, List.map_append]
    · intro hzero
      rw [hsr, hrcv.files_eq] at hzero
      rw [htr, hsr, hrcv.files_eq, hrcv'.files_eq, List.foldl_cons, List.foldl_nil]
      unfold leaveFile
      rw [Function.update_self, hcontent, Option.getD_some]
      exact hzero.leftBehind_iff hc.rcv_crc hc.rcv_ok hc.rcv_long
        (fun e he => hfiles' _ e he)

/-- One byte for `a`, of which the receiver has two, and an empty `b`. -/
def shortAndEmpty : List SourceFile := [⟨[97], some [9]⟩, ⟨[98], some []⟩]

/-- TAIL starts the first file at zero and produces it; the second one has
nothing under its name. -/
theorem start_zero_small :
    ∃ N f, Lts.Steps (Calm tailPair) N
        (SessionSys.init tailPair halfThere [shortAndEmpty] [[]]) f
      ∧ f.snd.log = [(shortAndEmpty, .ok)]
      ∧ ∀ k src content, shortAndEmpty[k]? = some src → src.content = some content →
        ∃ s t : SessionSys, s.rcv.completed.length = k
          ∧ t.rcv.completed = (shortAndEmpty.take (k + 1)).map (SourceFile.announced none)
          ∧ (StartsAtZero tailPair.rcv tailPair.mtu
              (s.rcv.files (targetFile tailPair.rcv [] src.name)) content →
            (t.rcv.files (targetFile tailPair.rcv [] src.name) = some content
              ↔ ProducedWhen tailPair.rcv.cfg.resume
                (s.rcv.files (targetFile tailPair.rcv [] src.name)) content)) := by
  have hfiles : ∀ f ∈ shortAndEmpty, ∃ content, f.content = some content
      ∧ content.length < 2 ^ 63 := by
    intro f hf
    rcases List.mem_cons.mp hf with rfl | hf
    · exact ⟨_, rfl, by decide⟩
    · rw [List.mem_singleton.mp hf]
      exact ⟨_, rfl, by decide⟩
  obtain ⟨N, f, -, hsnd, -, hruns, hdone⟩ := start_zero_iff tailPair_plain
    (show shortAndEmpty ≠ [] from fun h => by cases h) hfiles halfThere_sized []
  refine ⟨N, f, (hruns 0 _ (.zero _)).2, hsnd, ?_⟩
  intro k src content hsrc hcontent
  obtain ⟨n, s, n', t, -, -, hbefore, -, -, hafter, hiff⟩ := hdone k src content hsrc hcontent
  have hk : k < shortAndEmpty.length := (List.getElem?_eq_some_iff.mp hsrc).1
  refine ⟨s, t, ?_, hafter, hiff⟩
  rw [hbefore, List.length_map, List.length_take]
  omega

/-- An empty file alone. -/
def emptyBatch : List SourceFile := [⟨[97], some []⟩]

/-- **An empty file is not created.**  Under TAIL nothing stands under the name
and the decision is to start at zero; every run ends with both calls returned
`VAL_OK`, the file completed and still nothing under the name. -/
theorem start_zero_missing :
    determineResumeAction tailPair.rcv tailPair.mtu none 0 = .startZero
      ∧ ∃ N f, (∀ m s, Lts.Steps (Calm tailPair) m
          (SessionSys.init tailPair (fun _ => none) [emptyBatch] [[]]) s →
        m ≤ N ∧ Lts.Steps (Calm tailPair) (N - m) s f)
      ∧ f.snd.log = [(emptyBatch, .ok)]
      ∧ f.rcv.log = [(emptyBatch.map (SourceFile.announced none), .ok)]
      ∧ f.rcv.files (targetFile tailPair.rcv [] [97]) = none := by
  have hread : ∀ f ∈ emptyBatch, ∃ content, f.readable = some content := by
    intro f hf
    rw [List.mem_singleton.mp hf]
    exact ⟨[], rfl⟩
  have hsized : Sized (fun _ : Bytes => none) := by
    intro path e he
    cases he
  obtain ⟨N, f, hrun, hfin⟩ := Leads.whole tailPair_plain []
    (show emptyBatch ≠ [] from fun h => by cases h) hread hsized _ rfl
  refine ⟨by decide +kernel, N, f, ?_, hfin.snd_log, hfin.rcv_log, ?_⟩
  · intro m s hsteps
    exact (calm_diamond tailPair).steps_to hfin.terminal hrun hsteps
  · rw [show f.rcv.files = _ from hfin.files_eq]
    decide +kernel

end ValProtocol
