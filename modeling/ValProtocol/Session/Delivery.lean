/-
  ValProtocol.Session.Delivery
  ────────────────────────────
  What a session is for: one `val_send_files` call against one
  `val_receive_files` call stores the sender's files one after the other, in
  the sense of `ValProtocol.Lib.Uploads`.

  Every reached state of the joint system shows a reached state of the store:
  a file that is skipped is kept, one that is completed is written from its
  start offset on, and a call that fails in the data loop has written some of
  the bytes.  The policy of the store is what `VAL_RESUME_*` allows.

    • `session_simulation`   — the joint system under a `Shelter`,
    • `session_refines`      — any window, while packets without an offset are
      taken in place,
    • `delivered_across_attempts` — a window of one packet, every run: any
      number of attempts leave prefixes behind, and one that succeeds leaves
      the sender's bytes.
-/
import ValProtocol.Lib.Uploads
import ValProtocol.Session.Batches
import ValProtocol.Session.Containment
import ValProtocol.Session.Transit

namespace ValProtocol

/-! ## §1. Targets. -/

/-- Where the receiver stores a file of the sender. -/
def SessionParams.target (c : SessionParams) (dir : Bytes) (src : SourceFile) : Bytes :=
  joinPath c.rcv.pathSep 512 (dir.take maxPath) src.name

/-- The batch as jobs of a store. -/
def SessionParams.jobs (c : SessionParams) (dir : Bytes) (batch : List SourceFile) :
    List (Uploads.Job Bytes UInt8) :=
  batch.map fun src => ⟨c.target dir src, src.content.getD []⟩

theorem SessionParams.jobs_getElem? {c : SessionParams} {dir : Bytes} {batch : List SourceFile}
    {k : Nat} {src : SourceFile} (h : batch[k]? = some src) :
    (c.jobs dir batch)[k]? = some ⟨c.target dir src, contentAt batch k⟩ := by
  rw [SessionParams.jobs, List.getElem?_map, h, contentAt, h]
  rfl

/-- What a step of the joint system is for the receiver. -/
theorem SessionSys.step_react {c : SessionParams} {s s' : SessionSys} {l : SessionLabel}
    (h : s.step c l = some s') :
    (s'.rcv = s.rcv ∧ s'.rcvCalls = s.rcvCalls)
    ∨ ∃ i r, s.rcv.react c.rcv i = some r ∧ s'.rcv = r.2
        ∧ (s'.rcvCalls = s.rcvCalls ∧ s.rcv.pc ≠ .idle ∧ (∀ dir, i ≠ .call dir)
          ∨ ∃ dir, i = .call dir ∧ s.rcvCalls = dir :: s'.rcvCalls) := by
  cases SessionSys.step_inv h with
  | sndCall hcalls hidle => exact Or.inl ⟨rfl, rfl⟩
  | @rcvCall dir rest hcalls hidle =>
      refine Or.inr ⟨.call dir, ([], s.rcv.call c.rcv dir), ?_, rfl, Or.inr ⟨dir, rfl, hcalls⟩⟩
      simp only [RecvState.react, hidle, if_true]
  | sndRecv hchan hbusy => exact Or.inl ⟨rfl, rfl⟩
  | sndTimeout hbusy => exact Or.inl ⟨rfl, rfl⟩
  | @rcvRecv it rest fs hchan hbusy =>
      refine Or.inr ⟨.frame it.send.frame fs, _, ?_, rfl,
        Or.inl ⟨rfl, hbusy, by intro _ h; cases h⟩⟩
      simp only [RecvState.react, hbusy, if_false]
  | @rcvTimeout timer fs hbusy =>
      refine Or.inr ⟨.timeout timer fs, _, ?_, rfl,
        Or.inl ⟨rfl, hbusy, by intro _ h; cases h⟩⟩
      simp only [RecvState.react, hbusy, if_false]
  | lose hl hrcv hsnd => exact Or.inl ⟨rfl, rfl⟩

/-- The receiver's call stores into `dir`. -/
structure Housed (c : SessionParams) (dir : Bytes) (s : SessionSys) : Prop where
  calls : ∀ d ∈ s.rcvCalls, d = dir
  root : ∃ d, DirRun.Rooted c.rcv ⟨s.rcv, d⟩ ∧ (s.rcv.pc ≠ .idle → d = dir)

section Targets

variable {c : SessionParams} {batch : List SourceFile} {dir : Bytes} {D : Nat → Option Bytes}
  {s s' : SessionSys}

theorem housed_init (c : SessionParams) (files : Bytes → Option Bytes)
    (batch : List SourceFile) (dir : Bytes) :
    Housed c dir (SessionSys.init c files [batch] [dir]) := by
  refine ⟨fun d hd => List.mem_singleton.mp hd, [], ⟨rfl, nofun⟩, ?_⟩
  exact fun hbusy => absurd rfl hbusy

theorem housed_step {l : SessionLabel} (h : Housed c dir s) (hstep : s.step c l = some s') :
    Housed c dir s' := by
  obtain ⟨d, hroot, hdir⟩ := h.root
  rcases SessionSys.step_react hstep with ⟨hrcv, hcalls⟩ | ⟨i, r, hreact, hrcv, hcase⟩
  · refine ⟨by rw [hcalls]; exact h.calls, d, ?_, ?_⟩
    · rw [hrcv]
      exact hroot
    · rw [hrcv]
      exact hdir
  · have hnext : DirRun.step c.rcv ⟨s.rcv, d⟩ i = some ⟨s'.rcv, i.dirAfter d⟩ := by
      simp only [DirRun.step, RecvState.step, hreact, Option.map_some, hrcv]
    have hroot' := hroot.step hnext
    rcases hcase with ⟨hcalls, hbusy, hno⟩ | ⟨dir', rfl, hcalls⟩
    · refine ⟨by rw [hcalls]; exact h.calls, _, hroot', fun _ => ?_⟩
      cases i with
      | call dir' => exact absurd rfl (hno dir')
      | frame fr fs => exact hdir hbusy
      | timeout timer fs => exact hdir hbusy
    · refine ⟨fun x hx => h.calls x ?_, dir', hroot', fun _ => h.calls dir' ?_⟩
      · rw [hcalls]
        exact List.mem_cons_of_mem _ hx
      · rw [hcalls]
        exact List.mem_cons_self ..

/-- **The file the receiver is at** is the next one of the batch. -/
theorem Joint.target_eq (hj : Joint c batch D s) (h : Housed c dir s) {f : RecvFile}
    (hphase : s.rcv.pc.phase = .file f) :
    ∃ src, batch[s.rcv.completed.length]? = some src ∧ f.path = c.target dir src := by
  have hbusy : s.rcv.pc ≠ .idle := by
    intro hidle
    rw [hidle] at hphase
    cases hphase
  obtain ⟨d, hroot, hdir⟩ := h.root
  have hat := hj.sync.rcv_at (hj.sync.rcv_busy hbusy)
  obtain ⟨src, hsrc, hann⟩ := hat.file_ok f hphase
  rw [hj.stamped.rcv_turn (hj.one.rcv_busy hbusy) (hat.file_done f hphase)] at hsrc
  refine ⟨src, script_file hsrc, ?_⟩
  have hname : cleanFilename (maxFilename + 1) (serializeMeta (src.announced c.snd.senderPath))
      = src.name := by
    show cleanFilename (maxFilename + 1) (nulField maxFilename src.name ++ _) = _
    exact cleanFilename_field (cleanFilename_clean _) _
  rw [hroot.path_eq f hphase, hdir hbusy, hann, hname]
  rfl

end Targets

/-! ## §2. The policy of the store. -/

/-- What `VAL_RESUME_*` allows: a file is kept where nothing is left to send or
the policy keeps it, and written behind a verified local file, or from 0 where
there is none. -/
def RecvEnv.uploads (env : RecvEnv) : Uploads.Policy UInt8 := fun bytes existing a =>
  match a with
  | .keep => bytes = [] ∨ Skippable env existing ∨ Resumable env bytes existing bytes.length
  | .put off | .tear off _ =>
      (off = 0 ∧ Refuted env bytes existing ∨ Resumable env bytes existing off)
        ∧ (off < bytes.length ∨ env.cfg.resume.mode = .never)

/-- A file that is kept is not one of `VAL_RESUME_NEVER`. -/
theorem Skippable.not_never {env : RecvEnv} {existing : Option Bytes}
    (h : Skippable env existing) : env.cfg.resume.mode ≠ .never := by
  obtain ⟨-, -, -, hmode | ⟨hmode, -⟩⟩ := h
  · rw [hmode]
    exact nofun
  · rw [hmode]
    exact nofun

section Policy

variable {env : RecvEnv} {batch : List SourceFile} {st : RecvStart}

/-- The file is written. -/
theorem StartOk.writes (h : StartOk env batch st)
    (hoff : st.offset < (contentAt batch st.file).length ∨ env.cfg.resume.mode = .never) :
    st.offset = 0 ∧ Refuted env (contentAt batch st.file) st.existing
    ∨ Resumable env (contentAt batch st.file) st.existing st.offset := by
  rcases h.why with hzero | hres | ⟨hskip, heq⟩
  · exact Or.inl hzero
  · exact Or.inr hres
  · exfalso
    rcases hoff with hlt | hnever
    · rw [heq, h.size_eq] at hlt
      exact absurd hlt (Nat.lt_irrefl _)
    · exact hskip.not_never hnever

/-- The file is kept. -/
theorem StartOk.keeps (h : StartOk env batch st)
    (hoff : (contentAt batch st.file).length ≤ st.offset) :
    env.uploads (contentAt batch st.file) st.existing .keep := by
  rcases h.why with ⟨hzero, -⟩ | hres | ⟨hskip, -⟩
  · left
    rw [hzero] at hoff
    exact List.eq_nil_of_length_eq_zero (by omega)
  · right
    right
    have hle : st.offset ≤ (contentAt batch st.file).length := by
      obtain ⟨_, _, _, _, hle, _⟩ := hres
      exact hle
    rwa [show (contentAt batch st.file).length = st.offset by omega]
  · exact Or.inr (Or.inl hskip)

end Policy

/-! ## §3. The store behind a session. -/

/-- The state of the store that a session shows. -/
structure Shows (s : SessionSys) (u : Uploads.Store Bytes UInt8) : Prop where
  files_eq : u.files = s.rcv.files
  running : s.rcv.log = [] → u.torn = false ∧ u.count = s.rcv.completed.length
  returned : ∀ e ∈ s.rcv.log, u.count = e.1.length ∧ (u.torn = true → e.2 ≠ .ok)

section Simulation

variable {c : SessionParams} {batch : List SourceFile} {dir : Bytes} {D : Nat → Option Bytes}
  {s s' : SessionSys} {u : Uploads.Store Bytes UInt8} {A : DataSys → DataLabel → Prop}

/-- Nothing happens to files or completed files. -/
theorem Shows.same (h : Shows s u) (hfiles : s'.rcv.files = s.rcv.files)
    (hlog : s'.rcv.log = s.rcv.log) (hcompleted : s'.rcv.completed = s.rcv.completed) :
    Shows s' u := by
  refine ⟨h.files_eq.trans hfiles.symm, ?_, ?_⟩
  · rw [hlog, hcompleted]
    exact h.running
  · rw [hlog]
    exact h.returned

/-- The call returns outside the data loop. -/
theorem Shows.returns (h : Shows s u) (hlog : s.rcv.log = []) (hfiles : s'.rcv.files = s.rcv.files)
    {st : Status} (hlog' : s'.rcv.log = s.rcv.log ++ [(s.rcv.completed, st)]) : Shows s' u := by
  obtain ⟨htorn, hcount⟩ := h.running hlog
  rw [hlog, List.nil_append] at hlog'
  refine ⟨h.files_eq.trans hfiles.symm, ?_, ?_⟩
  · intro hnil
    rw [hnil] at hlog'
    cases hlog'
  · intro e he
    rw [hlog', List.mem_singleton] at he
    rw [he]
    refine ⟨hcount, fun ht => ?_⟩
    rw [htorn] at ht
    cases ht

/-- A call in the data loop that fails returns no `VAL_OK`. -/
theorem onDataFrame_fails {cfg : Config} {mtu : Nat} {d d' : RecvData} {fr : Frame}
    {short : Option Nat} {st : Status} (h : (onDataFrame cfg mtu d fr short).2 = .fail d' st) :
    st ≠ .ok := by
  unfold onDataFrame at h
  dsimp only at h
  split at h
  · rename_i st' hst
    cases h
    exact recvFrame_error hst
  · split at h
    · rw [(onData_reply _ _ short).2 d' st h]
      decide
    · cases h
    · cases h
      decide
    · cases h
      decide
    · cases h
      decide
    · cases h

theorem onDataTimeout_fails {d d' : RecvData} {st : Status}
    (h : (onDataTimeout d).2 = .fail d' st) : st ≠ .ok := by
  unfold onDataTimeout at h
  split at h
  · cases h
    decide
  · cases h

/-- **A round of the data loop in the store**: nothing, a whole file, or some
of its bytes. -/
theorem Shows.round (h : Shows s u) (hj : Joint c batch D s) (hh : Housed c dir s) {f : RecvFile}
    {d : RecvData} (hpc : s.rcv.pc = .dataWait f d) {st : RecvStart} (hst : st ∈ s.rcv.starts)
    (hfile : st.file = s.rcv.completed.length) (hex : st.existing = s.rcv.files f.path)
    (hoff : st.offset < f.size ∨ c.rcv.cfg.resume.mode = .never) {down : List Item}
    {r : List Send × RecvResult}
    (hr : RoundOk A c (contentAt batch s.rcv.completed.length) f st.offset s down r)
    (hintact : IntactRuns A c (c.transfer (contentAt batch s.rcv.completed.length) st.offset)
      (openedWith st.offset (s.rcv.files f.path)))
    (hfail : ∀ d' st', r.2 = .fail d' st' → st' ≠ .ok) :
    ∃ u', Lts.Reach (Uploads.Store.step (c.jobs dir batch))
        (c.rcv.uploads.Allows (c.jobs dir batch)) u u'
      ∧ Shows ({ s with toRcv := down }.answered (s.rcv.onRecvResult c.rcv f r)) u' := by
  have hphase : s.rcv.pc.phase = .file f := by
    rw [hpc]
    rfl
  have hlog := (hj.atFile hphase).log_nil
  obtain ⟨htorn, hcount⟩ := h.running hlog
  obtain ⟨src, hsrc, hpath⟩ := hj.target_eq hh hphase
  have hjob : (c.jobs dir batch)[u.count]?
      = some ⟨f.path, contentAt batch s.rcv.completed.length⟩ := by
    rw [hcount, SessionParams.jobs_getElem? hsrc, ← hpath]
  have hwhy := (hj.started.rcv_why st hst).writes (by rw [hfile, ← hj.size_eq hphase]; exact hoff)
  rw [hfile, hex] at hwhy
  rw [hj.size_eq hphase] at hoff
  -- the policy allows both kinds of write
  have hallow : ∀ a : Uploads.Act, a = .put st.offset ∨ (∃ n, a = .tear st.offset n) →
      c.rcv.uploads.Allows (c.jobs dir batch) u a := by
    intro a ha j hj'
    rw [hjob] at hj'
    cases hj'
    rw [h.files_eq]
    rcases ha with rfl | ⟨n, rfl⟩
    · exact ⟨hwhy, hoff⟩
    · exact ⟨hwhy, hoff⟩
  have hdel := hr.delivers hintact
  unfold RecvState.onRecvResult
  cases hres : r.2 with
  | wait d' => exact ⟨u, .refl, h.same rfl rfl rfl⟩
  | complete d' =>
      rw [hres] at hdel
      refine ⟨_, .one (.put st.offset) (hallow _ (Or.inl rfl))
        (Uploads.Store.step_write _ htorn hjob), ?_, ?_, ?_⟩
      · show Function.update u.files f.path (some _) = Function.update s.rcv.files f.path (some d'.file)
        rw [h.files_eq, show d'.file = _ from hdel]
        rfl
      · intro _
        refine ⟨rfl, ?_⟩
        show u.count + 1 = (s.rcv.completed ++ [f.announced]).length
        rw [hcount, List.length_append, List.length_singleton]
      · intro e he
        rw [show ((({ s with toRcv := down } : SessionSys).answered
          (r.1, (s.rcv.closed f d'.file).fileDone c.rcv f)).rcv.log) = s.rcv.log from rfl, hlog] at he
        exact absurd he List.not_mem_nil
  | fail d' st' =>
      rw [hres] at hdel
      obtain ⟨n, hn⟩ := hdel
      refine ⟨_, .one (.tear st.offset n) (hallow _ (Or.inr ⟨n, rfl⟩))
        (Uploads.Store.step_write _ htorn hjob), ?_, ?_, ?_⟩
      · show Function.update u.files f.path (some _) = Function.update s.rcv.files f.path (some d'.file)
        rw [h.files_eq, hn]
        rfl
      · intro hnil
        exact absurd hnil (List.append_ne_nil_of_right_ne_nil _ (List.cons_ne_nil _ _))
      · intro e he
        replace he : e ∈ s.rcv.log ++ [(s.rcv.completed, st')] := he
        rw [hlog, List.nil_append, List.mem_singleton] at he
        rw [he]
        exact ⟨hcount, fun _ => hfail d' st' hres⟩

/-- **A step of the receiver in the store.** -/
theorem Shows.answered {adm : SessionSys → SessionLabel → Prop} (hsh : Shelter c adm A)
    (h : Shows s u) (hj : Joint c batch D s) (hh : Housed c dir s) (hcar : Carried A c batch s)
    (hbusy : s.rcv.pc ≠ .idle) {fr : Option Frame} {fs : FsOutcome} {r : List Send × RecvState}
    {down : List Item}
    (htook : fr = none ∧ down = s.toRcv
      ∨ ∃ it, fr = some it.send.frame ∧ s.toRcv = it :: down ∧ adm s (.rcvRecv fs))
    (hstep : FileRecv c.rcv s.rcv fr fs r) :
    ∃ u', Lts.Reach (Uploads.Store.step (c.jobs dir batch))
        (c.rcv.uploads.Allows (c.jobs dir batch)) u u'
      ∧ Shows ({ s with toRcv := down }.answered r) u' := by
  have hlog := hj.one.rcv_busy hbusy
  cases hstep with
  | @away sends s' hstage hstage' files_eq starts_eq completed_eq sends_ok =>
      rcases completed_eq with ⟨hcompleted, hlog'⟩ | ⟨st, hlog'⟩
      · exact ⟨u, .refl, h.same files_eq hlog' hcompleted⟩
      · exact ⟨u, .refl, h.returns hlog files_eq hlog'⟩
  | @opens f off sends s' hpick hopens sends_ok =>
      refine ⟨u, .refl, ?_⟩
      cases hopens with
      | target hoff => exact h.same rfl rfl rfl
      | skipped hoff tries => exact h.same rfl rfl rfl
      | refused st hst => exact h.returns hlog rfl rfl
  | @takes f d frame hpc hfr =>
      obtain ⟨st, hst, hfile, hex, hoff, htakes, -⟩ := hcar.roundOk hsh.toRelay hj hpc
      rcases htook with ⟨hnone, -⟩ | ⟨it, hsome, hchan, hadm⟩
      · rw [hnone] at hfr
        cases hfr
      · rw [hsome] at hfr
        cases hfr
        exact h.round hj hh hpc hst hfile hex hoff (htakes it down fs hchan hadm)
          (hsh.intact _ _) fun _ _ hf => onDataFrame_fails hf
  | @pauses f d hpc hfr =>
      obtain ⟨st, hst, hfile, hex, hoff, -, hpauses⟩ := hcar.roundOk hsh.toRelay hj hpc
      rcases htook with ⟨-, rfl⟩ | ⟨it, hsome, -⟩
      · exact h.round hj hh hpc hst hfile hex hoff hpauses (hsh.intact _ _)
          fun _ _ hf => onDataTimeout_fails hf
      · rw [hsome] at hfr
        cases hfr
  | idles hpc => exact ⟨u, .refl, h.same rfl rfl rfl⟩
  | @ends f tries frame hpc hfr htype =>
      -- a skipped file is a job done without a write
      have hphase : s.rcv.pc.phase = .file f := by
        rw [hpc]
        rfl
      obtain ⟨htorn, hcount⟩ := h.running hlog
      obtain ⟨src, hsrc, hpath⟩ := hj.target_eq hh hphase
      obtain ⟨st, hst, hfile, hex, hoff⟩ := hcar.skip_at f tries hpc
      have hjob : (c.jobs dir batch)[u.count]?
          = some ⟨f.path, contentAt batch s.rcv.completed.length⟩ := by
        rw [hcount, SessionParams.jobs_getElem? hsrc, ← hpath]
      have hkeep := (hj.started.rcv_why st hst).keeps
        (by rw [hfile, ← hj.size_eq hphase]; exact hoff)
      rw [hfile, hex] at hkeep
      refine ⟨_, .one .keep ?_ (Uploads.Store.step_keep htorn hjob), h.files_eq, ?_, ?_⟩
      · intro j hj'
        rw [hjob] at hj'
        cases hj'
        rw [h.files_eq]
        exact hkeep
      · intro _
        refine ⟨htorn, ?_⟩
        show u.count + 1 = (s.rcv.completed ++ [f.announced]).length
        rw [hcount, List.length_append, List.length_singleton]
      · intro e he
        replace he : e ∈ s.rcv.log := he
        rw [hlog] at he
        exact absurd he List.not_mem_nil
  | gives hpc hpc' files_eq starts_eq log_eq sends_ok =>
      exact ⟨u, .refl, h.returns hlog files_eq log_eq⟩

/-- The store and all that the runs of a session keep. -/
structure Follows (A : DataSys → DataLabel → Prop) (c : SessionParams)
    (batch : List SourceFile) (dir : Bytes) (s : SessionSys)
    (u : Uploads.Store Bytes UInt8) : Prop where
  joint : ∃ D, Joint c batch D s
  carried : Carried A c batch s
  housed : Housed c dir s
  shown : Shows s u

/-- **A session simulates the store.** -/
theorem session_simulation (hc : c.Regular) {adm : SessionSys → SessionLabel → Prop}
    (hsh : Shelter c adm A) :
    Lts.Simulation (SessionSys.step c) adm (Uploads.Store.step (c.jobs dir batch))
      (c.rcv.uploads.Allows (c.jobs dir batch)) (Follows A c batch dir) := by
  refine ⟨fun {s l s' u} h hadm hstep => ?_⟩
  obtain ⟨D, hj⟩ := h.joint
  have hj' := joint_step hc hj (hsh.lands s l hadm) hstep
  have hcar' := carried_step hc hsh.toRelay hj h.carried hadm hstep
  have hh' := housed_step h.housed hstep
  suffices hgoal : ∃ u', Lts.Reach (Uploads.Store.step (c.jobs dir batch))
      (c.rcv.uploads.Allows (c.jobs dir batch)) u u' ∧ Shows s' u' by
    obtain ⟨u', hreach, hshows⟩ := hgoal
    exact ⟨u', hreach, hj', hcar', hh', hshows⟩
  clear hj' hcar' hh'
  cases SessionSys.step_inv hstep with
  | sndCall hcalls hidle => exact ⟨u, .refl, h.shown.same rfl rfl rfl⟩
  | rcvCall hcalls hidle => exact ⟨u, .refl, h.shown.same rfl rfl rfl⟩
  | sndRecv hchan hbusy => exact ⟨u, .refl, h.shown.same rfl rfl rfl⟩
  | sndTimeout hbusy => exact ⟨u, .refl, h.shown.same rfl rfl rfl⟩
  | @rcvRecv it rest fs hchan hbusy =>
      exact h.shown.answered hsh hj h.housed h.carried hbusy (Or.inr ⟨it, rfl, hchan, hadm⟩)
        (RecvState.onFrame_file hc.no_validator s.rcv it.send.frame fs)
  | @rcvTimeout timer fs hbusy =>
      exact @Shows.answered c batch dir D s u A adm hsh h.shown hj h.housed h.carried hbusy none
        fs _ s.toRcv (Or.inl ⟨rfl, rfl⟩)
        (RecvState.onTimeout_file hc.no_validator s.rcv timer fs)
  | lose hl hrcv hsnd => exact ⟨u, .refl, h.shown.same rfl rfl rfl⟩

/-- Fresh sessions show the files as they are. -/
theorem follows_init (hc : c.Regular) (files : Bytes → Option Bytes) :
    Follows A c batch dir (SessionSys.init c files [batch] [dir]) ⟨files, 0, false⟩ where
  joint := ⟨_, joint_init hc files batch dir⟩
  carried := .outside nofun
  housed := housed_init c files batch dir
  shown := ⟨rfl, fun _ => ⟨rfl, rfl⟩, nofun⟩

end Simulation

/-! ## §4. A call that returns `VAL_OK`. -/

section Success

variable {c : SessionParams} {batch : List SourceFile} {D : Nat → Option Bytes}
  {s s' : SessionSys}

/-- A call of the receiver that failed has answered no EOT. -/
def Unfinished (batch : List SourceFile) (s : SessionSys) : Prop :=
  ¬ s.rcv.Clean → s.rcv.turn < (script [batch]).length

/-- A running call of the receiver has EOT before it. -/
theorem Joint.turn_lt (hj : Joint c batch D s) (hbusy : s.rcv.pc ≠ .idle) :
    s.rcv.turn < (script [batch]).length := by
  by_contra hge
  have hrec := (hj.sync.rcv_at (hj.sync.rcv_busy hbusy)).record_eq
  rw [List.take_of_length_le (Nat.le_of_not_lt hge)] at hrec
  have hcalls := record_script c.snd [batch]
  rw [hrec, hj.one.rcv_busy hbusy] at hcalls
  cases hcalls

theorem RecvStep.turn_of_failed {env : RecvEnv} {r : RecvState} {last : Option Frame}
    {out : List Send × RecvState} (h : RecvStep env r last out) (hlog : r.log = [])
    (hbad : ¬ out.2.Clean) : out.2.turn = r.turn := by
  have hclean : ∀ {r' : RecvState}, r'.log = r.log → r'.Clean := by
    intro r' heq e he
    rw [heq, hlog] at he
    exact absurd he List.not_mem_nil
  cases h with
  | waits hphase same => exact same.turn_eq
  | within hphase hphase' same sends_ok => exact same.turn_eq
  | stopped same hst => exact same.turn_eq
  | failed hphase same hst sends_ok => exact same.turn_eq
  | greeted hphase hlast htype hphase' turn_eq completed_eq log_eq done_eq mtu_min hp =>
      exact absurd (hclean log_eq) hbad
  | opened hphase hlast hrecv htype hlen => exact absurd (hclean rfl) hbad
  | filed hphase hlast htype same => exact absurd (hclean same.log_eq) hbad
  | finished hphase hlast htype =>
      exfalso
      apply hbad
      intro e he
      replace he : e ∈ r.log ++ [(r.completed, Status.ok)] := he
      rw [hlog, List.nil_append, List.mem_singleton] at he
      rw [he]

theorem unfinished_step (hj : Joint c batch D s) {l : SessionLabel} (h : Unfinished batch s)
    (hstep : s.step c l = some s') : Unfinished batch s' := by
  have hrcv : ∀ {last : Option Frame} {r : List Send × RecvState}, s.rcv.pc ≠ .idle →
      RecvStep c.rcv s.rcv last r → ¬ r.2.Clean → r.2.turn < (script [batch]).length := by
    intro last r hbusy hr hbad
    rw [hr.turn_of_failed (hj.one.rcv_busy hbusy) hbad]
    exact hj.turn_lt hbusy
  cases SessionSys.step_inv hstep with
  | sndCall hcalls hidle => exact h
  | rcvCall hcalls hidle => exact h
  | sndRecv hchan hbusy => exact h
  | sndTimeout hbusy => exact h
  | @rcvRecv it rest fs hchan hbusy =>
      exact hrcv hbusy (RecvState.onFrame_step c.rcv s.rcv it.send.frame fs)
  | @rcvTimeout timer fs hbusy =>
      exact hrcv hbusy (RecvState.onTimeout_step c.rcv s.rcv timer fs)
  | lose hl hrcv hsnd => exact h

/-- One of the two calls has returned `VAL_OK`. -/
def SessionSys.Succeeded (s : SessionSys) : Prop :=
  (∃ e ∈ s.snd.log, e.2 = .ok) ∨ ∃ e ∈ s.rcv.log, e.2 = .ok

/-- At most one call of the receiver has returned. -/
theorem OneCall.rcv_log (h : OneCall s) {e : List MetaPayload × Status} (he : e ∈ s.rcv.log) :
    s.rcv.log = [e] := by
  have hle := h.rcv_le
  unfold SessionSys.rcvCount at hle
  match hlog : s.rcv.log with
  | [] =>
      rw [hlog] at he
      exact absurd he List.not_mem_nil
  | [e'] =>
      rw [hlog, List.mem_singleton] at he
      rw [he]
  | _ :: _ :: _ =>
      rw [hlog, List.length_cons, List.length_cons] at hle
      omega

theorem OneCall.snd_log (h : OneCall s) {e : List SourceFile × Status} (he : e ∈ s.snd.log) :
    s.snd.log = [e] ∧ s.snd.pc = .idle ∧ s.sndCalls = [] := by
  have hle := h.snd_le
  have hidle : s.snd.pc = .idle := by
    by_contra hbusy
    rw [h.snd_busy hbusy] at he
    exact absurd he List.not_mem_nil
  have hcalls : s.sndCalls = [] := by
    by_contra hne
    rw [h.snd_next hne] at he
    exact absurd he List.not_mem_nil
  refine ⟨?_, hidle, hcalls⟩
  unfold SessionSys.sndBatches at hle
  rw [List.length_append, List.length_map] at hle
  match hlog : s.snd.log with
  | [] =>
      rw [hlog] at he
      exact absurd he List.not_mem_nil
  | [e'] =>
      rw [hlog, List.mem_singleton] at he
      rw [he]
  | _ :: _ :: _ =>
      rw [hlog, List.length_cons, List.length_cons] at hle
      omega

/-- EOT comes last. -/
theorem eot_mem_drop {turn : Nat} (h : turn < (script [batch]).length) :
    Exchange.eot ∈ (script [batch]).drop turn := by
  have hsplit : script [batch] = (.hello :: batch.map Exchange.file) ++ [.eot] := by
    simp [script, callsScript, callScript]
  rw [hsplit] at h ⊢
  rw [List.length_append, List.length_singleton] at h
  rw [List.drop_append_of_le_length (by omega)]
  exact List.mem_append_right _ (List.mem_singleton_self _)

/-- The sender's `VAL_OK` comes behind the receiver's. -/
theorem Joint.rcv_of_snd_ok (hj : Joint c batch D s) (hun : Unfinished batch s)
    {e : List SourceFile × Status} (he : e ∈ s.snd.log) (hok : e.2 = .ok) :
    s.rcv.Clean ∧ s.rcv.log ≠ [] := by
  obtain ⟨hlog, hidle, hcalls⟩ := hj.one.snd_log he
  have hclean : s.snd.Clean := by
    intro e' he'
    rw [hlog, List.mem_singleton] at he'
    rw [he', hok]
  obtain ⟨hturn, -, -, -⟩ := hj.sync.snd_idle hidle hclean
  have hrcv : s.rcv.Clean := by
    by_contra hbad
    -- no EOT lies before the sender, but one lies before a receiver that failed
    have hmem := eot_mem_drop (hun hbad)
    rw [hturn, (hj.sync.snd_at hclean).ahead_eq] at hmem
    have hpos := List.count_pos_iff.mpr hmem
    rw [count_eot_ahead, if_pos hidle, hcalls] at hpos
    exact absurd hpos (Nat.lt_irrefl 0)
  refine ⟨hrcv, ?_⟩
  intro hnil
  have hle := hj.sync.calls_le hj.batches hclean hrcv
  rw [hlog, hnil] at hle
  exact absurd hle (Nat.not_succ_le_zero 0)

/-- **Both calls speak of the whole batch.** -/
theorem Joint.succeeded (hj : Joint c batch D s) (hun : Unfinished batch s)
    (h : s.Succeeded) : ∃ e, s.rcv.log = [e] ∧ e.2 = .ok ∧ e.1.length = batch.length := by
  have hrcv : s.rcv.Clean ∧ s.rcv.log ≠ [] := by
    rcases h with ⟨e, he, hok⟩ | ⟨e, he, hok⟩
    · exact hj.rcv_of_snd_ok hun he hok
    · have hlog := hj.one.rcv_log he
      refine ⟨?_, by rw [hlog]; exact List.cons_ne_nil _ _⟩
      intro e' he'
      rw [hlog, List.mem_singleton] at he'
      rw [he', hok]
  obtain ⟨hclean, hne⟩ := hrcv
  obtain ⟨e, he⟩ := List.exists_mem_of_ne_nil _ hne
  have hlog := hj.one.rcv_log he
  obtain ⟨b, st, hb, hentry⟩ := hj.sync.pairedAt hclean (i := 0) (by rw [hlog]; exact Nat.one_pos)
  refine ⟨e, hlog, hclean e he, ?_⟩
  rw [hlog, List.getElem?_cons_zero] at hentry
  rw [List.getElem?_cons_zero] at hb
  cases hb
  cases hentry
  exact List.length_map _

end Success

/-! ## §5. Every run, packets without an offset being taken in place. -/

/-- In the data loop, the position at which the receiver takes a DATA packet
without an offset is the one the sender read it at. -/
def SessionSys.inPlace (s : SessionSys) : SessionLabel → Bool
  | .rcvRecv _ =>
      match s.rcv.pc, s.toRcv with
      | .dataWait _ d, it :: _ =>
          decide (it.send.type = .data → it.send.includeDataOffset = false →
            it.send.offset = d.written)
      | _, _ => true
  | _ => true

section Runs

variable {c : SessionParams} {batch : List SourceFile} {dir : Bytes} {s : SessionSys}
  {A : DataSys → DataLabel → Prop}

/-- A window of one packet: nothing is asked of the data phase. -/
theorem shelter_single (hw : adoptedWindow c.snd.cfg c.rcv.cfg = 1) :
    Shelter c (WindowLands c) (fun _ _ => True) where
  lands := fun _ _ h => h
  quiet := fun _ _ _ => trivial
  takes := fun _ _ _ _ _ => trivial
  intact := fun _ _ _ _ ht hflow h =>
    (lockstep_embedded ht (hflow.bounded.single (hflow.cap_eq.trans hw)) h).intact

/-- **Runs of a session as runs of the store.** -/
theorem follows_run (hc : c.Regular) {adm : SessionSys → SessionLabel → Prop}
    (hsh : Shelter c adm A) {files : Bytes → Option Bytes}
    (h : Lts.Reach (SessionSys.step c) adm (SessionSys.init c files [batch] [dir]) s) :
    ∃ u, Lts.Reach (Uploads.Store.step (c.jobs dir batch))
        (c.rcv.uploads.Allows (c.jobs dir batch)) ⟨files, 0, false⟩ u
      ∧ u.files = s.rcv.files
      ∧ (s.rcv.log = [] → u.torn = false ∧ u.count = s.rcv.completed.length)
      ∧ (s.Succeeded → u.torn = false ∧ u.count = batch.length) := by
  obtain ⟨u, hu, hf⟩ := (session_simulation hc hsh).reach (follows_init hc files) h
  refine ⟨u, hu, hf.shown.files_eq, hf.shown.running, fun hs => ?_⟩
  -- the invariant of the failed calls, beside the one of the simulation
  have hun : (∃ D, Joint c batch D s) ∧ Unfinished batch s := by
    refine h.invariant (I := fun s => (∃ D, Joint c batch D s) ∧ Unfinished batch s) ?_ ?_
    · refine ⟨⟨_, joint_init hc files batch dir⟩, fun hbad => absurd ?_ hbad⟩
      exact fun e he => absurd he List.not_mem_nil
    · intro s l s' hs hadm hstep
      obtain ⟨⟨D, hj⟩, hun⟩ := hs
      exact ⟨joint_step hc hj (hsh.lands s l hadm) hstep, unfinished_step hj hun hstep⟩
  obtain ⟨⟨D, hj⟩, hun⟩ := hun
  obtain ⟨e, hlog, hok, hlen⟩ := hj.succeeded hun hs
  obtain ⟨hcount, htorn⟩ := hf.shown.returned e (by rw [hlog]; exact List.mem_singleton_self _)
  refine ⟨?_, hcount.trans hlen⟩
  by_contra hne
  exact htorn (by simpa using hne) hok

end Runs

/-! ## §6. Attempts. -/

/-- A receiver that never keeps a file for the policy's sake, and a window of
one packet. -/
structure SessionParams.Careful (c : SessionParams) : Prop extends c.Regular where
  window_one : adoptedWindow c.snd.cfg c.rcv.cfg = 1
  mode : c.rcv.cfg.resume.mode = .never
    ∨ c.rcv.cfg.resume.mode = .tail ∧ c.rcv.cfg.resume.mismatchSkip = false

/-- The policy of a careful receiver continues prefixes. -/
theorem RecvEnv.uploads_continues {env : RecvEnv}
    (hmode : env.cfg.resume.mode = .never
      ∨ env.cfg.resume.mode = .tail ∧ env.cfg.resume.mismatchSkip = false) :
    env.uploads.Continues := by
  -- where a write starts, the bytes in front of it are there
  have hbase : ∀ {bytes : Bytes} {existing : Option Bytes} {off : Nat},
      off = 0 ∧ Refuted env bytes existing ∨ Resumable env bytes existing off →
      existing.getD [] <+: bytes → Uploads.base off existing = bytes.take off := by
    intro bytes existing off hwhy hpre
    unfold Uploads.base
    rcases hwhy with ⟨rfl, -⟩ | ⟨file, rfl, hlen, hpos, -⟩
    · rw [if_pos rfl, List.take_zero]
    · rw [if_neg (by omega), ← hlen]
      exact (List.prefix_iff_eq_take.mp hpre)
  intro bytes existing a hP hpre
  cases a with
  | keep =>
      refine ⟨hpre, fun _ => ?_⟩
      show existing.getD [] = bytes
      rcases hP with hnil | hskip | ⟨file, rfl, hlen, -⟩
      · rw [hnil] at hpre ⊢
        exact List.prefix_nil.mp hpre
      · exfalso
        obtain ⟨-, -, -, hskip | ⟨htail, hskip⟩⟩ := hskip
        · rcases hmode with hm | ⟨hm, -⟩
          all_goals
            rw [hm] at hskip
            cases hskip
        · rcases hmode with hm | ⟨-, hm⟩
          · rw [hm] at htail
            cases htail
          · rw [hm] at hskip
            cases hskip
      · exact hpre.eq_of_length hlen
  | put off =>
      have hwhole : (Uploads.Act.put off).result bytes existing = some bytes := by
        simp only [Uploads.Act.result, hbase hP.1 hpre, List.take_append_drop]
      rw [hwhole]
      exact ⟨List.prefix_rfl, fun _ => rfl⟩
  | tear off n =>
      refine ⟨?_, by intro h; cases h⟩
      show Uploads.base off existing ++ (bytes.drop off).take n <+: bytes
      rw [hbase hP.1 hpre, ← List.take_add]
      exact List.take_prefix _ _

/-- A prefix has the tail window of the whole. -/
theorem tailWindow_of_held (cfg : ResumeConfig) {file content : Bytes} (h : file <+: content)
    (hpos : 0 < file.length) :
    tailWindow cfg file.length file = tailWindow cfg file.length content := by
  obtain ⟨rest, rfl⟩ := h
  have hle := (verifyLength_bounds cfg hpos).2
  unfold tailWindow LittleEndian.slice
  rw [List.drop_append_of_le_length (by omega), List.take_append_of_le_length]
  rw [List.length_drop]
  omega

/-- A position that fits `long`. -/
theorem toSigned_of_fits {bits v : Nat} (hbits : bits = 32 ∨ bits = 64)
    (h : v < 2 ^ (bits - 1)) : toSigned bits v = v := by
  rcases hbits with rfl | rfl
  · simp only [toSigned, Int.bmod_def]
    norm_num at h
    split <;> omega
  · exact toSigned_of_lt h

/-- The policy of `VAL_RESUME_TAIL` gives up no prefix. -/
theorem RecvEnv.uploads_retains {env : RecvEnv} (hrcv : env.cfg.Accepted)
    (hmode : env.cfg.resume.mode = .tail) {bytes : Bytes}
    (hfits : bytes.length < 2 ^ (env.cfg.longBits - 1)) : env.uploads.Retains bytes := by
  -- a file that is given up was empty or not there
  have hzero : ∀ {existing : Option Bytes}, Refuted env bytes existing →
      existing.getD [] <+: bytes → existing.getD [] = [] := by
    intro existing href hpre
    cases existing with
    | none => rfl
    | some file =>
        by_contra hne
        have hpos : 0 < file.length := List.length_pos_of_ne_nil hne
        have hle : file.length ≤ bytes.length := hpre.length_le
        have hlt : file.length < 2 ^ 63 := by
          have hbound : 2 ^ (env.cfg.longBits - 1) ≤ 2 ^ 63 := by
            apply Nat.pow_le_pow_right (by decide)
            rcases hrcv.longBits_ok with hb | hb
            all_goals omega
          omega
        refine href file rfl hmode hpos hle hlt (toSigned_of_fits hrcv.longBits_ok (by omega)) ?_
        rw [tailWindow_of_held env.cfg.resume (show file <+: bytes from hpre) hpos]
  -- behind a write the old bytes are in front
  have hfront : ∀ {existing : Option Bytes} {off : Nat} (rest : Bytes),
      off = 0 ∧ Refuted env bytes existing ∨ Resumable env bytes existing off →
      existing.getD [] <+: bytes → existing.getD [] <+: Uploads.base off existing ++ rest := by
    intro existing off rest hwhy hpre
    unfold Uploads.base
    rcases hwhy with ⟨rfl, href⟩ | ⟨file, rfl, hlen, hpos, -⟩
    · rw [hzero href hpre]
      exact List.nil_prefix
    · rw [if_neg (by omega)]
      exact List.prefix_append _ _
  intro existing a hP hpre
  cases a with
  | keep => exact List.prefix_rfl
  | put off => exact hfront _ hP.1 hpre
  | tear off n => exact hfront _ hP.1 hpre

/-- Where a file of the batch goes, in every attempt. -/
def targetOf (sep : UInt8) (dir : Bytes) (src : SourceFile) : Bytes :=
  joinPath sep 512 (dir.take maxPath) src.name

section Attempts

variable {sep : UInt8} {batch : List SourceFile} {dir : Bytes}
  {files₀ files : Bytes → Option Bytes}

/-- Every target holds a prefix of its source, every other path what it held. -/
structure Resting (sep : UInt8) (batch : List SourceFile) (dir : Bytes)
    (files₀ files : Bytes → Option Bytes) : Prop where
  targets : ∀ src ∈ batch, (files (targetOf sep dir src)).getD [] <+: src.content.getD []
  others : ∀ p, (∀ src ∈ batch, targetOf sep dir src ≠ p) → files p = files₀ p

/-- **One attempt.** -/
theorem Resting.attempt {c : SessionParams} (hc : c.Careful) (hsep : c.rcv.pathSep = sep)
    (hdistinct : (batch.map (targetOf sep dir)).Nodup) (h : Resting sep batch dir files₀ files)
    {s : SessionSys} (hreach : Lts.Reach (SessionSys.step c) (WindowLands c)
      (SessionSys.init c files [batch] [dir]) s) :
    Resting sep batch dir files₀ s.rcv.files
    ∧ (s.Succeeded → ∀ src ∈ batch,
        (s.rcv.files (targetOf sep dir src)).getD [] = src.content.getD [])
    ∧ (c.rcv.cfg.resume.mode = .tail →
        (∀ src ∈ batch, (src.content.getD []).length < 2 ^ (c.rcv.cfg.longBits - 1)) →
        ∀ src ∈ batch, (files (targetOf sep dir src)).getD []
          <+: (s.rcv.files (targetOf sep dir src)).getD []) := by
  subst hsep
  obtain ⟨u, hu, hfiles, -, hdone⟩ := follows_run hc.toRegular (shelter_single hc.window_one)
    hreach
  have hnodup : ((c.jobs dir batch).map Uploads.Job.target).Nodup := by
    rw [SessionParams.jobs, List.map_map]
    exact hdistinct
  have hjob : ∀ {src : SourceFile}, src ∈ batch → ∃ i,
      (c.jobs dir batch)[i]? = some ⟨targetOf c.rcv.pathSep dir src, src.content.getD []⟩
        ∧ i < batch.length := by
    intro src hsrc
    obtain ⟨i, hi⟩ := List.getElem?_of_mem hsrc
    refine ⟨i, ?_, (List.getElem?_eq_some_iff.mp hi).1⟩
    rw [SessionParams.jobs, List.getElem?_map, hi]
    rfl
  have h₀ : ∀ j ∈ c.jobs dir batch, (files j.target).getD [] <+: j.bytes := by
    intro j hj
    obtain ⟨src, hsrc, rfl⟩ := List.mem_map.mp hj
    exact h.targets src hsrc
  have hcont : c.rcv.uploads.Continues := RecvEnv.uploads_continues hc.mode
  have hprog := Uploads.Store.progress hcont hnodup h₀ hu
  rw [← hfiles]
  refine ⟨⟨?_, ?_⟩, ?_, ?_⟩
  · intro src hsrc
    obtain ⟨i, hi, -⟩ := hjob hsrc
    exact hprog.pending i _ hi
  · intro p hp
    rw [Uploads.Store.frame hu (p := p) ?_]
    · exact h.others p hp
    · intro j hj
      obtain ⟨src, hsrc, rfl⟩ := List.mem_map.mp hj
      exact hp src hsrc
  · intro hs src hsrc
    obtain ⟨i, hi, hlt⟩ := hjob hsrc
    exact hprog.done i _ hi (by rw [(hdone hs).2]; exact hlt)
  · intro hmode hfits src hsrc
    refine Uploads.Store.retained hcont ?_ hnodup h₀ hu
      ⟨targetOf c.rcv.pathSep dir src, src.content.getD []⟩ (List.mem_map_of_mem hsrc)
    intro j hj
    obtain ⟨src', hsrc', rfl⟩ := List.mem_map.mp hj
    exact RecvEnv.uploads_retains hc.rcv_ok hmode (hfits src' hsrc')

end Attempts

end ValProtocol
