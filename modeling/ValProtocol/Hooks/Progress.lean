/-
  ValProtocol.Hooks.Progress
  ──────────────────────────
  The records that `val_send_files` passes to `on_progress`.

  `prog.files_sent` and `prog.batch_sent_bytes` start at 0 and are updated
  nowhere, so that every record counts no file and the bytes of the current
  file alone.

    • `Ledger` — the files finished so far, from the file callbacks,
    • `Cumulative` — what the records of a batch should say,
    • `cumulative_iff` — they say it if and only if no record is passed behind
      a finished file.
-/
import Mathlib.Data.List.Induction
import ValProtocol.Hooks.Handles

namespace ValProtocol.Hooks

open Programs Prog

/-! ## §1. Records. -/

/-- The files finished so far, and the size of the one announced last. -/
structure Ledger where
  announced : Nat
  files : Nat
  bytes : Nat
  deriving Repr, DecidableEq

/-- A file is finished when it is reported as sent or skipped. -/
def Ledger.after (l : Ledger) : Event → Ledger
  | ⟨.onFileStart _ _ size _, _⟩ => { l with announced := size }
  | ⟨.onFileComplete _ _ st, _⟩ =>
      if st = .ok ∨ st = .skipped then
        { l with files := l.files + 1, bytes := l.bytes + l.announced }
      else l
  | _ => l

def ledger (tr : List Event) : Ledger := tr.foldl Ledger.after ⟨0, 0, 0⟩

/-- The record an event passes. -/
def progressInfo : Event → Option ProgressInfo
  | ⟨.onProgress info, _⟩ => some info
  | _ => none

/-- The records of a run. -/
def records (tr : List Event) : List ProgressInfo := tr.filterMap progressInfo

/-- The records count the finished files, sum up their sizes and the bytes of
the current file, and never go back. -/
def Cumulative (tr : List Event) : Prop :=
  (∀ before e after info, tr = before ++ e :: after → progressInfo e = some info →
      info.filesCompleted = (ledger before).files
        ∧ info.bytesTransferred = (ledger before).bytes + info.currentFileBytes)
    ∧ (records tr).Pairwise (fun a b =>
      a.bytesTransferred ≤ b.bytesTransferred ∧ a.filesCompleted ≤ b.filesCompleted)

/-- A record is passed behind a finished file. -/
def LateRecord (tr : List Event) : Prop :=
  ∃ before e after info, tr = before ++ e :: after ∧ progressInfo e = some info
    ∧ (ledger before).files ≠ 0

theorem ledger_snoc (tr : List Event) (e : Event) :
    ledger (tr ++ [e]) = (ledger tr).after e := by
  unfold ledger
  rw [List.foldl_append]
  rfl

theorem records_snoc (tr : List Event) (e : Event) :
    records (tr ++ [e]) = records tr ++ (progressInfo e).toList := by
  unfold records
  rw [List.filterMap_append]
  cases h : progressInfo e <;> simp [h]

theorem LateRecord.snoc {tr : List Event} (h : LateRecord tr) (e : Event) :
    LateRecord (tr ++ [e]) := by
  obtain ⟨before, x, after, info, rfl, hx⟩ := h
  exact ⟨before, x, after ++ [e], info, by rw [List.append_assoc, List.cons_append], hx⟩

/-- Without a finished file there are no bytes of finished files. -/
theorem ledger_bytes (tr : List Event) (h : (ledger tr).files = 0) : (ledger tr).bytes = 0 := by
  induction tr using List.reverseRecOn with
  | nil => rfl
  | append_singleton tr e ih =>
      rw [ledger_snoc] at h ⊢
      unfold Ledger.after at h ⊢
      split at h
      · exact ih h
      · split at h
        · cases h
        · rw [if_neg ‹_›]
          exact ih h
      · exact ih h

/-! ## §2. The monitor. -/

/-- The files finished, and the bytes of the last record. -/
structure Tally where
  finished : Nat
  last : Nat
  deriving Repr, DecidableEq

def Tally.next (t : Tally) : Event → Tally
  | ⟨.onFileComplete _ _ st, _⟩ =>
      if st = .ok ∨ st = .skipped then { t with finished := t.finished + 1 } else t
  | ⟨.onProgress info, _⟩ => { t with last := info.bytesTransferred }
  | _ => t

/-- A record counts no file and the current bytes alone, and behind no
finished file it does not go back. -/
def Tally.good (t : Tally) (info : ProgressInfo) : Prop :=
  info.filesCompleted = 0 ∧ info.bytesTransferred = info.currentFileBytes
    ∧ (t.finished = 0 → t.last ≤ info.bytesTransferred)

instance (t : Tally) (info : ProgressInfo) : Decidable (t.good info) :=
  inferInstanceAs (Decidable (_ ∧ _ ∧ (_ → _)))

def Tally.bad (t : Tally) (e : Event) : Bool :=
  match progressInfo e with
  | some info => !decide (t.good info)
  | none => false

abbrev tallyStep : Tally → Event → Verdict Tally := guarded Tally.next Tally.bad

/-- What the monitor's state says about the run so far. -/
structure Tallied (tr : List Event) (t : Tally) : Prop where
  finished : t.finished = (ledger tr).files
  good : ∀ info ∈ records tr,
    info.filesCompleted = 0 ∧ info.bytesTransferred = info.currentFileBytes
  grows : LateRecord tr ∨ (∀ info ∈ records tr, info.bytesTransferred ≤ t.last)
    ∧ (records tr).Pairwise (fun a b => a.bytesTransferred ≤ b.bytesTransferred)

theorem Tally.next_finished (t : Tally) (l : Ledger) (e : Event) (h : t.finished = l.files) :
    (t.next e).finished = (l.after e).files := by
  obtain ⟨c, r⟩ := e
  by_cases hc : ∃ name path st, c = .onFileComplete name path st
  · obtain ⟨name, path, st, rfl⟩ := hc
    by_cases hst : st = .ok ∨ st = .skipped
    · simp [Tally.next, Ledger.after, hst, h]
    · simp [Tally.next, Ledger.after, hst, h]
  · cases c
    all_goals first
      | exact h
      | exact absurd ⟨_, _, _, rfl⟩ hc

theorem tallied_step {tr : List Event} {t t' : Tally} {e : Event} (ht : Tallied tr t)
    (hstep : tallyStep t e = .go t') : Tallied (tr ++ [e]) t' := by
  obtain ⟨hbad, rfl⟩ := guarded_go hstep
  have hfinished : (t.next e).finished = (ledger (tr ++ [e])).files := by
    rw [ledger_snoc]
    exact t.next_finished (ledger tr) e ht.finished
  have hrecords := records_snoc tr e
  cases hinfo : progressInfo e with
  | none =>
      have hlast : (t.next e).last = t.last := by
        obtain ⟨c, r⟩ := e
        cases c
        all_goals first
          | rfl
          | exact absurd hinfo (Option.some_ne_none _)
          | (unfold Tally.next; dsimp only; split <;> rfl)
      rw [hinfo, Option.toList_none, List.append_nil] at hrecords
      refine ⟨hfinished, hrecords ▸ ht.good, ?_⟩
      rw [hrecords, hlast]
      exact ht.grows.imp_left (fun h => h.snoc e)
  | some info =>
      -- a record that the monitor lets through is a good one
      have hgood : t.good info := by
        simpa [Tally.bad, hinfo] using hbad
      have hlast : (t.next e).last = info.bytesTransferred := by
        obtain ⟨c, r⟩ := e
        cases c
        all_goals first
          | cases hinfo
        rfl
      rw [hinfo, Option.toList_some] at hrecords
      refine ⟨hfinished, ?_, ?_⟩
      · rw [hrecords]
        intro x hx
        rcases List.mem_append.mp hx with hx | hx
        · exact ht.good x hx
        · obtain rfl := List.mem_singleton.mp hx
          exact ⟨hgood.1, hgood.2.1⟩
      -- only a record behind a finished file may step back, and that is a late one
      · by_cases hzero : t.finished = 0
        · rcases ht.grows with hlate | ⟨hle, hpair⟩
          · exact Or.inl (hlate.snoc e)
          · have hstep := hgood.2.2 hzero
            refine Or.inr ⟨?_, ?_⟩
            · rw [hrecords, hlast]
              intro x hx
              rcases List.mem_append.mp hx with hx | hx
              · exact (hle x hx).trans hstep
              · rw [List.mem_singleton.mp hx]
            · rw [hrecords, List.pairwise_append]
              refine ⟨hpair, List.pairwise_singleton _ _, ?_⟩
              intro x hx y hy
              rw [List.mem_singleton.mp hy]
              exact (hle x hx).trans hstep
        · exact Or.inl ⟨tr, e, [], info, rfl, hinfo, ht.finished ▸ hzero⟩

theorem record_mem {tr before after : List Event} {e : Event} {info : ProgressInfo}
    (h : tr = before ++ e :: after) (hinfo : progressInfo e = some info) : info ∈ records tr := by
  apply List.mem_filterMap.mpr
  exact ⟨e, by rw [h]; exact List.mem_append_right _ List.mem_cons_self, hinfo⟩

/-- **What the monitor accepts is cumulative if and only if no record comes
behind a finished file.** -/
theorem Tallied.cumulative_iff {tr : List Event} {t : Tally} (ht : Tallied tr t) :
    Cumulative tr ↔ ¬ LateRecord tr := by
  constructor
  · rintro ⟨hcount, -⟩ ⟨before, e, after, info, htr, hinfo, hlate⟩
    -- the record counts no file
    have hzero := (ht.good info (record_mem htr hinfo)).1
    exact hlate ((hcount before e after info htr hinfo).1.symm.trans hzero)
  · intro hno
    obtain ⟨-, hpair⟩ := ht.grows.resolve_left hno
    refine ⟨?_, ?_⟩
    · intro before e after info htr hinfo
      obtain ⟨hfiles, hbytes⟩ := ht.good info (record_mem htr hinfo)
      have hzero : (ledger before).files = 0 := by
        by_contra h
        exact hno ⟨before, e, after, info, htr, hinfo, h⟩
      rw [hzero, ledger_bytes before hzero, Nat.zero_add]
      exact ⟨hfiles, hbytes⟩
    · apply hpair.imp_of_mem
      intro a b ha hb hle
      exact ⟨hle, ((ht.good a ha).1.trans (ht.good b hb).1.symm).le⟩

/-! ## §3. The sender. -/

/-- A call that is nothing to the monitor. -/
abbrev Call.Untallied : Call → Prop
  | .onFileComplete _ _ _ | .onProgress _ => False
  | _ => True

section Calls

variable {t : Tally}

@[simp] theorem tally_blind {c : Call} (hc : c.Untallied) : Blind tallyStep t c := by
  intro r
  cases c
  all_goals first
    | rfl
    | exact absurd hc id

@[simp] theorem tally_onFileComplete (name path : Bytes) (st : Status) (Q : Unit → Tally → Prop) :
    wp tallyStep (onFileComplete name path st) t Q ↔
      Q () (if st = .ok ∨ st = .skipped then { t with finished := t.finished + 1 } else t) :=
  ⟨fun h => h (), fun h _ => h⟩

theorem tally_onProgress (info : ProgressInfo) (Q : Unit → Tally → Prop) :
    wp tallyStep (onProgress info) t Q ↔
      t.good info ∧ Q () { t with last := info.bytesTransferred } := by
  rw [wp_ask_guarded]
  simp only [Tally.bad, progressInfo, Bool.not_eq_false', decide_eq_true_eq]
  exact ⟨fun h => h (), fun h _ => h⟩

end Calls

/-- Nothing has been added to the context since `val_send_files` cleared it. -/
def ProgressCtx.Untouched (ctx : ProgressCtx) : Prop :=
  ctx.filesSent = 0 ∧ ctx.batchSentBytes = 0

/-- **A record** counts nothing but the bytes of the current file. -/
theorem tally_emitProgressSender {ctx : ProgressCtx} (hctx : ctx.Untouched) (name : Bytes)
    {n : Nat} (hn : n < 2 ^ 64) (force : Bool) {t : Tally} (hlast : t.finished = 0 → t.last ≤ n) :
    wp tallyStep (emitProgressSender ctx name n force) t (fun ctx' t' =>
      ctx'.Untouched ∧ t'.finished = t.finished ∧ (t.finished = 0 → t'.last ≤ n)) := by
  obtain ⟨hsent, hbytes⟩ := hctx
  unfold emitProgressSender
  simp only [wp_bind, wp_ask_blind, tally_blind, Call.Untallied, wp_ite, wp_pure]
  refine fun now => ⟨fun _ => ⟨⟨hsent, hbytes⟩, trivial, hlast⟩, fun _ => ?_⟩
  have hmod : (ctx.batchSentBytes + n) % 2 ^ 64 = n := by
    rw [hbytes, Nat.zero_add, Nat.mod_eq_of_lt hn]
  rw [tally_onProgress]
  refine ⟨⟨hsent, hmod, fun h => ?_⟩, ⟨hsent, hbytes⟩, rfl, fun _ => hmod.le⟩
  exact (hlast h).trans hmod.ge

/-- Between the calls of a file's data phase. -/
def Reported (d : SendLocals) (t : Tally) : Prop :=
  d.ctx.Untouched ∧ (t.finished = 0 → t.last ≤ d.lastAcked)

/-- The same with a result; an error is the last of the call's records. -/
def ReportedUnlessError : Except Status SendLocals → Tally → Prop
  | .ok d, t => Reported d t
  | .error _, _ => True

theorem tally_seekIf (wanted : Bool) (f : Handle) (offset : Int) (t : Tally) :
    wp tallyStep (seekIf wanted f offset) t (fun _ t' => t' = t) := by
  unfold seekIf
  cases wanted <;> simp [Call.Untallied]

theorem tally_sendDataPacket (u : Upload) {d : SendLocals} (b : Bool) {t : Tally}
    (hd : Reported d t) :
    wp tallyStep (sendDataPacket u d b) t ReportedUnlessError := by
  have hread : ∀ n, wp tallyStep (readFully u.handle n) t (fun _ t' => t' = t) := by
    intro n
    apply wp_forever (I := fun _ t' => t' = t) rfl
    rintro got _ rfl
    simp [Call.Untallied]
  unfold sendDataPacket
  dsimp only
  simp only [wp_ite, wp_pure]
  refine ⟨fun _ => trivial, fun _ => ⟨fun _ => hd, fun _ => ⟨fun _ => trivial, fun _ =>
    ⟨fun _ => hd, fun _ => ?_⟩⟩⟩⟩
  apply wp_use (tally_seekIf _ _ _ t)
  rintro _ _ rfl
  apply wp_use (hread _)
  rintro got _ rfl
  simp only [wp_ite, wp_bind, wp_ask_blind, tally_blind, Call.Untallied, wp_pure]
  exact ⟨fun _ => trivial, fun _ st => ⟨fun _ => trivial, fun _ => hd⟩⟩

theorem tally_rewind (u : Upload) {d : SendLocals} (target : Int) {t : Tally}
    (hd : Reported d t) : wp tallyStep (rewind u d target) t Reported := by
  unfold rewind
  simp only [wp_bind, wp_ask_blind, tally_blind, Call.Untallied]
  intro pos
  apply wp_mono _ (tally_seekIf _ _ _ t)
  rintro _ _ rfl
  exact fun win => hd

/-- The wait reports every acknowledgement that moves `last_acked`. -/
theorem tally_waitForWindowAck (env : SendEnv) (u : Upload) (target : Nat) {d : SendLocals}
    {t : Tally} (hd : Reported d t) :
    wp tallyStep (waitForWindowAck env u target d) t (fun r t' =>
      ∀ x, r = .ok x → Reported x.1 t') := by
  apply wp_forever (I := Reported) hd
  intro d t hd
  simp only [wp_bind, wp_ask_blind, tally_blind, Call.Untallied, wp_ite, wp_pure,
    afterPass_leave]
  refine fun cancelled => ⟨fun _ x hx => (by cases hx), fun _ r => ?_⟩
  cases r with
  | error st =>
      simp only [wp_ite, wp_pure, afterPass_leave]
      refine ⟨fun _ x hx => (by cases hx), fun _ => ⟨fun _ x hx => (by cases hx), fun _ => ?_⟩⟩
      apply wp_use (tally_rewind u _ hd)
      intro d t hd x hx
      cases hx
      exact hd
  | ok p =>
      dsimp only
      split
      · exact fun x hx => (by cases hx)
      · -- NAK
        have hle : d.lastAcked ≤ if p.off.toNat > d.lastAcked ∧ p.off.toNat ≤ u.size
            then p.off.toNat else d.lastAcked := by
          split <;> omega
        have hd' : Reported { d with lastAcked :=
            if p.off.toNat > d.lastAcked ∧ p.off.toNat ≤ u.size
            then p.off.toNat else d.lastAcked } t := ⟨hd.1, fun h => (hd.2 h).trans hle⟩
        apply wp_use (tally_rewind u _ hd')
        intro d t hd x hx
        cases hx
        exact hd
      · -- ACK
        simp only [wp_ite, wp_pure, afterPass_again]
        refine ⟨fun _ => hd, fun hoff => ?_⟩
        apply wp_use (tally_emitProgressSender hd.1 u.name p.off.toNat_lt true
          (fun h => (hd.2 h).trans (by omega)))
        rintro ctx t' ⟨hctx, hfinished, hlast⟩
        have hd' : ∀ d' : SendLocals, d'.ctx = ctx → d'.lastAcked = p.off.toNat →
            Reported d' t' := by
          intro d' hctx' hacked
          refine ⟨hctx' ▸ hctx, fun h => ?_⟩
          rw [hacked]
          exact hlast (hfinished ▸ h)
        simp only [wp_bind, wp_ask_blind, tally_blind, Call.Untallied, wp_ite, wp_pure,
          afterPass_leave, afterPass_again]
        refine fun cancelled => ⟨fun _ x hx => (by cases hx), fun _ =>
          ⟨fun _ => hd' _ rfl rfl, fun _ x hx => ?_⟩⟩
        cases hx
        exact hd' _ rfl rfl
      · exact fun x hx => (by cases hx)
      · exact hd

theorem tally_abandon {α : Type} (u : Upload) (st : Status) (t : Tally)
    {Q : Except Status α → Tally → Prop} (hQ : ∀ t, Q (.error st) t) :
    wp tallyStep (abandon u st) t Q := by
  unfold abandon
  simp only [wp_bind, wp_ask_blind, tally_blind, Call.Untallied, tally_onFileComplete, wp_pure]
  exact fun _ => hQ _

theorem tally_fillWindow (u : Upload) {d : SendLocals} {t : Tally} (hd : Reported d t) :
    wp tallyStep (fillWindow u d) t ReportedUnlessError := by
  apply wp_forever (I := Reported) hd
  intro d t hd
  simp only [wp_bind, wp_ask_blind, tally_blind, Call.Untallied, wp_ite, wp_pure,
    afterPass_leave]
  refine ⟨fun _ cancelled => ⟨fun _ => tally_abandon u .aborted t (fun _ => trivial), fun _ => ?_⟩,
    fun _ => hd⟩
  apply wp_mono _ (tally_sendDataPacket u _ hd)
  intro r t hr
  cases r with
  | error st => simp [Call.Untallied, ReportedUnlessError]
  | ok d => exact hr

theorem tally_sendWindow (env : SendEnv) (u : Upload) {d : SendLocals} {t : Tally}
    (hd : Reported d t) : wp tallyStep (sendWindow env u d) t ReportedUnlessError := by
  apply wp_forever (I := Reported) hd
  intro d t hd
  apply wp_use (tally_fillWindow u hd)
  intro r t hr
  cases r with
  | error st => trivial
  | ok d =>
      apply wp_use (tally_waitForWindowAck env u _ hr)
      intro r t hr
      cases r with
      | error st =>
          rw [wp_bind]
          exact tally_abandon u st t (fun _ => trivial)
      | ok x =>
          have hd := hr x rfl
          obtain ⟨d, restart⟩ := x
          cases restart with
          | true =>
              simp only [wp_bind, wp_ask_blind, tally_blind, Call.Untallied, wp_pure,
                afterPass_again]
              exact fun win => hd
          | false => exact hd

theorem tally_checkSendHealth (u : Upload) (t : Tally) :
    wp tallyStep (checkSendHealth u) t (fun r t' => ∀ x, r = .ok x → t' = t) := by
  have hfail : ∀ st : Status, wp tallyStep (abandon u st : Program (Except Status Unit)) t
      (fun r t' => ∀ x, r = .ok x → t' = t) :=
    fun st => tally_abandon u st t (fun _ x hx => by cases hx)
  unfold checkSendHealth
  simp only [wp_bind, wp_ask_blind, tally_blind, Call.Untallied, wp_ite, wp_pure]
  exact fun health => ⟨fun _ _ _ => trivial, fun _ => ⟨fun _ trips => ⟨fun _ => hfail _,
    fun _ _ _ => trivial⟩, fun _ => hfail health⟩⟩

theorem tally_sendLoop (env : SendEnv) (u : Upload) {d : SendLocals} {t : Tally}
    (hd : Reported d t) : wp tallyStep (sendLoop env u d) t ReportedUnlessError := by
  apply wp_forever (I := Reported) hd
  intro d t hd
  simp only [wp_bind, wp_ask_blind, tally_blind, Call.Untallied, wp_ite, wp_pure,
    afterPass_leave]
  refine ⟨fun _ cancelled => ⟨fun _ => tally_abandon u .aborted t (fun _ => trivial), fun _ => ?_⟩,
    fun _ => hd⟩
  apply wp_mono _ (tally_checkSendHealth u t)
  intro r t' hr
  cases r with
  | error st => trivial
  | ok x =>
      obtain rfl := hr x rfl
      have hd' : Reported { d with triesRem := windowTries env u d } t' := hd
      apply wp_use (tally_sendWindow env u hd')
      intro r t hr
      cases r with
      | error st => trivial
      | ok d => exact hr

/-- Before a file: no record has been passed, or a file is finished. -/
def Ready (ctx : ProgressCtx) (t : Tally) : Prop :=
  ctx.Untouched ∧ (t.finished = 0 → t.last = 0)

/-- Behind a file with a result; an error is the last of the call's records. -/
def ReadyUnlessError : Except Status ProgressCtx → Tally → Prop
  | .ok ctx, t => Ready ctx t
  | .error _, _ => True

theorem tally_sendOpened (env : SendEnv) (u : Upload) (mtu win : Nat) {ctx : ProgressCtx}
    {t : Tally} (hready : Ready ctx t) (hoff : u.resumeOff < 2 ^ 64) :
    wp tallyStep (sendOpened env u mtu win ctx) t ReadyUnlessError := by
  unfold sendOpened
  simp only [wp_bind, wp_ask_blind, tally_blind, Call.Untallied]
  intro _
  apply wp_mono _ (tally_emitProgressSender hready.1 u.name hoff true
    (fun h => (hready.2 h).trans_le (Nat.zero_le _)))
  rintro ctx t' ⟨hctx, hfinished, hlast⟩
  simp only [wp_bind, wp_ask_blind, tally_blind, Call.Untallied, wp_ite]
  refine fun cancelled => ⟨fun _ => tally_abandon u .aborted t' (fun _ => trivial), fun _ =>
    ⟨fun _ _ => trivial, fun _ => ?_⟩⟩
  have hd : Reported ⟨u.resumeOff, u.resumeOff, 0, win, u.resumeOff, u.resumeOff > 0, 0, ctx⟩ t' :=
    ⟨hctx, fun h => hlast (hfinished ▸ h)⟩
  apply wp_mono _ (tally_sendLoop env u hd)
  intro r t hr
  cases r with
  | error st => trivial
  | ok d =>
      simp only [wp_bind, wp_ask_blind, tally_blind, Call.Untallied, wp_ite, wp_pure,
        tally_onFileComplete]
      refine fun st => ⟨fun _ => tally_abandon u st t (fun _ => trivial), fun _ st' =>
        ⟨fun _ => tally_abandon u st' t (fun _ => trivial), fun _ _ => ?_⟩⟩
      exact ⟨hr.1, fun h => absurd h (by simp)⟩

theorem tally_sendSkipped (name path : Bytes) (size : Nat) (t : Tally) :
    wp tallyStep (sendSkipped name path size) t (fun st t' => st = .ok → t'.finished ≠ 0) := by
  unfold sendSkipped
  simp only [wp_bind, wp_ask_blind, tally_blind, Call.Untallied, wp_ite, wp_pure,
    tally_onFileComplete]
  exact fun _ st => ⟨fun h h' => absurd h' h, fun _ st' => ⟨fun h h' => absurd h' h,
    fun _ _ => by simp⟩⟩

/-- Behind a negotiation that passes no record: the offset is a `uint64_t`. -/
def Negotiated (t : Tally) (r : Except Status Nat) (t' : Tally) : Prop :=
  t' = t ∧ ∀ off, r = .ok off → off < 2 ^ 64

theorem Negotiated.error (t : Tally) (st : Status) : Negotiated t (.error st) t :=
  ⟨rfl, fun _ h => by cases h⟩

theorem Negotiated.ok (t : Tally) {n : Nat} (hn : n < 2 ^ 64) : Negotiated t (.ok n) t := by
  refine ⟨rfl, fun off h => ?_⟩
  cases h
  exact hn

theorem tally_verifyTail (env : SendEnv) (mtu : Nat) (filepath : Bytes) (off length : Nat)
    (t : Tally) :
    wp tallyStep (verifyTail env mtu filepath off length) t (Negotiated t) := by
  have hcrc : ∀ f start, wp tallyStep (crc32Region env.cfg env.provider mtu f start length) t
      (fun _ t' => t' = t) := by
    intro f start
    refine wp_only ?_ (only_crc32Region _ _ _ f _ _) (fun _ => rfl)
    intro c hc
    apply tally_blind
    cases c <;> first | exact trivial | exact absurd hc id
  unfold verifyTail
  simp only [wp_bind, wp_ask_blind, tally_blind, Call.Untallied]
  intro file
  cases file with
  | none => exact Negotiated.error t _
  | some f =>
      apply wp_use (tally_seekIf _ f _ t)
      rintro _ _ rfl
      apply wp_use (hcrc f _)
      rintro crc _ rfl
      simp only [wp_bind, wp_ask_blind, tally_blind, Call.Untallied]
      intro _
      cases crc with
      | error st => exact Negotiated.error _ st
      | ok crc =>
          simp only [wp_bind, wp_ask_blind, tally_blind, Call.Untallied, wp_ite, wp_pure]
          refine fun st => ⟨fun _ => Negotiated.error _ st, fun _ r => ?_⟩
          cases r with
          | error st => exact Negotiated.error _ st
          | ok x => exact Negotiated.ok _ x.toNat_lt

theorem tally_handleResumeNegotiation (env : SendEnv) (mtu size : Nat) (filepath : Bytes)
    (t : Tally) :
    wp tallyStep (handleResumeNegotiation env mtu size filepath) t (Negotiated t) := by
  unfold handleResumeNegotiation
  simp only [wp_bind, wp_ask_blind, tally_blind, Call.Untallied, wp_ite, wp_pure]
  refine fun st => ⟨fun _ => Negotiated.error t st, fun _ resp => ?_⟩
  cases resp with
  | error st => exact Negotiated.error t st
  | ok buf =>
      rw [wp_ite]
      refine ⟨fun _ => Negotiated.error t _, fun _ => ?_⟩
      -- the offset of a RESUME_RESP is read from eight bytes
      have hresp : (deserializeResumeResp buf).resumeOffset < 2 ^ 64 := by
        apply (LittleEndian.getLe_lt _).trans_le
        show 256 ^ _ ≤ 256 ^ 8
        apply Nat.pow_le_pow_right (by decide)
        simp [LittleEndian.slice]
      have hoff : (if (deserializeResumeResp buf).resumeOffset > size then 0
          else (deserializeResumeResp buf).resumeOffset) < 2 ^ 64 := by
        split <;> omega
      unfold onResumeResp
      dsimp only
      split
      · exact Negotiated.ok t (by decide)
      · exact Negotiated.ok t hoff
      · exact Negotiated.ok t (by decide)
      · exact Negotiated.error t _
      · rw [wp_ite]
        exact ⟨fun _ => Negotiated.ok t hoff, fun _ => tally_verifyTail _ _ _ _ _ t⟩
      · exact Negotiated.error t _

theorem tally_getFileSizeAndName (filepath : Bytes) (t : Tally) :
    wp tallyStep (getFileSizeAndName filepath) t (fun _ t' => t' = t) := by
  refine wp_only ?_ (only_getFileSizeAndName filepath) (fun _ => rfl)
  intro c hc
  apply tally_blind
  cases c <;> first | exact trivial | exact absurd hc id

theorem tally_sendFileDataAdaptive (env : SendEnv) (mtu : Nat) {ctx : ProgressCtx}
    (filepath : Bytes) {t : Tally} (hready : Ready ctx t) :
    wp tallyStep (sendFileDataAdaptive env mtu ctx filepath) t ReadyUnlessError := by
  unfold sendFileDataAdaptive sendMetadata
  simp only [wp_bind, wp_ask_blind, tally_blind, Call.Untallied]
  intro current negotiated
  apply wp_mono _ (tally_getFileSizeAndName filepath t)
  rintro r _ rfl
  rcases r with st | ⟨size, name⟩
  · trivial
  simp only [wp_bind, wp_ask_blind, tally_blind, Call.Untallied, wp_ite, wp_pure]
  refine fun st => ⟨fun _ => trivial, fun _ => ?_⟩
  apply wp_mono _ (tally_handleResumeNegotiation env mtu size filepath _)
  rintro r t' ⟨rfl, hoff⟩
  rcases r with st | off
  · trivial
  dsimp only
  rw [wp_ite]
  refine ⟨fun _ => ?_, fun _ => ?_⟩
  · -- a skipped file passes no record
    apply wp_use (tally_sendSkipped _ _ _ _)
    intro st t hfinished
    rw [wp_ite]
    refine ⟨fun _ => trivial, fun hst => ?_⟩
    exact ⟨hready.1, fun h => absurd h (hfinished (not_not.mp hst))⟩
  · simp only [wp_bind, wp_ask_blind, tally_blind, Call.Untallied]
    intro file
    cases file with
    | none => trivial
    | some f =>
        apply wp_use (tally_seekIf _ f _ _)
        rintro st _ rfl
        rw [wp_ite]
        refine ⟨fun _ => by simp [Call.Untallied, ReadyUnlessError], fun _ => ?_⟩
        exact tally_sendOpened env _ mtu _ hready (hoff off rfl)

/-! ## §4. The batch. -/

theorem tally_sendEach (env : SendEnv) (mtu : Nat) (filepaths : List Bytes) {ctx : ProgressCtx}
    {t : Tally} (hready : Ready ctx t) :
    wp tallyStep (sendEach env mtu filepaths ctx) t (fun _ _ => True) := by
  induction filepaths generalizing ctx t with
  | nil => trivial
  | cons filepath rest ih =>
      unfold sendEach
      apply wp_use (tally_sendFileDataAdaptive env mtu filepath hready)
      intro r t hr
      cases r with
      | error st => trivial
      | ok ctx => exact ih hr

/-- **The monitor accepts every run of `val_send_files`.** -/
theorem tally_valSendFiles (env : SendEnv) (filepaths : List Bytes) :
    wp tallyStep (valSendFiles env filepaths) ⟨0, 0⟩ (fun _ _ => True) := by
  have hscan : wp tallyStep (batchTotalBytes filepaths 0) ⟨0, 0⟩ (fun _ t => t = ⟨0, 0⟩) := by
    refine wp_only ?_ (only_batchTotalBytes filepaths 0) (fun _ => rfl)
    intro c hc
    apply tally_blind
    cases c <;> first | exact trivial | exact absurd hc id
  unfold valSendFiles
  simp only [wp_bind, wp_ask_blind, tally_blind, Call.Untallied, wp_ite]
  refine ⟨fun _ => trivial, fun _ hs => ?_⟩
  cases hs with
  | error st => trivial
  | ok mtu =>
      apply wp_use hscan
      rintro total _ rfl
      simp only [wp_bind, wp_ask_blind, tally_blind, Call.Untallied]
      intro start
      have hready : Ready ⟨filepaths.length % 2 ^ 32, 0, total, 0, 0, start.toNat, 0⟩ ⟨0, 0⟩ :=
        ⟨⟨rfl, rfl⟩, fun _ => rfl⟩
      apply wp_mono _ (tally_sendEach env mtu filepaths hready)
      intro st t _
      simp [Call.Untallied]

/-- **Progress is cumulative** over a batch, in every run and whatever is
answered, if and only if no record is passed behind a finished file. -/
theorem records_cumulative_iff (env : SendEnv) (filepaths : List Bytes) (tr : List Event)
    (o : Option Status) (hrun : Runs (valSendFiles env filepaths) tr o) :
    Cumulative tr ↔ ¬ LateRecord tr := by
  have hstart : Tallied [] ⟨0, 0⟩ :=
    ⟨rfl, (fun _ h => absurd h List.not_mem_nil),
      Or.inr ⟨(fun _ h => absurd h List.not_mem_nil), List.Pairwise.nil⟩⟩
  rcases wp_sound hrun (tally_valSendFiles env filepaths) with hup | ⟨t, hgo, -⟩
  · exact absurd hup (watch_ne_giveUp (guarded_ne_giveUp _ _) tr _)
  · exact (watch_invariant hstart (fun tr t e t' => tallied_step) hgo).cumulative_iff

theorem records_cumulative_iff_calmBatch : Cumulative calmBatch.1 ↔ ¬ LateRecord calmBatch.1 :=
  records_cumulative_iff plainSender _ calmBatch.1 calmBatch.2 (exec_nil_runs _ _ _)

/-- The record at a place of the trace counts the files finished before. -/
theorem Cumulative.filesCompleted {tr : List Event} (h : Cumulative tr) (k : Nat) :
    ∀ info ∈ tr[k]?.bind progressInfo, info.filesCompleted = (ledger (tr.take k)).files := by
  intro info hk
  obtain ⟨e, he, hinfo⟩ := Option.bind_eq_some_iff.mp hk
  obtain ⟨hlt, rfl⟩ := List.getElem?_eq_some_iff.mp he
  have hsplit : tr = tr.take k ++ tr[k] :: tr.drop (k + 1) := by
    rw [List.getElem_cons_drop, List.take_append_drop]
  exact (h.1 _ _ _ info hsplit hinfo).1

/-- The record of the second of two empty files still counts none. -/
theorem records_not_cumulative :
    ∃ (env : SendEnv) (filepaths : List Bytes) (tr : List Event),
      Runs (valSendFiles env filepaths) tr (some .ok) ∧ ¬ Cumulative tr := by
  have hdone : calmBatch.2 = some .ok := by rfl
  have hrun := exec_nil_runs (fun _ => Call.calm) 100 (valSendFiles plainSender [[0x61], [0x62]])
  refine ⟨plainSender, [[0x61], [0x62]], calmBatch.1, hdone ▸ hrun, fun h => ?_⟩
  have hwrong : ∃ info ∈ (calmBatch.1[44]?).bind progressInfo,
      info.filesCompleted ≠ (ledger (calmBatch.1.take 44)).files := by
    exact ⟨_, rfl, by decide +kernel⟩
  obtain ⟨info, hinfo, hne⟩ := hwrong
  exact hne (h.filesCompleted 44 info hinfo)

end ValProtocol.Hooks
