/-
  ValProtocol.Session.Batches
  ───────────────────────────
  Successive `val_send_files` calls on one session against successive
  `val_receive_files` calls on the other.

  EOT carries no batch number and is repeated on a timeout.  A late copy is
  taken for the end of the NEXT batch by the metadata wait of the next
  `val_receive_files` call (`stale_eot_pairs_wrong`).

    • `batches_paired` — as long as the metadata wait takes no EOT of an
      earlier exchange, calls that succeed on both sides stay paired: the
      `i`-th receive completes exactly the files of the `i`-th send.
-/
import ValProtocol.Session.Isolation

namespace ValProtocol

/-! ## §1. Counting calls in the script. -/

theorem count_eot_callScript (batch : List SourceFile) : (callScript batch).count .eot = 1 := by
  have hfiles : (batch.map Exchange.file).count .eot = 0 := by
    rw [List.count_eq_zero]
    intro hmem
    obtain ⟨f, -, hf⟩ := List.mem_map.mp hmem
    cases hf
  rw [callScript, List.count_append, hfiles]
  rfl

theorem count_eot_callsScript (calls : List (List SourceFile)) :
    (callsScript calls).count .eot = calls.length := by
  induction calls with
  | nil => rfl
  | cons batch calls ih =>
      rw [callsScript, List.flatMap_cons, List.count_append, count_eot_callScript]
      show 1 + (callsScript calls).count .eot = calls.length + 1
      rw [ih]
      omega

theorem count_eot_script (calls : List (List SourceFile)) :
    (script calls).count .eot = calls.length := by
  rw [script, List.count_cons_of_ne (by decide), count_eot_callsScript]

/-- What lies before the sender: the running call and those to come. -/
theorem count_eot_ahead (s : SendState) (calls : List (List SourceFile)) :
    (s.ahead calls).count .eot = (if s.pc = .idle then 0 else 1) + calls.length := by
  have hidle : s.pc = .idle ↔ s.pc.exchange = none := by
    cases s.pc <;> simp [SendPc.exchange]
  unfold SendState.ahead
  split
  · rename_i hnone
    rw [if_pos (hidle.mpr hnone), List.count_append, count_eot_callsScript]
    split <;> rfl
  · rename_i hsome
    rw [if_neg (by rw [hidle, hsome]; exact nofun), List.count_cons_of_ne (by decide),
      List.count_append, count_eot_callScript, count_eot_callsScript]
  · rename_i hsome
    rw [if_neg (by rw [hidle, hsome]; exact nofun), List.count_append, count_eot_callScript,
      count_eot_callsScript]

/-- A clean sender is never ahead of a clean receiver. -/
theorem Sync.calls_le {c : SessionParams} {batches : List (List SourceFile)} {s : SessionSys}
    (h : Sync c (script batches) s) (hb : s.sndBatches = batches) (hs : s.snd.Clean)
    (hr : s.rcv.Clean) : s.snd.log.length ≤ s.rcv.log.length := by
  have htotal : ((script batches).take s.snd.turn).count .eot
      + ((script batches).drop s.snd.turn).count .eot = batches.length := by
    rw [← List.count_append, List.take_append_drop, count_eot_script]
  rw [(h.snd_at hs).ahead_eq, count_eot_ahead] at htotal
  have hlen : s.sndBatches.length = batches.length := by rw [hb]
  unfold SessionSys.sndBatches at hlen
  rw [List.length_append, List.length_map, List.length_append] at hlen
  have hbusy : (if s.snd.pc = .idle then [] else [s.snd.batch]).length
      = if s.snd.pc = .idle then 0 else 1 := by
    split <;> rfl
  -- the receiver has recorded one call for each EOT behind it
  have hrec := congrArg (fun r => r.1.length) (h.rcv_at hr).record_eq
  dsimp only at hrec
  rw [List.length_map, record, foldl_record_length, List.length_nil, Nat.zero_add] at hrec
  have hmono : ((script batches).take s.snd.turn).count .eot
      ≤ ((script batches).take s.rcv.turn).count .eot :=
    (List.take_sublist_take_left h.turns.turn_le).count_le _
  omega

/-! ## §2. In step, or past a failed call. -/

section Pairing

variable (c : SessionParams) (batches : List (List SourceFile))

/-- The `i`-th receive call has completed the files of the `i`-th batch. -/
def PairedAt (s : SessionSys) (i : Nat) : Prop :=
  ∃ batch st, batches[i]? = some batch
    ∧ s.rcv.log[i]? = some (batch.map (SourceFile.announced c.snd.senderPath), st)

/-- No side has called again after a failed call. -/
structure Paired (s : SessionSys) : Prop where
  sync : Sync c (script batches) s
  batches_eq : s.sndBatches = batches
  done_ok : ∀ i, (∀ j ≤ i, ∃ e, s.rcv.log[j]? = some e ∧ e.2 = .ok) → PairedAt c batches s i
  behind : ∀ n e, s.snd.log[n]? = some e → e.2 ≠ .ok →
    n ≤ s.rcv.log.length ∨ ¬ s.rcv.Clean

/-- A call has failed, and every receive call before it is paired. -/
def Broken (s : SessionSys) : Prop :=
  ∃ n, ((∃ e, s.snd.log[n]? = some e ∧ e.2 ≠ .ok) ∨ ∃ e, s.rcv.log[n]? = some e ∧ e.2 ≠ .ok)
    ∧ ∀ i < n, PairedAt c batches s i

variable {c batches} {s s' : SessionSys}

/-- A failed call has a number. -/
theorem exists_failed {α : Type} {log : List (α × Status)} (h : ¬ ∀ e ∈ log, e.2 = .ok) :
    ∃ n : Nat, ∃ e, log[n]? = some e ∧ e.2 ≠ .ok := by
  by_contra hno
  apply h
  intro e he
  obtain ⟨n, hn⟩ := List.getElem?_of_mem he
  by_contra hne
  exact hno ⟨n, e, hn, hne⟩

theorem prefix_getElem? {α : Type} {xs ys : List α} (h : xs <+: ys) {n : Nat} {x : α}
    (hx : xs[n]? = some x) : ys[n]? = some x := by
  obtain ⟨t, rfl⟩ := h
  rw [List.getElem?_append_left (List.getElem?_eq_some_iff.mp hx).1]
  exact hx

/-- What has returned stays as it is. -/
theorem Broken.kept {l : SessionLabel} (h : Broken c batches s) (hkept : CallsKept s l s') :
    Broken c batches s' := by
  obtain ⟨n, hbad, hall⟩ := h
  refine ⟨n, ?_, ?_⟩
  · rcases hbad with ⟨e, he, hne⟩ | ⟨e, he, hne⟩
    · exact Or.inl ⟨e, prefix_getElem? hkept.sndLog_prefix he, hne⟩
    · exact Or.inr ⟨e, prefix_getElem? hkept.rcvLog_prefix he, hne⟩
  · intro i hi
    obtain ⟨batch, st, hb, hlog⟩ := hall i hi
    exact ⟨batch, st, hb, prefix_getElem? hkept.rcvLog_prefix hlog⟩

/-- A failed receive call. -/
theorem Paired.broken_of_rcv (h : Paired c batches s) (hr : ¬ s.rcv.Clean) :
    Broken c batches s := by
  have hex := exists_failed hr
  classical
  -- the first one
  refine ⟨Nat.find hex, Or.inr (Nat.find_spec hex), ?_⟩
  intro i hi
  apply h.done_ok i
  intro j hj
  obtain ⟨e, he, -⟩ := Nat.find_spec hex
  have hlt := (List.getElem?_eq_some_iff.mp he).1
  have hjlt : j < s.rcv.log.length := by omega
  refine ⟨s.rcv.log[j], List.getElem?_eq_getElem hjlt, ?_⟩
  by_contra hne
  exact Nat.find_min hex (show j < Nat.find hex by omega)
    ⟨_, List.getElem?_eq_getElem hjlt, hne⟩

/-- A failed send call. -/
theorem Paired.broken_of_snd (h : Paired c batches s) (hs : ¬ s.snd.Clean) :
    Broken c batches s := by
  by_cases hr : s.rcv.Clean
  · obtain ⟨n, e, hn, hne⟩ := exists_failed hs
    have hle : n ≤ s.rcv.log.length := by
      rcases h.behind n e hn hne with hle | hbad
      · exact hle
      · exact absurd hr hbad
    refine ⟨n, Or.inl ⟨e, hn, hne⟩, ?_⟩
    intro i hi
    apply h.done_ok i
    intro j hj
    have hjlt : j < s.rcv.log.length := by omega
    exact ⟨_, List.getElem?_eq_getElem hjlt, hr _ (List.getElem_mem hjlt)⟩
  · exact h.broken_of_rcv hr

/-- What a receiver in step has recorded. -/
theorem Sync.pairedAt (h : Sync c (script batches) s) (hr : s.rcv.Clean) {i : Nat}
    (hi : i < s.rcv.log.length) : PairedAt c batches s i := by
  have hpre := record_take_prefix c.snd (script batches) s.rcv.turn
  rw [(h.rcv_at hr).record_eq, record_script] at hpre
  have hget : (s.rcv.log.map Prod.fst)[i]? = some s.rcv.log[i].1 := by
    rw [List.getElem?_map, List.getElem?_eq_getElem hi]
    rfl
  have hbatch := prefix_getElem? hpre hget
  rw [List.getElem?_map] at hbatch
  obtain ⟨batch, hb, heq⟩ := Option.map_eq_some_iff.mp hbatch
  refine ⟨batch, s.rcv.log[i].2, hb, ?_⟩
  rw [List.getElem?_eq_getElem hi, heq]

/-- **Step lemma**, no call being made after a failed one. -/
theorem Paired.step {l : SessionLabel} (h : Paired c batches s) (hcall : CallsClean s l)
    (hfresh : EotFresh s l) (hstep : s.step c l = some s') : Paired c batches s' := by
  have hsync := sync_step h.sync hcall hfresh hstep
  have hkept := calls_step hstep
  refine ⟨hsync, hkept.batches_eq.trans h.batches_eq, ?_, ?_⟩
  · intro i hok
    rcases hkept.rcvLog with heq | ⟨hbusy, e, heq⟩
    · unfold PairedAt
      rw [heq] at hok ⊢
      exact h.done_ok i hok
    · by_cases hi : i < s.rcv.log.length
      · obtain ⟨batch, st, hb, hlog⟩ := h.done_ok i (by
          intro j hj
          have hjlt : j < s.rcv.log.length := by omega
          obtain ⟨e', he', hok'⟩ := hok j hj
          rw [heq, List.getElem?_append_left hjlt] at he'
          exact ⟨e', he', hok'⟩)
        exact ⟨batch, st, hb, prefix_getElem? hkept.rcvLog_prefix hlog⟩
      · -- the new entry: all calls have succeeded
        have hlast : s.rcv.log.length ≤ i := by omega
        have hclean : s'.rcv.Clean := by
          intro e' he'
          obtain ⟨n, hn⟩ := List.getElem?_of_mem he'
          have hlt := (List.getElem?_eq_some_iff.mp hn).1
          rw [heq, List.length_append, List.length_singleton] at hlt
          obtain ⟨e'', he'', hok''⟩ := hok n (by omega)
          rw [hn] at he''
          cases he''
          exact hok''
        refine hsync.pairedAt hclean ?_
        obtain ⟨e', he', -⟩ := hok i (Nat.le_refl i)
        exact (List.getElem?_eq_some_iff.mp he').1
  · intro n e hn hne
    have hlen : s.rcv.log.length ≤ s'.rcv.log.length := hkept.rcvLog_prefix.length_le
    -- an old failure stays behind, a new one has the clean calls before it
    have hold : n < s.snd.log.length → n ≤ s'.rcv.log.length ∨ ¬ s'.rcv.Clean := by
      intro hlt
      have hn' : s.snd.log[n]? = some e := by
        rw [List.getElem?_eq_getElem hlt, ← prefix_getElem? hkept.sndLog_prefix
          (List.getElem?_eq_getElem hlt), hn]
      rcases h.behind n e hn' hne with hle | hbad
      · exact Or.inl (by omega)
      · refine Or.inr fun hc => hbad ?_
        intro e' he'
        exact hc e' (hkept.rcvLog_prefix.subset he')
    rcases hkept.sndLog with heq | ⟨hl, e', heq⟩
    · refine hold ?_
      rw [heq] at hn
      exact (List.getElem?_eq_some_iff.mp hn).1
    · by_cases hlt : n < s.snd.log.length
      · exact hold hlt
      · have hnlt := (List.getElem?_eq_some_iff.mp hn).1
        rw [heq, List.length_append, List.length_singleton] at hnlt
        by_cases hr : s'.rcv.Clean
        · left
          have hs : s.snd.Clean := by
            by_cases hidle : s.snd.pc = .idle
            · rw [hl hidle] at hcall
              exact hcall
            · exact h.sync.snd_busy hidle
          have := h.sync.calls_le h.batches_eq hs
            (fun e' he' => hr e' (hkept.rcvLog_prefix.subset he'))
          omega
        · exact Or.inr hr

/-- **Every run** in which no stale EOT is taken is in step or past a failed
call. -/
theorem paired_run (hmtu : minPacketSize ≤ c.rcv.cfg.packetSize)
    {files : Bytes → Option Bytes} {dirs : List Bytes}
    (h : Lts.Reach (SessionSys.step c) EotFresh (SessionSys.init c files batches dirs) s) :
    s.sndBatches = batches ∧ (Paired c batches s ∨ Broken c batches s) := by
  refine h.invariant
    (I := fun s => s.sndBatches = batches ∧ (Paired c batches s ∨ Broken c batches s)) ?_ ?_
  · have hb : (SessionSys.init c files batches dirs).sndBatches = batches := rfl
    refine ⟨hb, Or.inl ⟨sync_init c files batches dirs hmtu, hb, ?_, ?_⟩⟩
    · intro i hok
      obtain ⟨e, he, -⟩ := hok i (Nat.le_refl i)
      cases he
    · intro n e he
      cases he
  · rintro s l s' ⟨hb, hinv⟩ hfresh hstep
    have hkept := calls_step hstep
    refine ⟨hkept.batches_eq.trans hb, ?_⟩
    rcases hinv with hpaired | hbroken
    · by_cases hcall : CallsClean s l
      · exact Or.inl (hpaired.step hcall hfresh hstep)
      · -- a call after a failed one: nothing is promised any more
        right
        refine Broken.kept ?_ hkept
        cases l with
        | sndCall => exact hpaired.broken_of_snd hcall
        | rcvCall => exact hpaired.broken_of_rcv hcall
        | _ => exact absurd trivial hcall
    · exact Or.inr (hbroken.kept hkept)

end Pairing

/-! ## §3. Successful calls are paired. -/

/-- **Consecutive batches stay paired.**  In every run in which no metadata
wait takes an EOT of an earlier exchange: when the first `i + 1` calls on both
sides have returned `VAL_OK`, the `i`-th receive has completed exactly the
files of the `i`-th send, in order. -/
theorem batches_paired {c : SessionParams} (hrcv : c.rcv.cfg.Accepted)
    {files : Bytes → Option Bytes} {batches : List (List SourceFile)} {dirs : List Bytes}
    {s : SessionSys}
    (h : Lts.Reach (SessionSys.step c) EotFresh (SessionSys.init c files batches dirs) s)
    {i : Nat} (hsnd_ok : ∀ j ≤ i, ∃ e, s.snd.log[j]? = some e ∧ e.2 = .ok)
    (hrcv_ok : ∀ j ≤ i, ∃ e, s.rcv.log[j]? = some e ∧ e.2 = .ok) :
    ∃ batch, s.snd.log[i]? = some (batch, .ok)
      ∧ s.rcv.log[i]? = some (batch.map (SourceFile.announced c.snd.senderPath), .ok) := by
  obtain ⟨hb, hinv⟩ := paired_run hrcv.packetSize_min h
  have hpaired : PairedAt c batches s i := by
    rcases hinv with hpaired | ⟨n, hbad, hall⟩
    · exact hpaired.done_ok i hrcv_ok
    · by_cases hi : i < n
      · exact hall i hi
      · -- the failed call would be among the first ones
        exfalso
        rcases hbad with ⟨e, he, hne⟩ | ⟨e, he, hne⟩
        · obtain ⟨e', he', hok⟩ := hsnd_ok n (by omega)
          rw [he] at he'
          cases he'
          exact hne hok
        · obtain ⟨e', he', hok⟩ := hrcv_ok n (by omega)
          rw [he] at he'
          cases he'
          exact hne hok
  obtain ⟨batch, st, hbatch, hlog⟩ := hpaired
  obtain ⟨⟨sentBatch, st'⟩, hsent, rfl⟩ := hsnd_ok i (Nat.le_refl i)
  obtain ⟨e, he, hok⟩ := hrcv_ok i (Nat.le_refl i)
  rw [hlog] at he
  cases he
  cases hok
  -- the calls are made in the order of `batches`
  have hi : (s.snd.log.map Prod.fst)[i]? = some sentBatch := by
    rw [List.getElem?_map, hsent]
    rfl
  have hpre : s.snd.log.map Prod.fst <+: batches := by
    rw [← hb]
    exact List.prefix_append _ _
  have hsame := prefix_getElem? hpre hi
  rw [hbatch] at hsame
  cases hsame
  exact ⟨batch, hsent, hlog⟩

def firstBatch : List SourceFile := [⟨[97], some [1, 2, 3]⟩]

def secondBatch : List SourceFile := [⟨[98], some [4]⟩]

/-- One file, from its SEND_META to its DONE_ACK. -/
def oneFileRun : List SessionLabel :=
  [.rcvRecv .good, .rcvRecv .good, .sndRecv, .rcvRecv .good, .sndRecv, .rcvRecv .good, .sndRecv]

/-- Two batches; the second RESUME_REQ is repeated. -/
def twoBatchesRun : List SessionLabel :=
  [.sndCall, .rcvCall, .rcvRecv .good, .sndRecv] ++ oneFileRun
    ++ [.rcvRecv .good, .sndRecv, .sndCall, .rcvCall, .rcvRecv .good, .sndTimeout .resend,
      .rcvRecv .good, .rcvRecv .good, .sndRecv, .rcvRecv .good, .sndRecv, .rcvRecv .good,
      .sndRecv, .rcvRecv .good, .sndRecv]

theorem batches_paired_two :
    ∃ s : SessionSys, Lts.Reach (SessionSys.step smallPair) EotFresh
        (SessionSys.init smallPair (fun _ => none) [firstBatch, secondBatch] [[], []]) s
      ∧ ∃ batch, s.snd.log[1]? = some (batch, .ok)
        ∧ s.rcv.log[1]? = some (batch.map (SourceFile.announced none), .ok) := by
  have hrun : (twoBatchesRun.foldlM
        (Lts.checked (SessionSys.step smallPair) (fun s l => decide (EotFresh s l)))
        (SessionSys.init smallPair (fun _ => none) [firstBatch, secondBatch] [[], []])).map
        (fun s => (s.snd.log.map Prod.snd, s.rcv.log.map Prod.snd))
      = some ([.ok, .ok], [.ok, .ok]) := by
    decide +kernel
  obtain ⟨s, hs, hlogs⟩ := Option.map_eq_some_iff.mp hrun
  obtain ⟨hsnd, hrcv⟩ := Prod.mk.inj hlogs
  have hreach := (Lts.Reach.of_foldlM hs).mono (fun _ _ ha => of_decide_eq_true ha)
  have hentry : ∀ {α : Type} {log : List (α × Status)}, log.map Prod.snd = [.ok, .ok] →
      ∀ j ≤ 1, ∃ e, log[j]? = some e ∧ e.2 = .ok := by
    intro α log hlog j hj
    have hget : (log.map Prod.snd)[j]? = some .ok := by
      rw [hlog]
      rcases Nat.le_one_iff_eq_zero_or_eq_one.mp hj with rfl | rfl <;> rfl
    rw [List.getElem?_map] at hget
    exact Option.map_eq_some_iff.mp hget
  exact ⟨s, hreach, batches_paired (c := smallPair) quickDegrade_accepted hreach (hentry hsnd)
    (hentry hrcv)⟩

/-- The EOT of the first batch is repeated once before its EOT_ACK arrives. -/
def staleEotRun : List SessionLabel :=
  [.sndCall, .rcvCall, .rcvRecv .good, .sndRecv] ++ oneFileRun
    ++ [.sndTimeout .resend, .rcvRecv .good, .sndRecv, .rcvCall, .rcvRecv .good, .sndCall,
      .rcvCall, .sndRecv] ++ oneFileRun ++ [.rcvRecv .good, .sndRecv]

/-- **A late EOT ends the next batch.**  Nothing is lost.  The second
receive call takes the copy and returns `VAL_OK` without a file, while the
second send call, served by a third receive call, returns `VAL_OK` too. -/
theorem stale_eot_pairs_wrong :
    ∃ s : SessionSys, Lts.Reach (SessionSys.step smallPair) (fun _ l => l.isLoss = false)
        (SessionSys.init smallPair (fun _ => none) [firstBatch, secondBatch] [[], [], []]) s
      ∧ s.snd.log = [(firstBatch, .ok), (secondBatch, .ok)]
      ∧ (∀ e ∈ s.rcv.log, e.2 = .ok) ∧ s.rcv.log[1]? = some ([], .ok)
      ∧ secondBatch.map (SourceFile.announced none) ≠ [] := by
  have hrun : (staleEotRun.foldlM
        (Lts.checked (SessionSys.step smallPair) (fun _ l => !l.isLoss))
        (SessionSys.init smallPair (fun _ => none) [firstBatch, secondBatch] [[], [], []])).map
        (fun s => decide (s.snd.log = [(firstBatch, .ok), (secondBatch, .ok)]
          ∧ (∀ e ∈ s.rcv.log, e.2 = .ok) ∧ s.rcv.log[1]? = some ([], .ok)))
      = some true := by
    decide +kernel
  obtain ⟨s, hs, hout⟩ := Option.map_eq_some_iff.mp hrun
  obtain ⟨hsnd, hok, hone⟩ := of_decide_eq_true hout
  refine ⟨s, (Lts.Reach.of_foldlM hs).mono ?_, hsnd, hok, hone, nofun⟩
  intro _ l hl
  cases hloss : l.isLoss with
  | false => rfl
  | true =>
      rw [hloss] at hl
      cases hl

end ValProtocol
