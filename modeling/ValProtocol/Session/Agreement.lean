/-
  ValProtocol.Session.Agreement
  ─────────────────────────────
  The two sides settle the start offset of a file by up to five messages, any
  of which may be lost or repeated.

    • `resume_agreement` — a sender that has entered the data phase of file
      `k` at offset `r` has a receiver that started its `k`-th file there;
      and `r > 0` only when the local file has exactly `r` bytes and the CRC
      of its tail window is the one of the sender's file.

  The seeks of `val_internal_crc32_region` and `determine_resume_action` pass
  the window's start through `(long)`.  Where `long` has 32 bits and the start
  is 2^32 or more, another window is compared (`resume_wrong_window`), so the
  theorem is about runs in which the start survives the cast or is refused.
-/
import Mathlib.Data.List.Pairwise
import ValProtocol.Session.Isolation
import ValProtocol.Session.Walk

namespace ValProtocol

open LittleEndian (slice)

/-! ## §1. What is agreed on. -/

/-- The size of file `k` of a batch. -/
def sizeAt (batch : List SourceFile) (k : Nat) : Nat :=
  ((batch[k]?.bind SourceFile.content).getD []).length

/-- The receiver has answered, or is past, the RESUME_REQ of its `k`-th
file. -/
def RecvState.Decided (s : RecvState) (k : Nat) : Prop :=
  s.log ≠ [] ∨ k < s.completed.length ∨ k = s.completed.length
    ∧ ((∃ f resp off, s.pc.stage = .verifying f resp off) ∨ ∃ f, s.pc.stage = .settled f)

/-- The receiver has started, or is past, its `k`-th file. -/
def RecvState.Settled (s : RecvState) (k : Nat) : Prop :=
  s.log ≠ [] ∨ k < s.completed.length ∨ k = s.completed.length ∧ ∃ f, s.pc.stage = .settled f

theorem RecvState.Settled.decided {s : RecvState} {k : Nat} (h : s.Settled k) : s.Decided k := by
  rcases h with h | h | ⟨h, hf⟩
  · exact Or.inl h
  · exact Or.inr (Or.inl h)
  · exact Or.inr (Or.inr ⟨h, Or.inr hf⟩)

/-- The receiver has started its `k`-th file at `off`. -/
def RecvState.Chose (s : RecvState) (k off : Nat) : Prop :=
  ∃ st ∈ s.starts, st.file = k ∧ st.offset = off

theorem RecvState.Settles.chose {s s' : RecvState} {f : RecvFile} {off : Nat}
    (h : s.Settles f off s') : s'.Chose s.completed.length off := by
  refine ⟨⟨s.completed.length, f.size, off, s.files f.path⟩, ?_, rfl, rfl⟩
  rw [h.starts_eq]
  exact List.mem_append_right _ (List.mem_singleton_self _)

section Agreement

variable (c : SessionParams) (batch : List SourceFile)

/-- A local file whose tail window is asked for. -/
structure Asked (size : Nat) (existing : Option Bytes) (file : Bytes) : Prop where
  existing_eq : existing = some file
  pos : 0 < file.length
  le : file.length ≤ size
  lt : file.length < 2 ^ 63
  snd_lands : SeekLands c.snd.cfg.longBits
    (file.length - verifyLength c.rcv.cfg.resume file.length)
  rcv_lands : SeekLands c.rcv.cfg.longBits
    (file.length - verifyLength c.rcv.cfg.resume file.length)

/-- The RESUME_RESP that asks for it. -/
def AskOk (existing : Option Bytes) (k : Nat) (resp : Bytes) (off : Nat) : Prop :=
  ∃ file crc, Asked c (sizeAt batch k) existing file ∧ off = file.length ∧ crc < 2 ^ 32
    ∧ resp = (ResumeDecision.mk .verifyFirst file.length crc
        (verifyLength c.rcv.cfg.resume file.length)).wire

/-- A RESUME_RESP in flight. -/
def RespOk (existing : Option Bytes) (r : RecvState) (k : Nat) (p : Send) : Prop :=
  p = sendResumeResp ResumeDecision.startZero.wire ∧ r.Chose k 0
  ∨ p = sendResumeResp ResumeDecision.skipFile.wire
  ∨ ∃ resp off, p = sendResumeResp resp ∧ AskOk c batch existing k resp off

/-- A VERIFY request: the sender's CRC of the window. -/
def RequestOk (existing : Option Bytes) (k endOff : Nat) (payload : Bytes) : Prop :=
  ∃ file src content, Asked c content.length existing file ∧ batch[k]? = some src
    ∧ src.content = some content ∧ endOff = file.length
    ∧ payload = serializeVerifyRequest
        ⟨file.length - verifyLength c.rcv.cfg.resume file.length,
          (crc32 (tailWindow c.rcv.cfg.resume file.length content)).toNat,
          verifyLength c.rcv.cfg.resume file.length⟩

/-- A VERIFY result in flight. -/
def ReplyOk (existing : Option Bytes) (r : RecvState) (k : Nat) (p : Send) : Prop :=
  ∃ st crc, p = sendVerifyResult st crc
    ∧ (st = .skipped ∨ st = .resumeVerify ∧ r.Chose k 0
      ∨ st = .ok ∧ ∃ file src content, existing = some file ∧ batch[k]? = some src
        ∧ src.content = some content ∧ r.Chose k file.length
        ∧ crc32 (tailWindow c.rcv.cfg.resume file.length file)
          = crc32 (tailWindow c.rcv.cfg.resume file.length content))

/-- **The receiver has chosen the offset the sender starts at.** -/
def AgreedAt (r : RecvState) (e : SendStart) : Prop :=
  ∃ st ∈ r.starts, st.file = e.file ∧ st.offset = e.offset
    ∧ (0 < e.offset → ∃ file src content, st.existing = some file ∧ file.length = e.offset
      ∧ batch[e.file]? = some src ∧ src.content = some content
      ∧ crc32 (tailWindow c.rcv.cfg.resume e.offset file)
        = crc32 (tailWindow c.rcv.cfg.resume e.offset content))

/-- The negotiation invariant; `D k` is the local file the receiver found
behind its `k`-th target path. -/
structure Agreed (D : Nat → Option Bytes) (s : SessionSys) : Prop where
  snd_content : ∀ content, s.snd.pc.content = some content →
    ∃ f, batch[s.snd.idx]? = some f ∧ f.readable = some content
  rcv_local : ∀ f, s.rcv.pc.stage = .undecided f →
    s.rcv.files f.path = D s.rcv.completed.length
  rcv_verify : ∀ f resp off, s.rcv.pc.stage = .verifying f resp off →
    s.rcv.files f.path = D s.rcv.completed.length
      ∧ AskOk c batch (D s.rcv.completed.length) s.rcv.completed.length resp off
  starts_ok : ∀ st ∈ s.rcv.starts, s.rcv.Settled st.file ∧ st.existing = D st.file
  starts_once : s.rcv.starts.Pairwise (fun a b => a.file ≠ b.file)
  resp_ok : ∀ it ∈ s.toSnd, it.send.type = .resumeResp → ∀ k, it.file = some k →
    s.rcv.Decided k ∧ RespOk c batch (D k) s.rcv k it.send
  reply_ok : ∀ it ∈ s.toSnd, it.send.type = .verify → ∀ k, it.file = some k →
    s.rcv.Decided k ∧ ReplyOk c batch (D k) s.rcv k it.send
  req_ok : ∀ it ∈ s.toRcv, it.send.type = .verify → ∀ k, it.file = some k →
    s.rcv.Decided k ∧ ∃ endOff payload, it.send = sendVerify payload
      ∧ RequestOk c batch (D k) k endOff payload
  snd_verify : ∀ content n endOff payload, s.snd.pc = .verifyWait content n endOff payload →
    s.rcv.Decided s.snd.idx ∧ RequestOk c batch (D s.snd.idx) s.snd.idx endOff payload
  agreed : ∀ e ∈ s.snd.starts, e.offset < e.size → AgreedAt c batch s.rcv e

variable {c batch}

/-! ## §2. More starts on the receiver's side. -/

theorem RecvState.Chose.mono {r r' : RecvState} {k off : Nat} (h : r.Chose k off)
    (hst : r.starts ⊆ r'.starts) : r'.Chose k off := by
  obtain ⟨st, hmem, hk, hoff⟩ := h
  exact ⟨st, hst hmem, hk, hoff⟩

theorem RespOk.mono {r r' : RecvState} {existing : Option Bytes} {k : Nat} {p : Send}
    (h : RespOk c batch existing r k p) (hst : r.starts ⊆ r'.starts) :
    RespOk c batch existing r' k p := by
  rcases h with ⟨hp, hch⟩ | hp | hp
  · exact Or.inl ⟨hp, hch.mono hst⟩
  · exact Or.inr (Or.inl hp)
  · exact Or.inr (Or.inr hp)

theorem ReplyOk.mono {r r' : RecvState} {existing : Option Bytes} {k : Nat} {p : Send}
    (h : ReplyOk c batch existing r k p) (hst : r.starts ⊆ r'.starts) :
    ReplyOk c batch existing r' k p := by
  obtain ⟨st, crc, hp, hskip | ⟨hbad, hch⟩ | ⟨hok, file, src, content, h1, h2, h3, hch, h4⟩⟩ := h
  · exact ⟨st, crc, hp, Or.inl hskip⟩
  · exact ⟨st, crc, hp, Or.inr (Or.inl ⟨hbad, hch.mono hst⟩)⟩
  · exact ⟨st, crc, hp,
      Or.inr (Or.inr ⟨hok, file, src, content, h1, h2, h3, hch.mono hst, h4⟩)⟩

theorem AgreedAt.mono {r r' : RecvState} {e : SendStart} (h : AgreedAt c batch r e)
    (hst : r.starts ⊆ r'.starts) : AgreedAt c batch r' e := by
  obtain ⟨st, hmem, h1, h2, h3⟩ := h
  exact ⟨st, hst hmem, h1, h2, h3⟩

variable {D D' : Nat → Option Bytes} {s : SessionSys}

/-- **The receiver's side of a step**: `new` are the packets it sends, `r` its
new state, and `D'` differs from `D` only at files not yet decided. -/
theorem Agreed.received (h : Agreed c batch D s) {r : RecvState} {new : List Send}
    {down : List Item} (hdown : down ⊆ s.toRcv)
    (hdec : ∀ k, s.rcv.Decided k → r.Decided k ∧ D' k = D k)
    (hst : s.rcv.starts ⊆ r.starts)
    (hlocal : ∀ f, r.pc.stage = .undecided f → r.files f.path = D' r.completed.length)
    (hverify : ∀ f resp off, r.pc.stage = .verifying f resp off →
      r.files f.path = D' r.completed.length
        ∧ AskOk c batch (D' r.completed.length) r.completed.length resp off)
    (hstarts : ∀ st ∈ r.starts, r.Settled st.file ∧ st.existing = D' st.file)
    (honce : r.starts.Pairwise (fun a b => a.file ≠ b.file))
    (hresp : ∀ p ∈ new, p.type = .resumeResp → ∀ k, s.rcv.handling = some k →
      r.Decided k ∧ RespOk c batch (D' k) r k p)
    (hreply : ∀ p ∈ new, p.type = .verify → ∀ k, s.rcv.handling = some k →
      r.Decided k ∧ ReplyOk c batch (D' k) r k p) :
    Agreed c batch D' ({ s with toRcv := down }.answered (new, r)) where
  snd_content := h.snd_content
  rcv_local := hlocal
  rcv_verify := hverify
  starts_ok := hstarts
  starts_once := honce
  resp_ok := by
    intro it hit htype k hk
    rcases List.mem_append.mp hit with hit | hit
    · obtain ⟨hd, hok⟩ := h.resp_ok it hit htype k hk
      obtain ⟨hd', heq⟩ := hdec k hd
      rw [heq]
      exact ⟨hd', hok.mono hst⟩
    · obtain ⟨hmem, -, hfile⟩ := mem_stamped hit
      exact hresp _ hmem htype k (hfile.symm.trans hk)
  reply_ok := by
    intro it hit htype k hk
    rcases List.mem_append.mp hit with hit | hit
    · obtain ⟨hd, hok⟩ := h.reply_ok it hit htype k hk
      obtain ⟨hd', heq⟩ := hdec k hd
      rw [heq]
      exact ⟨hd', hok.mono hst⟩
    · obtain ⟨hmem, -, hfile⟩ := mem_stamped hit
      exact hreply _ hmem htype k (hfile.symm.trans hk)
  req_ok := by
    intro it hit htype k hk
    obtain ⟨hd, hok⟩ := h.req_ok it (hdown hit) htype k hk
    obtain ⟨hd', heq⟩ := hdec k hd
    rw [heq]
    exact ⟨hd', hok⟩
  snd_verify := by
    intro content n endOff payload hpc
    obtain ⟨hd, hok⟩ := h.snd_verify content n endOff payload hpc
    obtain ⟨hd', heq⟩ := hdec _ hd
    show r.Decided s.snd.idx ∧ RequestOk c batch (D' s.snd.idx) s.snd.idx endOff payload
    rw [heq]
    exact ⟨hd', hok⟩
  agreed := fun e he hlt => (h.agreed e he hlt).mono hst

/-! ## §3. The receiver's steps. -/

/-- The file a stage is about. -/
def RecvStage.file : RecvStage → Option RecvFile
  | .outside => none
  | .undecided f | .verifying f _ _ | .settled f => some f

theorem RecvPc.phase_of_stage {pc : RecvPc} {f : RecvFile} (h : pc.stage.file = some f) :
    pc.phase = .file f := by
  cases pc <;> first | (cases h; done) | (cases h; rfl)

/-- In every step of the receiver, the window of a local file that would be
verified starts where the seeks of both sides land. -/
def WindowLands (c : SessionParams) (s : SessionSys) : SessionLabel → Prop
  | .rcvRecv _ => ∀ f file, s.rcv.pc.phase = .file f → s.rcv.files f.path = some file →
      c.rcv.cfg.resume.mode = .tail → file.length ≤ f.size → file.length < 2 ^ 63 →
      SeekLands c.snd.cfg.longBits (file.length - verifyLength c.rcv.cfg.resume file.length)
      ∧ SeekLands c.rcv.cfg.longBits (file.length - verifyLength c.rcv.cfg.resume file.length)
  | _ => True

/-- The script of one call. -/
theorem script_file {k : Nat} {src : SourceFile}
    (h : (script [batch])[k + 1]? = some (.file src)) : batch[k]? = some src := by
  have hcalls : callsScript [batch] = batch.map Exchange.file ++ [.eot] := by
    simp [callsScript, callScript]
  rw [script, List.getElem?_cons_succ, hcalls] at h
  by_cases hk : k < batch.length
  · rw [List.getElem?_append_left (by rw [List.length_map]; exact hk), List.getElem?_map] at h
    obtain ⟨f, hf, heq⟩ := Option.map_eq_some_iff.mp h
    cases heq
    exact hf
  · rw [List.getElem?_append_right (by rw [List.length_map]; omega)] at h
    have hmem := List.mem_of_getElem? h
    rw [List.mem_singleton] at hmem
    cases hmem

/-- The receiver's `k`-th file has the size of file `k`. -/
theorem recv_size (hsync : Sync c (script [batch]) s) (hone : OneCall s) (hst : Stamped s)
    {f : RecvFile} (hphase : s.rcv.pc.phase = .file f) :
    f.size = sizeAt batch s.rcv.completed.length := by
  have hbusy : s.rcv.pc ≠ .idle := fun hidle => by rw [hidle] at hphase; cases hphase
  have hat := hsync.rcv_at (hsync.rcv_busy hbusy)
  obtain ⟨src, hsrc, hann⟩ := hat.file_ok f hphase
  rw [hst.rcv_turn (hone.rcv_busy hbusy) (hat.file_done f hphase)] at hsrc
  unfold sizeAt RecvFile.size
  rw [script_file hsrc, hann]
  rfl

/-- Settling: nothing was started for this file before. -/
theorem Agreed.settled (h : Agreed c batch D s) (hlog : s.rcv.log = []) {f : RecvFile}
    {off : Nat} {r : RecvState} {new : List Send} {down : List Item} (hdown : down ⊆ s.toRcv)
    (hfile : s.rcv.files f.path = D s.rcv.completed.length)
    (hnot : ¬ s.rcv.Settled s.rcv.completed.length) (hsettles : s.rcv.Settles f off r)
    (hresp : ∀ p ∈ new, p.type = .resumeResp →
      RespOk c batch (D s.rcv.completed.length) r s.rcv.completed.length p)
    (hreply : ∀ p ∈ new, p.type = .verify →
      ReplyOk c batch (D s.rcv.completed.length) r s.rcv.completed.length p) :
    Agreed c batch D ({ s with toRcv := down }.answered (new, r)) := by
  have hstarts := hsettles.starts_eq
  -- afterwards this file is settled, whether the receiver goes on or gives up
  have hnew : ∀ k, k ≤ s.rcv.completed.length → r.Settled k := by
    intro k hk
    rcases hsettles.ends with ⟨hstage, same⟩ | ⟨-, hl⟩ | ⟨-, hl⟩
    · rcases Nat.lt_or_eq_of_le hk with hlt | heq
      · exact Or.inr (Or.inl (by rw [same.completed_eq]; exact hlt))
      · exact Or.inr (Or.inr ⟨by rw [same.completed_eq]; exact heq, f, hstage⟩)
    · left
      rw [hl]
      exact List.append_ne_nil_of_right_ne_nil _ (List.cons_ne_nil _ _)
    · left
      rw [hl]
      exact List.append_ne_nil_of_right_ne_nil _ (List.cons_ne_nil _ _)
  have hbound : ∀ k, s.rcv.Decided k → k ≤ s.rcv.completed.length := by
    rintro k (hne | hlt | ⟨heq, -⟩)
    · exact absurd hlog hne
    · omega
    · omega
  have hstage : ∀ st, r.pc.stage = st → st = .settled f ∨ st = .outside := by
    intro st hst
    rcases hsettles.ends with ⟨hs, -⟩ | ⟨hs, -⟩ | ⟨hs, -⟩
    · exact Or.inl (hst.symm.trans hs)
    · rw [hs] at hst
      exact Or.inr hst.symm
    · rw [hs] at hst
      exact Or.inr hst.symm
  have hsub : s.rcv.starts ⊆ r.starts := by
    rw [hstarts]
    exact List.subset_append_left _ _
  have hhand : ∀ k, s.rcv.handling = some k → k = s.rcv.completed.length := by
    intro k hk
    unfold RecvState.handling at hk
    split at hk
    · cases hk
      rfl
    · cases hk
  refine h.received hdown ?_ hsub ?_ ?_ ?_ ?_ ?_ ?_
  · intro k hk
    exact ⟨(hnew k (hbound k hk)).decided, rfl⟩
  · intro g hg
    rcases hstage _ hg with hs | hs <;> cases hs
  · intro g resp off' hg
    rcases hstage _ hg with hs | hs <;> cases hs
  · intro st hst
    rw [hstarts] at hst
    rcases List.mem_append.mp hst with hst | hst
    · obtain ⟨hset, hex⟩ := h.starts_ok st hst
      exact ⟨hnew _ (hbound _ hset.decided), hex⟩
    · rw [List.mem_singleton.mp hst]
      exact ⟨hnew _ (Nat.le_refl _), hfile⟩
  · rw [hstarts]
    refine List.pairwise_append.mpr ⟨h.starts_once, List.pairwise_singleton _ _, ?_⟩
    intro a ha b hb
    rw [List.mem_singleton.mp hb]
    intro heq
    have := (h.starts_ok a ha).1
    rw [show a.file = s.rcv.completed.length from heq] at this
    exact hnot this
  · intro p hp htype k hk
    rw [hhand k hk]
    exact ⟨(hnew _ (Nat.le_refl _)).decided, hresp p hp htype⟩
  · intro p hp htype k hk
    rw [hhand k hk]
    exact ⟨(hnew _ (Nat.le_refl _)).decided, hreply p hp htype⟩

/-- The receiver's CRC of the window a VERIFY request names. -/
theorem verifyVerdict_ok (hp : StandardProvider c.rcv.provider) (hrcv : c.rcv.cfg.Accepted)
    {mtu size : Nat} {existing : Option Bytes} {file content : Bytes}
    (hask : Asked c size existing file)
    (h : (verifyVerdict c.rcv mtu file (serializeVerifyRequest
      ⟨file.length - verifyLength c.rcv.cfg.resume file.length,
        (crc32 (tailWindow c.rcv.cfg.resume file.length content)).toNat,
        verifyLength c.rcv.cfg.resume file.length⟩)).1 = .ok) :
    crc32 (tailWindow c.rcv.cfg.resume file.length file)
      = crc32 (tailWindow c.rcv.cfg.resume file.length content) := by
  have hm : mismatchStatus c.rcv ≠ .ok := by
    rcases mismatchStatus_cases c.rcv with hm | hm
    all_goals
      rw [hm]
      decide
  unfold verifyVerdict at h
  rw [deserialize_serializeVerifyRequest (verifyRequest_fits hrcv hask.lt _)] at h
  dsimp only at h
  split at h
  · rename_i crc hcrc
    have hcrc' := crc32Region_window hp hask.rcv_lands hcrc
    by_cases heq : crc.toNat = (crc32 (tailWindow c.rcv.cfg.resume file.length content)).toNat
    · rw [show crc32 (tailWindow c.rcv.cfg.resume file.length file) = crc from hcrc'.symm]
      exact UInt32.toNat_inj.mp heq
    · rw [if_neg heq] at h
      exact absurd h hm
  · exact absurd h hm

/-- **A step of the receiver** keeps the agreement. -/
theorem Agreed.answered (h : Agreed c batch D s) (hsync : Sync c (script [batch]) s)
    (hone : OneCall s) (hstamp : Stamped s) (hp : StandardProvider c.rcv.provider)
    (hrcv : c.rcv.cfg.Accepted) (hbusy : s.rcv.pc ≠ .idle) {fr : Option Frame}
    {r : List Send × RecvState} {down : List Item} (hdown : down ⊆ s.toRcv)
    (hlands : fr ≠ none → ∀ f file, s.rcv.pc.phase = .file f →
      s.rcv.files f.path = some file → c.rcv.cfg.resume.mode = .tail → file.length ≤ f.size →
      file.length < 2 ^ 63 →
      SeekLands c.snd.cfg.longBits (file.length - verifyLength c.rcv.cfg.resume file.length)
      ∧ SeekLands c.rcv.cfg.longBits (file.length - verifyLength c.rcv.cfg.resume file.length))
    (hhead : ∀ frame, fr = some frame → ∃ it ∈ s.toRcv, frame = it.send.frame)
    (hstep : NegRecv c.rcv s.rcv fr r) :
    ∃ D', Agreed c batch D' ({ s with toRcv := down }.answered r) := by
  have hlog := hone.rcv_busy hbusy
  have hhand : ∀ {k}, s.rcv.handling = some k → k = s.rcv.completed.length := by
    intro k hk
    unfold RecvState.handling at hk
    split at hk
    · cases hk
      rfl
    · cases hk
  -- a step that neither decides nor settles anything
  have hkeep : ∀ {sends : List Send} {r : RecvState},
      (∀ p ∈ sends, p.type.isNegotiation = false) → (∀ k, s.rcv.Decided k → r.Decided k) →
      (∀ k, s.rcv.Settled k → r.Settled k) → r.starts = s.rcv.starts →
      (∀ f, r.pc.stage = .undecided f → r.files f.path = D r.completed.length) →
      (∀ f resp off, r.pc.stage = .verifying f resp off → r.files f.path = D r.completed.length
        ∧ AskOk c batch (D r.completed.length) r.completed.length resp off) →
      ∃ D', Agreed c batch D' ({ s with toRcv := down }.answered (sends, r)) := by
    intro sends r hsends hdec hset hst hlocal hverify
    refine ⟨D, h.received hdown (fun k hk => ⟨hdec k hk, rfl⟩) (by rw [hst]; exact fun _ hx => hx)
      hlocal hverify ?_ (by rw [hst]; exact h.starts_once) ?_ ?_⟩
    · intro st hmem
      rw [hst] at hmem
      exact ⟨hset _ (h.starts_ok st hmem).1, (h.starts_ok st hmem).2⟩
    · intro p hpmem htype
      have := hsends p hpmem
      rw [htype] at this
      cases this
    · intro p hpmem htype
      have := hsends p hpmem
      rw [htype] at this
      cases this
  -- the file is not settled before its stage says so
  have hunsettled : (∀ f, s.rcv.pc.stage ≠ .settled f) →
      ¬ s.rcv.Settled s.rcv.completed.length := by
    rintro hno (hne | hlt | ⟨-, f, hf⟩)
    · exact hne hlog
    · omega
    · exact hno f hf
  cases hstep with
  | @keep sends s' stage_eq same starts_eq files_eq sends_ok =>
      refine hkeep sends_ok ?_ ?_ starts_eq ?_ ?_
      · intro k hk
        unfold RecvState.Decided
        rw [stage_eq, same.log_eq, same.completed_eq]
        exact hk
      · intro k hk
        unfold RecvState.Settled
        rw [stage_eq, same.log_eq, same.completed_eq]
        exact hk
      · intro f hf
        rw [files_eq, same.completed_eq]
        exact h.rcv_local f (stage_eq.symm.trans hf)
      · intro f resp off hf
        rw [files_eq, same.completed_eq]
        exact h.rcv_verify f resp off (stage_eq.symm.trans hf)
  | @opens payload hstage =>
      -- the local file behind the new target path
      set k := s.rcv.completed.length with hk
      set f := s.rcv.incomingFile c.rcv payload
      have hdec : ∀ j, s.rcv.Decided j → j < k := by
        rintro j (hne | hlt | ⟨-, ⟨_, _, _, hs⟩ | ⟨_, hs⟩⟩)
        · exact absurd hlog hne
        · exact hlt
        · rw [hstage] at hs
          cases hs
        · rw [hstage] at hs
          cases hs
      have hstage' : (s.rcv.acceptMeta c.rcv payload).pc.stage = .undecided f := by
        unfold RecvState.acceptMeta
        dsimp only
        split <;> rfl
      refine ⟨Function.update D k (s.rcv.files f.path),
        h.received hdown ?_ (fun _ hx => hx) ?_ ?_ ?_ h.starts_once ?_ ?_⟩
      · intro j hj
        have hlt := hdec j hj
        exact ⟨Or.inr (Or.inl hlt), Function.update_of_ne (by omega) _ _⟩
      · intro g hg
        rw [hstage'] at hg
        cases hg
        show s.rcv.files f.path = Function.update D k (s.rcv.files f.path) k
        rw [Function.update_self]
      · intro g resp off hg
        rw [hstage'] at hg
        cases hg
      · intro st hmem
        obtain ⟨hset, hex⟩ := h.starts_ok st hmem
        have hlt := hdec _ hset.decided
        exact ⟨Or.inr (Or.inl hlt), by rw [Function.update_of_ne (by omega)]; exact hex⟩
      · exact fun p hpmem => absurd hpmem List.not_mem_nil
      · exact fun p hpmem => absurd hpmem List.not_mem_nil
  | @repeats f resp off hstage =>
      obtain ⟨hfile, hask⟩ := h.rcv_verify f resp off hstage
      refine ⟨D, h.received hdown (fun k hk => ⟨hk, rfl⟩) (fun _ hx => hx) h.rcv_local
        h.rcv_verify h.starts_ok h.starts_once ?_ ?_⟩
      · intro p hpmem _ k hk
        rw [List.mem_singleton.mp hpmem, hhand hk]
        exact ⟨Or.inr (Or.inr ⟨rfl, Or.inl ⟨f, resp, off, hstage⟩⟩),
          Or.inr (Or.inr ⟨resp, off, rfl, hask⟩)⟩
      · intro p hpmem htype
        rw [List.mem_singleton.mp hpmem] at htype
        cases htype
  | @asks f s' hstage hfr hact hstage' same starts_eq files_eq =>
      have hphase : s.rcv.pc.phase = .file f := RecvPc.phase_of_stage (by rw [hstage]; rfl)
      have hlocal := h.rcv_local f hstage
      -- the decision is about the local file
      obtain ⟨file, crc, hex, hpos, hle, hlt, hmode, -, hd⟩ :
          ∃ file crc, s.rcv.files f.path = some file ∧ 0 < file.length ∧ file.length ≤ f.size
            ∧ file.length < 2 ^ 63 ∧ c.rcv.cfg.resume.mode = .tail ∧ True
            ∧ s.rcv.decision c.rcv f = ⟨.verifyFirst, file.length, UInt32.toNat crc,
              verifyLength c.rcv.cfg.resume file.length⟩ := by
        rcases determineResumeAction_cases c.rcv s.rcv.mtu (s.rcv.files f.path) f.size with
          hd | hd | ⟨file, crc, h1, h2, h3, h4, h5, -, hd⟩
        · rw [show s.rcv.decision c.rcv f = _ from hd] at hact
          cases hact
        · rw [show s.rcv.decision c.rcv f = _ from hd] at hact
          cases hact
        · exact ⟨file, crc, h1, h2, h3, h4, h5, trivial, hd⟩
      obtain ⟨hsl, hrl⟩ := hlands hfr f file hphase hex hmode hle hlt
      have hask : AskOk c batch (D s.rcv.completed.length) s.rcv.completed.length
          (s.rcv.decision c.rcv f).wire (s.rcv.decision c.rcv f).offset := by
        refine ⟨file, crc.toNat, ⟨hlocal.symm.trans hex, hpos, ?_, hlt, hsl, hrl⟩, ?_,
          crc.toNat_lt, ?_⟩
        · rw [← recv_size hsync hone hstamp hphase]
          exact hle
        · rw [hd]
        · rw [hd]
      have hdec : s'.Decided s.rcv.completed.length :=
        Or.inr (Or.inr ⟨by rw [same.completed_eq], Or.inl ⟨f, _, _, hstage'⟩⟩)
      refine ⟨D, h.received hdown ?_ (by rw [starts_eq]; exact fun _ hx => hx) ?_ ?_ ?_
        (by rw [starts_eq]; exact h.starts_once) ?_ ?_⟩
      · rintro k (hne | hk | ⟨hk, -⟩)
        · exact absurd hlog hne
        · exact ⟨Or.inr (Or.inl (by rw [same.completed_eq]; exact hk)), rfl⟩
        · rw [hk]
          exact ⟨hdec, rfl⟩
      · intro g hg
        rw [hstage'] at hg
        cases hg
      · intro g resp off hg
        rw [hstage'] at hg
        cases hg
        rw [files_eq, same.completed_eq]
        exact ⟨hlocal, hask⟩
      · intro st hmem
        rw [starts_eq] at hmem
        obtain ⟨hset, hex'⟩ := h.starts_ok st hmem
        refine ⟨?_, hex'⟩
        rcases hset with hne | hk | ⟨-, g, hg⟩
        · exact absurd hlog hne
        · exact Or.inr (Or.inl (by rw [same.completed_eq]; exact hk))
        · rw [hstage] at hg
          cases hg
      · intro p hpmem _ k hk
        rw [List.mem_singleton.mp hpmem, hhand hk]
        exact ⟨hdec, Or.inr (Or.inr ⟨_, _, rfl, hask⟩)⟩
      · intro p hpmem htype
        rw [List.mem_singleton.mp hpmem] at htype
        cases htype
  | @decides f off sends s' hstage hdec settles sends_ok =>
      refine ⟨D, h.settled hlog hdown (h.rcv_local f hstage)
        (hunsettled (by rw [hstage]; exact nofun)) settles ?_ ?_⟩
      · intro p hpmem htype
        rcases List.mem_cons.mp hpmem with rfl | hpmem
        · rcases hdec with ⟨hd, rfl⟩ | ⟨hd, -⟩
          · left
            rw [hd]
            exact ⟨rfl, settles.chose⟩
          · rw [hd]
            exact Or.inr (Or.inl rfl)
        · have := sends_ok p hpmem
          rw [htype] at this
          cases this
      · intro p hpmem htype
        rcases List.mem_cons.mp hpmem with rfl | hpmem
        · cases htype
        · have := sends_ok p hpmem
          rw [htype] at this
          cases this
  | @presumes f sends s' hstage settles sends_ok =>
      refine ⟨D, h.settled hlog hdown (h.rcv_local f hstage)
        (hunsettled (by rw [hstage]; exact nofun)) settles ?_ ?_⟩
      all_goals
        intro p hpmem htype
        have := sends_ok p hpmem
        rw [htype] at this
        cases this
  | @verdict f resp file resumeOff off frame p sends s' hstage hfr hp' htype hfile hoff settles
      sends_ok =>
      obtain ⟨hlocal, asked, crc₀, hask, hresume, -, -⟩ := h.rcv_verify f resp resumeOff hstage
      have hphase : s.rcv.pc.phase = .file f := RecvPc.phase_of_stage (by rw [hstage]; rfl)
      have hsame : asked = file := by
        have := hlocal.symm.trans hfile
        rw [hask.existing_eq] at this
        exact Option.some.inj this
      subst hsame
      -- the request was sent for this file
      obtain ⟨it, hmem, rfl⟩ := hhead frame hfr
      have hnamed : it.send.type.isNamed = true := by
        obtain ⟨e, -, hreq⟩ := hsync.req_fits it hmem
        exact hreq.named
      have hit : it.send.type = .verify := by
        rw [← Send.frame_type hnamed, ← controlFrame_type hp', htype]
      obtain ⟨j, hj, hjturn⟩ := hstamp.req_file it hmem (by rw [hit]; rfl)
      have hjk : j = s.rcv.completed.length := by
        have h1 : it.turn = s.rcv.turn := (hsync.turns.inside_turn ⟨f, hphase⟩).2 it hmem
        have h2 := hstamp.rcv_turn hlog
          ((hsync.rcv_at (hsync.rcv_busy hbusy)).file_done f hphase)
        omega
      subst hjk
      obtain ⟨-, endOff, payload, hsend, file', src, content, hask', hsrc, hcontent, -, hpay⟩ :=
        h.req_ok it hmem hit _ hj
      have hsame : file' = asked := by
        have := hask'.existing_eq
        rw [hask.existing_eq] at this
        exact (Option.some.inj this).symm
      subst hsame
      have hpayload : p.payload = payload := by
        rw [hsend] at hp'
        refine ((sendVerify_raw ?_).controlFrame hp').2.1
        rw [hpay, serializeVerifyRequest_length]
        decide
      have hchose := settles.chose
      refine ⟨D, h.settled hlog hdown hlocal (hunsettled (by rw [hstage]; exact nofun)) settles
        ?_ ?_⟩
      · intro q hq ht
        rcases List.mem_cons.mp hq with rfl | hq
        · cases ht
        · have := sends_ok q hq
          rw [ht] at this
          cases this
      · intro q hq ht
        rcases List.mem_cons.mp hq with rfl | hq
        · refine ⟨_, _, rfl, ?_⟩
          rcases hoff with ⟨hok, hoff⟩ | ⟨hskip, -⟩ | ⟨hbad, hoff⟩
          · right
            right
            rw [hoff, hresume] at hchose
            rw [hpayload, hpay] at hok
            exact ⟨by rw [hpayload, hpay]; exact hok, file', src, content, hask.existing_eq, hsrc,
              hcontent, hchose, verifyVerdict_ok hp hrcv hask hok⟩
          · exact Or.inl hskip
          · rw [hoff] at hchose
            exact Or.inr (Or.inl ⟨hbad, hchose⟩)
        · have := sends_ok q hq
          rw [ht] at this
          cases this
  | @gone f resp resumeOff hstage hfile =>
      obtain ⟨hlocal, asked, crc₀, hask, -⟩ := h.rcv_verify f resp resumeOff hstage
      rw [hfile, hask.existing_eq] at hlocal
      cases hlocal
  | @leaves sends s' hstage' starts_eq sends_ok hleft =>
      -- what is behind the receiver stays so, and outside a file nothing else is known
      have hpast : ∀ {k : Nat} {here here' : Prop}, (here → s.rcv.pc.stage ≠ .outside) →
          s.rcv.log ≠ [] ∨ k < s.rcv.completed.length ∨ k = s.rcv.completed.length ∧ here →
          s'.log ≠ [] ∨ k < s'.completed.length ∨ k = s'.completed.length ∧ here' := by
        rintro k here here' hin (hne | hk | ⟨hk, hs⟩)
        · exact absurd hlog hne
        · rcases hleft with hl | ⟨f, hf, m, hm⟩ | ⟨-, hm, -⟩
          · exact Or.inl (by rw [hlog] at hl; exact hl)
          · exact Or.inr (Or.inl (by rw [hm, List.length_append]; omega))
          · exact Or.inr (Or.inl (by rw [hm]; exact hk))
        · rcases hleft with hl | ⟨f, hf, m, hm⟩ | ⟨ho, -, -⟩
          · exact Or.inl (by rw [hlog] at hl; exact hl)
          · exact Or.inr (Or.inl (by rw [hm, List.length_append, List.length_singleton]; omega))
          · exact absurd ho (hin hs)
      refine hkeep sends_ok (fun k => hpast ?_) (fun k => hpast ?_) starts_eq
        (by rw [hstage']; exact nofun) (by rw [hstage']; exact nofun)
      · rintro (⟨_, _, _, hs⟩ | ⟨_, hs⟩)
        all_goals
          rw [hs]
          exact nofun
      · rintro ⟨_, hs⟩
        rw [hs]
        exact nofun

/-! ## §4. The sender's steps. -/

/-- What the sender can make of what it hears about file `k`. -/
inductive Heard (c : SessionParams) (batch : List SourceFile) (existing : Option Bytes)
    (r : RecvState) (k : Nat) (content : Bytes) : ResumeOutcome → Prop where
  | zero (hch : r.Chose k 0) : Heard c batch existing r k content (.start 0)
  | skip : Heard c batch existing r k content .skip
  | fail (st : Status) : Heard c batch existing r k content (.fail st)
  | verify {endOff : Nat} {payload : Bytes} (hdec : r.Decided k)
      (hreq : RequestOk c batch existing k endOff payload) :
      Heard c batch existing r k content (.verify endOff payload)
  | resume {file : Bytes} {src : SourceFile} (hex : existing = some file)
      (hsrc : batch[k]? = some src) (hcontent : src.content = some content)
      (hch : r.Chose k file.length)
      (hcrc : crc32 (tailWindow c.rcv.cfg.resume file.length file)
        = crc32 (tailWindow c.rcv.cfg.resume file.length content)) :
      Heard c batch existing r k content (.start file.length)

/-- A RESUME_RESP, as the sender reads it. -/
theorem RespOk.heard (hp : StandardProvider c.snd.provider) (hrcv : c.rcv.cfg.Accepted)
    {existing : Option Bytes} {r : RecvState} {k mtu : Nat} {p : Send} {q : Packet}
    {src : SourceFile} {content : Bytes} (hsrc : batch[k]? = some src)
    (hcontent : src.content = some content) (hdec : r.Decided k)
    (h : RespOk c batch existing r k p)
    (hq : controlFrame mtu wireResumeRespSize p.frame = .ok q) :
    Heard c batch existing r k content (onResumeResp c.snd mtu content q.payload) := by
  rcases h with ⟨rfl, hch⟩ | rfl | ⟨resp, off, rfl, file, crc, hask, -, hcrc, rfl⟩
  · rw [((sendResumeResp_raw _).controlFrame hq).2.1]
    show Heard c batch existing r k content
      (onResumeResp c.snd mtu content ResumeDecision.startZero.wire)
    rw [onResumeResp_startZero]
    exact .zero hch
  · rw [((sendResumeResp_raw _).controlFrame hq).2.1]
    show Heard c batch existing r k content
      (onResumeResp c.snd mtu content ResumeDecision.skipFile.wire)
    rw [onResumeResp_skipFile]
    exact .skip
  -- a tail to verify: the sender computes its own CRC over the same window
  · have hsize : sizeAt batch k = content.length := by
      unfold sizeAt
      rw [hsrc]
      show (src.content.getD []).length = _
      rw [hcontent, Option.getD_some]
    have hle := hask.le
    rw [hsize] at hle
    obtain ⟨hpos, hwin⟩ := verifyLength_bounds c.rcv.cfg.resume hask.pos
    rw [((sendResumeResp_raw _).controlFrame hq).2.1]
    show Heard c batch existing r k content (onResumeResp c.snd mtu content
      (ResumeDecision.mk .verifyFirst file.length crc
        (verifyLength c.rcv.cfg.resume file.length)).wire)
    rw [onResumeResp_verifyFirst c.snd mtu hle hask.lt hcrc hpos hwin (verifyLength_lt hrcv _)]
    split
    · exact .fail _
    · rename_i own hown
      refine .verify hdec ⟨file, src, content,
        ⟨hask.existing_eq, hask.pos, hle, hask.lt, hask.snd_lands, hask.rcv_lands⟩, hsrc,
        hcontent, rfl, ?_⟩
      rw [crc32Region_window hp hask.snd_lands hown]
      rfl

/-- The result of a VERIFY, as the sender reads it. -/
theorem ReplyOk.heard {existing : Option Bytes} {r : RecvState} {k mtu endOff : Nat} {p : Send}
    {q : Packet} {payload content : Bytes} {src : SourceFile} (hsrc : batch[k]? = some src)
    (hcontent : src.content = some content)
    (hreq : RequestOk c batch existing k endOff payload)
    (h : ReplyOk c batch existing r k p) (hq : controlFrame mtu 32 p.frame = .ok q) :
    Heard c batch existing r k content (onVerifyResult endOff q.payload) := by
  obtain ⟨st, crc, rfl, hst⟩ := h
  rw [((sendVerifyResult_raw st crc).controlFrame hq).2.1]
  show Heard c batch existing r k content
    (onVerifyResult endOff (serializeVerifyResponse st crc))
  rcases hst with rfl | ⟨rfl, hch⟩ | ⟨rfl, file, src', content', hex, hsrc', hcontent', hch, hcrc⟩
  · rw [onVerifyResult_verdict _ _ (Or.inr (Or.inl rfl))]
    exact .skip
  · rw [onVerifyResult_verdict _ _ (Or.inr (Or.inr rfl))]
    exact .zero hch
  · rw [onVerifyResult_verdict _ _ (Or.inl rfl)]
    rw [hsrc] at hsrc'
    cases hsrc'
    rw [hcontent] at hcontent'
    cases hcontent'
    obtain ⟨file', _, _, hask, -, -, rfl, -⟩ := hreq
    rw [hask.existing_eq] at hex
    cases hex
    exact .resume hask.existing_eq hsrc hcontent hch hcrc

/-- What the sender hears was said about its file. -/
theorem Agreed.hears (h : Agreed c batch D s) (hsync : Sync c (script [batch]) s)
    (hone : OneCall s) (hstamp : Stamped s) (hp : StandardProvider c.snd.provider)
    (hrcv : c.rcv.cfg.Accepted) {fr : Option Frame}
    (hhead : ∀ frame, fr = some frame → ∃ it ∈ s.toSnd, frame = it.send.frame)
    {content : Bytes} {o : ResumeOutcome} (ho : s.snd.Hears c.snd fr content o) :
    Heard c batch (D s.snd.idx) s.rcv s.snd.idx content o := by
  -- an item the sender takes in the exchange of file `idx` belongs to that file
  have hfile : s.snd.pc.exchange = some .file → ∀ it ∈ s.toSnd,
      it.send.type.isFileReply = true → it.file = some s.snd.idx := by
    intro hex it hit htype
    obtain ⟨j, hj, hjturn⟩ := hstamp.rep_file it hit htype
    have hbusy : s.snd.pc ≠ .idle := fun hidle => by rw [hidle] at hex; cases hex
    have hitturn : it.turn = s.snd.turn := hsync.turns.up_turn it hit
    have hturn := hstamp.snd_turn (hone.snd_busy hbusy)
    rw [if_pos ((hsync.snd_at (hsync.snd_busy hbusy)).file_ok hex).2] at hturn
    rw [hj, show j = s.snd.idx by omega]
  have htypes : ∀ {it : Item} {mtu cap : Nat} {q : Packet}, it ∈ s.toSnd →
      controlFrame mtu cap it.send.frame = .ok q → it.send.type = q.type := by
    intro it mtu cap q hit hq
    rw [controlFrame_type hq, Send.frame_type (hsync.rep_named it hit)]
  cases ho with
  | @resp n f p hpc hfr hq htype =>
      obtain ⟨it, hit, rfl⟩ := hhead f hfr
      obtain ⟨src, hsrc, hread⟩ := h.snd_content content (by rw [hpc]; rfl)
      have hty := (htypes hit hq).trans htype
      have hk := hfile (by rw [hpc]; rfl) it hit (by rw [hty]; rfl)
      obtain ⟨hdec, hok⟩ := h.resp_ok it hit hty _ hk
      exact hok.heard hp hrcv hsrc (SourceFile.readable_spec hread).1 hdec hq
  | @verdict n endOff payload f p hpc hfr hq htype =>
      obtain ⟨it, hit, rfl⟩ := hhead f hfr
      obtain ⟨src, hsrc, hread⟩ := h.snd_content content (by rw [hpc]; rfl)
      have hty := (htypes hit hq).trans htype
      have hk := hfile (by rw [hpc]; rfl) it hit (by rw [hty]; rfl)
      obtain ⟨-, hok⟩ := h.reply_ok it hit hty _ hk
      exact hok.heard hsrc (SourceFile.readable_spec hread).1
        (h.snd_verify content n endOff payload hpc).2 hq

/-- **A step of the sender** keeps the agreement. -/
theorem Agreed.sent (h : Agreed c batch D s) (hsync : Sync c (script [batch]) s)
    (hone : OneCall s) (hstamp : Stamped s) (hp : StandardProvider c.snd.provider)
    (hrcv : c.rcv.cfg.Accepted) {fr : Option Frame} {r : List Send × SendState}
    {up : List Item} {calls : List (List SourceFile)} (hup : up ⊆ s.toSnd)
    (hhead : ∀ frame, fr = some frame → ∃ it ∈ s.toSnd, frame = it.send.frame)
    (hbatch : r.2.pc ≠ .idle → r.2.batch = batch) (hstep : NegSend c.snd s.snd fr r) :
    Agreed c batch D ({ s with toSnd := up, sndCalls := calls }.sent r) := by
  -- what the sender hears was answered by the receiver, about the same file
  have hears := fun {content : Bytes} {o : ResumeOutcome} =>
    @Agreed.hears c batch D s h hsync hone hstamp hp hrcv fr hhead content o
  have hverify : ∀ content n endOff payload, r.2.pc = .verifyWait content n endOff payload →
      s.rcv.Decided r.2.idx ∧ RequestOk c batch (D r.2.idx) r.2.idx endOff payload := by
    intro content n endOff payload hpc
    obtain ⟨hidx, hcase⟩ := hstep.verify_pc content n endOff payload hpc
    rw [hidx]
    rcases hcase with ⟨n', hpc'⟩ | hh
    · exact h.snd_verify content n' endOff payload hpc'
    · cases hears hh with
      | verify hdec hreq => exact ⟨hdec, hreq⟩
  exact
    { snd_content := by
        intro content hc
        rcases hstep.content_pc content hc with ⟨hold, -, hidx⟩ | ⟨f, hf, hread⟩
        · show ∃ f, batch[r.2.idx]? = some f ∧ f.readable = some content
          rw [hidx]
          exact h.snd_content content hold
        · have hbusy : r.2.pc ≠ .idle := by
            intro hidle
            replace hc : r.2.pc.content = some content := hc
            rw [hidle] at hc
            cases hc
          rw [hbatch hbusy] at hf
          exact ⟨f, hf, hread⟩
      rcv_local := h.rcv_local
      rcv_verify := h.rcv_verify
      starts_ok := h.starts_ok
      starts_once := h.starts_once
      resp_ok := fun it hit => h.resp_ok it (hup hit)
      reply_ok := fun it hit => h.reply_ok it (hup hit)
      req_ok := by
        intro it hit htype k hk
        rcases List.mem_append.mp hit with hit | hit
        · exact h.req_ok it hit htype k hk
        · obtain ⟨hmem, -, hfile⟩ := mem_stamped hit
          -- a VERIFY request goes out where the sender then waits for the verdict
          obtain ⟨content, n, endOff, payload, hpc, hsend⟩ := hstep.verify_sent _ hmem htype
          rw [hfile] at hk
          cases hk
          obtain ⟨hdec, hreq⟩ := hverify content n endOff payload hpc
          exact ⟨hdec, endOff, payload, hsend, hreq⟩
      snd_verify := hverify
      agreed := by
        intro e he hlt
        rcases hstep.starts with heq | ⟨content, off, heq, hh⟩
        · refine h.agreed e ?_ hlt
          rw [← heq]
          exact he
        · -- a new start: it is the one that the answer has settled
          replace he : e ∈ r.2.starts := he
          rw [heq] at he
          rcases List.mem_append.mp he with he | he
          · exact h.agreed e he hlt
          · rw [List.mem_singleton.mp he] at hlt ⊢
            rcases hh with hh | ⟨-, hoff⟩
            · cases hears hh with
              | zero hch =>
                  obtain ⟨st, hmem, hfile, hoff⟩ := hch
                  exact ⟨st, hmem, hfile, hoff, fun hpos => absurd hpos (Nat.lt_irrefl 0)⟩
              | @resume file src hex hsrc hcontent hch hcrc =>
                  obtain ⟨st, hmem, hfile, hoff⟩ := hch
                  refine ⟨st, hmem, hfile, hoff, fun _ => ⟨file, src, content, ?_, rfl, hsrc,
                    hcontent, hcrc⟩⟩
                  rw [(h.starts_ok st hmem).2, hfile, hex]
            · rw [hoff] at hlt
              exact absurd hlt (Nat.lt_irrefl _) }

/-! ## §5. Every run. -/

/-- **Step lemma.** -/
theorem agreed_step {s' : SessionSys} {l : SessionLabel} (hv : c.rcv.validator = none)
    (hps : StandardProvider c.snd.provider) (hpr : StandardProvider c.rcv.provider)
    (hrcv : c.rcv.cfg.Accepted) (hsync : Sync c (script [batch]) s) (hone : OneCall s)
    (hstamp : Stamped s) (hb : s'.sndBatches = [batch]) (hone' : OneCall s')
    (h : Agreed c batch D s) (hlands : WindowLands c s l) (hstep : s.step c l = some s') :
    ∃ D', Agreed c batch D' s' := by
  have hbatch : s'.snd.pc ≠ .idle → s'.snd.batch = batch := by
    intro hbusy
    unfold SessionSys.sndBatches at hb
    rw [hone'.snd_busy hbusy, if_neg hbusy, List.map_nil, List.nil_append,
      List.singleton_append] at hb
    exact (List.cons.inj hb).1
  cases SessionSys.step_inv hstep with
  | @sndCall batch' rest hcalls hidle =>
      exact ⟨D, @Agreed.sent c batch D s h hsync hone hstamp hps hrcv none _ s.toSnd rest
        (fun _ hx => hx) nofun hbatch (SendState.call_neg c.snd s.snd batch')⟩
  | @rcvCall dir rest hcalls hidle =>
      -- nothing of a file has happened yet
      have hlog := hone.rcv_next (by rw [hcalls]; exact nofun)
      have hstage : ∀ st, (s.rcv.call c.rcv dir).pc.stage = st → st = .outside := by
        intro st hst
        unfold RecvState.call at hst
        dsimp only at hst
        rw [← hst]
        split <;> rfl
      have hold : s.rcv.pc.stage = .outside := by rw [hidle]; rfl
      have hdec : ∀ k, s.rcv.Decided k → (s.rcv.call c.rcv dir).Decided k := by
        rintro k (hne | hk | ⟨-, ⟨_, _, _, hs⟩ | ⟨_, hs⟩⟩)
        · exact absurd hlog hne
        · exact Or.inr (Or.inl hk)
        · rw [hold] at hs
          cases hs
        · rw [hold] at hs
          cases hs
      have hset : ∀ k, s.rcv.Settled k → (s.rcv.call c.rcv dir).Settled k := by
        rintro k (hne | hk | ⟨-, _, hs⟩)
        · exact absurd hlog hne
        · exact Or.inr (Or.inl hk)
        · rw [hold] at hs
          cases hs
      refine ⟨D, h.snd_content, ?_, ?_, ?_, h.starts_once, ?_, ?_, ?_, ?_, h.agreed⟩
      · intro f hf
        cases hstage _ hf
      · intro f resp off hf
        cases hstage _ hf
      · intro st hmem
        exact ⟨hset _ (h.starts_ok st hmem).1, (h.starts_ok st hmem).2⟩
      · intro it hit ht k hk
        exact ⟨hdec k (h.resp_ok it hit ht k hk).1, (h.resp_ok it hit ht k hk).2⟩
      · intro it hit ht k hk
        exact ⟨hdec k (h.reply_ok it hit ht k hk).1, (h.reply_ok it hit ht k hk).2⟩
      · intro it hit ht k hk
        exact ⟨hdec k (h.req_ok it hit ht k hk).1, (h.req_ok it hit ht k hk).2⟩
      · intro content n endOff payload hpc
        obtain ⟨hd, hreq⟩ := h.snd_verify content n endOff payload hpc
        exact ⟨hdec _ hd, hreq⟩
  | @sndRecv it rest hchan hbusy =>
      refine ⟨D, h.sent hsync hone hstamp hps hrcv ?_ ?_ hbatch
        (SendState.onFrame_neg c.snd s.snd it.send.frame)⟩
      · rw [hchan]
        exact List.subset_cons_self _ _
      · rintro _ ⟨⟩
        exact ⟨it, by rw [hchan]; exact List.mem_cons_self .., rfl⟩
  | @sndTimeout timer hbusy =>
      exact ⟨D, @Agreed.sent c batch D s h hsync hone hstamp hps hrcv none _ s.toSnd s.sndCalls
        (fun _ hx => hx) nofun hbatch (SendState.onTimeout_neg c.snd s.snd timer)⟩
  | @rcvRecv it rest fs hchan hbusy =>
      refine h.answered hsync hone hstamp hpr hrcv hbusy ?_ (fun _ => hlands) ?_
        (RecvState.onFrame_neg hv s.rcv it.send.frame fs)
      · rw [hchan]
        exact List.subset_cons_self _ _
      · rintro _ ⟨⟩
        exact ⟨it, by rw [hchan]; exact List.mem_cons_self .., rfl⟩
  | @rcvTimeout timer fs hbusy =>
      exact @Agreed.answered c batch D s h hsync hone hstamp hpr hrcv hbusy none _ s.toRcv
        (fun _ hx => hx) (fun hne => absurd rfl hne) nofun
        (RecvState.onTimeout_neg hv s.rcv timer fs)
  | lose hl hrcv' hsnd' =>
      exact ⟨D, h.snd_content, h.rcv_local, h.rcv_verify, h.starts_ok, h.starts_once,
        fun it hit => h.resp_ok it (hsnd'.subset hit),
        fun it hit => h.reply_ok it (hsnd'.subset hit),
        fun it hit => h.req_ok it (hrcv'.subset hit), h.snd_verify, h.agreed⟩

end Agreement

/-- **Resume agreement.**  No validator, the standard CRC-32 on both sides,
one call on each side over channels that lose and delay packets, and windows
whose start the seeks of both sides reach: whenever the sender has entered the
data phase of file `k` at an offset `r` below its size, the receiver has
started its `k`-th file once, at `r`; and `r > 0` only if the local file had
exactly `r` bytes and the CRC-32 of its tail window is the one of the sender's
file. -/
theorem resume_agreement {c : SessionParams} (hrcv : c.rcv.cfg.Accepted)
    (hv : c.rcv.validator = none) (hps : StandardProvider c.snd.provider)
    (hpr : StandardProvider c.rcv.provider) {files : Bytes → Option Bytes}
    {batch : List SourceFile} {dir : Bytes} {s : SessionSys}
    (h : Lts.Reach (SessionSys.step c) (WindowLands c)
      (SessionSys.init c files [batch] [dir]) s) :
    ∀ e ∈ s.snd.starts, e.offset < e.size →
      ∃ st ∈ s.rcv.starts, st.file = e.file ∧ st.offset = e.offset
        ∧ (∀ st' ∈ s.rcv.starts, st'.file = e.file → st' = st)
        ∧ (0 < e.offset → ∃ file src content, st.existing = some file
          ∧ file.length = e.offset ∧ batch[e.file]? = some src ∧ src.content = some content
          ∧ crc32 (tailWindow c.rcv.cfg.resume e.offset file)
            = crc32 (tailWindow c.rcv.cfg.resume e.offset content)) := by
  -- the negotiation invariant on top of the one of isolation
  have hrun : ((Sync c (script [batch]) s ∧ OneCall s ∧ Stamped s) ∧ s.sndBatches = [batch])
      ∧ ∃ D, Agreed c batch D s := by
    refine h.invariant (I := fun s => ((Sync c (script [batch]) s ∧ OneCall s ∧ Stamped s)
      ∧ s.sndBatches = [batch]) ∧ ∃ D, Agreed c batch D s) ?_ ?_
    · refine ⟨⟨single_run hrcv.packetSize_min .refl, rfl⟩, fun _ => none, ?_⟩
      exact ⟨nofun, nofun, nofun, nofun, List.Pairwise.nil, nofun, nofun, nofun, nofun, nofun⟩
    · rintro s l s' ⟨⟨⟨hsync, hone, hst⟩, hb⟩, D, hD⟩ hlands hstep
      have hb' := (calls_step hstep).batches_eq.trans hb
      have hone' := hone.step hstep
      refine ⟨⟨⟨sync_step hsync (hone.callsClean hstep) (hone.eotFresh hsync hstep) hstep, hone',
        stamped_step hst hone hsync hstep⟩, hb'⟩, ?_⟩
      exact agreed_step hv hps hpr hrcv hsync hone hst hb' hone' hD hlands hstep
  obtain ⟨-, D, hD⟩ := hrun
  intro e he hlt
  obtain ⟨st, hmem, hfile, hoff, hcrc⟩ := hD.agreed e he hlt
  refine ⟨st, hmem, hfile, hoff, ?_, hcrc⟩
  intro st' hmem' hfile'
  by_contra hne
  have hsymm : Std.Symm (fun a b : RecvStart => a.file ≠ b.file) := ⟨fun _ _ hab => hab.symm⟩
  exact hD.starts_once.forall hmem' hmem hne (hfile'.trans hfile.symm)

/-- A 64-bit `long` holds every start. -/
theorem windowLands_of_long64 {c : SessionParams} (hs : c.snd.cfg.longBits = 64)
    (hr : c.rcv.cfg.longBits = 64) (s : SessionSys) (l : SessionLabel) : WindowLands c s l := by
  cases l with
  | rcvRecv fs =>
      intro f file _ _ _ _ hlt
      rw [hs, hr]
      have hland : SeekLands 64 (file.length - verifyLength c.rcv.cfg.resume file.length) :=
        fun _ => toSigned_of_lt (by omega)
      exact ⟨hland, hland⟩
  | sndCall | rcvCall | sndRecv | sndTimeout _ | rcvTimeout _ _ | loseToRcv _ | loseToSnd _ =>
      trivial

/-- A local file of two bytes is continued with the third. -/
def tailRun : List SessionLabel :=
  [.sndCall, .rcvCall, .rcvRecv .good, .sndRecv, .rcvRecv .good, .rcvRecv .good, .sndRecv,
    .rcvRecv .good, .sndRecv]

theorem resume_agreement_tail_run :
    ∃ s : SessionSys, Lts.Reach (SessionSys.step tailPair) (WindowLands tailPair)
        (SessionSys.init tailPair halfThere [[⟨[97], some [1, 2, 3]⟩]] [[]]) s
      ∧ ∃ e ∈ s.snd.starts, e.offset = 2 ∧ ∃ st ∈ s.rcv.starts, st.offset = 2 := by
  have hrun : (tailRun.foldlM (Lts.checked (SessionSys.step tailPair) (fun _ _ => true))
      (SessionSys.init tailPair halfThere [[⟨[97], some [1, 2, 3]⟩]] [[]])).map
        (fun s => s.snd.starts) = some [⟨0, 3, 2⟩] := by
    decide +kernel
  obtain ⟨s, hs, hstarts⟩ := Option.map_eq_some_iff.mp hrun
  have hreach := (Lts.Reach.of_foldlM hs).mono
    (fun s l _ => windowLands_of_long64 (c := tailPair) rfl rfl s l)
  have hmem : (⟨0, 3, 2⟩ : SendStart) ∈ s.snd.starts := by
    rw [hstarts]
    exact List.mem_singleton_self _
  obtain ⟨st, hst, -, hoff, -⟩ := resume_agreement (c := tailPair)
    (resumePair_rcv (Or.inr rfl) (by decide) (by decide)) rfl nofun nofun hreach _ hmem (by decide)
  exact ⟨s, hreach, _, hmem, rfl, st, hst, hoff⟩

/-! ## §6. A 32-bit `long`. -/

/-- TAIL with a window of one byte, where `long` has 32 bits. -/
def longPair : SessionParams := resumePair ⟨.tail, 1, 0, false⟩ 32

theorem longPair_window (n : Nat) : verifyLength longPair.rcv.cfg.resume (n + 1) = 1 := by
  have hcap : (if longPair.rcv.cfg.resume.tailCapBytes ≠ 0 then
      longPair.rcv.cfg.resume.tailCapBytes else 8 * 1024 * 1024) = 1 := rfl
  have hmin : longPair.rcv.cfg.resume.minVerifyBytes = 0 := rfl
  rw [verifyLength_eq, hcap, hmin]
  omega

/-- A seek to 2^32 lands at 0, so the first byte is read. -/
theorem crc32Region_wrapped {cfg : Config} (hcfg : 0 < cfg.packetSize) {mtu : Nat}
    {start : Nat} (hstart : toSigned cfg.longBits start = 0) (b : UInt8) (rest : Bytes) :
    crc32Region cfg none mtu (b :: rest) start 1 = .ok (crc32 [b]) := by
  rw [crc32Region_spec standardProvider_none mtu hcfg, hstart]
  rfl

theorem longPair_snd_pos : 0 < longPair.snd.cfg.packetSize := by decide

theorem longPair_rcv_pos : 0 < longPair.rcv.cfg.packetSize := by decide

section WrongWindow

variable {n : Nat}

/-- The local file: zeros, then a one. -/
def zerosThenOne (n : Nat) : Bytes := List.replicate n 0 ++ [1]

def zeros (n : Nat) : Bytes := List.replicate n 0

theorem zerosThenOne_length (n : Nat) : (zerosThenOne n).length = n + 1 := by
  unfold zerosThenOne
  rw [List.length_append, List.length_replicate, List.length_singleton]

theorem zeros_length (n : Nat) : (zeros n).length = n := List.length_replicate

theorem longPair_wraps (hn : n = 2 ^ 32) : toSigned 32 n = 0 := by
  rw [hn]
  decide

/-- The receiver asks for its last byte, and takes the CRC of its first. -/
theorem longPair_decision (hn : n = 2 ^ 32) (mtu : Nat) :
    determineResumeAction longPair.rcv mtu (some (zerosThenOne n)) (n + 2)
      = ⟨.verifyFirst, n + 1, (crc32 [0]).toNat, 1⟩ := by
  have hsmall : ¬ n + 1 ≥ 2 ^ 63 := by omega
  have hlarge : ¬ n + 1 > n + 2 := by omega
  have hmode : longPair.rcv.cfg.resume.mode = .tail := rfl
  have hthrough : throughLong longPair.rcv.cfg.longBits n = 0 := by
    show throughLong 32 n = 0
    unfold throughLong
    rw [longPair_wraps hn]
    rfl
  have hhead : zerosThenOne n = 0 :: zerosThenOne (n - 1) := by
    obtain ⟨k, rfl⟩ : ∃ k, n = k + 1 := ⟨n - 1, by omega⟩
    rfl
  have hcrc : crc32Region longPair.rcv.cfg longPair.rcv.provider mtu (zerosThenOne n) 0 1
      = .ok (crc32 [0]) := by
    rw [hhead]
    exact crc32Region_wrapped longPair_rcv_pos (by decide) 0 _
  unfold determineResumeAction
  simp only [zerosThenOne_length, hsmall, if_false, hmode, longPair_window]
  rw [if_neg (by omega), if_neg hlarge, Nat.add_sub_cancel, hthrough, hcrc]

/-- The sender takes the CRC of its first byte. -/
theorem longPair_request (hn : n = 2 ^ 32) (mtu : Nat) :
    onResumeResp longPair.snd mtu (zeros (n + 2))
        (ResumeDecision.mk .verifyFirst (n + 1) (crc32 [0]).toNat 1).wire
      = .verify (n + 1) (serializeVerifyRequest ⟨n, (crc32 [0]).toNat, 1⟩) := by
  have hwraps : toSigned longPair.snd.cfg.longBits n = 0 := longPair_wraps hn
  have hcrc : crc32Region longPair.snd.cfg longPair.snd.provider mtu (zeros (n + 2)) n 1
      = .ok (crc32 [0]) :=
    crc32Region_wrapped longPair_snd_pos hwraps 0 (zeros (n + 1))
  rw [onResumeResp_verifyFirst longPair.snd mtu (by rw [zeros_length]; omega) (by omega)
    (crc32 [0]).toNat_lt (by decide) (by omega) (by decide), Nat.add_sub_cancel, hcrc]

/-- And the receiver compares it with its first byte again. -/
theorem longPair_verdict (hn : n = 2 ^ 32) (mtu : Nat) :
    verifyVerdict longPair.rcv mtu (zerosThenOne n)
        (serializeVerifyRequest ⟨n, (crc32 [0]).toNat, 1⟩)
      = (.ok, (crc32 [0]).toNat) := by
  have hfits : (VerifyRequest.mk n (crc32 [0]).toNat 1).Fits := by
    refine ⟨?_, ?_, ?_⟩
    · show n < 256 ^ 8
      omega
    · exact (crc32 [0]).toNat_lt
    · show 1 < 256 ^ 4
      decide
  have hhead : zerosThenOne n = 0 :: zerosThenOne (n - 1) := by
    obtain ⟨k, rfl⟩ : ∃ k, n = k + 1 := ⟨n - 1, by omega⟩
    rfl
  have hwraps : toSigned longPair.rcv.cfg.longBits n = 0 := longPair_wraps hn
  have hcrc : crc32Region longPair.rcv.cfg longPair.rcv.provider mtu (zerosThenOne n) n 1
      = .ok (crc32 [0]) := by
    rw [hhead]
    exact crc32Region_wrapped longPair_rcv_pos hwraps 0 _
  unfold verifyVerdict
  rw [deserialize_serializeVerifyRequest hfits]
  dsimp only
  rw [hcrc]
  dsimp only
  rw [if_pos rfl]

/-- The run: both windows are read at 0, agree, and the sender starts behind
the local file. -/
theorem longPair_leads (hn : n = 2 ^ 32) :
    Leads longPair (SessionSys.init longPair (fun _ => some (zerosThenOne n))
        [[⟨[97], some (zeros (n + 2))⟩]] [[]]).view
      (fun v => v.snd.starts = [⟨0, n + 2, n + 1⟩]) := by
  have hread : (SourceFile.mk [97] (some (zeros (n + 2)))).readable = some (zeros (n + 2)) := by
    refine Option.filter_eq_some_iff.mpr ⟨rfl, decide_eq_true ?_⟩
    rw [zeros_length]
    omega
  have hs : longPair.snd.cfg.Accepted := resumePair_snd _ (Or.inl rfl)
  have hr : longPair.rcv.cfg.Accepted := resumePair_rcv (Or.inl rfl) (by decide) (by decide)
  have hmin := SessionParams.mtu_min hs hr
  refine greet hs hr nofun ?_
  intro snd rcv hsnd hstarts hrcv hrpc
  have hbegin : snd.beginFile longPair.snd
      = ([sendMeta none ⟨[97], some (zeros (n + 2))⟩, sendBare .resumeReq 0],
          { snd with pc := .resumeWait (zeros (n + 2)) longPair.snd.cfg.retries.ackRetries }) := by
    unfold SendState.beginFile
    rw [hsnd.batch_eq, hsnd.idx_eq]
    dsimp only [List.getElem?_cons_zero]
    rw [hread]
    rfl
  rw [hbegin]
  refine Leads.announce hrpc (by rw [hrcv.mtu_eq]; exact hmin) hread ?_
  -- the receiver's view of the file
  have hfile := @RecvState.incomingFile_announced longPair.rcv rcv _ _ hread none
  set f := rcv.incomingFile longPair.rcv
    (serializeMeta ((SourceFile.mk [97] (some (zeros (n + 2)))).announced none)) with hf
  have hsize : f.size = n + 2 := by
    unfold RecvFile.size
    rw [hfile]
    exact zeros_length (n + 2)
  have hex : rcv.files f.path = some (zerosThenOne n) := by rw [hrcv.files_eq]
  have hpath : (rcv.targetPath longPair.rcv f).length < maxPath * 2 + 8 := by
    apply RecvState.targetPath_lt
    · rw [hrcv.dir_eq]
      exact List.length_take_le _ _
    · rw [hfile]
      exact (cleanFilename_clean (baseName [97])).length_le
  have hrmtu : minPacketSize ≤ rcv.mtu := by rw [hrcv.mtu_eq]; exact hmin
  have hsmtu : minPacketSize ≤ snd.mtu := by rw [hsnd.mtu_eq]; exact hmin
  have hdec : determineResumeAction longPair.rcv rcv.mtu (rcv.files f.path) f.size
      = ⟨.verifyFirst, n + 1, (crc32 [0]).toNat, 1⟩ := by
    rw [hex, hsize, hrcv.mtu_eq]
    exact longPair_decision hn _
  have hreq := longPair_request hn snd.mtu
  have hverdict := longPair_verdict hn rcv.mtu
  -- the CRC itself plays no part any more
  generalize (crc32 [0]).toNat = crc at hdec hreq hverdict
  refine Leads.respond (RecvState.acceptMeta_stage longPair.rcv rcv _) rfl hsmtu
    (RecvState.answerResume_asks hdec) hreq rfl ?_
  have hready : SendReady longPair [⟨[97], some (zeros (n + 2))⟩] 0
      { snd with
        pc := .verifyWait (zeros (n + 2)) longPair.snd.cfg.retries.ackRetries (n + 1)
          (serializeVerifyRequest ⟨n, crc, 1⟩) } :=
    ⟨hsnd.mtu_eq, hsnd.batch_eq, hsnd.idx_eq, hsnd.log_eq, hsnd.flow_ok⟩
  have hstart := hready.start_starts (zeros (n + 2)) hmin (show n + 1 < 2 ^ 63 by omega)
  rw [zeros_length] at hstart
  -- what the sender sends now is not looked at
  rcases hout : SendState.onOutcome longPair.snd { snd with
    pc := .verifyWait (zeros (n + 2)) longPair.snd.cfg.retries.ackRetries (n + 1)
      (serializeVerifyRequest ⟨n, crc, 1⟩) } (zeros (n + 2)) (.start (n + 1)) with ⟨out, snd'⟩
  rw [hout] at hstart
  refine Leads.judge rfl hrmtu (serializeVerifyRequest_length _) rfl hsmtu (Or.inl rfl)
    (RecvState.answerVerify_good rfl hpath hex hverdict)
    (onVerifyResult_verdict (n + 1) _ (Or.inl rfl)) hout ?_
  exact Leads.now (hstart.trans (congrArg (· ++ _) hstarts))

end WrongWindow

/-- **The wrong window.**  Both sides seek to 2^32 through a 32-bit `long` and
read their first byte instead of the last one before the offset; the sender
enters the data phase although the windows differ. -/
theorem resume_wrong_window :
    ∃ s : SessionSys, Lts.Reach (SessionSys.step longPair) (fun _ _ => True)
        (SessionSys.init longPair (fun _ => some (zerosThenOne (2 ^ 32)))
          [[⟨[97], some (zeros (2 ^ 32 + 2))⟩]] [[]]) s
      ∧ ∃ e ∈ s.snd.starts, 0 < e.offset ∧ e.offset < e.size
        ∧ crc32 (tailWindow longPair.rcv.cfg.resume e.offset (zerosThenOne (2 ^ 32)))
          ≠ crc32 (tailWindow longPair.rcv.cfg.resume e.offset (zeros (2 ^ 32 + 2))) := by
  suffices H : ∀ n : Nat, n = 2 ^ 32 → ∃ s : SessionSys,
      Lts.Reach (SessionSys.step longPair) (fun _ _ => True)
        (SessionSys.init longPair (fun _ => some (zerosThenOne n))
          [[⟨[97], some (zeros (n + 2))⟩]] [[]]) s
      ∧ ∃ e ∈ s.snd.starts, 0 < e.offset ∧ e.offset < e.size
        ∧ crc32 (tailWindow longPair.rcv.cfg.resume e.offset (zerosThenOne n))
          ≠ crc32 (tailWindow longPair.rcv.cfg.resume e.offset (zeros (n + 2))) from H _ rfl
  intro n hn
  obtain ⟨s, hreach, hstarts⟩ := (longPair_leads hn).reach
  replace hstarts : s.snd.starts = [⟨0, n + 2, n + 1⟩] := hstarts
  refine ⟨s, hreach, ⟨0, n + 2, n + 1⟩, by rw [hstarts]; exact List.mem_singleton_self _,
    Nat.succ_pos n, Nat.lt_succ_self _, ?_⟩
  -- the last byte before `n + 1` is the one, in the sender's file it is a zero
  have hlocal : tailWindow longPair.rcv.cfg.resume (n + 1) (zerosThenOne n) = [1] := by
    unfold tailWindow
    rw [longPair_window, Nat.add_sub_cancel]
    unfold slice zerosThenOne
    rw [List.drop_left' List.length_replicate]
    rfl
  have hremote : tailWindow longPair.rcv.cfg.resume (n + 1) (zeros (n + 2)) = [0] := by
    unfold tailWindow
    rw [longPair_window, Nat.add_sub_cancel]
    unfold slice zeros
    rw [List.drop_replicate, Nat.add_sub_cancel_left]
    rfl
  show crc32 (tailWindow _ (n + 1) _) ≠ crc32 (tailWindow _ (n + 1) _)
  rw [hlocal, hremote]
  decide

end ValProtocol
