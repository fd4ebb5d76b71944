/-
  ValProtocol.Session.Turns
  ─────────────────────────
  No frame carries a file or sequence number, so which exchange a frame
  belongs to rests on FIFO order and on where each side waits.  This module
  makes that precise: the two sessions take turns in the sense of
  `ValProtocol.Lib.Turns`, and each side stands where the script of calls
  says.

    • `sync_step`  — one step of the joint system keeps `Sync`, as long as
      no side calls again after a failed call and the metadata wait takes no
      EOT of an earlier exchange.
-/
import ValProtocol.Lib.Turns
import ValProtocol.Session.System

namespace ValProtocol

/-! ## §1. The invariant. -/

/-- A session item as `Turns` reads it. -/
def itemView : Turns.View Item where
  turn := Item.turn
  opens := fun it => it.send.type = .sendMeta
  closes := fun it => it.send.type.isFinal = true

/-- Is the receiver working on a file? -/
def RecvPhase.InFile (ph : RecvPhase) : Prop := ∃ f, ph = .file f

/-- **The two sessions are in step.** -/
structure Sync (c : SessionParams) (sc : List Exchange) (s : SessionSys) : Prop where
  turns : Turns.Ok itemView s.snd.turn s.rcv.turn s.rcv.pc.phase.InFile s.toRcv s.toSnd
  req_fits : ∀ it ∈ s.toRcv, ∃ e, sc[it.turn]? = some e ∧ e.Request c.snd it.send
  rep_named : ∀ it ∈ s.toSnd, it.send.type.isNamed = true
  /-- between two calls nothing of the next exchange exists yet -/
  snd_idle : s.snd.pc = .idle → s.snd.Clean →
    s.rcv.turn = s.snd.turn ∧ ¬ s.rcv.pc.phase.InFile
      ∧ (∀ it ∈ s.toRcv, it.turn < s.snd.turn) ∧ s.toSnd = []
  snd_busy : s.snd.pc ≠ .idle → s.snd.Clean
  rcv_busy : s.rcv.pc ≠ .idle → s.rcv.Clean
  snd_at : s.snd.Clean → SendAt sc s.snd s.sndCalls
  rcv_at : s.rcv.Clean → RecvAt c.snd sc s.rcv
  mtu_min : minPacketSize ≤ s.rcv.mtu

/-! ## §2. Types on the wire. -/

theorem Send.frame_type {p : Send} (h : p.type.isNamed = true) :
    PacketType.ofByte p.frame.type = p.type :=
  PacketType.ofByte_toByte h

theorem ExchangeKind.request_named {k : ExchangeKind} {t : PacketType}
    (h : k.request t = true) : t.isNamed = true ∧ t ≠ .sendMeta := by
  cases k <;> cases t <;> first | (cases h; done) | exact ⟨rfl, by decide⟩

theorem Exchange.Request.named {env : SendEnv} {e : Exchange} {p : Send}
    (h : e.Request env p) : p.type.isNamed = true := by
  rcases h with h | ⟨f, content, -, -, rfl⟩
  · exact (ExchangeKind.request_named h).1
  · rfl

theorem PacketType.isReply_named {t : PacketType} (h : t.isReply = true) :
    t.isNamed = true ∧ t.isFinal = false := by
  cases t <;> first | (cases h; done) | exact ⟨rfl, rfl⟩

/-- A packet that is not SEND_META tells the kind of its exchange. -/
theorem Exchange.Request.kind {env : SendEnv} {e : Exchange} {p : Send}
    (h : e.Request env p) (hmeta : p.type ≠ .sendMeta) : e.kind.request p.type = true := by
  rcases h with h | ⟨f, content, -, -, rfl⟩
  · exact h
  · exact absurd rfl hmeta

/-! ## §3. Where the sender is. -/

section Sender

variable {sc : List Exchange} {s s' : SendState} {calls : List (List SourceFile)}

theorem drop_cons_getElem? {α : Type} {xs : List α} {n : Nat} {x : α} {rest : List α}
    (h : xs.drop n = x :: rest) : xs[n]? = some x ∧ xs.drop (n + 1) = rest := by
  refine ⟨?_, ?_⟩
  · have h0 : (xs.drop n)[0]? = some x := by rw [h]; rfl
    rwa [List.getElem?_drop, Nat.add_zero] at h0
  · rw [← List.tail_drop, h, List.tail_cons]

/-- The exchange the sender is in, and what follows it. -/
theorem SendAt.current (h : SendAt sc s calls) {k : ExchangeKind}
    (hk : s.pc.exchange = some k) :
    ∃ e, sc[s.turn]? = some e ∧ e.kind = k
      ∧ (k = .hello → sc.drop (s.turn + 1) = callScript s.batch ++ callsScript calls)
      ∧ (k = .file → sc.drop (s.turn + 1)
          = callScript (s.batch.drop (s.idx + 1)) ++ callsScript calls)
      ∧ (k = .eot → sc.drop (s.turn + 1) = callsScript calls) := by
  have hahead := h.ahead_eq
  unfold SendState.ahead at hahead
  rw [hk] at hahead
  cases k with
  | hello =>
      obtain ⟨h1, h2⟩ := drop_cons_getElem? hahead
      exact ⟨.hello, h1, rfl, fun _ => h2, by simp, by simp⟩
  | file =>
      have hlt := (h.file_ok hk).1
      dsimp only at hahead
      rw [List.drop_eq_getElem_cons hlt, callScript, List.map_cons, List.cons_append,
        List.cons_append] at hahead
      obtain ⟨h1, h2⟩ := drop_cons_getElem? hahead
      exact ⟨.file _, h1, rfl, by simp, fun _ => h2, by simp⟩
  | eot =>
      have hle := (h.eot_ok hk).1
      dsimp only at hahead
      rw [List.drop_eq_nil_of_le hle, callScript, List.map_nil, List.nil_append,
        List.singleton_append] at hahead
      obtain ⟨h1, h2⟩ := drop_cons_getElem? hahead
      exact ⟨.eot, h1, rfl, by simp, by simp, fun _ => h2⟩

/-- A step inside an exchange stays at the same place. -/
theorem SendAt.within (h : SendAt sc s calls) (same : s.SameCall s')
    (hk : s'.pc.exchange = s.pc.exchange) : SendAt sc s' calls := by
  refine ⟨?_, ?_, ?_, ?_⟩
  · rw [same.turn_eq, h.ahead_eq]
    unfold SendState.ahead
    rw [hk, same.batch_eq, same.idx_eq, same.done_eq]
  · rw [hk, same.idx_eq, same.done_eq]
    exact h.hello_ok
  · rw [hk, same.idx_eq, same.done_eq, same.batch_eq]
    exact h.file_ok
  · rw [hk, same.idx_eq, same.done_eq, same.batch_eq]
    exact h.eot_ok

end Sender

/-! ## §4. The sender's steps. -/

section SenderSteps

variable {c : SessionParams} {sc : List Exchange} {s : SessionSys}

/-- Stamped packets. -/
theorem mem_stamped {sends : List Send} {turn : Nat} {file : Option Nat} {it : Item}
    (h : it ∈ sends.map (fun p => (⟨p, turn, file⟩ : Item))) :
    it.send ∈ sends ∧ it.turn = turn ∧ it.file = file := by
  obtain ⟨p, hp, rfl⟩ := List.mem_map.mp h
  exact ⟨hp, rfl, rfl⟩

/-- **A new exchange begins**: the sender `s₁` stands at the head of its loop,
nothing of the exchange exists yet. -/
theorem Sync.begin {s₁ : SendState}
    (hturns : Turns.Ok itemView s₁.turn s.rcv.turn s.rcv.pc.phase.InFile s.toRcv s.toSnd)
    (hfits : ∀ it ∈ s.toRcv, ∃ e, sc[it.turn]? = some e ∧ e.Request c.snd it.send)
    (hq : s.rcv.turn = s₁.turn) (hin : ¬ s.rcv.pc.phase.InFile)
    (hold : ∀ it ∈ s.toRcv, it.turn < s₁.turn) (hup : s.toSnd = [])
    (hclean : s₁.Clean) (hdone : s₁.handshakeDone = true)
    (hahead : sc.drop s₁.turn = callScript (s₁.batch.drop s₁.idx) ++ callsScript s.sndCalls)
    (hrbusy : s.rcv.pc ≠ .idle → s.rcv.Clean) (hrat : s.rcv.Clean → RecvAt c.snd sc s.rcv)
    (hmtu : minPacketSize ≤ s.rcv.mtu) :
    Sync c sc (s.sent (s₁.beginFile c.snd)) := by
  have hnamed : ∀ it ∈ s.toSnd, it.send.type.isNamed = true := by
    rw [hup]
    exact fun it hit => absurd hit List.not_mem_nil
  unfold SendState.beginFile
  split
  · -- behind the last file: EOT
    rename_i hnone
    have hle : s₁.batch.length ≤ s₁.idx := List.getElem?_eq_none_iff.mp hnone
    rw [List.drop_eq_nil_of_le hle, callScript, List.map_nil, List.nil_append,
      List.singleton_append] at hahead
    obtain ⟨heot, -⟩ := drop_cons_getElem? hahead
    have hnew : ∀ it ∈ [sendBare .eot 0].map (fun p => (⟨p, s₁.turn, some s₁.idx⟩ : Item)),
        it = ⟨sendBare .eot 0, s₁.turn, some s₁.idx⟩ := by
      intro it hit
      rwa [List.map_singleton, List.mem_singleton] at hit
    exact
      { turns := hturns.send (fun it hit => by rw [hnew it hit]; rfl)
          (fun it hit h => by rw [hnew it hit] at h; cases h)
        req_fits := by
          intro it hit
          rcases List.mem_append.mp hit with hit | hit
          · exact hfits it hit
          · rw [hnew it hit]
            exact ⟨.eot, heot, Or.inl rfl⟩
        rep_named := hnamed
        snd_idle := fun h => by cases h
        snd_busy := fun _ => hclean
        rcv_busy := hrbusy
        snd_at := fun _ =>
          ⟨by
            show sc.drop s₁.turn = callScript (s₁.batch.drop s₁.idx) ++ callsScript s.sndCalls
            rw [hahead, List.drop_eq_nil_of_le hle]
            rfl, (fun h => by cases h), (fun h => by cases h), fun _ => ⟨hle, hdone⟩⟩
        rcv_at := hrat
        mtu_min := hmtu }
  · rename_i f hf
    obtain ⟨hlt, hget⟩ := List.getElem?_eq_some_iff.mp hf
    split
    · -- the file cannot be opened
      have hbad : ¬ (s₁.ret .io).Clean := SendState.not_clean_ret (by decide)
      exact
        { turns := by
            show Turns.Ok itemView s₁.turn s.rcv.turn _ (s.toRcv ++ []) s.toSnd
            rw [List.append_nil]
            exact hturns
          req_fits := by
            intro it hit
            rcases List.mem_append.mp hit with hit | hit
            · exact hfits it hit
            · exact absurd hit List.not_mem_nil
          rep_named := hnamed
          snd_idle := fun _ hc => absurd hc hbad
          snd_busy := fun hne => absurd rfl hne
          rcv_busy := hrbusy
          snd_at := fun hc => absurd hc hbad
          rcv_at := hrat
          mtu_min := hmtu }
    · -- SEND_META and RESUME_REQ
      rename_i content hread
      rw [List.drop_eq_getElem_cons hlt, hget] at hahead
      have hfile : sc[s₁.turn]? = some (.file f) := (drop_cons_getElem? hahead).1
      set opening : Item := ⟨sendMeta c.snd.senderPath f, s₁.turn, some s₁.idx⟩
      set asking : Item := ⟨sendBare .resumeReq 0, s₁.turn, some s₁.idx⟩
      have happ : s.toRcv ++ [sendMeta c.snd.senderPath f, sendBare .resumeReq 0].map
          (fun p => (⟨p, s₁.turn, some s₁.idx⟩ : Item)) = s.toRcv ++ [opening] ++ [asking] := by
        rw [List.append_assoc]
        rfl
      exact
        { turns := by
            show Turns.Ok itemView s₁.turn s.rcv.turn _ (s.toRcv ++ _) s.toSnd
            rw [happ]
            refine (hturns.openTurn hq hin hold rfl).send ?_ ?_
            · intro it hit
              rw [List.mem_singleton.mp hit]
              rfl
            · intro it hit h
              rw [List.mem_singleton.mp hit] at h
              cases h
          req_fits := by
            intro it hit
            rcases List.mem_append.mp hit with hit | hit
            · exact hfits it hit
            · obtain ⟨hsend, hturn, -⟩ := mem_stamped hit
              refine ⟨.file f, by rw [hturn]; exact hfile, ?_⟩
              rcases List.mem_cons.mp hsend with h | h
              · exact Or.inr ⟨f, content, rfl, hread, h⟩
              · rw [List.mem_singleton.mp h]
                exact Or.inl rfl
          rep_named := hnamed
          snd_idle := fun h => by cases h
          snd_busy := fun _ => hclean
          rcv_busy := hrbusy
          snd_at := fun _ =>
            ⟨by
              show sc.drop s₁.turn = callScript (s₁.batch.drop s₁.idx) ++ callsScript s.sndCalls
              rw [hahead, List.drop_eq_getElem_cons hlt, hget], (fun h => by cases h),
              fun _ => ⟨hlt, hdone⟩, fun h => by cases h⟩
          rcv_at := hrat
          mtu_min := hmtu }

/-- A sender with an exchange is in a call. -/
theorem SendPc.busy_of_exchange {pc : SendPc} {k : ExchangeKind} (hk : pc.exchange = some k) :
    pc ≠ .idle := by
  intro hidle
  rw [hidle] at hk
  cases hk

/-- **The next exchange begins** where the final answer to the current one is
taken. -/
theorem Sync.next (h : Sync c sc s) {k : ExchangeKind} {s₁ : SendState} {it : Item}
    {up : List Item} (hk : s.snd.pc.exchange = some k) (hchan : s.toSnd = it :: up)
    (hcl : itemView.closes it) (turn_eq : s₁.turn = s.snd.turn + 1) (log_eq : s₁.log = s.snd.log)
    (hdone : s₁.handshakeDone = true)
    (hahead : sc.drop (s.snd.turn + 1)
      = callScript (s₁.batch.drop s₁.idx) ++ callsScript s.sndCalls) :
    Sync c sc ({ s with toSnd := up }.sent (s₁.beginFile c.snd)) := by
  have hturns := h.turns
  rw [hchan] at hturns
  obtain ⟨hq, hrest, hin, hold⟩ := hturns.closing hcl
  refine Sync.begin (s := { s with toSnd := up }) ?_ h.req_fits ?_ hin ?_ hrest ?_ hdone
    ?_ h.rcv_busy h.rcv_at h.mtu_min
  · rw [turn_eq]
    exact hturns.advance hcl
  · rw [turn_eq]
    exact hq
  · intro j hj
    have : j.turn = s.snd.turn := hold j hj
    omega
  · unfold SendState.Clean
    rw [log_eq]
    exact h.snd_busy (SendPc.busy_of_exchange hk)
  · rw [turn_eq]
    exact hahead

/-- **A step of the sender.**  `up` is its channel behind the packet it took,
`last` the type of that packet. -/
theorem Sync.sent (h : Sync c sc s) {last : Option PacketType} {up : List Item}
    {r : List Send × SendState} (hstep : SendStep c.snd s.snd last r)
    (hup : up.Sublist s.toSnd)
    (hclose : ∀ t, last = some t → t.isFinal = true →
      ∃ it, s.toSnd = it :: up ∧ itemView.closes it) :
    Sync c sc ({ s with toSnd := up }.sent r) := by
  have hnamed : ∀ it ∈ up, it.send.type.isNamed = true :=
    fun it hit => h.rep_named it (hup.subset hit)
  -- the requests of the current exchange
  have hrequests : ∀ {k : ExchangeKind} {sends : List Send} {file : Option Nat},
      s.snd.pc.exchange = some k → (∀ p ∈ sends, k.request p.type = true) →
      (∀ it ∈ sends.map (fun p => (⟨p, s.snd.turn, file⟩ : Item)), it.turn = s.snd.turn
        ∧ ¬ itemView.opens it ∧ ∃ e, sc[it.turn]? = some e ∧ e.Request c.snd it.send) := by
    intro k sends file hk hreq it hit
    obtain ⟨hsend, hturn, -⟩ := mem_stamped hit
    have hat := h.snd_at (h.snd_busy (SendPc.busy_of_exchange hk))
    obtain ⟨e, he, rfl, -⟩ := hat.current hk
    exact ⟨hturn, (ExchangeKind.request_named (hreq _ hsend)).2,
      e, by rw [hturn]; exact he, Or.inl (hreq _ hsend)⟩
  cases hstep with
  | @within k sends s' hk hk' same sends_ok =>
      have hnew := @hrequests _ _ (some s'.idx) hk sends_ok
      have hbusy : s.snd.pc ≠ .idle := SendPc.busy_of_exchange hk
      have hclean : s'.Clean := by
        unfold SendState.Clean
        rw [same.log_eq]
        exact h.snd_busy hbusy
      have hbusy' : s'.pc ≠ .idle := SendPc.busy_of_exchange hk'
      exact
        { turns := by
            show Turns.Ok itemView s'.turn s.rcv.turn _ (s.toRcv ++ sends.map
              (fun p => (⟨p, s'.turn, some s'.idx⟩ : Item))) up
            rw [same.turn_eq]
            exact (h.turns.lose (List.Sublist.refl _) hup).send (fun it hit => (hnew it hit).1)
              (fun it hit => (hnew it hit).2.1)
          req_fits := by
            intro it hit
            rcases List.mem_append.mp hit with hit | hit
            · exact h.req_fits it hit
            · rw [same.turn_eq] at hit
              exact (hnew it hit).2.2
          rep_named := hnamed
          snd_idle := fun hidle => absurd hidle hbusy'
          snd_busy := fun _ => hclean
          rcv_busy := h.rcv_busy
          snd_at := fun _ =>
            (h.snd_at (h.snd_busy hbusy)).within same (hk'.trans hk.symm)
          rcv_at := h.rcv_at
          mtu_min := h.mtu_min }
  | @failed k sends s₁ st hk same hst sends_ok =>
      have hnew := @hrequests _ _ (some s₁.idx) hk sends_ok
      have hbad : ¬ (s₁.ret st).Clean := SendState.not_clean_ret hst
      exact
        { turns := by
            show Turns.Ok itemView s₁.turn s.rcv.turn _ (s.toRcv ++ sends.map
              (fun p => (⟨p, s₁.turn, some s₁.idx⟩ : Item))) up
            rw [same.turn_eq]
            exact (h.turns.lose (List.Sublist.refl _) hup).send (fun it hit => (hnew it hit).1)
              (fun it hit => (hnew it hit).2.1)
          req_fits := by
            intro it hit
            rcases List.mem_append.mp hit with hit | hit
            · exact h.req_fits it hit
            · replace hit : it ∈ sends.map (fun p => (⟨p, s₁.turn, some s₁.idx⟩ : Item)) := hit
              rw [same.turn_eq] at hit
              exact (hnew it hit).2.2
          rep_named := hnamed
          snd_idle := fun _ hc => absurd hc hbad
          snd_busy := fun hne => absurd rfl hne
          rcv_busy := h.rcv_busy
          snd_at := fun hc => absurd hc hbad
          rcv_at := h.rcv_at
          mtu_min := h.mtu_min }
  | @greeted s₁ hk hlast turn_eq batch_eq idx_eq log_eq done_eq =>
      obtain ⟨it, hchan, hcl⟩ := hclose _ hlast rfl
      have hat := h.snd_at (h.snd_busy (SendPc.busy_of_exchange hk))
      obtain ⟨e, -, -, hnext, -, -⟩ := hat.current hk
      apply h.next hk hchan hcl turn_eq log_eq done_eq
      rw [batch_eq, idx_eq, (hat.hello_ok hk).1]
      exact hnext rfl
  | @filed s₁ hk hlast turn_eq batch_eq idx_eq log_eq done_eq mtu_eq =>
      obtain ⟨it, hchan, hcl⟩ := hclose _ hlast rfl
      have hat := h.snd_at (h.snd_busy (SendPc.busy_of_exchange hk))
      obtain ⟨e, -, -, -, hnext, -⟩ := hat.current hk
      apply h.next hk hchan hcl turn_eq log_eq (done_eq.trans (hat.file_ok hk).2)
      rw [batch_eq, idx_eq]
      exact hnext rfl
  | finished hk hlast =>
      obtain ⟨it, hchan, hcl⟩ := hclose _ hlast rfl
      have hturns := h.turns
      rw [hchan] at hturns
      obtain ⟨hq, hrest, hin, hold⟩ := hturns.closing hcl
      have hbusy : s.snd.pc ≠ .idle := SendPc.busy_of_exchange hk
      have hat := h.snd_at (h.snd_busy hbusy)
      obtain ⟨e, -, -, -, -, hnext⟩ := hat.current hk
      exact
        { turns := by
            show Turns.Ok itemView (s.snd.turn + 1) s.rcv.turn _ (s.toRcv ++ []) up
            rw [List.append_nil]
            exact hturns.advance hcl
          req_fits := by
            intro j hj
            rcases List.mem_append.mp hj with hj | hj
            · exact h.req_fits j hj
            · exact absurd hj List.not_mem_nil
          rep_named := hnamed
          snd_idle := by
            intro _ _
            refine ⟨hq, hin, ?_, hrest⟩
            intro j hj
            rcases List.mem_append.mp hj with hj | hj
            · have : j.turn = s.snd.turn := hold j hj
              show j.turn < s.snd.turn + 1
              omega
            · exact absurd hj List.not_mem_nil
          snd_busy := fun hne => absurd rfl hne
          rcv_busy := h.rcv_busy
          snd_at := by
            intro _
            refine ⟨?_, nofun, nofun, nofun⟩
            show sc.drop (s.snd.turn + 1) = (if s.snd.handshakeDone then [] else [.hello])
              ++ callsScript s.sndCalls
            rw [hnext rfl, (hat.eot_ok hk).2]
            rfl
          rcv_at := h.rcv_at
          mtu_min := h.mtu_min }

end SenderSteps

/-! ## §5. The receiver's steps. -/

section ReceiverSteps

variable {c : SessionParams} {sc : List Exchange} {s : SessionSys}

/-- SEND_META as the metadata wait reads it. -/
theorem recvFrame_sendMeta {f : SourceFile} {content : Bytes} (hread : f.readable = some content)
    (senderPath : Option Bytes) {mtu : Nat} (hmtu : minPacketSize ≤ mtu) {p : Packet}
    (h : recvFrame mtu (some mtu) (sendMeta senderPath f).frame = .ok p) :
    deserializeMeta p.payload = f.announced senderPath := by
  have hfits := SourceFile.announced_fits hread senderPath
  have hlen : (sendMeta senderPath f).staged.length = wireMetaSize := serializeMeta_length hfits
  simp only [minPacketSize] at hmtu
  have hwhole : (sendMeta senderPath f).Whole mtu := by
    refine ⟨⟨rfl, Nat.two_pow_pos 64⟩, ?_, ?_⟩
    all_goals
      rw [hlen]
      simp only [wireMetaSize, wireHeaderSize, wireTrailerSize]
      omega
  rw [recvFrame_whole hwhole (by omega) (Nat.le_refl _)] at h
  cases h
  exact deserialize_serializeMeta hfits

/-- The receiver stays where the script says. -/
theorem RecvAt.within {env : SendEnv} {r r' : RecvState} (h : RecvAt env sc r)
    (same : r.SameCall r') (hphase : r'.pc.phase = r.pc.phase) : RecvAt env sc r' := by
  refine ⟨?_, ?_, ?_, ?_, ?_, ?_⟩
  · rw [same.turn_eq, same.log_eq, same.completed_eq]
    exact h.record_eq
  · rw [hphase, same.done_eq]
    exact h.hello_ok
  · rw [same.done_eq, same.turn_eq]
    exact h.fresh_ok
  · rw [hphase, same.done_eq]
    exact h.header_ok
  · rw [hphase, same.done_eq]
    exact h.file_done
  · rw [hphase, same.turn_eq]
    exact h.file_ok

theorem RecvState.SameCall.clean {r r' : RecvState} (same : r.SameCall r') (h : r.Clean) :
    r'.Clean := by
  unfold RecvState.Clean
  rw [same.log_eq]
  exact h

/-- The receiver's state, whatever its channel became: `down` is the channel
behind the packet it took. -/
theorem Sync.received (h : Sync c sc s) {r : RecvState} {down up : List Item}
    (hturns : Turns.Ok itemView s.snd.turn r.turn r.pc.phase.InFile down up)
    (hdown : down.Sublist s.toRcv) (hnamed : ∀ it ∈ up, it.send.type.isNamed = true)
    (hidle : s.snd.pc = .idle → s.snd.Clean →
      r.turn = s.snd.turn ∧ ¬ r.pc.phase.InFile ∧ up = [])
    (hbusy : r.pc ≠ .idle → r.Clean) (hat : r.Clean → RecvAt c.snd sc r)
    (hmtu : minPacketSize ≤ r.mtu) :
    Sync c sc { s with rcv := r, toRcv := down, toSnd := up } where
  turns := hturns
  req_fits := fun it hit => h.req_fits it (hdown.subset hit)
  rep_named := hnamed
  snd_idle := by
    intro hi hc
    obtain ⟨h1, h2, h3⟩ := hidle hi hc
    exact ⟨h1, h2, fun it hit => (h.snd_idle hi hc).2.2.1 it (hdown.subset hit), h3⟩
  snd_busy := h.snd_busy
  rcv_busy := hbusy
  snd_at := h.snd_at
  rcv_at := hat
  mtu_min := hmtu

/-- SEND_META opens a file and no other exchange. -/
theorem Sync.no_opening (h : Sync c sc s) {e : Exchange} {it : Item} (hit : it ∈ s.toRcv)
    (he : sc[it.turn]? = some e) (hkind : e.kind ≠ .file) : ¬ itemView.opens it := by
  obtain ⟨e', he', hreq⟩ := h.req_fits it hit
  rw [he] at he'
  cases he'
  rcases hreq with hr | ⟨f, content, rfl, -⟩
  · exact (ExchangeKind.request_named hr).2
  · exact absurd rfl hkind

/-- Between two calls of the sender no request of the current exchange is in
flight. -/
theorem Sync.in_call (h : Sync c sc s) {it : Item} (hit : it ∈ s.toRcv)
    (hturn : it.turn = s.rcv.turn) (hidle : s.snd.pc = .idle) : ¬ s.snd.Clean := by
  intro hc
  obtain ⟨hq, -, hold, -⟩ := h.snd_idle hidle hc
  have := hold it hit
  omega

/-- The answers on their way, and one more. -/
theorem Sync.named_snoc (h : Sync c sc s) {p : Send} (hp : p.type.isNamed = true)
    {turn : Nat} {file : Option Nat} :
    ∀ it ∈ s.toSnd ++ [p].map (fun q => (⟨q, turn, file⟩ : Item)),
      it.send.type.isNamed = true := by
  intro it hit
  rcases List.mem_append.mp hit with hit | hit
  · exact h.rep_named it hit
  · rw [List.mem_singleton.mp (mem_stamped hit).1]
    exact hp

/-- The packet the receiver took, and its channel behind it. -/
inductive Took (s : SessionSys) : Option Frame → List Item → Prop where
  | nothing : Took s none s.toRcv
  | head {it : Item} {rest : List Item} (hchan : s.toRcv = it :: rest) :
      Took s (some it.send.frame) rest

theorem Took.sublist {last : Option Frame} {down : List Item} (h : Took s last down) :
    down.Sublist s.toRcv := by
  cases h with
  | nothing => exact List.Sublist.refl _
  | head hchan =>
      rw [hchan]
      exact List.sublist_cons_self _ _

/-- **A step of the receiver**, when its metadata wait takes no EOT of an
earlier exchange. -/
theorem Sync.answered (h : Sync c sc s) {last : Option Frame} {down : List Item}
    {r : List Send × RecvState} (hrcv : s.rcv.pc ≠ .idle)
    (hstep : RecvStep c.rcv s.rcv last r) (htook : Took s last down)
    (hfresh : ∀ it, s.toRcv = it :: down → last ≠ none → s.rcv.pc.phase = .header →
      it.send.type = .eot → it.turn = s.rcv.turn) :
    Sync c sc ({ s with toRcv := down }.answered r) := by
  have hclean := h.rcv_busy hrcv
  have hat := h.rcv_at hclean
  have hsub := htook.sublist
  have hturns : Turns.Ok itemView s.snd.turn s.rcv.turn s.rcv.pc.phase.InFile down s.toSnd :=
    h.turns.lose hsub (List.Sublist.refl _)
  -- replies inside a file
  have hreply : ∀ {f : RecvFile} {sends : List Send}, s.rcv.pc.phase = .file f →
      (∀ p ∈ sends, p.type.isReply = true) →
      Turns.Ok itemView s.snd.turn s.rcv.turn s.rcv.pc.phase.InFile down
        (s.toSnd ++ sends.map (fun p => ⟨p, s.rcv.turn, s.rcv.handling⟩))
      ∧ ∀ it ∈ s.toSnd ++ sends.map
          (fun p => (⟨p, s.rcv.turn, s.rcv.handling⟩ : Item)),
        it.send.type.isNamed = true := by
    intro f sends hf hsends
    refine ⟨hturns.reply ⟨f, hf⟩ ?_ ?_, ?_⟩
    · exact fun it hit => (mem_stamped hit).2.1
    · intro it hit hcl
      have := (PacketType.isReply_named (hsends _ (mem_stamped hit).1)).2
      have hcl' : it.send.type.isFinal = true := hcl
      rw [this] at hcl'
      cases hcl'
    · intro it hit
      rcases List.mem_append.mp hit with hit | hit
      · exact h.rep_named it hit
      · exact (PacketType.isReply_named (hsends _ (mem_stamped hit).1)).1
  -- inside a file the sender is not between two calls
  have hfile_idle : ∀ {f : RecvFile}, s.rcv.pc.phase = .file f → s.snd.pc = .idle →
      s.snd.Clean → False := fun hf hi hc => (h.snd_idle hi hc).2.1 ⟨_, hf⟩
  -- what the receiver took, when its type is known
  have htaken : ∀ {fr : Frame} {t : PacketType}, last = some fr →
      PacketType.ofByte fr.type = t → ∃ it, s.toRcv = it :: down ∧ it.send.type = t
        ∧ ∃ e, sc[it.turn]? = some e ∧ e.Request c.snd it.send := by
    intro fr t hlast ht
    cases htook with
    | nothing => cases hlast
    | @head it rest hchan =>
        cases hlast
        obtain ⟨e, he, hreq⟩ := h.req_fits it (by rw [hchan]; exact List.mem_cons_self ..)
        exact ⟨it, hchan, by rw [← Send.frame_type hreq.named]; exact ht, e, he, hreq⟩
  cases hstep with
  | @waits s' hphase same =>
      show Sync c sc { s with rcv := s', toRcv := down, toSnd := s.toSnd ++ [] }
      rw [List.append_nil]
      refine h.received ?_ hsub h.rep_named ?_ (fun _ => same.clean hclean)
        (fun _ => hat.within same hphase) (by rw [same.mtu_eq]; exact h.mtu_min)
      · rw [same.turn_eq, hphase]
        exact hturns
      · intro hi hc
        obtain ⟨h1, h2, -, h4⟩ := h.snd_idle hi hc
        rw [same.turn_eq, hphase]
        exact ⟨h1, h2, h4⟩
  | @within f sends s' hphase hphase' same sends_ok =>
      obtain ⟨hok, hnamed⟩ := hreply hphase sends_ok
      refine h.received ?_ hsub hnamed (fun hi hc => (hfile_idle hphase hi hc).elim)
        (fun _ => same.clean hclean) (fun _ => hat.within same (by rw [hphase, hphase']))
        (by rw [same.mtu_eq]; exact h.mtu_min)
      rw [same.turn_eq, hphase', ← hphase]
      exact hok
  | @stopped s₁ st same hst =>
      have hbad : ¬ (s₁.ret st).Clean := RecvState.not_clean_ret hst
      show Sync c sc { s with rcv := s₁.ret st, toRcv := down, toSnd := s.toSnd ++ [] }
      rw [List.append_nil]
      refine h.received ?_ hsub h.rep_named ?_ (fun hne => absurd rfl hne)
        (fun hc => absurd hc hbad) (by show _ ≤ s₁.mtu; rw [same.mtu_eq]; exact h.mtu_min)
      · show Turns.Ok itemView s.snd.turn s₁.turn _ down s.toSnd
        rw [same.turn_eq]
        exact hturns.leave nofun
      · intro hi hc
        obtain ⟨h1, -, -, h4⟩ := h.snd_idle hi hc
        refine ⟨?_, nofun, h4⟩
        show s₁.turn = _
        rw [same.turn_eq]
        exact h1
  | @failed f sends s₁ st hphase same hst sends_ok =>
      have hbad : ¬ (s₁.ret st).Clean := RecvState.not_clean_ret hst
      obtain ⟨hok, hnamed⟩ := hreply hphase sends_ok
      refine h.received ?_ hsub hnamed (fun hi hc => (hfile_idle hphase hi hc).elim)
        (fun hne => absurd rfl hne) (fun hc => absurd hc hbad)
        (by show _ ≤ s₁.mtu; rw [same.mtu_eq]; exact h.mtu_min)
      show Turns.Ok itemView s.snd.turn s₁.turn _ down _
      rw [same.turn_eq]
      exact hok.leave nofun
  | @greeted fr s' p hphase hlast htype hphase' turn_eq completed_eq log_eq done_eq mtu_min hp =>
      obtain ⟨it, hchan, hit, e, he, hreq⟩ := htaken hlast htype
      have hq : s.rcv.turn = 0 := hat.fresh_ok (hat.hello_ok hphase)
      have hturns0 := h.turns
      rw [hchan] at hturns0
      have hitturn : it.turn = s.rcv.turn := by
        have h1 : it.turn ≤ s.snd.turn := hturns0.down_le it (List.mem_cons_self ..)
        have h2 := hturns0.turn_le
        omega
      obtain ⟨hpq, hrest⟩ := hturns0.current hitturn
      have hkind : e.kind = .hello := by
        have := hreq.kind (by rw [hit]; decide)
        rw [hit] at this
        cases hk : e.kind with
        | hello => rfl
        | file => rw [hk] at this; cases this
        | eot => rw [hk] at this; cases this
      have he' : sc[s.rcv.turn]? = some .hello := by
        rw [← hitturn, he]
        cases e with
        | hello => rfl
        | file f => cases hkind
        | eot => cases hkind
      refine h.received ?_ hsub ?_ ?_ ?_ ?_ mtu_min
      · rw [turn_eq, hphase']
        refine hturns0.close hitturn ?_ rfl nofun
        intro j hj
        apply h.no_opening (e := .hello) (hsub.subset hj) _ nofun
        rw [show j.turn = s.rcv.turn from hrest j hj]
        exact he'
      · apply h.named_snoc
        rw [hp]
        rfl
      · exact fun hi hc =>
          absurd hc (h.in_call (by rw [hchan]; exact List.mem_cons_self ..) hitturn hi)
      · intro _
        unfold RecvState.Clean
        rw [log_eq]
        exact hclean
      · intro _
        refine ⟨?_, ?_, ?_, fun _ => done_eq, fun _ _ => done_eq, ?_⟩
        · rw [turn_eq, record_snoc _ he', hat.record_eq, log_eq, completed_eq]
          rfl
        · rw [hphase']
          exact nofun
        · rw [done_eq]
          exact nofun
        · rw [hphase']
          exact fun f hf => nomatch hf
  | @opened fr p hphase hlast hrecv htype hlen =>
      have htype' : PacketType.ofByte fr.type = .sendMeta := by
        rw [← recvFrame_type hrecv]
        exact htype
      cases htook with
      | nothing => cases hlast
      | @head it rest hchan =>
          cases hlast
          obtain ⟨e, he, hreq⟩ := h.req_fits it (by rw [hchan]; exact List.mem_cons_self ..)
          have hit : it.send.type = .sendMeta := by
            rw [← Send.frame_type hreq.named]
            exact htype'
          have hturns0 := h.turns
          rw [hchan] at hturns0
          have hitturn : it.turn = s.rcv.turn :=
            (hturns0.down_opens it (List.mem_cons_self ..) hit).1
          obtain ⟨hpq, -⟩ := hturns0.current hitturn
          obtain ⟨f, content, rfl, hread, hsend⟩ :
              ∃ f content, e = .file f ∧ f.readable = some content
                ∧ it.send = sendMeta c.snd.senderPath f := by
            rcases hreq with hr | hr
            · exact absurd hit (ExchangeKind.request_named hr).2
            · exact hr
          rw [hsend] at hrecv
          have hann := recvFrame_sendMeta hread c.snd.senderPath h.mtu_min hrecv
          have hg := RecvState.acceptMeta_phase c.rcv s.rcv p.payload
          show Sync c sc { s with
            rcv := s.rcv.acceptMeta c.rcv p.payload, toRcv := down, toSnd := s.toSnd ++ [] }
          rw [List.append_nil]
          refine h.received ?_ hsub h.rep_named ?_ (fun _ => hclean) ?_ h.mtu_min
          · exact hturns0.enter hit
          · exact fun hi hc =>
              absurd hc (h.in_call (by rw [hchan]; exact List.mem_cons_self ..) hitturn hi)
          · intro _
            refine ⟨hat.record_eq, ?_, hat.fresh_ok, ?_, fun _ _ => hat.header_ok hphase, ?_⟩
            · rw [hg]
              exact nofun
            · rw [hg]
              exact nofun
            · intro g hg'
              rw [hg] at hg'
              cases hg'
              exact ⟨f, by rw [← he, hitturn]; rfl, hann⟩
  | @filed f fr s₁ off hphase hlast htype same =>
      obtain ⟨it, hchan, hit, e, he, hreq⟩ := htaken hlast htype
      have hturns0 := h.turns
      rw [hchan] at hturns0
      obtain ⟨-, hall⟩ := hturns0.inside_turn ⟨f, hphase⟩
      have hitturn : it.turn = s.rcv.turn := hall it (List.mem_cons_self ..)
      obtain ⟨src, hsrc, hann⟩ := hat.file_ok f hphase
      refine h.received ?_ hsub ?_ (fun hi hc => (hfile_idle hphase hi hc).elim) ?_ ?_
        (by show _ ≤ s₁.mtu; rw [same.mtu_eq]; exact h.mtu_min)
      · show Turns.Ok itemView s.snd.turn (s₁.turn + 1) _ down _
        rw [same.turn_eq]
        refine hturns0.close hitturn ?_ rfl nofun
        intro j hj hopen
        exact (hturns0.down_opens j (List.mem_cons_of_mem _ hj) hopen).2 ⟨f, hphase⟩
      · exact h.named_snoc rfl
      · intro _
        exact same.clean hclean
      · intro _
        have hdone : s₁.handshakeDone = true := by
          rw [same.done_eq]
          exact hat.file_done f hphase
        refine ⟨?_, nofun, ?_, fun _ => hdone, fun _ _ => hdone, fun g hg => nomatch hg⟩
        · show record c.snd (sc.take (s₁.turn + 1))
            = (s₁.log.map Prod.fst, s₁.completed ++ [f.announced])
          rw [same.turn_eq, record_snoc _ hsrc, hat.record_eq, same.log_eq, same.completed_eq,
            hann]
          rfl
        · intro hnd
          exact absurd (hdone.symm.trans hnd) (by decide)
  | @finished fr hphase hlast htype =>
      obtain ⟨it, hchan, hit, e, he, hreq⟩ := htaken hlast htype
      have hkind : e = .eot := by
        have := hreq.kind (by rw [hit]; decide)
        rw [hit] at this
        cases e with
        | hello => cases this
        | file f => cases this
        | eot => rfl
      subst hkind
      have hturns0 := h.turns
      rw [hchan] at hturns0
      -- an EOT cannot meet an open file
      have hheader : s.rcv.pc.phase = .header := by
        rcases hphase with hh | ⟨f, hf⟩
        · exact hh
        · obtain ⟨-, hall⟩ := hturns0.inside_turn ⟨f, hf⟩
          obtain ⟨src, hsrc, -⟩ := hat.file_ok f hf
          rw [show it.turn = s.rcv.turn from hall it (List.mem_cons_self ..), hsrc] at he
          cases he
      have hitturn : it.turn = s.rcv.turn := hfresh it hchan (by rw [hlast]; exact nofun) hheader hit
      obtain ⟨hpq, hrest⟩ := hturns0.current hitturn
      rw [hitturn] at he
      refine h.received ?_ hsub ?_ ?_ (fun hne => absurd rfl hne) ?_ h.mtu_min
      · show Turns.Ok itemView s.snd.turn (s.rcv.turn + 1) _ down _
        refine hturns0.close hitturn ?_ rfl nofun
        intro j hj
        apply h.no_opening (e := .eot) (hsub.subset hj) _ nofun
        rw [show j.turn = s.rcv.turn from hrest j hj]
        exact he
      · exact h.named_snoc rfl
      · exact fun hi hc =>
          absurd hc (h.in_call (by rw [hchan]; exact List.mem_cons_self ..) hitturn hi)
      · intro _
        have hdone := hat.header_ok hheader
        refine ⟨?_, nofun, ?_, nofun, fun g hg => (nomatch hg), fun g hg => (nomatch hg)⟩
        · show record c.snd (sc.take (s.rcv.turn + 1))
            = ((s.rcv.log ++ [(s.rcv.completed, Status.ok)]).map Prod.fst, [])
          rw [record_snoc _ he, hat.record_eq, List.map_append]
          rfl
        · intro hnd
          exact absurd (hdone.symm.trans hnd) (by decide)

end ReceiverSteps

/-! ## §6. Calls, losses, and every step. -/

section Steps

variable {c : SessionParams} {sc : List Exchange} {s s' : SessionSys}

/-- `val_send_files` is called, no call having failed before. -/
theorem Sync.sndCall (h : Sync c sc s) {batch : List SourceFile}
    {rest : List (List SourceFile)} (hcalls : s.sndCalls = batch :: rest)
    (hidle : s.snd.pc = .idle) (hclean : s.snd.Clean) :
    Sync c sc ({ s with sndCalls := rest }.sent (s.snd.call c.snd batch)) := by
  obtain ⟨hq, hin, hold, hup⟩ := h.snd_idle hidle hclean
  have hat := h.snd_at hclean
  have hahead := hat.ahead_eq
  unfold SendState.ahead at hahead
  rw [hidle, hcalls] at hahead
  have hsplit : callsScript (batch :: rest) = callScript batch ++ callsScript rest :=
    List.flatMap_cons
  unfold SendState.call
  dsimp only
  split
  · -- an empty batch is refused
    have hbad : ¬ ({ s.snd with batch := batch, idx := 0 }.ret .invalidArg).Clean :=
      SendState.not_clean_ret (by decide)
    exact
      { turns := by
          show Turns.Ok itemView s.snd.turn s.rcv.turn _ (s.toRcv ++ []) s.toSnd
          rw [List.append_nil]
          exact h.turns
        req_fits := by
          intro it hit
          rcases List.mem_append.mp hit with hit | hit
          · exact h.req_fits it hit
          · exact absurd hit List.not_mem_nil
        rep_named := h.rep_named
        snd_idle := fun _ hc => absurd hc hbad
        snd_busy := fun hne => absurd rfl hne
        rcv_busy := h.rcv_busy
        snd_at := fun hc => absurd hc hbad
        rcv_at := h.rcv_at
        mtu_min := h.mtu_min }
  · split
    · -- the handshake was done by an earlier call
      rename_i hdone
      replace hdone : s.snd.handshakeDone = true := hdone
      refine Sync.begin (s := { s with sndCalls := rest }) h.turns h.req_fits hq hin hold hup
        hclean hdone ?_ h.rcv_busy h.rcv_at h.mtu_min
      show sc.drop s.snd.turn = callScript (batch.drop 0) ++ callsScript rest
      rw [hahead]
      dsimp only [SendPc.exchange]
      rw [hdone, if_pos rfl, List.nil_append, hsplit, List.drop_zero]
    · -- the first call starts with HELLO
      rename_i hdone
      have hdone' : s.snd.handshakeDone = false := by
        cases hd : s.snd.handshakeDone with
        | false => rfl
        | true => exact absurd hd hdone
      dsimp only [SendPc.exchange] at hahead
      rw [hdone', if_neg (by decide), List.singleton_append, hsplit] at hahead
      have hhello : sc[s.snd.turn]? = some .hello := (drop_cons_getElem? hahead).1
      have hnew : ∀ it ∈ [sendHello c.snd.cfg c.snd.cfg.packetSize].map
          (fun p => (⟨p, s.snd.turn, some 0⟩ : Item)),
          it = ⟨sendHello c.snd.cfg c.snd.cfg.packetSize, s.snd.turn, some 0⟩ := by
        intro it hit
        rwa [List.map_singleton, List.mem_singleton] at hit
      exact
        { turns := h.turns.send (fun it hit => by rw [hnew it hit]; rfl)
            (fun it hit => by rw [hnew it hit]; exact nofun)
          req_fits := by
            intro it hit
            rcases List.mem_append.mp hit with hit | hit
            · exact h.req_fits it hit
            · rw [hnew it hit]
              exact ⟨.hello, hhello, Or.inl rfl⟩
          rep_named := h.rep_named
          snd_idle := nofun
          snd_busy := fun _ => hclean
          rcv_busy := h.rcv_busy
          snd_at := fun _ => ⟨hahead, fun _ => ⟨rfl, hdone'⟩, nofun, nofun⟩
          rcv_at := h.rcv_at
          mtu_min := h.mtu_min }

/-- `val_receive_files` is called, no call having failed before. -/
theorem Sync.rcvCall (h : Sync c sc s) {dir : Bytes} {rest : List Bytes}
    (hclean : s.rcv.Clean) :
    Sync c sc { s with rcvCalls := rest, rcv := s.rcv.call c.rcv dir } := by
  have hat := h.rcv_at hclean
  -- the call begins with HELLO, or at once with the next header
  have hphase : ((s.rcv.call c.rcv dir).pc.phase = .hello ∧ s.rcv.handshakeDone = false)
      ∨ ((s.rcv.call c.rcv dir).pc.phase = .header ∧ s.rcv.handshakeDone = true) := by
    unfold RecvState.call
    dsimp only
    cases hd : s.rcv.handshakeDone with
    | false => exact Or.inl ⟨rfl, rfl⟩
    | true => exact Or.inr ⟨rfl, rfl⟩
  have hout : ¬ (s.rcv.call c.rcv dir).pc.phase.InFile := by
    rintro ⟨f, hf⟩
    rcases hphase with ⟨hh, -⟩ | ⟨hh, -⟩
    · rw [hh] at hf
      cases hf
    · rw [hh] at hf
      cases hf
  exact
    { turns := h.turns.leave hout
      req_fits := h.req_fits
      rep_named := h.rep_named
      snd_idle := fun hi hc =>
        ⟨(h.snd_idle hi hc).1, hout, (h.snd_idle hi hc).2.2.1, (h.snd_idle hi hc).2.2.2⟩
      snd_busy := h.snd_busy
      rcv_busy := fun _ => hclean
      snd_at := h.snd_at
      rcv_at := by
        intro _
        refine ⟨hat.record_eq, ?_, hat.fresh_ok, ?_, fun f hf => absurd ⟨f, hf⟩ hout,
          fun f hf => absurd ⟨f, hf⟩ hout⟩
        · intro hh
          rcases hphase with ⟨-, hd⟩ | ⟨hh', -⟩
          · exact hd
          · rw [show (s.rcv.call c.rcv dir).pc.phase = .hello from hh] at hh'
            cases hh'
        · intro hh
          rcases hphase with ⟨hh', -⟩ | ⟨-, hd⟩
          · rw [show (s.rcv.call c.rcv dir).pc.phase = .header from hh] at hh'
            cases hh'
          · exact hd
      mtu_min := h.mtu_min }

theorem Sync.lose (h : Sync c sc s) {toRcv toSnd : List Item}
    (hrcv : toRcv.Sublist s.toRcv) (hsnd : toSnd.Sublist s.toSnd) :
    Sync c sc { s with toRcv := toRcv, toSnd := toSnd } where
  turns := h.turns.lose hrcv hsnd
  req_fits := fun it hit => h.req_fits it (hrcv.subset hit)
  rep_named := fun it hit => h.rep_named it (hsnd.subset hit)
  snd_idle := by
    intro hi hc
    obtain ⟨h1, h2, h3, h4⟩ := h.snd_idle hi hc
    refine ⟨h1, h2, fun it hit => h3 it (hrcv.subset hit), ?_⟩
    rw [h4] at hsnd
    exact List.sublist_nil.mp hsnd
  snd_busy := h.snd_busy
  rcv_busy := h.rcv_busy
  snd_at := h.snd_at
  rcv_at := h.rcv_at
  mtu_min := h.mtu_min

/-- No side calls again after a failed call. -/
def CallsClean (s : SessionSys) : SessionLabel → Prop
  | .sndCall => s.snd.Clean
  | .rcvCall => s.rcv.Clean
  | _ => True

/-- The metadata wait does not take an EOT of an earlier exchange. -/
def EotFresh (s : SessionSys) : SessionLabel → Prop
  | .rcvRecv _ => ∀ it ∈ s.toRcv.head?, s.rcv.pc.phase = .header →
      it.send.type = .eot → it.turn = s.rcv.turn
  | _ => True

instance (s : SessionSys) (l : SessionLabel) : Decidable (EotFresh s l) := by
  unfold EotFresh
  cases l <;> infer_instance

/-- **Step lemma.** -/
theorem sync_step (h : Sync c sc s) {l : SessionLabel} (hcall : CallsClean s l)
    (hfresh : EotFresh s l) (hstep : s.step c l = some s') : Sync c sc s' := by
  cases SessionSys.step_inv hstep with
  | sndCall hcalls hidle => exact h.sndCall hcalls hidle hcall
  | rcvCall hcalls hidle => exact h.rcvCall hcall
  | @sndRecv it rest hchan hbusy =>
      refine h.sent (SendState.onFrame_step c.snd hbusy it.send.frame)
        (by rw [hchan]; exact List.sublist_cons_self _ _) ?_
      intro t ht hfinal
      refine ⟨it, hchan, ?_⟩
      cases ht
      have hnamed := h.rep_named it (by rw [hchan]; exact List.mem_cons_self ..)
      rw [Send.frame_type hnamed] at hfinal
      exact hfinal
  | sndTimeout hbusy =>
      exact h.sent (SendState.onTimeout_step c.snd hbusy _) (List.Sublist.refl _) nofun
  | @rcvRecv it rest fs hchan hbusy =>
      exact h.answered hbusy (RecvState.onFrame_step c.rcv s.rcv it.send.frame fs)
        (.head hchan) (fun it' hit' _ => hfresh it' (by rw [hit']; rfl))
  | rcvTimeout hbusy =>
      exact h.answered hbusy (RecvState.onTimeout_step c.rcv s.rcv _ _) .nothing
        (fun _ _ hne => absurd rfl hne)
  | lose hl hrcv hsnd => exact h.lose hrcv hsnd

/-- Both sessions fresh. -/
theorem sync_init (c : SessionParams) (files : Bytes → Option Bytes)
    (sndCalls : List (List SourceFile)) (rcvCalls : List Bytes)
    (hmtu : minPacketSize ≤ c.rcv.cfg.packetSize) :
    Sync c (script sndCalls) (SessionSys.init c files sndCalls rcvCalls) where
  turns := (Turns.Ok.init itemView).leave nofun
  req_fits := fun _ hit => absurd hit List.not_mem_nil
  rep_named := fun _ hit => absurd hit List.not_mem_nil
  snd_idle := fun _ _ => ⟨rfl, nofun, fun _ hit => absurd hit List.not_mem_nil, rfl⟩
  snd_busy := fun hne => absurd rfl hne
  rcv_busy := fun hne => absurd rfl hne
  snd_at := fun _ => ⟨rfl, nofun, nofun, nofun⟩
  rcv_at := fun _ => ⟨rfl, nofun, fun _ => rfl, nofun, nofun, nofun⟩
  mtu_min := hmtu

end Steps

end ValProtocol
