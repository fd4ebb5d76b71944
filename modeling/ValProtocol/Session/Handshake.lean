/-
  ValProtocol.Session.Handshake
  ─────────────────────────────
  HELLO: what a side offers (`val__fill_local_hello`, `src/val_core.c` lines
  1742-1769) and what it makes of the peer's offer (`val__adopt_peer_hello`,
  lines 1772-1838).

    • `adopt_peer`        — the HELLO of an accepted configuration is always
      adopted: packet size the smaller of the two, window within its bounds.

  The build has no optional features (`VAL_BUILTIN_FEATURES` is 0), so the
  two feature checks are written out but never fire.
-/
import ValProtocol.Data.Sender

namespace ValProtocol

/-! ## §1. The offer. -/

/-- `VAL_BUILTIN_FEATURES`. -/
def builtinFeatures : Nat := 0

/-- `val__fill_local_hello`. -/
def fillLocalHello (cfg : Config) (packetSize : Nat) : Handshake :=
  let w := if cfg.txFlow.windowCapPackets ≠ 0 then cfg.txFlow.windowCapPackets else 1
  let w := if w > 0xFFFF then 0xFFFF else w
  { magic := magic
    versionMajor := versionMajor
    versionMinor := versionMinor
    reserved := 0
    packetSize := packetSize
    features := builtinFeatures
    required := cfg.requiredFeatures &&& builtinFeatures
    requested := cfg.requestedFeatures &&& builtinFeatures
    txMaxWindowPackets := w
    rxMaxWindowPackets := w
    ackStridePackets := 1
    reservedCapabilities := 0
    supportedFeatures16 := 0
    requiredFeatures16 := 0
    requestedFeatures16 := 0
    reserved2 := 0 }

/-- `val_internal_send_packet(s, VAL_PKT_HELLO, hello_wire, …)`. -/
def sendHello (cfg : Config) (packetSize : Nat) : Send :=
  ⟨.hello, serializeHandshake (fillLocalHello cfg packetSize), 0, true⟩

/-! ## §2. Adopting the peer's offer. -/

/-- What the session keeps of a handshake. -/
structure Negotiated where
  mtu : Nat
  flow : Flow
  deriving Repr, DecidableEq

/-- `VAL_SET_MISSING_FEATURE`. -/
def missingFeatureDetail (mask : Nat) : Nat := 2 ^ 28 ||| (mask &&& 0xFFFFFF) ||| 0x00040000

/-- `val_internal_send_error`. -/
def sendError (code : Status) (detail : Nat) : Send :=
  ⟨.error, serializeErrorPayload code detail, 0, true⟩

/-- The bits of `mask` a peer with `features` lacks. -/
def missingFeatures (mask features : Nat) : Nat := mask &&& (2 ^ 32 - 1 - features)

/-- The congestion window a handshake starts with. -/
def initialFlow (cfg : Config) (peer : Handshake) (flow : Flow) : Flow :=
  let localDesired := if cfg.txFlow.windowCapPackets ≠ 0 then cfg.txFlow.windowCapPackets else 4
  let peerRxCap := if peer.rxMaxWindowPackets ≠ 0 then peer.rxMaxWindowPackets else 1
  let negotiated := if localDesired < peerRxCap then localDesired else peerRxCap
  let negotiated := if negotiated = 0 then 1 else negotiated
  let current :=
    if cfg.txFlow.initialCwndPackets ≠ 0 then
      if cfg.txFlow.initialCwndPackets > negotiated then negotiated
      else cfg.txFlow.initialCwndPackets
    else if negotiated ≥ 4 then 4 else negotiated
  { flow with negotiatedWindow := negotiated, currentWindow := current }

/-- `val__adopt_peer_hello`: the error comes with the packet sent before the
call returns. -/
def adoptPeerHello (cfg : Config) (flow : Flow) (peer : Handshake) :
    Except (List Send × Status) Negotiated :=
  if peer.magic ≠ magic then .error ([], .protocol)
  else if peer.versionMajor ≠ versionMajor then .error ([], .incompatibleVersion)
  else
    let negotiated := if peer.packetSize < cfg.packetSize then peer.packetSize else cfg.packetSize
    if negotiated < minPacketSize ∨ negotiated > maxPacketSize then
      .error ([], .packetSizeMismatch)
    else
      let missing := missingFeatures (cfg.requiredFeatures &&& builtinFeatures) peer.features
      if missing ≠ 0 then
        .error ([sendError .featureNegotiation (missingFeatureDetail missing)],
          .featureNegotiation)
      else .ok ⟨negotiated, initialFlow cfg peer flow⟩

/-- The flow-control fields `val_session_create` leaves behind. -/
def freshFlow : Flow where
  negotiatedWindow := 1
  currentWindow := 1
  consecutiveErrors := 0
  consecutiveSuccesses := 0
  inRetransmit := false

/-! ## §3. Two accepted configurations agree. -/

theorem fillLocalHello_fits {cfg : Config} (h : cfg.Accepted) {size : Nat}
    (hsize : size ≤ maxPacketSize) : (fillLocalHello cfg size).Fits := by
  have hwin := h.windowCap_lt
  simp only [maxPacketSize] at hsize
  have hw : (if (if cfg.txFlow.windowCapPackets ≠ 0 then cfg.txFlow.windowCapPackets else 1)
        > 0xFFFF then 0xFFFF
      else if cfg.txFlow.windowCapPackets ≠ 0 then cfg.txFlow.windowCapPackets else 1)
      < 256 ^ 2 := by
    repeat' split
    all_goals omega
  have hzero : ∀ n : Nat, n &&& builtinFeatures < 256 ^ 4 := by
    intro n
    simp [builtinFeatures]
  refine ⟨?_, ?_, ?_, ?_, ?_, ?_, hzero _, hzero _, hw, hw, ?_, ?_, ?_, ?_, ?_, ?_⟩
  all_goals simp only [fillLocalHello, magic, versionMajor, versionMinor, builtinFeatures]
  all_goals omega

/-- The window a handshake starts with respects its bounds. -/
theorem initialFlow_bounded {cfg : Config} (h : cfg.Accepted) (peer : Handshake) (flow : Flow) :
    (initialFlow cfg peer flow).Bounded := by
  have hwin := h.windowCap_lt
  unfold initialFlow
  dsimp only
  -- what this side wants, and the smaller of that and the peer's cap
  have hlocal : (if cfg.txFlow.windowCapPackets ≠ 0 then cfg.txFlow.windowCapPackets else 4)
      < 2 ^ 16 := by
    split <;> omega
  generalize (if cfg.txFlow.windowCapPackets ≠ 0 then cfg.txFlow.windowCapPackets else 4)
    = localDesired at hlocal ⊢
  generalize (if peer.rxMaxWindowPackets ≠ 0 then peer.rxMaxWindowPackets else 1) = peerRxCap
  have hsmaller : (if localDesired < peerRxCap then localDesired else peerRxCap) < 2 ^ 16 := by
    split <;> omega
  generalize (if localDesired < peerRxCap then localDesired else peerRxCap) = smaller
    at hsmaller ⊢
  have hnegotiated : 1 ≤ (if smaller = 0 then 1 else smaller)
      ∧ (if smaller = 0 then 1 else smaller) < 2 ^ 16 := by
    split <;> omega
  generalize (if smaller = 0 then 1 else smaller) = negotiated at hnegotiated ⊢
  obtain ⟨hpos, hlt⟩ := hnegotiated
  refine ⟨hlt, ?_, ?_⟩
  all_goals
    dsimp only
    split
    · split <;> omega
    · split <;> omega

/-- Whatever is adopted is a legal packet size. -/
theorem adoptPeerHello_mtu {cfg : Config} {flow : Flow} {peer : Handshake} {n : Negotiated}
    (h : adoptPeerHello cfg flow peer = .ok n) : minPacketSize ≤ n.mtu := by
  simp only [adoptPeerHello] at h
  generalize (if peer.packetSize < cfg.packetSize then peer.packetSize else cfg.packetSize)
    = size at h
  split at h
  · cases h
  split at h
  · cases h
  split at h
  · cases h
  rename_i hrange
  split at h
  · cases h
  · cases h
    show minPacketSize ≤ size
    omega

/-- **Adoption never fails between accepted configurations**: the packet size
is the smaller of the offer and one's own. -/
theorem adopt_peer {cfg peer : Config} (h : cfg.Accepted) (hpeer : peer.Accepted)
    (flow : Flow) {size : Nat} (hmin : minPacketSize ≤ size) (hmax : size ≤ maxPacketSize) :
    adoptPeerHello cfg flow (deserializeHandshake (serializeHandshake (fillLocalHello peer size)))
      = .ok ⟨min size cfg.packetSize, initialFlow cfg (fillLocalHello peer size) flow⟩ := by
  rw [deserialize_serializeHandshake (fillLocalHello_fits hpeer hmax)]
  have hp : (fillLocalHello peer size).packetSize = size := rfl
  have h1 := h.packetSize_min
  have h2 := h.packetSize_max
  have hsmall : (if size < cfg.packetSize then size else cfg.packetSize)
      = min size cfg.packetSize := by
    split <;> omega
  have hrange : ¬ (min size cfg.packetSize < minPacketSize
      ∨ min size cfg.packetSize > maxPacketSize) := by omega
  have hfeat : missingFeatures (cfg.requiredFeatures &&& builtinFeatures)
      (fillLocalHello peer size).features = 0 := by
    simp [missingFeatures, builtinFeatures]
  have hmagic : (fillLocalHello peer size).magic = magic := rfl
  have hver : (fillLocalHello peer size).versionMajor = versionMajor := rfl
  simp only [adoptPeerHello, hmagic, hver, ne_eq, not_true_eq_false, if_false, hp, hsmall,
    hrange, hfeat]

end ValProtocol
