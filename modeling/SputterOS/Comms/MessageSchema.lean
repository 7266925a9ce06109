import SputterOS.Comms.ProtocolRouter

/-!
# The schema of the messages

Every message from the host has a documented layout. Commands and handshakes are
dispatched exactly with it. The three messages without a payload are dispatched
with any payload.
-/

set_option autoImplicit false

namespace SputterOS.MessageSchema
open SputterOS.FrameCodec SputterOS.ProtocolRouter SputterOS.ResponseSerializer SputterOS.Crc16
  SputterOS.Logic

inductive Callback where
  | onCommand (cmd : Command) (seqNum : UInt8)
  | onHandshakeRequest (version : UInt16) (seqNum : UInt8)
  | onExitHandshake (seqNum : UInt8)
  | onMetricsRequest (seqNum : UInt8)
  | onHeartbeat (seqNum : UInt8)
  deriving DecidableEq

def call {σ : Type*} (handler : IProtocolHandler σ) : Callback → σ → σ
  | .onCommand cmd seqNum => handler.onCommand cmd seqNum
  | .onHandshakeRequest version seqNum => handler.onHandshakeRequest version seqNum
  | .onExitHandshake seqNum => handler.onExitHandshake seqNum
  | .onMetricsRequest seqNum => handler.onMetricsRequest seqNum
  | .onHeartbeat seqNum => handler.onHeartbeat seqNum

def recorder : IProtocolHandler (List Callback) where
  onCommand cmd seqNum calls := calls ++ [.onCommand cmd seqNum]
  onHandshakeRequest version seqNum calls := calls ++ [.onHandshakeRequest version seqNum]
  onExitHandshake seqNum calls := calls ++ [.onExitHandshake seqNum]
  onMetricsRequest seqNum calls := calls ++ [.onMetricsRequest seqNum]
  onHeartbeat seqNum calls := calls ++ [.onHeartbeat seqNum]

/-- The documented payloads, and the calls they stand for:
`[CmdID:1][targetDevice:1][value:4 LE]`, `[version:2 LE][magic:4]` and three times
`(empty)`. -/
inductive Documented (seqNum : UInt8) : MessageType → List UInt8 → Callback → Prop
  | command (id targetDevice : UInt8) (value : UInt32) :
    Documented seqNum .command (id :: targetDevice :: leBytes 4 value.toNat)
      (.onCommand ⟨id, targetDevice, value⟩ seqNum)
  | handshakeReq (version : UInt16) :
    Documented seqNum .handshakeReq
      (lowByte version.toNat :: highByte version.toNat :: leBytes 4 kHandshakeMagic.toNat)
      (.onHandshakeRequest version seqNum)
  | exitHandshake : Documented seqNum .exitHandshake [] (.onExitHandshake seqNum)
  | metricsReq : Documented seqNum .metricsReq [] (.onMetricsRequest seqNum)
  | heartbeat : Documented seqNum .heartbeat [] (.onHeartbeat seqNum)

def Payloadless (type : MessageType) : Prop :=
  type = .exitHandshake ∨ type = .metricsReq ∨ type = .heartbeat

/-- A documented payload makes its one call and the answer is true; any other makes
none and the answer is false. -/
def Enforced {σ : Type*} (handler : IProtocolHandler σ) (type : MessageType) (seqNum : UInt8)
    (payload : List UInt8) (s : σ) : Prop :=
  (∃ c, Documented seqNum type payload c ∧
    dispatch handler type seqNum payload s = (true, call handler c s)) ∨
  ((∀ c, ¬ Documented seqNum type payload c) ∧
    dispatch handler type seqNum payload s = (false, s))

theorem lowByte_readLe16 (lo hi : UInt8) : lowByte (readLe16 lo hi).toNat = lo := by
  have hl : lo.toNat < 2^8 := lo.toNat_lt
  rw [← UInt8.toNat_inj, lowByte_toNat, readLe16_toNat]
  omega

theorem highByte_readLe16 (lo hi : UInt8) : highByte (readLe16 lo hi).toNat = hi := by
  have hl : lo.toNat < 2^8 := lo.toNat_lt
  have hh : hi.toNat < 2^8 := hi.toNat_lt
  rw [← UInt8.toNat_inj, highByte_toNat, readLe16_toNat]
  omega

theorem length_six (payload : List UInt8) (h : payload.length = 6) :
    ∃ a b b0 b1 b2 b3, payload = [a, b, b0, b1, b2, b3] := by
  match payload, h with
  | [a, b, b0, b1, b2, b3], _ => exact ⟨a, b, b0, b1, b2, b3, rfl⟩

section Types

variable {σ : Type*} (handler : IProtocolHandler σ) (seqNum : UInt8) (payload : List UInt8) (s : σ)

theorem command_enforced : Enforced handler .command seqNum payload s := by
  have hdispatch : dispatch handler .command seqNum payload s =
      dispatchCommand handler seqNum payload s := if_pos rfl
  by_cases hlen : payload.length = kCommandPayloadSize
  · left
    obtain ⟨id, targetDevice, b0, b1, b2, b3, rfl⟩ := length_six payload hlen
    have hdoc : Documented seqNum .command _ _ :=
      .command id targetDevice (readLe32 [id, targetDevice, b0, b1, b2, b3] 2)
    rw [leBytes_readLe32] at hdoc
    exact ⟨_, hdoc, hdispatch⟩
  · right
    rw [dispatchCommand, if_pos hlen] at hdispatch
    refine ⟨fun c hdoc => ?_, hdispatch⟩
    cases hdoc
    exact hlen rfl

theorem handshakeReq_enforced : Enforced handler .handshakeReq seqNum payload s := by
  have hdispatch := dispatch_handshakeReq handler seqNum payload s
  by_cases hpayload : HandshakePayload payload
  · left
    rw [if_pos hpayload] at hdispatch
    obtain ⟨hlen, hmagic⟩ := hpayload
    obtain ⟨lo, hi, b0, b1, b2, b3, rfl⟩ := length_six payload hlen
    have hdoc : Documented seqNum .handshakeReq _ _ := .handshakeReq (readLe16 lo hi)
    rw [lowByte_readLe16, highByte_readLe16, ← hmagic, leBytes_readLe32] at hdoc
    exact ⟨_, hdoc, hdispatch⟩
  · right
    rw [if_neg hpayload] at hdispatch
    refine ⟨fun c hdoc => hpayload ?_, hdispatch⟩
    cases hdoc
    exact ⟨rfl, readLe32_leBytes _ _ _⟩

theorem enforced_iff_empty (type : MessageType) (c : Callback)
    (hdispatch : dispatch handler type seqNum payload s = (true, call handler c s))
    (hempty : Documented seqNum type [] c)
    (honly : ∀ c', Documented seqNum type payload c' → payload = []) :
    Enforced handler type seqNum payload s ↔ payload = [] := by
  constructor
  · rintro (⟨c', hdoc, -⟩ | ⟨-, hfalse⟩)
    · exact honly c' hdoc
    · rw [hdispatch] at hfalse
      cases hfalse
  · rintro rfl
    exact Or.inl ⟨c, hempty, hdispatch⟩

theorem payloadless_enforced_iff (type : MessageType) (h : Payloadless type) :
    Enforced handler type seqNum payload s ↔ payload = [] := by
  rcases h with rfl | rfl | rfl
  · refine enforced_iff_empty handler seqNum payload s _ (.onExitHandshake seqNum) rfl
      .exitHandshake fun c' hdoc => ?_
    cases hdoc
    rfl
  · refine enforced_iff_empty handler seqNum payload s _ (.onMetricsRequest seqNum) rfl
      .metricsReq fun c' hdoc => ?_
    cases hdoc
    rfl
  · refine enforced_iff_empty handler seqNum payload s _ (.onHeartbeat seqNum) rfl
      .heartbeat fun c' hdoc => ?_
    cases hdoc
    rfl

theorem unknown_enforced (type : MessageType) (hcommand : type ≠ .command)
    (hhandshake : type ≠ .handshakeReq) (h : ¬ Payloadless type) :
    Enforced handler type seqNum payload s := by
  simp only [Payloadless, not_or] at h
  obtain ⟨hexit, hmetrics, hheartbeat⟩ := h
  right
  constructor
  · intro c hdoc
    cases hdoc with
    | command => exact hcommand rfl
    | handshakeReq => exact hhandshake rfl
    | exitHandshake => exact hexit rfl
    | metricsReq => exact hmetrics rfl
    | heartbeat => exact hheartbeat rfl
  · rw [dispatch, if_neg hcommand, if_neg hhandshake, if_neg hexit, if_neg hmetrics,
      if_neg hheartbeat]

/-- Of every handler, type and payload the schema is enforced exactly if a message
documented without a payload has none. -/
theorem schema_enforced_iff (type : MessageType) :
    Enforced handler type seqNum payload s ↔ (Payloadless type → payload = []) := by
  by_cases h : Payloadless type
  · rw [payloadless_enforced_iff handler seqNum payload s type h]
    exact ⟨fun hempty _ => hempty, fun himp => himp h⟩
  · refine iff_of_true ?_ fun hpayloadless => absurd hpayloadless h
    by_cases hcommand : type = .command
    · subst hcommand
      exact command_enforced handler seqNum payload s
    · by_cases hhandshake : type = .handshakeReq
      · subst hhandshake
        exact handshakeReq_enforced handler seqNum payload s
      · exact unknown_enforced handler seqNum payload s type hcommand hhandshake h

end Types

/-- A request for the metrics with one byte of payload is answered. -/
theorem metrics_payload_dispatched :
    dispatch recorder .metricsReq 7 [0] [] = (true, [.onMetricsRequest 7]) ∧
    ¬ ∀ type seqNum payload, Enforced recorder type seqNum payload [] := by
  refine ⟨rfl, fun h => ?_⟩
  have hempty := (payloadless_enforced_iff recorder 7 [0] [] .metricsReq (Or.inr (Or.inl rfl))).mp
    (h .metricsReq 7 [0])
  cases hempty

end SputterOS.MessageSchema
