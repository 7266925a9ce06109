import SputterOS.Comms.FrameCodec
import SputterOS.Comms.ResponseSerializer
import SputterOS.Logic.CommandParser

/-!
# The protocol router

A decoded frame goes to the callback of its type. Commands and handshakes are
dispatched only with a payload of six bytes, a handshake only with the magic
number; the other types are dispatched whatever their payload.
-/

set_option autoImplicit false

namespace SputterOS.ProtocolRouter
open SputterOS.FrameCodec SputterOS.ResponseSerializer SputterOS.Logic

structure IProtocolHandler (σ : Type*) where
  onCommand : Command → UInt8 → σ → σ
  onHandshakeRequest : UInt16 → UInt8 → σ → σ
  onExitHandshake : UInt8 → σ → σ
  onMetricsRequest : UInt8 → σ → σ
  onHeartbeat : UInt8 → σ → σ

def kCommandPayloadSize : ℕ := 6
def kHandshakePayloadSize : ℕ := 6

/-- Four bytes of a payload, as a `memcpy` or by shifts. -/
def readLe32 (payload : List UInt8) (i : ℕ) : UInt32 :=
  (payload.getD i 0).toUInt32 ||| ((payload.getD (i+1) 0).toUInt32 <<< 8) |||
    ((payload.getD (i+2) 0).toUInt32 <<< 16) ||| ((payload.getD (i+3) 0).toUInt32 <<< 24)

def readCommand (payload : List UInt8) : Command :=
  { id := payload.getD 0 0, targetDevice := payload.getD 1 0, value := readLe32 payload 2 }

theorem readLe32_toNat (payload : List UInt8) (i : ℕ) :
    (readLe32 payload i).toNat =
      (payload.getD i 0).toNat+256*(payload.getD (i+1) 0).toNat+
        65536*(payload.getD (i+2) 0).toNat+16777216*(payload.getD (i+3) 0).toNat := by
  have h0 : (payload.getD i 0).toNat < 2^8 := UInt8.toNat_lt _
  have h1 : (payload.getD (i+1) 0).toNat < 2^8 := UInt8.toNat_lt _
  have h2 : (payload.getD (i+2) 0).toNat < 2^8 := UInt8.toNat_lt _
  have h3 : (payload.getD (i+3) 0).toNat < 2^8 := UInt8.toNat_lt _
  have h8 : UInt32.toNat 8 % 32 = 8 := rfl
  have h16 : UInt32.toNat 16 % 32 = 16 := rfl
  have h24 : UInt32.toNat 24 % 32 = 24 := rfl
  have hshift : ∀ y k, y < 2^8 → k ≤ 24 → (y <<< k) % 2^32 = y <<< k := by
    intro y k hy hk
    apply Nat.mod_eq_of_lt
    rw [Nat.shiftLeft_eq]
    calc y*2^k < 2^8*2^k := Nat.mul_lt_mul_of_pos_right hy (Nat.two_pow_pos k)
      _ = 2^(8+k) := (Nat.pow_add 2 8 k).symm
      _ ≤ 2^32 := Nat.pow_le_pow_right (by decide) (by omega)
  simp only [readLe32, UInt32.toNat_or, UInt32.toNat_shiftLeft, UInt8.toNat_toUInt32, h8, h16, h24]
  rw [hshift _ 8 h1 (by decide), hshift _ 16 h2 (by decide), hshift _ 24 h3 (by decide),
    Crc16.or_shiftLeft _ _ 8 h0, Crc16.or_shiftLeft _ _ 16 (by omega),
    Crc16.or_shiftLeft _ _ 24 (by omega)]
  omega

theorem readLe32_leBytes (v : UInt32) (a b : UInt8) :
    readLe32 (a :: b :: leBytes 4 v.toNat) 2 = v := by
  have hv : v.toNat < 2^32 := v.toNat_lt
  apply UInt32.toNat_inj.mp
  rw [readLe32_toNat]
  simp only [leBytes, List.getD_cons_succ, List.getD_cons_zero, UInt8.toNat_ofNat',
    Nat.shiftRight_eq_div_pow]
  omega

theorem leBytes_readLe32 (a b b0 b1 b2 b3 : UInt8) :
    leBytes 4 (readLe32 [a, b, b0, b1, b2, b3] 2).toNat = [b0, b1, b2, b3] := by
  have h0 : b0.toNat < 2^8 := b0.toNat_lt
  have h1 : b1.toNat < 2^8 := b1.toNat_lt
  have h2 : b2.toNat < 2^8 := b2.toNat_lt
  have h3 : b3.toNat < 2^8 := b3.toNat_lt
  rw [readLe32_toNat]
  simp only [leBytes, List.getD_cons_succ, List.getD_cons_zero, Nat.shiftRight_eq_div_pow,
    List.cons.injEq, ← UInt8.toNat_inj, UInt8.toNat_ofNat', and_true]
  omega

variable {σ : Type*} (handler : IProtocolHandler σ)

def dispatchCommand (seqNum : UInt8) (payload : List UInt8) (s : σ) : Bool × σ :=
  if payload.length ≠ kCommandPayloadSize then (false, s)
  else (true, handler.onCommand (readCommand payload) seqNum s)

def dispatchHandshake (seqNum : UInt8) (payload : List UInt8) (s : σ) : Bool × σ :=
  if payload.length ≠ kHandshakePayloadSize then (false, s)
  else
    let version := Crc16.readLe16 (payload.getD 0 0) (payload.getD 1 0)
    let magic := readLe32 payload 2
    if magic ≠ kHandshakeMagic then (false, s)
    else (true, handler.onHandshakeRequest version seqNum s)

def dispatch (type : MessageType) (seqNum : UInt8) (payload : List UInt8) (s : σ) : Bool × σ :=
  if type = .command then dispatchCommand handler seqNum payload s
  else if type = .handshakeReq then dispatchHandshake handler seqNum payload s
  else if type = .exitHandshake then (true, handler.onExitHandshake seqNum s)
  else if type = .metricsReq then (true, handler.onMetricsRequest seqNum s)
  else if type = .heartbeat then (true, handler.onHeartbeat seqNum s)
  else (false, s)

def HandshakePayload (payload : List UInt8) : Prop :=
  payload.length = kHandshakePayloadSize ∧ readLe32 payload 2 = kHandshakeMagic

instance (payload : List UInt8) : Decidable (HandshakePayload payload) :=
  inferInstanceAs (Decidable (_ ∧ _))

theorem dispatch_handshakeReq (seqNum : UInt8) (payload : List UInt8) (s : σ) :
    dispatch handler .handshakeReq seqNum payload s =
      if HandshakePayload payload then
        (true, handler.onHandshakeRequest (Crc16.readLe16 (payload.getD 0 0) (payload.getD 1 0))
          seqNum s)
      else (false, s) := by
  have hc : MessageType.handshakeReq ≠ .command := by decide
  unfold dispatch
  rw [if_neg hc, if_pos rfl]
  by_cases hl : payload.length = kHandshakePayloadSize
  · by_cases hm : readLe32 payload 2 = kHandshakeMagic
    · simp [dispatchHandshake, HandshakePayload, hl, hm]
    · simp [dispatchHandshake, HandshakePayload, hl, hm]
  · simp [dispatchHandshake, HandshakePayload, hl]

theorem dispatch_exitHandshake (seqNum : UInt8) (payload : List UInt8) (s : σ) :
    dispatch handler .exitHandshake seqNum payload s = (true, handler.onExitHandshake seqNum s) := by
  have hc : MessageType.exitHandshake ≠ .command := by decide
  have hh : MessageType.exitHandshake ≠ .handshakeReq := by decide
  rw [dispatch, if_neg hc, if_neg hh, if_pos rfl]

/-- What the callbacks other than the one for leaving all keep, every dispatch
of another type keeps. -/
theorem dispatch_keeps (I : σ → Prop)
    (hcmd : ∀ cmd seq s, I s → I (handler.onCommand cmd seq s))
    (hhand : ∀ version seq s, I s → I (handler.onHandshakeRequest version seq s))
    (hmetrics : ∀ seq s, I s → I (handler.onMetricsRequest seq s))
    (hbeat : ∀ seq s, I s → I (handler.onHeartbeat seq s))
    (type : MessageType) (hexit : type ≠ .exitHandshake) (seqNum : UInt8) (payload : List UInt8)
    (s : σ) (hs : I s) : I (dispatch handler type seqNum payload s).2 := by
  unfold dispatch dispatchCommand dispatchHandshake
  split_ifs
  · exact hs
  · exact hcmd _ _ _ hs
  · exact hs
  · dsimp only
    split_ifs
    · exact hs
    · exact hhand _ _ _ hs
  · exact hmetrics _ _ hs
  · exact hbeat _ _ hs
  · exact hs

end SputterOS.ProtocolRouter
