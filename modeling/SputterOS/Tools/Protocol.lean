import SputterOS.Comms.FrameStream
import SputterOS.Comms.ResponseSerializer
import SputterOS.Foundation.OffsetReader
import SputterOS.Tools.Cobs

/-!
# The frames of the command-line tool

The tool has its own checksum, frame encoder and frame decoder. Its decoder
keeps a segment of any length and hands a frame to a callback instead of
answering with a result, and it drops frames of a type it does not know.
-/

set_option autoImplicit false

namespace SputterOS.Tools.Protocol
open Foundation.OffsetReader

def FRAME_HEADER_SIZE : ℕ := 4
def FRAME_TRAILER_SIZE : ℕ := 2
def FRAME_OVERHEAD : ℕ := FRAME_HEADER_SIZE+FRAME_TRAILER_SIZE
def FRAME_DELIMITER : UInt8 := 0x00

inductive MessageType where
  | COMMAND
  | HANDSHAKE_REQ
  | METRICS_REQ
  | EXIT_HANDSHAKE
  | ACK
  | NACK
  | HANDSHAKE_RESP
  | TELEMETRY
  | METRICS_RESP
  | LOG
  | DATA
  | PERF_DATA
  | HEARTBEAT
  deriving DecidableEq

namespace MessageType

def value : MessageType → ℕ
  | .COMMAND => 0x01
  | .HANDSHAKE_REQ => 0x02
  | .METRICS_REQ => 0x03
  | .EXIT_HANDSHAKE => 0x04
  | .ACK => 0x81
  | .NACK => 0x82
  | .HANDSHAKE_RESP => 0x83
  | .TELEMETRY => 0x84
  | .METRICS_RESP => 0x85
  | .LOG => 0x86
  | .DATA => 0x87
  | .PERF_DATA => 0x88
  | .HEARTBEAT => 0xF0

def members : List MessageType :=
  [COMMAND, HANDSHAKE_REQ, METRICS_REQ, EXIT_HANDSHAKE, ACK, NACK, HANDSHAKE_RESP, TELEMETRY,
    METRICS_RESP, LOG, DATA, PERF_DATA, HEARTBEAT]

/-- `MessageType(value)`; `none` is the `ValueError` of an unknown value. -/
def ofValue (value : ℕ) : Option MessageType := members.find? (fun t => t.value = value)

end MessageType

def crcShift (crc : ℕ) : ℕ :=
  if crc &&& 0x8000 ≠ 0 then ((crc <<< 1) ^^^ 0x1021) &&& 0xFFFF else (crc <<< 1) &&& 0xFFFF

def crcByte (crc : ℕ) (byte : UInt8) : ℕ := crcShift^[8] (crc ^^^ (byte.toNat <<< 8))

def crc16 (data : List UInt8) : ℕ := data.foldl crcByte 0xFFFF

/-- `struct.pack` of unsigned fields, given as widths and values; a value that
does not fit is an error. -/
def pack (fields : List (ℕ × ℕ)) : Option (List UInt8) :=
  if ∀ f ∈ fields, f.2 < 256^f.1 then
    some (fields.flatMap (fun f => ResponseSerializer.leBytes f.1 f.2))
  else none

/-- `none` is the `struct.error` of a field that does not fit. -/
def encode_frame (msg_type : MessageType) (seq_num : ℕ) (payload : List UInt8) :
    Option (List UInt8) := do
  let header ← pack [(1, msg_type.value), (1, seq_num), (2, payload.length)]
  let raw := header ++ payload
  let checksum ← pack [(2, crc16 raw)]
  some (Cobs.encode (raw ++ checksum) ++ [FRAME_DELIMITER])

structure DecodedFrame where
  msg_type : MessageType
  seq_num : ℕ
  payload : List UInt8
  deriving DecidableEq

/-- The frame handed to the callback, if any. The reads stay inside their
buffers because the length is checked first. -/
def try_decode (buf : List UInt8) : Option DecodedFrame :=
  match Cobs.decode buf with
  | .error _ => none
  | .ok raw =>
    if raw.length < FRAME_OVERHEAD then none
    else
      let frame_data := raw.take (raw.length-FRAME_TRAILER_SIZE)
      let stored_crc := leNat ((raw.drop (raw.length-2)).take 2)
      if crc16 frame_data ≠ stored_crc then none
      else
        let msg_type_raw := leNat (frame_data.take 1)
        let seq_num := leNat ((frame_data.drop 1).take 1)
        let payload_len := leNat ((frame_data.drop 2).take 2)
        if FRAME_HEADER_SIZE+payload_len ≠ frame_data.length then none
        else
          (MessageType.ofValue msg_type_raw).map (fun msg_type =>
            { msg_type := msg_type, seq_num := seq_num
              payload := frame_data.drop FRAME_HEADER_SIZE })

def feed_byte (buf : List UInt8) (byte : UInt8) : List UInt8 × Option DecodedFrame :=
  if byte = FRAME_DELIMITER then ([], if 0 < buf.length then try_decode buf else none)
  else (buf ++ [byte], none)

def feed : List UInt8 → List UInt8 → List DecodedFrame
  | _, [] => []
  | buf, b::data => (feed_byte buf b).2.toList ++ feed (feed_byte buf b).1 data

/-- The value is the bit pattern of its float; `none` is the `struct.error` of an
identifier that does not fit. -/
def encode_command (cmd_id device : ℕ) (value : UInt32) : Option (List UInt8) :=
  pack [(1, cmd_id), (1, device), (4, value.toNat)]

def decode_ack (payload : List UInt8) : Option ℕ :=
  if payload.length ≠ 1 then none else some (leNat (payload.take 1))

def decode_nack (payload : List UInt8) : Option (ℕ × ℕ × UInt32) :=
  if payload.length ≠ 6 then none
  else some (leNat (payload.take 1), leNat ((payload.drop 1).take 1),
    UInt32.ofNat (leNat (payload.drop 2)))

/-- `decodeText` stands for the decoding of UTF-8. -/
def decode_log {τ : Type*} (decodeText : List UInt8 → τ) (payload : List UInt8) : Option (ℕ × τ) :=
  if payload.length < 1 then none
  else some (leNat (payload.take 1), decodeText (payload.drop 1))

section Checksum

theorem crcShift_eq (crc : UInt16) : crcShift crc.toNat = (Crc16.crcShift crc).toNat := by
  have hmask : ∀ n : ℕ, n &&& 0xFFFF = n % 2^16 := fun n => Nat.and_two_pow_sub_one_eq_mod n 16
  have hbit : crc.toNat &&& 0x8000 ≠ 0 ↔ crc &&& 0x8000 ≠ 0 := by
    rw [ne_eq, ne_eq, ← UInt16.toNat_inj, UInt16.toNat_and]
    rfl
  have hshift : (crc <<< 1).toNat = (crc.toNat <<< 1) % 2^16 := UInt16.toNat_shiftLeft crc 1
  simp only [crcShift, Crc16.crcShift, hbit, hmask]
  split_ifs
  · rw [UInt16.toNat_xor, hshift, Nat.xor_mod_two_pow]
    rfl
  · exact hshift.symm

theorem crcByte_eq (crc : UInt16) (b : UInt8) :
    crcByte crc.toNat b = (Crc16.crcByte crc b).toNat := by
  have hb : b.toNat < 2^8 := b.toNat_lt
  have hword : (b.toUInt16 <<< 8).toNat = b.toNat <<< 8 := by
    rw [UInt16.toNat_shiftLeft, UInt8.toNat_toUInt16]
    show (b.toNat <<< 8) % 2^16 = b.toNat <<< 8
    rw [Nat.shiftLeft_eq]
    omega
  have hiter : ∀ (n : ℕ) (c : UInt16),
      crcShift^[n] c.toNat = (Crc16.crcShift^[n] c).toNat := by
    intro n
    induction n with
    | zero => exact fun c => rfl
    | succ n ih =>
      intro c
      rw [Function.iterate_succ_apply, Function.iterate_succ_apply, crcShift_eq, ih]
  rw [crcByte, Crc16.crcByte, ← hiter, UInt16.toNat_xor, hword]

theorem crc16_eq (data : List UInt8) : crc16 data = (Crc16.crc16 data).toNat := by
  have hfold : ∀ (data : List UInt8) (crc : UInt16),
      data.foldl crcByte crc.toNat = (data.foldl Crc16.crcByte crc).toNat := by
    intro data
    induction data with
    | nil => exact fun crc => rfl
    | cons b data ih =>
      intro crc
      rw [List.foldl_cons, List.foldl_cons, crcByte_eq, ih]
  exact hfold data 0xFFFF

end Checksum

section Types

def MessageType.device (t : MessageType) : FrameCodec.MessageType := ⟨UInt8.ofNat t.value⟩

theorem members_device :
    MessageType.members.map MessageType.device = FrameCodec.MessageType.enumerators := rfl

theorem value_lt (t : MessageType) : t.value < 256 := by
  cases t <;> decide

end Types

end SputterOS.Tools.Protocol
