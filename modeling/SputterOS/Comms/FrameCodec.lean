import SputterOS.Comms.CobsCodec
import SputterOS.Comms.Crc16

/-!
# Frames on the wire

A raw frame is a four-byte header, a payload and a checksum. The encoder
stuffs it and appends the delimiter. The decoder accumulates the bytes of a
frame and validates it at the delimiter; its header fields are assigned
before the length of the payload is checked, as in the source.
-/

set_option autoImplicit false

namespace SputterOS.FrameCodec
open Foundation.BlockStuffing SputterOS.CobsCodec SputterOS.Crc16

def kFrameHeaderSize : ℕ := 4
def kFrameTrailerSize : ℕ := 2
def kFrameOverhead : ℕ := kFrameHeaderSize+kFrameTrailerSize
def kFrameDelimiter : UInt8 := 0x00

/-- Any byte can stand in the type field of a received frame. -/
structure MessageType where
  value : UInt8
  deriving DecidableEq, Repr

namespace MessageType
def command : MessageType := ⟨0x01⟩
def handshakeReq : MessageType := ⟨0x02⟩
def metricsReq : MessageType := ⟨0x03⟩
def exitHandshake : MessageType := ⟨0x04⟩
def ack : MessageType := ⟨0x81⟩
def nack : MessageType := ⟨0x82⟩
def handshakeResp : MessageType := ⟨0x83⟩
def telemetry : MessageType := ⟨0x84⟩
def metricsResp : MessageType := ⟨0x85⟩
def log : MessageType := ⟨0x86⟩
def data : MessageType := ⟨0x87⟩
def perfData : MessageType := ⟨0x88⟩
def heartbeat : MessageType := ⟨0xF0⟩

def enumerators : List MessageType :=
  [command, handshakeReq, metricsReq, exitHandshake, ack, nack, handshakeResp, telemetry,
    metricsResp, log, data, perfData, heartbeat]

end MessageType

section Encoder

variable (MaxPayload : ℕ)

def kMaxRawSize : ℕ := kFrameOverhead+MaxPayload
def kMaxCobsSize : ℕ := cobsMaxEncodedLen (kMaxRawSize MaxPayload)
def kMaxWireSize : ℕ := cobsMaxEncodedLen (kMaxRawSize MaxPayload)+1

/-- Header and payload as the encoder stages them. A null payload leaves no
bytes behind, whatever its declared length. -/
def stage (type : MessageType) (seqNum : UInt8) (payload : Option (List UInt8))
    (payloadLen : ℕ) : List UInt8 :=
  type.value :: seqNum :: lowByte payloadLen :: highByte payloadLen ::
    (payload.getD []).take payloadLen

def encode (type : MessageType) (seqNum : UInt8) (payload : Option (List UInt8))
    (payloadLen outCap : ℕ) : List UInt8 :=
  if MaxPayload < payloadLen then []
  else if outCap < cobsMaxEncodedLen (kFrameOverhead+payloadLen)+1 then []
  else
    let staged := stage type seqNum payload payloadLen
    let crc := (crc16 staged).toNat
    let cobs := CobsCodec.encode (staged ++ [lowByte crc, highByte crc]) (outCap-1)
    if cobs.length = 0 then [] else cobs ++ [kFrameDelimiter]

end Encoder

inductive DecoderResult where
  | incomplete
  | frameReady
  | error
  deriving DecidableEq, Repr

/-- `cobsBuf` holds the accumulated bytes, `payload` the decoded ones. -/
structure FrameDecoder where
  cobsBuf : List UInt8
  msgType : MessageType
  seqNum : UInt8
  payload : List UInt8
  deriving DecidableEq, Repr

namespace FrameDecoder

def initial : FrameDecoder :=
  { cobsBuf := [], msgType := .heartbeat, seqNum := 0, payload := [] }

/-- Only the length of the payload is cleared in the source; its bytes are
out of reach afterwards. -/
def reset (_ : FrameDecoder) : FrameDecoder := initial

variable (MaxPayload : ℕ)

def processFrame (d : FrameDecoder) : DecoderResult × FrameDecoder :=
  let raw := CobsCodec.decode d.cobsBuf (kMaxRawSize MaxPayload)
  let d := { d with cobsBuf := [] }
  if raw.length < kFrameOverhead then (.error, d)
  else
    let crcOffset := raw.length-kFrameTrailerSize
    let crcExpect := readLe16 (raw.getD crcOffset 0) (raw.getD (crcOffset+1) 0)
    let crcComputed := crc16 (raw.take crcOffset)
    if crcComputed ≠ crcExpect then (.error, d)
    else
      let d := { d with msgType := ⟨raw.getD 0 0⟩, seqNum := raw.getD 1 0 }
      let pl := readLe16 (raw.getD 2 0) (raw.getD 3 0)
      if pl.toNat ≠ crcOffset-kFrameHeaderSize then (.error, d)
      else if MaxPayload < pl.toNat then (.error, d)
      else (.frameReady, { d with payload := (raw.drop kFrameHeaderSize).take pl.toNat })

def feedByte (d : FrameDecoder) (b : UInt8) : DecoderResult × FrameDecoder :=
  if b = kFrameDelimiter then
    if d.cobsBuf.length = 0 then (.incomplete, d) else processFrame MaxPayload d
  else if d.cobsBuf.length < kMaxCobsSize MaxPayload then
    (.incomplete, { d with cobsBuf := d.cobsBuf ++ [b] })
  else (.error, { d with cobsBuf := [] })

def feed (d : FrameDecoder) (bs : List UInt8) : FrameDecoder :=
  bs.foldl (fun d b => (feedByte MaxPayload d b).2) d

end FrameDecoder

def RawFrame (MaxPayload : ℕ) (raw : List UInt8) (type : MessageType) (seqNum : UInt8)
    (payload : List UInt8) : Prop :=
  ∃ lo hi c0 c1, raw = type.value :: seqNum :: lo :: hi :: (payload ++ [c0, c1]) ∧
    (readLe16 lo hi).toNat = payload.length ∧ payload.length ≤ MaxPayload ∧
    readLe16 c0 c1 = crc16 (type.value :: seqNum :: lo :: hi :: payload)

theorem RawFrame.length_eq {MaxPayload : ℕ} {raw : List UInt8} {type : MessageType}
    {seqNum : UInt8} {payload : List UInt8} (h : RawFrame MaxPayload raw type seqNum payload) :
    raw.length = kFrameOverhead+payload.length := by
  obtain ⟨lo, hi, c0, c1, rfl, -⟩ := h
  simp [kFrameOverhead, kFrameHeaderSize, kFrameTrailerSize]
  omega

theorem raw_split (raw : List UInt8) (h : kFrameOverhead ≤ raw.length) :
    ∃ t s lo hi payload c0 c1, raw = t :: s :: lo :: hi :: (payload ++ [c0, c1]) := by
  have h6 : 6 ≤ raw.length := h
  match raw, h6 with
  | t :: s :: lo :: hi :: rest, h6 =>
    have h2 : 2 ≤ rest.length := by simpa using h6
    have hd : (rest.drop (rest.length-2)).length = 2 := by simp; omega
    match htail : rest.drop (rest.length-2), hd with
    | [c0, c1], _ =>
      refine ⟨t, s, lo, hi, rest.take (rest.length-2), c0, c1, ?_⟩
      rw [← htail, List.take_append_drop]

theorem checksum_split (body body' : List UInt8) (c0 c1 c0' c1' : UInt8)
    (h : body ++ [c0, c1] = body' ++ [c0', c1']) : body = body' ∧ c0 = c0' ∧ c1 = c1' := by
  obtain ⟨hbody, htail⟩ := List.append_inj' h rfl
  obtain ⟨h0, h1⟩ : c0 = c0' ∧ c1 = c1' := by simpa using htail
  exact ⟨hbody, h0, h1⟩

theorem processFrame_split (MaxPayload : ℕ) (d : FrameDecoder) (t s lo hi c0 c1 : UInt8)
    (payload : List UInt8)
    (hraw : CobsCodec.decode d.cobsBuf (kMaxRawSize MaxPayload) =
      t :: s :: lo :: hi :: (payload ++ [c0, c1])) :
    d.processFrame MaxPayload =
      if crc16 (t :: s :: lo :: hi :: payload) ≠ readLe16 c0 c1 then
        (.error, { d with cobsBuf := [] })
      else if (readLe16 lo hi).toNat ≠ payload.length ∨ MaxPayload < payload.length then
        (.error, { d with cobsBuf := [], msgType := ⟨t⟩, seqNum := s })
      else (.frameReady, { cobsBuf := [], msgType := ⟨t⟩, seqNum := s, payload := payload }) := by
  have hoff : (t :: s :: lo :: hi :: (payload ++ [c0, c1])).length-kFrameTrailerSize =
      payload.length+4 := by simp [kFrameTrailerSize]
  simp only [FrameDecoder.processFrame, hraw]
  rw [if_neg (by simp [kFrameOverhead, kFrameHeaderSize, kFrameTrailerSize]), hoff]
  simp only [List.take_succ_cons, List.getD_cons_succ, List.getD_cons_zero, List.drop_succ_cons,
    List.drop_zero, kFrameHeaderSize, Nat.add_sub_cancel]
  have htake : (payload ++ [c0, c1]).take payload.length = payload := by simp
  have h0 : (payload ++ [c0, c1]).getD payload.length 0 = c0 := by simp
  have h1 : (payload ++ [c0, c1]).getD (payload.length+1) 0 = c1 := by
    simp
  rw [htake, h0, h1]
  by_cases hc : crc16 (t :: s :: lo :: hi :: payload) = readLe16 c0 c1
  · by_cases hl : (readLe16 lo hi).toNat = payload.length
    · by_cases hm : MaxPayload < payload.length
      · simp [hc, hl, hm]
      · simp [hc, hl, hm]
    · simp [hc, hl]
  · simp [hc]

theorem processFrame_ready (MaxPayload : ℕ) (d : FrameDecoder) (type : MessageType)
    (seqNum : UInt8) (payload : List UInt8)
    (h : RawFrame MaxPayload (CobsCodec.decode d.cobsBuf (kMaxRawSize MaxPayload))
      type seqNum payload) :
    d.processFrame MaxPayload = (.frameReady,
      { cobsBuf := [], msgType := type, seqNum := seqNum, payload := payload }) := by
  obtain ⟨lo, hi, c0, c1, hraw, hl, hm, hc⟩ := h
  rw [processFrame_split MaxPayload d _ _ _ _ _ _ _ hraw, if_neg (by simp [hc]),
    if_neg (by simp [hl, hm])]

theorem processFrame_ready_iff (MaxPayload : ℕ) (d : FrameDecoder) :
    (d.processFrame MaxPayload).1 = .frameReady ↔
      ∃ type seqNum payload, RawFrame MaxPayload
        (CobsCodec.decode d.cobsBuf (kMaxRawSize MaxPayload)) type seqNum payload := by
  constructor
  · intro h
    by_cases hs : (CobsCodec.decode d.cobsBuf (kMaxRawSize MaxPayload)).length < kFrameOverhead
    · simp [FrameDecoder.processFrame, hs] at h
    · obtain ⟨t, s, lo, hi, payload, c0, c1, hraw⟩ := raw_split _ (Nat.not_lt.mp hs)
      rw [processFrame_split MaxPayload d _ _ _ _ _ _ _ hraw] at h
      split_ifs at h with hc hl
      push Not at hc hl
      exact ⟨⟨t⟩, s, payload, lo, hi, c0, c1, hraw, hl.1, hl.2, hc.symm⟩
  · rintro ⟨type, seqNum, payload, h⟩
    rw [processFrame_ready MaxPayload d type seqNum payload h]

theorem processFrame_cobsBuf (MaxPayload : ℕ) (d : FrameDecoder) :
    (d.processFrame MaxPayload).2.cobsBuf = [] := by
  simp only [FrameDecoder.processFrame]
  split_ifs <;> rfl

theorem feedByte_delimiter (MaxPayload : ℕ) (d : FrameDecoder) :
    d.feedByte MaxPayload 0 =
      if d.cobsBuf.length = 0 then (.incomplete, d) else d.processFrame MaxPayload := by
  simp [FrameDecoder.feedByte, kFrameDelimiter]

theorem feedByte_data (MaxPayload : ℕ) (d : FrameDecoder) (b : UInt8) (hb : b ≠ 0)
    (h : d.cobsBuf.length < kMaxCobsSize MaxPayload) :
    d.feedByte MaxPayload b = (.incomplete, { d with cobsBuf := d.cobsBuf ++ [b] }) := by
  simp [FrameDecoder.feedByte, kFrameDelimiter, hb, h]

theorem feedByte_overflow (MaxPayload : ℕ) (d : FrameDecoder) (b : UInt8) (hb : b ≠ 0)
    (h : kMaxCobsSize MaxPayload ≤ d.cobsBuf.length) :
    d.feedByte MaxPayload b = (.error, { d with cobsBuf := [] }) := by
  simp [FrameDecoder.feedByte, kFrameDelimiter, hb, Nat.not_lt.mpr h]

theorem feedByte_delimiter_cobsBuf (MaxPayload : ℕ) (d : FrameDecoder) :
    (d.feedByte MaxPayload 0).2.cobsBuf = [] := by
  rw [feedByte_delimiter]
  split_ifs with h
  · exact List.length_eq_zero_iff.mp h
  · exact processFrame_cobsBuf MaxPayload d

theorem feed_append (MaxPayload : ℕ) (d : FrameDecoder) (xs ys : List UInt8) :
    d.feed MaxPayload (xs ++ ys) = (d.feed MaxPayload xs).feed MaxPayload ys :=
  List.foldl_append

end SputterOS.FrameCodec
