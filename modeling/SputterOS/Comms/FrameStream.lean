import SputterOS.Comms.FrameCodec
import Mathlib.Data.List.DropRight

/-!
# Decoding a stream of frames

Every byte fed to the decoder is observed together with the frame it makes
available. A delimiter leaves the buffer empty whatever was fed before, and
from an empty buffer the decoder follows the encoder frame by frame.
-/

set_option autoImplicit false

namespace SputterOS.FrameStream
open Foundation.BlockStuffing SputterOS.CobsCodec SputterOS.Crc16 SputterOS.FrameCodec

inductive Observation where
  | incomplete
  | error
  | frameReady (type : MessageType) (seqNum : UInt8) (payloadLen : ℕ) (payload : List UInt8)
  deriving DecidableEq, Repr

def observe : DecoderResult × FrameDecoder → Observation
  | (.incomplete, _) => .incomplete
  | (.error, _) => .error
  | (.frameReady, d) => .frameReady d.msgType d.seqNum d.payload.length d.payload

def observations (MaxPayload : ℕ) : FrameDecoder → List UInt8 → List Observation
  | _, [] => []
  | d, b::bs => observe (d.feedByte MaxPayload b) ::
      observations MaxPayload (d.feedByte MaxPayload b).2 bs

structure Message where
  type : MessageType
  seqNum : UInt8
  payload : Option (List UInt8)
  payloadLen : ℕ

/-- A payload of positive length is readable to its end. -/
def Sendable (MaxPayload : ℕ) (m : Message) : Prop :=
  m.payloadLen ≤ MaxPayload ∧ (m.payloadLen = 0 ∨ ∃ p, m.payload = some p ∧ m.payloadLen ≤ p.length)

def Message.bytes (m : Message) : List UInt8 := (m.payload.getD []).take m.payloadLen

def wire (MaxPayload : ℕ) (m : Message) : List UInt8 :=
  FrameCodec.encode MaxPayload m.type m.seqNum m.payload m.payloadLen (kMaxWireSize MaxPayload)

theorem observations_append (MaxPayload : ℕ) (d : FrameDecoder) (xs ys : List UInt8) :
    observations MaxPayload d (xs ++ ys) =
      observations MaxPayload d xs ++ observations MaxPayload (d.feed MaxPayload xs) ys := by
  induction xs generalizing d with
  | nil => rfl
  | cons x xs ih => simp [observations, ih, FrameDecoder.feed]

theorem bytes_length (MaxPayload : ℕ) (m : Message) (h : Sendable MaxPayload m) :
    m.bytes.length = m.payloadLen := by
  rcases h.2 with h0 | ⟨p, hp, hl⟩
  · simp [Message.bytes, h0]
  · simp [Message.bytes, hp, hl]

theorem maxEncodedLen_mono (m n : ℕ) (h : m ≤ n) : cobsMaxEncodedLen m ≤ cobsMaxEncodedLen n := by
  have hdiv := Nat.div_le_div_right (c := 254) h
  unfold cobsMaxEncodedLen
  omega

def rawFrame (m : Message) : List UInt8 :=
  let staged := stage m.type m.seqNum m.payload m.payloadLen
  staged ++ [lowByte (crc16 staged).toNat, highByte (crc16 staged).toNat]

theorem rawFrame_raw (MaxPayload : ℕ) (hmax : MaxPayload ≤ 65535) (m : Message)
    (h : Sendable MaxPayload m) :
    RawFrame MaxPayload (rawFrame m) m.type m.seqNum m.bytes := by
  have hl := bytes_length MaxPayload m h
  have hs : m.payloadLen ≤ MaxPayload := h.1
  refine ⟨lowByte m.payloadLen, highByte m.payloadLen, _, _, rfl, ?_, by omega, readLe16_crc _⟩
  rw [hl]
  exact readLe16_bytes _ (by omega)

theorem rawFrame_length (MaxPayload : ℕ) (hmax : MaxPayload ≤ 65535) (m : Message)
    (h : Sendable MaxPayload m) : (rawFrame m).length = kFrameOverhead+m.payloadLen := by
  rw [(rawFrame_raw MaxPayload hmax m h).length_eq, bytes_length MaxPayload m h]

theorem rawFrame_fits (MaxPayload : ℕ) (hmax : MaxPayload ≤ 65535) (m : Message)
    (h : Sendable MaxPayload m) :
    rawFrame m ≠ [] ∧ (rawFrame m).length ≤ kMaxRawSize MaxPayload ∧
      cobsMaxEncodedLen (rawFrame m).length ≤ kMaxWireSize MaxPayload-1 := by
  have hs : m.payloadLen ≤ MaxPayload := h.1
  have hraw := rawFrame_length MaxPayload hmax m h
  have hle : (rawFrame m).length ≤ kMaxRawSize MaxPayload := by
    rw [hraw, kMaxRawSize]
    omega
  refine ⟨?_, hle, ?_⟩
  · intro he
    rw [he] at hraw
    simp [kFrameOverhead, kFrameHeaderSize, kFrameTrailerSize] at hraw
    omega
  · have hlen := maxEncodedLen_mono _ _ hle
    simpa [kMaxWireSize] using hlen

theorem wire_encode (MaxPayload : ℕ) (hmax : MaxPayload ≤ 65535) (m : Message)
    (h : Sendable MaxPayload m) :
    wire MaxPayload m =
      CobsCodec.encode (rawFrame m) (kMaxWireSize MaxPayload-1) ++ [kFrameDelimiter] := by
  have hs : m.payloadLen ≤ MaxPayload := h.1
  obtain ⟨hne, hle, hcap⟩ := rawFrame_fits MaxPayload hmax m h
  have hbody : CobsCodec.encode (rawFrame m) (kMaxWireSize MaxPayload-1) ≠ [] := by
    intro he
    have hdec := decode_encode _ hne _ _ hcap hle
    rw [he] at hdec
    exact hne (by rw [← hdec]; rfl)
  have hout : ¬ kMaxWireSize MaxPayload < cobsMaxEncodedLen (kFrameOverhead+m.payloadLen)+1 := by
    rw [← rawFrame_length MaxPayload hmax m h]
    simp only [kMaxWireSize, Nat.add_sub_cancel] at hcap ⊢
    omega
  rw [wire, FrameCodec.encode, if_neg (Nat.not_lt.mpr hs), if_neg hout]
  exact if_neg (fun hz => hbody (List.length_eq_zero_iff.mp hz))

theorem wire_eq (MaxPayload : ℕ) (hmax : MaxPayload ≤ 65535) (m : Message)
    (h : Sendable MaxPayload m) :
    ∃ body, wire MaxPayload m = body ++ [0] ∧ 0 ∉ body ∧ body ≠ [] ∧
      body.length ≤ kMaxCobsSize MaxPayload ∧
      CobsCodec.decode body (kMaxRawSize MaxPayload) = rawFrame m := by
  obtain ⟨hne, hle, hcap⟩ := rawFrame_fits MaxPayload hmax m h
  have hdec := decode_encode _ hne _ _ hcap hle
  refine ⟨_, wire_encode MaxPayload hmax m h, zero_notMem_encode _ _, ?_, ?_, hdec⟩
  · intro he
    rw [he] at hdec
    exact hne (by rw [← hdec]; rfl)
  · exact (encode_length _ _).trans (maxEncodedLen_mono _ _ hle)

theorem observations_data (MaxPayload : ℕ) (d : FrameDecoder) (xs : List UInt8)
    (hz : 0 ∉ xs) (hl : d.cobsBuf.length+xs.length ≤ kMaxCobsSize MaxPayload) :
    observations MaxPayload d xs = List.replicate xs.length .incomplete ∧
      d.feed MaxPayload xs = { d with cobsBuf := d.cobsBuf ++ xs } := by
  induction xs generalizing d with
  | nil => simp [observations, FrameDecoder.feed]
  | cons x xs ih =>
    have hx : x ≠ 0 := fun h => hz (by simp [h])
    have hstep := feedByte_data MaxPayload d x hx (by simp at hl; omega)
    have hi := ih { d with cobsBuf := d.cobsBuf ++ [x] } (fun h => hz (by simp [h]))
      (by simp at hl ⊢; omega)
    refine ⟨?_, ?_⟩
    · simp [observations, hstep, observe, hi.1, List.replicate_succ]
    · have hf : d.feed MaxPayload (x::xs) =
          FrameDecoder.feed MaxPayload (d.feedByte MaxPayload x).2 xs := rfl
      rw [hf, hstep, hi.2]
      simp

/-- From an empty buffer one encoded message is delivered at its delimiter
and the buffer is empty again. -/
theorem observations_wire (MaxPayload : ℕ) (hmax : MaxPayload ≤ 65535) (m : Message)
    (h : Sendable MaxPayload m) (d : FrameDecoder) (hd : d.cobsBuf = []) :
    observations MaxPayload d (wire MaxPayload m) =
        List.replicate ((wire MaxPayload m).length-1) .incomplete ++
          [.frameReady m.type m.seqNum m.payloadLen m.bytes] ∧
      (d.feed MaxPayload (wire MaxPayload m)).cobsBuf = [] := by
  obtain ⟨body, hw, hz, hne, hlen, hdec⟩ := wire_eq MaxPayload hmax m h
  obtain ⟨hobs, hfeed⟩ := observations_data MaxPayload d body hz (by simpa [hd] using hlen)
  have hraw := rawFrame_raw MaxPayload hmax m h
  have hready : ({ d with cobsBuf := d.cobsBuf ++ body } : FrameDecoder).feedByte MaxPayload 0 =
      (.frameReady,
        { cobsBuf := [], msgType := m.type, seqNum := m.seqNum, payload := m.bytes }) := by
    rw [feedByte_delimiter, if_neg (by simp [hne])]
    apply processFrame_ready
    simpa [hd, hdec] using hraw
  constructor
  · rw [hw, observations_append, hobs, hfeed]
    simp [observations, hready, observe, bytes_length MaxPayload m h]
  · rw [hw, feed_append, hfeed]
    simp [FrameDecoder.feed, hready]

theorem observations_wires (MaxPayload : ℕ) (hmax : MaxPayload ≤ 65535) (ms : List Message)
    (h : ∀ m ∈ ms, Sendable MaxPayload m) (d : FrameDecoder) (hd : d.cobsBuf = []) :
    observations MaxPayload d (ms.flatMap (wire MaxPayload)) =
      ms.flatMap (fun m => List.replicate ((wire MaxPayload m).length-1) .incomplete ++
        [.frameReady m.type m.seqNum m.payloadLen m.bytes]) := by
  induction ms generalizing d with
  | nil => rfl
  | cons m ms ih =>
    obtain ⟨hobs, hbuf⟩ := observations_wire MaxPayload hmax m (h m (by simp)) d hd
    simp only [List.flatMap_cons]
    rw [observations_append, hobs, ih (fun k hk => h k (by simp [hk])) _ hbuf]

/-- Round trip and resynchronisation. After any bytes and one delimiter the
decoder delivers every encoded message, in order, exactly at its delimiter,
which is the only zero of its encoding. -/
theorem stream_round_trip (MaxPayload : ℕ) (hmax : MaxPayload ≤ 65535) (noise : List UInt8)
    (ms : List Message) (h : ∀ m ∈ ms, Sendable MaxPayload m) :
    observations MaxPayload (FrameDecoder.initial.feed MaxPayload (noise ++ [0]))
        (ms.flatMap (wire MaxPayload)) =
      ms.flatMap (fun m => List.replicate ((wire MaxPayload m).length-1) .incomplete ++
        [.frameReady m.type m.seqNum m.payloadLen m.bytes]) ∧
    ∀ m ∈ ms, m.bytes.length = m.payloadLen ∧
      ∃ body, wire MaxPayload m = body ++ [kFrameDelimiter] ∧ kFrameDelimiter ∉ body := by
  constructor
  · apply observations_wires MaxPayload hmax ms h
    rw [feed_append]
    exact feedByte_delimiter_cobsBuf MaxPayload _
  · intro m hm
    obtain ⟨body, hw, hz, -⟩ := wire_eq MaxPayload hmax m (h m hm)
    exact ⟨bytes_length MaxPayload m (h m hm), body, hw, hz⟩

theorem stream_round_trip_noisy :
    observations 256 (FrameDecoder.initial.feed 256 ([0xAA, 3, 1] ++ [0]))
        ([⟨.command, 3, some [9, 0, 7], 3⟩, ⟨.heartbeat, 4, none, 0⟩].flatMap (wire 256)) =
      ([⟨.command, 3, some [9, 0, 7], 3⟩, ⟨.heartbeat, 4, none, 0⟩] : List Message).flatMap
        (fun m => List.replicate ((wire 256 m).length-1) .incomplete ++
          [.frameReady m.type m.seqNum m.payloadLen m.bytes]) :=
  (stream_round_trip 256 (by decide) [0xAA, 3, 1] _ (by simp [Sendable])).1

end SputterOS.FrameStream
