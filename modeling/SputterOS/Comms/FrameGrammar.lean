import SputterOS.Comms.FrameStream

/-!
# The language of accepted segments

A segment is what arrived since the last delimiter. The grammar of frames is
stated on whole segments and without buffer bounds. The buffer of the decoder
holds the segment only up to its capacity: the byte which overflows it is
dropped and accumulation starts again in the middle of the segment.
-/

set_option autoImplicit false

namespace SputterOS.FrameGrammar
open Foundation.BlockStuffing SputterOS.CobsCodec SputterOS.Crc16 SputterOS.FrameCodec

/-- The zero-free bytes behind the last delimiter of what was fed. -/
def segment (fed : List UInt8) : List UInt8 := fed.rtakeWhile (· ≠ 0)

/-- A stuffed raw frame with matching checksum and declared length. -/
def FrameSegment (MaxPayload : ℕ) (seg : List UInt8) : Prop :=
  ∃ bs, (∀ b ∈ bs, Block b) ∧ serialize bs = seg ∧
    ∃ type seqNum payload, RawFrame MaxPayload (join 0 254 bs) type seqNum payload

def InGrammar (MaxPayload : ℕ) (seg : List UInt8) : Prop :=
  seg.length ≤ kMaxCobsSize MaxPayload ∧ FrameSegment MaxPayload seg

def ReadyAt (MaxPayload : ℕ) (fed : List UInt8) : Prop :=
  ((FrameDecoder.initial.feed MaxPayload fed).feedByte MaxPayload 0).1 = .frameReady

instance (MaxPayload : ℕ) (fed : List UInt8) : Decidable (ReadyAt MaxPayload fed) :=
  inferInstanceAs (Decidable (_ = _))

/-- What is left of a segment when every byte number `L+1` empties the buffer. -/
def overflowTail (L : ℕ) (seg : List UInt8) : List UInt8 :=
  seg.drop ((L+1)*(seg.length/(L+1)))

theorem overflowTail_length (L : ℕ) (seg : List UInt8) :
    (overflowTail L seg).length = seg.length % (L+1) := by
  rw [overflowTail, List.length_drop, ← Nat.mod_eq_sub_mul_div]

theorem overflowTail_short (L : ℕ) (seg : List UInt8) (h : seg.length ≤ L) :
    overflowTail L seg = seg := by
  rw [overflowTail, Nat.div_eq_of_lt (by omega)]
  simp

theorem overflowTail_push (L : ℕ) (seg : List UInt8) (b : UInt8) :
    overflowTail L (seg ++ [b]) =
      if (overflowTail L seg).length < L then overflowTail L seg ++ [b] else [] := by
  rw [overflowTail_length]
  have hm := Nat.mod_lt seg.length (show L+1 > 0 by omega)
  have hd := Nat.div_add_mod seg.length (L+1)
  have hc := Nat.mul_comm (L+1) (seg.length/(L+1))
  split_ifs with h
  · have hq : (seg.length+1)/(L+1) = seg.length/(L+1) := by
      rw [Nat.div_eq_iff (by omega)]
      constructor <;> omega
    rw [overflowTail, List.length_append, List.length_singleton, hq,
      List.drop_append_of_le_length (by omega)]
    rfl
  · have hL : seg.length % (L+1) = L := by omega
    have hq : (seg.length+1)/(L+1) = seg.length/(L+1)+1 := by
      rw [Nat.div_eq_iff (by omega), Nat.add_mul]
      constructor <;> omega
    rw [overflowTail, List.length_append, List.length_singleton, hq]
    apply List.drop_of_length_le
    rw [List.length_append, List.length_singleton, mul_add]
    omega

theorem segment_delimiter (fed : List UInt8) : segment (fed ++ [0]) = [] := by
  simp [segment]

theorem segment_data (fed : List UInt8) (b : UInt8) (hb : b ≠ 0) :
    segment (fed ++ [b]) = segment fed ++ [b] := by
  simp [segment, hb]

theorem feed_cobsBuf (MaxPayload : ℕ) (fed : List UInt8) :
    (FrameDecoder.initial.feed MaxPayload fed).cobsBuf =
      overflowTail (kMaxCobsSize MaxPayload) (segment fed) := by
  induction fed using List.reverseRecOn with
  | nil => simp [segment, overflowTail, FrameDecoder.feed, FrameDecoder.initial]
  | append_singleton fed b ih =>
    rw [feed_append]
    change ((FrameDecoder.initial.feed MaxPayload fed).feedByte MaxPayload b).2.cobsBuf = _
    by_cases hb : b = 0
    · subst hb
      rw [feedByte_delimiter_cobsBuf, segment_delimiter]
      simp [overflowTail]
    · rw [segment_data fed b hb, overflowTail_push, ← ih]
      split_ifs with h
      · rw [feedByte_data MaxPayload _ b hb h]
      · rw [feedByte_overflow MaxPayload _ b hb (Nat.not_lt.mp h)]

/-- The bounded decoder sees a raw frame exactly in a segment of the grammar. -/
theorem frameSegment_iff (MaxPayload : ℕ) (seg : List UInt8) :
    FrameSegment MaxPayload seg ↔ ∃ type seqNum payload,
      RawFrame MaxPayload (CobsCodec.decode seg (kMaxRawSize MaxPayload)) type seqNum payload := by
  constructor
  · rintro ⟨bs, hb, hser, type, seqNum, payload, hraw⟩
    have hlen := hraw.length_eq
    have hpl : payload.length ≤ MaxPayload := by
      obtain ⟨_, _, _, _, _, _, hpl, _⟩ := hraw
      exact hpl
    have hne : join 0 254 bs ≠ [] := by
      intro he
      rw [he] at hlen
      simp [kFrameOverhead, kFrameHeaderSize, kFrameTrailerSize] at hlen
      omega
    have hdec := (decode_iff seg (join 0 254 bs) (kMaxRawSize MaxPayload) hne).mpr
      ⟨bs, hb, hser, rfl, by rw [hlen, kMaxRawSize]; omega⟩
    exact ⟨type, seqNum, payload, hdec ▸ hraw⟩
  · rintro ⟨type, seqNum, payload, hraw⟩
    have hne : CobsCodec.decode seg (kMaxRawSize MaxPayload) ≠ [] := by
      intro he
      have hlen := hraw.length_eq
      rw [he] at hlen
      simp [kFrameOverhead, kFrameHeaderSize, kFrameTrailerSize] at hlen
      omega
    obtain ⟨bs, hb, hser, hj, -⟩ := (decode_iff seg _ _ hne).mp rfl
    exact ⟨bs, hb, hser, type, seqNum, payload, hj ▸ hraw⟩

theorem not_frameSegment_nil (MaxPayload : ℕ) : ¬ FrameSegment MaxPayload [] := by
  rintro ⟨bs, -, hser, type, seqNum, payload, hraw⟩
  have hlen := hraw.length_eq
  rw [(serialize_eq_nil bs).mp hser] at hlen
  simp [join, kFrameOverhead, kFrameHeaderSize, kFrameTrailerSize] at hlen
  omega

theorem readyAt_iff (MaxPayload : ℕ) (fed : List UInt8) :
    ReadyAt MaxPayload fed ↔
      FrameSegment MaxPayload (overflowTail (kMaxCobsSize MaxPayload) (segment fed)) := by
  rw [ReadyAt, feedByte_delimiter, feed_cobsBuf]
  split_ifs with h
  · simp [List.length_eq_zero_iff.mp h, not_frameSegment_nil]
  · rw [processFrame_ready_iff, feed_cobsBuf, frameSegment_iff]

/-- The decoder decides the grammar at a delimiter exactly when the segment
fits the buffer or its bytes behind the last overflow are no frame. -/
theorem grammar_decided_iff (MaxPayload : ℕ) (fed : List UInt8) :
    (ReadyAt MaxPayload fed ↔ InGrammar MaxPayload (segment fed)) ↔
      ((segment fed).length ≤ kMaxCobsSize MaxPayload ∨
        ¬ FrameSegment MaxPayload (overflowTail (kMaxCobsSize MaxPayload) (segment fed))) := by
  rw [readyAt_iff, InGrammar]
  by_cases h : (segment fed).length ≤ kMaxCobsSize MaxPayload
  · simp [h, overflowTail_short _ _ h]
  · simp [h]

def oversizeStream : List UInt8 :=
  List.replicate 265 1 ++ (encode 256 .heartbeat 7 none 0 (kMaxWireSize 256)).dropLast

theorem oversize_suffix_accepted :
    ¬ ∀ fed, ReadyAt 256 fed ↔ InGrammar 256 (segment fed) := by
  intro h
  have hready : ReadyAt 256 oversizeStream := by decide +kernel
  have hlong : ¬ (segment oversizeStream).length ≤ kMaxCobsSize 256 := by decide +kernel
  exact hlong ((h oversizeStream).mp hready).1

end SputterOS.FrameGrammar
