import SputterOS.Tools.Protocol

/-!
# One wire format on both sides

The device's encoder and decoder are compared with the tool's, byte for byte
and frame for frame. They differ only where the device is bounded, by the
size of its buffer and of a payload, and where the tool drops types without a
name.
-/

set_option autoImplicit false

namespace SputterOS.Tools.CodecAgreement
open SputterOS.Crc16 SputterOS.FrameCodec SputterOS.FrameStream
open Foundation.OffsetReader (leNat)
open ResponseSerializer (leBytes)
open Protocol (encode_frame try_decode feed_byte feed DecodedFrame)

theorem leBytes_one (n : ℕ) : leBytes 1 n = [UInt8.ofNat n] := rfl

theorem leBytes_two (n : ℕ) : leBytes 2 n = [lowByte n, highByte n] := by
  have hlow : lowByte n = UInt8.ofNat n := by
    rw [← UInt8.toNat_inj, lowByte_toNat]
    rfl
  have hhigh : highByte n = UInt8.ofNat (n >>> 8) := by
    rw [← UInt8.toNat_inj, highByte_toNat, UInt8.toNat_ofNat', Nat.shiftRight_eq_div_pow]
  rw [hlow, hhigh]
  rfl

theorem leNat_two (lo hi : UInt8) : leNat [lo, hi] = (readLe16 lo hi).toNat := by
  rw [readLe16_toNat]
  rfl

theorem encode_frame_raw (t : Protocol.MessageType) (m : Message) (MaxPayload : ℕ)
    (hmax : MaxPayload ≤ 65535) (h : Sendable MaxPayload m) (ht : m.type = t.device) :
    encode_frame t m.seqNum.toNat m.bytes =
      some (Cobs.encode (rawFrame m) ++ [kFrameDelimiter]) := by
  have hlen := bytes_length MaxPayload m h
  have hs : m.payloadLen ≤ MaxPayload := h.1
  have hpack : Protocol.pack [(1, t.value), (1, m.seqNum.toNat), (2, m.bytes.length)] =
      some (t.device.value :: m.seqNum :: [lowByte m.payloadLen, highByte m.payloadLen]) := by
    rw [Protocol.pack, if_pos]
    · simp [hlen, leBytes_one, leBytes_two, Protocol.MessageType.device]
    · have htype := Protocol.value_lt t
      have hseq := m.seqNum.toNat_lt
      simp
      omega
  have hstage : t.device.value :: m.seqNum :: [lowByte m.payloadLen, highByte m.payloadLen] ++
      m.bytes = stage m.type m.seqNum m.payload m.payloadLen := by
    rw [ht]
    rfl
  have hcrc : Protocol.pack [(2, Protocol.crc16 (stage m.type m.seqNum m.payload m.payloadLen))] =
      some [lowByte (crc16 (stage m.type m.seqNum m.payload m.payloadLen)).toNat,
        highByte (crc16 (stage m.type m.seqNum m.payload m.payloadLen)).toNat] := by
    rw [Protocol.pack, if_pos]
    · simp [Protocol.crc16_eq, leBytes_two]
    · simpa [Protocol.crc16_eq] using
        (crc16 (stage m.type m.seqNum m.payload m.payloadLen)).toNat_lt
  rw [encode_frame, hpack]
  simp only [Option.bind_eq_bind, Option.bind_some, hstage, hcrc]
  rfl

def heard : Observation → Option DecodedFrame
  | .frameReady type seqNum _ payload =>
    (Protocol.MessageType.ofValue type.value.toNat).map (fun t =>
      { msg_type := t, seq_num := seqNum.toNat, payload := payload })
  | _ => none

theorem try_decode_split (buf : List UInt8) (t s lo hi c0 c1 : UInt8) (payload : List UInt8)
    (hraw : Cobs.decode buf = .ok (t :: s :: lo :: hi :: (payload ++ [c0, c1]))) :
    try_decode buf =
      if crc16 (t :: s :: lo :: hi :: payload) ≠ readLe16 c0 c1 then none
      else if (readLe16 lo hi).toNat ≠ payload.length then none
      else (Protocol.MessageType.ofValue t.toNat).map (fun msg_type =>
        { msg_type := msg_type, seq_num := s.toNat, payload := payload }) := by
  have hlen : (t :: s :: lo :: hi :: (payload ++ [c0, c1])).length = payload.length+6 := by simp
  have hdata : (t :: s :: lo :: hi :: (payload ++ [c0, c1])).take (payload.length+4) =
      t :: s :: lo :: hi :: payload := by simp
  have htail : ((t :: s :: lo :: hi :: (payload ++ [c0, c1])).drop (payload.length+4)).take 2 =
      [c0, c1] := by simp
  have hcrc : Protocol.crc16 (t :: s :: lo :: hi :: payload) ≠ leNat [c0, c1] ↔
      crc16 (t :: s :: lo :: hi :: payload) ≠ readLe16 c0 c1 := by
    rw [Protocol.crc16_eq, leNat_two, ne_eq, ne_eq, UInt16.toNat_inj]
  have hoff : payload.length+6-2 = payload.length+4 := by omega
  have hsize : Protocol.FRAME_HEADER_SIZE+(readLe16 lo hi).toNat ≠
      (t :: s :: lo :: hi :: payload).length ↔ (readLe16 lo hi).toNat ≠ payload.length := by
    simp only [Protocol.FRAME_HEADER_SIZE, List.length_cons]
    omega
  rw [try_decode, hraw]
  simp only [hlen, Protocol.FRAME_TRAILER_SIZE, hoff, hdata, htail, hcrc]
  rw [if_neg (by simp [Protocol.FRAME_OVERHEAD, Protocol.FRAME_HEADER_SIZE,
    Protocol.FRAME_TRAILER_SIZE])]
  simp only [List.take_succ_cons, List.take_zero, List.drop_succ_cons, List.drop_zero, leNat_two,
    hsize]
  rfl

theorem filter_map_payload (type : Option Protocol.MessageType) (seq_num MaxPayload : ℕ)
    (payload : List UInt8) :
    (type.map (fun t => (⟨t, seq_num, payload⟩ : DecodedFrame))).filter
        (fun f => f.payload.length ≤ MaxPayload) =
      if payload.length ≤ MaxPayload then
        type.map (fun t => (⟨t, seq_num, payload⟩ : DecodedFrame))
      else none := by
  cases type with
  | none => simp
  | some t =>
    rw [Option.map_some]
    by_cases h : payload.length ≤ MaxPayload
    · rw [if_pos h, Option.filter_some_pos (by simpa using h)]
    · rw [if_neg h, Option.filter_some_neg (by simpa using h)]

theorem processFrame_heard (MaxPayload : ℕ) (d : FrameDecoder) :
    heard (observe (d.processFrame MaxPayload)) =
      (try_decode d.cobsBuf).filter (fun f => f.payload.length ≤ MaxPayload) := by
  -- a result of the device that is not empty is the tool's
  have hdev : ∀ raw, CobsCodec.decode d.cobsBuf (kMaxRawSize MaxPayload) = raw → raw ≠ [] →
      Cobs.decode d.cobsBuf = .ok raw ∧ raw.length ≤ kMaxRawSize MaxPayload :=
    fun raw h hne => (Cobs.decode_iff _ raw hne _).mp h
  have hshort : (CobsCodec.decode d.cobsBuf (kMaxRawSize MaxPayload)).length < kFrameOverhead →
      heard (observe (d.processFrame MaxPayload)) = none := by
    intro hl
    simp [FrameDecoder.processFrame, hl, observe, heard]
  cases hraw : Cobs.decode d.cobsBuf with
  | error e =>
    rw [try_decode, hraw]
    apply hshort
    by_cases hnil : CobsCodec.decode d.cobsBuf (kMaxRawSize MaxPayload) = []
    · rw [hnil]
      decide
    · have hframe := (hdev _ rfl hnil).1
      rw [hraw] at hframe
      cases hframe
  | ok raw =>
    have hraw' : CobsCodec.decode d.cobsBuf (kMaxRawSize MaxPayload) = [] ∨
        CobsCodec.decode d.cobsBuf (kMaxRawSize MaxPayload) = raw := by
      by_cases hnil : CobsCodec.decode d.cobsBuf (kMaxRawSize MaxPayload) = []
      · exact Or.inl hnil
      · have hframe := (hdev _ rfl hnil).1
        rw [hraw] at hframe
        exact Or.inr (Except.ok.inj hframe).symm
    by_cases hl : raw.length < kFrameOverhead
    · have hnone : try_decode d.cobsBuf = none := by
        rw [try_decode, hraw]
        exact if_pos hl
      rw [hnone]
      apply hshort
      rcases hraw' with h | h
      · rw [h]
        decide
      · rwa [h]
    · obtain ⟨t, s, lo, hi, payload, c0, c1, rfl⟩ := raw_split raw (Nat.not_lt.mp hl)
      rw [try_decode_split d.cobsBuf t s lo hi c0 c1 payload hraw]
      rcases hraw' with h | h
      · -- the device has no room for these bytes
        have hbig : MaxPayload < payload.length := by
          by_contra hfit
          have hok := (Cobs.decode_iff d.cobsBuf _ (by simp) (kMaxRawSize MaxPayload)).mpr
            ⟨hraw, by simp [kMaxRawSize, kFrameOverhead, kFrameHeaderSize, kFrameTrailerSize]; omega⟩
          rw [h] at hok
          simp at hok
        rw [hshort (by rw [h]; decide)]
        split_ifs
        · rfl
        · rfl
        · rw [filter_map_payload, if_neg (Nat.not_le.mpr hbig)]
      · rw [processFrame_split MaxPayload d t s lo hi c0 c1 payload h]
        split_ifs with hc hb hp hp
        · rfl
        · rfl
        · have hbig : MaxPayload < payload.length := hb.resolve_left hp
          rw [filter_map_payload, if_neg (Nat.not_le.mpr hbig)]
          rfl
        · exact absurd (Or.inl hp) hb
        · have hfit : payload.length ≤ MaxPayload := Nat.not_lt.mp (fun h => hb (Or.inr h))
          rw [filter_map_payload, if_pos hfit]
          rfl

theorem feedByte_heard (MaxPayload : ℕ) (d : FrameDecoder) (b : UInt8)
    (hroom : b ≠ 0 → d.cobsBuf.length < kMaxCobsSize MaxPayload) :
    heard (observe (d.feedByte MaxPayload b)) =
        (feed_byte d.cobsBuf b).2.filter (fun f => f.payload.length ≤ MaxPayload) ∧
      (d.feedByte MaxPayload b).2.cobsBuf = (feed_byte d.cobsBuf b).1 := by
  by_cases hb : b = 0
  · subst hb
    have hdel : feed_byte d.cobsBuf 0 =
        ([], if 0 < d.cobsBuf.length then try_decode d.cobsBuf else none) := if_pos rfl
    rw [hdel, feedByte_delimiter_cobsBuf, feedByte_delimiter]
    refine ⟨?_, rfl⟩
    by_cases hempty : d.cobsBuf.length = 0
    · simp [hempty, observe, heard]
    · rw [if_neg hempty, processFrame_heard]
      simp [Nat.pos_of_ne_zero hempty]
  · have hdata : feed_byte d.cobsBuf b = (d.cobsBuf ++ [b], none) := if_neg hb
    rw [feedByte_data MaxPayload d b hb (hroom hb), hdata]
    exact ⟨rfl, rfl⟩

/-- From equal buffers both decoders deliver the same frames while the
zero-free segments fit the device's buffer. -/
theorem feed_heard (MaxPayload : ℕ) (d : FrameDecoder) (xs : List UInt8) (hz : 0 ∉ d.cobsBuf)
    (hfit : ∀ seg, seg <:+: d.cobsBuf ++ xs → 0 ∉ seg → seg.length ≤ kMaxCobsSize MaxPayload) :
    (observations MaxPayload d xs).filterMap heard =
      (feed d.cobsBuf xs).filter (fun f => f.payload.length ≤ MaxPayload) := by
  induction xs generalizing d with
  | nil => rfl
  | cons b xs ih =>
    have hroom : b ≠ 0 → d.cobsBuf.length < kMaxCobsSize MaxPayload := by
      intro hb
      have hseg := hfit (d.cobsBuf ++ [b]) ⟨[], xs, by simp⟩ (by simp [hz, Ne.symm hb])
      simp only [List.length_append, List.length_singleton] at hseg
      omega
    obtain ⟨hhead, hbuf⟩ := feedByte_heard MaxPayload d b hroom
    have hnext : 0 ∉ (feed_byte d.cobsBuf b).1 ∧
        (feed_byte d.cobsBuf b).1 ++ xs <:+: d.cobsBuf ++ b::xs := by
      by_cases hb : b = 0
      · rw [show feed_byte d.cobsBuf b = ([], _) from if_pos hb]
        exact ⟨by simp, d.cobsBuf ++ [b], [], by simp⟩
      · rw [show feed_byte d.cobsBuf b = (d.cobsBuf ++ [b], none) from if_neg hb]
        exact ⟨by simp [hz, Ne.symm hb], [], [], by simp⟩
    have hrest := ih (d.feedByte MaxPayload b).2 (hbuf ▸ hnext.1)
      (fun seg hseg => hfit seg (hseg.trans (hbuf ▸ hnext.2)))
    rw [observations, List.filterMap_cons, hhead, hrest, hbuf, feed, List.filter_append]
    cases hframe : (feed_byte d.cobsBuf b).2 with
    | none => simp
    | some f =>
      by_cases hf : f.payload.length ≤ MaxPayload
      · rw [Option.filter_some_pos (by simpa using hf)]
        simp [hf]
      · rw [Option.filter_some_neg (by simpa using hf)]
        simp [hf]

/-- The tool encodes every message as the device does, and both decoders,
starting clean, deliver the same frames of known types within the bound. -/
theorem codecs_agree (MaxPayload : ℕ) (hmax : MaxPayload ≤ 65535) :
    (∀ (t : Protocol.MessageType) (m : Message) (outCap : ℕ), m.type = t.device →
      Sendable MaxPayload m → CobsCodec.cobsMaxEncodedLen (kFrameOverhead+m.payloadLen)+1 ≤ outCap →
      encode_frame t m.seqNum.toNat m.bytes =
        some (FrameCodec.encode MaxPayload m.type m.seqNum m.payload m.payloadLen outCap)) ∧
    ∀ xs : List UInt8,
      (∀ seg, seg <:+: xs → 0 ∉ seg → seg.length ≤ kMaxCobsSize MaxPayload) →
      (observations MaxPayload FrameDecoder.initial xs).filterMap heard =
        (feed [] xs).filter (fun f => f.payload.length ≤ MaxPayload) := by
  constructor
  · intro t m outCap ht hs hcap
    have hlen := rawFrame_length MaxPayload hmax m hs
    have hroom : CobsCodec.cobsMaxEncodedLen (rawFrame m).length ≤ outCap-1 := by
      rw [hlen]
      omega
    have hcobs := Cobs.encode_eq (rawFrame m) (outCap-1) hroom
    have hne : rawFrame m ≠ [] := (rawFrame_fits MaxPayload hmax m hs).1
    have hout : (CobsCodec.encode (rawFrame m) (outCap-1)).length ≠ 0 := by
      intro h0
      have hdec := CobsCodec.decode_encode (rawFrame m) hne _ _ hroom le_rfl
      rw [List.length_eq_zero_iff.mp h0] at hdec
      exact hne (hdec.symm.trans rfl)
    rw [encode_frame_raw t m MaxPayload hmax hs ht, hcobs, FrameCodec.encode,
      if_neg (Nat.not_lt.mpr hs.1), if_neg (Nat.not_lt.mpr hcap)]
    exact congrArg some (if_neg hout).symm
  · intro xs hfit
    exact feed_heard MaxPayload FrameDecoder.initial xs (by simp [FrameDecoder.initial])
      (by simpa [FrameDecoder.initial] using hfit)

def strayThenCommand : List UInt8 := [5, 0, 0] ++ wire 256 ⟨.command, 3, some [9, 0, 7], 3⟩

theorem strayThenCommand_fits : strayThenCommand.length ≤ kMaxCobsSize 256 := by decide +kernel

theorem codecs_agree_command :
    encode_frame .COMMAND 3 [9, 0, 7] =
        some (FrameCodec.encode 256 .command 3 (some [9, 0, 7]) 3 (kMaxWireSize 256)) ∧
      (observations 256 FrameDecoder.initial strayThenCommand).filterMap heard =
        (feed [] strayThenCommand).filter (fun f => f.payload.length ≤ 256) ∧
      feed [] strayThenCommand = [⟨.COMMAND, 3, [9, 0, 7]⟩] := by
  refine ⟨?_, ?_, by decide +kernel⟩
  · exact (codecs_agree 256 (by decide)).1 .COMMAND ⟨.command, 3, some [9, 0, 7], 3⟩
      (kMaxWireSize 256) rfl ⟨by decide, Or.inr ⟨_, rfl, by decide⟩⟩ (by decide)
  · exact (codecs_agree 256 (by decide)).2 strayThenCommand fun seg hseg _ =>
      hseg.length_le.trans strayThenCommand_fits

end SputterOS.Tools.CodecAgreement
