import SputterOS.Comms.FrameCodec
import SputterOS.Foundation.ShiftRegister

/-!
# Bursts of errors

The checksum is a shift register of sixteen bits over the bits of the message,
the most significant bit of a byte first. An error burst of at most sixteen bits
is always detected.
-/

set_option autoImplicit false

namespace SputterOS.BurstDetection
open Foundation.ShiftRegister SputterOS.Crc16 SputterOS.FrameCodec SputterOS.CobsCodec

def generator : BitVec 16 := 0x1021#16

def byteBits (b : UInt8) : List Bool := (List.range 8).map fun i => b.toBitVec.getMsbD i

def messageBits (data : List UInt8) : List Bool := data.flatMap byteBits

/-- Two messages of one length differ, but only inside a window of bits. -/
def BurstApart (width : ℕ) (xs ys : List UInt8) : Prop :=
  xs.length = ys.length ∧ xs ≠ ys ∧
    ∃ start, ∀ i : ℕ, (messageBits xs)[i]? ≠ (messageBits ys)[i]? →
      start ≤ i ∧ i < start+width

theorem byteBits_length (b : UInt8) : (byteBits b).length = 8 := by
  simp [byteBits]

theorem messageBits_length (data : List UInt8) : (messageBits data).length = 8*data.length := by
  induction data with
  | nil => rfl
  | cons b data ih =>
    show (byteBits b ++ messageBits data).length = _
    rw [List.length_append, ih, byteBits_length, List.length_cons]
    omega

theorem byteBits_injective : Function.Injective byteBits := by
  intro b c h
  apply UInt8.toBitVec_inj.mp
  apply BitVec.eq_of_getMsbD_eq
  intro i hi
  have hbit := congrArg (fun bits => bits[i]?) h
  simpa [byteBits, hi] using hbit

theorem messageBits_injective (xs ys : List UInt8) (hlen : xs.length = ys.length)
    (h : messageBits xs = messageBits ys) : xs = ys := by
  induction xs generalizing ys with
  | nil => exact (List.length_eq_zero_iff.mp hlen.symm).symm
  | cons x xs ih =>
    cases ys with
    | nil => simp at hlen
    | cons y ys =>
      have hsplit := List.append_inj (show byteBits x ++ messageBits xs =
        byteBits y ++ messageBits ys from h) (by simp [byteBits_length])
      rw [byteBits_injective hsplit.1, ih ys (by simpa using hlen) hsplit.2]

theorem crcShift_toBitVec (crc : UInt16) :
    (crcShift crc).toBitVec = shift generator crc.toBitVec := by
  have hmsb : (crc &&& 0x8000 ≠ 0) ↔ crc.toBitVec.msb = true := by
    have hand : (crc &&& 0x8000).toBitVec =
        if crc.toBitVec.msb = true then BitVec.twoPow 16 15 else 0#16 := by
      rw [BitVec.msb_eq_getLsbD_last]
      exact BitVec.and_twoPow crc.toBitVec 15
    rw [ne_eq, ← UInt16.toBitVec_inj, hand]
    split
    · next h => simp [h]
    · next h => simp [h]
  unfold crcShift shift
  by_cases h : crc.toBitVec.msb = true
  · rw [if_pos (hmsb.mpr h), h]
    simp [masked, generator]
  · rw [if_neg (fun hc => h (hmsb.mp hc)), Bool.not_eq_true _ |>.mp h]
    simp [masked]

theorem crcByte_toBitVec (crc : UInt16) (b : UInt8) :
    (crcByte crc b).toBitVec = feed generator crc.toBitVec (byteBits b) := by
  have hword : (b.toUInt16 <<< 8).toBitVec = word 16 (byteBits b) := by
    apply BitVec.eq_of_getMsbD_eq
    intro i hi
    rw [word_getMsbD _ i hi]
    by_cases h : i < 8
    · simp [byteBits, h]
    · simp [byteBits, h, BitVec.getMsbD_of_ge b.toBitVec i (Nat.not_lt.mp h)]
  have hiterate : ∀ n (r : UInt16), (crcShift^[n] r).toBitVec = (shift generator)^[n] r.toBitVec :=
    fun n => (Function.Semiconj.iterate_right (f := UInt16.toBitVec) crcShift_toBitVec n)
  rw [crcByte, hiterate, feed_word generator _ _ (by simp [byteBits_length]), byteBits_length,
    UInt16.toBitVec_xor, hword]

theorem crc16From_toBitVec (init : UInt16) (data : List UInt8) :
    (crc16From init data).toBitVec = feed generator init.toBitVec (messageBits data) := by
  induction data generalizing init with
  | nil => rfl
  | cons b data ih =>
    show (crc16From (crcByte init b) data).toBitVec =
      feed generator init.toBitVec (byteBits b ++ messageBits data)
    rw [ih, crcByte_toBitVec, Foundation.ShiftRegister.feed_append]

theorem crc16From_burst (init : UInt16) (xs ys : List UInt8) (h : BurstApart 16 xs ys) :
    crc16From init xs ≠ crc16From init ys := by
  obtain ⟨hlen, hne, start, hburst⟩ := h
  have hbits : messageBits xs ≠ messageBits ys := fun he => hne (messageBits_injective xs ys hlen he)
  have hregister := feed_burst generator (by decide) init.toBitVec (messageBits xs)
    (messageBits ys) (by simp [messageBits_length, hlen]) hbits start hburst
  intro heq
  apply hregister
  rw [← crc16From_toBitVec, ← crc16From_toBitVec, heq]

/-- What the decoder accepts is a body and its checksum. -/
theorem ready_split (MaxPayload : ℕ) (d : FrameDecoder)
    (h : (d.feedByte MaxPayload kFrameDelimiter).1 = .frameReady) :
    ∃ body c0 c1, CobsCodec.decode d.cobsBuf (kMaxRawSize MaxPayload) = body ++ [c0, c1] ∧
      crc16 body = readLe16 c0 c1 := by
  have hready : (d.processFrame MaxPayload).1 = .frameReady := by
    rw [kFrameDelimiter, feedByte_delimiter] at h
    split at h
    · cases h
    · exact h
  obtain ⟨type, seqNum, payload, lo, hi, c0, c1, hsplit, -, -, hcrc⟩ :=
    (processFrame_ready_iff MaxPayload d).mp hready
  exact ⟨_, c0, c1, hsplit, hcrc.symm⟩

theorem ready_checksum (MaxPayload : ℕ) (d : FrameDecoder) (body : List UInt8) (c0 c1 : UInt8)
    (hraw : CobsCodec.decode d.cobsBuf (kMaxRawSize MaxPayload) = body ++ [c0, c1])
    (h : (d.feedByte MaxPayload kFrameDelimiter).1 = .frameReady) :
    crc16 body = readLe16 c0 c1 := by
  obtain ⟨body', e0, e1, hsplit, hcrc⟩ := ready_split MaxPayload d h
  obtain ⟨rfl, rfl, rfl⟩ := checksum_split _ _ _ _ _ _ (hraw.symm.trans hsplit)
  exact hcrc

/-- Two messages apart by a burst have different checksums, and of two raw frames
that agree in the checksum field the decoder accepts one at most. -/
theorem burst_detected (xs ys : List UInt8) (h : BurstApart 16 xs ys) :
    (∀ init, crc16From init xs ≠ crc16From init ys) ∧
    ∀ (MaxPayload : ℕ) (d d' : FrameDecoder) (c0 c1 : UInt8),
      CobsCodec.decode d.cobsBuf (kMaxRawSize MaxPayload) = xs ++ [c0, c1] →
      CobsCodec.decode d'.cobsBuf (kMaxRawSize MaxPayload) = ys ++ [c0, c1] →
      ¬ ((d.feedByte MaxPayload kFrameDelimiter).1 = .frameReady ∧
        (d'.feedByte MaxPayload kFrameDelimiter).1 = .frameReady) := by
  refine ⟨fun init => crc16From_burst init xs ys h, fun MaxPayload d d' c0 c1 hx hy hboth => ?_⟩
  have hcrc := ready_checksum MaxPayload d xs c0 c1 hx hboth.1
  have hcrc' := ready_checksum MaxPayload d' ys c0 c1 hy hboth.2
  exact crc16From_burst 0xFFFF xs ys h (hcrc.trans hcrc'.symm)

def decoderBehind (raw : List UInt8) : FrameDecoder :=
  FrameDecoder.initial.feed 256 (CobsCodec.encode raw 32)

def heartbeat : List UInt8 := [0xF0, 7, 0, 0]
def flipped : List UInt8 := [0xF0, 6, 0x80, 0]
def checksum : UInt8 × UInt8 :=
  (lowByte (crc16 heartbeat).toNat, highByte (crc16 heartbeat).toNat)

def checked (body : List UInt8) : List UInt8 := body ++ [checksum.1, checksum.2]

theorem flipped_apart : BurstApart 16 heartbeat flipped := by
  have hwindow : ∀ i < 32, (messageBits heartbeat)[i]? ≠ (messageBits flipped)[i]? →
      15 ≤ i ∧ i < 15+16 := by decide +kernel
  refine ⟨rfl, by decide, 15, fun i hi => ?_⟩
  by_cases h : i < 32
  · exact hwindow i h hi
  · have hnone : ∀ data : List UInt8, data.length = 4 → (messageBits data)[i]? = none := by
      intro data hdata
      rw [List.getElem?_eq_none_iff, messageBits_length, hdata]
      omega
    exact absurd ((hnone heartbeat rfl).trans (hnone flipped rfl).symm) hi

theorem burst_detected_heartbeat :
    crc16 heartbeat ≠ crc16 flipped ∧
    ((decoderBehind (checked heartbeat)).feedByte 256 kFrameDelimiter).1 = .frameReady ∧
    ¬ (((decoderBehind (checked heartbeat)).feedByte 256 kFrameDelimiter).1 = .frameReady ∧
      ((decoderBehind (checked flipped)).feedByte 256 kFrameDelimiter).1 = .frameReady) :=
  ⟨(burst_detected heartbeat flipped flipped_apart).1 0xFFFF, by decide +kernel,
    (burst_detected heartbeat flipped flipped_apart).2 256 (decoderBehind (checked heartbeat))
      (decoderBehind (checked flipped)) checksum.1 checksum.2 (by decide +kernel)
      (by decide +kernel)⟩

end SputterOS.BurstDetection
