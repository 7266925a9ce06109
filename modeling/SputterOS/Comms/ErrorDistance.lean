import SputterOS.Comms.BurstDetection
import SputterOS.Foundation.RegisterOrder

/-!
# The distance of accepted frames

Together with its checksum a frame is a message that the register forgets. The
generator has an odd number of ones and its period is 32767, so that accepted
frames of one length are an even number of bits apart, and up to 4095 bytes at
least four.
-/

set_option autoImplicit false

namespace SputterOS.ErrorDistance
open Foundation.ShiftRegister Foundation.RegisterOrder SputterOS.Crc16 SputterOS.FrameCodec
  SputterOS.CobsCodec SputterOS.BurstDetection

def difference (xs ys : List UInt8) : List Bool :=
  List.zipWith xor (messageBits xs) (messageBits ys)

def bitDistance (xs ys : List UInt8) : ℕ := (difference xs ys).count true

theorem messageBits_append (xs ys : List UInt8) :
    messageBits (xs ++ ys) = messageBits xs ++ messageBits ys := List.flatMap_append

theorem difference_append (xs ys us vs : List UInt8) (h : xs.length = ys.length) :
    difference (xs ++ us) (ys ++ vs) = difference xs ys ++ difference us vs := by
  rw [difference, messageBits_append, messageBits_append]
  exact List.zipWith_append (by rw [messageBits_length, messageBits_length, h])

theorem difference_length (xs ys : List UInt8) (h : xs.length = ys.length) :
    (difference xs ys).length = 8*xs.length := by
  rw [difference, List.length_zipWith, messageBits_length, messageBits_length, h, Nat.min_self]

theorem difference_true (xs ys : List UInt8) (h : xs.length = ys.length) (hne : xs ≠ ys) :
    true ∈ difference xs ys := by
  by_contra hno
  apply hne
  apply messageBits_injective xs ys h
  have hlen : (messageBits xs).length = (messageBits ys).length := by
    rw [messageBits_length, messageBits_length, h]
  apply List.ext_getElem hlen
  intro i hi hi'
  by_contra hbit
  apply hno
  refine List.mem_iff_getElem.mpr ⟨i, by simpa [difference] using ⟨hi, hi'⟩, ?_⟩
  simp only [difference, List.getElem_zipWith]
  simpa using hbit

theorem bitDistance_swap (xs ys : List UInt8) (a b c d : UInt8) (h : xs.length = ys.length) :
    bitDistance (xs ++ [a, b]) (ys ++ [c, d]) = bitDistance (xs ++ [b, a]) (ys ++ [d, c]) := by
  have hpair : ∀ p q r s : UInt8, difference [p, q] [r, s] = difference [p] [r] ++ difference [q] [s] :=
    fun p q r s => difference_append [p] [r] [q] [s] rfl
  rw [bitDistance, bitDistance, difference_append _ _ _ _ h, difference_append _ _ _ _ h, hpair, hpair]
  simp only [List.count_append]
  omega

section Register

theorem word_field (c0 c1 : UInt8) :
    word 16 (messageBits [c1, c0]) = (readLe16 c0 c1).toBitVec := by
  have hbits : messageBits [c1, c0] = byteBits c1 ++ byteBits c0 := by
    simp [messageBits]
  have hfield : (readLe16 c0 c1).toBitVec =
      c0.toBitVec.setWidth 16 ||| (c1.toBitVec.setWidth 16 <<< 8) := by
    simp [readLe16]
  apply BitVec.eq_of_getMsbD_eq
  intro i hi
  rw [word_getMsbD _ i hi, hbits, hfield, BitVec.getMsbD_or, BitVec.getMsbD_setWidth,
    BitVec.getMsbD_shiftLeft, BitVec.getMsbD_setWidth, List.getD_eq_getElem?_getD,
    List.getElem?_append, byteBits_length]
  by_cases h : i < 8
  · have h8 : 16-8 ≤ i+8 := by omega
    simp [byteBits, h, h8]
  · have h8 : 16-8 ≤ i := by omega
    have hlt : i-8 < 8 := by omega
    simp [byteBits, h, h8, hlt]

theorem feed_codeword (body : List UInt8) (c0 c1 : UInt8) (h : crc16 body = readLe16 c0 c1) :
    feed generator (0xFFFF : UInt16).toBitVec (messageBits (body ++ [c1, c0])) = 0#16 := by
  have hlen : (messageBits [c1, c0]).length = 16 := messageBits_length _
  have hcrc : feed generator (0xFFFF : UInt16).toBitVec (messageBits body) =
      (readLe16 c0 c1).toBitVec := by
    rw [← crc16From_toBitVec, ← h]
    rfl
  rw [messageBits_append, Foundation.ShiftRegister.feed_append, hcrc, feed_word generator _ _ hlen.le, word_field,
    BitVec.xor_self]
  exact Function.iterate_fixed (shift_zero generator) _

/-- The order of the generator is 7 times 31 times 151. -/
theorem period_generator : period generator = 32767 := by
  have hpower : ∀ (bs : List Bool), (shift generator)^[exponent bs] 1#16 = power generator bs :=
    fun bs => (power_eq generator bs).symm
  apply minimalPeriod_eq
  · exact (hpower (List.replicate 15 true)).trans (by decide +kernel)
  · intro p hp hdvd
    have hfactors : p = 7 ∨ p = 31 ∨ p = 151 := by
      have h : p ∣ 7*(31*151) := hdvd
      rcases (Nat.Prime.dvd_mul hp).mp h with h | h
      · exact Or.inl ((Nat.prime_dvd_prime_iff_eq hp (by decide)).mp h)
      · rcases (Nat.Prime.dvd_mul hp).mp h with h | h
        · exact Or.inr (Or.inl ((Nat.prime_dvd_prime_iff_eq hp (by decide)).mp h))
        · exact Or.inr (Or.inr ((Nat.prime_dvd_prime_iff_eq hp (by decide +kernel)).mp h))
    have hshort : ∀ bs : List Bool, power generator bs ≠ 1#16 → exponent bs = 32767/p →
        (shift generator)^[32767/p] 1#16 ≠ 1#16 := by
      intro bs hbs hexp
      rw [← hexp, hpower]
      exact hbs
    rcases hfactors with rfl | rfl | rfl
    · exact hshort [true, false, false, true, false, false, true, false, false, true, false, false,
        true] (by decide +kernel) (by decide)
    · exact hshort [true, false, false, false, false, true, false, false, false, false, true]
        (by decide +kernel) (by decide)
    · exact hshort [true, false, false, true, true, false, true, true] (by decide +kernel)
        (by decide)

/-- Bodies that fit their checksum fields leave a difference the register forgets. -/
theorem feed_difference (xs ys : List UInt8) (c0 c1 e0 e1 : UInt8) (hlen : xs.length = ys.length)
    (hx : crc16 xs = readLe16 c0 c1) (hy : crc16 ys = readLe16 e0 e1) :
    feed generator 0#16 (difference (xs ++ [c1, c0]) (ys ++ [e1, e0])) = 0#16 := by
  have hbits : (messageBits (xs ++ [c1, c0])).length = (messageBits (ys ++ [e1, e0])).length := by
    simp [messageBits_length, hlen]
  have hxor := feed_xor generator (0xFFFF : UInt16).toBitVec (0xFFFF : UInt16).toBitVec _ _ hbits
  rw [feed_codeword xs c0 c1 hx, feed_codeword ys e0 e1 hy, BitVec.xor_self, BitVec.xor_self] at hxor
  exact hxor.symm

end Register

section Frames

/-- Two raw frames of one length that decoders accept, and that are not the
same, differ in an even number of bits, and in four at least unless they are
longer than 4095 bytes. -/
theorem accepted_apart (MaxPayload : ℕ) (d d' : FrameDecoder) (raw raw' : List UInt8)
    (hraw : CobsCodec.decode d.cobsBuf (kMaxRawSize MaxPayload) = raw)
    (hraw' : CobsCodec.decode d'.cobsBuf (kMaxRawSize MaxPayload) = raw')
    (h : (d.feedByte MaxPayload kFrameDelimiter).1 = .frameReady)
    (h' : (d'.feedByte MaxPayload kFrameDelimiter).1 = .frameReady)
    (hlen : raw.length = raw'.length) (hne : raw ≠ raw') :
    (bitDistance raw raw')%2 = 0 ∧ (raw.length ≤ 4095 → 4 ≤ bitDistance raw raw') := by
  obtain ⟨xs, c0, c1, hx, hcx⟩ := ready_split MaxPayload d h
  obtain ⟨ys, e0, e1, hy, hcy⟩ := ready_split MaxPayload d' h'
  rw [hraw] at hx
  rw [hraw'] at hy
  subst hx hy
  have hbody : xs.length = ys.length := by simpa using hlen
  have hfeed := feed_difference xs ys c0 c1 e0 e1 hbody hcx hcy
  have hodd : parity generator = true := by decide
  have hdist : bitDistance (xs ++ [c0, c1]) (ys ++ [e0, e1]) =
      (difference (xs ++ [c1, c0]) (ys ++ [e1, e0])).count true :=
    bitDistance_swap xs ys c0 c1 e0 e1 hbody
  rw [hdist]
  refine ⟨feed_even generator (by decide) hodd _ hfeed, fun hshort => ?_⟩
  apply feed_four generator (by decide) (by decide) hodd _ hfeed
  · apply difference_true _ _ (by simpa using hbody)
    intro heq
    obtain ⟨rfl, rfl, rfl⟩ := checksum_split _ _ _ _ _ _ heq
    exact hne rfl
  · rw [difference_length _ _ (by simpa using hbody), period_generator]
    simp only [List.length_append, List.length_cons, List.length_nil] at hshort ⊢
    omega

def framed (body : List UInt8) : List UInt8 :=
  body ++ [lowByte (crc16 body).toNat, highByte (crc16 body).toNat]

def plainData : List UInt8 := [0x87, 5, 3, 0, 0x00, 0x00, 0x00]
def shiftedData : List UInt8 := [0x87, 5, 3, 0, 0x88, 0x10, 0x80]

/-- The bound is met. -/
theorem four_bits_apart :
    (bitDistance (framed plainData) (framed shiftedData))%2 = 0 ∧
    ((framed plainData).length ≤ 4095 → 4 ≤ bitDistance (framed plainData) (framed shiftedData)) ∧
    bitDistance (framed plainData) (framed shiftedData) = 4 := by
  obtain ⟨heven, hfour⟩ := accepted_apart 256 (decoderBehind (framed plainData))
    (decoderBehind (framed shiftedData)) (framed plainData) (framed shiftedData)
    (by decide +kernel) (by decide +kernel) (by decide +kernel) (by decide +kernel)
    (by decide +kernel) (by decide +kernel)
  exact ⟨heven, hfour, by decide +kernel⟩

end Frames

end SputterOS.ErrorDistance
