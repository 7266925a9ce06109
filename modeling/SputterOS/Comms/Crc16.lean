import Mathlib.Data.Nat.Bitwise

/-!
# CRC16-CCITT and little-endian sixteen-bit fields

The checksum shifts bit by bit without a table. Two-byte fields of a frame
are stored low byte first.
-/

set_option autoImplicit false

namespace SputterOS.Crc16

def crcShift (crc : UInt16) : UInt16 :=
  if crc &&& 0x8000 ≠ 0 then (crc <<< 1) ^^^ 0x1021 else crc <<< 1

def crcByte (crc : UInt16) (b : UInt8) : UInt16 :=
  crcShift^[8] (crc ^^^ (b.toUInt16 <<< 8))

def crc16From (init : UInt16) (data : List UInt8) : UInt16 := data.foldl crcByte init

def crc16 (data : List UInt8) : UInt16 := crc16From 0xFFFF data

def readLe16 (lo hi : UInt8) : UInt16 := lo.toUInt16 ||| (hi.toUInt16 <<< 8)

def lowByte (n : ℕ) : UInt8 := UInt8.ofNat (n &&& 0xFF)

def highByte (n : ℕ) : UInt8 := UInt8.ofNat ((n >>> 8) &&& 0xFF)

theorem lowByte_toNat (n : ℕ) : (lowByte n).toNat = n % 256 := by
  have h : n &&& 0xFF = n % 2^8 := Nat.and_two_pow_sub_one_eq_mod n 8
  simp [lowByte, h]

theorem highByte_toNat (n : ℕ) : (highByte n).toNat = n/256 % 256 := by
  have h : (n >>> 8) &&& 0xFF = (n >>> 8) % 2^8 := Nat.and_two_pow_sub_one_eq_mod _ 8
  rw [highByte, h]
  simp [Nat.shiftRight_eq_div_pow]

theorem or_shiftLeft (x y k : ℕ) (h : x < 2^k) : x ||| (y <<< k) = x+y*2^k := by
  rw [Nat.or_comm, ← Nat.shiftLeft_add_eq_or_of_lt h, Nat.shiftLeft_eq, Nat.add_comm]

theorem readLe16_toNat (lo hi : UInt8) : (readLe16 lo hi).toNat = lo.toNat+256*hi.toNat := by
  have hl : lo.toNat < 2^8 := lo.toNat_lt
  have hh : hi.toNat < 2^8 := hi.toNat_lt
  have hs : (hi.toNat <<< 8) % 2^16 = hi.toNat <<< 8 := by
    rw [Nat.shiftLeft_eq]
    omega
  simp only [readLe16, UInt16.toNat_or, UInt16.toNat_shiftLeft, UInt8.toNat_toUInt16]
  change lo.toNat ||| ((hi.toNat <<< 8) % 2^16) = _
  rw [hs, or_shiftLeft _ _ 8 hl]
  omega

theorem readLe16_bytes (n : ℕ) (h : n < 65536) : (readLe16 (lowByte n) (highByte n)).toNat = n := by
  rw [readLe16_toNat, lowByte_toNat, highByte_toNat]
  omega

theorem readLe16_crc (crc : UInt16) : readLe16 (lowByte crc.toNat) (highByte crc.toNat) = crc :=
  UInt16.toNat_inj.mp (readLe16_bytes crc.toNat crc.toNat_lt)

end SputterOS.Crc16
