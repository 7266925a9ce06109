import SputterOS.Foundation.Numerals
import Mathlib.Data.List.TakeDrop
import Mathlib.Data.UInt

/-!
# The string builder

Characters go to a buffer of fixed capacity; what does not fit is dropped.
-/

set_option autoImplicit false

namespace SputterOS.Utils
open Foundation.NumberText

def kCapacity : ℕ := 128

structure LightweightStringBuilder where
  buf : List UInt8
  deriving DecidableEq, Repr

def digitsLow : ℕ → ℕ → List UInt8
  | 0, _ => []
  | tmpLen+1, val =>
    if val = 0 then [] else UInt8.ofNat (0x30+val%10) :: digitsLow tmpLen (val/10)

def renderU32 (val : UInt32) : List UInt8 :=
  if val = 0 then [0x30] else (digitsLow 16 val.toNat).reverse

namespace LightweightStringBuilder

def initial : LightweightStringBuilder := ⟨[]⟩

def appendChar (b : LightweightStringBuilder) (c : UInt8) : LightweightStringBuilder :=
  if b.buf.length < kCapacity-1 then ⟨b.buf ++ [c]⟩ else b

def append (b : LightweightStringBuilder) (cs : List UInt8) : LightweightStringBuilder :=
  cs.foldl appendChar b

def appendInt32 (b : LightweightStringBuilder) (value : Int32) : LightweightStringBuilder :=
  if value < 0 then (b.appendChar 0x2D).append (renderU32 (-value).toUInt32)
  else b.append (renderU32 value.toUInt32)

def clear (_ : LightweightStringBuilder) : LightweightStringBuilder := ⟨[]⟩

end LightweightStringBuilder

open LightweightStringBuilder

theorem appendChar_buf (b : LightweightStringBuilder) (c : UInt8)
    (h : b.buf.length ≤ kCapacity-1) :
    (b.appendChar c).buf = (b.buf ++ [c]).take (kCapacity-1) := by
  unfold appendChar
  split_ifs with hl
  · rw [List.take_of_length_le (by simp; omega)]
  · rw [List.take_append_of_le_length (by omega), List.take_of_length_le h]

theorem take_take_append {α : Type*} (n : ℕ) (xs ys : List α) :
    (xs.take n ++ ys).take n = (xs ++ ys).take n := by
  have h : n-min n xs.length = n-xs.length := by omega
  rw [List.take_append, List.take_append, List.take_take, Nat.min_self, List.length_take, h]

theorem append_buf (b : LightweightStringBuilder) (cs : List UInt8)
    (h : b.buf.length ≤ kCapacity-1) :
    (b.append cs).buf = (b.buf ++ cs).take (kCapacity-1) := by
  induction cs generalizing b with
  | nil => simp [append, List.take_of_length_le h]
  | cons c cs ih =>
    have hc := appendChar_buf b c h
    have hl : (b.appendChar c).buf.length ≤ kCapacity-1 := by
      rw [hc]
      exact List.length_take_le _ _
    show ((b.appendChar c).append cs).buf = _
    rw [ih _ hl, hc, take_take_append, List.append_assoc, List.singleton_append]

theorem appendChar_append (b : LightweightStringBuilder) (c : UInt8) :
    b.appendChar c = b.append [c] := rfl

theorem append_append (b : LightweightStringBuilder) (cs ds : List UInt8) :
    (b.append cs).append ds = b.append (cs ++ ds) :=
  List.foldl_append.symm

theorem digitsLow_length (tmpLen val : ℕ) : (digitsLow tmpLen val).length ≤ tmpLen := by
  induction tmpLen generalizing val with
  | zero => simp [digitsLow]
  | succ tmpLen ih =>
    unfold digitsLow
    split_ifs
    · simp
    · simpa using ih (val/10)

theorem renderU32_length (val : UInt32) : (renderU32 val).length ≤ 16 := by
  unfold renderU32
  split_ifs
  · simp
  · rw [List.length_reverse]
    exact digitsLow_length 16 _

theorem digitsLow_decimal (tmpLen val : ℕ) (h : val < 10^tmpLen) :
    (digitsLow tmpLen val).reverse = if val = 0 then [] else decimal val := by
  induction tmpLen generalizing val with
  | zero =>
    obtain rfl : val = 0 := by simpa using h
    rfl
  | succ tmpLen ih =>
    unfold digitsLow
    split_ifs with hzero
    · rfl
    · rw [List.reverse_cons, ih (val/10) (by rw [pow_succ] at h; omega)]
      by_cases hsmall : val < 10
      · rw [if_pos (by omega), decimal_digit val hsmall, Nat.mod_eq_of_lt hsmall, List.nil_append]
      · rw [if_neg (by omega), ← decimal_digits val hsmall]

theorem renderU32_decimal (val : UInt32) : renderU32 val = decimal val.toNat := by
  have hval := val.toNat_lt
  unfold renderU32
  split_ifs with hzero
  · rw [hzero, decimal_digit _ (by decide)]
    decide
  · have hne : val.toNat ≠ 0 := fun h => hzero (UInt32.toNat_inj.mp h)
    have hlt : val.toNat < 10^16 := Nat.lt_trans hval (by decide)
    rw [digitsLow_decimal 16 val.toNat hlt, if_neg hne]

end SputterOS.Utils
