import Mathlib.Data.Nat.Bitwise
import Mathlib.Order.Basic
import Mathlib.Data.Int.Order.Basic

/-!
# Numbers in text

The subject sequences of `strtol` in base ten and of `strtof` in the C
locale, over bytes. Both skip white space, take an optional sign and return
the value together with the bytes they leave, or nothing when there is no
number. Values of `strtof` are given by the bits of a binary32 and are rounded
to nearest, ties to even. Which quiet NaN a text gives is up to the platform.
-/

set_option autoImplicit false

namespace Foundation.NumberText

def ascii (s : String) : List UInt8 := s.toList.map Char.toUInt8

def isSpace (b : UInt8) : Bool := b = 0x20 || (0x09 ≤ b && b ≤ 0x0D)

def isDigit (b : UInt8) : Bool := 0x30 ≤ b && b ≤ 0x39

def lower (b : UInt8) : UInt8 := if 0x41 ≤ b ∧ b ≤ 0x5A then b+0x20 else b

def isHexDigit (b : UInt8) : Bool := isDigit b || (0x61 ≤ lower b && lower b ≤ 0x66)

def digitVal (b : UInt8) : ℕ :=
  if isDigit b then b.toNat-0x30 else (lower b).toNat-0x61+10

def digitsVal (base : ℕ) (ds : List UInt8) : ℕ :=
  ds.foldl (fun n d => base*n+digitVal d) 0

def takeSign (s : List UInt8) : Bool × List UInt8 :=
  if s.head? = some 0x2D then (true, s.tail)
  else if s.head? = some 0x2B then (false, s.tail)
  else (false, s)

def saturate (longBits : ℕ) (n : ℤ) : ℤ :=
  max (-2^(longBits-1)) (min n (2^(longBits-1)-1))

def strtol (longBits : ℕ) (s : List UInt8) : Option (ℤ × List UInt8) :=
  let signed := takeSign (s.dropWhile isSpace)
  let digits := signed.2.takeWhile isDigit
  if digits = [] then none
  else
    let n : ℤ := digitsVal 10 digits
    some (saturate longBits (if signed.1 then -n else n), signed.2.dropWhile isDigit)

section Binary32

def infinityBits : ℕ := 0x7F800000

/-- The binary32 nearest to `num/den`, for positive arguments. The exponent is
that of the leading digit, but not below the one of subnormal numbers. -/
def nearest (num den : ℕ) : ℕ :=
  let l : ℤ := (Nat.log2 num : ℤ)-Nat.log2 den
  let l := if den*2^l.toNat ≤ num*2^(-l).toNat then l else l-1
  let e := max (l-23) (-149)
  let a := num*2^(-e).toNat
  let b := den*2^e.toNat
  let q := a/b
  let q := if b < 2*(a%b) ∨ (2*(a%b) = b ∧ q%2 = 1) then q+1 else q
  min (q+(e+149).toNat*2^23) infinityBits

/-- `n` times a power of the base. Exponents far outside the format are not
expanded. -/
def scaled (n base : ℕ) (e : ℤ) : ℕ :=
  if n = 0 then 0
  else if 128 ≤ e then infinityBits
  else if e+Nat.log2 n+1 ≤ -150 then 0
  else nearest (n*base^e.toNat) (base^(-e).toNat)

def takeWord (w : String) (s : List UInt8) : Option (List UInt8) :=
  if (s.take w.length).map lower = ascii w then some (s.drop w.length) else none

/-- Digits before and after an optional point; at least one is required. -/
def takeSignificand (digit : UInt8 → Bool) (s : List UInt8) :
    Option (List UInt8 × List UInt8 × List UInt8) :=
  let whole := s.takeWhile digit
  let after := s.dropWhile digit
  let point := after.head? = some 0x2E
  let fraction := if point then after.tail.takeWhile digit else []
  let rest := if point then after.tail.dropWhile digit else after
  if whole ++ fraction = [] then none else some (whole, fraction, rest)

/-- An exponent with its marker; without digits the marker is not taken. -/
def takeExponent (marker : UInt8) (s : List UInt8) : ℤ × List UInt8 :=
  if s.head?.map lower = some marker then
    let signed := takeSign s.tail
    let digits := signed.2.takeWhile isDigit
    let n : ℤ := digitsVal 10 digits
    if digits = [] then (0, s)
    else (if signed.1 then -n else n, signed.2.dropWhile isDigit)
  else (0, s)

def takeInfinity (s : List UInt8) : Option (ℕ × List UInt8) :=
  (takeWord "infinity" s <|> takeWord "inf" s).map fun rest => (infinityBits, rest)

def isNanChar (b : UInt8) : Bool :=
  isDigit b || b = 0x5F || (0x61 ≤ lower b && lower b ≤ 0x7A)

/-- The characters in parentheses may choose the quiet value. -/
def takeNan (nanBits : List UInt8 → ℕ) (s : List UInt8) : Option (ℕ × List UInt8) :=
  (takeWord "nan" s).map fun rest =>
    let after := rest.tail.dropWhile isNanChar
    if rest.head? = some 0x28 ∧ after.head? = some 0x29 then
      (nanBits (rest.tail.takeWhile isNanChar), after.tail)
    else (nanBits [], rest)

def takeHexadecimal (s : List UInt8) : Option (ℕ × List UInt8) := do
  let body ← takeWord "0x" s
  let (whole, fraction, rest) ← takeSignificand isHexDigit body
  let (e, rest) := takeExponent 0x70 rest
  pure (scaled (digitsVal 16 (whole ++ fraction)) 2 (e-4*fraction.length), rest)

def takeDecimal (s : List UInt8) : Option (ℕ × List UInt8) := do
  let (whole, fraction, rest) ← takeSignificand isDigit s
  let (e, rest) := takeExponent 0x65 rest
  pure (scaled (digitsVal 10 (whole ++ fraction)) 10 (e-fraction.length), rest)

def strtof (nanBits : List UInt8 → ℕ) (s : List UInt8) : Option (UInt32 × List UInt8) :=
  let signed := takeSign (s.dropWhile isSpace)
  (takeInfinity signed.2 <|> takeNan nanBits signed.2 <|> takeHexadecimal signed.2 <|>
    takeDecimal signed.2).map fun m =>
      (UInt32.ofNat (if signed.1 then m.1+0x80000000 else m.1), m.2)

end Binary32

end Foundation.NumberText
