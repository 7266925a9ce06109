import SputterOS.Foundation.NumberText

/-!
# The text command parser

Bytes accumulate until a line terminator. A line is an identifier, a target
device and a value; only the identifier is checked against a bound, the device
is reduced to a byte.
-/

set_option autoImplicit false

namespace SputterOS.Logic
open Foundation.NumberText

/-- The packet that crosses the command queue. The value is the bit pattern of
a float. -/
structure Command where
  id : UInt8
  targetDevice : UInt8
  value : UInt32
  deriving DecidableEq, Repr, Inhabited

/-- The configuration traits, and what the platform decides: the width of `long`,
the bits of a NaN with some characters in parentheses, and the characters the
string builder appends for a float. -/
structure Cfg where
  kMaxLineLen : ℕ := 64
  kMaxValidCommandID : UInt8 := 255
  longBits : ℕ := 32
  nanBits : List UInt8 → ℕ := fun _ => 0x7FC00000
  floatText : UInt32 → List UInt8

/-- `buf` holds the first `m_len` bytes of the source's buffer. -/
structure CommandParser where
  buf : List UInt8
  pending : Command
  hasPending : Bool
  deriving DecidableEq, Repr

namespace CommandParser

def initial : CommandParser := { buf := [], pending := ⟨0, 0, 0⟩, hasPending := false }

def separated (cursor : List UInt8) : Bool :=
  cursor.head? = some 0x20 || cursor.head? = some 0x09

def parseLine (cfg : Cfg) (buf : List UInt8) : Option Command := do
  let (rawId, cursor) ← strtol cfg.longBits buf
  guard (separated cursor)
  let (rawDevice, cursor) ← strtol cfg.longBits cursor
  guard (separated cursor)
  let (rawValue, _) ← strtof cfg.nanBits cursor
  guard (0 ≤ rawId ∧ rawId ≤ cfg.kMaxValidCommandID.toNat)
  pure ⟨UInt8.ofInt rawId, UInt8.ofInt rawDevice, rawValue⟩

def isTerminator (byte : UInt8) : Bool := byte = 0x0A || byte = 0x0D

def feedByte (cfg : Cfg) (p : CommandParser) (byte : UInt8) : Bool × CommandParser :=
  if isTerminator byte then
    if p.buf.length = 0 then (false, p)
    else
      match parseLine cfg p.buf with
      | some cmd => (true, { buf := [], pending := cmd, hasPending := true })
      | none => (false, { p with buf := [] })
  else if cfg.kMaxLineLen-1 ≤ p.buf.length then (false, { p with buf := [] })
  else (false, { p with buf := p.buf ++ [byte] })

def getCommand (p : CommandParser) : Option Command × CommandParser :=
  if p.hasPending then (some p.pending, { p with hasPending := false }) else (none, p)

def reset (p : CommandParser) : CommandParser := { p with buf := [], hasPending := false }

end CommandParser

theorem feedByte_pending (cfg : Cfg) (p : CommandParser) (byte : UInt8) :
    ((p.feedByte cfg byte).1 = true ∧ (p.feedByte cfg byte).2.hasPending = true) ∨
    ((p.feedByte cfg byte).1 = false ∧ (p.feedByte cfg byte).2.hasPending = p.hasPending ∧
      (p.feedByte cfg byte).2.pending = p.pending) := by
  unfold CommandParser.feedByte
  split_ifs
  · simp
  · cases CommandParser.parseLine cfg p.buf <;> simp
  · simp
  · simp

theorem feedByte_cases (cfg : Cfg) (p : CommandParser) (byte : UInt8) :
    (∃ text, p.feedByte cfg byte = (false, { p with buf := text })) ∨
    (∃ cmd, p.feedByte cfg byte = (true, { buf := [], pending := cmd, hasPending := true })) := by
  unfold CommandParser.feedByte
  split_ifs
  · left; exact ⟨p.buf, rfl⟩
  · cases CommandParser.parseLine cfg p.buf with
    | none => left; exact ⟨[], rfl⟩
    | some cmd => right; exact ⟨cmd, rfl⟩
  · left; exact ⟨[], rfl⟩
  · left; exact ⟨p.buf ++ [byte], rfl⟩

theorem feedByte_congr (cfg : Cfg) (p q : CommandParser) (byte : UInt8) (h : p.buf = q.buf) :
    (p.feedByte cfg byte).1 = (q.feedByte cfg byte).1 ∧
    (p.feedByte cfg byte).2.buf = (q.feedByte cfg byte).2.buf ∧
    ((p.feedByte cfg byte).1 = true →
      (p.feedByte cfg byte).2.pending = (q.feedByte cfg byte).2.pending) := by
  unfold CommandParser.feedByte
  rw [h]
  split_ifs with ht hl
  · simp [h]
  · cases CommandParser.parseLine cfg q.buf <;> simp
  · simp
  · simp

end SputterOS.Logic
