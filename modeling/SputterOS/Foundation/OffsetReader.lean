import Mathlib.Data.Nat.Basic
import Mathlib.Tactic.Ring

/-!
# Reading fields at a moving offset

A reader takes a buffer and an offset and returns a value and the offset
behind it. Reading past the end fails. Readers compose with the byte strings
they decode: what one leaves off, the next one starts with.
-/

set_option autoImplicit false

namespace Foundation.OffsetReader

variable {α β : Type}

def Reader (α : Type) : Type := List UInt8 → ℕ → Option (α × ℕ)

instance : Monad Reader where
  pure a := fun _ off => some (a, off)
  bind r k := fun buf off => (r buf off).bind (fun p => k p.1 buf p.2)

def leNat : List UInt8 → ℕ
  | [] => 0
  | b::bs => b.toNat+256*leNat bs

def unsigned (width : ℕ) : Reader ℕ := fun buf off =>
  if off+width ≤ buf.length then some (leNat ((buf.drop off).take width), off+width) else none

def size : Reader ℕ := fun buf off => some (buf.length, off)

def times (r : Reader α) : ℕ → Reader (List α)
  | 0 => pure []
  | n+1 => do
    let a ← r
    let as ← times r n
    pure (a::as)

/-- Where `bytes` stand at the offset, the reader returns `a` and moves behind them. -/
def Decodes (buf : List UInt8) (r : Reader α) (bytes : List UInt8) (a : α) : Prop :=
  ∀ front rest, buf = front ++ bytes ++ rest →
    r buf front.length = some (a, (front ++ bytes).length)

variable {buf : List UInt8}

theorem Decodes.pure (a : α) : Decodes buf (Pure.pure a) [] a := by
  intro front rest _
  rw [List.append_nil]
  rfl

theorem Decodes.bind {r : Reader α} {k : α → Reader β} {bytes bytes' : List UInt8} {a : α} {b : β}
    (h : Decodes buf r bytes a) (hk : Decodes buf (k a) bytes' b) :
    Decodes buf (r >>= k) (bytes ++ bytes') b := by
  intro front rest hbuf
  have hfirst := h front (bytes' ++ rest) (by simpa using hbuf)
  have hsecond := hk (front ++ bytes) rest (by simpa using hbuf)
  show (r buf front.length).bind (fun p => k p.1 buf p.2) = _
  rw [hfirst, Option.bind_some, hsecond, List.append_assoc]

theorem Decodes.map {r : Reader α} {bytes : List UInt8} {a : α} (f : α → β)
    (h : Decodes buf r bytes a) : Decodes buf (r >>= fun x => Pure.pure (f x)) bytes (f a) := by
  rw [← List.append_nil bytes]
  have hend : Decodes buf ((fun x => Pure.pure (f x)) a : Reader β) [] (f a) := Decodes.pure (f a)
  exact h.bind hend

theorem Decodes.size : Decodes buf OffsetReader.size [] buf.length := by
  intro front rest _
  rw [List.append_nil]
  rfl

theorem Decodes.unsigned {width n : ℕ} {bytes : List UInt8} (hl : bytes.length = width)
    (hn : leNat bytes = n) : Decodes buf (unsigned width) bytes n := by
  intro front rest hbuf
  have hdrop : (buf.drop front.length).take width = bytes := by
    rw [hbuf, List.append_assoc, List.drop_left, ← hl, List.take_left]
  have hroom : front.length+width ≤ buf.length := by
    rw [hbuf, List.length_append, List.length_append, hl]
    omega
  rw [OffsetReader.unsigned, if_pos hroom, hdrop, hn, List.length_append, hl]

theorem Decodes.times {r : Reader α} {bytes : ℕ → List UInt8} {a : ℕ → α} (n : ℕ)
    (h : ∀ i, i < n → Decodes buf r (bytes i) (a i)) :
    Decodes buf (times r n) ((List.range n).flatMap bytes) ((List.range n).map a) := by
  induction n generalizing bytes a with
  | zero => exact Decodes.pure []
  | succ n ih =>
    have hrest : Decodes buf (OffsetReader.times r n)
        ((List.range n).flatMap (fun i => bytes (i+1)))
        ((List.range n).map (fun i => a (i+1))) := ih (fun i hi => h (i+1) (by omega))
    rw [List.range_succ_eq_map, List.flatMap_cons, List.map_cons, List.flatMap_map, List.map_map]
    exact (h 0 (by omega)).bind (hrest.map (fun as => a 0::as))

end Foundation.OffsetReader
