import Mathlib.Logic.Function.Basic
import Mathlib.Data.Nat.Notation
import Mathlib.Data.Option.Basic
import Mathlib.Tactic.SplitIfs

/-!
# Text in a buffer of fixed capacity

Characters are stored one behind another; those beyond the capacity are dropped.
What the buffer holds depends only on the text so far, wherever the parts of that
text end. A terminator takes one cell more.
-/

set_option autoImplicit false

namespace Foundation.TruncatedText

/-- A buffer by index; `none` has not been written. -/
abbrev Cells (α : Type*) := ℕ → Option α

variable {α : Type*} {capacity len : ℕ} {text : List α} {buf : Cells α}

def store (capacity : ℕ) : List α → Cells α → ℕ → Cells α × ℕ
  | [], buf, len => (buf, len)
  | c::cs, buf, len =>
    if len < capacity then store capacity cs (Function.update buf len (some c)) (len+1)
    else (buf, len)

/-- The cells below `len` are as much of the text as fits. The cell at `len` is that
of a terminator. -/
structure Holds (capacity : ℕ) (text : List α) (buf : Cells α) (len : ℕ) : Prop where
  length : len = min text.length capacity
  chars : ∀ i < len, buf i = text[i]?
  free : ∀ i, len < i → buf i = none

structure Terminated (zero : α) (capacity : ℕ) (text : List α) (buf : Cells α) (len : ℕ) : Prop
    extends Holds capacity text buf len where
  terminator : buf len = some zero

theorem holds_nil (capacity : ℕ) : Holds capacity ([] : List α) (fun _ => none) 0 :=
  ⟨(Nat.zero_min capacity).symm, fun _ h => absurd h (Nat.not_lt_zero _), fun _ _ => rfl⟩

theorem Holds.length_le (h : Holds capacity text buf len) : len ≤ capacity := by
  have hlen := h.length
  omega

theorem Holds.length_eq (h : Holds capacity text buf len) (hroom : len < capacity) :
    len = text.length := by
  have hlen := h.length
  omega

theorem Holds.put (h : Holds capacity text buf len) (hroom : len < capacity) (c : α) :
    Holds capacity (text ++ [c]) (Function.update buf len (some c)) (len+1) := by
  have hlen := h.length_eq hroom
  constructor
  · rw [List.length_append, List.length_singleton]
    omega
  · intro i hi
    by_cases hlast : i = len
    · rw [hlast, Function.update_self, hlen, List.getElem?_concat_length]
    · have hi : i < len := by omega
      rw [Function.update_of_ne hlast, h.chars i hi, List.getElem?_append_left (by omega)]
  · intro i hi
    rw [Function.update_of_ne (by omega), h.free i (by omega)]

theorem Holds.dropped (h : Holds capacity text buf len) (hfull : ¬ len < capacity) (cs : List α) :
    Holds capacity (text ++ cs) buf len := by
  have hlen := h.length
  constructor
  · rw [List.length_append]
    omega
  · intro i hi
    rw [h.chars i hi, List.getElem?_append_left (by omega)]
  · exact h.free

theorem Holds.stored (h : Holds capacity text buf len) (cs : List α) :
    Holds capacity (text ++ cs) (store capacity cs buf len).1 (store capacity cs buf len).2 := by
  induction cs generalizing text buf len with
  | nil => simpa [store] using h
  | cons c cs ih =>
    unfold store
    split_ifs with hroom
    · have hput := ih (h.put hroom c)
      rwa [List.append_assoc, List.singleton_append] at hput
    · exact h.dropped hroom (c::cs)

theorem Holds.terminated (h : Holds capacity text buf len) (zero : α) :
    Terminated zero capacity text (Function.update buf len (some zero)) len where
  length := h.length
  chars i hi := by rw [Function.update_of_ne (by omega), h.chars i hi]
  free i hi := by rw [Function.update_of_ne (by omega), h.free i hi]
  terminator := Function.update_self ..

end Foundation.TruncatedText
