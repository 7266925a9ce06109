import SputterOS.Foundation.TruncatedText
import SputterOS.Utils.LightweightStringBuilder

/-!
# The buffer of the string builder

The builder with its array and the nulls in it. A string, a character or a number goes
behind what the array holds, as far as it fits. The negation of a signed number is
undefined where its result does not fit; a run that reaches it has no builder.
-/

set_option autoImplicit false

namespace SputterOS.BuilderBuffer
open Foundation.NumberText (decimal)
open Foundation.TruncatedText SputterOS.Utils

structure Builder where
  m_buf : Cells UInt8
  m_len : ℕ

namespace Builder

def initial : Builder := ⟨Function.update (fun _ => none) 0 (some 0), 0⟩

/-- The loops `m_buf[m_len++] = …` over characters, while there is room. -/
def copy : List UInt8 → Builder → Builder
  | [], b => b
  | c::cs, b =>
    if b.m_len < kCapacity-1 then
      copy cs ⟨Function.update b.m_buf b.m_len (some c), b.m_len+1⟩
    else b

def terminate (b : Builder) : Builder :=
  { b with m_buf := Function.update b.m_buf b.m_len (some 0) }

/-- No string is a null pointer; a string ends before its first null. -/
def appendStr (b : Builder) : Option (List UInt8) → Builder
  | none => b
  | some str => (copy (str.takeWhile (· ≠ 0)) b).terminate

def appendChar (b : Builder) (c : UInt8) : Builder :=
  if b.m_len < kCapacity-1 then
    ⟨Function.update (Function.update b.m_buf b.m_len (some c)) (b.m_len+1) (some 0), b.m_len+1⟩
  else b

def appendUint32 (b : Builder) (value : UInt32) : Builder := (copy (renderU32 value) b).terminate

/-- `-value`, which is undefined for the least value. -/
def negate (value : Int32) : Option Int32 :=
  if value = Int32.minValue then none else some (-value)

def appendInt32 (b : Builder) (value : Int32) : Option Builder := do
  let uval ← if value < 0 then (negate value).map Int32.toUInt32 else some value.toUInt32
  let b := if value < 0 then b.appendChar 0x2D else b
  pure (copy (renderU32 uval) b).terminate

end Builder

inductive Call where
  | str (str : Option (List UInt8))
  | char (c : UInt8)
  | uint32 (value : UInt32)
  | int32 (value : Int32)

def call (b : Builder) : Call → Option Builder
  | .str str => some (b.appendStr str)
  | .char c => some (b.appendChar c)
  | .uint32 value => some (b.appendUint32 value)
  | .int32 value => b.appendInt32 value

def runCalls (calls : List Call) : Option Builder := calls.foldlM call Builder.initial

def integer (z : ℤ) : List UInt8 :=
  if z < 0 then [0x2D] ++ decimal z.natAbs else decimal z.natAbs

def Call.text : Call → List UInt8
  | .str none => []
  | .str (some s) => s.takeWhile (· ≠ 0)
  | .char c => [c]
  | .uint32 value => decimal value.toNat
  | .int32 value => integer value.toInt

/-- The buffer holds as much of the text as fits, and a null behind it. -/
def Builds (text : List UInt8) (b : Builder) : Prop :=
  Terminated 0 (kCapacity-1) text b.m_buf b.m_len

section Numbers

theorem negated_toNat (value : Int32) (h : value < 0) :
    (-value).toUInt32.toNat = value.toInt.natAbs := by
  have hneg : value.toInt < 0 := Int32.lt_iff_toInt_lt.mp h
  have hbound := value.toBitVec.isLt
  have hnat : (-value).toUInt32.toNat = (2^32-value.toBitVec.toNat) % 2^32 := rfl
  have hint : value.toInt = value.toBitVec.toInt := rfl
  rw [hint, BitVec.toInt_eq_toNat_cond] at hneg ⊢
  rw [hnat]
  omega

theorem toUInt32_toNat (value : Int32) (h : ¬ value < 0) :
    value.toUInt32.toNat = value.toInt.natAbs := by
  have hpos : ¬ value.toInt < 0 := fun hneg => h (Int32.lt_iff_toInt_lt.mpr hneg)
  have hnat : value.toUInt32.toNat = value.toBitVec.toNat := rfl
  have hint : value.toInt = value.toBitVec.toInt := rfl
  rw [hint, BitVec.toInt_eq_toNat_cond] at hpos ⊢
  rw [hnat]
  omega

theorem rendered_integer (value : Int32) :
    (if value < 0 then [0x2D] ++ renderU32 (-value).toUInt32 else renderU32 value.toUInt32) =
      integer value.toInt := by
  have hneg : value < 0 ↔ value.toInt < 0 := Int32.lt_iff_toInt_lt
  unfold integer
  by_cases h : value < 0
  · rw [if_pos h, if_pos (hneg.mp h), renderU32_decimal, negated_toNat value h]
  · rw [if_neg h, if_neg (fun hlt => h (hneg.mpr hlt)), renderU32_decimal, toUInt32_toNat value h]

end Numbers

section Calls

variable {text : List UInt8} {b : Builder}

theorem copy_store (cs : List UInt8) (b : Builder) :
    ((b.copy cs).m_buf, (b.copy cs).m_len) = store (kCapacity-1) cs b.m_buf b.m_len := by
  induction cs generalizing b with
  | nil => rfl
  | cons c cs ih =>
    unfold Builder.copy store
    split_ifs
    · rw [ih]
    · rfl

theorem initial_builds : Builds [] Builder.initial :=
  (holds_nil (kCapacity-1)).terminated 0

theorem copied_builds (h : Builds text b) (cs : List UInt8) :
    Builds (text ++ cs) (b.copy cs).terminate := by
  have hstored := h.stored cs
  rw [← copy_store] at hstored
  exact hstored.terminated 0

theorem appendChar_builds (h : Builds text b) (c : UInt8) :
    Builds (text ++ [c]) (b.appendChar c) := by
  unfold Builder.appendChar
  split_ifs with hroom
  · exact (h.put hroom c).terminated 0
  · exact ⟨h.dropped hroom [c], h.terminator⟩

theorem appendInt32_defined (b : Builder) (value : Int32) (h : value ≠ Int32.minValue) :
    b.appendInt32 value =
      if value < 0 then some ((b.appendChar 0x2D).copy (renderU32 (-value).toUInt32)).terminate
      else some (b.copy (renderU32 value.toUInt32)).terminate := by
  by_cases hneg : value < 0
  · simp [Builder.appendInt32, Builder.negate, hneg, h]
  · simp [Builder.appendInt32, hneg]

theorem appendInt32_undefined (b : Builder) : b.appendInt32 Int32.minValue = none := rfl

theorem appendInt32_builds (h : Builds text b) (value : Int32) (hmin : value ≠ Int32.minValue) :
    ∃ b', b.appendInt32 value = some b' ∧ Builds (text ++ integer value.toInt) b' := by
  rw [appendInt32_defined b value hmin, ← rendered_integer]
  split_ifs with hneg
  · refine ⟨_, rfl, ?_⟩
    rw [← List.append_assoc]
    exact copied_builds (appendChar_builds h 0x2D) _
  · exact ⟨_, rfl, copied_builds h _⟩

theorem call_builds (h : Builds text b) (c : Call) (hmin : c ≠ .int32 Int32.minValue) :
    ∃ b', call b c = some b' ∧ Builds (text ++ c.text) b' := by
  cases c with
  | str str =>
    cases str with
    | none => exact ⟨b, rfl, by rwa [Call.text, List.append_nil]⟩
    | some str => exact ⟨_, rfl, copied_builds h _⟩
  | char c => exact ⟨_, rfl, appendChar_builds h c⟩
  | uint32 value =>
    refine ⟨_, rfl, ?_⟩
    rw [Call.text, ← renderU32_decimal]
    exact copied_builds h _
  | int32 value => exact appendInt32_builds h value fun heq => hmin (by rw [heq])

theorem run_undefined (calls : List Call) (b : Builder)
    (hmem : .int32 Int32.minValue ∈ calls) : calls.foldlM call b = none := by
  induction calls generalizing b with
  | nil => cases hmem
  | cons c calls ih =>
    rw [List.foldlM_cons]
    rcases List.mem_cons.mp hmem with rfl | hmem
    · rw [call, appendInt32_undefined]
      rfl
    · cases hcall : call b c with
      | none => rfl
      | some b' => exact ih b' hmem

theorem run_builds (calls : List Call) (h : Builds text b)
    (hmem : .int32 Int32.minValue ∉ calls) :
    ∃ b', calls.foldlM call b = some b' ∧ Builds (text ++ calls.flatMap Call.text) b' := by
  induction calls generalizing text b with
  | nil => exact ⟨b, rfl, by rwa [List.flatMap_nil, List.append_nil]⟩
  | cons c calls ih =>
    rw [List.mem_cons, not_or] at hmem
    obtain ⟨b', hcall, hbuilds⟩ := call_builds h c (Ne.symm hmem.1)
    have hrest := ih hbuilds hmem.2
    rw [List.append_assoc, ← List.flatMap_cons] at hrest
    rw [List.foldlM_cons, hcall]
    exact hrest

end Calls

/-- The calls are all defined, and the buffer holds their texts one behind another. -/
def Exact (calls : List Call) : Prop :=
  ∃ b, runCalls calls = some b ∧ Builds (calls.flatMap Call.text) b

/-- Every sequence of appends is exact unless it appends the least signed number. -/
theorem appends_exact_iff (calls : List Call) :
    Exact calls ↔ .int32 Int32.minValue ∉ calls := by
  constructor
  · rintro ⟨b, hrun, -⟩ hmem
    rw [runCalls, run_undefined calls _ hmem] at hrun
    cases hrun
  · exact run_builds calls initial_builds

theorem least_undefined : ¬ ∀ calls, Exact calls := by
  intro h
  obtain ⟨b, hrun, -⟩ := h [.int32 Int32.minValue]
  rw [runCalls, run_undefined _ _ (by simp)] at hrun
  cases hrun

section Characters

/-- The call on the builder that is given by its characters. The negation wraps there. -/
def listCall (l : LightweightStringBuilder) : Call → LightweightStringBuilder
  | .str none => l
  | .str (some str) => l.append (str.takeWhile (· ≠ 0))
  | .char c => l.appendChar c
  | .uint32 value => l.append (renderU32 value)
  | .int32 value => l.appendInt32 value

theorem listCall_append (l : LightweightStringBuilder) (c : Call) :
    listCall l c = l.append c.text := by
  cases c with
  | str str =>
    cases str with
    | none => rfl
    | some str => rfl
  | char c => rfl
  | uint32 value => rw [listCall, Call.text, renderU32_decimal]
  | int32 value =>
    rw [listCall, LightweightStringBuilder.appendInt32, appendChar_append, append_append,
      Call.text, ← rendered_integer]
    split_ifs <;> rfl

theorem listCalls_append (calls : List Call) (l : LightweightStringBuilder) :
    calls.foldl listCall l = l.append (calls.flatMap Call.text) := by
  induction calls generalizing l with
  | nil => rfl
  | cons c calls ih =>
    rw [List.foldl_cons, ih, listCall_append, append_append, List.flatMap_cons]

theorem buffer_characters (calls : List Call) (b : Builder) (h : runCalls calls = some b) :
    b.m_len = (calls.foldl listCall .initial).buf.length ∧
      ∀ i < b.m_len, b.m_buf i = (calls.foldl listCall .initial).buf[i]? := by
  have hbuf := append_buf .initial (calls.flatMap Call.text) (Nat.zero_le _)
  rw [← listCalls_append, LightweightStringBuilder.initial, List.nil_append] at hbuf
  by_cases hmem : .int32 Int32.minValue ∈ calls
  · rw [runCalls, run_undefined calls _ hmem] at h
    cases h
  obtain ⟨b', hrun, hbuilds⟩ := run_builds calls initial_builds hmem
  obtain rfl : b = b' := Option.some.inj (h.symm.trans hrun)
  have hlen := hbuilds.length
  rw [List.nil_append] at hlen
  refine ⟨by rw [LightweightStringBuilder.initial, hbuf, List.length_take, hlen, Nat.min_comm],
    fun i hi => ?_⟩
  rw [hbuilds.chars i hi, LightweightStringBuilder.initial, hbuf, List.nil_append,
    List.getElem?_take_of_lt (by omega)]

end Characters

end SputterOS.BuilderBuffer
