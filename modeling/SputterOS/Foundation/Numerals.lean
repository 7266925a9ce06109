import Mathlib.Data.List.TakeWhile
import SputterOS.Foundation.NumberText

/-!
# Written integers

The word that `strtol` reads: white space, an optional sign and at least one
digit. In front of any text `strtol` takes the longest such word and returns
its integer, saturated. The digits of a natural number are read back to it.
-/

set_option autoImplicit false

namespace Foundation.NumberText

def Numeral (word : List UInt8) (n : ℤ) : Prop :=
  ∃ spaces sign digits, word = spaces ++ sign ++ digits ∧
    (∀ b ∈ spaces, isSpace b = true) ∧ (sign = [] ∨ sign = [0x2B] ∨ sign = [0x2D]) ∧
    digits ≠ [] ∧ (∀ b ∈ digits, isDigit b = true) ∧
    n = if sign = [0x2D] then -(digitsVal 10 digits : ℤ) else digitsVal 10 digits

theorem numeral_unsigned (spaces digits : List UInt8) (hs : ∀ b ∈ spaces, isSpace b = true)
    (hne : digits ≠ []) (hd : ∀ b ∈ digits, isDigit b = true) :
    Numeral (spaces ++ digits) (digitsVal 10 digits) :=
  ⟨spaces, [], digits, by simp, hs, .inl rfl, hne, hd, rfl⟩

def Stops (rest : List UInt8) : Prop := ∀ b, rest.head? = some b → isDigit b = false

theorem stops_nil : Stops [] := by
  intro b hb
  cases hb

theorem not_isSpace_of_isDigit (b : UInt8) (h : isDigit b = true) : isSpace b = false := by
  simp only [isDigit, Bool.and_eq_true, decide_eq_true_eq, UInt8.le_iff_toNat_le] at h
  simp only [isSpace, Bool.or_eq_false_iff, decide_eq_false_iff_not, Bool.and_eq_false_iff,
    UInt8.le_iff_toNat_le]
  refine ⟨?_, .inr ?_⟩
  · rintro rfl
    exact absurd h.1 (by decide)
  · have h1 := h.1
    simp only [UInt8.reduceToNat] at h1 ⊢
    omega

theorem dropWhile_behind {α : Type*} (p : α → Bool) (xs ys : List α) (hx : ∀ x ∈ xs, p x = true)
    (hy : ∀ y, ys.head? = some y → p y = false) : (xs ++ ys).dropWhile p = ys := by
  rw [List.dropWhile_append_of_pos hx]
  cases ys with
  | nil => rfl
  | cons y ys => rw [List.dropWhile_cons_of_neg (by simp [hy y rfl])]

theorem takeWhile_behind {α : Type*} (p : α → Bool) (xs ys : List α) (hx : ∀ x ∈ xs, p x = true)
    (hy : ∀ y, ys.head? = some y → p y = false) : (xs ++ ys).takeWhile p = xs := by
  rw [List.takeWhile_append_of_pos hx]
  cases ys with
  | nil => simp
  | cons y ys => rw [List.takeWhile_cons_of_neg (by simp [hy y rfl]), List.append_nil]

theorem stops_dropWhile (s : List UInt8) : Stops (s.dropWhile isDigit) := by
  intro b hb
  have h := List.head?_dropWhile_not isDigit s
  rw [hb] at h
  simpa using h

theorem takeSign_eq (s : List UInt8) :
    ∃ sign, s = sign ++ (takeSign s).2 ∧
      ((sign = [0x2D] ∧ (takeSign s).1 = true) ∨
        ((sign = [] ∨ sign = [0x2B]) ∧ (takeSign s).1 = false)) := by
  unfold takeSign
  split_ifs with hm hp
  · obtain ⟨t, rfl⟩ := List.head?_eq_some_iff.mp hm
    exact ⟨[0x2D], rfl, .inl ⟨rfl, rfl⟩⟩
  · obtain ⟨t, rfl⟩ := List.head?_eq_some_iff.mp hp
    exact ⟨[0x2B], rfl, .inr ⟨.inr rfl, rfl⟩⟩
  · exact ⟨[], rfl, .inr ⟨.inl rfl, rfl⟩⟩

theorem signed_head (sign digits rest : List UInt8)
    (hs : sign = [] ∨ sign = [0x2B] ∨ sign = [0x2D]) (hne : digits ≠ [])
    (hd : ∀ b ∈ digits, isDigit b = true) (b : UInt8)
    (hb : (sign ++ digits ++ rest).head? = some b) : isSpace b = false := by
  obtain ⟨d, ds, rfl⟩ := List.exists_cons_of_ne_nil hne
  rcases hs with rfl | rfl | rfl
  · obtain rfl : d = b := by simpa using hb
    exact not_isSpace_of_isDigit d (hd d (by simp))
  · obtain rfl : 0x2B = b := by simpa using hb
    decide
  · obtain rfl : 0x2D = b := by simpa using hb
    decide

theorem takeSign_signed (sign digits rest : List UInt8)
    (hs : sign = [] ∨ sign = [0x2B] ∨ sign = [0x2D]) (hne : digits ≠ [])
    (hd : ∀ b ∈ digits, isDigit b = true) :
    takeSign (sign ++ digits ++ rest) = (decide (sign = [0x2D]), digits ++ rest) := by
  obtain ⟨d, ds, rfl⟩ := List.exists_cons_of_ne_nil hne
  have hdigit := hd d (by simp)
  rcases hs with rfl | rfl | rfl
  · have hm : d ≠ 0x2D := by rintro rfl; exact absurd hdigit (by decide)
    have hp : d ≠ 0x2B := by rintro rfl; exact absurd hdigit (by decide)
    simp [takeSign, hm, hp]
  · simp [takeSign]
  · simp [takeSign]

theorem strtol_numeral (longBits : ℕ) (word rest : List UInt8) (n : ℤ) (h : Numeral word n)
    (hrest : Stops rest) : strtol longBits (word ++ rest) = some (saturate longBits n, rest) := by
  obtain ⟨spaces, sign, digits, rfl, hspaces, hsign, hne, hdigits, rfl⟩ := h
  have hdrop : (spaces ++ sign ++ digits ++ rest).dropWhile isSpace = sign ++ digits ++ rest := by
    rw [List.append_assoc, List.append_assoc, ← List.append_assoc sign]
    exact dropWhile_behind isSpace spaces _ hspaces (signed_head sign digits rest hsign hne hdigits)
  unfold strtol
  rw [hdrop, takeSign_signed sign digits rest hsign hne hdigits]
  simp only [takeWhile_behind isDigit digits rest hdigits hrest,
    dropWhile_behind isDigit digits rest hdigits hrest, if_neg hne, decide_eq_true_eq]

theorem strtol_reads (longBits : ℕ) (s rest : List UInt8) (z : ℤ)
    (h : strtol longBits s = some (z, rest)) :
    ∃ word n, s = word ++ rest ∧ Numeral word n ∧ z = saturate longBits n ∧ Stops rest := by
  unfold strtol at h
  dsimp only at h
  by_cases hne : (takeSign (s.dropWhile isSpace)).2.takeWhile isDigit = []
  · rw [if_pos hne] at h
    cases h
  rw [if_neg hne] at h
  obtain ⟨sign, hsplit, hsign⟩ := takeSign_eq (s.dropWhile isSpace)
  set signed := takeSign (s.dropWhile isSpace)
  obtain ⟨hz, rfl⟩ := Prod.mk.inj (Option.some.inj h)
  refine ⟨s.takeWhile isSpace ++ sign ++ signed.2.takeWhile isDigit,
    if signed.1 then -(digitsVal 10 (signed.2.takeWhile isDigit) : ℤ)
      else digitsVal 10 (signed.2.takeWhile isDigit), ?_, ?_, hz.symm, stops_dropWhile _⟩
  · rw [List.append_assoc, List.takeWhile_append_dropWhile, List.append_assoc, ← hsplit,
      List.takeWhile_append_dropWhile]
  · refine ⟨_, _, _, rfl, fun b hb => List.mem_takeWhile_imp hb, ?_, hne,
      fun b hb => List.mem_takeWhile_imp hb, ?_⟩
    · rcases hsign with ⟨rfl, -⟩ | ⟨rfl | rfl, -⟩ <;> simp
    · rcases hsign with ⟨rfl, hm⟩ | ⟨rfl | rfl, hm⟩ <;> simp [hm]

theorem strtol_word_iff (longBits : ℕ) (word : List UInt8) (z : ℤ) :
    strtol longBits word = some (z, []) ↔ ∃ n, Numeral word n ∧ z = saturate longBits n := by
  constructor
  · intro h
    obtain ⟨w, n, rfl, hn, hz, -⟩ := strtol_reads longBits word [] z h
    rw [List.append_nil]
    exact ⟨n, hn, hz⟩
  · rintro ⟨n, hn, rfl⟩
    have h := strtol_numeral longBits word [] n hn stops_nil
    rwa [List.append_nil] at h

/-- `strtol` takes the longest word in front of a text. -/
theorem strtol_iff (longBits : ℕ) (s rest : List UInt8) (z : ℤ) :
    strtol longBits s = some (z, rest) ↔
      ∃ word, s = word ++ rest ∧ strtol longBits word = some (z, []) ∧ Stops rest := by
  constructor
  · intro h
    obtain ⟨word, n, hs, hn, hz, hstop⟩ := strtol_reads longBits s rest z h
    exact ⟨word, hs, (strtol_word_iff longBits word z).mpr ⟨n, hn, hz⟩, hstop⟩
  · rintro ⟨word, rfl, hword, hstop⟩
    obtain ⟨n, hn, rfl⟩ := (strtol_word_iff longBits word z).mp hword
    exact strtol_numeral longBits word rest n hn hstop

theorem saturate_eq_iff (longBits : ℕ) (lo hi n : ℤ) (hlo : -2^(longBits-1) < lo)
    (hhi : hi < 2^(longBits-1)-1) :
    (lo ≤ saturate longBits n ∧ saturate longBits n ≤ hi) ↔ (lo ≤ n ∧ n ≤ hi) := by
  unfold saturate
  omega

theorem saturate_ext (n m : ℤ) (h : ∀ longBits, saturate longBits n = saturate longBits m) :
    n = m := by
  have hlt : n.natAbs+m.natAbs+1 < 2^(n.natAbs+m.natAbs+1) := Nat.lt_two_pow_self
  have heq := h (n.natAbs+m.natAbs+1+1)
  have hpow : ((2^(n.natAbs+m.natAbs+1) : ℕ) : ℤ) = 2^(n.natAbs+m.natAbs+1) := by push_cast; rfl
  unfold saturate at heq
  rw [Nat.add_sub_cancel] at heq
  omega

theorem numeral_unique (word word' rest rest' : List UInt8) (n n' : ℤ) (h : Numeral word n)
    (h' : Numeral word' n') (hrest : Stops rest) (hrest' : Stops rest')
    (heq : word ++ rest = word' ++ rest') : n = n' ∧ rest = rest' := by
  have hread : ∀ longBits, (saturate longBits n, rest) = (saturate longBits n', rest') := by
    intro longBits
    have hr := strtol_numeral longBits word rest n h hrest
    rw [heq, strtol_numeral longBits word' rest' n' h' hrest'] at hr
    exact (Option.some.inj hr).symm
  exact ⟨saturate_ext n n' fun longBits => congrArg Prod.fst (hread longBits),
    congrArg Prod.snd (hread 0)⟩

def decimal (n : ℕ) : List UInt8 :=
  if n < 10 then [UInt8.ofNat (0x30+n)] else decimal (n/10) ++ [UInt8.ofNat (0x30+n%10)]

theorem decimal_digit (n : ℕ) (h : n < 10) : decimal n = [UInt8.ofNat (0x30+n)] := by
  rw [decimal, if_pos h]

theorem decimal_digits (n : ℕ) (h : ¬ n < 10) :
    decimal n = decimal (n/10) ++ [UInt8.ofNat (0x30+n%10)] := by
  rw [decimal, if_neg h]

theorem digitVal_digit : ∀ d < 10, digitVal (UInt8.ofNat (0x30+d)) = d := by
  decide

theorem digitsVal_decimal (n : ℕ) : digitsVal 10 (decimal n) = n := by
  induction n using decimal.induct with
  | case1 n h =>
    rw [decimal_digit n h]
    simpa [digitsVal] using digitVal_digit n h
  | case2 n h ih =>
    have hlast := digitVal_digit (n%10) (Nat.mod_lt n (by decide))
    rw [digitsVal] at ih
    rw [decimal_digits n h, digitsVal, List.foldl_append, ih, List.foldl_cons, List.foldl_nil,
      hlast]
    omega

theorem decimal_injective : Function.Injective decimal := by
  intro n m h
  rw [← digitsVal_decimal n, h, digitsVal_decimal]

end Foundation.NumberText
