import SputterOS.Foundation.ShiftRegister
import Mathlib.Dynamics.PeriodicPts.Defs
import Mathlib.Data.Nat.Prime.Basic

/-!
# The order of a shift register

A message that leaves no trace in the register has an even number of ones if
the generator has an odd number, and its ones are not two that stand closer than
the period of the register. The powers of the shift are products of registers,
so that a period is found by squaring.
-/

set_option autoImplicit false

namespace Foundation.RegisterOrder
open Foundation.ShiftRegister

variable {w : ℕ}

section Parity

def parityTo (r : BitVec w) : ℕ → Bool
  | 0 => false
  | n+1 => parityTo r n ^^ r.getLsbD n

def parity (r : BitVec w) : Bool := parityTo r w

def oddly (bs : List Bool) : Bool := bs.foldr xor false

theorem parityTo_xor (r s : BitVec w) (n : ℕ) :
    parityTo (r ^^^ s) n = (parityTo r n ^^ parityTo s n) := by
  induction n with
  | zero => rfl
  | succ n ih =>
    rw [parityTo, parityTo, parityTo, ih, BitVec.getLsbD_xor, Bool.xor_assoc, Bool.xor_assoc,
      Bool.xor_left_comm (parityTo s n)]

theorem parityTo_zero (n : ℕ) : parityTo (0#w) n = false := by
  induction n with
  | zero => rfl
  | succ n ih => simp [parityTo, ih]

theorem parityTo_shiftLeft (r : BitVec w) (n : ℕ) (hn : n < w) :
    parityTo (r <<< 1) (n+1) = parityTo r n := by
  induction n with
  | zero => simp [parityTo]
  | succ n ih =>
    have hbit : (r <<< 1).getLsbD (n+1) = r.getLsbD n := by
      rw [BitVec.getLsbD_shiftLeft, Nat.add_sub_cancel]
      simp [hn]
    rw [parityTo, ih (by omega), hbit, parityTo]

theorem parityTo_intMin (n : ℕ) (hn : n < w) : parityTo (BitVec.intMin w) n = false := by
  induction n with
  | zero => rfl
  | succ n ih =>
    rw [parityTo, ih (by omega), BitVec.getLsbD_intMin]
    have hlast : ¬ n+1 = w := by omega
    simp [hlast]

theorem parity_xor (r s : BitVec w) : parity (r ^^^ s) = (parity r ^^ parity s) :=
  parityTo_xor r s w

theorem parity_masked (v : BitVec w) (b : Bool) : parity (masked v b) = (b && parity v) := by
  cases b
  · exact parityTo_zero w
  · simp [masked]

theorem parity_shiftLeft (r : BitVec w) : parity (r <<< 1) = (parity r ^^ r.msb) := by
  cases w with
  | zero =>
    have hr : r = 0#0 := BitVec.eq_nil r
    rw [hr]
    rfl
  | succ n =>
    rw [parity, parityTo_shiftLeft r n (by omega), parity, parityTo, BitVec.msb_eq_getLsbD_last]
    simp

theorem parity_intMin (hw : 0 < w) : parity (BitVec.intMin w) = true := by
  obtain ⟨n, rfl⟩ : ∃ n, w = n+1 := ⟨w-1, by omega⟩
  rw [parity, parityTo, parityTo_intMin n (by omega)]
  simp [BitVec.getLsbD_intMin]

variable (poly : BitVec w)

theorem parity_shift (hodd : parity poly = true) (r : BitVec w) :
    parity (shift poly r) = parity r := by
  rw [shift, parity_xor, parity_shiftLeft, parity_masked, hodd]
  cases r.msb <;> simp

theorem parity_feed (hw : 0 < w) (hodd : parity poly = true) (r : BitVec w) (bs : List Bool) :
    parity (feed poly r bs) = (parity r ^^ oddly bs) := by
  induction bs generalizing r with
  | nil => simp [feed, oddly]
  | cons b bs ih =>
    rw [feed_cons, ih, shiftIn, parity_shift poly hodd, parity_xor, parity_masked,
      parity_intMin hw]
    simp [oddly]

theorem oddly_count (bs : List Bool) : oddly bs = decide ((bs.count true)%2 = 1) := by
  induction bs with
  | nil => rfl
  | cons b bs ih =>
    have hcons : oddly (b::bs) = (b ^^ oddly bs) := rfl
    rw [hcons, ih]
    cases b
    · simp
    · rcases Nat.mod_two_eq_zero_or_one (bs.count true) with h | h
      · simp [h, Nat.add_mod]
      · simp [h, Nat.add_mod]

end Parity

section Powers

variable (poly : BitVec w)

theorem iterate_xor (n : ℕ) (r s : BitVec w) :
    (shift poly)^[n] (r ^^^ s) = (shift poly)^[n] r ^^^ (shift poly)^[n] s := by
  induction n generalizing r s with
  | zero => rfl
  | succ n ih =>
    rw [Function.iterate_succ_apply, Function.iterate_succ_apply, Function.iterate_succ_apply,
      shift_xor, ih]

theorem iterate_masked (n : ℕ) (v : BitVec w) (b : Bool) :
    (shift poly)^[n] (masked v b) = masked ((shift poly)^[n] v) b := by
  cases b
  · exact Function.iterate_fixed (shift_zero poly) n
  · rfl

/-- The sum of the shifts of a register that the lowest bits of another select. -/
def productTo (a v : BitVec w) : ℕ → BitVec w
  | 0 => 0#w
  | n+1 => masked ((shift poly)^[n] a) (v.getLsbD n) ^^^ productTo a v n

def product (a v : BitVec w) : BitVec w := productTo poly a v w

theorem iterate_productTo (m : ℕ) (a v : BitVec w) (n : ℕ) :
    (shift poly)^[m] (productTo poly a v n) = productTo poly ((shift poly)^[m] a) v n := by
  induction n with
  | zero => exact Function.iterate_fixed (shift_zero poly) m
  | succ n ih =>
    have hcomm : (shift poly)^[m] ((shift poly)^[n] a) = (shift poly)^[n] ((shift poly)^[m] a) := by
      rw [← Function.iterate_add_apply, ← Function.iterate_add_apply, Nat.add_comm]
    rw [productTo, productTo, iterate_xor, iterate_masked, ih, hcomm]

theorem iterate_one (n : ℕ) (hn : n < w) : (shift poly)^[n] 1#w = BitVec.twoPow w n := by
  induction n with
  | zero => simp [BitVec.twoPow_zero]
  | succ n ih =>
    have hmsb : (BitVec.twoPow w n).msb = false := by
      rw [BitVec.msb_eq_getLsbD_last, BitVec.getLsbD_twoPow]
      have hlast : ¬ n = w-1 := by omega
      simp [hlast]
    rw [Function.iterate_succ_apply', ih (by omega), shift, hmsb, BitVec.twoPow_eq,
      BitVec.twoPow_eq]
    simp [masked, ← BitVec.shiftLeft_add]

theorem productTo_one (v : BitVec w) (n i : ℕ) (hn : n ≤ w) :
    (productTo poly 1#w v n).getLsbD i = (decide (i < n) && v.getLsbD i) := by
  induction n with
  | zero => simp [productTo]
  | succ n ih =>
    rw [productTo, BitVec.getLsbD_xor, ih (by omega), iterate_one poly n (by omega)]
    have hbit : (masked (BitVec.twoPow w n) (v.getLsbD n)).getLsbD i =
        (decide (i = n) && v.getLsbD n) := by
      cases hv : v.getLsbD n
      · simp [masked]
      · have hnw : n < w := by omega
        simp [masked, BitVec.getLsbD_twoPow, hnw, eq_comm]
    rw [hbit]
    rcases Nat.lt_trichotomy i n with h | h | h
    · have hne : ¬ i = n := by omega
      have hlt : i < n+1 := by omega
      simp [h, hne, hlt]
    · simp [h]
    · have hne : ¬ i = n := by omega
      have hlt : ¬ i < n := by omega
      have hle : ¬ i < n+1 := by omega
      simp [hne, hlt, hle]

theorem product_one (v : BitVec w) : product poly 1#w v = v := by
  apply BitVec.eq_of_getLsbD_eq
  intro i hi
  rw [product, productTo_one poly v w i le_rfl, decide_eq_true hi, Bool.true_and]

theorem iterate_eq_product (n : ℕ) (v : BitVec w) :
    (shift poly)^[n] v = product poly ((shift poly)^[n] 1#w) v := by
  nth_rewrite 1 [← product_one poly v]
  exact iterate_productTo poly n 1#w v w

def power : List Bool → BitVec w
  | [] => 1#w
  | b::bs =>
    let square := product poly (power bs) (power bs)
    if b then shift poly square else square

def exponent : List Bool → ℕ
  | [] => 0
  | b::bs => 2*exponent bs+b.toNat

theorem power_eq (bs : List Bool) : power poly bs = (shift poly)^[exponent bs] 1#w := by
  induction bs with
  | nil => rfl
  | cons b bs ih =>
    have hsquare : product poly (power poly bs) (power poly bs) =
        (shift poly)^[2*exponent bs] 1#w := by
      rw [ih, ← iterate_eq_product, ← Function.iterate_add_apply, Nat.two_mul]
    rw [power, exponent, hsquare]
    cases b
    · rfl
    · exact (Function.iterate_succ_apply' (shift poly) _ _).symm

end Powers

section Period

/-- A period all of whose maximal divisors are no periods is the least one. -/
theorem minimalPeriod_eq {α : Type*} (f : α → α) (x : α) (n : ℕ)
    (hperiod : f^[n] x = x) (hleast : ∀ p, p.Prime → p ∣ n → f^[n/p] x ≠ x) :
    Function.minimalPeriod f x = n := by
  obtain ⟨k, hk⟩ := Function.IsPeriodicPt.minimalPeriod_dvd (show Function.IsPeriodicPt f n x from
    hperiod)
  by_contra hne
  have hk1 : k ≠ 1 := by
    rintro rfl
    exact hne (by rw [hk, Nat.mul_one])
  obtain ⟨p, hp, q, hq⟩ := Nat.exists_prime_and_dvd hk1
  have hdiv : n/p = Function.minimalPeriod f x*q := by
    rw [hk, hq, Nat.mul_left_comm, Nat.mul_div_cancel_left _ hp.pos]
  apply hleast p hp ⟨Function.minimalPeriod f x*q, by rw [hk, hq]; ac_rfl⟩
  rw [hdiv]
  exact (Function.isPeriodicPt_minimalPeriod f x).mul_const q

variable (poly : BitVec w)

noncomputable def period : ℕ := Function.minimalPeriod (shift poly) 1#w

theorem one_returns (hpoly : poly.getLsbD 0 = true) (m n : ℕ)
    (h : (shift poly)^[n] ((shift poly)^[m] 1#w) = (shift poly)^[m] 1#w) :
    (shift poly)^[n] 1#w = 1#w := by
  apply (shift_injective poly hpoly).iterate m
  rw [← h, ← Function.iterate_add_apply, ← Function.iterate_add_apply, Nat.add_comm]

theorem count_two (bs : List Bool) (h : bs.count true = 2) :
    ∃ a d c, bs = List.replicate a false ++
      true :: (List.replicate d false ++ true :: List.replicate c false) := by
  have hsplit : ∀ (n : ℕ) (bs : List Bool), bs.count true = n+1 →
      ∃ a rest, bs = List.replicate a false ++ true :: rest ∧ rest.count true = n := by
    intro n bs
    induction bs with
    | nil => simp
    | cons b bs ih =>
      cases b with
      | true =>
        intro hc
        exact ⟨0, bs, rfl, by simpa using hc⟩
      | false =>
        intro hc
        obtain ⟨a, rest, hrest, hcount⟩ := ih (by simpa using hc)
        exact ⟨a+1, rest, by rw [hrest]; rfl, hcount⟩
  obtain ⟨a, rest, rfl, hrest⟩ := hsplit 1 bs h
  obtain ⟨d, rest', rfl, hrest'⟩ := hsplit 0 rest hrest
  have hclear : rest' = List.replicate rest'.length false := by
    refine List.eq_replicate_iff.mpr ⟨rfl, fun b hb => ?_⟩
    cases b with
    | false => rfl
    | true => exact absurd hb (List.count_eq_zero.mp hrest')
  exact ⟨a, d, rest'.length, by rw [← hclear]⟩

/-- Two ones closer than the period leave a trace. -/
theorem feed_two (hpoly : poly.getLsbD 0 = true) (hw : 0 < w) (bs : List Bool)
    (hcount : bs.count true = 2) (hlen : bs.length ≤ period poly) : feed poly 0#w bs ≠ 0#w := by
  obtain ⟨a, d, c, rfl⟩ := count_two bs hcount
  have hd : d+1 < period poly := by
    simp only [List.length_append, List.length_cons, List.length_replicate] at hlen
    omega
  have htop : BitVec.intMin w = (shift poly)^[w-1] 1#w := by
    rw [iterate_one poly (w-1) (by omega)]
    rfl
  have hzeros : feed poly 0#w (List.replicate a false) = 0#w := by
    rw [feed_zeros]
    exact Function.iterate_fixed (shift_zero poly) a
  have hfix : (shift poly)^[c+1] 0#w = 0#w := Function.iterate_fixed (shift_zero poly) _
  have hone : ∀ r : BitVec w, shiftIn poly r true = shift poly (r ^^^ BitVec.intMin w) := fun _ => rfl
  intro hzero
  rw [feed_append, hzeros, feed_cons, feed_append, feed_zeros, feed_cons, feed_zeros, hone, hone,
    BitVec.zero_xor, ← Function.iterate_succ_apply, ← Function.iterate_succ_apply] at hzero
  have hreturn := (shift_injective poly hpoly).iterate (c+1) (hzero.trans hfix.symm)
  rw [BitVec.xor_eq_zero_iff, htop] at hreturn
  exact Function.not_isPeriodicPt_of_pos_of_lt_minimalPeriod (Nat.succ_ne_zero d) hd
    (one_returns poly hpoly (w-1) (d+1) hreturn)

theorem feed_even (hw : 0 < w) (hodd : parity poly = true)
    (bs : List Bool) (h : feed poly 0#w bs = 0#w) : (bs.count true)%2 = 0 := by
  have hp := parity_feed poly hw hodd 0#w bs
  rw [h, oddly_count] at hp
  have hz : parity (0#w) = false := parityTo_zero w
  rw [hz, Bool.false_xor] at hp
  have hne : ¬ (bs.count true)%2 = 1 := by simpa using hp.symm
  omega

/-- A message no longer than the period that leaves no trace has four ones. -/
theorem feed_four (hpoly : poly.getLsbD 0 = true) (hw : 0 < w) (hodd : parity poly = true)
    (bs : List Bool) (h : feed poly 0#w bs = 0#w) (hne : true ∈ bs)
    (hlen : bs.length ≤ period poly) : 4 ≤ bs.count true := by
  have heven := feed_even poly hw hodd bs h
  have hpos : 0 < bs.count true := List.count_pos_iff.mpr hne
  have htwo : bs.count true ≠ 2 := fun hc => feed_two poly hpoly hw bs hc hlen h
  omega

end Period

end Foundation.RegisterOrder
