import Mathlib.Logic.Function.Iterate
import Mathlib.Data.List.Basic

/-!
# Checksums in a shift register

A register of `w` bits takes a message in bit by bit, the first bit first. The
bit that leaves it is added back as the generator. Taking in is linear, and with
a generator of odd constant term no register is lost, so that two messages which
differ in a window of at most `w` bits only are told apart.
-/

set_option autoImplicit false

namespace Foundation.ShiftRegister

variable {w : ℕ}

def masked (v : BitVec w) (b : Bool) : BitVec w := if b then v else 0#w

theorem masked_xor (v : BitVec w) (a b : Bool) :
    masked v (a ^^ b) = masked v a ^^^ masked v b := by
  cases a <;> cases b <;> simp [masked]

def word (w : ℕ) : List Bool → BitVec w
  | [] => 0#w
  | b::bs => masked (BitVec.intMin w) b ^^^ (word w bs >>> 1)

theorem word_getMsbD (bs : List Bool) (i : ℕ) (hi : i < w) :
    (word w bs).getMsbD i = bs.getD i false := by
  induction bs generalizing i with
  | nil => simp [word]
  | cons b bs ih =>
    have hmask : (masked (BitVec.intMin w) b).getMsbD i = (b && i = 0) := by
      cases b
      · simp [masked]
      · simp only [masked, if_true, BitVec.getMsbD_intMin]
        have hw : 0 < w := by omega
        simp [hw]
    rw [word, BitVec.getMsbD_xor, hmask, BitVec.getMsbD_ushiftRight]
    cases i with
    | zero => simp
    | succ i =>
      have hbit := ih i (by omega)
      simp [hi, hbit]

section Register

variable (poly : BitVec w)

def shift (r : BitVec w) : BitVec w := (r <<< 1) ^^^ masked poly r.msb

def shiftIn (r : BitVec w) (b : Bool) : BitVec w :=
  shift poly (r ^^^ masked (BitVec.intMin w) b)

def feed (r : BitVec w) (bs : List Bool) : BitVec w := bs.foldl (shiftIn poly) r

theorem shift_zero : shift poly 0#w = 0#w := by
  simp [shift, masked]

theorem shift_xor (r s : BitVec w) : shift poly (r ^^^ s) = shift poly r ^^^ shift poly s := by
  unfold shift
  rw [BitVec.shiftLeft_xor_distrib, BitVec.msb_xor, masked_xor]
  ac_rfl

theorem shift_eq_zero (hpoly : poly.getLsbD 0 = true) (r : BitVec w) (h : shift poly r = 0#w) :
    r = 0#w := by
  have hmsb : r.msb = false := by
    have hlow := congrArg (fun x => x.getLsbD 0) h
    cases hm : r.msb
    · rfl
    · simp [shift, masked, hm, hpoly] at hlow
  rw [shift, hmsb] at h
  have hleft : r <<< 1 = 0#w := by simpa [masked] using h
  apply BitVec.eq_of_getLsbD_eq
  intro i hi
  by_cases hlast : i+1 < w
  · have hbit := congrArg (fun x => x.getLsbD (i+1)) hleft
    simpa [BitVec.getLsbD_eq_getElem hi, hlast] using hbit
  · have hw : i = w-1 := by omega
    rw [BitVec.msb_eq_getLsbD_last] at hmsb
    rw [hw, hmsb]
    simp

theorem shift_injective (hpoly : poly.getLsbD 0 = true) : Function.Injective (shift poly) := by
  intro r s h
  have hzero : shift poly (r ^^^ s) = 0#w := by rw [shift_xor, h, BitVec.xor_self]
  exact BitVec.xor_eq_zero_iff.mp (shift_eq_zero poly hpoly _ hzero)

theorem feed_append (r : BitVec w) (xs ys : List Bool) :
    feed poly r (xs ++ ys) = feed poly (feed poly r xs) ys := List.foldl_append

theorem feed_cons (r : BitVec w) (b : Bool) (bs : List Bool) :
    feed poly r (b::bs) = feed poly (shiftIn poly r b) bs := rfl

theorem feed_zeros (r : BitVec w) (n : ℕ) :
    feed poly r (List.replicate n false) = (shift poly)^[n] r := by
  induction n generalizing r with
  | zero => rfl
  | succ n ih =>
    rw [List.replicate_succ, feed_cons, ih, Function.iterate_succ_apply]
    simp [shiftIn, masked]

theorem feed_xor (r s : BitVec w) (xs ys : List Bool) (h : xs.length = ys.length) :
    feed poly r xs ^^^ feed poly s ys = feed poly (r ^^^ s) (List.zipWith xor xs ys) := by
  induction xs generalizing r s ys with
  | nil =>
    rw [List.length_nil, eq_comm, List.length_eq_zero_iff] at h
    rw [h]
    rfl
  | cons x xs ih =>
    cases ys with
    | nil => simp at h
    | cons y ys =>
      have hstep : shiftIn poly r x ^^^ shiftIn poly s y = shiftIn poly (r ^^^ s) (x ^^ y) := by
        rw [shiftIn, shiftIn, shiftIn, masked_xor, ← shift_xor]
        congr 1
        ac_rfl
      rw [feed_cons, feed_cons, ih _ _ _ (by simpa using h), hstep]
      rfl

theorem feed_word (r : BitVec w) (bs : List Bool) (h : bs.length ≤ w) :
    feed poly r bs = (shift poly)^[bs.length] (r ^^^ word w bs) := by
  induction bs generalizing r with
  | nil => simp [feed, word]
  | cons b bs ih =>
    have hlen : bs.length+1 ≤ w := by simpa using h
    have hback : shift poly (word w bs >>> 1) = word w bs := by
      have hmsb : (word w bs >>> 1).msb = false := by
        rw [BitVec.msb_eq_getMsbD_zero, BitVec.getMsbD_ushiftRight]
        simp
      rw [shift, hmsb]
      apply BitVec.eq_of_getMsbD_eq
      intro i hi
      rw [word_getMsbD bs i hi]
      by_cases hlast : i+1 < w
      · simp [masked, BitVec.getMsbD_ushiftRight, hlast, word_getMsbD bs i hi]
      · have hnone : bs.getD i false = false := by
          rw [List.getD_eq_getElem?_getD, List.getElem?_eq_none (by omega)]
          rfl
        rw [hnone]
        simp [masked, BitVec.getMsbD_ushiftRight, hlast]
    rw [feed_cons, ih _ (by omega), List.length_cons, Function.iterate_succ_apply, word, shiftIn,
      ← BitVec.xor_assoc, shift_xor poly (r ^^^ _), hback]

theorem feed_ne_zero (hpoly : poly.getLsbD 0 = true) (bs : List Bool) (h : bs.length ≤ w)
    (hne : true ∈ bs) : feed poly 0#w bs ≠ 0#w := by
  intro hzero
  rw [feed_word poly 0#w bs h, BitVec.zero_xor] at hzero
  have hfix : (shift poly)^[bs.length] 0#w = 0#w := Function.iterate_fixed (shift_zero poly) _
  have hword : word w bs = 0#w :=
    (shift_injective poly hpoly).iterate bs.length (hzero.trans hfix.symm)
  obtain ⟨i, hi, hbit⟩ := List.mem_iff_getElem.mp hne
  have hclear : (word w bs).getMsbD i = bs.getD i false := word_getMsbD bs i (by omega)
  simp [hword, hi, hbit] at hclear

theorem window_split (bs : List Bool) (start : ℕ)
    (h : ∀ i : ℕ, bs[i]? = some true → start ≤ i ∧ i < start+w) :
    ∃ a m c, bs = List.replicate a false ++ (m ++ List.replicate c false) ∧ m.length ≤ w := by
  have hclear : ∀ part : List Bool, (∀ i : ℕ, part[i]? ≠ some true) →
      part = List.replicate part.length false := by
    intro part hpart
    refine List.eq_replicate_iff.mpr ⟨rfl, fun b hb => ?_⟩
    obtain ⟨i, hi⟩ := List.mem_iff_getElem?.mp hb
    cases b with
    | false => rfl
    | true => exact absurd hi (hpart i)
  refine ⟨(bs.take start).length, (bs.drop start).take w, ((bs.drop start).drop w).length, ?_,
    List.length_take_le _ _⟩
  rw [← hclear (bs.take start), ← hclear ((bs.drop start).drop w), List.take_append_drop,
    List.take_append_drop]
  · intro i hi
    rw [List.getElem?_drop, List.getElem?_drop] at hi
    have hwindow := h _ hi
    omega
  · intro i hi
    by_cases hlt : i < start
    · rw [List.getElem?_take_of_lt hlt] at hi
      have hwindow := h i hi
      omega
    · rw [List.getElem?_take, if_neg hlt] at hi
      cases hi

/-- Two messages of one length that differ only within a burst no longer than
the register leave different registers. -/
theorem feed_burst (hpoly : poly.getLsbD 0 = true) (r : BitVec w) (xs ys : List Bool)
    (hlen : xs.length = ys.length) (hne : xs ≠ ys) (start : ℕ)
    (hburst : ∀ i : ℕ, xs[i]? ≠ ys[i]? → start ≤ i ∧ i < start+w) :
    feed poly r xs ≠ feed poly r ys := by
  intro heq
  have hdiff : feed poly 0#w (List.zipWith xor xs ys) = 0#w := by
    have hsame : r ^^^ r = 0#w := BitVec.xor_self
    rw [← hsame, ← feed_xor poly r r xs ys hlen, heq, BitVec.xor_self, hsame]
  have hset : ∀ i : ℕ, (List.zipWith xor xs ys)[i]? = some true ↔ xs[i]? ≠ ys[i]? := by
    intro i
    by_cases hi : i < xs.length
    · have hi' : i < ys.length := by omega
      rw [List.getElem?_zipWith]
      simp [hi, hi']
    · simp [List.getElem?_zipWith, List.getElem?_eq_none (Nat.not_lt.mp hi),
        List.getElem?_eq_none (show ys.length ≤ i by omega)]
  obtain ⟨a, m, c, hsplit, hm⟩ := window_split (List.zipWith xor xs ys) start
    fun i hi => hburst i ((hset i).mp hi)
  have hmem : true ∈ m := by
    obtain ⟨i, hi⟩ : ∃ i : ℕ, xs[i]? ≠ ys[i]? := by
      by_contra hall
      push Not at hall
      exact hne (List.ext_getElem? hall)
    have hone := List.mem_of_getElem? ((hset i).mpr hi)
    rw [hsplit] at hone
    simpa using hone
  have hzeros : ∀ n, feed poly 0#w (List.replicate n false) = 0#w := by
    intro n
    rw [feed_zeros]
    exact Function.iterate_fixed (shift_zero poly) n
  rw [hsplit, feed_append, hzeros, feed_append, feed_zeros] at hdiff
  have hfix : (shift poly)^[c] 0#w = 0#w := Function.iterate_fixed (shift_zero poly) c
  exact feed_ne_zero poly hpoly m hm hmem
    ((shift_injective poly hpoly).iterate c (hdiff.trans hfix.symm))

end Register

end Foundation.ShiftRegister
