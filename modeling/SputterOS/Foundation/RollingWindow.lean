import Mathlib.Data.List.Basic

/-!
# Accumulators over rolling windows

A sample is added to what is accumulated of the current window. One that ends the
window completes it, and the next one starts empty. The accumulator keeps the
current window and the last complete one; it is compared with a record of all
samples, window by window.
-/

set_option autoImplicit false

namespace Foundation.RollingWindow

structure Rolling (σ τ : Type*) where
  start : τ
  current : σ
  reported : σ

structure Windows (ι τ : Type*) where
  start : τ
  past : List (List ι)
  recorded : List ι

variable {σ ι τ : Type*}

def Windows.fresh (start : τ) : Windows ι τ := ⟨start, [], []⟩

def Windows.shown (w : Windows ι τ) : List ι := w.past.getLast?.getD w.recorded

def Windows.samples (w : Windows ι τ) : List ι := w.past.flatten ++ w.recorded

def Windows.Shorter (bound : ℕ) (w : Windows ι τ) : Prop :=
  ∀ xs ∈ w.past ++ [w.recorded], xs.length < bound

instance (bound : ℕ) (w : Windows ι τ) : Decidable (w.Shorter bound) :=
  inferInstanceAs (Decidable (∀ xs ∈ w.past ++ [w.recorded], xs.length < bound))

section Samples

variable (empty : σ) (add : σ → ι → σ) (ends : τ → Bool)

def Rolling.sample (r : Rolling σ τ) (x : ι) (now : τ) : Rolling σ τ :=
  if ends now then ⟨now, empty, add r.current x⟩ else { r with current := add r.current x }

def Windows.sample (w : Windows ι τ) (x : ι) (now : τ) : Windows ι τ :=
  if ends now then ⟨now, w.past ++ [w.recorded ++ [x]], []⟩
  else { w with recorded := w.recorded ++ [x] }

def accumulate (xs : List ι) : σ := xs.foldl add empty

theorem accumulate_snoc (xs : List ι) (x : ι) :
    accumulate empty add (xs ++ [x]) = add (accumulate empty add xs) x := List.foldl_concat ..

structure Accumulates (r : Rolling σ τ) (w : Windows ι τ) : Prop where
  start : r.start = w.start
  current : r.current = accumulate empty add w.recorded
  reported : r.reported = w.past.getLast?.elim empty (accumulate empty add)
  nonempty : [] ∉ w.past

theorem fresh_accumulates (start : τ) :
    Accumulates empty add ⟨start, empty, empty⟩ (Windows.fresh start) :=
  ⟨rfl, rfl, rfl, List.not_mem_nil⟩

theorem sample_accumulates (r : Rolling σ τ) (w : Windows ι τ) (x : ι) (now : τ)
    (h : Accumulates empty add r w) :
    Accumulates empty add (r.sample empty add ends x now) (w.sample ends x now) := by
  have hadded : add r.current x = accumulate empty add (w.recorded ++ [x]) := by
    rw [accumulate_snoc, h.current]
  unfold Rolling.sample Windows.sample
  split
  · refine ⟨rfl, rfl, ?_, ?_⟩
    · rw [List.getLast?_concat]
      exact hadded
    · simpa using h.nonempty
  · exact ⟨h.start, hadded, h.reported, h.nonempty⟩

theorem sample_samples (w : Windows ι τ) (x : ι) (now : τ) :
    (w.sample ends x now).samples = w.samples ++ [x] := by
  unfold Windows.sample Windows.samples
  split <;> simp

theorem mem_shown (w : Windows ι τ) (x : ι) (hx : x ∈ w.shown) : x ∈ w.samples := by
  unfold Windows.shown at hx
  cases hlast : w.past.getLast? with
  | none =>
    rw [hlast] at hx
    exact List.mem_append_right _ hx
  | some xs =>
    rw [hlast] at hx
    exact List.mem_append_left _ (List.mem_flatten.mpr ⟨xs, List.mem_of_getLast? hlast, hx⟩)

theorem shown_length (bound : ℕ) (w : Windows ι τ) (h : w.Shorter bound) :
    w.shown.length < bound := by
  unfold Windows.shown
  cases hlast : w.past.getLast? with
  | none => exact h _ (by simp)
  | some xs => exact h _ (List.mem_append_left _ (List.mem_of_getLast? hlast))

/-- An accumulator that counts its samples tells by the count of the last complete
window whether there is one. -/
theorem shown_accumulated (count : σ → ℕ) (bound : ℕ) (r : Rolling σ τ) (w : Windows ι τ)
    (hcount : ∀ xs, xs.length < bound → count (accumulate empty add xs) = xs.length)
    (h : Accumulates empty add r w) (hshort : w.Shorter bound) :
    (if 0 < count r.reported then r.reported else r.current) =
      accumulate empty add w.shown := by
  have hpos : 0 < bound := Nat.lt_of_le_of_lt (Nat.zero_le _) (hshort w.recorded (by simp))
  rw [h.reported, h.current, Windows.shown]
  cases hlast : w.past.getLast? with
  | none =>
    have hzero : count empty = 0 := hcount [] hpos
    rw [Option.elim_none, if_neg (by omega)]
    rfl
  | some xs =>
    have hmem := List.mem_of_getLast? hlast
    have hlen := hcount xs (hshort xs (List.mem_append_left _ hmem))
    have hne : xs ≠ [] := fun hnil => h.nonempty (hnil ▸ hmem)
    rw [Option.elim_some, hlen, if_pos (List.length_pos_iff.mpr hne)]
    rfl

end Samples

end Foundation.RollingWindow
