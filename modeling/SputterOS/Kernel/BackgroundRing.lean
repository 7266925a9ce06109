import Mathlib.Data.Nat.ModEq
import Mathlib.Data.UInt
import Mathlib.Tactic.SplitIfs

/-!
# The background ring

After its scheduled tasks the background core makes one pass through the ring
of background tasks. The index moves to the next task before the budget of the
current one is tested, also when the test ends the pass.
-/

set_option autoImplicit false

namespace SputterOS.BackgroundRing

structure TickInput where
  busyAccum : UInt64
  maxBudgetUs : ℕ → UInt64
  lastDuration : ℕ → UInt64

def gapBudget (controlBudgetUs : UInt32) (busyAccum : UInt64) : UInt64 :=
  if controlBudgetUs.toUInt64 > busyAccum then controlBudgetUs.toUInt64-busyAccum else 0

structure Pass where
  bgRoundRobin : ℕ
  used : UInt64
  dispatched : List ℕ
  deriving DecidableEq, Repr

def passFrom (backgroundTaskCount : ℕ) (gap : UInt64) (inp : TickInput) :
    ℕ → ℕ → ℕ → UInt64 → Pass
  | 0, _, rr, used => ⟨rr, used, []⟩
  | todo+1, i, rr, used =>
    if i > 0 ∧ used+inp.maxBudgetUs rr > gap then
      ⟨(rr+1) % backgroundTaskCount, used, []⟩
    else
      let rest := passFrom backgroundTaskCount gap inp todo (i+1) ((rr+1) % backgroundTaskCount)
        (used+inp.lastDuration rr)
      { rest with dispatched := rr::rest.dispatched }

def phase2 (controlBudgetUs : UInt32) (backgroundTaskCount : ℕ) (inp : TickInput) (rr : ℕ) : Pass :=
  passFrom backgroundTaskCount (gapBudget controlBudgetUs inp.busyAccum) inp backgroundTaskCount
    0 rr 0

def indexAt (controlBudgetUs : UInt32) (backgroundTaskCount : ℕ) (inputs : ℕ → TickInput) : ℕ → ℕ
  | 0 => 0
  | t+1 => (phase2 controlBudgetUs backgroundTaskCount (inputs t)
      (indexAt controlBudgetUs backgroundTaskCount inputs t)).bgRoundRobin

def dispatchedAt (controlBudgetUs : UInt32) (backgroundTaskCount : ℕ) (inputs : ℕ → TickInput)
    (t : ℕ) : List ℕ :=
  (phase2 controlBudgetUs backgroundTaskCount (inputs t)
    (indexAt controlBudgetUs backgroundTaskCount inputs t)).dispatched

/-- Every slot is dispatched in any window of as many ticks as the ring has slots. -/
def Fair (controlBudgetUs : UInt32) (backgroundTaskCount : ℕ) (inputs : ℕ → TickInput) : Prop :=
  ∀ slot < backgroundTaskCount, ∀ start, ∃ t, start ≤ t ∧ t < start+backgroundTaskCount ∧
    slot ∈ dispatchedAt controlBudgetUs backgroundTaskCount inputs t

def elapsed (backgroundTaskCount : ℕ) (inp : TickInput) (rr : ℕ) : ℕ → UInt64
  | 0 => 0
  | k+1 => elapsed backgroundTaskCount inp rr k+inp.lastDuration ((rr+k) % backgroundTaskCount)

def distance (backgroundTaskCount rr slot : ℕ) : ℕ :=
  (slot+backgroundTaskCount-rr) % backgroundTaskCount

/-- Behind the head, each task up to the slot has room for its budget in the
gap left by the tasks in front of it. -/
def Fits (controlBudgetUs : UInt32) (backgroundTaskCount : ℕ) (inp : TickInput) (rr slot : ℕ) :
    Prop :=
  ∀ k, 0 < k → k ≤ distance backgroundTaskCount rr slot →
    elapsed backgroundTaskCount inp rr k+inp.maxBudgetUs ((rr+k) % backgroundTaskCount) ≤
      gapBudget controlBudgetUs inp.busyAccum

theorem elapsed_succ (n : ℕ) (inp : TickInput) (rr k : ℕ) :
    elapsed n inp rr (k+1) = inp.lastDuration (rr % n)+elapsed n inp ((rr+1) % n) k := by
  induction k with
  | zero => simp [elapsed]
  | succ k ih =>
    have hslot : ((rr+1) % n+k) % n = (rr+(k+1)) % n := by
      rw [Nat.mod_add_mod]
      congr 1
      omega
    rw [elapsed, ih, elapsed, hslot, UInt64.add_assoc]

theorem distance_slot (n rr slot : ℕ) (hrr : rr < n) (hs : slot < n) :
    (rr+distance n rr slot) % n = slot := by
  rw [distance, Nat.add_mod_mod, show rr+(slot+n-rr) = slot+n by omega, Nat.add_mod_right,
    Nat.mod_eq_of_lt hs]

theorem distance_lt (n rr slot : ℕ) (hn : 0 < n) : distance n rr slot < n := Nat.mod_lt _ hn

theorem distance_unique (n rr k : ℕ) (hrr : rr < n) (hk : k < n) :
    distance n rr ((rr+k) % n) = k := by
  rcases Nat.lt_or_ge (rr+k) n with h | h
  · rw [distance, Nat.mod_eq_of_lt h, show rr+k+n-rr = k+n by omega, Nat.add_mod_right,
      Nat.mod_eq_of_lt hk]
  · have hm : (rr+k) % n = rr+k-n := by
      rw [Nat.mod_eq_sub_mod h]
      exact Nat.mod_eq_of_lt (by omega)
    rw [distance, hm, show rr+k-n+n-rr = k by omega, Nat.mod_eq_of_lt hk]

/-- The budget test of the task at distance `k` in a pass that has come to
number `i` with time `used` behind it. -/
def Admitted (n : ℕ) (gap : UInt64) (inp : TickInput) (i rr : ℕ) (used : UInt64) (k : ℕ) : Prop :=
  0 < i+k → used+elapsed n inp rr k+inp.maxBudgetUs ((rr+k) % n) ≤ gap

theorem admitted_succ (n : ℕ) (gap : UInt64) (inp : TickInput) (i rr : ℕ) (used : UInt64) (k : ℕ)
    (hrr : rr < n) :
    Admitted n gap inp (i+1) ((rr+1) % n) (used+inp.lastDuration rr) k ↔
      Admitted n gap inp i rr used (k+1) := by
  have hslot : ((rr+1) % n+k) % n = (rr+(k+1)) % n := by
    rw [Nat.mod_add_mod]
    congr 1
    omega
  rw [Admitted, Admitted, elapsed_succ, hslot, Nat.mod_eq_of_lt hrr, UInt64.add_assoc used,
    show i+1+k = i+(k+1) by omega]

theorem mem_passFrom (n : ℕ) (gap : UInt64) (inp : TickInput) (todo i rr : ℕ) (used : UInt64)
    (hrr : rr < n) (slot : ℕ) :
    slot ∈ (passFrom n gap inp todo i rr used).dispatched ↔
      ∃ k < todo, (rr+k) % n = slot ∧ ∀ j ≤ k, Admitted n gap inp i rr used j := by
  induction todo generalizing i rr used with
  | zero => simp [passFrom]
  | succ todo ih =>
    have hmod := Nat.mod_eq_of_lt hrr
    have hhead : Admitted n gap inp i rr used 0 ↔ ¬ (i > 0 ∧ used+inp.maxBudgetUs rr > gap) := by
      simp [Admitted, elapsed, hmod]
    by_cases hbreak : i > 0 ∧ used+inp.maxBudgetUs rr > gap
    · simp only [passFrom, hbreak, and_self, if_true, List.not_mem_nil, false_iff]
      rintro ⟨k, -, -, hall⟩
      exact hhead.mp (hall 0 (Nat.zero_le k)) hbreak
    · have hnext := ih (i+1) ((rr+1) % n) (used+inp.lastDuration rr) (Nat.mod_lt _ (by omega))
      simp only [passFrom, hbreak, if_false, List.mem_cons, hnext]
      constructor
      · rintro (rfl | ⟨k, hk, hslot, hall⟩)
        · refine ⟨0, by omega, by simpa using hmod, ?_⟩
          intro j hj
          rw [Nat.le_zero.mp hj]
          exact hhead.mpr hbreak
        · refine ⟨k+1, by omega, ?_, ?_⟩
          · rw [← hslot, Nat.mod_add_mod]
            congr 1
            omega
          · intro j hj
            rcases j with _ | j
            · exact hhead.mpr hbreak
            · exact (admitted_succ n gap inp i rr used j hrr).mp (hall j (by omega))
      · rintro ⟨k, hk, hslot, hall⟩
        rcases k with _ | k
        · left
          rw [← hslot, Nat.add_zero, hmod]
        · right
          refine ⟨k, by omega, ?_, ?_⟩
          · rw [← hslot, Nat.mod_add_mod]
            congr 1
            omega
          · intro j hj
            exact (admitted_succ n gap inp i rr used j hrr).mpr (hall (j+1) (by omega))

theorem passFrom_index (n : ℕ) (gap : UInt64) (inp : TickInput) (todo i rr : ℕ) (used : UInt64)
    (hrr : rr < n) : (passFrom n gap inp todo i rr used).bgRoundRobin < n := by
  induction todo generalizing i rr used with
  | zero => exact hrr
  | succ todo ih =>
    have hnext : (rr+1) % n < n := Nat.mod_lt _ (by omega)
    rw [passFrom]
    split_ifs
    · exact hnext
    · exact ih _ _ _ hnext

theorem indexAt_lt (controlBudgetUs : UInt32) (n : ℕ) (hn : 0 < n) (inputs : ℕ → TickInput)
    (t : ℕ) : indexAt controlBudgetUs n inputs t < n := by
  induction t with
  | zero => exact hn
  | succ t ih => exact passFrom_index n _ _ _ _ _ _ ih

theorem mem_phase2 (controlBudgetUs : UInt32) (n : ℕ) (inp : TickInput) (rr slot : ℕ)
    (hrr : rr < n) (hs : slot < n) :
    slot ∈ (phase2 controlBudgetUs n inp rr).dispatched ↔ Fits controlBudgetUs n inp rr slot := by
  rw [phase2, mem_passFrom n _ inp n 0 rr 0 hrr slot]
  constructor
  · rintro ⟨k, hk, hslot, hall⟩ j hj hle
    have hd := distance_unique n rr k hrr hk
    rw [hslot] at hd
    have hfit := hall j (by omega) (by omega)
    simpa using hfit
  · intro hfits
    refine ⟨distance n rr slot, distance_lt n rr slot (by omega), distance_slot n rr slot hrr hs, ?_⟩
    intro j hj hpos
    simpa using hfits j (by omega) hj

section Movement

/-- How many tasks the gap has room for from slot `rr` on: the head, and those behind
it up to the first whose budget is more than the tasks in front have left. -/
def room (backgroundTaskCount : ℕ) (gap : UInt64) (inp : TickInput) (rr : ℕ) : ℕ :=
  ((List.range backgroundTaskCount).takeWhile fun k => decide (0 < k →
    elapsed backgroundTaskCount inp rr k+inp.maxBudgetUs ((rr+k) % backgroundTaskCount) ≤ gap)).length

/-- The index before tick number `t`, counted on over the laps of the ring. -/
def place (controlBudgetUs : UInt32) (backgroundTaskCount : ℕ) (inputs : ℕ → TickInput) : ℕ → ℕ
  | 0 => 0
  | t+1 => place controlBudgetUs backgroundTaskCount inputs t+
      min (room backgroundTaskCount (gapBudget controlBudgetUs (inputs t).busyAccum) (inputs t)
        (place controlBudgetUs backgroundTaskCount inputs t % backgroundTaskCount)+1)
        backgroundTaskCount

def roomAt (controlBudgetUs : UInt32) (backgroundTaskCount : ℕ) (inputs : ℕ → TickInput) (t : ℕ) :
    ℕ :=
  room backgroundTaskCount (gapBudget controlBudgetUs (inputs t).busyAccum) (inputs t)
    (place controlBudgetUs backgroundTaskCount inputs t % backgroundTaskCount)

/-- Some pass ends at place `q`, for want of room for the budget of its task. -/
def Broken (controlBudgetUs : UInt32) (backgroundTaskCount : ℕ) (inputs : ℕ → TickInput) (q : ℕ) :
    Prop :=
  ∃ t, roomAt controlBudgetUs backgroundTaskCount inputs t < backgroundTaskCount ∧
    q = place controlBudgetUs backgroundTaskCount inputs t+
      roomAt controlBudgetUs backgroundTaskCount inputs t

instance (n : ℕ) (gap : UInt64) (inp : TickInput) (i rr : ℕ) (used : UInt64) (k : ℕ) :
    Decidable (Admitted n gap inp i rr used k) :=
  inferInstanceAs (Decidable (0 < i+k → used+elapsed n inp rr k+inp.maxBudgetUs ((rr+k) % n) ≤ gap))

def admittedCount (n : ℕ) (gap : UInt64) (inp : TickInput) (todo i rr : ℕ) (used : UInt64) : ℕ :=
  ((List.range todo).takeWhile fun k => decide (Admitted n gap inp i rr used k)).length

theorem admittedCount_zero (n : ℕ) (gap : UInt64) (inp : TickInput) (i rr : ℕ) (used : UInt64) :
    admittedCount n gap inp 0 i rr used = 0 := rfl

theorem admittedCount_succ (n : ℕ) (gap : UInt64) (inp : TickInput) (todo i rr : ℕ) (used : UInt64)
    (hrr : rr < n) :
    admittedCount n gap inp (todo+1) i rr used =
      if Admitted n gap inp i rr used 0 then
        admittedCount n gap inp todo (i+1) ((rr+1) % n) (used+inp.lastDuration rr)+1 else 0 := by
  have hshift : (fun k => decide (Admitted n gap inp i rr used k)) ∘ Nat.succ =
      fun k => decide (Admitted n gap inp (i+1) ((rr+1) % n) (used+inp.lastDuration rr) k) := by
    funext k
    simp only [Function.comp_apply, decide_eq_decide]
    exact (admitted_succ n gap inp i rr used k hrr).symm
  rw [admittedCount, List.range_succ_eq_map, List.takeWhile_cons, List.takeWhile_map, hshift]
  by_cases h : Admitted n gap inp i rr used 0
  · simp [h, admittedCount]
  · simp [h]

theorem admittedCount_le (n : ℕ) (gap : UInt64) (inp : TickInput) (todo i rr : ℕ) (used : UInt64) :
    admittedCount n gap inp todo i rr used ≤ todo := by
  have h := (List.takeWhile_prefix (l := List.range todo)
    fun k => decide (Admitted n gap inp i rr used k)).length_le
  simpa [admittedCount] using h

/-- A pass runs the tasks with room and leaves the index one place behind the
task that ended it. -/
theorem passFrom_moves (n : ℕ) (gap : UInt64) (inp : TickInput) (todo i rr : ℕ) (used : UInt64)
    (hrr : rr < n) :
    (passFrom n gap inp todo i rr used).dispatched =
        (List.range (admittedCount n gap inp todo i rr used)).map (fun k => (rr+k) % n) ∧
      (passFrom n gap inp todo i rr used).bgRoundRobin =
        (rr+min (admittedCount n gap inp todo i rr used+1) todo) % n := by
  induction todo generalizing i rr used with
  | zero => simp [passFrom, admittedCount_zero, Nat.mod_eq_of_lt hrr]
  | succ todo ih =>
    have hmod := Nat.mod_eq_of_lt hrr
    have hhead : Admitted n gap inp i rr used 0 ↔ ¬ (i > 0 ∧ used+inp.maxBudgetUs rr > gap) := by
      simp [Admitted, elapsed, hmod]
    rw [admittedCount_succ n gap inp todo i rr used hrr]
    by_cases hbreak : i > 0 ∧ used+inp.maxBudgetUs rr > gap
    · have hrefused : ¬ Admitted n gap inp i rr used 0 := fun h => hhead.mp h hbreak
      simp [passFrom, hbreak, hrefused]
    · obtain ⟨hlist, hindex⟩ := ih (i+1) ((rr+1) % n) (used+inp.lastDuration rr)
        (Nat.mod_lt _ (by omega))
      simp only [passFrom, hbreak, if_false, if_pos (hhead.mpr hbreak), hlist, hindex]
      constructor
      · rw [List.range_succ_eq_map, List.map_cons, List.map_map]
        simp only [Nat.add_zero, hmod, Function.comp_def, Nat.mod_add_mod]
        congr 1
        apply List.map_congr_left
        intro k _
        congr 1
        omega
      · rw [Nat.mod_add_mod]
        congr 1
        omega

theorem room_eq (n : ℕ) (gap : UInt64) (inp : TickInput) (rr : ℕ) :
    room n gap inp rr = admittedCount n gap inp n 0 rr 0 := by
  simp [room, admittedCount, Admitted]

theorem room_le (n : ℕ) (gap : UInt64) (inp : TickInput) (rr : ℕ) : room n gap inp rr ≤ n := by
  rw [room_eq]
  exact admittedCount_le n gap inp n 0 rr 0

theorem room_pos (n : ℕ) (gap : UInt64) (inp : TickInput) (rr : ℕ) (hrr : rr < n) :
    0 < room n gap inp rr := by
  obtain ⟨todo, rfl⟩ : ∃ todo, n = todo+1 := ⟨n-1, by omega⟩
  rw [room_eq, admittedCount_succ _ gap inp todo 0 rr 0 hrr, if_pos (by simp [Admitted])]
  exact Nat.succ_pos _

section Run

variable (controlBudgetUs : UInt32) (n : ℕ) (inputs : ℕ → TickInput)

theorem place_succ (t : ℕ) :
    place controlBudgetUs n inputs (t+1) =
      place controlBudgetUs n inputs t+min (roomAt controlBudgetUs n inputs t+1) n := rfl

theorem roomAt_le (t : ℕ) : roomAt controlBudgetUs n inputs t ≤ n := room_le n _ _ _

theorem roomAt_pos (hn : 0 < n) (t : ℕ) : 0 < roomAt controlBudgetUs n inputs t :=
  room_pos n _ _ _ (Nat.mod_lt _ hn)

theorem indexAt_eq (hn : 0 < n) (t : ℕ) :
    indexAt controlBudgetUs n inputs t = place controlBudgetUs n inputs t % n := by
  induction t with
  | zero => exact (Nat.zero_mod n).symm
  | succ t ih =>
    have hmoves := (passFrom_moves n (gapBudget controlBudgetUs (inputs t).busyAccum) (inputs t)
      n 0 (indexAt controlBudgetUs n inputs t) 0 (indexAt_lt controlBudgetUs n hn inputs t)).2
    rw [indexAt, phase2, hmoves, ih, ← room_eq, Nat.mod_add_mod]
    rfl

/-- A tick dispatches the places from where it stands, as many as have room. -/
theorem dispatchedAt_eq (hn : 0 < n) (t : ℕ) :
    dispatchedAt controlBudgetUs n inputs t =
      (List.range (roomAt controlBudgetUs n inputs t)).map fun k =>
        (place controlBudgetUs n inputs t+k) % n := by
  have hmoves := (passFrom_moves n (gapBudget controlBudgetUs (inputs t).busyAccum) (inputs t)
    n 0 (indexAt controlBudgetUs n inputs t) 0 (indexAt_lt controlBudgetUs n hn inputs t)).1
  rw [dispatchedAt, phase2, hmoves, indexAt_eq controlBudgetUs n inputs hn t, ← room_eq]
  simp only [Nat.mod_add_mod]
  rfl

theorem mem_dispatchedAt (hn : 0 < n) (t slot : ℕ) :
    slot ∈ dispatchedAt controlBudgetUs n inputs t ↔
      ∃ q, place controlBudgetUs n inputs t ≤ q ∧
        q < place controlBudgetUs n inputs t+roomAt controlBudgetUs n inputs t ∧ q % n = slot := by
  simp only [dispatchedAt_eq controlBudgetUs n inputs hn t, List.mem_map, List.mem_range]
  constructor
  · rintro ⟨k, hk, rfl⟩
    exact ⟨_, Nat.le_add_right _ k, by omega, rfl⟩
  · rintro ⟨q, hle, hlt, rfl⟩
    exact ⟨q-place controlBudgetUs n inputs t, by omega, by rw [Nat.add_sub_cancel' hle]⟩

theorem place_strictMono (hn : 0 < n) : StrictMono (place controlBudgetUs n inputs) := by
  apply strictMono_nat_of_lt_succ
  intro t
  rw [place_succ]
  omega

theorem place_window (hn : 2 ≤ n) (start ticks : ℕ) :
    place controlBudgetUs n inputs start+2*ticks ≤
      place controlBudgetUs n inputs (start+ticks) := by
  induction ticks with
  | zero => rfl
  | succ ticks ih =>
    have hpos := roomAt_pos controlBudgetUs n inputs (by omega) (start+ticks)
    rw [← Nat.add_assoc, place_succ]
    omega

theorem passed_in (start ticks q : ℕ) (hle : place controlBudgetUs n inputs start ≤ q)
    (hlt : q < place controlBudgetUs n inputs (start+ticks)) :
    ∃ t, start ≤ t ∧ t < start+ticks ∧ place controlBudgetUs n inputs t ≤ q ∧
      q < place controlBudgetUs n inputs (t+1) := by
  induction ticks with
  | zero => exact absurd hlt (Nat.not_lt.mpr hle)
  | succ ticks ih =>
    rcases Nat.lt_or_ge q (place controlBudgetUs n inputs (start+ticks)) with h | h
    · obtain ⟨t, hfrom, hto, hin⟩ := ih h
      exact ⟨t, hfrom, by omega, hin⟩
    · exact ⟨start+ticks, by omega, by omega, h, hlt⟩

theorem broken_iff (hn : 0 < n) (t q : ℕ) (hle : place controlBudgetUs n inputs t ≤ q)
    (hlt : q < place controlBudgetUs n inputs (t+1)) :
    Broken controlBudgetUs n inputs q ↔
      place controlBudgetUs n inputs t+roomAt controlBudgetUs n inputs t ≤ q := by
  rw [place_succ] at hlt
  constructor
  · rintro ⟨u, hroom, hq⟩
    -- the tick that breaks there is the tick that passes the place
    have hnext := place_succ controlBudgetUs n inputs u
    have hut : u = t := by
      have hmono := (place_strictMono controlBudgetUs n inputs hn).monotone
      rcases Nat.lt_trichotomy u t with h | h | h
      · have hlater : place controlBudgetUs n inputs (u+1) ≤ place controlBudgetUs n inputs t :=
          hmono h
        omega
      · exact h
      · have hlater : place controlBudgetUs n inputs (t+1) ≤ place controlBudgetUs n inputs u :=
          hmono h
        have htnext := place_succ controlBudgetUs n inputs t
        omega
    rw [hq, hut]
  · intro h
    exact ⟨t, by omega, by omega⟩

/-- A slot is dispatched in a window of ticks if the window passes it at a place with room. -/
theorem dispatched_in_window (hn : 0 < n) (start ticks slot : ℕ) :
    (∃ t, start ≤ t ∧ t < start+ticks ∧ slot ∈ dispatchedAt controlBudgetUs n inputs t) ↔
      ∃ q, place controlBudgetUs n inputs start ≤ q ∧
        q < place controlBudgetUs n inputs (start+ticks) ∧ q % n = slot ∧
        ¬ Broken controlBudgetUs n inputs q := by
  have hmono := (place_strictMono controlBudgetUs n inputs hn).monotone
  constructor
  · rintro ⟨t, hfrom, hto, hmem⟩
    obtain ⟨q, hle, hlt, hslot⟩ := (mem_dispatchedAt controlBudgetUs n inputs hn t slot).mp hmem
    have hnext : q < place controlBudgetUs n inputs (t+1) := by
      have hroom := roomAt_le controlBudgetUs n inputs t
      rw [place_succ]
      omega
    refine ⟨q, (hmono hfrom).trans hle, hnext.trans_le (hmono hto), hslot, ?_⟩
    rw [broken_iff controlBudgetUs n inputs hn t q hle hnext]
    omega
  · rintro ⟨q, hle, hlt, hslot, hroom⟩
    obtain ⟨t, hfrom, hto, hin, hout⟩ := passed_in controlBudgetUs n inputs start ticks q hle hlt
    rw [broken_iff controlBudgetUs n inputs hn t q hin hout, Nat.not_le] at hroom
    exact ⟨t, hfrom, hto, (mem_dispatchedAt controlBudgetUs n inputs hn t slot).mpr
      ⟨q, hin, hroom, hslot⟩⟩

theorem same_slot (p q : ℕ) (hslot : p % n = q % n) (hlt : p < q+n) : ∃ lap, q = p+lap*n := by
  have hle : p ≤ q := by
    by_contra h
    have hdvd := (Nat.modEq_iff_dvd' (by omega)).mp hslot.symm
    have hzero := Nat.eq_zero_of_dvd_of_lt hdvd (by omega)
    omega
  obtain ⟨lap, hlap⟩ := (Nat.modEq_iff_dvd' hle).mp hslot
  exact ⟨lap, by rw [Nat.mul_comm, ← hlap, Nat.add_sub_cancel' hle]⟩

/-- A run is fair exactly when in every window of as many ticks as the ring has
slots, whichever of the next places is taken, some lap passes it with room before
the window ends. -/
theorem fair_iff_unbroken :
    Fair controlBudgetUs n inputs ↔
      ∀ start q, place controlBudgetUs n inputs start ≤ q →
        q < place controlBudgetUs n inputs start+n →
        ∃ lap, q+lap*n < place controlBudgetUs n inputs (start+n) ∧
          ¬ Broken controlBudgetUs n inputs (q+lap*n) := by
  rcases Nat.eq_zero_or_pos n with rfl | hn
  · exact iff_of_true (fun slot h => absurd h (Nat.not_lt_zero slot))
      (fun start q hle hlt => absurd hlt (Nat.not_lt.mpr hle))
  constructor
  · intro hfair start q hle hlt
    obtain ⟨p, hfrom, hto, hslot, hroom⟩ := (dispatched_in_window controlBudgetUs n inputs hn start
      n (q % n)).mp (hfair (q % n) (Nat.mod_lt _ hn) start)
    obtain ⟨lap, rfl⟩ := same_slot n q p hslot.symm (by omega)
    exact ⟨lap, hto, hroom⟩
  · intro h slot hs start
    rw [dispatched_in_window controlBudgetUs n inputs hn start n slot]
    let first := place controlBudgetUs n inputs start+
      distance n (place controlBudgetUs n inputs start % n) slot
    obtain ⟨lap, hto, hroom⟩ := h start first (Nat.le_add_right _ _)
      (Nat.add_lt_add_left (distance_lt n _ slot hn) _)
    refine ⟨first+lap*n, by omega, hto, ?_, hroom⟩
    rw [Nat.add_mul_mod_self_right, ← Nat.mod_add_mod]
    exact distance_slot n _ slot (Nat.mod_lt _ hn) hs

/-- A ring in which no place is without room on two laps in a row is fair. -/
theorem fair_of_laps_apart
    (h : ∀ q, Broken controlBudgetUs n inputs q → ¬ Broken controlBudgetUs n inputs (q+n)) :
    Fair controlBudgetUs n inputs := by
  rw [fair_iff_unbroken]
  intro start q hle hlt
  have hn : 0 < n := by omega
  have hlap := (place_strictMono controlBudgetUs n inputs hn).add_le_nat n start
  rw [Nat.add_comm n start] at hlap
  by_cases hbroken : Broken controlBudgetUs n inputs q
  · have htwo : 2 ≤ n := by
      obtain ⟨t, hroom, -⟩ := hbroken
      have hpos := roomAt_pos controlBudgetUs n inputs hn t
      omega
    have hwindow := place_window controlBudgetUs n inputs htwo start n
    exact ⟨1, by omega, by rw [Nat.one_mul]; exact h q hbroken⟩
  · exact ⟨0, by omega, by rwa [Nat.zero_mul, Nat.add_zero]⟩

end Run

end Movement

def hugeBudget (_ : ℕ) : TickInput := ⟨0, fun slot => if slot = 0 then 100 else 20000, fun _ => 50⟩

theorem hugeBudget_pass : phase2 10000 2 (hugeBudget 0) 0 = ⟨0, 50, [0]⟩ := by decide

theorem hugeBudget_index (t : ℕ) : indexAt 10000 2 hugeBudget t = 0 := by
  induction t with
  | zero => rfl
  | succ t ih =>
    rw [indexAt, ih]
    exact congrArg Pass.bgRoundRobin hugeBudget_pass

/-- The second task is refused in every tick of the run. -/
theorem huge_budget_starved :
    (∀ t, 1 ∉ dispatchedAt 10000 2 hugeBudget t) ∧ ¬ Fair 10000 2 hugeBudget := by
  have hnever : ∀ t, 1 ∉ dispatchedAt 10000 2 hugeBudget t := by
    intro t
    have hpass : dispatchedAt 10000 2 hugeBudget t = [0] := by
      rw [dispatchedAt, hugeBudget_index]
      exact congrArg Pass.dispatched hugeBudget_pass
    simp [hpass]
  refine ⟨hnever, ?_⟩
  intro hfair
  obtain ⟨t, -, -, hmem⟩ := hfair 1 (by omega) 0
  exact hnever t hmem

section ExactTimes

def exactElapsed (backgroundTaskCount : ℕ) (inp : TickInput) (rr : ℕ) : ℕ → ℕ
  | 0 => 0
  | k+1 => exactElapsed backgroundTaskCount inp rr k+
      (inp.lastDuration ((rr+k) % backgroundTaskCount)).toNat

def exactDemand (backgroundTaskCount : ℕ) (inp : TickInput) (rr k : ℕ) : ℕ :=
  exactElapsed backgroundTaskCount inp rr k+
    (inp.maxBudgetUs ((rr+k) % backgroundTaskCount)).toNat

/-- Every task behind the head that is dispatched finds room for its whole budget. -/
def GateExact (controlBudgetUs : UInt32) (backgroundTaskCount : ℕ) (inp : TickInput) (rr : ℕ) :
    Prop :=
  ∀ k, 0 < k → k < backgroundTaskCount →
    (rr+k) % backgroundTaskCount ∈ (phase2 controlBudgetUs backgroundTaskCount inp rr).dispatched →
    exactDemand backgroundTaskCount inp rr k ≤ (gapBudget controlBudgetUs inp.busyAccum).toNat

/-- The first task behind the head without room for its whole budget exceeds the
gap also in the arithmetic of the gate. -/
def FirstExcessSeen (controlBudgetUs : UInt32) (backgroundTaskCount : ℕ) (inp : TickInput)
    (rr : ℕ) : Prop :=
  ∀ k, 0 < k → k < backgroundTaskCount →
    (∀ j, 0 < j → j < k → exactDemand backgroundTaskCount inp rr j ≤
      (gapBudget controlBudgetUs inp.busyAccum).toNat) →
    (gapBudget controlBudgetUs inp.busyAccum).toNat < exactDemand backgroundTaskCount inp rr k →
    (gapBudget controlBudgetUs inp.busyAccum).toNat <
      exactDemand backgroundTaskCount inp rr k % 2^64

theorem elapsed_toNat (n : ℕ) (inp : TickInput) (rr k : ℕ) :
    (elapsed n inp rr k).toNat = exactElapsed n inp rr k % 2^64 := by
  induction k with
  | zero => rfl
  | succ k ih => rw [elapsed, exactElapsed, UInt64.toNat_add, ih, Nat.mod_add_mod]

theorem gate_iff (n : ℕ) (gap : UInt64) (inp : TickInput) (rr k : ℕ) :
    elapsed n inp rr k+inp.maxBudgetUs ((rr+k) % n) ≤ gap ↔
      exactDemand n inp rr k % 2^64 ≤ gap.toNat := by
  rw [UInt64.le_iff_toNat_le, UInt64.toNat_add, elapsed_toNat, exactDemand, Nat.mod_add_mod]

/-- The task at distance `k` is dispatched if the gate lets it and all before it pass. -/
theorem dispatched_iff (controlBudgetUs : UInt32) (n : ℕ) (inp : TickInput) (rr k : ℕ)
    (hrr : rr < n) (hk : k < n) :
    (rr+k) % n ∈ (phase2 controlBudgetUs n inp rr).dispatched ↔
      ∀ j, 0 < j → j ≤ k → exactDemand n inp rr j % 2^64 ≤
        (gapBudget controlBudgetUs inp.busyAccum).toNat := by
  rw [mem_phase2 controlBudgetUs n inp rr _ hrr (Nat.mod_lt _ (by omega)), Fits,
    distance_unique n rr k hrr hk]
  constructor
  · intro h j hj hle
    exact (gate_iff n _ inp rr j).mp (h j hj hle)
  · intro h j hj hle
    exact (gate_iff n _ inp rr j).mpr (h j hj hle)

theorem gateExact_iff (controlBudgetUs : UInt32) (n : ℕ) (inp : TickInput) (rr : ℕ)
    (hrr : rr < n) :
    GateExact controlBudgetUs n inp rr ↔ FirstExcessSeen controlBudgetUs n inp rr := by
  have hgap := (gapBudget controlBudgetUs inp.busyAccum).toNat_lt
  have hexact : ∀ j, exactDemand n inp rr j ≤ (gapBudget controlBudgetUs inp.busyAccum).toNat →
      exactDemand n inp rr j % 2^64 ≤ (gapBudget controlBudgetUs inp.busyAccum).toNat :=
    fun j h => (Nat.mod_le _ _).trans h
  constructor
  · intro h k hpos hk hbefore hexcess
    by_contra hseen
    have hdispatched := (dispatched_iff controlBudgetUs n inp rr k hrr hk).mpr (by
      intro j hj hle
      rcases Nat.lt_or_eq_of_le hle with hlt | rfl
      · exact hexact j (hbefore j hj hlt)
      · exact Nat.not_lt.mp hseen)
    have hlt := h k hpos hk hdispatched
    omega
  · intro h k
    -- a task that is dispatched finds room if all dispatched before it do
    induction k using Nat.strongRecOn with
    | ind k ih =>
      intro hpos hk hmem
      have hall := (dispatched_iff controlBudgetUs n inp rr k hrr hk).mp hmem
      have hbefore : ∀ j, 0 < j → j < k → exactDemand n inp rr j ≤
          (gapBudget controlBudgetUs inp.busyAccum).toNat := by
        intro j hj hlt
        apply ih j hlt hj (by omega)
        exact (dispatched_iff controlBudgetUs n inp rr j hrr (by omega)).mpr
          (fun i hi hle => hall i hi (by omega))
      by_contra hexcess
      have hseen := h k hpos hk hbefore (Nat.not_le.mp hexcess)
      have hfit := hall k hpos le_rfl
      omega

/-- In every tick of every run the gate keeps the exact budget exactly if it sees
the first excess. -/
theorem gate_exact_iff (controlBudgetUs : UInt32) (n : ℕ) (inputs : ℕ → TickInput) (t : ℕ) :
    GateExact controlBudgetUs n (inputs t) (indexAt controlBudgetUs n inputs t) ↔
      FirstExcessSeen controlBudgetUs n (inputs t) (indexAt controlBudgetUs n inputs t) := by
  by_cases hn : 0 < n
  · exact gateExact_iff controlBudgetUs n (inputs t) _ (indexAt_lt controlBudgetUs n hn inputs t)
  · have h0 : n = 0 := by omega
    subst h0
    exact iff_of_true (fun k _ hk => absurd hk (Nat.not_lt_zero k))
      (fun k _ hk => absurd hk (Nat.not_lt_zero k))

def unlimitedBudget (_ : ℕ) : TickInput :=
  ⟨0, fun slot => if slot = 0 then 100 else 0xFFFFFFFFFFFFFFFF, fun _ => 1⟩

theorem unlimited_budget_dispatched :
    1 ∈ dispatchedAt 10000 2 unlimitedBudget 0 ∧
      ¬ ∀ t, GateExact 10000 2 (unlimitedBudget t) (indexAt 10000 2 unlimitedBudget t) := by
  refine ⟨by decide, fun h => ?_⟩
  have hroom := h 0 1 (by decide) (by decide) (by decide)
  exact absurd hroom (by decide)

end ExactTimes

end SputterOS.BackgroundRing
