import SputterOS.Foundation.RunningStatistics
import SputterOS.Foundation.Transition
import SputterOS.Kernel.Metrics

/-!
# The windows of a task timer

Every stop records a duration in the current window and may complete it. The
figures of a window are those of the durations recorded in it; the sum is kept in
64 bits, which are enough as long as no start serves two stops.
-/

set_option autoImplicit false

namespace SputterOS.TimerWindows
open Foundation.RunningStatistics Foundation.Transition SputterOS.Metrics

inductive Call where
  | start (now : UInt64)
  | stop (now : UInt64)

def Call.now : Call → UInt64
  | .start now => now
  | .stop now => now

/-- A stop, with the reading of the last start before it. -/
structure Sample where
  start : UInt64
  stop : UInt64
  deriving DecidableEq

def Sample.duration (x : Sample) : ℕ := x.stop.toNat-x.start.toNat

def durations (xs : List Sample) : List ℕ := xs.map Sample.duration

def samples (started : UInt64) : List Call → List Sample
  | [] => []
  | .start now::calls => samples now calls
  | .stop now::calls => ⟨started, now⟩ :: samples started calls

def Clock : UInt64 → List Call → Prop
  | _, [] => True
  | before, c::calls => before ≤ c.now ∧ Clock c.now calls

/-- Every stop has a start of its own. -/
def Paired : Bool → List Call → Prop
  | _, [] => True
  | _, .start _::calls => Paired true calls
  | started, .stop _::calls => started = true ∧ Paired false calls

structure State where
  timer : TaskTimer
  past : List (List Sample)
  recorded : List Sample

def boot (t : TaskTimer) : State := ⟨t.reset, [], []⟩

def step (s : State) : Call → State
  | .start now => { s with timer := s.timer.begin now }
  | .stop now =>
    let recorded := s.recorded ++ [⟨s.timer.start, now⟩]
    if windowEnds s.timer.windowUs s.timer.windowStartUs now then
      ⟨s.timer.stop now, s.past ++ [recorded], []⟩
    else ⟨s.timer.stop now, s.past, recorded⟩

def Small (s : State) : Prop := ∀ xs ∈ s.past ++ [s.recorded], xs.length < 2^32

instance (s : State) : Decidable (Small s) :=
  inferInstanceAs (Decidable (∀ xs ∈ s.past ++ [s.recorded], xs.length < 2^32))

def bucketOf (duration : ℕ) : ℕ := min (duration/512) 7

/-- The figures of a window are those of its samples, and so is what
`getAverageDurationUs` divides. -/
structure Exact (w : TaskWindow) (xs : List Sample) : Prop where
  count : w.sampleCount.toNat = xs.length
  minimum : w.minDuration.toNat = least (2^64-1) (durations xs)
  maximum : w.maxDuration.toNat = greatest (durations xs)
  total : w.sumDurationUs.toNat = (durations xs).sum % 2^64
  mean : ∀ quotient, average quotient w.sumDurationUs w.sampleCount.toUInt64 =
    average quotient (UInt64.ofNat (durations xs).sum) (UInt64.ofNat xs.length)
  histogram : ∀ b, (w.histogram b).toNat = bin bucketOf b (durations xs)
  bins : ∑ b ∈ Finset.range kHistogramBuckets, (w.histogram b).toNat = w.sampleCount.toNat

/-- Every sample is in one window, and the figures of the current window and of the
last completed one are exact. -/
structure Accounted (t : TaskTimer) (calls : List Call) (s : State) : Prop where
  once : s.past.flatten ++ s.recorded = samples t.start calls
  current : Exact s.timer.current s.recorded
  reported : ∀ xs, s.past.getLast? = some xs → Exact s.timer.reported xs
  unwrapped : Clock t.start calls → Paired false calls →
    ∀ xs ∈ s.past ++ [s.recorded], (durations xs).sum < 2^64

section Samples

theorem stop_timer (t : TaskTimer) (now : UInt64) :
    t.stop now = if windowEnds t.windowUs t.windowStartUs now then
      (t.sample (if now ≥ t.start then now-t.start else 0)).rotateWindow now
    else t.sample (if now ≥ t.start then now-t.start else 0) := rfl

@[simp] theorem stop_start (t : TaskTimer) (now : UInt64) : (t.stop now).start = t.start := by
  rw [stop_timer]
  split <;> rfl

@[simp] theorem stop_windowUs (t : TaskTimer) (now : UInt64) :
    (t.stop now).windowUs = t.windowUs := by
  rw [stop_timer]
  split <;> rfl

theorem elapsed_toNat (start now : UInt64) :
    (if now ≥ start then now-start else 0).toNat = now.toNat-start.toNat := by
  split_ifs with h
  · exact UInt64.toNat_sub_of_le now start h
  · have hlt := UInt64.lt_iff_toNat_lt.mp (UInt64.not_le.mp h)
    simp
    omega

theorem durations_snoc (xs : List Sample) (x : Sample) :
    durations (xs ++ [x]) = durations xs ++ [x.duration] := by
  simp [durations]

theorem bins_count (w : TaskWindow) (xs : List Sample) (hcount : w.sampleCount.toNat = xs.length)
    (hhistogram : ∀ b, (w.histogram b).toNat = bin bucketOf b (durations xs)) :
    ∑ b ∈ Finset.range kHistogramBuckets, (w.histogram b).toNat = w.sampleCount.toNat := by
  have hbucket : ∀ d, bucketOf d < kHistogramBuckets :=
    fun d => Nat.lt_succ_of_le (Nat.min_le_right _ _)
  simp only [hhistogram]
  rw [sum_bin bucketOf kHistogramBuckets hbucket, hcount, durations, List.length_map]

theorem mean_exact (w : TaskWindow) (xs : List Sample) (hcount : w.sampleCount.toNat = xs.length)
    (htotal : w.sumDurationUs.toNat = (durations xs).sum % 2^64)
    (quotient : UInt64 → UInt64 → UInt32) :
    average quotient w.sumDurationUs w.sampleCount.toUInt64 =
      average quotient (UInt64.ofNat (durations xs).sum) (UInt64.ofNat xs.length) := by
  have hlt : xs.length < 2^64 := by
    rw [← hcount]
    exact Nat.lt_trans w.sampleCount.toNat_lt (by decide)
  have hsum : w.sumDurationUs = UInt64.ofNat (durations xs).sum := by
    rw [← UInt64.toNat_inj, htotal, UInt64.toNat_ofNat']
  have hlen : w.sampleCount.toUInt64 = UInt64.ofNat xs.length := by
    rw [← UInt64.toNat_inj, UInt32.toNat_toUInt64, hcount, UInt64.toNat_ofNat_of_lt' hlt]
  rw [hsum, hlen]

theorem empty_exact : Exact TaskWindow.empty [] :=
  ⟨rfl, rfl, rfl, rfl, fun _ => rfl, fun _ => rfl, bins_count _ [] rfl fun _ => rfl⟩

theorem bucket_eq (elapsed : UInt64) : TaskTimer.bucket elapsed = bucketOf elapsed.toNat := by
  simp [TaskTimer.bucket, bucketOf, kHistogramBucketWidthUs, kHistogramBuckets]

theorem increment (count : UInt32) (h : count.toNat+1 < 2^32) :
    (count+1).toNat = count.toNat+1 := by
  rw [UInt32.toNat_add]
  exact Nat.mod_eq_of_lt h

theorem min_toNat (a b : UInt64) : (min a b).toNat = min a.toNat b.toNat := by
  change (if a ≤ b then a else b).toNat = _
  rw [Nat.min_def]
  simp only [UInt64.le_iff_toNat_le]
  split_ifs <;> rfl

theorem max_toNat (a b : UInt64) : (max a b).toNat = max a.toNat b.toNat := by
  change (if a ≤ b then b else a).toNat = _
  rw [Nat.max_def]
  simp only [UInt64.le_iff_toNat_le]
  split_ifs <;> rfl

theorem sample_exact (t : TaskTimer) (xs : List Sample) (x : Sample) (elapsed : UInt64)
    (h : Exact t.current xs) (hsmall : xs.length+1 < 2^32) (hx : elapsed.toNat = x.duration) :
    Exact (t.sample elapsed).current (xs ++ [x]) := by
  have hlt := elapsed.toNat_lt
  have hcount : (t.current.sampleCount+1).toNat = (xs ++ [x]).length := by
    rw [increment _ (by rw [h.count]; exact hsmall), h.count, List.length_append]
    rfl
  have hhistogram : ∀ b, ((t.sample elapsed).current.histogram b).toNat =
      bin bucketOf b (durations (xs ++ [x])) := by
    intro b
    rw [durations_snoc, bin_snoc, ← hx, ← bucket_eq, ← h.histogram b]
    by_cases hb : TaskTimer.bucket elapsed = b
    · have hle := bin_le bucketOf b (durations xs)
      rw [durations, List.length_map, ← durations, ← h.histogram b] at hle
      rw [if_pos hb, ← increment _ (by omega), TaskTimer.sample]
      simp [hb]
    · rw [if_neg hb, TaskTimer.sample]
      simp [Ne.symm hb]
  have htotal : (t.sample elapsed).current.sumDurationUs.toNat =
      (durations (xs ++ [x])).sum % 2^64 := by
    rw [durations_snoc, List.sum_append, List.sum_singleton, Nat.add_mod, ← h.total, ← hx,
      Nat.mod_eq_of_lt hlt]
    exact UInt64.toNat_add _ _
  refine ⟨hcount, ?_, ?_, htotal, mean_exact _ _ hcount htotal, hhistogram,
    bins_count _ _ hcount hhistogram⟩
  · rw [durations_snoc, least_snoc _ _ _ (by omega), ← h.minimum, ← hx]
    exact min_toNat _ _
  · rw [durations_snoc, greatest_snoc, ← h.maximum, ← hx]
    exact max_toNat _ _

end Samples

section Runs

structure Figures (s : State) : Prop where
  current : Exact s.timer.current s.recorded
  reported : ∀ xs, s.past.getLast? = some xs → Exact s.timer.reported xs

theorem step_figures (s : State) (c : Call) (h : Figures s) (hsmall : Small (step s c)) :
    Figures (step s c) := by
  cases c with
  | start now => exact ⟨h.current, h.reported⟩
  | stop now =>
    have hsample := fun hlen => sample_exact s.timer s.recorded ⟨s.timer.start, now⟩ _ h.current hlen
      (elapsed_toNat s.timer.start now)
    unfold step at hsmall ⊢
    dsimp only at hsmall ⊢
    rw [stop_timer]
    by_cases hends : windowEnds s.timer.windowUs s.timer.windowStartUs now = true
    · rw [if_pos hends] at hsmall
      rw [if_pos hends, if_pos hends]
      have hlen := hsmall (s.recorded ++ [⟨s.timer.start, now⟩]) (by simp)
      rw [List.length_append] at hlen
      refine ⟨empty_exact, fun xs hxs => ?_⟩
      rw [List.getLast?_concat] at hxs
      exact Option.some.inj hxs ▸ hsample hlen
    · rw [if_neg hends] at hsmall
      rw [if_neg hends, if_neg hends]
      have hlen := hsmall (s.recorded ++ [⟨s.timer.start, now⟩]) (by simp)
      rw [List.length_append] at hlen
      exact ⟨hsample hlen, h.reported⟩

theorem small_of_step (s : State) (c : Call) (h : Small (step s c)) : Small s := by
  cases c with
  | start now => exact h
  | stop now =>
    have hrecorded : (s.recorded ++ [⟨s.timer.start, now⟩] : List Sample).length < 2^32 ∧
        ∀ xs ∈ s.past, xs.length < 2^32 := by
      unfold step at h
      dsimp only at h
      split_ifs at h
      · exact ⟨h _ (by simp), fun xs hxs => h xs (by simp [hxs])⟩
      · exact ⟨h _ (by simp), fun xs hxs => h xs (by simp [hxs])⟩
    intro xs hxs
    rcases List.mem_append.mp hxs with hpast | hcurrent
    · exact hrecorded.2 xs hpast
    · have hlt := hrecorded.1
      rw [List.length_append] at hlt
      rw [List.mem_singleton.mp hcurrent]
      exact Nat.lt_of_le_of_lt (Nat.le_add_right _ _) hlt

theorem run_figures (t : TaskTimer) (calls : List Call) (h : Small (run step (boot t) calls)) :
    Figures (run step (boot t) calls) := by
  induction calls using List.reverseRecOn with
  | nil => exact ⟨empty_exact, nofun⟩
  | append_singleton calls c ih =>
    rw [run_append] at h ⊢
    exact step_figures _ c (ih (small_of_step _ c h)) h

theorem run_once (s : State) (calls : List Call) :
    (run step s calls).past.flatten ++ (run step s calls).recorded =
      s.past.flatten ++ s.recorded ++ samples s.timer.start calls := by
  induction calls generalizing s with
  | nil => simp [samples]
  | cons c calls ih =>
    rw [run_cons, ih]
    cases c with
    | start now => rfl
    | stop now =>
      rw [samples]
      unfold step
      dsimp only
      split_ifs <;> simp

/-- Samples with starts of their own follow one another on the clock. -/
theorem samples_sum (calls : List Call) (before started : UInt64) (running : Bool)
    (hclock : Clock before calls) (hpaired : Paired running calls) (hle : started ≤ before) :
    (if running then started else before).toNat+(durations (samples started calls)).sum < 2^64 := by
  induction calls generalizing before started running with
  | nil => simpa [samples, durations] using UInt64.toNat_lt _
  | cons c calls ih =>
    have hnow := UInt64.le_iff_toNat_le.mp hclock.1
    rw [UInt64.le_iff_toNat_le] at hle
    cases c with
    | start now =>
      have hrest := ih now now true hclock.2 hpaired (UInt64.le_refl now)
      rw [if_pos rfl] at hrest
      change _+(durations (samples now calls)).sum < _
      have hbase : (if running then started else before).toNat ≤ before.toNat := by
        split_ifs <;> omega
      change before.toNat ≤ now.toNat at hnow
      omega
    | stop now =>
      obtain ⟨rfl, hpaired⟩ := hpaired
      change before.toNat ≤ now.toNat at hnow
      have hrest := ih now started false hclock.2 hpaired
        (UInt64.le_iff_toNat_le.mpr (by omega))
      rw [if_neg Bool.false_ne_true] at hrest
      have hsum : (durations (samples started (.stop now::calls))).sum =
          now.toNat-started.toNat+(durations (samples started calls)).sum := rfl
      rw [if_pos rfl, hsum]
      omega

theorem window_sum_le (wss : List (List Sample)) (xs : List Sample) (h : xs ∈ wss) :
    (durations xs).sum ≤ (durations wss.flatten).sum := by
  induction wss with
  | nil => cases h
  | cons ws wss ih =>
    rw [List.flatten_cons, durations, durations, List.map_append, List.sum_append]
    rcases List.mem_cons.mp h with rfl | hmem
    · exact Nat.le_add_right _ _
    · exact Nat.le_trans (ih hmem) (Nat.le_add_left _ _)

end Runs

/-- Every stop is recorded in one window, and the figures of the windows are those
of their samples, while no window has 2³² of them. -/
theorem windows_accounted (t : TaskTimer) (calls : List Call)
    (h : Small (run step (boot t) calls)) : Accounted t calls (run step (boot t) calls) := by
  have hfigures := run_figures t calls h
  have honce : (run step (boot t) calls).past.flatten ++ (run step (boot t) calls).recorded =
      samples t.start calls := run_once (boot t) calls
  refine ⟨honce, hfigures.current, hfigures.reported, fun hclock hpaired xs hxs => ?_⟩
  have hsum := samples_sum calls t.start t.start false hclock hpaired (UInt64.le_refl _)
  have hle := window_sum_le _ xs hxs
  rw [List.flatten_append, List.flatten_singleton, honce] at hle
  omega

theorem windows_accounted_pair : Accounted .new [.start 5, .stop 8]
    (run step (boot .new) [.start 5, .stop 8]) :=
  windows_accounted .new [.start 5, .stop 8] (by decide +kernel)

def lateStops : List Call :=
  [.start 0, .stop 0x8000000000000000, .stop 0x8000000000000000, .stop 0x8000000000000000]

theorem total_wrapped :
    ¬ ∀ calls, Clock 0 calls → Small (run step (boot .new) calls) →
      (run step (boot .new) calls).timer.current.sumDurationUs.toNat =
        (durations (run step (boot .new) calls).recorded).sum := by
  intro h
  have hclock : Clock 0 lateStops := ⟨by decide, by decide, by decide, by decide, trivial⟩
  have heq := h lateStops hclock (by decide +kernel)
  exact absurd heq (by decide +kernel)

end SputterOS.TimerWindows
