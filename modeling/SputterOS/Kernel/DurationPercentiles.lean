import SputterOS.Foundation.RankedBins
import SputterOS.Kernel.TimerWindows

/-!
# Percentiles of the task durations

A timer keeps no durations, only a histogram of the window. A percentile read off
it lies in the bucket of the duration that has that rank in the window. Single
precision is given by its rounding.
-/

set_option autoImplicit false

namespace SputterOS.DurationPercentiles
open Foundation.RunningStatistics Foundation.RankedBins Foundation.Transition
open SputterOS.Metrics SputterOS.TimerWindows

/-- What the arithmetic relies on of rounding to single precision: it keeps the order,
the numbers of single precision, and the natural numbers of 24 bits among them. -/
structure Rounds (round : ℚ → ℚ) : Prop where
  mono : Monotone round
  exact : ∀ n : ℕ, n ≤ 2^24 → round n = n

section Source

variable (round : ℚ → ℚ)

def sampleCount (t : TaskTimer) : UInt32 := t.shown.sampleCount

def maxDuration (t : TaskTimer) : UInt64 := t.shown.maxDuration

def histogram (t : TaskTimer) : ℕ → UInt32 := t.shown.histogram

def interpolate (targetRank : ℚ) (maxDur : UInt64) (i : ℕ) (hist prevCumulative : UInt32) :
    UInt64 :=
  let fraction :=
    if hist > 0 then
      round (round (targetRank-round prevCumulative.toNat)/round hist.toNat)
    else 0
  let bucketLow := UInt64.ofNat i*kHistogramBucketWidthUs
  let bucketHigh :=
    if i < kHistogramBuckets-1 then UInt64.ofNat (i+1)*kHistogramBucketWidthUs else maxDur
  let bucketHigh := if bucketHigh < bucketLow then bucketLow else bucketHigh
  bucketLow+UInt64.ofNat ⌊round (fraction*round (bucketHigh-bucketLow).toNat)⌋.toNat

def walk (targetRank : ℚ) (maxDur : UInt64) (hist : ℕ → UInt32) : ℕ → ℕ → UInt32 → UInt64
  | 0, _, _ => maxDur
  | buckets+1, i, cumulative =>
    let cumulative := cumulative+hist i
    if round cumulative.toNat ≥ targetRank then
      interpolate round targetRank maxDur i (hist i) (cumulative-hist i)
    else walk targetRank maxDur hist buckets (i+1) cumulative

def targetRank (t : TaskTimer) (p : ℚ) : ℚ := round (p*round (sampleCount t).toNat)

def percentileUs (t : TaskTimer) (p : ℚ) : UInt64 :=
  if sampleCount t = 0 ∨ p ≤ 0 then 0
  else if p ≥ 1 then maxDuration t
  else walk round (targetRank round t p) (maxDuration t) (histogram t) kHistogramBuckets 0 0

end Source

def shownSamples (s : State) : List Sample := s.past.getLast?.getD s.recorded

structure Fits (xs : List Sample) : Prop where
  count : xs.length ≤ 2^24
  durations : ∀ d ∈ durations xs, d ≤ 2^24

/-- The upper edge of a bucket. The last one ends at the maximum. -/
def edge (maximum i : ℕ) : ℕ := if i < kHistogramBuckets-1 then (i+1)*512 else maximum

/-- An answer is in the bucket of the exact value, its edges included. -/
structure Approximates (answer exact maximum : ℕ) : Prop where
  low : bucketOf exact*512 ≤ answer
  high : answer ≤ edge maximum (bucketOf exact)
  near : exact < 3584 → answer ≤ exact+512 ∧ exact < answer+512

section Shown

/-- Completed windows have samples, and without them nothing is reported. -/
structure Kept (s : State) : Prop where
  filled : ∀ xs ∈ s.past, xs ≠ []
  unreported : s.past = [] → s.timer.reported = .empty

theorem step_kept (s : State) (c : Call) (h : Kept s) : Kept (step s c) := by
  cases c with
  | start now => exact ⟨h.filled, h.unreported⟩
  | stop now =>
    unfold step
    dsimp only
    rw [stop_timer]
    by_cases hends : windowEnds s.timer.windowUs s.timer.windowStartUs now = true
    · rw [if_pos hends, if_pos hends]
      refine ⟨fun xs hxs => ?_, fun hnil => ?_⟩
      · rcases List.mem_append.mp hxs with hpast | hlast
        · exact h.filled xs hpast
        · rw [List.mem_singleton.mp hlast]
          simp
      · simp at hnil
    · rw [if_neg hends, if_neg hends]
      exact ⟨h.filled, h.unreported⟩

theorem run_kept (t : TaskTimer) (calls : List Call) : Kept (run step (boot t) calls) := by
  induction calls using List.reverseRecOn with
  | nil => exact ⟨nofun, fun _ => rfl⟩
  | append_singleton calls c ih =>
    rw [run_append]
    exact step_kept _ c ih

theorem shown_exact (s : State) (hfigures : Figures s) (hkept : Kept s) :
    Exact s.timer.shown (shownSamples s) := by
  rw [TaskTimer.shown, shownSamples]
  cases hlast : s.past.getLast? with
  | none =>
    have hempty := hkept.unreported (List.getLast?_eq_none_iff.mp hlast)
    rw [hempty]
    exact hfigures.current
  | some xs =>
    have hexact := hfigures.reported xs hlast
    have hfilled := List.length_pos_iff.mpr (hkept.filled xs (List.mem_of_getLast? hlast))
    rw [if_pos]
    · exact hexact
    · rw [← hexact.count] at hfilled
      exact UInt32.lt_iff_toNat_lt.mpr hfilled

end Shown

section Interpolation

variable (round : ℚ → ℚ)

def share (targetRank : ℚ) (prev count : ℕ) : ℚ := round (round (targetRank-prev)/count)

variable {round} (h : Rounds round)
include h

theorem round_zero : round 0 = 0 := by
  simpa using h.exact 0 (Nat.zero_le _)

theorem round_nonneg (x : ℚ) (hx : 0 ≤ x) : 0 ≤ round x := by
  simpa only [round_zero h] using h.mono hx

theorem round_le (x : ℚ) (n : ℕ) (hn : n ≤ 2^24) (hx : x ≤ n) : round x ≤ n := by
  simpa only [h.exact n hn] using h.mono hx

theorem share_le_one (target : ℚ) (prev count : ℕ) (hcount : 0 < count) (hfits : count ≤ 2^24)
    (hhigh : target ≤ prev+count) : share round target prev count ≤ 1 := by
  have hsub : round (target-prev) ≤ count := round_le h _ count hfits (by linarith)
  have hdiv : round (target-prev)/count ≤ (1 : ℕ) := by
    rw [Nat.cast_one, div_le_one (Nat.cast_pos.mpr hcount)]
    exact hsub
  have hle := round_le h _ 1 (by norm_num) hdiv
  rwa [Nat.cast_one] at hle

theorem share_mono (target target' : ℚ) (prev count : ℕ) (hle : target ≤ target') :
    share round target prev count ≤ share round target' prev count :=
  h.mono (div_le_div_of_nonneg_right (h.mono (sub_le_sub_right hle _)) (Nat.cast_nonneg count))

theorem part_le (fraction : ℚ) (width : ℕ) (hfits : width ≤ 2^24) (hle : fraction ≤ 1) :
    ⌊round (fraction*round width)⌋.toNat ≤ width := by
  rw [h.exact width hfits]
  have hpart : round (fraction*width) ≤ width :=
    round_le h _ width hfits (mul_le_of_le_one_left (Nat.cast_nonneg width) hle)
  have hfloor := Int.floor_le_floor hpart
  rw [Int.floor_natCast] at hfloor
  omega

theorem part_mono (fraction fraction' : ℚ) (width : ℕ) (hle : fraction ≤ fraction') :
    ⌊round (fraction*round width)⌋.toNat ≤ ⌊round (fraction'*round width)⌋.toNat :=
  Int.toNat_le_toNat (Int.floor_le_floor (h.mono (mul_le_mul_of_nonneg_right hle
    (round_nonneg h _ (Nat.cast_nonneg width)))))

end Interpolation

section Buckets

theorem low_toNat (i : ℕ) (hi : i ≤ kHistogramBuckets) :
    (UInt64.ofNat i*kHistogramBucketWidthUs).toNat = i*512 := by
  have hi' : i ≤ 8 := hi
  have hwidth : kHistogramBucketWidthUs.toNat = 512 := rfl
  rw [UInt64.toNat_mul, UInt64.toNat_ofNat', hwidth]
  omega

theorem high_toNat (maximum : UInt64) (i : ℕ) (hi : i < kHistogramBuckets) :
    (if i < kHistogramBuckets-1 then UInt64.ofNat (i+1)*kHistogramBucketWidthUs
      else maximum).toNat = edge maximum.toNat i := by
  rw [edge]
  split_ifs
  · exact low_toNat (i+1) hi
  · rfl

theorem edge_le (maximum i : ℕ) (hi : i < kHistogramBuckets) (hmax : maximum ≤ 2^24) :
    edge maximum i ≤ 2^24 := by
  have hi' : i < 8 := hi
  unfold edge
  split_ifs
  · clear hmax
    omega
  · exact hmax

variable {round : ℚ → ℚ} (h : Rounds round) (target : ℚ) (maximum : UInt64) (i : ℕ)
  (hist prevCumulative : UInt32)
include h

theorem interpolate_toNat (hi : i < kHistogramBuckets) (hcount : 0 < hist.toNat)
    (hcountFits : hist.toNat ≤ 2^24) (hprevFits : prevCumulative.toNat ≤ 2^24)
    (hmax : maximum.toNat ≤ 2^24) (hedge : i*512 ≤ edge maximum.toNat i)
    (hhigh : target ≤ prevCumulative.toNat+hist.toNat) :
    (interpolate round target maximum i hist prevCumulative).toNat = i*512+
      ⌊round (share round target prevCumulative.toNat hist.toNat*
        round (edge maximum.toNat i-i*512 : ℕ))⌋.toNat := by
  have hi' : i < 8 := hi
  have hle := edge_le maximum.toNat i hi hmax
  have hpositive : hist > 0 := UInt32.lt_iff_toNat_lt.mpr hcount
  have hbounded := part_le h _ (edge maximum.toNat i-i*512) (by omega)
    (share_le_one h target prevCumulative.toNat hist.toNat hcount hcountFits hhigh)
  have hlow := low_toNat i hi.le
  have hupper := high_toNat maximum i hi
  unfold interpolate
  unfold share at hbounded ⊢
  dsimp only
  rw [if_pos hpositive, h.exact _ hcountFits, h.exact _ hprevFits]
  generalize (if i < kHistogramBuckets-1 then UInt64.ofNat (i+1)*kHistogramBucketWidthUs
    else maximum) = upper at hupper ⊢
  have hordered : ¬ upper < UInt64.ofNat i*kHistogramBucketWidthUs := by
    rw [UInt64.lt_iff_toNat_lt]
    omega
  rw [if_neg hordered]
  have hwidth : (upper-UInt64.ofNat i*kHistogramBucketWidthUs).toNat =
      edge maximum.toNat i-i*512 := by
    rw [UInt64.toNat_sub_of_le _ _ (UInt64.not_lt.mp hordered), hupper, hlow]
  rw [hwidth, UInt64.toNat_add, UInt64.toNat_ofNat', hlow]
  omega

end Buckets

section Walk

variable {round : ℚ → ℚ} (h : Rounds round) (ds : List ℕ) (hfits : ds.length ≤ 2^24)
  (hist : ℕ → UInt32) (hhist : ∀ b, (hist b).toNat = bin bucketOf b ds)
include h hfits hhist

theorem walk_eq (target : ℚ) (maximum : UInt64) (b : ℕ) (hlow : below bucketOf b ds < target)
    (hhigh : target ≤ below bucketOf (b+1) ds) (buckets i : ℕ) (hi : i ≤ b)
    (hb : b < i+buckets) (cumulative : UInt32)
    (hcumulative : cumulative.toNat = below bucketOf i ds) :
    ∃ prev : UInt32, prev.toNat = below bucketOf b ds ∧
      walk round target maximum hist buckets i cumulative =
        interpolate round target maximum b (hist b) prev := by
  induction buckets generalizing i cumulative with
  | zero => exact absurd hb (Nat.not_lt.mpr hi)
  | succ buckets ih =>
    have hle := below_le bucketOf (i+1) ds
    have hsucc := below_succ bucketOf i ds
    have hnext : (cumulative+hist i).toNat = below bucketOf (i+1) ds := by
      rw [UInt32.toNat_add, hcumulative, hhist, ← hsucc]
      exact Nat.mod_eq_of_lt (by omega)
    have hcount : round (cumulative+hist i).toNat = below bucketOf (i+1) ds := by
      rw [h.exact _ (by omega), hnext]
    rw [walk, hcount]
    by_cases heq : i = b
    · subst heq
      rw [if_pos hhigh, UInt32.add_sub_cancel]
      exact ⟨cumulative, hcumulative, rfl⟩
    · have hlt : i+1 ≤ b := by omega
      have hbelow : (below bucketOf (i+1) ds : ℚ) ≤ below bucketOf b ds :=
        Nat.cast_le.mpr (below_mono bucketOf (i+1) b hlt ds)
      rw [if_neg (not_le.mpr (hbelow.trans_lt hlow))]
      exact ih (i+1) hlt (by omega) (cumulative+hist i) hnext

end Walk

section Percentiles

theorem bucketOf_lt (d : ℕ) : bucketOf d < kHistogramBuckets :=
  Nat.lt_succ_of_le (Nat.min_le_right _ _)

theorem bucketOf_mono : Monotone bucketOf :=
  fun _ _ hle => min_le_min_right 7 (Nat.div_le_div_right hle)

theorem bucket_low (d : ℕ) : bucketOf d*512 ≤ d := by
  unfold bucketOf
  omega

theorem bucket_high (d : ℕ) (h : d < 3584) : bucketOf d < 7 ∧ d < (bucketOf d+1)*512 := by
  unfold bucketOf
  omega

theorem le_greatest (ds : List ℕ) (d : ℕ) (h : d ∈ ds) : d ≤ greatest ds := by
  induction ds using List.reverseRecOn with
  | nil => cases h
  | append_singleton ds e ih =>
    rw [greatest_snoc]
    rcases List.mem_append.mp h with hmem | hlast
    · exact (ih hmem).trans (Nat.le_max_right _ _)
    · exact (List.mem_singleton.mp hlast).le.trans (Nat.le_max_left _ _)

theorem bucket_edges (ds : List ℕ) (d : ℕ) (h : d ∈ ds) :
    bucketOf d*512 ≤ edge (greatest ds) (bucketOf d) := by
  have hlow := bucket_low d
  have hmax := le_greatest ds d h
  unfold edge
  split_ifs <;> omega

variable {round : ℚ → ℚ} (h : Rounds round) (t : TaskTimer) (xs : List Sample)
  (hexact : Exact t.shown xs) (hfits : Fits xs) (hne : xs ≠ [])
include h hexact hfits hne

theorem percentile_bucket (p : ℚ) (hpos : 0 < p) (hlt : p < 1) (hp : round p = p) :
    ∃ b < kHistogramBuckets, below bucketOf b (durations xs) < targetRank round t p ∧
      targetRank round t p ≤ below bucketOf (b+1) (durations xs) ∧
      ∃ prev : UInt32, prev.toNat = below bucketOf b (durations xs) ∧
        percentileUs round t p = interpolate round (targetRank round t p) t.shown.maxDuration b
          (t.shown.histogram b) prev := by
  have hlength : (durations xs).length = xs.length := List.length_map _
  have hcount : (sampleCount t).toNat = xs.length := hexact.count
  have hfilled : 1 ≤ xs.length := List.length_pos_iff.mpr hne
  have hone : (1 : ℚ) ≤ xs.length := by exact_mod_cast hfilled
  have htarget : targetRank round t p = round (p*xs.length) := by
    rw [targetRank, hcount, h.exact _ hfits.count]
  have hlow : (below bucketOf 0 (durations xs) : ℚ) < targetRank round t p := by
    have hle : p ≤ p*xs.length := le_mul_of_one_le_right hpos.le hone
    have hround := h.mono hle
    rw [hp] at hround
    rw [htarget, below_zero, Nat.cast_zero]
    exact hpos.trans_le hround
  have hhigh : targetRank round t p ≤ below bucketOf kHistogramBuckets (durations xs) := by
    rw [htarget, below_all bucketOf _ bucketOf_lt, hlength]
    exact round_le h _ _ hfits.count (mul_le_of_le_one_left (Nat.cast_nonneg _) hlt.le)
  obtain ⟨b, hb, hfrom, hto⟩ := crossing (fun i => below bucketOf i (durations xs)) _ _ hlow hhigh
  obtain ⟨prev, hprev, hwalk⟩ := walk_eq h (durations xs) (hlength.trans_le hfits.count)
    t.shown.histogram hexact.histogram (targetRank round t p) t.shown.maxDuration b hfrom hto
    kHistogramBuckets 0 (Nat.zero_le b) (by omega) 0 (below_zero bucketOf _).symm
  refine ⟨b, hb, hfrom, hto, prev, hprev, ?_⟩
  have hsamples : ¬ (sampleCount t = 0 ∨ p ≤ 0) := by
    rintro (hzero | hzero)
    · rw [hzero] at hcount
      change 0 = _ at hcount
      omega
    · exact absurd hzero (not_le.mpr hpos)
  rw [percentileUs, if_neg hsamples, if_neg (not_le.mpr hlt)]
  exact hwalk

theorem percentile_value (p : ℚ) (hpos : 0 < p) (hlt : p < 1) (hp : round p = p) :
    ∃ b < kHistogramBuckets, below bucketOf b (durations xs) < targetRank round t p ∧
      targetRank round t p ≤ below bucketOf (b+1) (durations xs) ∧
      bucketOf (ranked (durations xs) ⌈targetRank round t p⌉₊) = b ∧
      ranked (durations xs) ⌈targetRank round t p⌉₊ ∈ durations xs ∧
      (percentileUs round t p).toNat = b*512+
        ⌊round (share round (targetRank round t p) (below bucketOf b (durations xs))
          (bin bucketOf b (durations xs))*
            round (edge (greatest (durations xs)) b-b*512 : ℕ))⌋.toNat ∧
      (percentileUs round t p).toNat ≤ edge (greatest (durations xs)) b := by
  have hlength : (durations xs).length = xs.length := List.length_map _
  obtain ⟨b, hb, hfrom, hto, prev, hprev, hvalue⟩ :=
    percentile_bucket h t xs hexact hfits hne p hpos hlt hp
  have hsucc := below_succ bucketOf b (durations xs)
  have hle := below_le bucketOf (b+1) (durations xs)
  have hcount := hfits.count
  have hrankLow : below bucketOf b (durations xs) < ⌈targetRank round t p⌉₊ := Nat.lt_ceil.mpr hfrom
  have hrankHigh : ⌈targetRank round t p⌉₊ ≤ below bucketOf (b+1) (durations xs) :=
    Nat.ceil_le.mpr hto
  have hbin := ranked_bin bucketOf bucketOf_mono (durations xs) _ b hrankLow hrankHigh
  have hmem := ranked_mem (durations xs) _ (Nat.zero_lt_of_lt hrankLow) (hrankHigh.trans hle)
  have hedge := bucket_edges (durations xs) _ hmem
  rw [hbin] at hedge
  have hgreatest : greatest (durations xs) ≤ 2^24 := greatest_le _ _ hfits.durations
  have hhigh : targetRank round t p ≤
      (below bucketOf b (durations xs) : ℚ)+bin bucketOf b (durations xs) := by
    rw [hsucc, Nat.cast_add] at hto
    exact hto
  have hread := interpolate_toNat h (targetRank round t p) t.shown.maxDuration b
    (t.shown.histogram b) prev hb (by rw [hexact.histogram]; omega)
    (by rw [hexact.histogram]; omega) (by rw [hprev]; omega) (by rw [hexact.maximum]; exact hgreatest)
    (by rw [hexact.maximum]; exact hedge) (by rw [hprev, hexact.histogram]; exact hhigh)
  rw [← hvalue, hexact.histogram, hexact.maximum, hprev] at hread
  have hpart := part_le h _ (edge (greatest (durations xs)) b-b*512)
    (by have := edge_le _ b hb hgreatest; omega)
    (share_le_one h (targetRank round t p) (below bucketOf b (durations xs))
      (bin bucketOf b (durations xs)) (by omega) (by omega) hhigh)
  exact ⟨b, hb, hfrom, hto, hbin, hmem, hread, by omega⟩

theorem percentile_approximates (p : ℚ) (hpos : 0 < p) (hlt : p < 1) (hp : round p = p) :
    Approximates (percentileUs round t p).toNat
      (ranked (durations xs) ⌈targetRank round t p⌉₊) (greatest (durations xs)) := by
  obtain ⟨b, _, _, _, hbin, hmem, hread, hle⟩ :=
    percentile_value h t xs hexact hfits hne p hpos hlt hp
  generalize ranked (durations xs) ⌈targetRank round t p⌉₊ = d at hbin hmem ⊢
  have hlow := bucket_low d
  refine ⟨by omega, hbin ▸ hle, fun hnear => ?_⟩
  obtain ⟨hinner, hhigh⟩ := bucket_high d hnear
  rw [hbin] at hlow hinner hhigh
  have hnext : b < kHistogramBuckets-1 := hinner
  rw [edge, if_pos hnext] at hle
  omega

theorem percentile_mono (p q : ℚ) (hpos : 0 < p) (hpq : p ≤ q) (hlt : q < 1) (hp : round p = p)
    (hq : round q = q) : percentileUs round t p ≤ percentileUs round t q := by
  obtain ⟨b, hb, hfrom, hto, _, _, hread, hle⟩ :=
    percentile_value h t xs hexact hfits hne p hpos (hpq.trans_lt hlt) hp
  obtain ⟨c, hc, hfrom', hto', _, _, hread', _⟩ :=
    percentile_value h t xs hexact hfits hne q (hpos.trans_le hpq) hlt hq
  have htarget : targetRank round t p ≤ targetRank round t q :=
    h.mono (mul_le_mul_of_nonneg_right hpq (round_nonneg h _ (Nat.cast_nonneg _)))
  rw [UInt64.le_iff_toNat_le]
  rcases Nat.lt_trichotomy b c with hless | rfl | hgreater
  · have hinner : b < kHistogramBuckets-1 := by omega
    rw [edge, if_pos hinner] at hle
    omega
  · have hpart := part_mono h _ _ (edge (greatest (durations xs)) b-b*512)
      (share_mono h _ _ (below bucketOf b (durations xs)) (bin bucketOf b (durations xs)) htarget)
    omega
  · have hbelow : (below bucketOf (c+1) (durations xs) : ℚ) ≤ below bucketOf b (durations xs) :=
      Nat.cast_le.mpr (below_mono bucketOf (c+1) b hgreater (durations xs))
    exact absurd (htarget.trans hto') (not_le.mpr (hbelow.trans_lt hfrom))

end Percentiles

/-- In every run, a percentile between zero and one lies in the bucket of the duration
of its rank in the window shown, and grows with the fraction. -/
theorem percentiles_ranked (round : ℚ → ℚ) (h : Rounds round) (t : TaskTimer) (calls : List Call)
    (hsmall : Small (run step (boot t) calls)) (hfits : Fits (shownSamples (run step (boot t) calls)))
    (hne : shownSamples (run step (boot t) calls) ≠ []) (p : ℚ) (hpos : 0 < p) (hlt : p < 1)
    (hp : round p = p) :
    Approximates (percentileUs round (run step (boot t) calls).timer p).toNat
      (ranked (durations (shownSamples (run step (boot t) calls)))
        ⌈targetRank round (run step (boot t) calls).timer p⌉₊)
      (greatest (durations (shownSamples (run step (boot t) calls)))) ∧
    ∀ q, p ≤ q → q < 1 → round q = q →
      percentileUs round (run step (boot t) calls).timer p ≤
        percentileUs round (run step (boot t) calls).timer q := by
  have hexact := shown_exact _ (run_figures t calls hsmall) (run_kept t calls)
  exact ⟨percentile_approximates h _ _ hexact hfits hne p hpos hlt hp,
    fun q hpq hq hround => percentile_mono h _ _ hexact hfits hne p q hpos hpq hq hp hround⟩

def fourTicks : List Call :=
  [.start 0, .stop 100, .start 200, .stop 800, .start 1000, .stop 1700, .start 2000, .stop 6000]

theorem percentiles_ranked_median :
    Approximates (percentileUs id (run step (boot .new) fourTicks).timer (1/2)).toNat
      (ranked [100, 600, 700, 4000]
        ⌈targetRank id (run step (boot .new) fourTicks).timer (1/2)⌉₊) 4000 :=
  (percentiles_ranked id ⟨monotone_id, fun _ _ => rfl⟩ .new fourTicks (by decide +kernel)
    ⟨by decide +kernel, by decide +kernel⟩ (by decide +kernel) (1/2) (by norm_num) (by norm_num)
    rfl).1

end SputterOS.DurationPercentiles
