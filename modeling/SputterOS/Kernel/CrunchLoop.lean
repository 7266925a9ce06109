import SputterOS.Kernel.CrunchAbort
import Mathlib.Data.List.DropRight

/-!
# The specification of the crunch loop

The counters of the dispatcher are functions of the durations measured so far.
The invariant ties the counters, the kicks and the overrun fault to the place
of the loop.
-/

set_option autoImplicit false

namespace SputterOS.CrunchDispatcher
open SputterOS.Kernel Foundation.Transition

variable {τ : Type*} (crunchMaxOverruns : UInt32) (maxIterationUs : τ → UInt64) (coreId : ℕ)

def overruns (limit : UInt64) (ds : List UInt64) : ℕ := ds.countP (fun d => d > limit)

def trailing (limit : UInt64) (ds : List UInt64) : ℕ :=
  (ds.rtakeWhile (fun d => d > limit)).length

theorem overruns_push (limit d : UInt64) (ds : List UInt64) :
    overruns limit (ds ++ [d]) = overruns limit ds+(if d > limit then 1 else 0) := by
  simp [overruns, List.countP_append]

theorem trailing_push (limit d : UInt64) (ds : List UInt64) :
    trailing limit (ds ++ [d]) = if d > limit then trailing limit ds+1 else 0 := by
  unfold trailing
  split_ifs with h <;> simp [h]

theorem overruns_le (limit : UInt64) (ds : List UInt64) : overruns limit ds ≤ ds.length :=
  List.countP_le_length

theorem trailing_le (limit : UInt64) (ds : List UInt64) : trailing limit ds ≤ ds.length :=
  (List.rtakeWhile_suffix _ ds).length_le

@[simp] theorem durations_append (es es' : List (Event τ)) :
    durations (es ++ es') = durations es ++ durations es' := List.filterMap_append

def Fresh (limit : UInt64) (threshold : ℕ) (ds : List UInt64) : Prop :=
  ∀ p, p <+: ds → p ≠ ds → 0 < threshold → trailing limit p < threshold

def FaultAt (limit : UInt64) (threshold : ℕ) (ds : List UInt64) (fault : Bool) : Prop :=
  if fault then 0 < threshold ∧ trailing limit ds = threshold
  else 0 < threshold → trailing limit ds < threshold

/-- What the durations are at a place of the loop. In front of the threshold
test they may have reached it. -/
def Reached (limit : UInt64) (threshold : ℕ) (ds : List UInt64) : Loop τ → Prop
  | .thresholdTest _ => 0 < threshold → trailing limit ds ≤ threshold
  | .aborting cause _ => FaultAt limit threshold ds (cause = .overrun)
  | .logging cause _ => FaultAt limit threshold ds (cause = .overrun)
  | .returned cause => FaultAt limit threshold ds (cause = some .overrun)
  | _ => FaultAt limit threshold ds false

def openKicks : Loop τ → ℕ
  | .platformKick _ => 1
  | .readStart _ => 1
  | .crunch _ _ => 1
  | .crunching _ _ _ => 1
  | _ => 0

def overrunAborts : Loop τ → ℕ
  | .logging cause _ => if cause = .overrun then 1 else 0
  | .returned cause => if cause = some .overrun then 1 else 0
  | _ => 0

def openMeasures : Loop τ → ℕ
  | .readElapsed _ _ => 1
  | .overrunTest _ _ => 1
  | _ => 0

def mayBegin : Loop τ → ℕ
  | .readNow => 1
  | .kick _ => 1
  | .platformKick _ => 1
  | .readStart _ => 1
  | .crunch _ _ => 1
  | _ => 0

theorem fresh_push (limit d : UInt64) (threshold : ℕ) (ds : List UInt64)
    (h : Fresh limit threshold ds) (hlt : 0 < threshold → trailing limit ds < threshold) :
    Fresh limit threshold (ds ++ [d]) := by
  intro p hp hne hpos
  rcases List.prefix_concat_iff.mp hp with heq | hpre
  · exact absurd heq hne
  · by_cases hpd : p = ds
    · exact hpd ▸ hlt hpos
    · exact h p hpre hpd hpos

theorem next_kicks (v : Shared) (d : Dispatcher τ) (task : τ) (l : Loop τ) (d' : Dispatcher τ)
    (l' : Loop τ) (es : List (Event τ))
    (h : Next crunchMaxOverruns maxIterationUs coreId v d task l d' l' es) :
    es.countP Event.isWatchdogKick+openKicks l = es.countP Event.isCrunchEnd+openKicks l' := by
  cases h with
  | platformKicked now => cases d.watchdogKick <;> rfl
  | abortLogged cause now => cases cause <;> rfl
  | _ => rfl

theorem next_measures (v : Shared) (d : Dispatcher τ) (task : τ) (l : Loop τ) (d' : Dispatcher τ)
    (l' : Loop τ) (es : List (Event τ))
    (h : Next crunchMaxOverruns maxIterationUs coreId v d task l d' l' es) :
    es.countP Event.isCrunchEnd+openMeasures l =
      es.countP Event.isMeasured+openMeasures l' := by
  cases h with
  | platformKicked now => cases d.watchdogKick <;> rfl
  | abortLogged cause now => cases cause <;> rfl
  | _ => rfl

theorem next_faults (v : Shared) (d : Dispatcher τ) (task : τ) (l : Loop τ) (d' : Dispatcher τ)
    (l' : Loop τ) (es : List (Event τ))
    (h : Next crunchMaxOverruns maxIterationUs coreId v d task l d' l' es) :
    es.countP Event.isOverrunAbort+overrunAborts l = overrunAborts l' := by
  cases h with
  | platformKicked now => cases d.watchdogKick <;> rfl
  | abortCalled cause now => cases cause <;> rfl
  | abortLogged cause now => cases cause <;> rfl
  | done cause => rcases cause with _ | _ | _ | _ <;> rfl
  | _ => rfl

/-- Once the abort flag is seen set, each begun iteration was already on its way. -/
theorem next_mayBegin (v : Shared) (d : Dispatcher τ) (task : τ) (l : Loop τ) (d' : Dispatcher τ)
    (l' : Loop τ) (es : List (Event τ)) (hv : v.safetyAbort = true)
    (h : Next crunchMaxOverruns maxIterationUs coreId v d task l d' l' es) :
    es.countP Event.isCrunchBegin+mayBegin l' ≤ mayBegin l := by
  cases h with
  | platformKicked now => cases d.watchdogKick <;> exact le_refl _
  | abortLogged cause now => cases cause <;> exact le_refl _
  | passed hf => simp [hv] at hf
  | _ => simp [mayBegin, Event.isCrunchBegin]

theorem next_own_kicks (v : Shared) (d : Dispatcher τ) (task : τ) (l : Loop τ) (d' : Dispatcher τ)
    (l' : Loop τ) (es : List (Event τ))
    (h : Next crunchMaxOverruns maxIterationUs coreId v d task l d' l' es) (c : ℕ) (now : UInt64)
    (hmem : .watchdogKick c now ∈ es) : c = coreId := by
  cases h with
  | kicked t =>
    cases List.mem_singleton.mp hmem
    rfl
  | platformKicked t => cases hw : d.watchdogKick <;> simp [hw] at hmem
  | abortLogged cause t => cases cause <;> simp [abortEntry] at hmem
  | _ => simp at hmem

structure Ledger (limit : UInt64) (d : Dispatcher τ) (l : Loop τ) (ds : List UInt64) : Prop where
  consecutive : l ≠ .resetCounters → d.consecutiveOverruns.toNat = trailing limit ds
  total : l ≠ .resetCounters → d.totalOverruns.toNat = overruns limit ds
  fresh : Fresh limit crunchMaxOverruns.toNat ds
  reached : Reached limit crunchMaxOverruns.toNat ds l

theorem counter_succ (c : UInt32) (n m : ℕ) (hc : c.toNat = n) (hn : n ≤ m) (hm : m+1 < 2^32) :
    (c+1).toNat = n+1 := by
  rw [UInt32.toNat_add, hc]
  exact Nat.mod_eq_of_lt (by simp; omega)

theorem ledger_overrun (limit elapsed now : UInt64) (d : Dispatcher τ) (ds : List UInt64)
    (h : Ledger crunchMaxOverruns limit d (.overrunTest now elapsed) ds)
    (hlen : ds.length+1 < 2^32) (hover : elapsed > limit) :
    Ledger crunchMaxOverruns limit
      { d with
        consecutiveOverruns := d.consecutiveOverruns+1
        totalOverruns := d.totalOverruns+1 }
      (.thresholdTest now) (ds ++ [elapsed]) := by
  have hreached : 0 < crunchMaxOverruns.toNat → trailing limit ds < crunchMaxOverruns.toNat :=
    h.reached
  refine ⟨fun _ => ?_, fun _ => ?_, fresh_push limit elapsed _ ds h.fresh hreached, ?_⟩
  · rw [trailing_push, if_pos hover]
    exact counter_succ _ _ _ (h.consecutive (by simp)) (trailing_le limit ds) hlen
  · rw [overruns_push, if_pos hover]
    exact counter_succ _ _ _ (h.total (by simp)) (overruns_le limit ds) hlen
  · intro hpos
    rw [trailing_push, if_pos hover]
    exact hreached hpos

theorem ledger_clean (limit elapsed now : UInt64) (d : Dispatcher τ) (ds : List UInt64)
    (h : Ledger crunchMaxOverruns limit d (.overrunTest now elapsed) ds)
    (hover : ¬ elapsed > limit) :
    Ledger crunchMaxOverruns limit { d with consecutiveOverruns := 0 } .kernelTest
      (ds ++ [elapsed]) := by
  have hreached : 0 < crunchMaxOverruns.toNat → trailing limit ds < crunchMaxOverruns.toNat :=
    h.reached
  refine ⟨fun _ => ?_, fun _ => ?_, fresh_push limit elapsed _ ds h.fresh hreached, ?_⟩
  · rw [trailing_push, if_neg hover]
    rfl
  · rw [overruns_push, if_neg hover]
    exact h.total (by simp)
  · intro hpos
    rw [trailing_push, if_neg hover]
    exact hpos

theorem ledger_threshold (limit now : UInt64) (d : Dispatcher τ) (ds : List UInt64)
    (h : Ledger crunchMaxOverruns limit d (.thresholdTest now) ds) :
    (crunchMaxOverruns > 0 ∧ d.consecutiveOverruns ≥ crunchMaxOverruns) ↔
      0 < crunchMaxOverruns.toNat ∧ trailing limit ds = crunchMaxOverruns.toNat := by
  have hreached : 0 < crunchMaxOverruns.toNat → trailing limit ds ≤ crunchMaxOverruns.toNat :=
    h.reached
  have hc := h.consecutive (by simp)
  have hpos : crunchMaxOverruns > 0 ↔ 0 < crunchMaxOverruns.toNat := UInt32.lt_iff_toNat_lt
  have hge : d.consecutiveOverruns ≥ crunchMaxOverruns ↔
      crunchMaxOverruns.toNat ≤ d.consecutiveOverruns.toNat := UInt32.le_iff_toNat_le
  rw [hpos, hge, hc]
  constructor
  · rintro ⟨h0, h1⟩
    have hfault := hreached h0
    omega
  · rintro ⟨h0, h1⟩
    omega

theorem ledger_keep (limit : UInt64) (d : Dispatcher τ) (l l' : Loop τ) (ds : List UInt64)
    (h : Ledger crunchMaxOverruns limit d l ds) (hl : l ≠ .resetCounters)
    (hr : Reached limit crunchMaxOverruns.toNat ds l') :
    Ledger crunchMaxOverruns limit d l' ds :=
  ⟨fun _ => h.consecutive hl, fun _ => h.total hl, h.fresh, hr⟩

theorem next_ledger (v : Shared) (d : Dispatcher τ) (task : τ) (l : Loop τ) (d' : Dispatcher τ)
    (l' : Loop τ) (es : List (Event τ)) (ds : List UInt64)
    (h : Ledger crunchMaxOverruns (maxIterationUs task) d l ds)
    (hstart : l = .resetCounters → ds = []) (hlen : (ds ++ durations es).length < 2^32)
    (hn : Next crunchMaxOverruns maxIterationUs coreId v d task l d' l' es) :
    Ledger crunchMaxOverruns (maxIterationUs task) d' l' (ds ++ durations es) := by
  have hkeep : ∀ l', l ≠ .resetCounters → durations es = [] →
      Reached (maxIterationUs task) crunchMaxOverruns.toNat ds l' →
      Ledger crunchMaxOverruns (maxIterationUs task) d l' (ds ++ durations es) := by
    intro l' hl hes hr
    rw [hes, List.append_nil]
    exact ledger_keep crunchMaxOverruns _ d l l' ds h hl hr
  cases hn with
  | reset =>
    rw [hstart rfl]
    exact ⟨fun _ => rfl, fun _ => rfl, by simp [Fresh, durations], fun hpos => hpos⟩
  | overrun now elapsed hover =>
    have hroom : (ds ++ [elapsed]).length < 2^32 := hlen
    rw [List.length_append, List.length_singleton] at hroom
    exact ledger_overrun crunchMaxOverruns _ elapsed now d ds h hroom hover
  | clean now elapsed hover => exact ledger_clean crunchMaxOverruns _ elapsed now d ds h hover
  | fault now hfault =>
    exact hkeep _ (by simp) rfl ((ledger_threshold crunchMaxOverruns _ now d ds h).mp hfault)
  | tolerated now hfault =>
    refine hkeep _ (by simp) rfl (fun hpos => ?_)
    have hne := mt (ledger_threshold crunchMaxOverruns _ now d ds h).mpr hfault
    exact lt_of_le_of_ne (h.reached hpos) (fun heq => hne ⟨hpos, heq⟩)
  | platformKicked now =>
    exact hkeep _ (by simp) (by cases d.watchdogKick <;> rfl) h.reached
  | abortCalled cause now => exact hkeep _ (by simp) rfl (by cases cause <;> exact h.reached)
  | abortLogged cause now =>
    exact hkeep _ (by simp) (by cases cause <;> rfl) (by cases cause <;> exact h.reached)
  | _ => exact hkeep _ (by simp) rfl h.reached

theorem next_not_reset (v : Shared) (d : Dispatcher τ) (task : τ) (l : Loop τ) (d' : Dispatcher τ)
    (l' : Loop τ) (es : List (Event τ))
    (h : Next crunchMaxOverruns maxIterationUs coreId v d task l d' l' es) :
    l' ≠ .resetCounters := by
  cases h <;> simp

theorem run_ledger (v : Shared) (d : Dispatcher τ) (task : τ) (watchdogKick : Bool)
    (as : List Action)
    (hlen : (durations (run (step crunchMaxOverruns maxIterationUs coreId)
      (entry v d task watchdogKick) as).events).length < 2^32) :
    Ledger crunchMaxOverruns (maxIterationUs task)
      (run (step crunchMaxOverruns maxIterationUs coreId) (entry v d task watchdogKick) as).dispatcher
      (run (step crunchMaxOverruns maxIterationUs coreId) (entry v d task watchdogKick) as).loop
      (durations (run (step crunchMaxOverruns maxIterationUs coreId)
        (entry v d task watchdogKick) as).events) := by
  refine (run_invariant_loop crunchMaxOverruns maxIterationUs coreId
    (fun d l es => (l = .resetCounters → durations es = []) ∧
      ((durations es).length < 2^32 →
        Ledger crunchMaxOverruns (maxIterationUs task) d l (durations es)))
    task ?_ _ rfl ⟨fun _ => rfl, fun _ => ?_⟩ as).2 hlen
  · intro v d l es d' l' es' ⟨hstart, hi⟩ hn
    refine ⟨fun hr => ?_, fun hl => ?_⟩
    · exact absurd hr
        (next_not_reset crunchMaxOverruns maxIterationUs coreId v d task l d' l' es' hn)
    · rw [durations_append] at hl ⊢
      have hshort : (durations es).length < 2^32 := by
        rw [List.length_append] at hl
        omega
      exact next_ledger crunchMaxOverruns maxIterationUs coreId v d task l d' l' es' _ (hi hshort)
        hstart hl hn
  · exact ⟨fun h => absurd rfl h, fun h => absurd rfl h, by simp [Fresh, durations, entry],
      fun hpos => hpos⟩

theorem run_mayBegin (task : τ) (s : State τ) (hs : s.dispatcher.task = some task)
    (hv : s.shared.safetyAbort = true) (bs : List Action)
    (hb : .external .clearSafetyAbort ∉ bs) :
    (run (step crunchMaxOverruns maxIterationUs coreId) s bs).events.countP Event.isCrunchBegin+
        mayBegin (run (step crunchMaxOverruns maxIterationUs coreId) s bs).loop ≤
      s.events.countP Event.isCrunchBegin+mayBegin s.loop := by
  refine (run_invariant (step crunchMaxOverruns maxIterationUs coreId)
    (fun t => t.dispatcher.task = some task ∧ t.shared.safetyAbort = true ∧
      t.events.countP Event.isCrunchBegin+mayBegin t.loop ≤
        s.events.countP Event.isCrunchBegin+mayBegin s.loop)
    (fun a => a ≠ .external .clearSafetyAbort) ?_ s ⟨hs, hv, le_refl _⟩ bs ?_).2.2
  · intro t a ha ⟨ht, hf, hle⟩
    refine ⟨step_task crunchMaxOverruns maxIterationUs coreId task t a ht, ?_⟩
    cases a with
    | loop =>
      have hbegin := next_mayBegin crunchMaxOverruns maxIterationUs coreId _ _ task _ _ _ _ hf
        (loopStep_next crunchMaxOverruns maxIterationUs coreId t.shared t.dispatcher t.loop task ht)
      refine ⟨hf, ?_⟩
      simp only [step, List.countP_append]
      omega
    | external e =>
      refine ⟨?_, hle⟩
      exact safetyAbort_external t.shared e hf (fun he => ha (by rw [he]))
  · intro a ha heq
    exact hb (heq ▸ ha)

theorem run_exit_begins (task : τ) (s : State τ) (hs : s.dispatcher.task = some task)
    (exit : Option Abort) (h : s.loop.exit = some exit) (bs : List Action) :
    (run (step crunchMaxOverruns maxIterationUs coreId) s bs).events.countP Event.isCrunchBegin =
      s.events.countP Event.isCrunchBegin := by
  refine (run_invariant_loop crunchMaxOverruns maxIterationUs coreId
    (fun _ l es => l.exit = some exit ∧
      es.countP Event.isCrunchBegin = s.events.countP Event.isCrunchBegin)
    task ?_ s hs ⟨h, rfl⟩ bs).2
  intro v d l es d' l' es' ⟨he, hc⟩ hn
  refine ⟨next_exit crunchMaxOverruns maxIterationUs coreId v d d' task l l' es' hn exit he, ?_⟩
  rw [List.countP_append, hc]
  cases hn with
  | abortLogged cause now => cases cause <;> rfl
  | abortCalled cause now => rfl
  | done cause => rfl
  | _ => simp [Loop.exit] at he

/-- What holds of a core in its loop at any moment of any run: the latency of
an abort, the overrun fault, the counters and the watchdog kicks. -/
structure LoopSpec (task : τ) (s : State τ) : Prop where
  abort_latency : s.shared.safetyAbort = true → ∀ bs, .external .clearSafetyAbort ∉ bs →
    (run (step crunchMaxOverruns maxIterationUs coreId) s bs).events.countP Event.isCrunchBegin ≤
      s.events.countP Event.isCrunchBegin+1
  fault_once : s.events.countP Event.isOverrunAbort ≤ 1
  fault_at_threshold : s.events.countP Event.isOverrunAbort = 1 →
    0 < crunchMaxOverruns.toNat ∧
      trailing (maxIterationUs task) (durations s.events) = crunchMaxOverruns.toNat
  fault_first : Fresh (maxIterationUs task) crunchMaxOverruns.toNat (durations s.events)
  fault_decided : 0 < crunchMaxOverruns.toNat →
    trailing (maxIterationUs task) (durations s.events) = crunchMaxOverruns.toNat →
    (∃ now, s.loop = .thresholdTest now) ∨ s.loop.exit = some (some .overrun)
  fault_called : ∀ cause, s.loop = .returned cause → 0 < crunchMaxOverruns.toNat →
    trailing (maxIterationUs task) (durations s.events) = crunchMaxOverruns.toNat →
    s.events.countP Event.isOverrunAbort = 1
  fault_stops : s.events.countP Event.isOverrunAbort = 1 → ∀ bs,
    (run (step crunchMaxOverruns maxIterationUs coreId) s bs).events.countP Event.isCrunchBegin =
      s.events.countP Event.isCrunchBegin
  consecutive : s.loop ≠ .resetCounters →
    s.dispatcher.consecutiveOverruns.toNat = trailing (maxIterationUs task) (durations s.events)
  total : s.loop ≠ .resetCounters →
    s.dispatcher.totalOverruns.toNat = overruns (maxIterationUs task) (durations s.events)
  measured : s.events.countP Event.isCrunchEnd = (durations s.events).length+openMeasures s.loop
  kicked : s.events.countP Event.isWatchdogKick =
    s.events.countP Event.isCrunchEnd+openKicks s.loop
  own_kicks : ∀ c now, .watchdogKick c now ∈ s.events → c = coreId

theorem durations_length (es : List (Event τ)) :
    (durations es).length = es.countP Event.isMeasured := by
  rw [durations, List.length_filterMap_eq_countP]
  congr 1
  funext e
  cases e <;> rfl

theorem overrunAborts_exit (l : Loop τ) (h : overrunAborts l = 1) :
    l.exit = some (some .overrun) := by
  cases l with
  | logging cause now => cases cause <;> simp_all [overrunAborts, Loop.exit]
  | returned cause => rcases cause with _ | _ | _ | _ <;> simp_all [overrunAborts, Loop.exit]
  | _ => simp [overrunAborts] at h

theorem overrunAborts_le (l : Loop τ) : overrunAborts l ≤ 1 := by
  unfold overrunAborts
  split <;> (try split) <;> omega

theorem reached_decided (limit : UInt64) (threshold : ℕ) (ds : List UInt64) (l : Loop τ)
    (h : Reached limit threshold ds l) (hpos : 0 < threshold) (heq : trailing limit ds = threshold) :
    (∃ now, l = .thresholdTest now) ∨ l.exit = some (some .overrun) := by
  cases l with
  | thresholdTest now => exact Or.inl ⟨now, rfl⟩
  | aborting cause now => cases cause <;> simp_all [Reached, FaultAt, Loop.exit]
  | logging cause now => cases cause <;> simp_all [Reached, FaultAt, Loop.exit]
  | returned cause => rcases cause with _ | _ | _ | _ <;> simp_all [Reached, FaultAt, Loop.exit]
  | _ => exact absurd (h hpos) (by omega)

theorem reached_fault (limit : UInt64) (threshold : ℕ) (ds : List UInt64) (l : Loop τ)
    (h : Reached limit threshold ds l) (hone : overrunAborts l = 1) :
    0 < threshold ∧ trailing limit ds = threshold := by
  cases l with
  | logging cause now => cases cause <;> simp_all [overrunAborts, Reached, FaultAt]
  | returned cause => rcases cause with _ | _ | _ | _ <;> simp_all [overrunAborts, Reached, FaultAt]
  | _ => simp [overrunAborts] at hone

theorem crunch_loop_spec (v : Shared) (d : Dispatcher τ) (task : τ) (watchdogKick : Bool)
    (as : List Action)
    (hlen : (durations (run (step crunchMaxOverruns maxIterationUs coreId)
      (entry v d task watchdogKick) as).events).length < 2^32) :
    LoopSpec crunchMaxOverruns maxIterationUs coreId task
      (run (step crunchMaxOverruns maxIterationUs coreId) (entry v d task watchdogKick) as) := by
  have htask := run_task crunchMaxOverruns maxIterationUs coreId v d task watchdogKick as
  have hledger := run_ledger crunchMaxOverruns maxIterationUs coreId v d task watchdogKick as hlen
  have hfaults := run_counted crunchMaxOverruns maxIterationUs coreId Event.isOverrunAbort
    overrunAborts task (fun v d l d' l' es =>
      next_faults crunchMaxOverruns maxIterationUs coreId v d task l d' l' es) rfl v d watchdogKick as
  have hmeasures := run_balanced crunchMaxOverruns maxIterationUs coreId Event.isCrunchEnd
    Event.isMeasured openMeasures task (fun v d l d' l' es =>
      next_measures crunchMaxOverruns maxIterationUs coreId v d task l d' l' es) rfl v d
    watchdogKick as
  have hkicks := run_balanced crunchMaxOverruns maxIterationUs coreId Event.isWatchdogKick
    Event.isCrunchEnd openKicks task (fun v d l d' l' es =>
      next_kicks crunchMaxOverruns maxIterationUs coreId v d task l d' l' es) rfl v d
    watchdogKick as
  have hown := run_invariant_loop crunchMaxOverruns maxIterationUs coreId
    (fun _ _ es => ∀ c now, .watchdogKick c now ∈ es → c = coreId) task
    (fun v d l es d' l' es' hi hn c now hmem => (List.mem_append.mp hmem).elim (hi c now)
      (next_own_kicks crunchMaxOverruns maxIterationUs coreId v d task l d' l' es' hn c now))
    (entry v d task watchdogKick) rfl (by simp [entry]) as
  generalize run (step crunchMaxOverruns maxIterationUs coreId)
    (entry v d task watchdogKick) as = s at *
  refine ⟨?_, ?_, ?_, hledger.fresh, reached_decided _ _ _ _ hledger.reached, ?_, ?_,
    hledger.consecutive, hledger.total, ?_, hkicks, hown⟩
  · intro hv bs hb
    have hbegin := run_mayBegin crunchMaxOverruns maxIterationUs coreId task s htask hv bs hb
    have hone : mayBegin s.loop ≤ 1 := by
      unfold mayBegin
      split <;> omega
    omega
  · rw [hfaults]
    exact overrunAborts_le s.loop
  · intro hone
    exact reached_fault _ _ _ _ hledger.reached (hfaults ▸ hone)
  · intro cause hret hpos heq
    rcases reached_decided _ _ _ _ hledger.reached hpos heq with ⟨now, hnow⟩ | hexit
    · simp [hret] at hnow
    · rw [hret] at hexit
      obtain rfl : cause = some .overrun := by simpa [Loop.exit] using hexit
      rw [hfaults, hret]
      rfl
  · intro hone bs
    exact run_exit_begins crunchMaxOverruns maxIterationUs coreId task s htask _
      (overrunAborts_exit s.loop (hfaults ▸ hone)) bs
  · rw [durations_length]
    exact hmeasures

def turn (micros : UInt64) : List Action :=
  List.replicate 8 Action.loop ++ Action.external (.setMicros micros)::List.replicate 4 Action.loop

def overrunRun : List Action :=
  [Action.loop, Action.loop] ++ turn 150 ++ turn 300 ++ [Action.loop, Action.loop]

example : (run (step 2 (fun _ => 100) 1) (entry ⟨false, .running, [], 0⟩ .idle () true)
    overrunRun).loop = .returned (some .overrun) := by decide

theorem crunch_loop_spec_overrun :
    LoopSpec 2 (fun _ => 100) 1 ()
      (run (step 2 (fun _ => 100) 1) (entry ⟨false, .running, [], 0⟩ .idle () true) overrunRun) :=
  crunch_loop_spec 2 (fun _ => 100) 1 _ _ () true overrunRun (by decide)

end SputterOS.CrunchDispatcher
