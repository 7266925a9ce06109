import SputterOS.Foundation.Progress
import SputterOS.Osal.MultiCoreSync

/-!
# The time limits of the waits

The three waits poll in a loop of one kind: test the time, look at the words, delay,
add the interval to a counter of 32 bits. Between any two steps the other cores
write what they like. A counter that wraps, or that an interval of zero leaves where
it is, need not reach the limit, and a delay whose turns wrap is shorter than the
interval that is added for it.
-/

set_option autoImplicit false

namespace SputterOS.BoundedWaits
open SputterOS.MultiCoreSync Foundation.Progress

/-- Where a wait stands in its loop. While it looks at the words the number of reads
that are left is bounded. -/
inductive Phase where
  | ahead
  | test (elapsed : UInt32)
  | look (elapsed : UInt32) (left : ℕ)
  | delay (elapsed : UInt32)
  | leaving
  | expired
  | closed
  deriving DecidableEq

inductive Move (reads : ℕ) (timeoutMs pollIntervalMs : UInt32) : Phase → Phase → Prop where
  | arrive : Move reads timeoutMs pollIntervalMs .ahead (.test 0)
  | poll (elapsed : UInt32) (left : ℕ) : elapsed < timeoutMs → left ≤ reads →
      Move reads timeoutMs pollIntervalMs (.test elapsed) (.look elapsed left)
  | expire (elapsed : UInt32) : ¬ elapsed < timeoutMs →
      Move reads timeoutMs pollIntervalMs (.test elapsed) .expired
  | read (elapsed : UInt32) (left left' : ℕ) : left' < left →
      Move reads timeoutMs pollIntervalMs (.look elapsed left) (.look elapsed left')
  | miss (elapsed : UInt32) (left : ℕ) :
      Move reads timeoutMs pollIntervalMs (.look elapsed left) (.delay elapsed)
  | find (elapsed : UInt32) (left : ℕ) :
      Move reads timeoutMs pollIntervalMs (.look elapsed left) .closed
  | follow (elapsed : UInt32) (left : ℕ) :
      Move reads timeoutMs pollIntervalMs (.look elapsed left) .leaving
  | delay (elapsed : UInt32) :
      Move reads timeoutMs pollIntervalMs (.delay elapsed) (.test (elapsed+pollIntervalMs))
  | leave : Move reads timeoutMs pollIntervalMs .leaving .closed
  | close : Move reads timeoutMs pollIntervalMs .expired .closed
  | stay : Move reads timeoutMs pollIntervalMs .expired .expired
  | done : Move reads timeoutMs pollIntervalMs .closed .closed

structure Wait (β : Type) where
  start : β
  step : Sync → β → Sync × β
  result : β → Option Bool
  phase : β → Phase

/-- A running wait with the number of polls it has begun and the turns of their delays. -/
structure Call (β : Type) where
  sync : Sync
  place : β
  polls : ℕ
  turns : ℕ

section Waits

variable {β : Type} (w : Wait β) (timeoutMs pollIntervalMs : UInt32)

def Phase.begins (timeoutMs : UInt32) : Phase → Bool
  | .test elapsed => elapsed < timeoutMs
  | _ => false

def Phase.turns (pollIntervalMs : UInt32) : Phase → ℕ
  | .delay _ => (pollDelay pollIntervalMs).toNat
  | _ => 0

def Wait.next (others : ℕ → Sync → Sync) (k : ℕ) (s : Call β) : Call β :=
  let r := w.step (others k s.sync) s.place
  ⟨r.1, r.2, if (w.phase s.place).begins timeoutMs then s.polls+1 else s.polls,
    s.turns+(w.phase s.place).turns pollIntervalMs⟩

def Wait.run (others : ℕ → Sync → Sync) (m : Sync) : ℕ → Call β :=
  trace (w.next timeoutMs pollIntervalMs others) ⟨m, w.start, 0, 0⟩

/-- ⌈timeoutMs / pollIntervalMs⌉ -/
def pollsNeeded : ℕ := (timeoutMs.toNat+pollIntervalMs.toNat-1)/pollIntervalMs.toNat

/-- Whatever the others do, the wait returns with at most one poll more than needed,
and it gives up only when the delays of its polls add up to the limit. -/
structure Bounded : Prop where
  returns : ∀ others m, ∃ k,
    (w.result (w.run timeoutMs pollIntervalMs others m k).place).isSome = true ∧
      (w.run timeoutMs pollIntervalMs others m k).polls ≤ pollsNeeded timeoutMs pollIntervalMs+1
  delays : ∀ others m k, w.phase (w.run timeoutMs pollIntervalMs others m k).place = .expired →
    timeoutMs.toNat*125000 ≤ (w.run timeoutMs pollIntervalMs others m k).turns

/-- The 32-bit counter reaches the limit with the last poll needed, or with the one
behind it. -/
def Covered : Prop :=
  timeoutMs.toNat ≤ pollsNeeded timeoutMs pollIntervalMs*pollIntervalMs.toNat % 2^32 ∨
    timeoutMs.toNat ≤ (pollsNeeded timeoutMs pollIntervalMs+1)*pollIntervalMs.toNat % 2^32

instance : Decidable (Covered timeoutMs pollIntervalMs) :=
  inferInstanceAs (Decidable (_ ∨ _))

def lastPoll : ℕ :=
  if timeoutMs.toNat ≤ pollsNeeded timeoutMs pollIntervalMs*pollIntervalMs.toNat % 2^32 then
    pollsNeeded timeoutMs pollIntervalMs
  else pollsNeeded timeoutMs pollIntervalMs+1

/-- The delays of that many polls are as long as the limit. -/
def Delayed : Prop :=
  timeoutMs.toNat*125000 ≤ lastPoll timeoutMs pollIntervalMs*(pollDelay pollIntervalMs).toNat

instance : Decidable (Delayed timeoutMs pollIntervalMs) :=
  inferInstanceAs (Decidable (_ ≤ _))

structure Polls (reads : ℕ) : Prop where
  start : w.phase w.start = .ahead ∨ w.phase w.start = .test 0
  move : ∀ m b, Move reads timeoutMs pollIntervalMs (w.phase b) (w.phase (w.step m b).2)
  closed : ∀ b, w.phase b = .closed → (w.result b).isSome = true
  expired : ∀ m b, w.phase b = .expired → (w.result (w.step m b).2).isSome = true

def Passed (polls : ℕ) : Prop := ∀ j < polls, j*pollIntervalMs.toNat % 2^32 < timeoutMs.toNat

def Counted (polls turns : ℕ) : Phase → Prop
  | .ahead => polls = 0 ∧ turns = 0
  | .test elapsed => elapsed.toNat = polls*pollIntervalMs.toNat % 2^32 ∧
      turns = polls*(pollDelay pollIntervalMs).toNat
  | .look elapsed _ => ∃ j, polls = j+1 ∧ elapsed.toNat = j*pollIntervalMs.toNat % 2^32 ∧
      turns = j*(pollDelay pollIntervalMs).toNat
  | .delay elapsed => ∃ j, polls = j+1 ∧ elapsed.toNat = j*pollIntervalMs.toNat % 2^32 ∧
      turns = j*(pollDelay pollIntervalMs).toNat
  | .expired => timeoutMs.toNat ≤ polls*pollIntervalMs.toNat % 2^32 ∧
      turns = polls*(pollDelay pollIntervalMs).toNat
  | .leaving => True
  | .closed => True

def Phase.rank : Phase → ℕ
  | .ahead => 2
  | .test _ => 1
  | .look _ left => left+3
  | .delay _ => 2
  | .leaving => 1
  | .expired => 0
  | .closed => 0

theorem passed_succ (polls : ℕ) (h : Passed timeoutMs pollIntervalMs polls)
    (hnext : polls*pollIntervalMs.toNat % 2^32 < timeoutMs.toNat) :
    Passed timeoutMs pollIntervalMs (polls+1) := by
  intro j hj
  rcases Nat.lt_succ_iff_lt_or_eq.mp hj with hold | rfl
  · exact h j hold
  · exact hnext

theorem passed_covered (polls : ℕ) (h : Passed timeoutMs pollIntervalMs polls)
    (hcovered : Covered timeoutMs pollIntervalMs) :
    polls ≤ pollsNeeded timeoutMs pollIntervalMs+1 := by
  by_contra hmore
  rcases hcovered with hneeded | hbehind
  · have hlt := h (pollsNeeded timeoutMs pollIntervalMs) (by omega)
    omega
  · have hlt := h (pollsNeeded timeoutMs pollIntervalMs+1) (by omega)
    omega

theorem elapsed_add (elapsed : UInt32) (j : ℕ)
    (h : elapsed.toNat = j*pollIntervalMs.toNat % 2^32) :
    (elapsed+pollIntervalMs).toNat = (j+1)*pollIntervalMs.toNat % 2^32 := by
  rw [UInt32.toNat_add, h, Nat.mod_add_mod, Nat.succ_mul]

theorem move_counted (reads : ℕ) (φ φ' : Phase) (polls turns : ℕ)
    (hmove : Move reads timeoutMs pollIntervalMs φ φ')
    (hpassed : Passed timeoutMs pollIntervalMs polls)
    (hcounted : Counted timeoutMs pollIntervalMs polls turns φ) :
    Passed timeoutMs pollIntervalMs (if φ.begins timeoutMs then polls+1 else polls) ∧
      Counted timeoutMs pollIntervalMs (if φ.begins timeoutMs then polls+1 else polls)
        (turns+φ.turns pollIntervalMs) φ' := by
  cases hmove with
  | arrive =>
    obtain ⟨rfl, rfl⟩ : polls = 0 ∧ turns = 0 := hcounted
    exact ⟨hpassed, by simp [Counted, Phase.begins, Phase.turns]⟩
  | poll elapsed left hlt hleft =>
    have hbegins : (Phase.test elapsed).begins timeoutMs = true := by simp [Phase.begins, hlt]
    rw [if_pos hbegins]
    obtain ⟨htime, hturns⟩ := hcounted
    refine ⟨passed_succ timeoutMs pollIntervalMs polls hpassed ?_, polls, rfl, htime, hturns⟩
    rw [← htime]
    exact UInt32.lt_iff_toNat_lt.mp hlt
  | expire elapsed hge =>
    have hbegins : ¬ (Phase.test elapsed).begins timeoutMs = true := by simp [Phase.begins, hge]
    rw [if_neg hbegins]
    obtain ⟨htime, hturns⟩ := hcounted
    refine ⟨hpassed, ?_, hturns⟩
    rw [← htime]
    exact UInt32.le_iff_toNat_le.mp (UInt32.not_lt.mp hge)
  | delay elapsed =>
    obtain ⟨j, rfl, htime, rfl⟩ := hcounted
    exact ⟨hpassed, elapsed_add pollIntervalMs elapsed j htime, (Nat.succ_mul _ _).symm⟩
  | read elapsed left left' hless => exact ⟨hpassed, hcounted⟩
  | miss elapsed left => exact ⟨hpassed, hcounted⟩
  | stay => exact ⟨hpassed, hcounted⟩
  | _ => exact ⟨hpassed, trivial⟩

theorem move_rank (reads : ℕ) (φ φ' : Phase) (hmove : Move reads timeoutMs pollIntervalMs φ φ')
    (hopen : φ ≠ .expired ∧ φ ≠ .closed) :
    if φ.begins timeoutMs then φ'.rank < φ.rank+(reads+3) else φ'.rank < φ.rank := by
  cases hmove with
  | poll elapsed left hlt hleft =>
    have hbegins : (Phase.test elapsed).begins timeoutMs = true := by simp [Phase.begins, hlt]
    rw [if_pos hbegins]
    simp only [Phase.rank]
    omega
  | expire elapsed hge =>
    have hbegins : ¬ (Phase.test elapsed).begins timeoutMs = true := by simp [Phase.begins, hge]
    rw [if_neg hbegins]
    exact Nat.zero_lt_one
  | close => exact absurd rfl hopen.1
  | stay => exact absurd rfl hopen.1
  | done => exact absurd rfl hopen.2
  | read elapsed left left' hless => simpa [Phase.begins, Phase.rank] using hless
  | _ => simp [Phase.begins, Phase.rank]

def Inv (s : Call β) : Prop :=
  Passed timeoutMs pollIntervalMs s.polls ∧
    Counted timeoutMs pollIntervalMs s.polls s.turns (w.phase s.place)

variable (reads : ℕ) (others : ℕ → Sync → Sync)

theorem next_inv (h : Polls w timeoutMs pollIntervalMs reads) (k : ℕ) (s : Call β)
    (hs : Inv w timeoutMs pollIntervalMs s) :
    Inv w timeoutMs pollIntervalMs (w.next timeoutMs pollIntervalMs others k s) :=
  move_counted timeoutMs pollIntervalMs reads _ _ s.polls s.turns (h.move (others k s.sync) s.place)
    hs.1 hs.2

theorem start_inv (h : Polls w timeoutMs pollIntervalMs reads) (m : Sync) :
    Inv w timeoutMs pollIntervalMs ⟨m, w.start, 0, 0⟩ := by
  refine ⟨fun j hj => absurd hj (Nat.not_lt_zero j), ?_⟩
  rcases h.start with hstart | hstart
  · simp [hstart, Counted]
  · simp [hstart, Counted]

theorem run_inv (h : Polls w timeoutMs pollIntervalMs reads) (m : Sync) (k : ℕ) :
    Inv w timeoutMs pollIntervalMs (w.run timeoutMs pollIntervalMs others m k) :=
  trace_invariant _ (Inv w timeoutMs pollIntervalMs)
    (next_inv w timeoutMs pollIntervalMs reads others h) _
    (start_inv w timeoutMs pollIntervalMs reads h m) k

def rank (s : Call β) : ℕ :=
  (pollsNeeded timeoutMs pollIntervalMs+1-s.polls)*(reads+3)+(w.phase s.place).rank

theorem next_rank (h : Polls w timeoutMs pollIntervalMs reads)
    (hcovered : Covered timeoutMs pollIntervalMs) (k : ℕ) (s : Call β)
    (hs : Inv w timeoutMs pollIntervalMs s)
    (hopen : ¬ (w.phase s.place = .expired ∨ w.phase s.place = .closed)) :
    rank w timeoutMs pollIntervalMs reads (w.next timeoutMs pollIntervalMs others k s) <
      rank w timeoutMs pollIntervalMs reads s := by
  have hmove := move_rank timeoutMs pollIntervalMs reads _ _
    (h.move (others k s.sync) s.place) (not_or.mp hopen)
  have hpolls := passed_covered timeoutMs pollIntervalMs _
    (next_inv w timeoutMs pollIntervalMs reads others h k s hs).1 hcovered
  simp only [Wait.next] at hpolls
  simp only [rank, Wait.next]
  by_cases hbegins : (w.phase s.place).begins timeoutMs = true
  · rw [if_pos hbegins] at hmove hpolls ⊢
    obtain ⟨d, hd⟩ := Nat.exists_eq_add_of_le hpolls
    have hleft : pollsNeeded timeoutMs pollIntervalMs+1-(s.polls+1) = d := by omega
    have hbefore : pollsNeeded timeoutMs pollIntervalMs+1-s.polls = d+1 := by omega
    rw [hleft, hbefore, Nat.succ_mul]
    omega
  · rw [if_neg hbegins] at hmove ⊢
    omega

theorem run_returns (h : Polls w timeoutMs pollIntervalMs reads)
    (hcovered : Covered timeoutMs pollIntervalMs) (m : Sync) :
    ∃ k, (w.result (w.run timeoutMs pollIntervalMs others m k).place).isSome = true ∧
      (w.run timeoutMs pollIntervalMs others m k).polls ≤
        pollsNeeded timeoutMs pollIntervalMs+1 := by
  have hpolls : ∀ k, (w.run timeoutMs pollIntervalMs others m k).polls ≤ pollsNeeded timeoutMs pollIntervalMs+1 :=
    fun k => passed_covered timeoutMs pollIntervalMs _
      (run_inv w timeoutMs pollIntervalMs reads others h m k).1 hcovered
  obtain ⟨k, hk⟩ := trace_done (w.next timeoutMs pollIntervalMs others) (Inv w timeoutMs pollIntervalMs)
    (fun s => w.phase s.place = .expired ∨ w.phase s.place = .closed)
    (rank w timeoutMs pollIntervalMs reads) (next_inv w timeoutMs pollIntervalMs reads others h)
    (next_rank w timeoutMs pollIntervalMs reads others h hcovered) ⟨m, w.start, 0, 0⟩
    (start_inv w timeoutMs pollIntervalMs reads h m)
  rcases hk with hexpired | hclosed
  · exact ⟨k+1, h.expired _ _ hexpired, hpolls (k+1)⟩
  · exact ⟨k, h.closed _ hclosed, hpolls k⟩

theorem pollsNeeded_le (polls : ℕ) (h : timeoutMs.toNat ≤ polls*pollIntervalMs.toNat % 2^32) :
    pollsNeeded timeoutMs pollIntervalMs ≤ polls := by
  have hsum := Nat.le_trans h (Nat.mod_le _ _)
  rcases Nat.eq_zero_or_pos pollIntervalMs.toNat with hzero | hpos
  · rw [pollsNeeded, hzero, Nat.div_zero]
    exact Nat.zero_le _
  · rw [pollsNeeded, ← Nat.lt_succ_iff, Nat.div_lt_iff_lt_mul hpos, Nat.succ_mul]
    omega

theorem lastPoll_le (polls : ℕ) (h : timeoutMs.toNat ≤ polls*pollIntervalMs.toNat % 2^32) :
    lastPoll timeoutMs pollIntervalMs ≤ polls := by
  have hle := pollsNeeded_le timeoutMs pollIntervalMs polls h
  rw [lastPoll]
  split_ifs with hneeded
  · exact hle
  · refine Nat.lt_of_le_of_ne hle ?_
    rintro rfl
    exact hneeded h

theorem passed_lastPoll (polls : ℕ) (h : Passed timeoutMs pollIntervalMs polls)
    (hpolls : polls ≤ pollsNeeded timeoutMs pollIntervalMs+1) :
    polls ≤ lastPoll timeoutMs pollIntervalMs := by
  rw [lastPoll]
  split_ifs with hneeded
  · by_contra hmore
    exact absurd (h _ (Nat.lt_of_not_le hmore)) (Nat.not_lt.mpr hneeded)
  · exact hpolls

/-- A counter that reaches the limit ends the wait, whatever the others do. -/
theorem bounded_of_covered (h : Polls w timeoutMs pollIntervalMs reads)
    (hcovered : Covered timeoutMs pollIntervalMs) (hdelayed : Delayed timeoutMs pollIntervalMs) :
    Bounded w timeoutMs pollIntervalMs := by
  refine ⟨fun others m => run_returns w timeoutMs pollIntervalMs reads others h hcovered m, ?_⟩
  intro others m k hexpired
  have hcounted := (run_inv w timeoutMs pollIntervalMs reads others h m k).2
  rw [hexpired] at hcounted
  obtain ⟨hreached, hturns⟩ := hcounted
  rw [hturns]
  exact hdelayed.trans
    (Nat.mul_le_mul_right _ (lastPoll_le timeoutMs pollIntervalMs _ hreached))

theorem covered_of_reached (polls : ℕ) (hpolls : polls ≤ pollsNeeded timeoutMs pollIntervalMs+1)
    (h : timeoutMs.toNat ≤ polls*pollIntervalMs.toNat % 2^32) :
    Covered timeoutMs pollIntervalMs := by
  have hle := pollsNeeded_le timeoutMs pollIntervalMs polls h
  rcases (by omega : polls = pollsNeeded timeoutMs pollIntervalMs ∨
    polls = pollsNeeded timeoutMs pollIntervalMs+1) with rfl | rfl
  · exact Or.inl h
  · exact Or.inr h

end Waits

section Code

variable (n : ℕ) (timeoutMs pollIntervalMs : UInt32) (c : ℕ)

def startupBarrier : Wait StartupBarrier where
  start := .setReady
  step := startupBarrierStep n timeoutMs pollIntervalMs c
  result
    | .returned result => some result
    | _ => none
  phase
    | .setReady => .ahead
    | .timeTest elapsed => .test elapsed
    | .anyError elapsed i => .look elapsed (n-i+n+1)
    | .allReady elapsed i => .look elapsed (n-i)
    | .pollDelay elapsed => .delay elapsed
    | .peerError => .leaving
    | .timedOut => .expired
    | .returned _ => .closed

def shutdownBarrier : Wait ShutdownBarrier where
  start := .setShutdown
  step := shutdownBarrierStep n timeoutMs pollIntervalMs c
  result
    | .returned result => some result
    | _ => none
  phase
    | .setShutdown => .ahead
    | .timeTest elapsed => .test elapsed
    | .allTerminated elapsed i => .look elapsed (n-i)
    | .pollDelay elapsed => .delay elapsed
    | .returned true => .closed
    | .returned false => .expired

def waitForCore (peerId : ℕ) (target : CoreState) : Wait WaitForCore where
  start := .timeTest 0
  step := fun m b => (m, waitForCoreStep peerId target timeoutMs pollIntervalMs m b)
  result
    | .returned result => some result
    | _ => none
  phase
    | .timeTest elapsed => .test elapsed
    | .load elapsed => .look elapsed 0
    | .pollDelay elapsed => .delay elapsed
    | .returned true => .closed
    | .returned false => .expired

theorem startupBarrier_polls :
    Polls (startupBarrier n timeoutMs pollIntervalMs c) timeoutMs pollIntervalMs (n+n+1) := by
  refine ⟨Or.inl rfl, fun m b => ?_, fun b hb => ?_, fun m b hb => ?_⟩
  · have hmove := startupBarrierStep_move n timeoutMs pollIntervalMs c m b
    change Move _ _ _ _ ((startupBarrier n timeoutMs pollIntervalMs c).phase
      (startupBarrierStep n timeoutMs pollIntervalMs c m b).2)
    generalize startupBarrierStep n timeoutMs pollIntervalMs c m b = r at hmove ⊢
    obtain ⟨m', b'⟩ := r
    cases hmove with
    | arrive => exact .arrive
    | poll elapsed hlt => exact .poll elapsed _ hlt (by omega)
    | expire elapsed hge => exact .expire elapsed hge
    | seeError elapsed i hi he => exact .follow elapsed _
    | seeNoError elapsed i hi he => exact .read elapsed _ _ (by omega)
    | noError elapsed i hi => exact .read elapsed _ _ (by omega)
    | seeReady elapsed i hi hr => exact .read elapsed _ _ (by omega)
    | seeNotReady elapsed i hi hr => exact .miss elapsed _
    | pass elapsed i hi => exact .find elapsed _
    | delay elapsed => exact .delay elapsed
    | follow => exact .leave
    | fail => exact .close
    | done result => exact .done
  · cases b with
    | returned result => rfl
    | _ => cases hb
  · cases b with
    | timedOut => rfl
    | _ => cases hb

theorem shutdownBarrier_polls :
    Polls (shutdownBarrier n timeoutMs pollIntervalMs c) timeoutMs pollIntervalMs n := by
  refine ⟨Or.inl rfl, fun m b => ?_, fun b hb => ?_, fun m b hb => ?_⟩
  · change Move _ _ _ _ ((shutdownBarrier n timeoutMs pollIntervalMs c).phase
      (shutdownBarrierStep n timeoutMs pollIntervalMs c m b).2)
    cases b with
    | setShutdown => exact .arrive
    | timeTest elapsed =>
      by_cases hlt : elapsed < timeoutMs
      · rw [shutdownBarrierStep, if_pos hlt]
        exact .poll elapsed _ hlt (Nat.sub_le _ _)
      · rw [shutdownBarrierStep, if_neg hlt]
        exact .expire elapsed hlt
    | allTerminated elapsed i =>
      unfold shutdownBarrierStep allTerminatedStep
      by_cases hi : i < n
      · by_cases hopen : m.states i ≠ .shutdown ∧ m.states i ≠ .error
        · simp only [if_pos hi, if_pos hopen]
          exact .miss elapsed _
        · simp only [if_pos hi, if_neg hopen]
          exact .read elapsed _ _ (by omega)
      · simp only [if_neg hi]
        exact .find elapsed _
    | pollDelay elapsed => exact .delay elapsed
    | returned result =>
      cases result with
      | true => exact .done
      | false => exact .stay
  · cases b with
    | returned result => rfl
    | _ => cases hb
  · cases b with
    | returned result => rfl
    | _ => cases hb

theorem waitForCore_polls (peerId : ℕ) (target : CoreState) :
    Polls (waitForCore timeoutMs pollIntervalMs peerId target) timeoutMs pollIntervalMs 0 := by
  refine ⟨Or.inr rfl, fun m b => ?_, fun b hb => ?_, fun m b hb => ?_⟩
  · change Move _ _ _ _ ((waitForCore timeoutMs pollIntervalMs peerId target).phase
      (waitForCoreStep peerId target timeoutMs pollIntervalMs m b))
    cases b with
    | timeTest elapsed =>
      by_cases hlt : elapsed < timeoutMs
      · rw [waitForCoreStep, if_pos hlt]
        exact .poll elapsed 0 hlt le_rfl
      · rw [waitForCoreStep, if_neg hlt]
        exact .expire elapsed hlt
    | load elapsed =>
      by_cases hreached : (m.states peerId).value ≥ target.value
      · rw [waitForCoreStep, if_pos hreached]
        exact .find elapsed 0
      · rw [waitForCoreStep, if_neg hreached]
        exact .miss elapsed 0
    | pollDelay elapsed => exact .delay elapsed
    | returned result =>
      cases result with
      | true => exact .done
      | false => exact .stay
  · cases b with
    | returned result => rfl
    | _ => cases hb
  · cases b with
    | returned result => rfl
    | _ => cases hb

end Code

def nobody : ℕ → Sync → Sync := fun _ m => m

section Alone

variable (n : ℕ) (timeoutMs pollIntervalMs : UInt32) (c d : ℕ)

structure StartupAlone (s : Call StartupBarrier) : Prop where
  peer : s.sync.states d = .unborn
  clean : (∃ result, s.place = .returned result) ∨ ∀ i, s.sync.states i ≠ .error
  error : s.place ≠ .peerError
  scan : ∀ elapsed i, s.place = .allReady elapsed i → i ≤ d

theorem startup_alone (hd : d < n) (hdc : d ≠ c) (k : ℕ) (s : Call StartupBarrier)
    (h : StartupAlone d s) :
    StartupAlone d
      ((startupBarrier n timeoutMs pollIntervalMs c).next timeoutMs pollIntervalMs
        nobody k s) := by
  obtain ⟨m, b, polls, turns⟩ := s
  obtain ⟨hpeer, hclean, herror, hscan⟩ := h
  dsimp only at hpeer hclean herror hscan
  have hmove := startupBarrierStep_move n timeoutMs pollIntervalMs c m b
  change StartupAlone d ⟨(startupBarrierStep n timeoutMs pollIntervalMs c m b).1,
    (startupBarrierStep n timeoutMs pollIntervalMs c m b).2, _, _⟩
  generalize startupBarrierStep n timeoutMs pollIntervalMs c m b = r at hmove ⊢
  obtain ⟨m', b'⟩ := r
  cases hmove with
  | arrive =>
    have hwords : ∀ i, m.states i ≠ .error := hclean.resolve_left nofun
    refine ⟨by simp [Function.update_of_ne hdc, hpeer], Or.inr fun i => ?_, nofun, nofun⟩
    change Function.update m.states c .ready i ≠ .error
    rw [Function.update_apply]
    split
    · nofun
    · exact hwords i
  | seeError elapsed i hi he => exact absurd he (hclean.resolve_left nofun i)
  | noError elapsed i hi =>
    refine ⟨hpeer, Or.inr (hclean.resolve_left nofun), nofun, fun e j hj => ?_⟩
    cases hj
    exact Nat.zero_le d
  | seeReady elapsed i hi hr =>
    have hle := hscan elapsed i rfl
    have hid : i ≠ d := by
      rintro rfl
      rw [hpeer] at hr
      cases hr
    refine ⟨hpeer, Or.inr (hclean.resolve_left nofun), nofun, fun e j hj => ?_⟩
    cases hj
    omega
  | pass elapsed i hi =>
    have hle := hscan elapsed i rfl
    omega
  | follow => exact absurd rfl herror
  | fail => exact ⟨by simp [Function.update_of_ne hdc, hpeer], Or.inl ⟨false, rfl⟩, nofun, nofun⟩
  | done result => exact ⟨hpeer, Or.inl ⟨result, rfl⟩, nofun, nofun⟩
  | _ => exact ⟨hpeer, Or.inr (hclean.resolve_left nofun), nofun, nofun⟩

theorem startup_returned (hd : d < n) (s : Call StartupBarrier) (h : StartupAlone d s)
    (result : Bool)
    (hreturned : (startupBarrierStep n timeoutMs pollIntervalMs c s.sync s.place).2 =
      .returned result) :
    s.place = .timedOut ∨ s.place = .returned result := by
  have hmove := startupBarrierStep_move n timeoutMs pollIntervalMs c s.sync s.place
  rw [hreturned] at hmove
  generalize hplace : s.place = b at hmove ⊢
  generalize (startupBarrierStep n timeoutMs pollIntervalMs c s.sync b).1 = m' at hmove
  cases hmove with
  | pass elapsed i hi =>
    have hle := h.scan elapsed i hplace
    omega
  | follow => exact absurd hplace h.error
  | fail => exact Or.inl rfl
  | done => exact Or.inr rfl

structure ShutdownAlone (s : Call ShutdownBarrier) : Prop where
  peer : s.sync.states d = .unborn
  scan : ∀ elapsed i, s.place = .allTerminated elapsed i → i ≤ d
  returned : s.place ≠ .returned true

theorem shutdown_alone (hd : d < n) (hdc : d ≠ c) (k : ℕ) (s : Call ShutdownBarrier)
    (h : ShutdownAlone d s) :
    ShutdownAlone d ((shutdownBarrier n timeoutMs pollIntervalMs c).next timeoutMs pollIntervalMs
      nobody k s) := by
  obtain ⟨m, b, polls, turns⟩ := s
  obtain ⟨hpeer, hscan, hreturned⟩ := h
  dsimp only at hpeer hscan hreturned
  change ShutdownAlone d ⟨(shutdownBarrierStep n timeoutMs pollIntervalMs c m b).1,
    (shutdownBarrierStep n timeoutMs pollIntervalMs c m b).2, _, _⟩
  cases b with
  | setShutdown =>
    refine ⟨by simp [shutdownBarrierStep, Function.update_of_ne hdc, hpeer], fun e j hj => ?_,
      fun hplace => ?_⟩
    · cases hj
    · cases hplace
  | timeTest elapsed =>
    by_cases hlt : elapsed < timeoutMs
    · rw [shutdownBarrierStep, if_pos hlt]
      refine ⟨hpeer, fun e j hj => ?_, fun hplace => by cases hplace⟩
      cases hj
      exact Nat.zero_le d
    · rw [shutdownBarrierStep, if_neg hlt]
      exact ⟨hpeer, (fun e j hj => by cases hj), (fun hplace => by cases hplace)⟩
  | allTerminated elapsed i =>
    have hle := hscan elapsed i rfl
    unfold shutdownBarrierStep allTerminatedStep
    simp only [if_pos (show i < n by omega)]
    by_cases hopen : m.states i ≠ .shutdown ∧ m.states i ≠ .error
    · simp only [if_pos hopen]
      exact ⟨hpeer, (fun e j hj => by cases hj), (fun hplace => by cases hplace)⟩
    · have hid : i ≠ d := by
        rintro rfl
        rw [hpeer] at hopen
        exact hopen (by decide)
      simp only [if_neg hopen]
      refine ⟨hpeer, fun e j hj => ?_, fun hplace => by cases hplace⟩
      cases hj
      omega
  | pollDelay elapsed => exact ⟨hpeer, (fun e j hj => by cases hj), (fun hplace => by cases hplace)⟩
  | returned result => exact ⟨hpeer, (fun e j hj => by cases hj), hreturned⟩

structure CoreAlone (s : Call WaitForCore) : Prop where
  peer : s.sync.states d = .unborn
  returned : s.place ≠ .returned true

theorem core_alone (target : CoreState) (htarget : target ≠ .unborn) (k : ℕ)
    (s : Call WaitForCore) (h : CoreAlone d s) :
    CoreAlone d ((waitForCore timeoutMs pollIntervalMs d target).next timeoutMs pollIntervalMs nobody k s) := by
  obtain ⟨m, b, polls, turns⟩ := s
  obtain ⟨hpeer, hreturned⟩ := h
  dsimp only at hpeer hreturned
  change CoreAlone d ⟨m, waitForCoreStep d target timeoutMs pollIntervalMs m b, _, _⟩
  cases b with
  | timeTest elapsed =>
    by_cases hlt : elapsed < timeoutMs
    · rw [waitForCoreStep, if_pos hlt]
      exact ⟨hpeer, nofun⟩
    · rw [waitForCoreStep, if_neg hlt]
      exact ⟨hpeer, nofun⟩
  | load elapsed =>
    have hbelow : ¬ (m.states d).value ≥ target.value := by
      rw [hpeer]
      cases target with
      | unborn => exact absurd rfl htarget
      | _ => decide
    rw [waitForCoreStep, if_neg hbelow]
    exact ⟨hpeer, nofun⟩
  | pollDelay elapsed => exact ⟨hpeer, nofun⟩
  | returned result => exact ⟨hpeer, hreturned⟩

end Alone

def Unanswered {β : Type} (w : Wait β) (timeoutMs pollIntervalMs : UInt32) : Prop :=
  ∀ k, (w.result (w.run timeoutMs pollIntervalMs nobody (.new false) k).place).isSome = true →
    ∃ j ≤ k, w.phase (w.run timeoutMs pollIntervalMs nobody (.new false) j).place = .expired

section Limits

variable (n : ℕ) (timeoutMs pollIntervalMs : UInt32) (c d : ℕ)

theorem startupBarrier_unanswered (hd : d < n) (hdc : d ≠ c) :
    Unanswered (startupBarrier n timeoutMs pollIntervalMs c) timeoutMs pollIntervalMs := by
  intro k
  induction k with
  | zero =>
    intro hk
    cases hk
  | succ k ih =>
    intro hk
    have halone := trace_invariant _ (StartupAlone d)
      (fun j s => startup_alone n timeoutMs pollIntervalMs c d hd hdc j s)
      ⟨.new false, .setReady, 0, 0⟩ ⟨rfl, Or.inr fun i => nofun, nofun, nofun⟩ k
    generalize hplace : ((startupBarrier n timeoutMs pollIntervalMs c).run timeoutMs pollIntervalMs
      nobody (.new false) (k+1)).place = b at hk
    cases b with
    | returned result =>
      rcases startup_returned n timeoutMs pollIntervalMs c d hd _ halone result hplace with h | h
      · exact ⟨k, Nat.le_succ k, congrArg (startupBarrier n timeoutMs pollIntervalMs c).phase h⟩
      · obtain ⟨j, hj, hexpired⟩ := ih
          (congrArg (fun b => ((startupBarrier n timeoutMs pollIntervalMs c).result b).isSome) h)
        exact ⟨j, Nat.le_succ_of_le hj, hexpired⟩
    | _ => cases hk

theorem shutdownBarrier_unanswered (hd : d < n) (hdc : d ≠ c) :
    Unanswered (shutdownBarrier n timeoutMs pollIntervalMs c) timeoutMs pollIntervalMs := by
  intro k hk
  refine ⟨k, le_rfl, ?_⟩
  have halone := trace_invariant _ (ShutdownAlone d)
    (fun j s => shutdown_alone n timeoutMs pollIntervalMs c d hd hdc j s)
    ⟨.new false, .setShutdown, 0, 0⟩ ⟨rfl, nofun, nofun⟩ k
  generalize hplace : ((shutdownBarrier n timeoutMs pollIntervalMs c).run timeoutMs pollIntervalMs
    nobody (.new false) k).place = b at hk ⊢
  cases b with
  | returned result =>
    cases result with
    | true => exact absurd hplace halone.returned
    | false => rfl
  | _ => cases hk

theorem waitForCore_unanswered (target : CoreState) (htarget : target ≠ .unborn) :
    Unanswered (waitForCore timeoutMs pollIntervalMs d target) timeoutMs pollIntervalMs := by
  intro k hk
  refine ⟨k, le_rfl, ?_⟩
  have halone := trace_invariant _ (CoreAlone d)
    (fun j s => core_alone timeoutMs pollIntervalMs d target htarget j s)
    ⟨.new false, .timeTest 0, 0, 0⟩ ⟨rfl, nofun⟩ k
  generalize hplace : ((waitForCore timeoutMs pollIntervalMs d target).run timeoutMs pollIntervalMs
    nobody (.new false) k).place = b at hk ⊢
  cases b with
  | returned result =>
    cases result with
    | true => exact absurd hplace halone.returned
    | false => rfl
  | _ => cases hk

theorem polls_mono {β : Type} (w : Wait β) (others : ℕ → Sync → Sync) (m : Sync) :
    Monotone fun k => (w.run timeoutMs pollIntervalMs others m k).polls := by
  apply monotone_nat_of_le_succ
  intro k
  change _ ≤ ite _ _ _
  split_ifs
  · exact Nat.le_succ _
  · exact le_rfl

theorem covered_of_bounded {β : Type} (w : Wait β) (reads : ℕ)
    (hpolls : Polls w timeoutMs pollIntervalMs reads)
    (halone : Unanswered w timeoutMs pollIntervalMs) (h : Bounded w timeoutMs pollIntervalMs) :
    Covered timeoutMs pollIntervalMs ∧ Delayed timeoutMs pollIntervalMs := by
  obtain ⟨k, hk, hbound⟩ := h.returns nobody (.new false)
  obtain ⟨j, hj, hexpired⟩ := halone k hk
  have hinv := run_inv w timeoutMs pollIntervalMs reads nobody hpolls (.new false) j
  have hdelays := h.delays nobody (.new false) j hexpired
  have hless := (polls_mono timeoutMs pollIntervalMs w nobody (.new false) hj).trans hbound
  rw [Inv, hexpired] at hinv
  obtain ⟨hpassed, hreached, hturns⟩ := hinv
  refine ⟨covered_of_reached timeoutMs pollIntervalMs _ hless hreached, ?_⟩
  rw [hturns] at hdelays
  exact hdelays.trans
    (Nat.mul_le_mul_right _ (passed_lastPoll timeoutMs pollIntervalMs _ hpassed hless))

/-- A counter that never reaches the limit leaves a wait to the other cores. -/
theorem unanswered_hangs {β : Type} (w : Wait β) (reads : ℕ)
    (hpolls : Polls w timeoutMs pollIntervalMs reads)
    (halone : Unanswered w timeoutMs pollIntervalMs)
    (hbelow : ∀ polls, polls*pollIntervalMs.toNat % 2^32 < timeoutMs.toNat) (k : ℕ) :
    w.result (w.run timeoutMs pollIntervalMs nobody (.new false) k).place = none := by
  by_contra hresult
  obtain ⟨j, -, hexpired⟩ := halone k (Option.isSome_iff_ne_none.mpr hresult)
  have hcounted := (run_inv w timeoutMs pollIntervalMs reads nobody hpolls (.new false) j).2
  rw [hexpired] at hcounted
  exact absurd hcounted.1 (Nat.not_le_of_lt (hbelow _))

/-- Every core has reached UNBORN, so a wait for that never comes to its limit. -/
theorem waitForCore_unborn_found (hlt : 0 < timeoutMs) (others : ℕ → Sync → Sync) (m : Sync)
    (k : ℕ) :
    ((waitForCore timeoutMs pollIntervalMs d .unborn).run timeoutMs pollIntervalMs others m
        k).place ∈ [.timeTest 0, .load 0, .returned true] := by
  refine trace_invariant _ (fun s : Call WaitForCore =>
    s.place ∈ [WaitForCore.timeTest 0, .load 0, .returned true]) (fun j s hs => ?_) _
    (by simp [waitForCore]) k
  have hreached : ((others j s.sync).states d).value ≥ CoreState.unborn.value :=
    UInt8.le_iff_toNat_le.mpr (Nat.zero_le _)
  change waitForCoreStep d .unborn timeoutMs pollIntervalMs (others j s.sync) s.place ∈ _
  simp only [List.mem_cons, List.not_mem_nil, or_false] at hs
  rcases hs with h | h | h
  · simp [h, waitForCoreStep, hlt]
  · simp [h, waitForCoreStep, hreached]
  · simp [h, waitForCoreStep]

theorem waitForCore_unborn :
    Bounded (waitForCore timeoutMs pollIntervalMs d .unborn) timeoutMs pollIntervalMs := by
  have hpolls := waitForCore_polls timeoutMs pollIntervalMs d .unborn
  by_cases hlt : 0 < timeoutMs
  · refine ⟨fun others m => ⟨2, ?_⟩, fun others m k hexpired => ?_⟩
    · have hfirst : (waitForCore timeoutMs pollIntervalMs d .unborn).run timeoutMs pollIntervalMs
          others m 1 = ⟨others 0 m, .load 0, 1, 0⟩ := by
        simp [Wait.run, trace_succ, Wait.next, waitForCore, waitForCoreStep, Phase.begins,
          Phase.turns, hlt]
      have hsecond : (waitForCore timeoutMs pollIntervalMs d .unborn).run timeoutMs pollIntervalMs
          others m 2 =
          (waitForCore timeoutMs pollIntervalMs d .unborn).next timeoutMs pollIntervalMs others 1
            ((waitForCore timeoutMs pollIntervalMs d .unborn).run timeoutMs pollIntervalMs
              others m 1) := rfl
      have hreached : ((others 1 (others 0 m)).states d).value ≥ CoreState.unborn.value :=
        UInt8.le_iff_toNat_le.mpr (Nat.zero_le _)
      rw [hsecond, hfirst]
      simp [Wait.next, waitForCore, waitForCoreStep, Phase.begins, hreached]
    · have hplace := waitForCore_unborn_found timeoutMs pollIntervalMs d hlt others m k
      simp only [List.mem_cons, List.not_mem_nil, or_false] at hplace
      rcases hplace with h | h | h <;> rw [h] at hexpired <;> cases hexpired
  · have hzero : timeoutMs.toNat = 0 := by
      have hle := UInt32.le_iff_toNat_le.mp (UInt32.not_lt.mp hlt)
      rw [UInt32.toNat_zero] at hle
      omega
    exact bounded_of_covered _ _ _ _ hpolls (Or.inl (by omega)) (by simp [Delayed, hzero])

end Limits

/-- The waits are bounded by their limits exactly if the 32-bit counter reaches the
limit with the last poll needed or with the one behind it, and the delays until then
are as long as the limit; a wait for UNBORN always is. -/
theorem waits_bounded_iff (n : ℕ) (hn : 2 ≤ n) (timeoutMs pollIntervalMs : UInt32) (c : ℕ) :
    (Bounded (startupBarrier n timeoutMs pollIntervalMs c) timeoutMs pollIntervalMs ↔
      Covered timeoutMs pollIntervalMs ∧ Delayed timeoutMs pollIntervalMs) ∧
    (Bounded (shutdownBarrier n timeoutMs pollIntervalMs c) timeoutMs pollIntervalMs ↔
      Covered timeoutMs pollIntervalMs ∧ Delayed timeoutMs pollIntervalMs) ∧
    ∀ peerId target,
      Bounded (waitForCore timeoutMs pollIntervalMs peerId target) timeoutMs pollIntervalMs ↔
        target = .unborn ∨
          Covered timeoutMs pollIntervalMs ∧ Delayed timeoutMs pollIntervalMs := by
  obtain ⟨d, hd, hdc⟩ : ∃ d < n, d ≠ c := by
    by_cases hc : c = 0
    · exact ⟨1, hn, by omega⟩
    · exact ⟨0, by omega, Ne.symm hc⟩
  have hstartup := startupBarrier_polls n timeoutMs pollIntervalMs c
  have hshutdown := shutdownBarrier_polls n timeoutMs pollIntervalMs c
  refine ⟨⟨?_, ?_⟩, ⟨?_, ?_⟩, fun peerId target => ⟨fun h => ?_, ?_⟩⟩
  · exact covered_of_bounded _ _ _ _ hstartup
      (startupBarrier_unanswered n timeoutMs pollIntervalMs c d hd hdc)
  · exact fun h => bounded_of_covered _ _ _ _ hstartup h.1 h.2
  · exact covered_of_bounded _ _ _ _ hshutdown
      (shutdownBarrier_unanswered n timeoutMs pollIntervalMs c d hd hdc)
  · exact fun h => bounded_of_covered _ _ _ _ hshutdown h.1 h.2
  · by_cases htarget : target = .unborn
    · exact Or.inl htarget
    · right
      exact covered_of_bounded _ _ _ _ (waitForCore_polls timeoutMs pollIntervalMs peerId target)
        (waitForCore_unanswered timeoutMs pollIntervalMs peerId target htarget) h
  · rintro (rfl | ⟨hcovered, hdelayed⟩)
    · exact waitForCore_unborn timeoutMs pollIntervalMs peerId
    · exact bounded_of_covered _ _ _ _ (waitForCore_polls timeoutMs pollIntervalMs peerId target)
        hcovered hdelayed

theorem waits_bounded_default : Bounded (startupBarrier 2 2000 1 0) 2000 1 :=
  (waits_bounded_iff 2 le_rfl 2000 1 0).1.mpr (by decide)

/-- With an interval of zero, and with one of half the range of the counter, core 0
waits for a core that never starts for ever. With one whose turns wrap the counter
reaches the limit, but the delays do not. -/
theorem barrier_hangs :
    (∀ k, ((startupBarrier 2 10 0 0).result
      ((startupBarrier 2 10 0 0).run 10 0 nobody (.new false) k).place) = none) ∧
    (∀ k, ((startupBarrier 2 0xFFFFFFFF 0x80000000 0).result
      ((startupBarrier 2 0xFFFFFFFF 0x80000000 0).run 0xFFFFFFFF 0x80000000 nobody (.new false)
        k).place) = none) ∧
    (Covered 34360 34360 ∧ ¬ Bounded (startupBarrier 2 34360 34360 0) 34360 34360) ∧
    ¬ ∀ timeoutMs pollIntervalMs,
      Bounded (startupBarrier 2 timeoutMs pollIntervalMs 0) timeoutMs pollIntervalMs := by
  have hpolls := startupBarrier_polls 2
  have halone := fun t p => startupBarrier_unanswered 2 t p 0 1 (by decide) (by decide)
  have hzero := unanswered_hangs 10 0 _ _ (hpolls 10 0 0) (halone 10 0)
    (fun polls => by rw [UInt32.toNat_zero, Nat.mul_zero]; decide)
  refine ⟨hzero, unanswered_hangs 0xFFFFFFFF 0x80000000 _ _ (hpolls _ _ 0) (halone _ _) ?_,
    ⟨by decide, fun h => ?_⟩, fun h => ?_⟩
  · intro polls
    change polls*0x80000000 % 2^32 < 0xFFFFFFFF
    omega
  · have hdelayed := (covered_of_bounded _ _ _ _ (hpolls 34360 34360 0) (halone _ _) h).2
    revert hdelayed
    decide
  · obtain ⟨k, hk, -⟩ := (h 10 0).returns nobody (.new false)
    rw [hzero k] at hk
    cases hk

end SputterOS.BoundedWaits
