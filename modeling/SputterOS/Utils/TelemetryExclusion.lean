import SputterOS.Foundation.BoundedFifo
import SputterOS.Foundation.Transition
import SputterOS.Utils.TelemetryLogger

/-!
# Exclusion in the telemetry logger

While every call finds the mutex free, the call inside is the owner and works
alone on the ring.
-/

set_option autoImplicit false

namespace SputterOS.Telemetry
open Foundation.BoundedFifo (ring_inj)
open Foundation.OverwritingFifo Foundation.Transition Utils

theorem taskName_length (task : TaskID) : (taskName task).length ≤ 15 := by
  cases task <;> decide

theorem format_line (e : Entry) : format e.timestamp e.task e.text = e.line := by
  have htime := renderU32_length (e.timestamp/1000).toUInt32
  have hname := taskName_length e.task
  have htext := e.text.bound
  have hlen : e.line.length ≤ Utils.kCapacity-1 := by
    simp only [Entry.line, List.length_append, List.length_cons, List.length_nil, kTextLen,
      Utils.kCapacity] at *
    omega
  have hbuf := append_buf LightweightStringBuilder.initial e.line (Nat.zero_le _)
  rw [LightweightStringBuilder.initial, List.nil_append, List.take_of_length_le hlen] at hbuf
  refine Eq.trans ?_ hbuf
  simp only [format, Entry.line, LightweightStringBuilder.clear, appendChar_append, append_append,
    List.append_assoc, List.cons_append, List.nil_append]

structure Ring (m : TelemetryLogger) (q : List Entry) : Prop where
  capacity : q.length ≤ kCapacity
  tail : m.tail < kCapacity
  head : m.head = (m.tail+q.length) % kCapacity
  slots : ∀ i, i < q.length → q[i]? = some (m.buf ((m.tail+i) % kCapacity))

structure Holds (m : TelemetryLogger) (q : List Entry) : Prop where
  ring : Ring m q
  count : m.count = q.length

theorem ring_tail (m : TelemetryLogger) (x : Entry) (q : List Entry) (h : Ring m (x::q)) :
    Ring { m with tail := (m.tail+1) % kCapacity } q := by
  have hcapacity := h.capacity
  rw [List.length_cons] at hcapacity
  refine ⟨by omega, Nat.mod_lt _ (by decide), ?_, fun i hi => ?_⟩
  · rw [Nat.mod_add_mod, Nat.add_assoc, Nat.add_comm 1]
    exact h.head
  · have hslot := h.slots (i+1) (Nat.succ_lt_succ hi)
    rw [List.getElem?_cons_succ] at hslot
    rw [hslot, Nat.mod_add_mod, Nat.add_assoc, Nat.add_comm 1]

theorem write_other (m : TelemetryLogger) (slot j : ℕ) (e : Entry) (h : j ≠ slot) :
    (m.write slot e).buf j = m.buf j := by
  simp [TelemetryLogger.write, h]

@[simp] theorem write_buf (m : TelemetryLogger) (slot : ℕ) (e : Entry) :
    (m.write slot e).buf slot = e := Function.update_self ..

@[simp] theorem write_head (m : TelemetryLogger) (slot : ℕ) (e : Entry) :
    (m.write slot e).head = m.head := rfl

theorem ring_write (m : TelemetryLogger) (q : List Entry) (e : Entry) (h : Ring m q)
    (hlt : q.length < kCapacity) : Ring (m.write m.head e) q := by
  refine ⟨h.capacity, h.tail, h.head, fun i hi => ?_⟩
  have hslot : (m.tail+i) % kCapacity ≠ m.head := by
    intro heq
    have hsame := ring_inj kCapacity (m.tail+q.length) (m.tail+i) (by omega) (by omega)
      (h.head.symm.trans heq.symm)
    omega
  change _ = some ((m.write m.head e).buf ((m.tail+i) % kCapacity))
  rw [write_other m _ _ e hslot]
  exact h.slots i hi

theorem ring_push (m : TelemetryLogger) (q : List Entry) (e : Entry) (h : Ring m q)
    (hlt : q.length < kCapacity) (he : m.buf m.head = e) :
    Ring { m with head := (m.head+1) % kCapacity } (q ++ [e]) := by
  have hlen : (q ++ [e]).length = q.length+1 := by simp
  refine ⟨by omega, h.tail, ?_, fun i hi => ?_⟩
  · change (m.head+1) % kCapacity = _
    rw [h.head, Nat.mod_add_mod, hlen, Nat.add_assoc]
  · rcases Nat.lt_or_ge i q.length with hlt | hge
    · rw [List.getElem?_append_left hlt]
      exact h.slots i hlt
    · obtain rfl : i = q.length := by omega
      change _ = some (m.buf ((m.tail+q.length) % kCapacity))
      rw [← h.head, he]
      simp

structure Room (m : TelemetryLogger) (q : List Entry) : Prop where
  ring : Ring m (q.drop (q.length+1-kCapacity))
  short : (q.drop (q.length+1-kCapacity)).length < kCapacity
  count : m.count = (q.drop (q.length+1-kCapacity)).length+1

def Logging (m : TelemetryLogger) (q : List Entry) (e : Entry) : Log → Prop
  | .testCount => Holds m q
  | .loadTail => Holds m q ∧ q.length = kCapacity
  | .storeTail tail => Holds m q ∧ q.length = kCapacity ∧ tail = m.tail
  | .loadCount => Holds m q ∧ q.length < kCapacity
  | .storeCount count => Holds m q ∧ q.length < kCapacity ∧ count = m.count
  | .loadSlot => Room m q
  | .writeTimestamp slot => Room m q ∧ slot = m.head
  | .writeTask slot => Room m q ∧ slot = m.head ∧ (m.buf slot).timestamp = e.timestamp
  | .writeLevel slot =>
    Room m q ∧ slot = m.head ∧ (m.buf slot).timestamp = e.timestamp ∧ (m.buf slot).task = e.task
  | .writeText slot =>
    Room m q ∧ slot = m.head ∧ (m.buf slot).timestamp = e.timestamp ∧ (m.buf slot).task = e.task ∧
      (m.buf slot).level = e.level
  | .loadHead => Room m q ∧ m.buf m.head = e
  | .storeHead head => Room m q ∧ m.buf m.head = e ∧ head = m.head

theorem room_write (m : TelemetryLogger) (q : List Entry) (e : Entry) (h : Room m q) :
    Room (m.write m.head e) q :=
  ⟨ring_write m _ e h.ring h.short, h.short, h.count⟩

theorem room_full (m : TelemetryLogger) (q : List Entry) (h : Holds m q)
    (hfull : q.length = kCapacity) :
    Room { m with tail := (m.tail+1) % kCapacity } q := by
  have hdrop : q.length+1-kCapacity = 1 := by omega
  cases q with
  | nil => cases hfull
  | cons x q =>
    rw [List.length_cons] at hfull
    have hring := ring_tail m x q h.ring
    have hcount := h.count
    refine ⟨?_, ?_, ?_⟩ <;> rw [hdrop, List.drop_one, List.tail_cons]
    · exact hring
    · omega
    · exact hcount

theorem room_free (m : TelemetryLogger) (q : List Entry) (h : Holds m q)
    (hfree : q.length < kCapacity) : Room { m with count := (m.count+1) % sizeValues } q := by
  have hcount : (m.count+1) % sizeValues = q.length+1 := by
    rw [h.count]
    exact Nat.mod_eq_of_lt (Nat.lt_of_le_of_lt hfree (by decide))
  have hdrop : q.length+1-kCapacity = 0 := by omega
  refine ⟨?_, ?_, ?_⟩ <;> rw [hdrop, List.drop_zero]
  · exact ⟨h.ring.capacity, h.ring.tail, h.ring.head, h.ring.slots⟩
  · exact hfree
  · exact hcount

theorem storeHead_holds (m : TelemetryLogger) (q : List Entry) (e : Entry) (hroom : Room m q)
    (he : m.buf m.head = e) (hq : q.length ≤ kCapacity) :
    Holds { m with head := (m.head+1) % kCapacity } ((q ++ [e]).drop (q.length+1-kCapacity)) := by
  have hle : q.length+1-kCapacity ≤ q.length := by
    simp only [kCapacity] at *
    omega
  rw [List.drop_append_of_le_length hle]
  exact ⟨ring_push m _ e hroom.ring hroom.short he, hroom.count.trans (by simp)⟩

structure Settled (m : TelemetryLogger) (q : Queue Entry) (w : List (List UInt8)) : Prop where
  holds : Holds m q.held
  written : w = lines m.verbosity q.delivered

structure Taking (m : TelemetryLogger) (q : Queue Entry) (w : List (List UInt8)) (slot : ℕ) :
    Prop where
  ring : Ring m q.held.tail
  first : q.held.head? = some (m.buf slot)
  count : m.count = q.held.length
  written : w = lines m.verbosity q.delivered

structure Writing (m : TelemetryLogger) (q : Queue Entry) (w : List (List UInt8)) (x : Entry) :
    Prop where
  holds : Holds m q.held
  last : ∃ done, q.delivered = done ++ [x] ∧ w = lines m.verbosity done

def Draining (m : TelemetryLogger) (q : Queue Entry) (w : List (List UInt8)) : Drain → Prop
  | .testCount => Settled m q w
  | .loadSlot => Settled m q w ∧ 0 < m.count
  | .loadTail slot => Settled m q w ∧ 0 < m.count ∧ slot = m.tail
  | .storeTail slot tail => Settled m q w ∧ 0 < m.count ∧ slot = m.tail ∧ tail = m.tail
  | .loadCount slot => Taking m q w slot
  | .storeCount slot count => Taking m q w slot ∧ count = m.count
  | .testLevel slot => Writing m q w (m.buf slot)
  | .readTimestamp slot =>
    Writing m q w (m.buf slot) ∧ (m.buf slot).level.value ≤ m.verbosity.value
  | .readTask slot timestamp =>
    Writing m q w (m.buf slot) ∧ (m.buf slot).level.value ≤ m.verbosity.value ∧
      timestamp = (m.buf slot).timestamp
  | .readText slot timestamp task =>
    Writing m q w (m.buf slot) ∧ (m.buf slot).level.value ≤ m.verbosity.value ∧
      timestamp = (m.buf slot).timestamp ∧ task = (m.buf slot).task
  | .writeLine timestamp task text => ∃ x, Writing m q w x ∧ x.level.value ≤ m.verbosity.value ∧
      timestamp = x.timestamp ∧ task = x.task ∧ text = x.text

def Clearing (m : TelemetryLogger) (q : Queue Entry) (w : List (List UInt8)) : Clear → Prop
  | .storeHead => w = lines m.verbosity q.delivered
  | .storeTail => m.head = 0 ∧ w = lines m.verbosity q.delivered
  | .storeCount => m.head = 0 ∧ m.tail = 0 ∧ w = lines m.verbosity q.delivered

def Doing (m : TelemetryLogger) (q : Queue Entry) (w : List (List UInt8)) : Option Body → Prop
  | none => Settled m q w
  | some (.log e place) => Logging m q.held e place ∧ w = lines m.verbosity q.delivered
  | some (.drain place) => Draining m q w place
  | some (.clear place) => Clearing m q w place

theorem lines_snoc (verbosity : Verbosity) (es : List Entry) (x : Entry) :
    lines verbosity (es ++ [x]) = lines verbosity es ++
      if x.level.value ≤ verbosity.value then [x.line] else [] := by
  rw [lines, List.filter_append, List.map_append]
  split_ifs with h <;> simp [lines, h]

theorem storeTail_taking (m : TelemetryLogger) (q : Queue Entry) (w : List (List UInt8))
    (h : Settled m q w) (hcount : 0 < m.count) :
    Taking { m with tail := (m.tail+1) % kCapacity } q w m.tail := by
  have hlen := h.holds.count
  have hring := h.holds.ring
  rcases hq : q.held with _ | ⟨x, rest⟩
  · rw [hq] at hlen
    exact absurd hlen (Nat.pos_iff_ne_zero.mp hcount)
  · rw [hq] at hring
    refine ⟨?_, ?_, hlen, h.written⟩ <;> rw [hq]
    · exact ring_tail m x rest hring
    · have hslot := hring.slots 0 (Nat.zero_lt_succ _)
      rw [Nat.add_zero, Nat.mod_eq_of_lt hring.tail] at hslot
      exact hslot

theorem storeCount_writing (m : TelemetryLogger) (l : List (Operation Entry))
    (w : List (List UInt8)) (slot : ℕ) (h : Taking m (play kCapacity l) w slot) :
    Writing { m with count := (m.count+sizeValues-1) % sizeValues }
      (play kCapacity (l ++ [.pop])) w (m.buf slot) := by
  have hring := h.ring
  have hcount := h.count
  have hfirst := h.first
  have hlen := play_length kCapacity l
  rw [play_snoc]
  rcases hq : (play kCapacity l).held with _ | ⟨x, rest⟩
  · rw [hq] at hfirst
    cases hfirst
  · rw [hq] at hring hcount hfirst hlen
    have hdecrement : (m.count+sizeValues-1) % sizeValues = rest.length := by
      rw [hcount, List.length_cons, Nat.add_right_comm, Nat.add_sub_cancel, Nat.add_mod_right]
      rw [List.length_cons] at hlen
      exact Nat.mod_eq_of_lt (Nat.lt_of_lt_of_le hlen (by decide))
    refine ⟨⟨?_, ?_⟩, ⟨(play kCapacity l).delivered, ?_, h.written⟩⟩ <;> simp only [apply, hq]
    · exact ⟨hring.capacity, hring.tail, hring.head, hring.slots⟩
    · exact hdecrement
    · rw [hfirst]
      rfl

theorem doing_quiet (m : TelemetryLogger) (l : List (Operation Entry)) (w : List (List UInt8))
    (next : Option Body) (h : Doing m (play kCapacity l) w next) :
    Doing m (play kCapacity (l ++ [])) (w ++ []) next := by
  rw [List.append_nil, List.append_nil]
  exact h

theorem drain_step (m : TelemetryLogger) (l : List (Operation Entry)) (w : List (List UInt8))
    (place : Drain) (h : Draining m (play kCapacity l) w place) :
    Doing (drainStep place m).1 (play kCapacity (l ++ bodyEffect (.drain place)))
      (w ++ bodyLine (.drain place)) ((drainStep place m).2.map .drain) := by
  cases place with
  | testCount =>
    apply doing_quiet
    by_cases hcount : 0 < m.count
    · simp only [drainStep, if_pos hcount]
      exact ⟨h, hcount⟩
    · simp only [drainStep, if_neg hcount]
      exact h
  | loadSlot =>
    apply doing_quiet
    exact ⟨h.1, h.2, rfl⟩
  | loadTail slot =>
    obtain ⟨hsettled, hcount, rfl⟩ := h
    apply doing_quiet
    exact ⟨hsettled, hcount, rfl, rfl⟩
  | storeTail slot tail =>
    obtain ⟨hsettled, hcount, rfl, rfl⟩ := h
    apply doing_quiet
    exact storeTail_taking m _ w hsettled hcount
  | loadCount slot =>
    apply doing_quiet
    exact ⟨h, rfl⟩
  | storeCount slot count =>
    obtain ⟨htaking, rfl⟩ := h
    change Writing _ _ (w ++ []) _
    rw [List.append_nil]
    exact storeCount_writing m l w slot htaking
  | testLevel slot =>
    apply doing_quiet
    obtain ⟨done, hdone, hw⟩ := h.last
    by_cases hlevel : m.verbosity.value < (m.buf slot).level.value
    · have hsettled : Settled m (play kCapacity l) w := by
        refine ⟨h.holds, ?_⟩
        rw [hw, hdone, lines_snoc, if_neg (Nat.not_le_of_lt hlevel), List.append_nil]
      simp only [drainStep, if_pos hlevel]
      exact hsettled
    · simp only [drainStep, if_neg hlevel]
      exact ⟨h, Nat.le_of_not_lt hlevel⟩
  | readTimestamp slot =>
    apply doing_quiet
    exact ⟨h.1, h.2, rfl⟩
  | readTask slot timestamp =>
    obtain ⟨hwriting, hlevel, htime⟩ := h
    apply doing_quiet
    exact ⟨hwriting, hlevel, htime, rfl⟩
  | readText slot timestamp task =>
    obtain ⟨hwriting, hlevel, htime, htask⟩ := h
    apply doing_quiet
    exact ⟨m.buf slot, hwriting, hlevel, htime, htask, rfl⟩
  | writeLine timestamp task text =>
    obtain ⟨x, hwriting, hlevel, rfl, rfl, rfl⟩ := h
    obtain ⟨done, hdone, hw⟩ := hwriting.last
    change Settled m (play kCapacity (l ++ [])) (w ++ [format x.timestamp x.task x.text])
    rw [List.append_nil, format_line]
    refine ⟨hwriting.holds, ?_⟩
    rw [hw, hdone, lines_snoc, if_pos hlevel]

theorem log_step (m : TelemetryLogger) (l : List (Operation Entry)) (w : List (List UInt8))
    (e : Entry) (place : Log) (h : Logging m (play kCapacity l).held e place)
    (hw : w = lines m.verbosity (play kCapacity l).delivered) :
    Doing (logStep e place m).1 (play kCapacity (l ++ bodyEffect (.log e place)))
      (w ++ bodyLine (.log e place)) ((logStep e place m).2.map (Body.log e)) := by
  cases place with
  | testCount =>
    apply doing_quiet
    have hcount := h.count
    by_cases hfull : m.count = kCapacity
    · simp only [logStep, if_pos hfull]
      exact ⟨⟨h, hcount.symm.trans hfull⟩, hw⟩
    · simp only [logStep, if_neg hfull]
      exact ⟨⟨h, Nat.lt_of_le_of_ne h.ring.capacity (hcount ▸ hfull)⟩, hw⟩
  | loadTail =>
    apply doing_quiet
    exact ⟨⟨h.1, h.2, rfl⟩, hw⟩
  | storeTail tail =>
    obtain ⟨hholds, hfull, rfl⟩ := h
    apply doing_quiet
    exact ⟨room_full m _ hholds hfull, hw⟩
  | loadCount =>
    apply doing_quiet
    exact ⟨⟨h.1, h.2, rfl⟩, hw⟩
  | storeCount count =>
    obtain ⟨hholds, hfree, rfl⟩ := h
    apply doing_quiet
    exact ⟨room_free m _ hholds hfree, hw⟩
  | loadSlot =>
    apply doing_quiet
    exact ⟨⟨h, rfl⟩, hw⟩
  | writeTimestamp slot =>
    obtain ⟨hroom, rfl⟩ := h
    apply doing_quiet
    exact ⟨⟨room_write m _ _ hroom, rfl, by simp [logStep]⟩, hw⟩
  | writeTask slot =>
    obtain ⟨hroom, rfl, htime⟩ := h
    apply doing_quiet
    exact ⟨⟨room_write m _ _ hroom, rfl, by simp [logStep, htime]⟩, hw⟩
  | writeLevel slot =>
    obtain ⟨hroom, rfl, htime, htask⟩ := h
    apply doing_quiet
    exact ⟨⟨room_write m _ _ hroom, rfl, by simp [logStep, htime, htask]⟩, hw⟩
  | writeText slot =>
    obtain ⟨hroom, rfl, htime, htask, hlevel⟩ := h
    apply doing_quiet
    exact ⟨⟨room_write m _ _ hroom, by simp [logStep, htime, htask, hlevel]⟩, hw⟩
  | loadHead =>
    apply doing_quiet
    exact ⟨⟨h.1, h.2, rfl⟩, hw⟩
  | storeHead head =>
    obtain ⟨hroom, he, rfl⟩ := h
    change Settled _ (play kCapacity (l ++ [.push e])) (w ++ [])
    rw [List.append_nil, play_snoc]
    exact ⟨storeHead_holds m _ e hroom he (play_length kCapacity l), hw⟩

theorem clear_step (m : TelemetryLogger) (l : List (Operation Entry)) (w : List (List UInt8))
    (place : Clear) (h : Clearing m (play kCapacity l) w place) :
    Doing (clearStep place m).1 (play kCapacity (l ++ bodyEffect (.clear place)))
      (w ++ bodyLine (.clear place)) ((clearStep place m).2.map .clear) := by
  cases place with
  | storeHead =>
    apply doing_quiet
    exact ⟨rfl, h⟩
  | storeTail =>
    apply doing_quiet
    exact ⟨h.1, rfl, h.2⟩
  | storeCount =>
    obtain ⟨hhead, htail, hw⟩ := h
    change Settled _ (play kCapacity (l ++ [.clear])) (w ++ [])
    rw [List.append_nil, play_snoc]
    refine ⟨⟨⟨Nat.zero_le _, htail ▸ by decide, ?_, fun i hi => absurd hi (Nat.not_lt_zero i)⟩, rfl⟩,
      hw⟩
    change m.head = (m.tail+0) % kCapacity
    rw [hhead, htail]
    rfl

theorem body_step (m : TelemetryLogger) (l : List (Operation Entry)) (w : List (List UInt8))
    (body : Body) (h : Doing m (play kCapacity l) w (some body)) :
    Doing (bodyStep body m).1 (play kCapacity (l ++ bodyEffect body)) (w ++ bodyLine body)
      (bodyStep body m).2 := by
  cases body with
  | log e place => exact log_step m l w e place h.1 h.2
  | drain place => exact drain_step m l w place h
  | clear place => exact clear_step m l w place h

def Call.Locks : Call → Prop
  | .lock _ => True
  | _ => False

def Call.body : Call → Option Body
  | .inside body => some body
  | _ => none

/-- A call that tries to lock the mutex finds it free. -/
def FindsFree (s : State) : Action → Prop
  | .step k => (s.call k).Locks → s.owner = none
  | _ => True

def Body.Begins : Body → Prop
  | .log _ place => place = .testCount
  | .drain place => place = .testCount
  | .clear place => place = .storeHead

structure Inv (s : State) : Prop where
  owner : ∀ k, (s.call k).Inside ↔ s.owner = some k
  owned : ∀ r ∈ s.releases, r.owner = some r.caller
  begins : ∀ k body, s.call k = .lock body → body.Begins
  doing : Doing s.logger (play kCapacity s.effects) s.written
    (s.owner.bind (fun k => (s.call k).body))

theorem boot_inv (verbosity : Verbosity) : Inv (boot verbosity) where
  owner := by simp [boot, Call.Inside]
  owned := nofun
  begins := nofun
  doing := ⟨⟨⟨Nat.zero_le _, Nat.zero_lt_succ _, rfl, nofun⟩, rfl⟩, rfl⟩

theorem begins_doing (m : TelemetryLogger) (q : Queue Entry) (w : List (List UInt8)) (body : Body)
    (hbody : body.Begins) (h : Settled m q w) : Doing m q w (some body) := by
  cases body with
  | log e place =>
    obtain rfl : place = .testCount := hbody
    exact ⟨h.holds, h.written⟩
  | drain place =>
    obtain rfl : place = .testCount := hbody
    exact h
  | clear place =>
    obtain rfl : place = .storeHead := hbody
    exact h.written

theorem goto_call (s : State) (k j : ℕ) (call : Call) (h : j ≠ k) :
    (s.goto k call).call j = s.call j := by
  simp [State.goto, h]

@[simp] theorem goto_self (s : State) (k : ℕ) (call : Call) : (s.goto k call).call k = call :=
  Function.update_self ..

theorem goto_outside (s : State) (k : ℕ) (call : Call) (hbefore : ¬ (s.call k).Inside)
    (hafter : ¬ call.Inside) (hbegins : ∀ body, call = .lock body → body.Begins) (h : Inv s) :
    Inv (s.goto k call) := by
  have hne : s.owner ≠ some k := fun hk => hbefore ((h.owner k).mpr hk)
  refine ⟨fun j => ?_, h.owned, fun j body hj => ?_, ?_⟩
  · by_cases hjk : j = k
    · subst hjk
      rw [goto_self]
      exact iff_of_false hafter hne
    · rw [goto_call s k j call hjk]
      exact h.owner j
  · by_cases hjk : j = k
    · subst hjk
      exact hbegins body ((goto_self s j call).symm.trans hj)
    · exact h.begins j body ((goto_call s k j call hjk).symm.trans hj)
  · have hdoing := h.doing
    rcases howner : s.owner with _ | j
    · rw [howner] at hdoing
      simpa [State.goto, howner] using hdoing
    · rw [howner] at hdoing
      have hjk : j ≠ k := fun heq => hne (howner.trans (congrArg some heq))
      simpa [State.goto, howner, hjk] using hdoing

theorem enter_inv (s : State) (k : ℕ) (call : Call) (hafter : ¬ call.Inside)
    (hbegins : ∀ body, call = .lock body → body.Begins) (h : Inv s) : Inv (s.enter k call) := by
  rw [State.enter]
  split
  · next hidle => exact goto_outside s k call (by simp [hidle, Call.Inside]) hafter hbegins h
  · exact h

theorem lock_inv (s : State) (k : ℕ) (body : Body) (hk : s.call k = .lock body)
    (hfree : s.owner = none) (h : Inv s) : Inv (stepCall s k) := by
  have hdoing := h.doing
  rw [hfree] at hdoing
  have hstep : stepCall s k = { s with owner := some k }.goto k (.inside body) := by
    simp only [stepCall, hk, hfree]
    rfl
  rw [hstep]
  refine ⟨fun j => ?_, h.owned, fun j body' hj => ?_, ?_⟩
  · by_cases hjk : j = k
    · subst hjk
      simp [State.goto, Call.Inside]
    · rw [goto_call _ k j _ hjk]
      have hj : ¬ (s.call j).Inside := by simp [h.owner j, hfree]
      exact iff_of_false hj (fun heq => hjk (Option.some.inj heq).symm)
  · by_cases hjk : j = k
    · subst hjk
      rw [goto_self] at hj
      cases hj
    · exact h.begins j body' ((goto_call _ k j _ hjk).symm.trans hj)
  · have hbegun := begins_doing _ _ _ body (h.begins k body hk) hdoing
    simpa [State.goto, Call.body] using hbegun

theorem inside_inv (s : State) (k : ℕ) (body : Body) (hk : s.call k = .inside body) (h : Inv s) :
    Inv (stepCall s k) := by
  have howner : s.owner = some k := (h.owner k).mp (by simp [hk, Call.Inside])
  have hdoing := h.doing
  rw [howner, Option.bind_some, hk] at hdoing
  have hbody := body_step s.logger s.effects s.written body hdoing
  simp only [stepCall, hk]
  refine ⟨fun j => ?_, h.owned, fun j body' hj => ?_, ?_⟩
  · by_cases hjk : j = k
    · subst hjk
      rw [goto_self]
      refine iff_of_true ?_ howner
      cases (bodyStep body s.logger).2 <;> exact trivial
    · rw [goto_call _ k j _ hjk]
      exact h.owner j
  · by_cases hjk : j = k
    · subst hjk
      rw [goto_self] at hj
      cases hnext : (bodyStep body s.logger).2 <;> rw [hnext] at hj <;> cases hj
    · exact h.begins j body' ((goto_call _ k j _ hjk).symm.trans hj)
  · simp only [State.goto, howner, Option.bind_some, Function.update_self]
    rcases hnext : (bodyStep body s.logger).2 with _ | next <;> rw [hnext] at hbody <;> exact hbody

theorem unlock_inv (s : State) (k : ℕ) (hk : s.call k = .unlock) (h : Inv s) :
    Inv (stepCall s k) := by
  have howner : s.owner = some k := (h.owner k).mp (by simp [hk, Call.Inside])
  have hdoing := h.doing
  rw [howner, Option.bind_some, hk] at hdoing
  simp only [stepCall, hk]
  refine ⟨fun j => ?_, fun r hr => ?_, fun j body hj => ?_, hdoing⟩
  · by_cases hjk : j = k
    · subst hjk
      rw [goto_self]
      exact iff_of_false id nofun
    · rw [goto_call _ k j _ hjk]
      have hj : ¬ (s.call j).Inside := by
        rw [h.owner j, howner]
        exact fun heq => hjk (Option.some.inj heq).symm
      exact iff_of_false hj nofun
  · rcases List.mem_append.mp hr with hr | hr
    · exact h.owned r hr
    · rw [List.mem_singleton.mp hr]
      exact howner
  · by_cases hjk : j = k
    · subst hjk
      rw [goto_self] at hj
      cases hj
    · exact h.begins j body ((goto_call _ k j _ hjk).symm.trans hj)

theorem step_inv (s : State) (a : Action) (ha : FindsFree s a) (h : Inv s) : Inv (step s a) := by
  cases a with
  | log k task text level timestamp =>
    exact enter_inv s k _ id (by rintro _ ⟨⟩; exact rfl) h
  | drain k writeFn =>
    cases writeFn with
    | false => exact enter_inv s k _ id nofun h
    | true => exact enter_inv s k _ id (by rintro _ ⟨⟩; exact rfl) h
  | clear k => exact enter_inv s k _ id (by rintro _ ⟨⟩; exact rfl) h
  | step k =>
    rw [step]
    cases hk : s.call k with
    | lock body =>
      rw [FindsFree, hk] at ha
      exact lock_inv s k body hk (ha trivial) h
    | inside body => exact inside_inv s k body hk h
    | unlock => exact unlock_inv s k hk h
    | idle => simpa only [stepCall, hk] using h
    | returned => simpa only [stepCall, hk] using h

theorem holds_entries (m : TelemetryLogger) (q : List Entry) (h : Holds m q) : m.entries = q := by
  apply List.ext_getElem?
  intro i
  rw [TelemetryLogger.entries, List.getElem?_map, h.count]
  rcases Nat.lt_or_ge i q.length with hlt | hge
  · rw [List.getElem?_range hlt, h.ring.slots i hlt]
    rfl
  · rw [List.getElem?_eq_none hge, List.getElem?_eq_none (by simpa using hge)]
    rfl

theorem inv_guarded (s : State) (h : Inv s) : Guarded s := by
  refine ⟨fun j k hj hk => ?_, h.owned, fun hnone => ?_⟩
  · exact Option.some.inj (((h.owner j).mp hj).symm.trans ((h.owner k).mp hk))
  · have hfree : s.owner = none := by
      rcases howner : s.owner with _ | k
      · rfl
      · exact absurd ((h.owner k).mpr howner) (hnone k)
    have hsettled := h.doing
    rw [hfree] at hsettled
    have hentries := holds_entries s.logger _ hsettled.holds
    refine ⟨hentries, ?_, hsettled.written⟩
    rw [hentries]
    exact play_conserves kCapacity s.effects

/-- A call that finds the mutex taken comes inside beside its owner. -/
theorem guarded_free (s : State) (a : Action) (h : Inv s) (hguarded : Guarded (step s a)) :
    FindsFree s a := by
  cases a with
  | log k task text level timestamp => trivial
  | drain k writeFn => trivial
  | clear k => trivial
  | step k =>
    intro hlocks
    cases hk : s.call k with
    | lock body =>
      by_contra howned
      obtain ⟨j, hj⟩ := Option.ne_none_iff_exists'.mp howned
      have hinside := (h.owner j).mpr hj
      have hjk : j ≠ k := by
        rintro rfl
        rw [hk] at hinside
        exact hinside
      refine hjk (hguarded.exclusion j k ?_ ?_) <;> simp only [step, stepCall, hk]
      · rw [goto_call _ k j _ hjk]
        exact hinside
      · rw [goto_self]
        trivial
    | inside body => rw [hk] at hlocks; exact hlocks.elim
    | unlock => rw [hk] at hlocks; exact hlocks.elim
    | idle => rw [hk] at hlocks; exact hlocks.elim
    | returned => rw [hk] at hlocks; exact hlocks.elim

/-- Every state of a run is guarded exactly if every call that tries to lock the
mutex finds it free. -/
theorem guarded_iff (verbosity : Verbosity) (as : List Action) :
    (∀ bs, bs <+: as → Guarded (run step (boot verbosity) bs)) ↔
      Along step FindsFree (boot verbosity) as :=
  run_prefixes_iff step Inv Guarded FindsFree inv_guarded step_inv guarded_free (boot verbosity)
    (boot_inv verbosity) as

def stepsOf (k n : ℕ) : List Action := List.replicate n (Action.step k)

def overlappingLogs : List Action :=
  [Action.log 0 .control [0x41] .status 1000, Action.log 1 .comms [0x42] .status 2000] ++
    stepsOf 0 3 ++ stepsOf 1 3 ++ stepsOf 0 7 ++ stepsOf 1 7 ++ stepsOf 0 1 ++ stepsOf 1 2 ++
    stepsOf 0 1

/-- Both logs have returned and one entry is lost, and the second log has unlocked
the mutex of the first. -/
theorem entry_and_mutex_lost :
    pushed (run step (boot .status) overlappingLogs).effects =
      [⟨1000, .control, .status, .copy [0x41]⟩, ⟨2000, .comms, .status, .copy [0x42]⟩] ∧
    (run step (boot .status) overlappingLogs).logger.entries =
      [⟨2000, .comms, .status, .copy [0x42]⟩] ∧
    (run step (boot .status) overlappingLogs).releases = [⟨1, some 0⟩, ⟨0, none⟩] ∧
    ¬ ∀ as, Guarded (run step (boot .status) as) := by
  have hreleases : (run step (boot .status) overlappingLogs).releases =
      [⟨1, some 0⟩, ⟨0, none⟩] := by decide +kernel
  refine ⟨by decide +kernel, by decide +kernel, hreleases, fun h => ?_⟩
  have howned := (h overlappingLogs).owned ⟨1, some 0⟩ (by simp [hreleases])
  cases howned

end SputterOS.Telemetry
