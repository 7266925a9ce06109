import SputterOS.Utils.ErrorLogger

/-!
# Logging from interrupts

The ring is compared with the queue that overwrites its oldest item. Positions
count the entries pushed, and an entry is in the slot of its position. A read
that has found the ring not empty keeps the slot it copies out of the ring until
it stores the tail, which leaves one entry that a log may overwrite meanwhile.
-/

set_option autoImplicit false

namespace SputterOS.ErrorLog
open Foundation.BoundedFifo (ring_inj ring_next ring_full_iff ring_distance)
open Foundation.OverwritingFifo Foundation.Transition

def Call.entry : Call → Option Entry
  | .log e _ => some e
  | .read _ => none

def Read.slot : Read → Option ℕ
  | .loadTail => none
  | .loadHead _ => none
  | .copyCode tail => some tail
  | .copyTimestamp tail _ => some tail
  | .copyValue tail _ _ => some tail
  | .storeTail tail _ => some tail

def reading : List Call → Option Read
  | [] => none
  | .read place::_ => some place
  | .log _ _::rest => reading rest

def copying (calls : List Call) : Option ℕ := (reading calls).bind Read.slot

def Loaded : List Call → Prop
  | .log _ place::_ => place ≠ .loadHead
  | _ => False

/-- A log overwrites an entry only while the slot that a read copies is the tail. -/
def Overwriting (tail : ℕ) (slot : Option ℕ) : Log → Prop
  | .exchange _ _ => ∀ copied ∈ slot, tail = copied
  | _ => True

/-- A read that finds the ring not empty has loaded the tail in force. -/
def TailInForce (m : ErrorLogger) : Read → Prop
  | .loadHead tail => tail = m.head ∨ tail = m.tail
  | _ => True

def Orderly (m : ErrorLogger) : List Call → Prop
  | [] => True
  | .log _ place::rest => Overwriting m.tail (copying rest) place
  | .read place::_ => TailInForce m place

/-- No log comes between the load of the head by another log and its return, and
the reads go on with what they have loaded. -/
def Unpreempted (s : State) : Action → Prop
  | .interrupt _ => ¬ Loaded s.calls
  | .step => Orderly s.logger s.calls
  | _ => True

instance : ∀ calls, Decidable (Loaded calls)
  | [] => inferInstanceAs (Decidable False)
  | .read _::_ => inferInstanceAs (Decidable False)
  | .log _ place::_ => inferInstanceAs (Decidable (place ≠ .loadHead))

instance (tail : ℕ) (slot : Option ℕ) : ∀ place, Decidable (Overwriting tail slot place)
  | .exchange _ _ => @Option.decidableForallMem _ (tail = ·) _ slot
  | .loadHead => inferInstanceAs (Decidable True)
  | .testFull _ => inferInstanceAs (Decidable True)
  | .loadTail _ => inferInstanceAs (Decidable True)
  | .writeCode _ => inferInstanceAs (Decidable True)
  | .writeTimestamp _ => inferInstanceAs (Decidable True)
  | .writeValue _ => inferInstanceAs (Decidable True)
  | .storeHead _ => inferInstanceAs (Decidable True)

instance (m : ErrorLogger) : ∀ place, Decidable (TailInForce m place)
  | .loadHead tail => inferInstanceAs (Decidable (tail = m.head ∨ tail = m.tail))
  | .loadTail => inferInstanceAs (Decidable True)
  | .copyCode _ => inferInstanceAs (Decidable True)
  | .copyTimestamp _ _ => inferInstanceAs (Decidable True)
  | .copyValue _ _ _ => inferInstanceAs (Decidable True)
  | .storeTail _ _ => inferInstanceAs (Decidable True)

instance (m : ErrorLogger) : ∀ calls, Decidable (Orderly m calls)
  | [] => inferInstanceAs (Decidable True)
  | .log _ place::rest => inferInstanceAs (Decidable (Overwriting m.tail (copying rest) place))
  | .read place::_ => inferInstanceAs (Decidable (TailInForce m place))

instance (s : State) : ∀ a, Decidable (Unpreempted s a)
  | .log _ => inferInstanceAs (Decidable True)
  | .read => inferInstanceAs (Decidable True)
  | .interrupt _ => inferInstanceAs (Decidable (¬ Loaded s.calls))
  | .step => inferInstanceAs (Decidable (Orderly s.logger s.calls))

/-- The entries are those of the queue that overwrites its oldest item, for a
history in which every entry logged is pushed once, and what the reads have
returned is what this queue delivers. -/
structure Sound (s : State) (history : List (Operation Entry)) : Prop where
  logged : List.Perm s.logged (pushed history)
  entries : s.logger.entries = (play kCapacity history).held
  returned : s.returned = (play kCapacity history).delivered
  capacity : s.logger.entries.length ≤ kCapacity
  newest : s.logger.entries <:+ pushed history
  lost : List.Perm s.logged (s.returned ++ (play kCapacity history).overwritten ++ s.logger.entries)
  count : s.logger.count = s.logger.entries.length

/-- When no call runs, the logger agrees with the effects of the calls in their
order. -/
def IsrSafe (s : State) : Prop := s.calls = [] → Sound s s.effects

structure Ring (m : ErrorLogger) (items : List Entry) (b n : ℕ) : Prop where
  first : b ≤ items.length
  last : items.length ≤ n
  room : n ≤ b+kSlots
  head : m.head = items.length % kSlots
  tail : m.tail = max b (n-kCapacity) % kSlots
  intact : ∀ j, b ≤ j → j < items.length → items[j]? = some (m.buf (j % kSlots))

def Log.pending : Log → ℕ
  | .loadHead => 0
  | .testFull _ => 0
  | .loadTail _ => 0
  | .exchange _ _ => 0
  | .writeCode _ => 1
  | .writeTimestamp _ => 1
  | .writeValue _ => 1
  | .storeHead _ => 1

def pending : List Call → ℕ
  | .log _ place::_ => place.pending
  | _ => 0

def Logging (m : ErrorLogger) (e : Entry) : Log → Prop
  | .loadHead => True
  | .testFull head => head = m.head
  | .loadTail head => head = m.head ∧ (head+1) % kSlots = m.tail
  | .exchange head expected => head = m.head ∧ (head+1) % kSlots = m.tail ∧ expected = m.tail
  | .writeCode head => head = m.head
  | .writeTimestamp head => head = m.head ∧ (m.buf head).code = e.code
  | .writeValue head =>
    head = m.head ∧ (m.buf head).code = e.code ∧ (m.buf head).timestamp = e.timestamp
  | .storeHead head => head = m.head ∧ m.buf head = e

def Read.Copied (e : Entry) : Read → Prop
  | .copyTimestamp _ code => code = e.code
  | .copyValue _ code timestamp => code = e.code ∧ timestamp = e.timestamp
  | .storeTail _ entry => entry = e
  | _ => True

def Waiting : List Call → Prop
  | [] => True
  | .read _::rest => rest = []
  | .log _ place::rest => place = .loadHead ∧ Waiting rest

def Stacked (m : ErrorLogger) : List Call → Prop
  | .log e place::rest => Logging m e place ∧ Waiting rest
  | calls => Waiting calls

/-- Either every item from a position on is in the queue, or a read has taken the
first of them and copies it. -/
inductive Taken (items : List Entry) (q : Queue Entry) (returned : List Entry) (b : ℕ)
    (place : Option Read) : Prop where
  | none : (∀ p ∈ place, p.slot = none) → q.held = items.drop b → q.delivered = returned →
      Taken items q returned b place
  | first (p : Read) (e : Entry) : place = some p → p.slot = some (b % kSlots) → p.Copied e →
      items[b]? = some e → q.held = items.drop (b+1) → q.delivered = returned ++ [e] →
      Taken items q returned b place

structure Inv (s : State) (b : ℕ) : Prop where
  history : List.Perm s.logged (pushed s.effects ++ s.calls.filterMap Call.entry)
  cleared : (play kCapacity s.effects).cleared = []
  stacked : Stacked s.logger s.calls
  ring : Ring s.logger (pushed s.effects) b ((pushed s.effects).length+pending s.calls)
  taken : Taken (pushed s.effects) (play kCapacity s.effects) s.returned b (reading s.calls)

theorem boot_inv : Inv boot 0 where
  history := List.Perm.refl _
  cleared := rfl
  stacked := trivial
  ring := ⟨Nat.le_refl _, Nat.le_refl _, by decide, rfl, rfl, nofun⟩
  taken := .none nofun rfl rfl

theorem tail_position (m : ErrorLogger) (items : List Entry) (b n : ℕ) (h : Ring m items b n) :
    max b (n-kCapacity) ≤ b+1 ∧ n ≤ max b (n-kCapacity)+kCapacity := by
  have hroom := h.room
  simp only [kSlots, kCapacity] at *
  omega

theorem full_iff (m : ErrorLogger) (items : List Entry) (b : ℕ)
    (h : Ring m items b items.length) :
    (m.head+1) % kSlots = m.tail ↔ items.length = max b (items.length-kCapacity)+kCapacity := by
  obtain ⟨-, hn⟩ := tail_position m items b items.length h
  have hb := h.first
  have hle : max b (items.length-kCapacity) ≤ items.length := by omega
  have hlt : items.length < max b (items.length-kCapacity)+kSlots := by
    simp only [kSlots, kCapacity] at *
    omega
  rw [h.head, h.tail, ring_next, ring_full_iff kSlots _ _ hle hlt]
  simp only [kSlots, kCapacity]
  omega

@[simp] theorem write_head (m : ErrorLogger) (slot : ℕ) (e : Entry) :
    (m.write slot e).head = m.head := rfl

@[simp] theorem write_buf (m : ErrorLogger) (slot : ℕ) (e : Entry) :
    (m.write slot e).buf slot = e := Function.update_self ..

theorem write_other (m : ErrorLogger) (slot j : ℕ) (e : Entry) (h : j ≠ slot) :
    (m.write slot e).buf j = m.buf j := by
  simp [ErrorLogger.write, h]

theorem ring_write (m : ErrorLogger) (items : List Entry) (b : ℕ) (e : Entry)
    (h : Ring m items b (items.length+1)) : Ring (m.write m.head e) items b (items.length+1) := by
  refine ⟨h.first, h.last, h.room, h.head, h.tail, fun j hbj hj => ?_⟩
  have hroom := h.room
  have hslot : j % kSlots ≠ m.head := by
    intro heq
    have hsame := ring_inj kSlots items.length j (by omega) (by omega) (h.head.symm.trans heq.symm)
    omega
  rw [write_other m _ _ e hslot]
  exact h.intact j hbj hj

theorem ring_room (m : ErrorLogger) (items : List Entry) (b : ℕ)
    (h : Ring m items b items.length) (hroom : (m.head+1) % kSlots ≠ m.tail) :
    Ring m items b (items.length+1) := by
  have htail := tail_position m items b items.length h
  have hne := mt (full_iff m items b h).mpr hroom
  have hfirst := h.first
  refine ⟨h.first, by omega, ?_, h.head, ?_, h.intact⟩
  · simp only [kSlots, kCapacity] at *
    omega
  · rw [h.tail]
    congr 1
    simp only [kCapacity] at *
    omega

theorem ring_exchange (m : ErrorLogger) (items : List Entry) (b : ℕ)
    (h : Ring m items b items.length) (hfull : (m.head+1) % kSlots = m.tail)
    (hb : m.tail = b % kSlots) :
    Ring { m with tail := (m.tail+1) % kSlots } items b (items.length+1) := by
  have htail := tail_position m items b items.length h
  have hlen := (full_iff m items b h).mp hfull
  have hmax : max b (items.length-kCapacity) = b := by
    apply ring_inj kSlots _ b (Nat.le_max_left _ _) (by simp only [kSlots, kCapacity] at *; omega)
    rw [← h.tail, hb]
  rw [hmax] at hlen
  refine ⟨h.first, by omega, ?_, h.head, ?_, h.intact⟩
  · rw [hlen]
    exact Nat.le_refl _
  · change (m.tail+1) % kSlots = _
    rw [hb, ring_next]
    congr 1
    omega

theorem logStep_next (m : ErrorLogger) (items : List Entry) (b : ℕ) (e : Entry) (place next : Log)
    (hring : Ring m items b (items.length+place.pending)) (hlog : Logging m e place)
    (htail : ∀ head expected, place = .exchange head expected → m.tail = b % kSlots)
    (h : (logStep e place m).2 = some next) :
    Ring (logStep e place m).1 items b (items.length+next.pending) ∧
      Logging (logStep e place m).1 e next := by
  cases place with
  | loadHead =>
    obtain rfl := Option.some.inj h
    exact ⟨hring, rfl⟩
  | testFull head =>
    obtain rfl : head = m.head := hlog
    obtain rfl := Option.some.inj h
    split
    · next hfull => exact ⟨hring, rfl, hfull⟩
    · next hroom => exact ⟨ring_room m items b hring hroom, rfl⟩
  | loadTail head =>
    obtain ⟨hhead, hfull⟩ := hlog
    obtain rfl := Option.some.inj h
    exact ⟨hring, hhead, hfull, rfl⟩
  | exchange head expected =>
    obtain ⟨hhead, hfull, rfl⟩ := hlog
    obtain rfl := Option.some.inj h
    rw [hhead] at hfull
    simp only [logStep, if_true]
    exact ⟨ring_exchange m items b hring hfull (htail head m.tail rfl), hhead⟩
  | writeCode head =>
    obtain rfl : head = m.head := hlog
    obtain rfl := Option.some.inj h
    exact ⟨ring_write m items b _ hring, rfl, by simp [logStep]⟩
  | writeTimestamp head =>
    obtain ⟨rfl, hcode⟩ := hlog
    obtain rfl := Option.some.inj h
    exact ⟨ring_write m items b _ hring, rfl, by simp [logStep, hcode]⟩
  | writeValue head =>
    obtain ⟨rfl, hcode, htime⟩ := hlog
    obtain rfl := Option.some.inj h
    exact ⟨ring_write m items b _ hring, rfl, by simp [logStep, hcode, htime]⟩
  | storeHead head => cases h

theorem logStep_returns (m : ErrorLogger) (e : Entry) (place : Log)
    (h : (logStep e place m).2 = none) : ∃ head, place = .storeHead head := by
  cases place with
  | storeHead head => exact ⟨head, rfl⟩
  | loadHead => cases h
  | testFull head => cases h
  | loadTail head => cases h
  | exchange head expected => cases h
  | writeCode head => cases h
  | writeTimestamp head => cases h
  | writeValue head => cases h

theorem ring_storeHead (m : ErrorLogger) (items : List Entry) (b : ℕ) (e : Entry)
    (h : Ring m items b (items.length+1)) (hslot : m.buf m.head = e) :
    Ring { m with head := (m.head+1) % kSlots } (items ++ [e]) b (items ++ [e]).length := by
  have hlen : (items ++ [e]).length = items.length+1 := by simp
  rw [hlen]
  refine ⟨by rw [hlen]; exact Nat.le_succ_of_le h.first, by rw [hlen], h.room, ?_, h.tail, ?_⟩
  · change (m.head+1) % kSlots = _
    rw [h.head, ring_next, hlen]
  · intro j hbj hj
    rcases Nat.lt_or_ge j items.length with hlt | hge
    · rw [List.getElem?_append_left hlt]
      exact h.intact j hbj hlt
    · obtain rfl : j = items.length := by omega
      rw [← h.head]
      simp [hslot]

theorem ring_raise (m : ErrorLogger) (items : List Entry) (b : ℕ)
    (h : Ring m items b items.length) :
    Ring m items (max b (items.length-kCapacity)) items.length := by
  have hfirst := h.first
  have hroom := h.room
  refine ⟨by omega, Nat.le_refl _, by omega, h.head, ?_, fun j hbj => h.intact j (by omega)⟩
  rw [h.tail, Nat.max_assoc, Nat.max_self]

theorem taken_free (items : List Entry) (q : Queue Entry) (returned : List Entry) (b : ℕ)
    (place : Option Read) (hplace : ∀ p ∈ place, p.slot = none)
    (h : Taken items q returned b place) : q.held = items.drop b ∧ q.delivered = returned := by
  cases h with
  | none _ hheld hdelivered => exact ⟨hheld, hdelivered⟩
  | first p e hp hslot _ _ _ _ =>
    rw [hplace p hp] at hslot
    cases hslot

theorem taken_room (l : List (Operation Entry)) (b : ℕ)
    (hheld : (play kCapacity l).held = (pushed l).drop b) : (pushed l).length ≤ b+kCapacity := by
  have hlen := play_length kCapacity l
  rw [hheld, List.length_drop] at hlen
  omega

theorem exchange_tail (s : State) (b : ℕ) (e : Entry) (head expected : ℕ) (rest : List Call)
    (hcalls : s.calls = .log e (.exchange head expected)::rest) (h : Inv s b)
    (ha : Orderly s.logger s.calls) : s.logger.tail = b % kSlots := by
  have hring := h.ring
  rw [hcalls] at hring ha
  by_cases hslot : copying s.calls = some (b % kSlots)
  · rw [hcalls] at hslot
    exact ha _ hslot
  · have hheld : (play kCapacity s.effects).held = (pushed s.effects).drop b := by
      cases h.taken with
      | none _ hheld _ => exact hheld
      | first p _ hp hs _ _ _ _ => exact absurd (by rw [copying, hp, Option.bind_some, hs]) hslot
    have hroom := taken_room s.effects b hheld
    rw [hring.tail]
    congr 1
    simp only [pending, Log.pending, kCapacity] at *
    omega

theorem taken_push (m : ErrorLogger) (l : List (Operation Entry)) (returned : List Entry)
    (b : ℕ) (place : Option Read) (e : Entry) (hring : Ring m (pushed l) b ((pushed l).length+1))
    (h : Taken (pushed l) (play kCapacity l) returned b place) :
    ∃ b', (b' = b ∨ b' = max b ((pushed l).length+1-kCapacity)) ∧
      Taken (pushed (l ++ [.push e])) (play kCapacity (l ++ [.push e])) returned b' place := by
  have hfirst := hring.first
  have hroom := hring.room
  cases h with
  | none hplace hheld hdelivered =>
    refine ⟨max b ((pushed l).length+1-kCapacity), Or.inr rfl, ?_⟩
    refine .none hplace ?_ (by rw [play_snoc]; exact hdelivered)
    rw [push_drop kCapacity b l e hheld hfirst, pushed_push]
  | first p x hp hslot hcopied hx hheld hdelivered =>
    have hb : b < (pushed l).length := (List.getElem?_eq_some_iff.mp hx).1
    refine ⟨b, Or.inl rfl, ?_⟩
    refine .first p x hp hslot hcopied ?_ ?_ (by rw [play_snoc]; exact hdelivered)
    · rw [pushed_push, List.getElem?_append_left hb]
      exact hx
    · rw [push_drop kCapacity (b+1) l e hheld hb, pushed_push]
      congr 1
      simp only [kSlots, kCapacity] at *
      omega

theorem waiting_pending (m : ErrorLogger) (calls : List Call) (h : Waiting calls) :
    pending calls = 0 ∧ Stacked m calls := by
  rcases calls with _ | ⟨_ | _, rest⟩
  · exact ⟨rfl, trivial⟩
  · obtain ⟨rfl, hrest⟩ := h
    exact ⟨rfl, trivial, hrest⟩
  · exact ⟨rfl, h⟩

theorem log_inv (s : State) (b : ℕ) (e : Entry) (place : Log) (rest : List Call)
    (hcalls : s.calls = .log e place::rest) (h : Inv s b) (ha : Orderly s.logger s.calls) :
    ∃ b', Inv (stepCall s rest (.log e place)) b' := by
  have hring := h.ring
  have hhistory := h.history
  have htaken := h.taken
  have hstacked := h.stacked
  rw [hcalls] at hring hhistory htaken hstacked
  obtain ⟨hlog, hrest⟩ := hstacked
  rcases hnext : (logStep e place s.logger).2 with _ | next
  · -- the entry is pushed with the store of the head
    obtain ⟨head, rfl⟩ := logStep_returns s.logger e place hnext
    obtain ⟨rfl, hslot⟩ := hlog
    have hpushed := ring_storeHead s.logger (pushed s.effects) b e hring hslot
    obtain ⟨b', hb', htaken'⟩ := taken_push s.logger s.effects s.returned b _ e hring htaken
    obtain ⟨hpending, hstack⟩ :=
      waiting_pending { s.logger with head := (s.logger.head+1) % kSlots } rest hrest
    refine ⟨b', ?_, ?_, hstack, ?_, htaken'⟩
    · refine hhistory.trans ?_
      change List.Perm _ (pushed (s.effects ++ [.push e]) ++ _)
      rw [pushed_push, List.append_assoc]
      exact List.Perm.refl _
    · change (play kCapacity (s.effects ++ [.push e])).cleared = []
      rw [play_snoc]
      exact h.cleared
    · change Ring _ (pushed (s.effects ++ [.push e])) b'
        ((pushed (s.effects ++ [.push e])).length+pending rest)
      rw [pushed_push, hpending]
      rcases hb' with rfl | rfl
      · exact hpushed
      · have hraise := ring_raise _ _ b hpushed
        rw [List.length_append, List.length_singleton] at hraise ⊢
        exact hraise
  · have htail : ∀ head expected, place = .exchange head expected →
        s.logger.tail = b % kSlots := by
      rintro head expected rfl
      exact exchange_tail s b e head expected rest hcalls h ha
    obtain ⟨hring', hlog'⟩ :=
      logStep_next s.logger (pushed s.effects) b e place next hring hlog htail hnext
    refine ⟨b, ?_, ?_, ?_, ?_, ?_⟩
    all_goals simp only [stepCall, hnext, logEffect, List.append_nil]
    · exact hhistory
    · exact h.cleared
    · exact ⟨hlog', hrest⟩
    · exact hring'
    · exact htaken

theorem read_next (s : State) (b : ℕ) (place next : Read) (hcalls : s.calls = [.read place])
    (h : Inv s b) (htaken : Taken (pushed s.effects) (play kCapacity s.effects) s.returned b
      (some next)) : Inv { s with calls := [.read next] } b := by
  have hring := h.ring
  have hhistory := h.history
  rw [hcalls] at hring hhistory
  exact ⟨hhistory, h.cleared, rfl, hring, htaken⟩

/-- A read that has copied so much of the first entry copies the next part of it. -/
theorem copy_next (s : State) (b tail : ℕ) (place next : Read) (hcalls : s.calls = [.read place])
    (hplace : place.slot = some tail) (hnext : next.slot = some tail)
    (hcopied : ∀ e, s.logger.buf tail = e → place.Copied e → next.Copied e) (h : Inv s b) :
    Inv { s with calls := [.read next] } b := by
  have htaken := h.taken
  rw [hcalls] at htaken
  refine read_next s b place next hcalls h ?_
  cases htaken with
  | none hfree _ _ =>
    have hslot := hfree place rfl
    rw [hplace] at hslot
    cases hslot
  | first p e hp hslot hcopy hitem hheld hdelivered =>
    obtain rfl := Option.some.inj hp
    have htail : tail = b % kSlots := Option.some.inj (hplace.symm.trans hslot)
    have hb := (List.getElem?_eq_some_iff.mp hitem).1
    have hbuf := h.ring.intact b (Nat.le_refl b) hb
    rw [hitem, ← htail] at hbuf
    exact .first next e rfl (hnext.trans (htail ▸ rfl))
      (hcopied e (Option.some.inj hbuf).symm hcopy) hitem hheld hdelivered

theorem pop_inv (s : State) (b tail : ℕ) (hcalls : s.calls = [.read (.loadHead tail)])
    (htail : tail = s.logger.tail) (hne : tail ≠ s.logger.head) (h : Inv s b) :
    Inv { s with calls := [.read (.copyCode tail)], effects := s.effects ++ [.pop] } b := by
  have hring := h.ring
  have hhistory := h.history
  have htaken := h.taken
  rw [hcalls] at hring hhistory htaken
  obtain ⟨hheld, hdelivered⟩ := taken_free _ _ _ _ _ (by simp [reading, Read.slot]) htaken
  have hroom := taken_room s.effects b hheld
  have hmax : max b ((pushed s.effects).length-kCapacity) = b := by omega
  have hslot : tail = b % kSlots := by
    rw [htail, hring.tail]
    exact congrArg (· % kSlots) hmax
  have hb : b < (pushed s.effects).length := by
    have hfirst := hring.first
    rcases Nat.lt_or_eq_of_le hfirst with hlt | heq
    · exact hlt
    · rw [hslot, hring.head, heq] at hne
      exact absurd rfl hne
  have hcons := List.drop_eq_getElem_cons hb
  refine ⟨?_, ?_, rfl, ?_, ?_⟩
  · rw [pushed_pop]
    exact hhistory
  · rw [play_snoc]
    exact h.cleared
  · rw [pushed_pop]
    exact hring
  · rw [pushed_pop, play_snoc]
    refine .first (.copyCode tail) _ rfl (congrArg some hslot) trivial
      (List.getElem?_eq_getElem hb) ?_ ?_
    · rw [apply, hheld, hcons, List.tail_cons]
    · rw [apply, hheld, hcons, hdelivered]
      rfl

theorem storeTail_inv (s : State) (b tail : ℕ) (entry : Entry)
    (hcalls : s.calls = [.read (.storeTail tail entry)]) (h : Inv s b) :
    Inv { s with
      logger := { s.logger with tail := (tail+1) % kSlots }
      calls := []
      returned := s.returned ++ [entry] } (b+1) := by
  have hring := h.ring
  have hhistory := h.history
  have htaken := h.taken
  rw [hcalls] at hring hhistory htaken
  cases htaken with
  | none hfree _ _ => cases hfree _ rfl
  | first p e hp hslot hcopied hitem hheld hdelivered =>
    obtain rfl := Option.some.inj hp
    obtain rfl : entry = e := hcopied
    obtain rfl : tail = b % kSlots := Option.some.inj hslot
    have hb := (List.getElem?_eq_some_iff.mp hitem).1
    have hroom := hring.room
    have hlast := hring.last
    refine ⟨hhistory, h.cleared, trivial, ⟨hb, hlast, ?_, hring.head, ?_, ?_⟩, ?_⟩
    · exact Nat.le_trans hroom (by omega)
    · change (b % kSlots+1) % kSlots = _
      rw [ring_next]
      congr 1
      simp only [pending, kSlots, kCapacity] at *
      omega
    · exact fun j hbj => hring.intact j (by omega)
    · exact .none nofun hheld hdelivered

theorem stepCall_next (s : State) (place next : Read)
    (h : readStep place s.logger = (s.logger, .next next)) (heffect : readEffect (.next next) = []) :
    stepCall s [] (.read place) = { s with calls := [.read next] } := by
  simp [stepCall, h, heffect, ReadResult.calls, ReadResult.entry]

theorem read_inv (s : State) (b : ℕ) (place : Read) (rest : List Call)
    (hcalls : s.calls = .read place::rest) (h : Inv s b) (ha : Orderly s.logger s.calls) :
    ∃ b', Inv (stepCall s rest (.read place)) b' := by
  have hrest := h.stacked
  rw [hcalls] at hrest ha
  obtain rfl : rest = [] := hrest
  cases place with
  | loadTail =>
    refine ⟨b, ?_⟩
    have htaken := h.taken
    rw [hcalls] at htaken
    obtain ⟨hheld, hdelivered⟩ := taken_free _ _ _ _ _ (by simp [reading, Read.slot]) htaken
    rw [stepCall_next s _ _ rfl rfl]
    exact read_next s b .loadTail (.loadHead s.logger.tail) hcalls h
      (.none (by simp [Read.slot]) hheld hdelivered)
  | loadHead tail =>
    by_cases hempty : tail = s.logger.head
    · refine ⟨b, ?_⟩
      have hring := h.ring
      have hhistory := h.history
      have htaken := h.taken
      rw [hcalls] at hring hhistory htaken
      obtain ⟨hheld, hdelivered⟩ := taken_free _ _ _ _ _ (by simp [reading, Read.slot]) htaken
      have hnone : Inv { s with calls := [] } b :=
        ⟨hhistory, h.cleared, trivial, hring, .none nofun hheld hdelivered⟩
      simpa [stepCall, readStep, hempty, ReadResult.calls, readEffect, ReadResult.entry] using hnone
    · refine ⟨b, ?_⟩
      have hpop := pop_inv s b tail hcalls (ha.resolve_left hempty) hempty h
      simpa [stepCall, readStep, hempty, ReadResult.calls, readEffect, ReadResult.entry] using hpop
  | copyCode tail =>
    have hnext := copy_next s b tail _ (.copyTimestamp tail (s.logger.buf tail).code) hcalls rfl rfl
      (by rintro e rfl _; rfl) h
    rw [stepCall_next s _ _ rfl rfl]
    exact ⟨b, hnext⟩
  | copyTimestamp tail code =>
    have hnext := copy_next s b tail _ (.copyValue tail code (s.logger.buf tail).timestamp) hcalls
      rfl rfl (by rintro e rfl hcode; exact ⟨hcode, rfl⟩) h
    rw [stepCall_next s _ _ rfl rfl]
    exact ⟨b, hnext⟩
  | copyValue tail code timestamp =>
    have hnext := copy_next s b tail _
      (.storeTail tail ⟨code, timestamp, (s.logger.buf tail).value⟩) hcalls rfl rfl
      (by rintro e rfl ⟨hcode, htime⟩; rw [hcode, htime]; rfl) h
    rw [stepCall_next s _ _ rfl rfl]
    exact ⟨b, hnext⟩
  | storeTail tail entry =>
    refine ⟨b+1, ?_⟩
    have hreturn := storeTail_inv s b tail entry hcalls h
    simpa [stepCall, readStep, ReadResult.calls, readEffect, ReadResult.entry] using hreturn

theorem begin_log (s : State) (b : ℕ) (e : Entry) (hwait : Waiting s.calls) (h : Inv s b) :
    Inv { s with calls := .log e .loadHead::s.calls, logged := s.logged ++ [e] } b := by
  obtain ⟨hpending, -⟩ := waiting_pending s.logger s.calls hwait
  have hring := h.ring
  rw [hpending] at hring
  refine ⟨?_, h.cleared, ⟨trivial, hwait⟩, hring, h.taken⟩
  refine (h.history.append_right [e]).trans ?_
  rw [List.append_assoc]
  exact List.Perm.append_left _ List.perm_append_comm

theorem stacked_waiting (m : ErrorLogger) (calls : List Call) (h : Stacked m calls)
    (hloaded : ¬ Loaded calls) : Waiting calls := by
  rcases calls with _ | ⟨_ | _, rest⟩
  · trivial
  · exact ⟨not_not.mp hloaded, h.2⟩
  · exact h

theorem step_inv (s : State) (a : Action) (ha : Unpreempted s a) (h : ∃ b, Inv s b) :
    ∃ b, Inv (step s a) b := by
  obtain ⟨b, h⟩ := h
  cases a with
  | log e =>
    rw [step]
    split
    · next hcalls =>
      have hbegin := begin_log s b e (by rw [hcalls]; trivial) h
      rw [hcalls] at hbegin
      exact ⟨b, hbegin⟩
    · exact ⟨b, h⟩
  | read =>
    rw [step]
    split
    · next hcalls =>
      have hring := h.ring
      have hhistory := h.history
      have htaken := h.taken
      rw [hcalls] at hring hhistory htaken
      obtain ⟨hheld, hdelivered⟩ := taken_free _ _ _ _ _ (by simp [reading]) htaken
      exact ⟨b, hhistory, h.cleared, rfl, hring,
        .none (by simp [reading, Read.slot]) hheld hdelivered⟩
    · exact ⟨b, h⟩
  | interrupt e => exact ⟨b, begin_log s b e (stacked_waiting s.logger s.calls h.stacked ha) h⟩
  | step =>
    rw [step]
    split
    · exact ⟨b, h⟩
    · next call rest hcalls =>
      cases call with
      | log e place => exact log_inv s b e place rest hcalls h ha
      | read place => exact read_inv s b place rest hcalls h ha

theorem entriesFrom_ring (m : ErrorLogger) (items : List Entry) (b : ℕ)
    (h : Ring m items b items.length) (slots j : ℕ) (hb : b ≤ j) (hj : j ≤ items.length)
    (hlt : items.length < j+kSlots) (hslots : items.length ≤ j+slots) :
    m.entriesFrom slots (j % kSlots) = items.drop j := by
  induction slots generalizing j with
  | zero => exact (List.drop_of_length_le hslots).symm
  | succ slots ih =>
    rw [ErrorLogger.entriesFrom, h.head]
    rcases Nat.lt_or_eq_of_le hj with hless | rfl
    · have hne : j % kSlots ≠ items.length % kSlots := by
        intro heq
        have hsame := ring_inj kSlots items.length j hj hlt heq.symm
        omega
      have hitem := h.intact j hb hless
      rw [List.getElem?_eq_getElem hless] at hitem
      rw [if_neg hne, ring_next, ih (j+1) (by omega) hless (by omega) (by omega),
        ← Option.some.inj hitem]
      exact (List.drop_eq_getElem_cons hless).symm
    · rw [if_pos rfl, List.drop_length]

theorem inv_sound (s : State) (b : ℕ) (hcalls : s.calls = []) (h : Inv s b) :
    Sound s s.effects := by
  have hhistory := h.history
  have hring := h.ring
  have htaken := h.taken
  rw [hcalls] at hhistory hring htaken
  have hlogged : List.Perm s.logged (pushed s.effects) := hhistory.trans (by simp)
  obtain ⟨hheld, hdelivered⟩ := taken_free _ _ _ _ _ (by simp [reading]) htaken
  have hroom := taken_room s.effects b hheld
  have hmax : max b ((pushed s.effects).length-kCapacity) = b := by omega
  have htail : s.logger.tail = b % kSlots := by
    rw [hring.tail]
    exact congrArg (· % kSlots) hmax
  have hlt : (pushed s.effects).length < b+kSlots := Nat.lt_succ_of_le hroom
  have hentries : s.logger.entries = (play kCapacity s.effects).held := by
    rw [ErrorLogger.entries, htail, hheld]
    exact entriesFrom_ring s.logger _ b hring kSlots b (Nat.le_refl b) hring.first hlt
      (Nat.le_of_lt hlt)
  refine ⟨hlogged, hentries, hdelivered.symm, ?_, ?_, ?_, ?_⟩
  · rw [hentries]
    exact play_length kCapacity s.effects
  · rw [hentries]
    exact play_newest kCapacity s.effects
  · have hconserves := play_conserves kCapacity s.effects
    rw [h.cleared, List.append_nil, hdelivered, ← hentries] at hconserves
    exact hlogged.trans hconserves
  · rw [hentries, hheld, List.length_drop, ErrorLogger.count, htail, hring.head]
    exact ring_distance kSlots (pushed s.effects).length b hring.first hlt

/-- Over any run in which no log comes between another's load of the head and its
return and every read goes on with what it has loaded, the logger is the queue
that overwrites its oldest entry. -/
theorem logging_interrupted (as : List Action) (h : Along step Unpreempted boot as) :
    IsrSafe (run step boot as) := by
  intro hcalls
  obtain ⟨b, hb⟩ := run_along step (fun s => ∃ b, Inv s b) Unpreempted step_inv boot
    ⟨0, boot_inv⟩ as h
  exact inv_sound _ b hcalls hb

def entryOf (value : UInt32) : Entry := ⟨.sensorError, 1000, value⟩

def logSteps : List Action := List.replicate 6 Action.step

def interruptedRead : List Action :=
  [Action.log (entryOf 1)] ++ logSteps ++ [Action.read, Action.step, Action.step, Action.step] ++
    [Action.interrupt (entryOf 2)] ++ logSteps ++ List.replicate 3 Action.step

theorem logging_interrupted_read : IsrSafe (run step boot interruptedRead) :=
  logging_interrupted interruptedRead (by decide +kernel)

def interruptedLog : List Action :=
  [Action.log (entryOf 1), Action.step, Action.interrupt (entryOf 2)] ++ logSteps ++
    List.replicate 5 Action.step

/-- The entry of the interrupt is neither held nor returned, and two entries
overwrite none. -/
theorem entry_lost :
    (run step boot interruptedLog).calls = [] ∧
    (run step boot interruptedLog).logged = [entryOf 1, entryOf 2] ∧
    (run step boot interruptedLog).logger.entries = [entryOf 1] ∧
    (run step boot interruptedLog).returned = [] ∧
    (¬ ∃ history, Sound (run step boot interruptedLog) history) ∧
    ¬ ∀ as, IsrSafe (run step boot as) := by
  have hcalls : (run step boot interruptedLog).calls = [] := by decide +kernel
  have hlogged : (run step boot interruptedLog).logged = [entryOf 1, entryOf 2] := by
    decide +kernel
  have hentries : (run step boot interruptedLog).logger.entries = [entryOf 1] := by
    decide +kernel
  have hreturned : (run step boot interruptedLog).returned = [] := by decide +kernel
  have hunsound : ¬ ∃ history, Sound (run step boot interruptedLog) history := by
    rintro ⟨history, h⟩
    have hpushed := h.logged.length_eq
    have hlost := h.lost.length_eq
    rw [hlogged] at hpushed hlost
    have hfits : (pushed history).length ≤ kCapacity := hpushed ▸ by decide
    rw [hreturned, hentries, play_fits kCapacity history hfits] at hlost
    cases hlost
  exact ⟨hcalls, hlogged, hentries, hreturned, hunsound,
    fun h => hunsound ⟨_, h interruptedLog hcalls⟩⟩

end SputterOS.ErrorLog
