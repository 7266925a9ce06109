import SputterOS.Osal.LockFreeQueue

/-!
# Linearizability of the lock-free queue

The indices are the numbers of published and of taken items, reduced to slots.
The invariant relates them to what each party has loaded and to the slots
between them.
-/

set_option autoImplicit false

namespace SputterOS.LockFreeQueue
open Foundation.Linearizability Foundation.BoundedFifo Foundation.Transition

variable {α : Type*}

structure Laid (Capacity : ℕ) (m : Memory α) (written : ℕ → Bool) (items : List α)
    (taken : ℕ) : Prop where
  head : m.head = items.length % kSlots Capacity
  tail : m.tail = taken % kSlots Capacity
  taken_le : taken ≤ items.length
  room : items.length ≤ taken+Capacity
  slots : ∀ k x, taken ≤ k → items[k]? = some x →
    m.buf (k % kSlots Capacity) = x ∧ written (k % kSlots Capacity) = true

def ProducerFacts (Capacity : ℕ) (m : Memory α) (written : ℕ → Bool) (items : List α)
    (taken : ℕ) : Producer α → Prop
  | .pushLoadTail _ head => head = items.length % kSlots Capacity
  | .pushWrite _ head =>
    head = items.length % kSlots Capacity ∧ items.length < taken+Capacity
  | .pushStore cmd head =>
    head = items.length % kSlots Capacity ∧ items.length < taken+Capacity ∧
      m.buf head = cmd ∧ written head = true
  | .sizeLoadTail head => head = items.length % kSlots Capacity
  | _ => True

def ConsumerFacts (Capacity : ℕ) (items : List α) (taken : ℕ) : Consumer α → Prop
  | .popLoadHead tail => tail = taken % kSlots Capacity
  | .popRead tail => tail = taken % kSlots Capacity ∧ taken < items.length
  | .popStore tail cmd => tail = taken % kSlots Capacity ∧ items[taken]? = some cmd
  | .sizeLoadTail head =>
    ∃ p, head = p % kSlots Capacity ∧ taken ≤ p ∧ p ≤ taken+Capacity
  | _ => True

def producerCall : Producer α → Option (Operation α)
  | .pushLoadHead cmd => some (.push cmd)
  | .pushLoadTail cmd _ => some (.push cmd)
  | .pushWrite cmd _ => some (.push cmd)
  | .pushStore cmd _ => some (.push cmd)
  | _ => none

def consumerCall : Consumer α → Option (Operation α)
  | .popLoadTail => some .pop
  | .popLoadHead _ => some .pop
  | .popRead _ => some .pop
  | .popStore _ _ => some .pop
  | _ => none

structure Represents (Capacity : ℕ) (s : State α) (items : List α) (taken : ℕ) : Prop where
  laid : Laid Capacity s.memory s.written items taken
  producer : ProducerFacts Capacity s.memory s.written items taken s.producer
  consumer : ConsumerFacts Capacity items taken s.consumer
  replay : Replay (boundedFifo α Capacity) (outcomes s.history) (items.drop taken)
  accepted : Foundation.BoundedFifo.accepted (outcomes s.history) = items
  pushing : running s.history .producer = producerCall s.producer
  popping : running s.history .consumer = consumerCall s.consumer
  sizes : ∀ n ∈ s.sizes, n ≤ Capacity

def Inv (Capacity : ℕ) (s : State α) : Prop := ∃ items taken, Represents Capacity s items taken

theorem represents_delivered (Capacity : ℕ) (s : State α) (items : List α) (taken : ℕ)
    (h : Represents Capacity s items taken) : s.delivered = items.take taken := by
  have hc := replay_conserves Capacity _ _ h.replay
  rw [h.accepted] at hc
  have htaken : items.take taken ++ items.drop taken = s.delivered ++ items.drop taken := by
    rw [List.take_append_drop]
    exact hc
  exact (List.append_cancel_right htaken).symm

theorem represents_held (Capacity : ℕ) (s : State α) (items : List α) (taken : ℕ)
    (h : Represents Capacity s items taken) : s.held = items.length-taken := by
  have ht := h.laid.taken_le
  rw [State.held, represents_delivered Capacity s items taken h, State.accepted, h.accepted,
    List.length_take]
  omega

theorem laid_size (Capacity : ℕ) (p taken : ℕ) (hle : taken ≤ p) (hroom : p ≤ taken+Capacity) :
    sizeOf Capacity (p % kSlots Capacity) (taken % kSlots Capacity) = p-taken :=
  ring_distance (kSlots Capacity) p taken hle (by rw [kSlots]; omega)

theorem laid_write (Capacity : ℕ) (m : Memory α) (written : ℕ → Bool) (items : List α)
    (taken : ℕ) (cmd : α) (h : Laid Capacity m written items taken)
    (hfree : items.length < taken+Capacity) :
    Laid Capacity { m with buf := Function.update m.buf (items.length % kSlots Capacity) cmd }
      (Function.update written (items.length % kSlots Capacity) true) items taken := by
  refine ⟨h.head, h.tail, h.taken_le, h.room, ?_⟩
  intro k x hk hx
  obtain ⟨hlt, -⟩ := List.getElem?_eq_some_iff.mp hx
  have hne : k % kSlots Capacity ≠ items.length % kSlots Capacity := by
    intro heq
    have hsame := ring_inj (kSlots Capacity) items.length k (by omega) (by rw [kSlots]; omega)
      heq.symm
    omega
  simpa [Function.update_of_ne hne] using h.slots k x hk hx

theorem laid_publish (Capacity : ℕ) (m : Memory α) (written : ℕ → Bool) (items : List α)
    (taken : ℕ) (cmd : α) (h : Laid Capacity m written items taken)
    (hfree : items.length < taken+Capacity)
    (hbuf : m.buf (items.length % kSlots Capacity) = cmd)
    (hwritten : written (items.length % kSlots Capacity) = true) :
    Laid Capacity { m with head := (items.length % kSlots Capacity+1) % kSlots Capacity }
      written (items ++ [cmd]) taken := by
  refine ⟨?_, h.tail, ?_, ?_, ?_⟩
  · rw [ring_next, List.length_append, List.length_singleton]
  · have hle := h.taken_le
    rw [List.length_append, List.length_singleton]
    omega
  · rw [List.length_append, List.length_singleton]
    omega
  · intro k x hk hx
    rcases Nat.lt_or_ge k items.length with hlt | hge
    · rw [List.getElem?_append_left hlt] at hx
      exact h.slots k x hk hx
    · rw [List.getElem?_append_right hge, List.getElem?_singleton] at hx
      split_ifs at hx with h0
      have hk : k = items.length := by omega
      cases hx
      rw [hk]
      exact ⟨hbuf, hwritten⟩

theorem laid_take (Capacity : ℕ) (m : Memory α) (written : ℕ → Bool) (items : List α)
    (taken : ℕ) (h : Laid Capacity m written items taken) (hlt : taken < items.length) :
    Laid Capacity { m with tail := (taken % kSlots Capacity+1) % kSlots Capacity } written items
      (taken+1) := by
  refine ⟨h.head, ring_next _ _, hlt, ?_, ?_⟩
  · have hroom := h.room
    omega
  · intro k x hk hx
    exact h.slots k x (by omega) hx

theorem consumerFacts_publish (Capacity : ℕ) (items : List α) (taken : ℕ) (cmd : α)
    (pc : Consumer α) (h : ConsumerFacts Capacity items taken pc) :
    ConsumerFacts Capacity (items ++ [cmd]) taken pc := by
  cases pc with
  | popRead tail =>
    refine ⟨h.1, ?_⟩
    have hroom := h.2
    rw [List.length_append, List.length_singleton]
    omega
  | popStore tail x =>
    obtain ⟨hlt, -⟩ := List.getElem?_eq_some_iff.mp h.2
    exact ⟨h.1, by rw [List.getElem?_append_left hlt]; exact h.2⟩
  | _ => exact h

theorem producerFacts_take (Capacity : ℕ) (m : Memory α) (tail : ℕ) (written : ℕ → Bool)
    (items : List α) (taken : ℕ) (pc : Producer α)
    (h : ProducerFacts Capacity m written items taken pc) :
    ProducerFacts Capacity { m with tail := tail } written items (taken+1) pc := by
  cases pc with
  | pushWrite cmd head => exact ⟨h.1, by have hroom := h.2; omega⟩
  | pushStore cmd head => exact ⟨h.1, by have hroom := h.2.1; omega, h.2.2⟩
  | _ => exact h

theorem initial_represents [Inhabited α] (Capacity : ℕ) :
    Represents Capacity (initial : State α) [] 0 := by
  refine ⟨⟨by simp [initial], by simp [initial], le_refl _, Nat.zero_le _, by simp⟩,
    trivial, trivial, ?_, rfl, rfl, rfl, by simp [initial]⟩
  exact Replay.start

theorem push_refused (Capacity : ℕ) (s : State α) (items : List α) (taken : ℕ) (cmd : α)
    (head : ℕ) (h : Represents Capacity s items taken) (hp : s.producer = .pushLoadTail cmd head) :
    (head+1) % kSlots Capacity = s.memory.tail ↔ items.length = taken+Capacity := by
  have hh : head = items.length % kSlots Capacity := by
    have hf := h.producer
    rwa [hp] at hf
  have ht := h.laid.taken_le
  have hr := h.laid.room
  rw [hh, ring_next, h.laid.tail, ring_full_iff _ _ _ ht (by rw [kSlots]; omega), kSlots]
  omega

theorem pop_refused (Capacity : ℕ) (s : State α) (items : List α) (taken : ℕ) (tail : ℕ)
    (h : Represents Capacity s items taken) (hp : s.consumer = .popLoadHead tail) :
    tail = s.memory.head ↔ items.length = taken := by
  have hh : tail = taken % kSlots Capacity := by
    have hf := h.consumer
    rwa [hp] at hf
  have ht := h.laid.taken_le
  have hr := h.laid.room
  rw [hh, h.laid.head]
  constructor
  · intro heq
    exact ring_inj _ _ _ ht (by rw [kSlots]; omega) heq.symm
  · intro heq
    rw [heq]

theorem producerStep_represents (Capacity : ℕ) (s : State α) (items : List α) (taken : ℕ)
    (h : Represents Capacity s items taken) :
    Inv Capacity (producerStep Capacity s) := by
  obtain ⟨m, producer, consumer, written, history, sizes⟩ := s
  cases producer with
  | idle => exact ⟨items, taken, h⟩
  | pushLoadHead cmd =>
    exact ⟨items, taken, { h with producer := h.laid.head }⟩
  | pushLoadTail cmd head =>
    have hfull := push_refused Capacity _ items taken cmd head h rfl
    have ht := h.laid.taken_le
    have hr := h.laid.room
    by_cases hf : (head+1) % kSlots Capacity = m.tail
    · have hout := outcomes_respond history Party.producer _ (Result.pushed false) h.pushing
      have hlen : (items.drop taken).length = Capacity := by
        rw [List.length_drop, hfull.mp hf]
        omega
      refine ⟨items, taken, ?_⟩
      simp only [producerStep, produce, hf, if_true, State.respond, recordWrite]
      refine ⟨h.laid, trivial, h.consumer, ?_, ?_, ?_, ?_, h.sizes⟩
      · rw [hout]
        exact Replay.call _ _ _ _ _ h.replay (Apply.refuse _ _ hlen)
      · rw [hout, accepted_snoc]
        simpa [acceptedItem] using h.accepted
      · simp [running_respond, producerCall]
      · simpa [running_respond] using h.popping
    · have hfree : items.length < taken+Capacity := by
        have hnotfull := mt hfull.mpr hf
        omega
      refine ⟨items, taken, ?_⟩
      simp only [producerStep, produce, hf, if_false, State.respond, recordWrite]
      exact { h with producer := ⟨h.producer, hfree⟩ }
  | pushWrite cmd head =>
    obtain ⟨hh, hfree⟩ := h.producer
    subst hh
    have hlaid := laid_write Capacity m written items taken cmd h.laid hfree
    refine ⟨items, taken, { h with laid := hlaid, producer := ⟨rfl, hfree, ?_, ?_⟩ }⟩
    · simp [producerStep, produce, State.respond]
    · simp [producerStep, produce, State.respond, recordWrite]
  | pushStore cmd head =>
    obtain ⟨hh, hfree, hbuf, hwritten⟩ := h.producer
    subst hh
    have ht := h.laid.taken_le
    have hout := outcomes_respond history Party.producer _ (Result.pushed true) h.pushing
    have hlen : (items.drop taken).length < Capacity := by
      rw [List.length_drop]
      omega
    refine ⟨items ++ [cmd], taken, ?_⟩
    simp only [producerStep, produce, State.respond, recordWrite]
    refine ⟨laid_publish Capacity m written items taken cmd h.laid hfree hbuf hwritten, trivial,
      consumerFacts_publish Capacity items taken cmd consumer h.consumer, ?_, ?_, ?_, ?_, h.sizes⟩
    · rw [hout, List.drop_append_of_le_length ht]
      exact Replay.call _ _ _ _ _ h.replay (Apply.accept _ _ hlen)
    · rw [hout, accepted_snoc, h.accepted]
      rfl
    · simp [running_respond, producerCall]
    · simpa [running_respond] using h.popping
  | sizeLoadHead =>
    exact ⟨items, taken, { h with producer := h.laid.head }⟩
  | sizeLoadTail head =>
    have hh : head = items.length % kSlots Capacity := h.producer
    have hsize := laid_size Capacity items.length taken h.laid.taken_le h.laid.room
    refine ⟨items, taken, { h with producer := trivial, sizes := ?_ }⟩
    intro n hn
    rcases List.mem_append.mp hn with hn | hn
    · exact h.sizes n hn
    · have ht : m.tail = taken % kSlots Capacity := h.laid.tail
      have hr := h.laid.room
      rw [List.mem_singleton.mp hn, hh, ht, hsize]
      omega

theorem consumerStep_represents (Capacity : ℕ) (s : State α) (items : List α) (taken : ℕ)
    (h : Represents Capacity s items taken) :
    Inv Capacity (consumerStep Capacity s) := by
  obtain ⟨m, producer, consumer, written, history, sizes⟩ := s
  cases consumer with
  | idle => exact ⟨items, taken, h⟩
  | popLoadTail =>
    exact ⟨items, taken, { h with consumer := h.laid.tail }⟩
  | popLoadHead tail =>
    have hempty := pop_refused Capacity _ items taken tail h rfl
    have ht := h.laid.taken_le
    by_cases he : tail = m.head
    · have hout := outcomes_respond history Party.consumer _ (Result.popped none) h.popping
      have hnil : items.drop taken = [] := List.drop_of_length_le (by rw [hempty.mp he])
      refine ⟨items, taken, ?_⟩
      simp only [consumerStep, consume, he, if_true, State.respond]
      refine ⟨h.laid, h.producer, trivial, ?_, ?_, ?_, ?_, h.sizes⟩
      · have hr := h.replay
        rw [hnil] at hr ⊢
        rw [hout]
        exact Replay.call _ _ _ _ _ hr Apply.empty
      · rw [hout, accepted_snoc]
        simpa [acceptedItem] using h.accepted
      · simpa [running_respond] using h.pushing
      · simp [running_respond, consumerCall]
    · have hlt : taken < items.length := by
        have hnotempty := mt hempty.mpr he
        omega
      refine ⟨items, taken, ?_⟩
      simp only [consumerStep, consume, he, if_false, State.respond]
      exact { h with consumer := ⟨h.consumer, hlt⟩ }
  | popRead tail =>
    obtain ⟨hh, hlt⟩ := h.consumer
    have hslot := h.laid.slots taken _ (le_refl _) (List.getElem?_eq_getElem hlt)
    have hread : items[taken]? = some (m.buf tail) := by
      rw [hh, List.getElem?_eq_getElem hlt, ← hslot.1]
    exact ⟨items, taken, { h with consumer := ⟨hh, hread⟩ }⟩
  | popStore tail cmd =>
    obtain ⟨hh, hget⟩ := h.consumer
    obtain ⟨hlt, hcmd⟩ := List.getElem?_eq_some_iff.mp hget
    subst hh
    have hout := outcomes_respond history Party.consumer _ (Result.popped (some cmd)) h.popping
    refine ⟨items, taken+1, ?_⟩
    simp only [consumerStep, consume, State.respond]
    refine ⟨laid_take Capacity m written items taken h.laid hlt,
      producerFacts_take Capacity m _ written items taken producer h.producer, trivial, ?_, ?_, ?_,
      ?_, h.sizes⟩
    · have hr := h.replay
      rw [List.drop_eq_getElem_cons hlt, hcmd] at hr
      rw [hout]
      exact Replay.call _ _ _ _ _ hr (Apply.deliver _ _)
    · rw [hout, accepted_snoc]
      simpa [acceptedItem] using h.accepted
    · simpa [running_respond] using h.pushing
    · simp [running_respond, consumerCall]
  | sizeLoadHead =>
    have hseen : ConsumerFacts Capacity items taken (.sizeLoadTail m.head) :=
      ⟨items.length, h.laid.head, h.laid.taken_le, h.laid.room⟩
    exact ⟨items, taken, { h with consumer := hseen }⟩
  | sizeLoadTail head =>
    obtain ⟨p, hh, hle, hroom⟩ := h.consumer
    have hsize := laid_size Capacity p taken hle hroom
    refine ⟨items, taken, { h with consumer := trivial, sizes := ?_ }⟩
    intro n hn
    rcases List.mem_append.mp hn with hn | hn
    · exact h.sizes n hn
    · have ht : m.tail = taken % kSlots Capacity := h.laid.tail
      rw [List.mem_singleton.mp hn, hh, ht, hsize]
      omega

theorem step_inv (Capacity : ℕ) (s : State α) (a : Action α) (hs : Inv Capacity s) :
    Inv Capacity (step Capacity s a) := by
  obtain ⟨items, taken, h⟩ := hs
  obtain ⟨m, producer, consumer, written, history, sizes⟩ := s
  cases a with
  | callPush cmd =>
    cases producer with
    | idle =>
      refine ⟨items, taken, h.laid, trivial, h.consumer, ?_, ?_, ?_, ?_, h.sizes⟩
      · simpa [step] using h.replay
      · simpa [step] using h.accepted
      · simp [step, running_invoke, producerCall]
      · simpa [step, running_invoke] using h.popping
    | _ => exact ⟨items, taken, h⟩
  | callProducerSize =>
    cases producer with
    | idle =>
      exact ⟨items, taken, { h with producer := trivial }⟩
    | _ => exact ⟨items, taken, h⟩
  | producerStep => exact producerStep_represents Capacity _ items taken h
  | callPop =>
    cases consumer with
    | idle =>
      refine ⟨items, taken, h.laid, h.producer, trivial, ?_, ?_, ?_, ?_, h.sizes⟩
      · simpa [step] using h.replay
      · simpa [step] using h.accepted
      · simpa [step, running_invoke] using h.pushing
      · simp [step, running_invoke, consumerCall]
    | _ => exact ⟨items, taken, h⟩
  | callConsumerSize =>
    cases consumer with
    | idle =>
      exact ⟨items, taken, { h with consumer := trivial }⟩
    | _ => exact ⟨items, taken, h⟩
  | consumerStep => exact consumerStep_represents Capacity _ items taken h

theorem run_inv [Inhabited α] (Capacity : ℕ) (as : List (Action α)) :
    Inv Capacity (run (step Capacity) initial as) :=
  run_preserves _ _ (step_inv Capacity) _ ⟨[], 0, initial_represents Capacity⟩ as

theorem read_slot_written (Capacity : ℕ) (s : State α) (hs : Inv Capacity s) (i : ℕ)
    (hi : slotRead s.consumer = some i) :
    s.written i = true ∧ slotOpen s.producer ≠ some i := by
  obtain ⟨items, taken, h⟩ := hs
  obtain ⟨m, producer, consumer, written, history, sizes⟩ := s
  cases consumer with
  | popRead tail =>
    obtain ⟨hh, hlt⟩ := h.consumer
    have hr := h.laid.room
    obtain rfl : tail = i := Option.some.inj hi
    have hslot := h.laid.slots taken _ (le_refl _) (List.getElem?_eq_getElem hlt)
    refine ⟨hh ▸ hslot.2, ?_⟩
    have hopen : ∀ head, head = items.length % kSlots Capacity → items.length < taken+Capacity →
        head ≠ tail := by
      intro head h1 h2 heq
      have hsame := ring_inj (kSlots Capacity) items.length taken (by omega) (by rw [kSlots]; omega)
        (by rw [← h1, ← hh, heq])
      omega
    cases producer with
    | pushWrite cmd head =>
      have hp := h.producer
      simpa [slotOpen] using hopen head hp.1 hp.2
    | pushStore cmd head =>
      have hp := h.producer
      simpa [slotOpen] using hopen head hp.1 hp.2.1
    | _ => simp [slotOpen]
  | _ => simp [slotRead] at hi

theorem refused_push_full (Capacity : ℕ) (s : State α) (hs : Inv Capacity s)
    (hr : (produce Capacity s.producer s.memory).2.2 = some (.result (.pushed false))) :
    s.held = Capacity := by
  obtain ⟨items, taken, h⟩ := hs
  have hheld := represents_held Capacity s items taken h
  have ht := h.laid.taken_le
  rcases hp : s.producer with _ | cmd | ⟨cmd, head⟩ | ⟨cmd, head⟩ | ⟨cmd, head⟩ | _ | head
  case pushLoadTail =>
    have hfull := push_refused Capacity s items taken cmd head h hp
    by_cases hf : (head+1) % kSlots Capacity = s.memory.tail
    · have hlen := hfull.mp hf
      omega
    · simp [hp, produce, hf] at hr
  all_goals simp [hp, produce] at hr

theorem refused_pop_empty (Capacity : ℕ) (s : State α) (hs : Inv Capacity s)
    (hr : (consume Capacity s.consumer s.memory).2.2 = some (.result (.popped none))) :
    s.held = 0 := by
  obtain ⟨items, taken, h⟩ := hs
  have hheld := represents_held Capacity s items taken h
  rcases hp : s.consumer with _ | _ | tail | tail | ⟨tail, cmd⟩ | _ | head
  case popLoadHead =>
    have hempty := pop_refused Capacity s items taken tail h hp
    by_cases he : tail = s.memory.head
    · have hlen := hempty.mp he
      omega
    · simp [hp, consume, he] at hr
  all_goals simp [hp, consume] at hr

def Action.ofProducer : Action α → Prop
  | .callPush _ => True
  | .callProducerSize => True
  | .producerStep => True
  | _ => False

def poppedItem : Option (Return α) → List α
  | some (.result (.popped (some x))) => [x]
  | _ => []

theorem ofProducer_consumer (Capacity : ℕ) (s : State α) (a : Action α) (ha : a.ofProducer) :
    (step Capacity s a).consumer = s.consumer := by
  obtain ⟨m, producer, consumer, written, history, sizes⟩ := s
  cases a with
  | callPush cmd => cases producer <;> rfl
  | callProducerSize => cases producer <;> rfl
  | producerStep =>
    simp only [step, producerStep]
    rcases (produce Capacity producer m).2.2 with _ | r | n <;> rfl
  | _ => exact absurd ha id

theorem ofProducer_delivered (Capacity : ℕ) (s : State α) (hs : Inv Capacity s) (a : Action α)
    (ha : a.ofProducer) : (step Capacity s a).delivered = s.delivered := by
  obtain ⟨items, taken, h⟩ := hs
  have hpush := h.pushing
  obtain ⟨m, producer, consumer, written, history, sizes⟩ := s
  cases a with
  | callPush cmd => cases producer <;> simp [step, State.delivered]
  | callProducerSize => cases producer <;> rfl
  | producerStep =>
    cases producer with
    | pushLoadTail cmd head =>
      simp only [step, producerStep, produce]
      split_ifs
      · simp [State.respond, State.delivered, outcomes_respond history _ _ _ hpush, deliveredItem]
      · rfl
    | pushStore cmd head =>
      simp [step, producerStep, produce, State.respond, State.delivered,
        outcomes_respond history _ _ _ hpush, deliveredItem]
    | _ => rfl
  | _ => exact absurd ha id

theorem callPop_delivered (Capacity : ℕ) (s : State α) :
    (step Capacity s .callPop).delivered = s.delivered := by
  obtain ⟨m, producer, consumer, written, history, sizes⟩ := s
  cases consumer <;> simp [step, State.delivered]

theorem consumerStep_delivered (Capacity : ℕ) (s : State α) (hs : Inv Capacity s) :
    (step Capacity s .consumerStep).delivered =
      s.delivered ++ poppedItem (consume Capacity s.consumer s.memory).2.2 := by
  obtain ⟨items, taken, h⟩ := hs
  have hpop := h.popping
  obtain ⟨m, producer, consumer, written, history, sizes⟩ := s
  cases consumer with
  | popLoadHead tail =>
    simp only [step, consumerStep, consume]
    split_ifs
    · simp [State.respond, State.delivered, outcomes_respond history _ _ _ hpop, deliveredItem,
        poppedItem]
    · simp [State.respond, State.delivered, poppedItem]
  | popStore tail cmd =>
    simp [step, consumerStep, consume, State.respond, State.delivered,
      outcomes_respond history _ _ _ hpop, deliveredItem, poppedItem]
  | _ => simp [step, consumerStep, consume, State.respond, State.delivered, poppedItem]

theorem consumerStep_consumer (Capacity : ℕ) (s : State α) :
    (step Capacity s .consumerStep).consumer = (consume Capacity s.consumer s.memory).2.1 := by
  simp only [step, consumerStep]
  rcases (consume Capacity s.consumer s.memory).2.2 with _ | r | n <;> rfl

theorem consume_pop (Capacity : ℕ) (m : Memory α) (pc : Consumer α)
    (hp : consumerCall pc = some .pop) :
    ((consume Capacity pc m).2.2 = none ∧
        consumerCall (consume Capacity pc m).2.1 = some .pop) ∨
      ∃ item, (consume Capacity pc m).2.2 = some (.result (.popped item)) ∧
        (consume Capacity pc m).2.1 = .idle := by
  cases pc with
  | popLoadHead tail =>
    simp only [consume]
    split_ifs
    · exact Or.inr ⟨none, rfl, rfl⟩
    · exact Or.inl ⟨rfl, rfl⟩
  | popStore tail cmd => exact Or.inr ⟨some cmd, rfl, rfl⟩
  | popLoadTail => exact Or.inl ⟨rfl, rfl⟩
  | popRead tail => exact Or.inl ⟨rfl, rfl⟩
  | _ => simp [consumerCall] at hp

/-- In every interleaving the history linearizes to the bounded queue, what is
delivered is a prefix of what was accepted, a slot is read only when it is
written and closed, a call is refused only at an instant at which the queue is
full or empty, and no size exceeds the capacity. -/
theorem queue_linearizable [Inhabited α] (Capacity : ℕ) (as : List (Action α)) :
    Linearizable (boundedFifo α Capacity) (run (step Capacity) initial as).history ∧
    (run (step Capacity) initial as).delivered <+: (run (step Capacity) initial as).accepted ∧
    (∀ i, slotRead (run (step Capacity) initial as).consumer = some i →
      (run (step Capacity) initial as).written i = true ∧
        slotOpen (run (step Capacity) initial as).producer ≠ some i) ∧
    ((produce Capacity (run (step Capacity) initial as).producer
        (run (step Capacity) initial as).memory).2.2 = some (.result (.pushed false)) →
      (run (step Capacity) initial as).held = Capacity) ∧
    ((consume Capacity (run (step Capacity) initial as).consumer
        (run (step Capacity) initial as).memory).2.2 = some (.result (.popped none)) →
      (run (step Capacity) initial as).held = 0) ∧
    ∀ n ∈ (run (step Capacity) initial as).sizes, n ≤ Capacity := by
  have hinv := run_inv Capacity as
  refine ⟨?_, ?_, read_slot_written Capacity _ hinv, refused_push_full Capacity _ hinv,
    refused_pop_empty Capacity _ hinv, ?_⟩
  · obtain ⟨items, taken, h⟩ := hinv
    exact linearizable_of_responses _ _ _ h.replay
  · obtain ⟨items, taken, h⟩ := hinv
    exact delivered_accepted Capacity _ _ h.replay
  · obtain ⟨items, taken, h⟩ := hinv
    exact h.sizes

end SputterOS.LockFreeQueue
