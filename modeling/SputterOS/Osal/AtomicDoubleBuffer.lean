import SputterOS.Foundation.Transition
import Mathlib.Data.List.TakeDrop
import Mathlib.Logic.Function.Basic

/-!
# The double buffer for the latest value

A value of `n` words is copied word by word. The writer fills the slot that is
not published and then publishes it, and the reader copies the slot it found
published. Their steps interleave in any order, so the writer can come back to
a slot whose copy is not finished. The published values and the answers are not
read by the code.
-/

set_option autoImplicit false

namespace SputterOS.DoubleBuffer
open Foundation.Transition

variable {α : Type*}

def words (n : ℕ) (value : ℕ → α) : List α := (List.range n).map value

structure AtomicDoubleBuffer (α : Type*) where
  buffers : ℕ → ℕ → α
  writeIndex : ℕ

inductive Write (α : Type*) where
  | idle
  | loadIndex (value : ℕ → α)
  | copy (value : ℕ → α) (next i : ℕ)

/-- A read holds how many writes had completed when it began. -/
inductive Read (α : Type*) where
  | idle
  | loadIndex (completed : ℕ)
  | copy (completed idx : ℕ) (copied : List α)

/-- What a read returned, and the value of the last write completed before it
began with all that were published from then to its return. -/
structure Answer (α : Type*) where
  words : List α
  recent : List (ℕ → α)

structure State (α : Type*) where
  memory : AtomicDoubleBuffer α
  writer : Write α
  reader : Read α
  published : List (ℕ → α)
  answers : List (Answer α)

inductive Action (α : Type*) where
  | write (value : ℕ → α)
  | writerStep
  | read
  | readerStep

def boot (value : ℕ → α) : State α := ⟨⟨fun _ => value, 0⟩, .idle, .idle, [value], []⟩

def AtomicDoubleBuffer.setWord (m : AtomicDoubleBuffer α) (b i : ℕ) (word : α) :
    AtomicDoubleBuffer α :=
  { m with buffers := Function.update m.buffers b (Function.update (m.buffers b) i word) }

def stepWriter (n : ℕ) (s : State α) : State α :=
  match s.writer with
  | .idle => s
  | .loadIndex value => { s with writer := .copy value (s.memory.writeIndex ^^^ 1) 0 }
  | .copy value next i =>
    if i < n then
      { s with memory := s.memory.setWord next i (value i), writer := .copy value next (i+1) }
    else
      { s with
        memory := { s.memory with writeIndex := next }
        writer := .idle
        published := s.published ++ [value] }

def stepReader (n : ℕ) (s : State α) : State α :=
  match s.reader with
  | .idle => s
  | .loadIndex completed => { s with reader := .copy completed s.memory.writeIndex [] }
  | .copy completed idx copied =>
    if copied.length < n then
      { s with
        reader := .copy completed idx (copied ++ [s.memory.buffers idx copied.length]) }
    else
      { s with
        reader := .idle
        answers := s.answers ++ [⟨copied, s.published.drop completed⟩] }

/-- A party begins a call only when it is not inside another one. -/
def step (n : ℕ) (s : State α) : Action α → State α
  | .write value =>
    match s.writer with
    | .idle => { s with writer := .loadIndex value }
    | _ => s
  | .writerStep => stepWriter n s
  | .read =>
    match s.reader with
    | .idle => { s with reader := .loadIndex (s.published.length-1) }
    | _ => s
  | .readerStep => stepReader n s

/-- Every read returned one whole value, no older than the last write completed
before it began. -/
def Untorn (n : ℕ) (s : State α) : Prop := ∀ x ∈ s.answers, x.words ∈ x.recent.map (words n)

def Clear (n : ℕ) : Write α → Read α → Prop
  | .copy _ next i, .copy _ idx copied => i < n → next = idx → i < copied.length
  | _, _ => True

/-- The writer stores no word that the reader has yet to copy. -/
def Undisturbed (n : ℕ) (s : State α) : Action α → Prop
  | .writerStep => Clear n s.writer s.reader
  | _ => True

instance (n : ℕ) : ∀ (writer : Write α) (reader : Read α), Decidable (Clear n writer reader)
  | .copy _ next i, .copy _ idx copied =>
    inferInstanceAs (Decidable (i < n → next = idx → i < copied.length))
  | .idle, _ => inferInstanceAs (Decidable True)
  | .loadIndex _, _ => inferInstanceAs (Decidable True)
  | .copy _ _ _, .idle => inferInstanceAs (Decidable True)
  | .copy _ _ _, .loadIndex _ => inferInstanceAs (Decidable True)

instance (n : ℕ) (s : State α) : ∀ a, Decidable (Undisturbed n s a)
  | .writerStep => inferInstanceAs (Decidable (Clear n s.writer s.reader))
  | .write _ => inferInstanceAs (Decidable True)
  | .read => inferInstanceAs (Decidable True)
  | .readerStep => inferInstanceAs (Decidable True)

/-- The published slot holds the last published value, and the writer fills the
other one. -/
structure Published (n : ℕ) (m : AtomicDoubleBuffer α) (writer : Write α)
    (published : List (ℕ → α)) : Prop where
  index : m.writeIndex < 2
  last : ∃ value, published.getLast? = some value ∧ ∀ i < n, m.buffers m.writeIndex i = value i
  next : ∀ value next i, writer = .copy value next i →
    next = m.writeIndex ^^^ 1 ∧ ∀ j < i, j < n → m.buffers next j = value j

def Reading (n : ℕ) (m : AtomicDoubleBuffer α) (published : List (ℕ → α)) : Read α → Prop
  | .idle => True
  | .loadIndex completed => completed < published.length
  | .copy completed idx copied =>
    copied.length ≤ n ∧ ∃ value ∈ published.drop completed, copied = words copied.length value ∧
      ∀ i, copied.length ≤ i → i < n → m.buffers idx i = value i

structure Inv (n : ℕ) (s : State α) : Prop where
  published : Published n s.memory s.writer s.published
  reading : Reading n s.memory s.published s.reader
  untorn : Untorn n s

theorem boot_inv (n : ℕ) (value : ℕ → α) : Inv n (boot value) where
  published := ⟨by simp [boot], ⟨value, by simp [boot], fun i _ => rfl⟩, nofun⟩
  reading := trivial
  untorn := by simp [Untorn, boot]

theorem other_slot (b : ℕ) (h : b < 2) : b ^^^ 1 < 2 ∧ b ^^^ 1 ≠ b := by
  rcases (by omega : b = 0 ∨ b = 1) with rfl | rfl <;> decide

theorem words_succ (n : ℕ) (value : ℕ → α) : words (n+1) value = words n value ++ [value n] := by
  simp [words, List.range_succ]

@[simp] theorem words_length (n : ℕ) (value : ℕ → α) : (words n value).length = n := by
  simp [words]

theorem setWord_same (m : AtomicDoubleBuffer α) (b i : ℕ) (word : α) :
    (m.setWord b i word).buffers b i = word := by
  simp [AtomicDoubleBuffer.setWord]

theorem setWord_slot (m : AtomicDoubleBuffer α) (b b' i j : ℕ) (word : α) (h : b' ≠ b) :
    (m.setWord b i word).buffers b' j = m.buffers b' j := by
  simp [AtomicDoubleBuffer.setWord, h]

theorem setWord_other (m : AtomicDoubleBuffer α) (b b' i j : ℕ) (word : α) (h : j ≠ i) :
    (m.setWord b i word).buffers b' j = m.buffers b' j := by
  by_cases hb : b' = b
  · subst hb
    simp [AtomicDoubleBuffer.setWord, h]
  · exact setWord_slot m b b' i j word hb

theorem published_setWord (n : ℕ) (m : AtomicDoubleBuffer α) (value : ℕ → α) (next i : ℕ)
    (published : List (ℕ → α)) (h : Published n m (.copy value next i) published) :
    Published n (m.setWord next i (value i)) (.copy value next (i+1)) published := by
  obtain ⟨hnext, hfilled⟩ := h.next value next i rfl
  have hslot : m.writeIndex ≠ next := hnext ▸ (other_slot m.writeIndex h.index).2.symm
  refine ⟨h.index, ?_, ?_⟩
  · obtain ⟨last, hlast, hwords⟩ := h.last
    refine ⟨last, hlast, fun j hj => ?_⟩
    exact (setWord_slot m next _ i j (value i) hslot).trans (hwords j hj)
  · rintro value' next' i' ⟨⟩
    refine ⟨hnext, fun j hj hjn => ?_⟩
    rcases Nat.lt_succ_iff_lt_or_eq.mp hj with hlt | rfl
    · rw [setWord_other m next next i j (value i) (by omega)]
      exact hfilled j hlt hjn
    · exact setWord_same m next j (value j)

theorem published_store (n : ℕ) (m : AtomicDoubleBuffer α) (value : ℕ → α) (next i : ℕ)
    (published : List (ℕ → α)) (h : Published n m (.copy value next i) published) (hi : n ≤ i) :
    Published n { m with writeIndex := next } .idle (published ++ [value]) := by
  obtain ⟨hnext, hfilled⟩ := h.next value next i rfl
  refine ⟨hnext ▸ (other_slot m.writeIndex h.index).1, ⟨value, by simp, ?_⟩, nofun⟩
  exact fun j hj => hfilled j (by omega) hj

theorem reading_setWord (n : ℕ) (m : AtomicDoubleBuffer α) (value : ℕ → α) (next i : ℕ)
    (published : List (ℕ → α)) (reader : Read α) (hi : i < n)
    (hclear : Clear n (.copy value next i) reader) (h : Reading n m published reader) :
    Reading n (m.setWord next i (value i)) published reader := by
  cases reader with
  | idle => trivial
  | loadIndex completed => exact h
  | copy completed idx copied =>
    obtain ⟨hlen, v, hv, hcopied, hrest⟩ := h
    refine ⟨hlen, v, hv, hcopied, fun j hj hjn => ?_⟩
    rw [← hrest j hj hjn]
    by_cases hslot : next = idx
    · have hlt := hclear hi hslot
      exact setWord_other m next idx i j (value i) (by omega)
    · exact setWord_slot m next idx i j (value i) (Ne.symm hslot)

theorem reading_store (n : ℕ) (m : AtomicDoubleBuffer α) (next : ℕ) (value : ℕ → α)
    (published : List (ℕ → α)) (reader : Read α) (h : Reading n m published reader) :
    Reading n { m with writeIndex := next } (published ++ [value]) reader := by
  cases reader with
  | idle => trivial
  | loadIndex completed => exact Nat.lt_of_lt_of_le h (by simp)
  | copy completed idx copied =>
    obtain ⟨hlen, v, hv, hcopied, hrest⟩ := h
    refine ⟨hlen, v, ?_, hcopied, hrest⟩
    rw [List.drop_append]
    exact List.mem_append_left _ hv

theorem reading_load (n : ℕ) (m : AtomicDoubleBuffer α) (writer : Write α) (completed : ℕ)
    (published : List (ℕ → α)) (hpub : Published n m writer published)
    (h : completed < published.length) :
    Reading n m published (.copy completed m.writeIndex []) := by
  obtain ⟨last, hlast, hwords⟩ := hpub.last
  refine ⟨Nat.zero_le _, last, ?_, rfl, fun i _ hi => hwords i hi⟩
  apply List.mem_of_getLast?
  rw [List.getLast?_drop, if_neg (by omega)]
  exact hlast

theorem reading_copy (n : ℕ) (m : AtomicDoubleBuffer α) (completed idx : ℕ) (copied : List α)
    (published : List (ℕ → α)) (hlt : copied.length < n)
    (h : Reading n m published (.copy completed idx copied)) :
    Reading n m published (.copy completed idx (copied ++ [m.buffers idx copied.length])) := by
  obtain ⟨hlen, v, hv, hcopied, hrest⟩ := h
  refine ⟨by simp; omega, v, hv, ?_, ?_⟩
  · rw [List.length_append, List.length_singleton, words_succ, ← hcopied,
      hrest copied.length (Nat.le_refl _) hlt]
  · intro i hi
    exact hrest i (by simp at hi; omega)

theorem stepWriter_inv (n : ℕ) (s : State α) (hclear : Clear n s.writer s.reader) (h : Inv n s) :
    Inv n (stepWriter n s) := by
  have hpub := h.published
  unfold stepWriter
  split
  · exact h
  · next value hw =>
    refine ⟨⟨hpub.index, hpub.last, ?_⟩, h.reading, h.untorn⟩
    rintro value' next' i' ⟨⟩
    exact ⟨rfl, fun j hj => absurd hj (Nat.not_lt_zero j)⟩
  · next value next i hw =>
    rw [hw] at hpub hclear
    split
    · next hi =>
      exact ⟨published_setWord n s.memory value next i s.published hpub,
        reading_setWord n s.memory value next i s.published s.reader hi hclear h.reading, h.untorn⟩
    · next hi =>
      exact ⟨published_store n s.memory value next i s.published hpub (by omega),
        reading_store n s.memory next value s.published s.reader h.reading, h.untorn⟩

theorem stepReader_inv (n : ℕ) (s : State α) (h : Inv n s) : Inv n (stepReader n s) := by
  have hreading := h.reading
  unfold stepReader
  split
  · exact h
  · next completed hr =>
    rw [hr] at hreading
    exact ⟨h.published, reading_load n s.memory s.writer completed s.published h.published hreading,
      h.untorn⟩
  · next completed idx copied hr =>
    rw [hr] at hreading
    split
    · next hlt =>
      exact ⟨h.published, reading_copy n s.memory completed idx copied s.published hlt hreading,
        h.untorn⟩
    · next hlt =>
      refine ⟨h.published, trivial, ?_⟩
      obtain ⟨hlen, v, hv, hcopied, -⟩ := hreading
      have hn : copied.length = n := by omega
      intro x hx
      rcases List.mem_append.mp hx with hx | hx
      · exact h.untorn x hx
      · rw [List.mem_singleton.mp hx]
        exact List.mem_map.mpr ⟨v, hv, by rw [hcopied, hn]⟩

theorem step_inv (n : ℕ) (s : State α) (a : Action α) (ha : Undisturbed n s a) (h : Inv n s) :
    Inv n (step n s a) := by
  cases a with
  | write value =>
    rw [step]
    split
    · exact ⟨⟨h.published.index, h.published.last, nofun⟩, h.reading, h.untorn⟩
    · exact h
  | writerStep => exact stepWriter_inv n s ha h
  | read =>
    rw [step]
    split
    · obtain ⟨last, hlast, -⟩ := h.published.last
      have hpos := List.length_pos_of_mem (List.mem_of_getLast? hlast)
      exact ⟨h.published, Nat.sub_lt hpos Nat.one_pos, h.untorn⟩
    · exact h
  | readerStep => exact stepReader_inv n s h

/-- Over any run in which the writer stores no word that a read has yet to copy,
every read returns one whole and recent value. -/
theorem reads_untorn (n : ℕ) (value : ℕ → α) (as : List (Action α))
    (h : Along (step n) (Undisturbed n) (boot value) as) :
    Untorn n (run (step n) (boot value) as) :=
  (run_along (step n) (Inv n) (Undisturbed n) (step_inv n) (boot value) (boot_inv n value) as
    h).untorn

def writeTwo (word : ℕ) : List (Action ℕ) :=
  Action.write (fun _ => word) :: List.replicate 4 Action.writerStep

def readOne : List (Action ℕ) := [.read, .readerStep, .readerStep]

/-- A write completes inside a read and the read ends with the older value. -/
theorem reads_untorn_overtaken :
    Untorn 2 (run (step 2) (boot (fun _ => 0))
      (writeTwo 1 ++ readOne ++ writeTwo 2 ++ [.readerStep, .readerStep])) :=
  reads_untorn 2 (fun _ => 0) (writeTwo 1 ++ readOne ++ writeTwo 2 ++ [.readerStep, .readerStep])
    (by decide +kernel)

def twoWritesInRead : List (Action ℕ) :=
  writeTwo 1 ++ readOne ++ writeTwo 2 ++ writeTwo 3 ++ [Action.readerStep, Action.readerStep]

/-- The read returns the first word of one value and the second word of another. -/
theorem torn_read :
    (run (step 2) (boot (fun _ => 0)) twoWritesInRead).answers.map Answer.words = [[1, 3]] ∧
    ¬ ∀ as, Untorn 2 (run (step 2) (boot (fun _ => 0)) as) := by
  refine ⟨by decide +kernel, fun h => ?_⟩
  have huntorn := h twoWritesInRead
  revert huntorn
  unfold Untorn
  decide +kernel

end SputterOS.DoubleBuffer
