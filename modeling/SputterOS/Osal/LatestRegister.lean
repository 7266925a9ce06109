import SputterOS.Foundation.LinearizationPoints
import SputterOS.Osal.AtomicDoubleBuffer

/-!
# The double buffer as an atomic register

While the writer stores no word that the reader has yet to copy, the calls of the two
parties can be ordered as those of a register that is written and read at once: a
write takes effect when it stores the index, a read when it loads it.
-/

set_option autoImplicit false

namespace SputterOS.LatestRegister
open Foundation.Linearizability Foundation.Transition SputterOS.DoubleBuffer

variable {α : Type*}

inductive Party where
  | writer
  | reader
  deriving DecidableEq

inductive Operation (α : Type*) where
  | write (value : ℕ → α)
  | read

inductive Result (α : Type*) where
  | written
  | value (words : List α)

inductive Apply (n : ℕ) : (ℕ → α) → Operation α → Result α → (ℕ → α) → Prop where
  | write (held value : ℕ → α) : Apply n held (.write value) .written value
  | read (held : ℕ → α) : Apply n held .read (.value (words n held)) held

def register (n : ℕ) (value : ℕ → α) : SequentialObject (ℕ → α) (Operation α) (Result α) :=
  ⟨value, Apply n⟩

def record (n : ℕ) (s : State α) : Action α → List (Event Party (Operation α) (Result α))
  | .write value =>
    match s.writer with
    | .idle => [.invoke .writer (.write value)]
    | _ => []
  | .writerStep =>
    match s.writer with
    | .copy _ _ i => if i < n then [] else [.respond .writer .written]
    | _ => []
  | .read =>
    match s.reader with
    | .idle => [.invoke .reader .read]
    | _ => []
  | .readerStep =>
    match s.reader with
    | .copy _ _ copied => if copied.length < n then [] else [.respond .reader (.value copied)]
    | _ => []

def history (n : ℕ) : State α → List (Action α) → List (Event Party (Operation α) (Result α))
  | _, [] => []
  | s, a::as => record n s a ++ history n (step n s a) as

def writing : Write α → Option (Operation α)
  | .idle => none
  | .loadIndex value => some (.write value)
  | .copy value _ _ => some (.write value)

def reading : Read α → Option (Operation α)
  | .idle => none
  | .loadIndex _ => some .read
  | .copy _ _ _ => some .read

def Ordered (n : ℕ) (value : ℕ → α) (m : AtomicDoubleBuffer α)
    (h : List (Event Party (Operation α) (Result α))) (held : ℕ → α) : Read α → Prop
  | .copy _ idx copied => ∃ invoked found,
    (scan h).pending .reader = some (.read, invoked) ∧
      Placed (register n value) (scan h).calls invoked found held ∧
        Reading n m [found] (.copy 0 idx copied)
  | _ => Arranged (register n value) (scan h).calls held

structure Tracked (n : ℕ) (value : ℕ → α) (s : State α)
    (h : List (Event Party (Operation α) (Result α))) : Prop where
  writer : running h .writer = writing s.writer
  reader : running h .reader = reading s.reader
  ordered : ∃ held, Published n s.memory s.writer [held] ∧ Ordered n value s.memory h held s.reader

theorem boot_tracked (n : ℕ) (value : ℕ → α) : Tracked n value (boot value) [] where
  writer := rfl
  reader := rfl
  ordered := ⟨value, ⟨by simp [boot], ⟨value, rfl, fun _ _ => rfl⟩, nofun⟩, arranged_nil⟩

section Histories

variable (n : ℕ) (value : ℕ → α) (m : AtomicDoubleBuffer α)
  (h : List (Event Party (Operation α) (Result α))) (held : ℕ → α)

theorem pending_of_running (p : Party) (o : Operation α) (hrun : running h p = some o) :
    ∃ invoked, (scan h).pending p = some (o, invoked) ∧ invoked < (scan h).clock := by
  obtain ⟨⟨o', invoked⟩, hpending, rfl⟩ := Option.map_eq_some_iff.mp hrun
  exact ⟨invoked, hpending, (scan_stamped h).pending p o' invoked hpending⟩

theorem ordered_invoke (o : Operation α) (reader : Read α)
    (hordered : Ordered n value m h held reader) :
    Ordered n value m (h ++ [.invoke .writer o]) held reader := by
  unfold Ordered at hordered ⊢
  rw [scan_invoke]
  cases reader with
  | idle => exact hordered
  | loadIndex completed => exact hordered
  | copy completed idx copied =>
    obtain ⟨invoked, found, hpending, hrest⟩ := hordered
    refine ⟨invoked, found, ?_, hrest⟩
    rw [scan_snoc]
    simpa [Scan.observe] using hpending

theorem ordered_written (written : ℕ → α) (next : ℕ) (reader : Read α)
    (hrun : running h .writer = some (.write written))
    (hordered : Ordered n value m h held reader) :
    Ordered n value { m with writeIndex := next } (h ++ [.respond .writer .written]) written
      reader := by
  obtain ⟨began, hwriter, hbegan⟩ := pending_of_running h .writer _ hrun
  have hcalls := scan_respond h .writer (.write written) .written began hwriter
  have hlate := before_now h .writer (.write written) .written began
  have happly : (register n value).Apply held (.write written) .written written :=
    Apply.write held written
  unfold Ordered at hordered ⊢
  rw [hcalls]
  cases reader with
  | idle => exact arranged_snoc _ _ _ _ hordered happly hlate
  | loadIndex completed => exact arranged_snoc _ _ _ _ hordered happly hlate
  | copy completed idx copied =>
    obtain ⟨invoked, found, hpending, hplaced, hreading⟩ := hordered
    have hinvoked := (scan_stamped h).pending .reader .read invoked hpending
    have hlater := placed_snoc _ _ _ _ _ _ hplaced happly hlate (Nat.lt_asymm hinvoked)
    refine ⟨invoked, found, ?_, hlater, hreading⟩
    rw [scan_snoc]
    simpa [Scan.observe, hwriter] using hpending

theorem ordered_read (completed idx : ℕ) (copied : List α) (hlen : ¬ copied.length < n)
    (hordered : Ordered n value m h held (.copy completed idx copied)) :
    Ordered n value m (h ++ [.respond .reader (.value copied)]) held .idle := by
  obtain ⟨invoked, found, hpending, hplaced, hle, v, hv, hcopied, -⟩ := hordered
  have hfull : copied.length = n := by omega
  obtain rfl : v = found := List.mem_singleton.mp hv
  have happly : (register n value).Apply v .read (.value copied) v := by
    rw [hcopied, hfull]
    exact Apply.read v
  have hcalls := scan_respond h .reader .read (.value copied) invoked hpending
  change Arranged _ (scan _).calls _
  rw [hcalls]
  exact arranged_of_placed _ _ _ _ hplaced happly (before_now h .reader .read (.value copied) invoked)

end Histories

section Steps

variable (n : ℕ) (value : ℕ → α) (s : State α)
  (h : List (Event Party (Operation α) (Result α)))

theorem write_tracked (written : ℕ → α) (ht : Tracked n value s h) :
    Tracked n value (step n s (.write written)) (h ++ record n s (.write written)) := by
  obtain ⟨held, hpub, hordered⟩ := ht.ordered
  have hwriter := ht.writer
  unfold step record
  cases hw : s.writer with
  | idle =>
    refine ⟨?_, ?_, held, ⟨hpub.index, hpub.last, nofun⟩, ordered_invoke _ _ _ _ _ _ _ hordered⟩
    · exact (running_invoke h .writer .writer _).trans (if_pos rfl)
    · exact (running_invoke h .writer .reader _).trans (by simpa using ht.reader)
  | loadIndex written' =>
    rw [List.append_nil]
    exact ht
  | copy written' next i =>
    rw [List.append_nil]
    exact ht

theorem read_tracked (ht : Tracked n value s h) :
    Tracked n value (step n s .read) (h ++ record n s .read) := by
  obtain ⟨held, hpub, hordered⟩ := ht.ordered
  unfold step record
  cases hr : s.reader with
  | idle =>
    refine ⟨?_, ?_, held, hpub, ?_⟩
    · exact (running_invoke h .reader .writer _).trans (by simpa using ht.writer)
    · exact (running_invoke h .reader .reader _).trans (if_pos rfl)
    · rw [hr] at hordered
      change Arranged _ (scan _).calls _
      rw [scan_invoke]
      exact hordered
  | loadIndex completed =>
    rw [List.append_nil]
    exact ht
  | copy completed idx copied =>
    rw [List.append_nil]
    exact ht

theorem writerStep_tracked (hclear : Clear n s.writer s.reader) (ht : Tracked n value s h) :
    Tracked n value (step n s .writerStep) (h ++ record n s .writerStep) := by
  obtain ⟨held, hpub, hordered⟩ := ht.ordered
  have hwriter := ht.writer
  have hreader := ht.reader
  unfold step stepWriter record
  cases hw : s.writer with
  | idle =>
    rw [List.append_nil]
    exact ht
  | loadIndex written =>
    rw [hw] at hwriter
    rw [List.append_nil]
    refine ⟨hwriter, hreader, held, ⟨hpub.index, hpub.last, ?_⟩, hordered⟩
    rintro written' next' i' ⟨⟩
    exact ⟨rfl, fun j hj => absurd hj (Nat.not_lt_zero j)⟩
  | copy written next i =>
    rw [hw] at hpub hclear hwriter
    dsimp only
    by_cases hi : i < n
    · rw [if_pos hi, if_pos hi, List.append_nil]
      refine ⟨hwriter, hreader, held, published_setWord n s.memory written next i [held] hpub, ?_⟩
      unfold Ordered at hordered ⊢
      dsimp only
      cases hr : s.reader with
      | idle => rwa [hr] at hordered
      | loadIndex completed => rwa [hr] at hordered
      | copy completed idx copied =>
        rw [hr] at hordered hclear
        obtain ⟨invoked, found, hpending, hplaced, hreading⟩ := hordered
        exact ⟨invoked, found, hpending, hplaced,
          reading_setWord n s.memory written next i [found] (.copy 0 idx copied) hi hclear hreading⟩
    · rw [if_neg hi, if_neg hi]
      have hstore := published_store n s.memory written next i [held] hpub (by omega)
      refine ⟨?_, ?_, written, ⟨hstore.index, hstore.last, nofun⟩,
        ordered_written n value s.memory h held written next s.reader hwriter hordered⟩
      · exact (running_respond h .writer .writer _).trans (if_pos rfl)
      · exact (running_respond h .writer .reader _).trans (by simpa using hreader)

theorem readerStep_tracked (ht : Tracked n value s h) :
    Tracked n value (step n s .readerStep) (h ++ record n s .readerStep) := by
  obtain ⟨held, hpub, hordered⟩ := ht.ordered
  have hreader := ht.reader
  unfold step stepReader record
  cases hr : s.reader with
  | idle =>
    rw [List.append_nil]
    exact ht
  | loadIndex completed =>
    rw [hr] at hreader hordered
    obtain ⟨invoked, hpending, -⟩ := pending_of_running h .reader _ hreader
    rw [List.append_nil]
    exact ⟨ht.writer, hreader, held, hpub, invoked, held, hpending,
      placed_of_arranged _ invoked held hordered,
      reading_load n s.memory s.writer 0 [held] hpub Nat.one_pos⟩
  | copy completed idx copied =>
    rw [hr] at hreader hordered
    dsimp only
    by_cases hlt : copied.length < n
    · rw [if_pos hlt, if_pos hlt, List.append_nil]
      obtain ⟨invoked, found, hpending, hplaced, hreading⟩ := hordered
      exact ⟨ht.writer, hreader, held, hpub, invoked, found, hpending, hplaced,
        reading_copy n s.memory 0 idx copied [found] hlt hreading⟩
    · rw [if_neg hlt, if_neg hlt]
      refine ⟨?_, ?_, held, hpub,
        ordered_read n value s.memory h held completed idx copied hlt hordered⟩
      · exact (running_respond h .reader .writer _).trans (by simpa using ht.writer)
      · exact (running_respond h .reader .reader _).trans (if_pos rfl)

theorem step_tracked (a : Action α) (ha : Undisturbed n s a) (ht : Tracked n value s h) :
    Tracked n value (step n s a) (h ++ record n s a) := by
  cases a with
  | write written => exact write_tracked n value s h written ht
  | writerStep => exact writerStep_tracked n value s h ha ht
  | read => exact read_tracked n value s h ht
  | readerStep => exact readerStep_tracked n value s h ht

theorem run_tracked (as : List (Action α)) (has : Along (step n) (Undisturbed n) s as)
    (ht : Tracked n value s h) : Tracked n value (run (step n) s as) (h ++ history n s as) := by
  induction as generalizing s h with
  | nil =>
    rw [history, List.append_nil]
    exact ht
  | cons a as ih =>
    rw [run_cons, history, ← List.append_assoc]
    exact ih (step n s a) (h ++ record n s a) has.2 (step_tracked n value s h a has.1 ht)

end Steps

theorem arranged_of_ordered (n : ℕ) (value : ℕ → α) (m : AtomicDoubleBuffer α)
    (h : List (Event Party (Operation α) (Result α))) (held : ℕ → α) (reader : Read α)
    (hordered : Ordered n value m h held reader) :
    Arranged (register n value) (scan h).calls held := by
  cases reader with
  | idle => exact hordered
  | loadIndex completed => exact hordered
  | copy completed idx copied =>
    obtain ⟨invoked, found, -, hplaced, -⟩ := hordered
    exact arranged_of_calls _ _ _ _ hplaced

/-- In every run in which the writer stores no word that a read has yet to copy, the
history linearizes to a register. -/
theorem register_linearizable (n : ℕ) (value : ℕ → α) (as : List (Action α))
    (h : Along (step n) (Undisturbed n) (boot value) as) :
    Linearizable (register n value) (history n (boot value) as) := by
  have ht := run_tracked n value (boot value) [] as h (boot_tracked n value)
  rw [List.nil_append] at ht
  obtain ⟨held, -, hordered⟩ := ht.ordered
  exact linearizable_of_arranged _ held (arranged_of_ordered n value _ _ held _ hordered)

/-- A write completes inside a read, and a second read finds its value. -/
theorem register_linearizable_overtaken :
    Linearizable (register 2 fun _ => 0) (history 2 (boot fun _ => 0)
      (writeTwo 1 ++ readOne ++ writeTwo 2 ++ [.readerStep, .readerStep] ++ readOne)) :=
  register_linearizable 2 (fun _ => 0)
    (writeTwo 1 ++ readOne ++ writeTwo 2 ++ [.readerStep, .readerStep] ++ readOne)
    (by decide +kernel)

end SputterOS.LatestRegister
