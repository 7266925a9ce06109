import SputterOS.Builder.BackgroundCore

/-!
# The sort by priority

The sort is stable: a list in order stays as it is, and a task of the least
priority number that no equal precedes comes to the front.
-/

set_option autoImplicit false

namespace SputterOS.Builder
open SputterOS.Kernel

def Sorted (pri : TaskPtr → UInt8) (tasks : List TaskPtr) : Prop :=
  tasks.Pairwise (fun t t' => pri t ≤ pri t')

instance (pri : TaskPtr → UInt8) (tasks : List TaskPtr) : Decidable (Sorted pri tasks) :=
  inferInstanceAs (Decidable (tasks.Pairwise _))

theorem insertKey_sorted (pri : TaskPtr → UInt8) (key : TaskPtr) (front : List TaskPtr)
    (h : front.Pairwise (fun t t' => pri t' ≤ pri t)) :
    (insertKey pri key front).Pairwise (fun t t' => pri t' ≤ pri t) := by
  induction front with
  | nil => exact List.pairwise_singleton _ _
  | cons x xs ih =>
    obtain ⟨hx, hxs⟩ := List.pairwise_cons.mp h
    rw [insertKey]
    split_ifs with hlt
    · refine List.pairwise_cons.mpr ⟨fun t ht => ?_, ih hxs⟩
      rcases List.mem_cons.mp ((insertKey_perm pri key xs).mem_iff.mp ht) with rfl | ht
      · exact UInt8.le_of_lt hlt
      · exact hx t ht
    · have hle : pri x ≤ pri key := UInt8.not_lt.mp hlt
      refine List.pairwise_cons.mpr ⟨fun t ht => ?_, h⟩
      rcases List.mem_cons.mp ht with rfl | ht
      · exact hle
      · exact UInt8.le_trans (hx t ht) hle

theorem sortTasks_sorted (pri : TaskPtr → UInt8) (tasks : List TaskPtr) :
    Sorted pri (sortTasks pri tasks) := by
  have hfold : ∀ front, front.Pairwise (fun t t' => pri t' ≤ pri t) →
      (tasks.foldl (fun front key => insertKey pri key front) front).Pairwise
        (fun t t' => pri t' ≤ pri t) := by
    induction tasks with
    | nil => exact fun front h => h
    | cons t ts ih => exact fun front h => ih _ (insertKey_sorted pri t front h)
  exact List.pairwise_reverse.mpr (hfold [] List.Pairwise.nil)

theorem insertKey_front (pri : TaskPtr → UInt8) (key : TaskPtr) (front : List TaskPtr)
    (h : ∀ t ∈ front, pri t ≤ pri key) : insertKey pri key front = key::front := by
  cases front with
  | nil => rfl
  | cons x xs => rw [insertKey, if_neg (UInt8.not_lt.mpr (h x List.mem_cons_self))]

theorem sortTasks_of_sorted (pri : TaskPtr → UInt8) (tasks : List TaskPtr)
    (h : Sorted pri tasks) : sortTasks pri tasks = tasks := by
  have hfold : ∀ front, (∀ t ∈ tasks, ∀ t' ∈ front, pri t' ≤ pri t) →
      tasks.foldl (fun front key => insertKey pri key front) front = tasks.reverse ++ front := by
    induction tasks with
    | nil => exact fun front _ => rfl
    | cons t ts ih =>
      obtain ⟨ht, hts⟩ := List.pairwise_cons.mp h
      intro front hfront
      rw [List.foldl_cons, insertKey_front pri t front (hfront t List.mem_cons_self),
        ih hts (t::front), List.reverse_cons, List.append_assoc]
      · rfl
      · intro t' ht' x hx
        rcases List.mem_cons.mp hx with rfl | hx
        · exact ht t' ht'
        · exact hfront t' (List.mem_cons_of_mem t ht') x hx
  rw [sortTasks, hfold [] (fun t _ t' ht' => absurd ht' List.not_mem_nil), List.append_nil,
    List.reverse_reverse]

theorem sortTasks_eq_iff (pri : TaskPtr → UInt8) (tasks : List TaskPtr) :
    sortTasks pri tasks = tasks ↔ Sorted pri tasks :=
  ⟨fun h => h ▸ sortTasks_sorted pri tasks, sortTasks_of_sorted pri tasks⟩

theorem insertKey_back (pri : TaskPtr → UInt8) (key : TaskPtr) (front : List TaskPtr)
    (h : ∀ t ∈ front, pri key < pri t) : insertKey pri key front = front ++ [key] := by
  induction front with
  | nil => rfl
  | cons x xs ih =>
    rw [insertKey, if_pos (h x List.mem_cons_self),
      ih (fun t ht => h t (List.mem_cons_of_mem x ht)), List.cons_append]

theorem insertKey_last (pri : TaskPtr → UInt8) (first key : TaskPtr) (front : List TaskPtr)
    (h : pri first ≤ pri key) :
    ∃ front', insertKey pri key (front ++ [first]) = front' ++ [first] := by
  induction front with
  | nil => exact ⟨[key], by rw [List.nil_append, insertKey, if_neg (UInt8.not_lt.mpr h)]; rfl⟩
  | cons x xs ih =>
    rw [List.cons_append, insertKey]
    split_ifs
    · obtain ⟨front', hfront⟩ := ih
      exact ⟨x::front', by rw [hfront, List.cons_append]⟩
    · exact ⟨key::x::xs, rfl⟩

theorem sortTasks_first (pri : TaskPtr → UInt8) (first : TaskPtr) (before behind : List TaskPtr)
    (hleast : ∀ t, pri first ≤ pri t) (hbefore : ∀ t ∈ before, pri first < pri t) :
    (sortTasks pri (before ++ first::behind)).head? = some first := by
  have hbehind : ∀ front, ∃ front', behind.foldl (fun front key => insertKey pri key front)
      (front ++ [first]) = front' ++ [first] := by
    induction behind with
    | nil => exact fun front => ⟨front, rfl⟩
    | cons t ts ih =>
      intro front
      obtain ⟨front', hfront⟩ := insertKey_last pri first t front (hleast t)
      rw [List.foldl_cons, hfront]
      exact ih front'
  have hfront : ∀ t ∈ before.foldl (fun front key => insertKey pri key front) [],
      pri first < pri t := by
    intro t ht
    have hperm := sortTasks_perm pri before
    exact hbefore t (hperm.mem_iff.mp (List.mem_reverse.mpr ht))
  obtain ⟨front', hlast⟩ := hbehind (before.foldl (fun front key => insertKey pri key front) [])
  rw [sortTasks, List.foldl_append, List.foldl_cons, insertKey_back pri first _ hfront, hlast,
    List.reverse_append]
  rfl

section InPlace

/-- The inner loop on the array. Tasks above the key move up by one slot; the
result is where the hole ends. -/
def shiftUp (pri : TaskPtr → UInt8) (keyPri : UInt8) : ℕ → List TaskPtr → ℕ × List TaskPtr
  | 0, tasks => (0, tasks)
  | j+1, tasks =>
    match tasks[j]? with
    | none => (j+1, tasks)
    | some t =>
      if pri t > keyPri then shiftUp pri keyPri j (tasks.set (j+1) t) else (j+1, tasks)

def insertSlot (pri : TaskPtr → UInt8) (tasks : List TaskPtr) (i : ℕ) : List TaskPtr :=
  match tasks[i]? with
  | none => tasks
  | some key =>
    let shifted := shiftUp pri (pri key) i tasks
    shifted.2.set shifted.1 key

def sortInPlace (pri : TaskPtr → UInt8) (tasks : List TaskPtr) : List TaskPtr :=
  (List.range' 1 (tasks.length-1)).foldl (insertSlot pri) tasks

/-- The key comes down to its place in the sorted part before the hole, and what
stands behind the hole stays. -/
theorem shiftUp_set (pri : TaskPtr → UInt8) (key hole : TaskPtr) (front behind : List TaskPtr) :
    (shiftUp pri (pri key) front.length (front.reverse ++ hole::behind)).2.set
        (shiftUp pri (pri key) front.length (front.reverse ++ hole::behind)).1 key =
      (insertKey pri key front).reverse ++ behind := by
  induction front generalizing hole behind with
  | nil => rfl
  | cons x xs ih =>
    have hread : ((x::xs).reverse ++ hole::behind)[xs.length]? = some x := by simp
    have hmove : ((x::xs).reverse ++ hole::behind).set (xs.length+1) x =
        xs.reverse ++ x::(x::behind) := by simp
    rw [List.length_cons, shiftUp, hread, insertKey]
    dsimp only
    split_ifs with hlt
    · rw [hmove, ih x (x::behind)]
      simp
    · simp

theorem insertSlot_eq (pri : TaskPtr → UInt8) (key : TaskPtr) (front behind : List TaskPtr) :
    insertSlot pri (front.reverse ++ key::behind) front.length =
      (insertKey pri key front).reverse ++ behind := by
  have hread : (front.reverse ++ key::behind)[front.length]? = some key := by simp
  rw [insertSlot, hread]
  exact shiftUp_set pri key key front behind

theorem insertSlots_eq (pri : TaskPtr → UInt8) (front rest : List TaskPtr) :
    (List.range' front.length rest.length).foldl (insertSlot pri) (front.reverse ++ rest) =
      (rest.foldl (fun front key => insertKey pri key front) front).reverse := by
  induction rest generalizing front with
  | nil => simp
  | cons key rest ih =>
    have hlen : (insertKey pri key front).length = front.length+1 :=
      (insertKey_perm pri key front).length_eq
    rw [List.length_cons, List.range'_succ, List.foldl_cons, insertSlot_eq, ← hlen, ih,
      List.foldl_cons]

/-- On the array the sort leaves the sorted list. -/
theorem sortInPlace_eq (pri : TaskPtr → UInt8) (tasks : List TaskPtr) :
    sortInPlace pri tasks = sortTasks pri tasks := by
  cases tasks with
  | nil => rfl
  | cons t ts => exact insertSlots_eq pri [t] ts

end InPlace

section Stability

theorem insertKey_filter (pri : TaskPtr → UInt8) (key : TaskPtr) (front : List TaskPtr)
    (p : UInt8) :
    (insertKey pri key front).filter (fun t => pri t = p) =
      (key::front).filter (fun t => pri t = p) := by
  induction front with
  | nil => rfl
  | cons x xs ih =>
    rw [insertKey]
    split_ifs with hlt
    · -- the key passes only tasks of another priority
      have hne : ¬ (pri x = p ∧ pri key = p) := by
        rintro ⟨hx, hk⟩
        rw [hx, hk] at hlt
        exact UInt8.lt_irrefl p hlt
      rw [List.filter_cons, ih]
      by_cases hx : pri x = p
      · have hk : pri key ≠ p := fun hk => hne ⟨hx, hk⟩
        simp [hx, hk]
      · simp [List.filter_cons, hx]
    · rfl

theorem sortTasks_filter (pri : TaskPtr → UInt8) (tasks : List TaskPtr) (p : UInt8) :
    (sortTasks pri tasks).filter (fun t => pri t = p) = tasks.filter (fun t => pri t = p) := by
  have hfold : ∀ front, (tasks.foldl (fun front key => insertKey pri key front) front).filter
      (fun t => pri t = p) =
        (tasks.filter (fun t => pri t = p)).reverse ++ front.filter (fun t => pri t = p) := by
    induction tasks with
    | nil => exact fun front => rfl
    | cons t ts ih =>
      intro front
      rw [List.foldl_cons, ih, insertKey_filter]
      by_cases ht : pri t = p <;> simp [ht]
  rw [sortTasks, List.filter_reverse, hfold, List.filter_nil, List.append_nil, List.reverse_reverse]

end Stability

end SputterOS.Builder
