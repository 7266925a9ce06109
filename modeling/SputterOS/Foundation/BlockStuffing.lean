import Mathlib.Data.List.Basic
import Mathlib.Tactic.Ring

/-!
# Block stuffing of a separator symbol

A message over an alphabet with a distinguished separator is cut into blocks
that avoid the separator and hold at most `M` symbols. A block shorter than
`M` stands for itself and the separator behind it, except the last block of
a message. The transmitted form of the blocks is left to the user.
-/

set_option autoImplicit false

namespace Foundation.BlockStuffing

variable {β : Type*}

def cut [DecidableEq β] (sep : β) (M : ℕ) : List β → List β → List (List β)
  | cur, [] => [cur]
  | cur, x::xs =>
    if x = sep then cur :: cut sep M [] xs
    else if cur.length+1 = M then (cur ++ [x]) :: cut sep M [] xs
    else cut sep M (cur ++ [x]) xs

def join (sep : β) (M : ℕ) : List (List β) → List β
  | [] => []
  | [b] => b
  | b::c::bs => b ++ (if b.length = M then [] else [sep]) ++ join sep M (c::bs)

def Stuffed (sep : β) (M : ℕ) (b : List β) : Prop := sep ∉ b ∧ b.length ≤ M

def size (bs : List (List β)) : ℕ := (bs.map (fun b => b.length+1)).sum

theorem cut_ne_nil [DecidableEq β] (sep : β) (M : ℕ) (cur xs : List β) : cut sep M cur xs ≠ [] := by
  induction xs generalizing cur with
  | nil => simp [cut]
  | cons x xs ih =>
    simp only [cut]
    split_ifs
    · simp
    · simp
    · exact ih _

theorem join_cons (sep : β) (M : ℕ) (b : List β) (bs : List (List β)) (h : bs ≠ []) :
    join sep M (b::bs) = b ++ (if b.length = M then [] else [sep]) ++ join sep M bs := by
  cases bs with
  | nil => exact absurd rfl h
  | cons c bs => rfl

theorem length_join_le (sep : β) (M : ℕ) (bs : List (List β)) :
    (join sep M bs).length ≤ size bs := by
  induction bs with
  | nil => simp [join]
  | cons b bs ih =>
    by_cases hbs : bs = []
    · subst hbs
      simp [join, size]
    · have hsep : (if b.length = M then [] else [sep] : List β).length ≤ 1 := by
        split_ifs <;> simp
      rw [join_cons sep M b bs hbs, List.length_append, List.length_append]
      simp only [size, List.map_cons, List.sum_cons] at ih ⊢
      omega

theorem join_cut [DecidableEq β] (sep : β) (M : ℕ) (cur xs : List β) (h : cur.length < M) :
    join sep M (cut sep M cur xs) = cur ++ xs := by
  have hM : 0 < M := by omega
  induction xs generalizing cur with
  | nil => simp [cut, join]
  | cons x xs ih =>
    simp only [cut]
    split_ifs with hx hf
    · rw [join_cons _ _ _ _ (cut_ne_nil _ _ _ _), ih [] hM, if_neg (by omega), hx]
      simp
    · rw [join_cons _ _ _ _ (cut_ne_nil _ _ _ _), ih [] hM, if_pos (by simpa using hf)]
      simp
    · rw [ih (cur ++ [x]) (by simp; omega)]
      simp

theorem cut_stuffed [DecidableEq β] (sep : β) (M : ℕ) (cur xs : List β) (hs : sep ∉ cur)
    (h : cur.length < M) : ∀ b ∈ cut sep M cur xs, Stuffed sep M b := by
  have hM : 0 < M := by omega
  induction xs generalizing cur with
  | nil => simp [cut, Stuffed, hs, h.le]
  | cons x xs ih =>
    have he : ∀ b ∈ cut sep M [] xs, Stuffed sep M b := ih [] (by simp) hM
    simp only [cut]
    split_ifs with hx hf
    · intro b hb
      rcases List.mem_cons.mp hb with rfl | hb
      · exact ⟨hs, h.le⟩
      · exact he b hb
    · intro b hb
      rcases List.mem_cons.mp hb with rfl | hb
      · exact ⟨by simp [hs, Ne.symm hx], by simp; omega⟩
      · exact he b hb
    · exact ih _ (by simp [hs, Ne.symm hx]) (by simp; omega)

theorem size_cut [DecidableEq β] (sep : β) (M : ℕ) (cur xs : List β) (h : cur.length < M) :
    size (cut sep M cur xs) ≤ cur.length+xs.length+(cur.length+xs.length)/M+1 := by
  have hM : 0 < M := by omega
  induction xs generalizing cur with
  | nil => simp [cut, size]
  | cons x xs ih =>
    have he := ih [] hM
    simp only [List.length_nil, zero_add] at he
    simp only [cut, List.length_cons]
    split_ifs with hx hf
    · have hm : xs.length/M ≤ (cur.length+(xs.length+1))/M := Nat.div_le_div_right (by omega)
      simp only [size, List.map_cons, List.sum_cons] at he ⊢
      omega
    · have hd : (cur.length+(xs.length+1))/M = xs.length/M+1 := by
        rw [show cur.length+(xs.length+1) = xs.length+M by omega, Nat.add_div_right _ hM]
      simp only [size, List.map_cons, List.sum_cons, List.length_append, List.length_singleton]
        at he ⊢
      omega
    · have hc := ih (cur ++ [x]) (by simp; omega)
      simp only [List.length_append, List.length_singleton] at hc
      have hd : cur.length+1+xs.length = cur.length+(xs.length+1) := by omega
      rw [hd] at hc
      omega

theorem cut_append [DecidableEq β] (sep : β) (M : ℕ) (cur b xs : List β) (hs : sep ∉ b)
    (h : cur.length+b.length < M) : cut sep M cur (b ++ xs) = cut sep M (cur ++ b) xs := by
  induction b generalizing cur with
  | nil => simp
  | cons x b ih =>
    have hx : x ≠ sep := fun he => hs (by simp [he])
    simp only [List.length_cons] at h
    rw [List.cons_append, cut, if_neg hx, if_neg (by omega),
      ih (cur ++ [x]) (fun hm => hs (by simp [hm])) (by simp; omega)]
    simp

theorem cut_full [DecidableEq β] (sep : β) (M : ℕ) (b xs : List β) (hs : sep ∉ b)
    (hM : 0 < M) (h : b.length = M) : cut sep M [] (b ++ xs) = b :: cut sep M [] xs := by
  have hb : b ≠ [] := List.ne_nil_of_length_pos (by omega)
  obtain ⟨a, x, rfl⟩ : ∃ a x, b = a ++ [x] := ⟨_, _, (List.dropLast_concat_getLast hb).symm⟩
  simp only [List.mem_append, List.mem_singleton, not_or, List.length_append,
    List.length_singleton] at hs h
  rw [List.append_assoc, cut_append sep M [] a _ hs.1 (by simp; omega), List.nil_append,
    List.singleton_append, cut, if_neg (Ne.symm hs.2), if_pos h]

/-- Cutting undoes joining up to an empty block behind a full last one. -/
theorem cut_join [DecidableEq β] (sep : β) (M : ℕ) (hM : 0 < M) (bs : List (List β))
    (hne : bs ≠ []) (hb : ∀ b ∈ bs, Stuffed sep M b) :
    cut sep M [] (join sep M bs) =
      if (bs.getLast hne).length = M then bs ++ [[]] else bs := by
  induction bs with
  | nil => exact absurd rfl hne
  | cons b bs ih =>
    obtain ⟨hs, hl⟩ := hb b (by simp)
    by_cases hbs : bs = []
    · subst hbs
      show cut sep M [] b = if b.length = M then [b, []] else [b]
      split_ifs with hf
      · simpa [cut] using cut_full sep M b [] hs hM hf
      · simpa [cut] using cut_append sep M [] b [] hs (by simp; omega)
    · have hrest := ih hbs (fun c hc => hb c (by simp [hc]))
      rw [join_cons sep M b bs hbs, List.getLast_cons hbs]
      have hcut : cut sep M [] (b ++ (if b.length = M then [] else [sep]) ++ join sep M bs) =
          b :: cut sep M [] (join sep M bs) := by
        split_ifs with hf
        · simpa using cut_full sep M b _ hs hM hf
        · rw [List.append_assoc, cut_append sep M [] b _ hs (by simp; omega)]
          simp [cut]
      rw [hcut, hrest]
      split_ifs <;> simp

end Foundation.BlockStuffing
