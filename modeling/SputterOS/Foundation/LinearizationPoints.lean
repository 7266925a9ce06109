import SputterOS.Foundation.Linearizability

/-!
# Calls that take effect before they respond

Calls that take effect with their responses are added at the end of an order. A call
that only reads the object takes effect at a moment inside it: it is put in front of
the calls that respond between that moment and its own response.
-/

set_option autoImplicit false

namespace Foundation.Linearizability

variable {π ο ρ κ : Type*}

inductive Plays (obj : SequentialObject κ ο ρ) (s : κ) : List (ο × ρ) → κ → Prop where
  | start : Plays obj s [] s
  | call (l : List (ο × ρ)) (t u : κ) (o : ο) (r : ρ) :
      Plays obj s l t → obj.Apply t o r u → Plays obj s (l ++ [(o, r)]) u

def Before (a b : Call π ο ρ) : Prop := ¬ b.responded < a.invoked

variable (obj : SequentialObject κ ο ρ)

def Arranged (calls : List (Call π ο ρ)) (s : κ) : Prop :=
  ∃ order, List.Perm order calls ∧ Replay obj (order.map outcome) s ∧ order.Pairwise Before

def Placed (calls : List (Call π ο ρ)) (invoked : ℕ) (found s : κ) : Prop :=
  ∃ front back, List.Perm (front ++ back) calls ∧ Replay obj (front.map outcome) found ∧
    Plays obj found (back.map outcome) s ∧ (front ++ back).Pairwise Before ∧
    ∀ c ∈ back, ¬ c.responded < invoked

variable {obj}

theorem replay_plays (l l' : List (ο × ρ)) (s t : κ) (h : Replay obj l s) (h' : Plays obj s l' t) :
    Replay obj (l ++ l') t := by
  induction h' with
  | start => simpa using h
  | call l' t u o r _ happly ih =>
    rw [← List.append_assoc]
    exact Replay.call (l ++ l') t u o r ih happly

theorem arranged_nil : Arranged obj ([] : List (Call π ο ρ)) obj.initial :=
  ⟨[], List.Perm.refl _, Replay.start, List.Pairwise.nil⟩

theorem arranged_snoc (calls : List (Call π ο ρ)) (s t : κ) (c : Call π ο ρ)
    (h : Arranged obj calls s) (happly : obj.Apply s c.operation c.result t)
    (hlate : ∀ a ∈ calls, Before a c) : Arranged obj (calls ++ [c]) t := by
  obtain ⟨order, hperm, hreplay, hbefore⟩ := h
  refine ⟨order ++ [c], hperm.append_right [c], ?_, ?_⟩
  · rw [List.map_append]
    exact Replay.call _ s t c.operation c.result hreplay happly
  · refine List.pairwise_append.mpr ⟨hbefore, List.pairwise_singleton _ _, fun a ha b hb => ?_⟩
    rw [List.mem_singleton.mp hb]
    exact hlate a (hperm.mem_iff.mp ha)

theorem placed_of_arranged (calls : List (Call π ο ρ)) (invoked : ℕ) (s : κ)
    (h : Arranged obj calls s) : Placed obj calls invoked s s := by
  obtain ⟨order, hperm, hreplay, hbefore⟩ := h
  exact ⟨order, [], by simpa using hperm, hreplay, Plays.start, by simpa using hbefore, by simp⟩

theorem arranged_of_calls (calls : List (Call π ο ρ)) (invoked : ℕ) (found s : κ)
    (h : Placed obj calls invoked found s) : Arranged obj calls s := by
  obtain ⟨front, back, hperm, hreplay, hplays, hbefore, -⟩ := h
  refine ⟨front ++ back, hperm, ?_, hbefore⟩
  rw [List.map_append]
  exact replay_plays _ _ _ _ hreplay hplays

theorem placed_snoc (calls : List (Call π ο ρ)) (invoked : ℕ) (found s t : κ) (c : Call π ο ρ)
    (h : Placed obj calls invoked found s) (happly : obj.Apply s c.operation c.result t)
    (hlate : ∀ a ∈ calls, Before a c) (hc : ¬ c.responded < invoked) :
    Placed obj (calls ++ [c]) invoked found t := by
  obtain ⟨front, back, hperm, hreplay, hplays, hbefore, hback⟩ := h
  refine ⟨front, back ++ [c], ?_, hreplay, ?_, ?_, fun d hd => ?_⟩
  · rw [← List.append_assoc]
    exact hperm.append_right [c]
  · rw [List.map_append]
    exact Plays.call _ s t c.operation c.result hplays happly
  · rw [← List.append_assoc]
    refine List.pairwise_append.mpr ⟨hbefore, List.pairwise_singleton _ _, fun a ha b hb => ?_⟩
    rw [List.mem_singleton.mp hb]
    exact hlate a (hperm.mem_iff.mp ha)
  · rcases List.mem_append.mp hd with hmem | hlast
    · exact hback d hmem
    · rw [List.mem_singleton.mp hlast]
      exact hc

/-- A call that leaves the state it found is put at its place. -/
theorem arranged_of_placed (calls : List (Call π ο ρ)) (found s : κ) (c : Call π ο ρ)
    (h : Placed obj calls c.invoked found s) (happly : obj.Apply found c.operation c.result found)
    (hlate : ∀ a ∈ calls, Before a c) : Arranged obj (calls ++ [c]) s := by
  obtain ⟨front, back, hperm, hreplay, hplays, hbefore, hback⟩ := h
  obtain ⟨hfront, hrest, hcross⟩ := List.pairwise_append.mp hbefore
  refine ⟨front ++ [c] ++ back, ?_, ?_, ?_⟩
  · have hmiddle : List.Perm (front ++ [c] ++ back) (front ++ back ++ [c]) := by
      rw [List.append_assoc, List.append_assoc]
      exact List.perm_append_comm.append_left front
    exact hmiddle.trans (hperm.append_right [c])
  · rw [List.map_append, List.map_append]
    exact replay_plays _ _ _ _ (Replay.call _ found found c.operation c.result hreplay happly) hplays
  · refine List.pairwise_append.mpr ⟨?_, hrest, fun a ha b hb => ?_⟩
    · refine List.pairwise_append.mpr ⟨hfront, List.pairwise_singleton _ _, fun a ha b hb => ?_⟩
      rw [List.mem_singleton.mp hb]
      exact hlate a (hperm.mem_iff.mp (List.mem_append_left back ha))
    · rcases List.mem_append.mp ha with hmem | hlast
      · exact hcross a hmem b hb
      · rw [List.mem_singleton.mp hlast]
        exact hback b hb

section Histories

variable [DecidableEq π] (h : List (Event π ο ρ))

theorem scan_respond (p : π) (o : ο) (r : ρ) (i : ℕ) (hp : (scan h).pending p = some (o, i)) :
    (scan (h ++ [.respond p r])).calls = (scan h).calls ++ [⟨p, o, r, i, (scan h).clock⟩] := by
  rw [scan_snoc]
  simp [Scan.observe, hp]

theorem scan_invoke (p : π) (o : ο) : (scan (h ++ [.invoke p o])).calls = (scan h).calls := by
  rw [scan_snoc]
  rfl

theorem before_now (p : π) (o : ο) (r : ρ) (i : ℕ) :
    ∀ a ∈ (scan h).calls, Before a ⟨p, o, r, i, (scan h).clock⟩ := by
  intro a ha hlt
  have hcall := (scan_stamped h).calls a ha
  change (scan h).clock < a.invoked at hlt
  omega

theorem linearizable_of_arranged (s : κ) (hs : Arranged obj (scan h).calls s) :
    Linearizable obj h := by
  obtain ⟨order, hperm, hreplay, hbefore⟩ := hs
  exact ⟨order, hperm, ⟨s, hreplay⟩, hbefore⟩

end Histories

end Foundation.Linearizability
