import Mathlib.Data.List.Basic

/-!
# Runs of a transition function

An event is applied to a state by a total function: an event that the current
state does not take leaves it as it is. A run is the fold of a list of events.
A run that keeps a log grows it at its end.
-/

set_option autoImplicit false

namespace Foundation.Transition

variable {σ α : Type*} (step : σ → α → σ)

def run (s : σ) (as : List α) : σ := as.foldl step s

@[simp] theorem run_nil (s : σ) : run step s [] = s := rfl

@[simp] theorem run_cons (s : σ) (a : α) (as : List α) :
    run step s (a::as) = run step (step s a) as := rfl

@[simp] theorem run_append (s : σ) (as bs : List α) :
    run step s (as ++ bs) = run step (run step s as) bs := List.foldl_append

/-- What holds at first and is kept by every allowed event holds after a run
of allowed events. -/
theorem run_invariant (I : σ → Prop) (P : α → Prop)
    (hstep : ∀ s a, P a → I s → I (step s a)) (s : σ) (hs : I s) (as : List α)
    (ha : ∀ a ∈ as, P a) : I (run step s as) := by
  induction as generalizing s with
  | nil => exact hs
  | cons a as ih =>
    exact ih (step s a) (hstep s a (ha a (by simp)) hs) (fun b hb => ha b (by simp [hb]))

theorem run_preserves (I : σ → Prop) (hstep : ∀ s a, I s → I (step s a)) (s : σ) (hs : I s)
    (as : List α) : I (run step s as) :=
  run_invariant step I (fun _ => True) (fun s a _ => hstep s a) s hs as (fun _ _ => trivial)

/-- If every event keeps a relation to another system by some events of that one, so
does every run. -/
theorem run_simulated {τ β : Type*} (step' : τ → β → τ) (R : σ → τ → Prop)
    (hstep : ∀ s t a, R s t → ∃ bs, R (step s a) (run step' t bs)) (s : σ) (t : τ) (h : R s t)
    (as : List α) : ∃ bs, R (run step s as) (run step' t bs) := by
  induction as generalizing s t with
  | nil => exact ⟨[], h⟩
  | cons a as ih =>
    obtain ⟨bs, hbs⟩ := hstep s t a h
    obtain ⟨cs, hcs⟩ := ih (step s a) (run step' t bs) hbs
    exact ⟨bs ++ cs, by rwa [run_append]⟩

/-- Every event of a run meets a condition in the state it is applied to. -/
def Along (P : σ → α → Prop) : σ → List α → Prop
  | _, [] => True
  | s, a::as => P s a ∧ Along P (step s a) as

instance decidableAlong (P : σ → α → Prop) [∀ s a, Decidable (P s a)] :
    ∀ (s : σ) (as : List α), Decidable (Along step P s as)
  | _, [] => inferInstanceAs (Decidable True)
  | s, a::as =>
    have := decidableAlong P (step s a) as
    inferInstanceAs (Decidable (_ ∧ _))

theorem along_congr (P Q : σ → α → Prop) (h : ∀ s a, P s a ↔ Q s a) (s : σ) (as : List α) :
    Along step P s as ↔ Along step Q s as := by
  induction as generalizing s with
  | nil => rfl
  | cons a as ih => rw [Along, Along, h, ih]

theorem run_along (I : σ → Prop) (P : σ → α → Prop)
    (hstep : ∀ s a, P s a → I s → I (step s a)) (s : σ) (hs : I s) (as : List α)
    (ha : Along step P s as) : I (run step s as) := by
  induction as generalizing s with
  | nil => exact hs
  | cons a as ih => exact ih (step s a) (hstep s a ha.1 hs) ha.2

/-- If each event keeps a property exactly under a condition, a run keeps it
exactly along the condition. -/
theorem run_iff_along (I Q : σ → Prop) (P : σ → α → Prop)
    (hI : ∀ s a, I s → I (step s a))
    (hstep : ∀ s a, I s → (Q (step s a) ↔ Q s ∧ P s a)) (s : σ) (hs : I s) (as : List α) :
    Q (run step s as) ↔ Q s ∧ Along step P s as := by
  induction as generalizing s with
  | nil => simp [Along]
  | cons a as ih =>
    rw [run_cons, ih (step s a) (hI s a hs), hstep s a hs, Along, and_assoc]

/-- If events that meet a condition keep an invariant and others lose a property
at once, every state of a run has the property exactly along the condition. -/
theorem run_prefixes_iff (I Q : σ → Prop) (P : σ → α → Prop) (hQ : ∀ s, I s → Q s)
    (hI : ∀ s a, P s a → I s → I (step s a)) (hlost : ∀ s a, I s → Q (step s a) → P s a)
    (s : σ) (hs : I s) (as : List α) :
    (∀ bs, bs <+: as → Q (run step s bs)) ↔ Along step P s as := by
  induction as generalizing s with
  | nil =>
    refine ⟨fun _ => trivial, fun _ bs hbs => ?_⟩
    rw [List.prefix_nil.mp hbs]
    exact hQ s hs
  | cons a as ih =>
    constructor
    · intro h
      have ha : P s a := hlost s a hs (h [a] (by simp))
      refine ⟨ha, (ih (step s a) (hI s a ha hs)).mp fun bs hbs => ?_⟩
      exact h (a::bs) (List.cons_prefix_cons.mpr ⟨rfl, hbs⟩)
    · rintro ⟨ha, has⟩ bs hbs
      cases bs with
      | nil => exact hQ s hs
      | cons b bs =>
        obtain ⟨rfl, htail⟩ := List.cons_prefix_cons.mp hbs
        exact (ih (step s b) (hI s b ha hs)).mpr has bs htail

section Logs

variable {ε : Type*}

/-- Every entry of a log meets a condition over the entries before it. -/
def Preceded (P : List ε → ε → Prop) (es : List ε) : Prop :=
  ∀ xs x ys, es = xs ++ x :: ys → P xs x

theorem preceded_nil (P : List ε → ε → Prop) : Preceded P [] := by
  intro xs x ys h
  simp at h

theorem preceded_cons (P : List ε → ε → Prop) (e : ε) (es : List ε) :
    Preceded P (e::es) ↔ P [] e ∧ Preceded (fun xs x => P (e::xs) x) es := by
  constructor
  · intro h
    exact ⟨h [] e es rfl, fun xs x ys hsplit => h (e::xs) x ys (by rw [hsplit]; rfl)⟩
  · rintro ⟨hfirst, hrest⟩ xs x ys hsplit
    cases xs with
    | nil =>
      obtain ⟨rfl, -⟩ := List.cons.inj hsplit
      exact hfirst
    | cons y xs =>
      obtain ⟨rfl, htail⟩ := List.cons.inj hsplit
      exact hrest xs x ys htail

theorem preceded_congr (P Q : List ε → ε → Prop) (h : ∀ xs x, P xs x ↔ Q xs x) (es : List ε) :
    Preceded P es ↔ Preceded Q es := by
  simp only [Preceded, h]

theorem preceded_append (P : List ε → ε → Prop)
    (hmono : ∀ xs xs' x, xs ⊆ xs' → P xs x → P xs' x) (es new : List ε) (h : Preceded P es)
    (hnew : ∀ x ∈ new, P es x) : Preceded P (es ++ new) := by
  intro xs x ys hsplit
  rcases List.append_eq_append_iff.mp hsplit with ⟨zs, rfl, hrest⟩ | ⟨zs, rfl, hrest⟩
  · apply hmono es _ x (List.subset_append_left es zs)
    apply hnew
    rw [hrest]
    simp
  · cases zs with
    | nil =>
      rw [List.append_nil] at hnew
      apply hnew
      rw [List.nil_append] at hrest
      rw [← hrest]
      exact List.mem_cons_self
    | cons z zs =>
      obtain ⟨rfl, -⟩ := List.cons.inj hrest
      exact h xs x zs rfl

theorem preceded_extend (P : List ε → ε → Prop) (es new : List ε) (h : Preceded P es)
    (hnew : ∀ xs x ys, new = xs ++ x :: ys → P (es ++ xs) x) : Preceded P (es ++ new) := by
  intro xs x ys hsplit
  rcases List.append_eq_append_iff.mp hsplit with ⟨zs, rfl, hrest⟩ | ⟨zs, rfl, hrest⟩
  · exact hnew zs x ys hrest
  · cases zs with
    | nil =>
      have hfirst := hnew [] x ys hrest.symm
      simpa using hfirst
    | cons z zs =>
      obtain ⟨rfl, htail⟩ := List.cons.inj hrest
      exact h xs x zs rfl

end Logs

end Foundation.Transition
