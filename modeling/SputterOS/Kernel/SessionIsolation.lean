import SputterOS.Kernel.ReadTimeline
import SputterOS.Kernel.CommandAnswers

/-!
# Isolation of sessions

A session begins with an accepted handshake and ends with an exit. The slot
for framed commands is cleared by an exit but not by a handshake, and a command
frame behind an exit in its read still fills it. Such a command is answered in
the next session, unless a command or an exit of that session takes its place
before the loop of the tick.
-/

set_option autoImplicit false

namespace SputterOS.SessionIsolation
open SputterOS.FrameCodec SputterOS.FrameStream SputterOS.Logic SputterOS.CommandLine
  SputterOS.ReceivedStream SputterOS.ReadLoops SputterOS.ScheduledCommsTask
  SputterOS.CommandReplies SputterOS.CommandAnswers SputterOS.ReadTimeline

section Sessions

def observe (session : Option (List Received)) : Option Reception → Option (List Received)
  | none => session
  | some .handshake => some []
  | some .exit => none
  | some (.command w) => session.map (· ++ [w])

def observeAll (session : Option (List Received)) (es : List (Option Reception)) :
    Option (List Received) := es.foldl observe session

def FromSession (cfg : Cfg) (rs : List Received) : Effect → Prop
  | .tryPush cmd _ => ∃ w ∈ rs, w.command = cmd
  | .write writer bytes =>
    writer = .tick → ∃ w ∈ rs, ∃ accepted : Bool, bytes = reply cfg w accepted

instance decidableFromSession (cfg : Cfg) (rs : List Received) :
    ∀ e : Effect, Decidable (FromSession cfg rs e)
  | .tryPush cmd _ => inferInstanceAs (Decidable (∃ w ∈ rs, w.command = cmd))
  | .write writer bytes =>
    inferInstanceAs (Decidable (writer = .tick →
      ∃ w ∈ rs, ∃ accepted : Bool, bytes = reply cfg w accepted))

variable (cfg : Cfg) (env : Environment)

def completions (c : CLI) (read : Read) : List (Option Reception) :=
  ((Loop.enter c).steps cfg kMaxPayload (protocolHandler env) read.bytes).map Step.completed

/-- In every tick whose loop runs in a session, it answers commands received
in that session only. -/
def Isolated (fuel : ℕ) : Option (List Received) → CLI → List Read → Prop
  | _, _, [] => True
  | session, c, read::reads =>
    (tick cfg env fuel c read).elim False fun c' =>
      (∀ rs ∈ observeAll session (completions cfg env c read),
        ∀ e ∈ c'.history.drop (readTo cfg env c read).history.length, FromSession cfg rs e) ∧
      Isolated fuel (observeAll session (completions cfg env c read)) c' reads

/-- A handshake is accepted while the slot holds a framed command, and neither
a command nor an exit follows it in the read. -/
def StaleHandshake (c : CLI) (read : Read) : Prop :=
  c.hasFramedCommand = true ∧ ∃ before rest,
    completions cfg env c read = before ++ some .handshake :: rest ∧ ∀ e ∈ rest, e = none

/-- No read of the ticks accepts a handshake on top of a framed command. -/
def FreshHandshakes (fuel : ℕ) : CLI → List Read → Prop
  | _, [] => True
  | c, read::reads =>
    ¬ StaleHandshake cfg env c read ∧
      ∀ c', tick cfg env fuel c read = some c' → FreshHandshakes fuel c' reads

instance decidableElim (o : Option CLI) (P : CLI → Prop) [DecidablePred P] :
    Decidable (o.elim False P) :=
  match o with
  | none => inferInstanceAs (Decidable False)
  | some c => inferInstanceAs (Decidable (P c))

instance decidableIsolated (fuel : ℕ) : ∀ (session : Option (List Received)) (c : CLI)
    (reads : List Read), Decidable (Isolated cfg env fuel session c reads)
  | _, _, [] => inferInstanceAs (Decidable True)
  | session, c, read::reads =>
    have := fun c' =>
      decidableIsolated fuel (observeAll session (completions cfg env c read)) c' reads
    inferInstanceAs (Decidable (Option.elim _ False fun _ => _ ∧ _))

end Sessions

section Slot

def slot (c : CLI) : Option Received :=
  if c.hasFramedCommand then some ⟨some c.framedSeqNum, c.framedCommand⟩ else none

def store (held : Option Received) : Option Reception → Option Received
  | some (.command w) => if w.seqNum = none then held else some w
  | some .exit => none
  | _ => held

def settle (p : Option (List Received) × Option Received) (es : List (Option Reception)) :
    Option (List Received) × Option Received :=
  es.foldl (fun p e => (observe p.1 e, store p.2 e)) p

def Own (p : Option (List Received) × Option Received) : Prop :=
  ∀ rs ∈ p.1, ∀ w ∈ p.2, w ∈ rs

theorem settle_fst (p : Option (List Received) × Option Received) (es : List (Option Reception)) :
    (settle p es).1 = observeAll p.1 es := by
  induction es generalizing p with
  | nil => rfl
  | cons e es ih => exact ih _

theorem own_step (p : Option (List Received) × Option Received) (e : Option Reception)
    (hp : Own p) (he : e ≠ some .handshake)
    (htext : ∀ w, e = some (.command w) → w.seqNum = none → p.1 = none) :
    Own (observe p.1 e, store p.2 e) := by
  intro rs hrs w hw
  cases e with
  | none => exact hp rs hrs w hw
  | some x =>
    cases x with
    | handshake => exact absurd rfl he
    | exit => simp [observe] at hrs
    | command v =>
      by_cases hv : v.seqNum = none
      · simp [observe, htext v rfl hv] at hrs
      · have hwv : v = w := by simpa [store, hv] using hw
        have hrs' : p.1.map (· ++ [v]) = some rs := hrs
        obtain ⟨ss, -, rfl⟩ := Option.map_eq_some_iff.mp hrs'
        simp [hwv]

def TextEvents (es : List (Option Reception)) : Prop :=
  ∀ e ∈ es, e = none ∨ ∃ cmd, e = some (.command ⟨none, cmd⟩)

def FramedEvents (es : List (Option Reception)) : Prop :=
  ∀ e ∈ es, e ≠ some .handshake ∧ ∀ w, e = some (.command w) → w.seqNum ≠ none

theorem settle_text (held : Option Received) (es : List (Option Reception)) (h : TextEvents es) :
    settle (none, held) es = (none, held) := by
  induction es with
  | nil => rfl
  | cons e es ih =>
    have htail : TextEvents es := fun x hx => h x (by simp [hx])
    rcases h e (by simp) with rfl | ⟨cmd, rfl⟩
    · exact ih htail
    · exact ih htail

theorem own_framed (p : Option (List Received) × Option Received) (es : List (Option Reception))
    (h : FramedEvents es) (hp : Own p) : Own (settle p es) := by
  induction es generalizing p with
  | nil => exact hp
  | cons e es ih =>
    obtain ⟨hhand, hseq⟩ := h e (by simp)
    apply ih _ (fun x hx => h x (by simp [hx]))
    exact own_step p e hp hhand (fun w he hw => absurd hw (hseq w he))

theorem own_stale_iff (w : Received) (es : List (Option Reception)) (h : FramedEvents es) :
    (Own (settle (some [], some w) es) ↔ ∃ e ∈ es, e ≠ none) ∧
      ((∀ e ∈ es, e = none) → settle (some [], some w) es = (some [], some w)) := by
  induction es with
  | nil => simp [settle, Own]
  | cons e es ih =>
    have htail : FramedEvents es := fun x hx => h x (by simp [hx])
    obtain ⟨hhand, hseq⟩ := h e (by simp)
    cases e with
    | none =>
      have hstep : settle (some [], some w) (none::es) = settle (some [], some w) es := rfl
      rw [hstep]
      simpa using ih htail
    | some x =>
      constructor
      · refine iff_of_true ?_ ⟨some x, by simp, by simp⟩
        apply own_framed _ _ htail
        cases x with
        | handshake => exact absurd rfl hhand
        | exit => simp [Own, observe]
        | command v => simp [Own, observe, store, hseq v rfl]
      · intro hnone
        exact absurd (hnone (some x) (by simp)) (by simp)

end Slot

section Ticks

variable (cfg : Cfg) (env : Environment)

/-- The loop is in the mode of the command line or past an exit, and a session
is active exactly in FRAMED mode. -/
structure InSession (s : Loop) (session : Option (List Received)) : Prop where
  ready : Ready s.cli
  text : s.mode = .text → s.cli.mode = .text
  active : session = none ↔ s.cli.mode = .text

theorem InSession.enter (s : Loop) (session : Option (List Received)) (h : InSession s session) :
    InSession (Loop.enter s.cli) session := ⟨h.ready, fun ht => ht, h.active⟩

theorem Move.inSession (s s' : Loop) (e : Option Reception) (session : Option (List Received))
    (hmove : Move s.cli s.mode e s') (h : InSession s session) :
    InSession s' (observe session e) ∧ slot s'.cli = store (slot s.cli) e := by
  have hready := hmove.ready _ _ _ _ h.ready
  obtain ⟨mode, c⟩ := s
  have hactive := h.active
  have htext := h.text
  dsimp only at hmove hactive htext
  cases hmove with
  | handshake bytes =>
    exact ⟨⟨hready, by simp, by simp [observe, CLI.enterFramedMode]⟩, rfl⟩
  | line active probe text => exact ⟨⟨hready, htext, hactive⟩, rfl⟩
  | lineCommand active probe cmd =>
    have hnone : session = none := hactive.mpr (htext rfl)
    rw [hnone] at hactive ⊢
    exact ⟨⟨hready, htext, hactive⟩, rfl⟩
  | frame decoder es hes => exact ⟨⟨hready, by simp, hactive⟩, rfl⟩
  | frameCommand decoder seqNum cmd =>
    refine ⟨⟨hready, by simp, ?_⟩, rfl⟩
    simpa [observe] using hactive
  | exit decoder bytes =>
    exact ⟨⟨hready, by simp, by simp [observe, CLI.exitFramedMode]⟩, rfl⟩

def events (s : Loop) (bs : List UInt8) : List (Option Reception) :=
  (s.steps cfg kMaxPayload (protocolHandler env) bs).map Step.completed

theorem events_cons (s : Loop) (b : UInt8) (bs : List UInt8) :
    events cfg env s (b::bs) = s.completed cfg kMaxPayload b ::
      events cfg env (s.step cfg kMaxPayload (protocolHandler env) b) bs := rfl

theorem events_move (s : Loop) (b : UInt8) (bs : List UInt8) (h : Ready s.cli) :
    ∃ e s', Move s.cli s.mode e s' ∧ Ready s'.cli ∧
      events cfg env s (b::bs) = e :: events cfg env s' bs := by
  have hmove := step_move cfg env s b h.router
  exact ⟨_, _, hmove, hmove.ready _ _ _ _ h, events_cons cfg env s b bs⟩

theorem after_inSession (s : Loop) (bs : List UInt8)
    (p : Option (List Received) × Option Received) (h : InSession s p.1) (hslot : slot s.cli = p.2) :
    InSession (s.after cfg kMaxPayload (protocolHandler env) bs)
        (settle p (events cfg env s bs)).1 ∧
      slot (s.after cfg kMaxPayload (protocolHandler env) bs).cli =
        (settle p (events cfg env s bs)).2 := by
  induction bs generalizing s p with
  | nil => exact ⟨h, hslot⟩
  | cons b bs ih =>
    obtain ⟨hs, hstore⟩ := Move.inSession s _ _ p.1 (step_move cfg env s b h.ready.router) h
    apply ih _ (observe p.1 (s.completed cfg kMaxPayload b),
      store p.2 (s.completed cfg kMaxPayload b)) hs
    rw [hstore, hslot]

theorem framed_events (s : Loop) (bs : List UInt8) (hm : s.mode = .framed) (h : Ready s.cli) :
    FramedEvents (events cfg env s bs) := by
  induction bs generalizing s with
  | nil => simp [FramedEvents, events, Loop.steps]
  | cons b bs ih =>
    obtain ⟨e, s', hmove, hready, heq⟩ := events_move cfg env s b bs h
    rw [hm] at hmove
    rw [heq]
    have htail : s'.mode = .framed → ∀ x ∈ events cfg env s' bs,
        x ≠ some .handshake ∧ ∀ w, x = some (.command w) → w.seqNum ≠ none :=
      fun ht => ih s' ht hready
    intro x hx
    cases hmove with
    | frame decoder es hes =>
      rcases List.mem_cons.mp hx with rfl | hx
      · simp
      · exact htail rfl x hx
    | frameCommand decoder seqNum cmd =>
      rcases List.mem_cons.mp hx with rfl | hx
      · simp
      · exact htail rfl x hx
    | exit decoder bytes =>
      rcases List.mem_cons.mp hx with rfl | hx
      · simp
      · exact htail rfl x hx

theorem TextEvents.cons (x : Option Reception) (es : List (Option Reception))
    (hx : x = none ∨ ∃ cmd, x = some (.command ⟨none, cmd⟩)) (h : TextEvents es) :
    TextEvents (x::es) := by
  intro y hy
  rcases List.mem_cons.mp hy with rfl | hy
  · exact hx
  · exact h y hy

theorem text_events (s : Loop) (bs : List UInt8) (hm : s.mode = .text) (h : Ready s.cli) :
    TextEvents (events cfg env s bs) ∨ ∃ before rest,
      events cfg env s bs = before ++ some .handshake :: rest ∧ TextEvents before ∧
        FramedEvents rest := by
  induction bs generalizing s with
  | nil => left; simp [TextEvents, events, Loop.steps]
  | cons b bs ih =>
    obtain ⟨e, s', hmove, hready, heq⟩ := events_move cfg env s b bs h
    rw [hm] at hmove
    rw [heq]
    have hcons : ∀ x, (x = none ∨ ∃ cmd, x = some (.command ⟨none, cmd⟩)) → s'.mode = .text →
        TextEvents (x :: events cfg env s' bs) ∨ ∃ before rest,
          x :: events cfg env s' bs = before ++ some .handshake :: rest ∧ TextEvents before ∧
            FramedEvents rest := by
      intro x hx ht
      rcases ih s' ht hready with htext | ⟨before, rest, hsplit, hbefore, hrest⟩
      · left
        exact htext.cons x _ hx
      · right
        refine ⟨x::before, rest, ?_, hbefore.cons x _ hx, hrest⟩
        rw [hsplit]
        rfl
    cases hmove with
    | handshake bytes =>
      right
      exact ⟨[], _, rfl, by simp [TextEvents], framed_events cfg env _ bs rfl hready⟩
    | line active probe text => exact hcons none (Or.inl rfl) rfl
    | lineCommand active probe cmd => exact hcons _ (Or.inr ⟨cmd, rfl⟩) rfl

theorem settle_handshake (w : Option Received) (before rest : List (Option Reception))
    (hbefore : TextEvents before) :
    settle (none, w) (before ++ some .handshake :: rest) = settle (some [], w) rest := by
  have htext := settle_text w before hbefore
  rw [settle] at htext
  rw [settle, List.foldl_append, htext]
  rfl

theorem staleHandshake_iff (c : CLI) (read : Read) (before rest : List (Option Reception))
    (heq : completions cfg env c read = before ++ some .handshake :: rest)
    (hbefore : TextEvents before) (hrest : FramedEvents rest) :
    StaleHandshake cfg env c read ↔ c.hasFramedCommand = true ∧ ∀ e ∈ rest, e = none := by
  have hbefore' : some Reception.handshake ∉ before := fun hmem => by
    simpa using hbefore _ hmem
  have hrest' : some Reception.handshake ∉ rest := fun hmem => (hrest _ hmem).1 rfl
  constructor
  · rintro ⟨hc, before', rest', heq', hall⟩
    rw [heq] at heq'
    obtain ⟨-, -, hr⟩ := (List.append_cons_inj_of_notMem hbefore' hrest').mp heq'
    rw [hr]
    exact ⟨hc, hall⟩
  · rintro ⟨hc, hall⟩
    exact ⟨hc, before, rest, heq, hall⟩

/-- A read leaves a stale command in the slot of a session exactly when it
accepts a handshake on top of it. -/
theorem read_own_iff (c : CLI) (read : Read) (session : Option (List Received))
    (h : InSession (Loop.enter c) session) (hown : Own (session, slot c)) :
    (Own (settle (session, slot c) (completions cfg env c read)) ↔ ¬ StaleHandshake cfg env c read) ∧
      (StaleHandshake cfg env c read →
        ∃ w, settle (session, slot c) (completions cfg env c read) = (some [], some w)) := by
  have hcomp : completions cfg env c read = events cfg env (Loop.enter c) read.bytes := rfl
  have hnohand : some Reception.handshake ∉ completions cfg env c read →
      ¬ StaleHandshake cfg env c read := by
    rintro hn ⟨-, before, rest, heq, -⟩
    exact hn (by simp [heq])
  cases hm : c.mode with
  | framed =>
    have hframed : FramedEvents (completions cfg env c read) := by
      rw [hcomp]
      exact framed_events cfg env (Loop.enter c) read.bytes hm h.ready
    have hfresh := hnohand (fun hmem => (hframed _ hmem).1 rfl)
    exact ⟨iff_of_true (own_framed _ _ hframed hown) hfresh, fun hs => absurd hs hfresh⟩
  | text =>
    have hnone : session = none := h.active.mpr hm
    rw [hnone] at hown ⊢
    rcases text_events cfg env (Loop.enter c) read.bytes hm h.ready with
      htext | ⟨before, rest, heq, hbefore, hrest⟩
    · rw [← hcomp] at htext
      have hfresh := hnohand (fun hmem => by simpa using htext _ hmem)
      rw [settle_text _ _ htext]
      exact ⟨iff_of_true hown hfresh, fun hs => absurd hs hfresh⟩
    · rw [← hcomp] at heq
      rw [staleHandshake_iff cfg env c read before rest heq hbefore hrest, heq,
        settle_handshake _ before rest hbefore]
      cases hc : c.hasFramedCommand with
      | false =>
        have hslot : slot c = none := by simp [slot, hc]
        rw [hslot]
        have hempty : Own (settle (some [], none) rest) := own_framed _ _ hrest (by simp [Own])
        exact ⟨iff_of_true hempty (by simp), fun hs => absurd hs.1 (by simp)⟩
      | true =>
        have hslot : slot c = some ⟨some c.framedSeqNum, c.framedCommand⟩ := by simp [slot, hc]
        obtain ⟨hiff, hkept⟩ := own_stale_iff ⟨some c.framedSeqNum, c.framedCommand⟩ rest hrest
        rw [hslot, hiff]
        constructor
        · simp
        · rintro ⟨-, hall⟩
          exact ⟨_, hkept hall⟩

/-- The loop of a tick leaves the session alone. What it answers in a session
was received there exactly when the slot holds a command of the session. -/
theorem drain_isolated (fuel : ℕ) (c : CLI) (p : Option (List Received) × Option Received)
    (hready : Ready c) (hactive : p.1 = none ↔ c.mode = .text) (hslot : slot c = p.2) :
    ∃ c', drain cfg env (fuel+1) c = some c' ∧ InSession (Loop.enter c') p.1 ∧
      Own (p.1, slot c') ∧
      (Own p → ∀ rs ∈ p.1, ∀ e ∈ c'.history.drop c.history.length, FromSession cfg rs e) ∧
      (∀ w, p = (some [], some w) →
        ¬ ∀ rs ∈ p.1, ∀ e ∈ c'.history.drop c.history.length, FromSession cfg rs e) := by
  obtain ⟨builder, es, hans, hdrain⟩ := drain_spec cfg env fuel c hready.sync
  refine ⟨_, hdrain, ?_⟩
  have hready' := release_ready c builder (c.history ++ es) hready
  have hmode : (release c).mode = c.mode := by
    unfold release
    split_ifs <;> rfl
  have hsession : InSession (Loop.enter
      { release c with
        builder := builder
        history := c.history ++ es }) p.1 :=
    ⟨hready', fun h => h, by rw [hactive, ← hmode]; rfl⟩
  have hnew : (c.history ++ es).drop c.history.length = es := by simp
  dsimp only
  rw [hnew]
  cases hm : c.mode with
  | text =>
    have hnone : p.1 = none := hactive.mpr hm
    refine ⟨hsession, ?_, ?_, ?_⟩
    · simp [Own, hnone]
    · simp [hnone]
    · rintro w rfl
      simp at hnone
  | framed =>
    have hwait : waiting c = p.2 := by
      rw [← hslot]
      simp [waiting, slot, CLI.hasCommand, hm, taken]
    rw [hwait] at hans
    refine ⟨hsession, ?_, ?_, ?_⟩
    · simp [Own, slot, release, hm]
    · intro hown rs hrs
      cases hp : p.2 with
      | none =>
        rw [hp] at hans
        cases hans
        simp
      | some w =>
        have hw : w ∈ rs := hown rs hrs w (by simp [hp])
        rw [hp] at hans
        cases hans with
        | cons _ accepted _ effects hnil =>
          cases hnil
          simp only [List.mem_cons, List.not_mem_nil, or_false, forall_eq_or_imp, forall_eq]
          exact ⟨⟨w, hw, rfl⟩, fun _ => ⟨w, hw, accepted, rfl⟩⟩
    · rintro w rfl hall
      cases hans with
      | cons _ accepted _ effects hnil =>
        have hpush := hall [] (by simp) (.tryPush w.command accepted) (by simp)
        simp [FromSession] at hpush

theorem ticks_isolated_iff (fuel : ℕ) (c : CLI) (session : Option (List Received))
    (reads : List Read) (h : InSession (Loop.enter c) session) (hown : Own (session, slot c)) :
    Isolated cfg env (fuel+1) session c reads ↔ FreshHandshakes cfg env (fuel+1) c reads := by
  induction reads generalizing c session with
  | nil => exact Iff.rfl
  | cons read reads ih =>
    obtain ⟨hiff, hstale⟩ := read_own_iff cfg env c read session h hown
    obtain ⟨hin, hslot⟩ := after_inSession cfg env (Loop.enter c) read.bytes (session, slot c) h rfl
    have hread : readTo cfg env c read =
        ((Loop.enter c).after cfg kMaxPayload (protocolHandler env) read.bytes).cli :=
      tick_eq cfg kMaxPayload (protocolHandler env) c read
    rw [← hread] at hslot
    have hfst := settle_fst (session, slot c) (completions cfg env c read)
    have hactive := hin.active
    have hready := hin.ready
    rw [← hread] at hactive hready
    obtain ⟨c', htick, hin', hown', hgood, hbad⟩ := drain_isolated cfg env fuel
      (readTo cfg env c read) (settle (session, slot c) (completions cfg env c read))
      hready hactive hslot
    have htick' : tick cfg env (fuel+1) c read = some c' := htick
    rw [hfst] at hin' hown' hgood hbad
    have hrest := ih c' _ hin' hown'
    rw [Isolated, FreshHandshakes, htick', Option.elim_some, hrest]
    constructor
    · rintro ⟨hall, hfresh⟩
      constructor
      · intro hs
        obtain ⟨w, hw⟩ := hstale hs
        exact hbad w hw hall
      · intro c'' hc''
        rw [← Option.some_inj.mp hc'']
        exact hfresh
    · rintro ⟨hs, hfresh⟩
      exact ⟨hgood (hiff.mpr hs), hfresh c' rfl⟩

/-- In a run over any stream, however it is cut into reads, the commands
answered in a session are commands received in it if and only if no read
accepts a handshake on top of a framed command of the session before. -/
theorem session_isolation_iff (fuel : ℕ) (atInit : Read) (reads : List Read) :
    Isolated cfg env (fuel+1)
        (observeAll none (completions cfg env CLI.initial.setProtocolHandler atInit))
        (init cfg env atInit) reads ↔
      FreshHandshakes cfg env (fuel+1) (init cfg env atInit) reads := by
  have hstart : InSession (Loop.enter CLI.initial.setProtocolHandler) none :=
    ⟨initial_ready, fun _ => rfl, by simp [Loop.enter, CLI.initial, CLI.setProtocolHandler]⟩
  have hempty : slot CLI.initial.setProtocolHandler = none := rfl
  obtain ⟨hiff, -⟩ := read_own_iff cfg env CLI.initial.setProtocolHandler atInit none hstart
    (by simp [Own])
  have hfresh : ¬ StaleHandshake cfg env CLI.initial.setProtocolHandler atInit := by
    rintro ⟨hc, -⟩
    simp [CLI.initial, CLI.setProtocolHandler] at hc
  obtain ⟨hin, hslot⟩ := after_inSession cfg env (Loop.enter CLI.initial.setProtocolHandler)
    atInit.bytes (none, none) hstart hempty
  have hinit : init cfg env atInit = ((Loop.enter CLI.initial.setProtocolHandler).after cfg
      kMaxPayload (protocolHandler env) atInit.bytes).cli :=
    tick_eq cfg kMaxPayload (protocolHandler env) _ atInit
  have hown := hiff.mpr hfresh
  have hcomp : completions cfg env CLI.initial.setProtocolHandler atInit =
      events cfg env (Loop.enter CLI.initial.setProtocolHandler) atInit.bytes := rfl
  rw [hempty, Own, settle_fst, hcomp, ← hslot, ← hinit] at hown
  have hfst := settle_fst (none, none)
    (events cfg env (Loop.enter CLI.initial.setProtocolHandler) atInit.bytes)
  rw [hfst] at hin
  have hsession := hin.enter
  rw [← hinit] at hsession
  exact ticks_isolated_iff cfg env fuel _ _ reads hsession hown

end Ticks

def accepting : Environment := { try_push := fun _ _ => true, snapshotFn := none }

def strayCommand : Read :=
  ⟨leave.bytes ++ framedCommand.bytes, by decide +kernel⟩

/-- The command is queued and acknowledged in the next session, in which
nothing was received. -/
theorem stray_command_answered :
    (run plainCfg accepting 1 noBytes
        [handshake, strayCommand, handshake]).map answers =
      some [.tryPush ⟨2, 0, 0x40E00000⟩ true,
        .write .tick (wire kMaxPayload ⟨.ack, 9, some [2], 1⟩)] ∧
    ¬ Isolated plainCfg accepting 1
      (observeAll none (completions plainCfg accepting CLI.initial.setProtocolHandler noBytes))
      (init plainCfg accepting noBytes)
      [handshake, strayCommand, handshake] := by
  constructor
  · decide +kernel
  · decide +kernel

end SputterOS.SessionIsolation
