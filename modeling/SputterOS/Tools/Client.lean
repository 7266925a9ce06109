import SputterOS.Foundation.Transition
import SputterOS.Tools.Protocol

/-!
# The client of the command-line tool

A call takes a sequence number, empties its response slot and the event, writes
its frame and waits for the event. A reader thread stores each response in the
slot of its type and then sets the event, whatever the sequence number and the
call. Frames may come at any time, in any order and more than once.
-/

set_option autoImplicit false

namespace SputterOS.Tools.Client
open SputterOS.Tools.Protocol Foundation.OffsetReader Foundation.Transition

def PROTOCOL_VERSION : ℕ := 1
def HANDSHAKE_MAGIC : ℕ := 0x53504F53

def encode_handshake_req : List UInt8 :=
  ResponseSerializer.leBytes 2 PROTOCOL_VERSION ++ ResponseSerializer.leBytes 4 HANDSHAKE_MAGIC

def decode_handshake_resp (payload : List UInt8) : Option (ℕ × ℕ) :=
  if payload.length ≠ 6 then none
  else some (leNat (payload.take 2), leNat (payload.drop 2))

inductive Slot where
  | ack
  | metrics
  | handshake
  deriving DecidableEq

/-- The slot in which `_on_frame` stores a frame. Other frames go to callbacks. -/
def slotOf : MessageType → Option Slot
  | .ACK => some .ack
  | .NACK => some .ack
  | .HANDSHAKE_RESP => some .handshake
  | .METRICS_RESP => some .metrics
  | _ => none

inductive Request where
  | connect
  | send_command (payload : List UInt8)
  | request_metrics
  deriving DecidableEq

namespace Request

def slot : Request → Slot
  | connect => .handshake
  | send_command _ => .ack
  | request_metrics => .metrics

def frame (seq : ℕ) : Request → DecodedFrame
  | connect => ⟨.HANDSHAKE_REQ, seq, encode_handshake_req⟩
  | send_command payload => ⟨.COMMAND, seq, payload⟩
  | request_metrics => ⟨.METRICS_REQ, seq, []⟩

end Request

inductive Pc where
  | idle
  | numbered (r : Request) (seq : ℕ)
  | forgotten (seq : ℕ)
  | cleared (r : Request) (seq : ℕ)
  | waiting (r : Request) (seq : ℕ)
  | woken (r : Request) (seq : ℕ) (timedOut : Bool)
  | taking (seq : ℕ) (timedOut : Bool)
  deriving DecidableEq

structure Result where
  request : Request
  seq : ℕ
  reply : Option DecodedFrame
  timedOut : Bool
  deriving DecidableEq

/-- The reader is `dispatching` between its store and the set of the event. -/
structure SputterClient where
  seq : ℕ
  connected : Bool
  pending : Slot → Option DecodedFrame
  event : Bool
  pc : Pc
  dispatching : Bool
  written : List DecodedFrame
  results : List Result

def SputterClient.new : SputterClient := ⟨0, false, fun _ => none, false, .idle, false, [], []⟩

/-- A command that does not fit into its fields raises behind the sequence number,
and a write may raise. -/
inductive Action where
  | call (r : Request)
  | malformed
  | send_heartbeat (raises : Bool)
  | disconnect (raises : Bool)
  | advance
  | timeout
  | writeError
  | arrive (f : DecodedFrame)
  | signal

def next_seq (seq : ℕ) : ℕ := (seq+1) &&& 0xFF

def SputterClient.post (s : SputterClient) (msg_type : MessageType) (raises : Bool) :
    SputterClient :=
  { s with
    seq := next_seq s.seq
    written := if raises then s.written else s.written ++ [⟨msg_type, s.seq, []⟩] }

def SputterClient.finish (s : SputterClient) (r : Request) (seq : ℕ) (timedOut : Bool) :
    SputterClient :=
  { s with pc := .idle, results := s.results ++ [⟨r, seq, s.pending r.slot, timedOut⟩] }

def SputterClient.advance (s : SputterClient) : SputterClient :=
  match s.pc with
  | .idle => s
  | .numbered .connect seq =>
    { s with pending := Function.update s.pending .handshake none, pc := .forgotten seq }
  | .numbered r seq =>
    { s with
      pending := Function.update s.pending r.slot none, event := false, pc := .cleared r seq }
  | .forgotten seq => { s with event := false, pc := .cleared .connect seq }
  | .cleared r seq => { s with written := s.written ++ [r.frame seq], pc := .waiting r seq }
  | .waiting r seq => if s.event then { s with pc := .woken r seq false } else s
  | .woken .connect _ _ =>
    match (s.pending .handshake).bind (fun f => decode_handshake_resp f.payload) with
    | none => { s with pc := .idle }
    | some resp => { s with pc := .idle, connected := s.connected || resp.2 == HANDSHAKE_MAGIC }
  | .woken (.send_command payload) seq timedOut => s.finish (.send_command payload) seq timedOut
  | .woken .request_metrics seq timedOut =>
    if s.pending .metrics = none then s.finish .request_metrics seq timedOut
    else { s with pc := .taking seq timedOut }
  | .taking seq timedOut => s.finish .request_metrics seq timedOut

def SputterClient.on_frame (s : SputterClient) (f : DecodedFrame) : SputterClient :=
  match slotOf f.msg_type with
  | none => s
  | some slot =>
    { s with pending := Function.update s.pending slot (some f), dispatching := true }

def step (s : SputterClient) : Action → SputterClient
  | .call r =>
    if s.pc = .idle then { s with seq := next_seq s.seq, pc := .numbered r s.seq } else s
  | .malformed => if s.pc = .idle then { s with seq := next_seq s.seq } else s
  | .send_heartbeat raises => if s.pc = .idle then s.post .HEARTBEAT raises else s
  | .disconnect raises =>
    if s.pc = .idle ∧ s.connected then
      { s.post .EXIT_HANDSHAKE raises with connected := false }
    else s
  | .advance => s.advance
  | .timeout =>
    match s.pc with
    | .waiting r seq => { s with pc := .woken r seq true }
    | _ => s
  | .writeError =>
    match s.pc with
    | .cleared _ _ => { s with pc := .idle }
    | _ => s
  | .arrive f => if s.dispatching then s else s.on_frame f
  | .signal => if s.dispatching then { s with event := true, dispatching := false } else s

section Correlation

/-- A reply has the sequence number of its call, and no call ends without a reply
before its timeout. -/
structure Correlated (r : Result) : Prop where
  reply : ∀ f ∈ r.reply, slotOf f.msg_type = some r.request.slot ∧ f.seq_num = r.seq
  timeout : r.reply = none → r.timedOut = true

def Correct (s : SputterClient) : Prop := ∀ r ∈ s.results, Correlated r

def Finishing : Action → Prop
  | .advance => True
  | .timeout => True
  | .signal => True
  | _ => False

/-- However the call in progress finishes, all calls are answered correctly. -/
def Robust (s : SputterClient) : Prop :=
  ∀ cs, (∀ c ∈ cs, Finishing c) → Correct (run step s cs)

/-- A frame for a slot does not disturb the call in progress. A response of
another call does so in its own slot, and in another slot before the reply. -/
def Harmless (s : SputterClient) (f : DecodedFrame) (slot : Slot) : Prop :=
  match s.pc with
  | .numbered r _ => r = .connect
  | .cleared r seq | .waiting r seq =>
    r = .connect ∨ if slot = r.slot then f.seq_num = seq else s.pending r.slot ≠ none
  | .woken r seq _ => r = .connect ∨ (slot = r.slot → f.seq_num = seq)
  | .taking seq _ => slot = .metrics → f.seq_num = seq
  | _ => True

/-- No call for a response begins while the reader dispatches a frame, and no
frame comes that disturbs one. -/
def Undisturbed (s : SputterClient) : Action → Prop
  | .call r => s.pc = .idle → r ≠ .connect → s.dispatching = false
  | .arrive f => s.dispatching = false → ∀ slot ∈ slotOf f.msg_type, Harmless s f slot
  | _ => True

def Answering (s : SputterClient) : Prop :=
  match s.pc with
  | .numbered r _ => r ≠ .connect → s.dispatching = false
  | .cleared r seq | .waiting r seq =>
    r ≠ .connect → (s.pending r.slot = none → s.event = false ∧ s.dispatching = false) ∧
      ∀ f ∈ s.pending r.slot, f.seq_num = seq
  | .woken r seq timedOut =>
    r ≠ .connect → (s.pending r.slot = none → timedOut = true) ∧
      ∀ f ∈ s.pending r.slot, f.seq_num = seq
  | .taking seq _ => ∃ f, s.pending .metrics = some f ∧ f.seq_num = seq
  | _ => True

structure Inv (s : SputterClient) : Prop where
  typed : ∀ slot, ∀ f ∈ s.pending slot, slotOf f.msg_type = some slot
  answering : Answering s
  correct : Correct s

theorem finish_inv (s : SputterClient) (r : Request) (seq : ℕ) (timedOut : Bool) (h : Inv s)
    (hnone : s.pending r.slot = none → timedOut = true)
    (hseq : ∀ f ∈ s.pending r.slot, f.seq_num = seq) : Inv (s.finish r seq timedOut) where
  typed := h.typed
  answering := trivial
  correct := by
    intro x hx
    rcases List.mem_append.mp hx with hx | hx
    · exact h.correct x hx
    · rw [List.mem_singleton.mp hx]
      exact ⟨fun f hf => ⟨h.typed r.slot f hf, hseq f hf⟩, hnone⟩

theorem updated_typed (s : SputterClient) (slot : Slot) (kept : Option DecodedFrame) (h : Inv s)
    (hkept : ∀ f ∈ kept, slotOf f.msg_type = some slot) :
    ∀ slot', ∀ f ∈ Function.update s.pending slot kept slot',
      slotOf f.msg_type = some slot' := by
  intro slot' f hf
  by_cases heq : slot' = slot
  · subst heq
    rw [Function.update_self] at hf
    exact hkept f hf
  · rw [Function.update_of_ne heq] at hf
    exact h.typed slot' f hf

theorem cleared_typed (s : SputterClient) (slot : Slot) (h : Inv s) :
    ∀ slot', ∀ f ∈ Function.update s.pending slot none slot', slotOf f.msg_type = some slot' :=
  updated_typed s slot none h fun _ hf => nomatch hf

theorem advance_inv (s : SputterClient) (h : Inv s) : Inv s.advance := by
  have hanswering := h.answering
  obtain ⟨seq, connected, pending, event, pc, dispatching, written, results⟩ := s
  cases pc with
  | idle => exact h
  | numbered r q =>
    have hclear : r ≠ .connect → Inv
        ⟨seq, connected, Function.update pending r.slot none, false, .cleared r q, dispatching,
          written, results⟩ := by
      intro hr
      refine ⟨cleared_typed _ _ h, fun _ => ⟨fun _ => ⟨rfl, hanswering hr⟩, ?_⟩, h.correct⟩
      intro f hf
      change f ∈ Function.update pending r.slot none r.slot at hf
      rw [Function.update_self] at hf
      cases hf
    cases r with
    | connect => exact ⟨cleared_typed _ _ h, trivial, h.correct⟩
    | send_command payload => exact hclear (by simp)
    | request_metrics => exact hclear (by simp)
  | forgotten q => exact ⟨h.typed, fun hr => absurd rfl hr, h.correct⟩
  | cleared r q => exact ⟨h.typed, hanswering, h.correct⟩
  | waiting r q =>
    rw [SputterClient.advance]
    dsimp only
    split
    · next hevent =>
      refine ⟨h.typed, fun hr => ⟨fun hnone => ?_, (hanswering hr).2⟩, h.correct⟩
      have hclear := ((hanswering hr).1 hnone).1
      dsimp only at hclear hevent
      rw [hevent] at hclear
      cases hclear
    · exact h
  | woken r q timedOut =>
    cases r with
    | connect =>
      rw [SputterClient.advance]
      dsimp only
      split <;> exact ⟨h.typed, trivial, h.correct⟩
    | send_command payload =>
      obtain ⟨hnone, hseq⟩ := hanswering (by simp)
      exact finish_inv _ _ _ _ h hnone hseq
    | request_metrics =>
      obtain ⟨hnone, hseq⟩ := hanswering (by simp)
      rw [SputterClient.advance]
      dsimp only
      split
      · exact finish_inv _ _ _ _ h hnone hseq
      · next hsome =>
        obtain ⟨f, hf⟩ := Option.ne_none_iff_exists'.mp hsome
        exact ⟨h.typed, ⟨f, hf, hseq f hf⟩, h.correct⟩
  | taking q timedOut =>
    obtain ⟨f, hf, hseq⟩ := hanswering
    refine finish_inv _ .request_metrics _ _ h (fun hnone => ?_) (fun g hg => ?_)
    · cases hf.symm.trans hnone
    · rw [← Option.some.inj (hf.symm.trans hg)]
      exact hseq

theorem stored_answering (s : SputterClient) (slot : Slot) (f : DecodedFrame)
    (hidle : s.dispatching = false) (h : Answering s) (hf : Harmless s f slot) :
    Answering { s with
      pending := Function.update s.pending slot (some f), dispatching := true } := by
  obtain ⟨seq, connected, pending, event, pc, dispatching, written, results⟩ := s
  have hwaits : ∀ r q,
      (r ≠ .connect → (pending (Request.slot r) = none → event = false ∧ dispatching = false) ∧
        ∀ g ∈ pending r.slot, g.seq_num = q) →
      (r = .connect ∨ if slot = r.slot then f.seq_num = q else pending r.slot ≠ none) →
      r ≠ .connect →
        (Function.update pending slot (some f) r.slot = none → event = false ∧ true = false) ∧
          ∀ g ∈ Function.update pending slot (some f) r.slot, g.seq_num = q := by
    intro r q hanswer hfits hr
    have hfits := hfits.resolve_left hr
    by_cases hslot : slot = r.slot
    · subst hslot
      rw [if_pos rfl] at hfits
      rw [Function.update_self]
      refine ⟨nofun, fun g hg => ?_⟩
      rw [← Option.some.inj hg]
      exact hfits
    · rw [if_neg hslot] at hfits
      rw [Function.update_of_ne (Ne.symm hslot)]
      exact ⟨fun hnone => absurd hnone hfits, (hanswer hr).2⟩
  cases pc with
  | idle => trivial
  | forgotten q => trivial
  | numbered r q =>
    intro hr
    exact absurd hf hr
  | cleared r q => exact hwaits r q h hf
  | waiting r q => exact hwaits r q h hf
  | woken r q timedOut =>
    intro hr
    obtain ⟨hnone, hseq⟩ := h hr
    have hfits := hf.resolve_left hr
    show (Function.update pending slot (some f) r.slot = none → timedOut = true) ∧
      ∀ g ∈ Function.update pending slot (some f) r.slot, g.seq_num = q
    by_cases hslot : slot = r.slot
    · subst hslot
      rw [Function.update_self]
      refine ⟨nofun, fun g hg => ?_⟩
      rw [← Option.some.inj hg]
      exact hfits rfl
    · rw [Function.update_of_ne (Ne.symm hslot)]
      exact ⟨hnone, hseq⟩
  | taking q timedOut =>
    obtain ⟨g, hg, hseq⟩ := h
    show ∃ g, Function.update pending slot (some f) .metrics = some g ∧ g.seq_num = q
    by_cases hslot : slot = .metrics
    · subst hslot
      exact ⟨f, Function.update_self .., hf rfl⟩
    · exact ⟨g, by rw [Function.update_of_ne (Ne.symm hslot)]; exact hg, hseq⟩

theorem signal_answering (s : SputterClient) (h : Answering s) (hd : s.dispatching = true) :
    Answering { s with event := true, dispatching := false } := by
  obtain ⟨seq, connected, pending, event, pc, dispatching, written, results⟩ := s
  have hwaits : ∀ r q,
      (r ≠ .connect → (pending (Request.slot r) = none → event = false ∧ dispatching = false) ∧
        ∀ g ∈ pending r.slot, g.seq_num = q) →
      r ≠ .connect → (pending r.slot = none → true = false ∧ false = false) ∧
        ∀ g ∈ pending r.slot, g.seq_num = q := by
    intro r q hanswer hr
    refine ⟨fun hnone => ?_, (hanswer hr).2⟩
    have hquiet := ((hanswer hr).1 hnone).2
    cases hquiet.symm.trans hd
  cases pc with
  | numbered r q => exact fun _ => rfl
  | cleared r q => exact hwaits r q h
  | waiting r q => exact hwaits r q h
  | _ => exact h

theorem step_inv (s : SputterClient) (a : Action) (ha : Undisturbed s a) (h : Inv s) :
    Inv (step s a) := by
  cases a with
  | call r =>
    rw [step]
    split
    · next hidle => exact ⟨h.typed, ha hidle, h.correct⟩
    · exact h
  | malformed =>
    rw [step]
    split
    · next hidle =>
      refine ⟨h.typed, ?_, h.correct⟩
      rw [Answering, hidle]
      trivial
    · exact h
  | send_heartbeat raises =>
    rw [step]
    split
    · next hidle =>
      refine ⟨h.typed, ?_, h.correct⟩
      rw [Answering, SputterClient.post, hidle]
      trivial
    · exact h
  | disconnect raises =>
    rw [step]
    split
    · next hidle =>
      refine ⟨h.typed, ?_, h.correct⟩
      rw [Answering, SputterClient.post, hidle.1]
      trivial
    · exact h
  | advance => exact advance_inv s h
  | timeout =>
    have hanswering := h.answering
    rw [step]
    split
    · next r q hpc =>
      rw [Answering, hpc] at hanswering
      exact ⟨h.typed, fun hr => ⟨fun _ => rfl, (hanswering hr).2⟩, h.correct⟩
    · exact h
  | writeError =>
    rw [step]
    split
    · exact ⟨h.typed, trivial, h.correct⟩
    · exact h
  | arrive f =>
    rw [step]
    split
    · exact h
    · next hidle =>
      rw [Bool.not_eq_true] at hidle
      rw [SputterClient.on_frame]
      split
      · exact h
      · next slot hslot =>
        exact ⟨updated_typed s slot (some f) h (fun g hg => Option.some.inj hg ▸ hslot),
          stored_answering s slot f hidle h.answering (ha hidle slot hslot), h.correct⟩
  | signal =>
    rw [step]
    split
    · next hd => exact ⟨h.typed, signal_answering s h.answering hd, h.correct⟩
    · exact h

theorem inv_robust (s : SputterClient) (h : Inv s) : Robust s := by
  intro cs hcs
  refine (run_invariant step Inv Finishing (fun s a ha hs => ?_) s h cs hcs).correct
  refine step_inv s a ?_ hs
  cases a with
  | call r => exact absurd ha id
  | arrive f => exact absurd ha id
  | _ => trivial

end Correlation

section Disturbances

theorem robust_step (s : SputterClient) (a : Action) (ha : Finishing a) (h : Robust s) :
    Robust (step s a) := by
  intro cs hcs
  refine h (a::cs) fun c hc => ?_
  rcases List.mem_cons.mp hc with rfl | hc
  · exact ha
  · exact hcs c hc

theorem robust_correct (s : SputterClient) (h : Robust s) : Correct s := h [] (by simp)

theorem finish_correlated (s : SputterClient) (r : Request) (seq : ℕ) (timedOut : Bool)
    (h : Correct (s.finish r seq timedOut)) :
    Correlated ⟨r, seq, s.pending r.slot, timedOut⟩ :=
  h _ (List.mem_append_right _ (List.mem_singleton_self _))

theorem taking_correlated (s : SputterClient) (seq : ℕ) (timedOut : Bool) (h : Robust s)
    (hpc : s.pc = .taking seq timedOut) :
    Correlated ⟨.request_metrics, seq, s.pending .metrics, timedOut⟩ := by
  have hnext := robust_correct _ (robust_step s .advance trivial h)
  rw [step, SputterClient.advance, hpc] at hnext
  exact finish_correlated s .request_metrics seq timedOut hnext

theorem woken_correlated (s : SputterClient) (r : Request) (seq : ℕ) (timedOut : Bool)
    (h : Robust s) (hpc : s.pc = .woken r seq timedOut) (hr : r ≠ .connect) :
    Correlated ⟨r, seq, s.pending r.slot, timedOut⟩ := by
  have hnext := robust_step s .advance trivial h
  rw [step, SputterClient.advance, hpc] at hnext
  cases r with
  | connect => exact absurd rfl hr
  | send_command payload => exact finish_correlated s _ seq timedOut (robust_correct _ hnext)
  | request_metrics =>
    dsimp only at hnext
    split at hnext
    · exact finish_correlated s .request_metrics seq timedOut (robust_correct _ hnext)
    · exact taking_correlated { s with pc := .taking seq timedOut } seq timedOut hnext rfl

theorem waiting_timeout (s : SputterClient) (r : Request) (seq : ℕ) (h : Robust s)
    (hpc : s.pc = .waiting r seq) (hr : r ≠ .connect) :
    Correlated ⟨r, seq, s.pending r.slot, true⟩ := by
  have hnext : Robust { s with pc := .woken r seq true } := by
    have hstep := robust_step s .timeout trivial h
    rw [step, hpc] at hstep
    exact hstep
  exact woken_correlated { s with pc := .woken r seq true } r seq true hnext rfl hr

theorem waiting_signal (s : SputterClient) (r : Request) (seq : ℕ) (h : Robust s)
    (hpc : s.pc = .waiting r seq) (hd : s.dispatching = true) (hr : r ≠ .connect) :
    Correlated ⟨r, seq, s.pending r.slot, false⟩ := by
  have hsignal : Robust { s with event := true, dispatching := false } := by
    have hstep := robust_step s .signal trivial h
    rw [step, if_pos hd] at hstep
    exact hstep
  have hnext : Robust { s with event := true, dispatching := false, pc := .woken r seq false } := by
    have hstep := robust_step _ .advance trivial hsignal
    rw [step, SputterClient.advance] at hstep
    dsimp only at hstep
    rw [hpc] at hstep
    exact hstep
  exact woken_correlated { s with event := true, dispatching := false, pc := .woken r seq false }
    r seq false hnext rfl hr

theorem cleared_robust (s : SputterClient) (r : Request) (seq : ℕ) (h : Robust s)
    (hpc : s.pc = .cleared r seq) :
    Robust { s with written := s.written ++ [r.frame seq], pc := .waiting r seq } := by
  have hnext := robust_step s .advance trivial h
  rw [step, SputterClient.advance, hpc] at hnext
  exact hnext

theorem numbered_quiet (s : SputterClient) (r : Request) (seq : ℕ) (h : Robust s)
    (hpc : s.pc = .numbered r seq) (hr : r ≠ .connect) : s.dispatching = false := by
  cases hd : s.dispatching with
  | false => rfl
  | true =>
    have hclear : Robust { s with
        pending := Function.update s.pending r.slot none
        event := false
        pc := .cleared r seq } := by
      have hnext := robust_step s .advance trivial h
      rw [step, SputterClient.advance, hpc] at hnext
      cases r with
      | connect => exact absurd rfl hr
      | send_command payload => exact hnext
      | request_metrics => exact hnext
    have hwait := cleared_robust _ r seq hclear rfl
    have hearly := (waiting_signal _ r seq hwait rfl hd hr).timeout
    dsimp only at hearly
    rw [Function.update_self] at hearly
    cases hearly rfl

/-- Behind the clear, a frame that is stored must be the reply or come behind it. -/
theorem waiting_harmless (s : SputterClient) (r : Request) (seq : ℕ) (slot : Slot)
    (f : DecodedFrame) (hr : r ≠ .connect)
    (h : Robust { s with
      pending := Function.update s.pending slot (some f), dispatching := true
      pc := .waiting r seq }) :
    if slot = r.slot then f.seq_num = seq else s.pending r.slot ≠ none := by
  split
  · next hslot =>
    have hreply := (waiting_timeout _ r seq h rfl hr).reply
    dsimp only at hreply
    rw [hslot, Function.update_self] at hreply
    exact (hreply f rfl).2
  · next hslot =>
    intro hnone
    have hearly := (waiting_signal _ r seq h rfl rfl hr).timeout
    dsimp only at hearly
    rw [Function.update_of_ne (Ne.symm hslot)] at hearly
    cases hearly hnone

theorem arrive_harmless (s : SputterClient) (f : DecodedFrame) (slot : Slot)
    (h : Robust { s with
      pending := Function.update s.pending slot (some f), dispatching := true }) :
    Harmless s f slot := by
  rw [Harmless]
  cases hpc : s.pc with
  | idle => trivial
  | forgotten q => trivial
  | numbered r q =>
    by_contra hr
    cases numbered_quiet _ r q h hpc hr
  | cleared r q =>
    refine or_iff_not_imp_left.mpr fun hr => ?_
    exact waiting_harmless { s with written := s.written ++ [r.frame q] } r q slot f hr
      (cleared_robust _ r q h hpc)
  | waiting r q =>
    refine or_iff_not_imp_left.mpr fun hr => ?_
    refine waiting_harmless s r q slot f hr ?_
    rw [← hpc]
    exact h
  | woken r q timedOut =>
    refine or_iff_not_imp_left.mpr fun hr hslot => ?_
    have hreply := (woken_correlated _ r q timedOut h hpc hr).reply
    dsimp only at hreply
    rw [hslot, Function.update_self] at hreply
    exact (hreply f rfl).2
  | taking q timedOut =>
    intro hslot
    have hreply := (taking_correlated _ q timedOut h hpc).reply
    dsimp only at hreply
    rw [hslot, Function.update_self] at hreply
    exact (hreply f rfl).2

theorem robust_undisturbed (s : SputterClient) (a : Action) (h : Robust (step s a)) :
    Undisturbed s a := by
  cases a with
  | call r =>
    intro hidle hr
    rw [step, if_pos hidle] at h
    exact numbered_quiet { s with seq := next_seq s.seq, pc := .numbered r s.seq } r s.seq h rfl hr
  | arrive f =>
    intro hd slot hslot
    rw [step, if_neg (by simp [hd]), SputterClient.on_frame, Option.mem_def.mp hslot] at h
    exact arrive_harmless s f slot h
  | _ => trivial

theorem new_inv : Inv .new := ⟨nofun, trivial, nofun⟩

/-- In a run without disturbances every call returns its own reply or times out, and
any disturbance lets the call in progress go wrong. -/
theorem replies_correlated_iff (as : List Action) :
    (Along step Undisturbed .new as → ∀ bs, bs <+: as → Correct (run step .new bs)) ∧
      ((∀ bs, bs <+: as → Robust (run step .new bs)) ↔ Along step Undisturbed .new as) := by
  have hiff := run_prefixes_iff step Inv Robust Undisturbed inv_robust step_inv
    (fun s a _ h => robust_undisturbed s a h) .new new_inv as
  exact ⟨fun h bs hbs => robust_correct _ (hiff.mpr h bs hbs), hiff⟩

end Disturbances

section Witnesses

def waits (r : Request) : List Action := [.call r, .advance, .advance]

def answered (f : DecodedFrame) : List Action := [.arrive f, .signal, .advance, .advance]

def expired : List Action := [.timeout, .advance]

def promptAck : List Action := waits (.send_command []) ++ answered ⟨.ACK, 0, [1]⟩

theorem replies_correlated_iff_prompt : Correct (run step .new promptAck) := by
  refine (replies_correlated_iff promptAck).1 ?_ promptAck (List.prefix_refl _)
  refine ⟨fun _ _ => rfl, trivial, trivial, ?_, trivial, trivial, trivial, trivial⟩
  intro _ slot hslot
  cases hslot
  exact Or.inr rfl

def lateAck : List Action :=
  waits (.send_command []) ++ expired ++ waits (.send_command []) ++ answered ⟨.ACK, 0, [1]⟩

def lateMetrics : List Action :=
  waits .request_metrics ++ expired ++ waits (.send_command []) ++
    answered ⟨.METRICS_RESP, 0, []⟩

theorem late_reply_returned :
    (run step .new lateAck).results =
        [⟨.send_command [], 0, none, true⟩,
          ⟨.send_command [], 1, some ⟨.ACK, 0, [1]⟩, false⟩] ∧
      (run step .new lateMetrics).results =
        [⟨.request_metrics, 0, none, true⟩, ⟨.send_command [], 1, none, false⟩] ∧
      ¬ Correct (run step .new lateAck) ∧ ¬ Correct (run step .new lateMetrics) := by
  have hack : (run step .new lateAck).results =
      [⟨.send_command [], 0, none, true⟩,
        ⟨.send_command [], 1, some ⟨.ACK, 0, [1]⟩, false⟩] := by decide
  have hmetrics : (run step .new lateMetrics).results =
      [⟨.request_metrics, 0, none, true⟩, ⟨.send_command [], 1, none, false⟩] := by decide
  refine ⟨hack, hmetrics, fun h => ?_, fun h => ?_⟩
  · rw [Correct, hack] at h
    have hreply := (h ⟨.send_command [], 1, some ⟨.ACK, 0, [1]⟩, false⟩ (by simp)).reply
    exact absurd (hreply _ rfl).2 (by decide)
  · rw [Correct, hmetrics] at h
    have htimeout := (h ⟨.send_command [], 1, none, false⟩ (by simp)).timeout
    exact absurd (htimeout rfl) (by decide)

end Witnesses

end SputterOS.Tools.Client
