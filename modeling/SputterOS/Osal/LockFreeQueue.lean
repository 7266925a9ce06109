import SputterOS.Foundation.BoundedFifo
import SputterOS.Foundation.Transition

/-!
# The lock-free queue

One producer and one consumer share a ring of `Capacity+1` slots. Every atomic
load or store and every slot access of a call is one step of its party, and
the steps of the two parties interleave in any order. The history and the
record of written slots are not read by the code.
-/

set_option autoImplicit false

namespace SputterOS.LockFreeQueue
open Foundation.Linearizability Foundation.BoundedFifo

variable {α : Type*}

def kSlots (Capacity : ℕ) : ℕ := Capacity+1

structure Memory (α : Type*) where
  buf : ℕ → α
  head : ℕ
  tail : ℕ

inductive Producer (α : Type*) where
  | idle
  | pushLoadHead (cmd : α)
  | pushLoadTail (cmd : α) (head : ℕ)
  | pushWrite (cmd : α) (head : ℕ)
  | pushStore (cmd : α) (head : ℕ)
  | sizeLoadHead
  | sizeLoadTail (head : ℕ)

inductive Consumer (α : Type*) where
  | idle
  | popLoadTail
  | popLoadHead (tail : ℕ)
  | popRead (tail : ℕ)
  | popStore (tail : ℕ) (cmd : α)
  | sizeLoadHead
  | sizeLoadTail (head : ℕ)

inductive Return (α : Type*) where
  | result (r : Result α)
  | size (n : ℕ)

def sizeOf (Capacity head tail : ℕ) : ℕ :=
  if head ≥ tail then head-tail else kSlots Capacity-tail+head

def produce (Capacity : ℕ) : Producer α → Memory α → Memory α × Producer α × Option (Return α)
  | .idle, m => (m, .idle, none)
  | .pushLoadHead cmd, m => (m, .pushLoadTail cmd m.head, none)
  | .pushLoadTail cmd head, m =>
    if (head+1) % kSlots Capacity = m.tail then (m, .idle, some (.result (.pushed false)))
    else (m, .pushWrite cmd head, none)
  | .pushWrite cmd head, m =>
    ({ m with buf := Function.update m.buf head cmd }, .pushStore cmd head, none)
  | .pushStore _ head, m =>
    ({ m with head := (head+1) % kSlots Capacity }, .idle, some (.result (.pushed true)))
  | .sizeLoadHead, m => (m, .sizeLoadTail m.head, none)
  | .sizeLoadTail head, m => (m, .idle, some (.size (sizeOf Capacity head m.tail)))

def consume (Capacity : ℕ) : Consumer α → Memory α → Memory α × Consumer α × Option (Return α)
  | .idle, m => (m, .idle, none)
  | .popLoadTail, m => (m, .popLoadHead m.tail, none)
  | .popLoadHead tail, m =>
    if tail = m.head then (m, .idle, some (.result (.popped none)))
    else (m, .popRead tail, none)
  | .popRead tail, m => (m, .popStore tail (m.buf tail), none)
  | .popStore tail cmd, m =>
    ({ m with tail := (tail+1) % kSlots Capacity }, .idle, some (.result (.popped (some cmd))))
  | .sizeLoadHead, m => (m, .sizeLoadTail m.head, none)
  | .sizeLoadTail head, m => (m, .idle, some (.size (sizeOf Capacity head m.tail)))

def slotOpen : Producer α → Option ℕ
  | .pushWrite _ head => some head
  | .pushStore _ head => some head
  | _ => none

def slotRead : Consumer α → Option ℕ
  | .popRead tail => some tail
  | _ => none

inductive Party where
  | producer
  | consumer
  deriving DecidableEq

structure State (α : Type*) where
  memory : Memory α
  producer : Producer α
  consumer : Consumer α
  written : ℕ → Bool
  history : List (Event Party (Operation α) (Result α))
  sizes : List ℕ

def initial [Inhabited α] : State α :=
  ⟨⟨fun _ => default, 0, 0⟩, .idle, .idle, fun _ => false, [], []⟩

inductive Action (α : Type*) where
  | callPush (cmd : α)
  | callProducerSize
  | producerStep
  | callPop
  | callConsumerSize
  | consumerStep

def recordWrite : Producer α → (ℕ → Bool) → (ℕ → Bool)
  | .pushWrite _ head, written => Function.update written head true
  | _, written => written

def State.respond (s : State α) (p : Party) : Option (Return α) → State α
  | none => s
  | some (.result r) => { s with history := s.history ++ [.respond p r] }
  | some (.size n) => { s with sizes := s.sizes ++ [n] }

def producerStep (Capacity : ℕ) (s : State α) : State α :=
  let r := produce Capacity s.producer s.memory
  State.respond { s with memory := r.1, producer := r.2.1, written := recordWrite s.producer s.written }
    .producer r.2.2

def consumerStep (Capacity : ℕ) (s : State α) : State α :=
  let r := consume Capacity s.consumer s.memory
  State.respond { s with memory := r.1, consumer := r.2.1 } .consumer r.2.2

/-- A party takes a call only when it is not inside another one. -/
def step (Capacity : ℕ) (s : State α) : Action α → State α
  | .callPush cmd =>
    match s.producer with
    | .idle => { s with producer := .pushLoadHead cmd, history := s.history ++ [.invoke .producer (.push cmd)] }
    | _ => s
  | .callProducerSize =>
    match s.producer with
    | .idle => { s with producer := .sizeLoadHead }
    | _ => s
  | .producerStep => producerStep Capacity s
  | .callPop =>
    match s.consumer with
    | .idle => { s with consumer := .popLoadTail, history := s.history ++ [.invoke .consumer .pop] }
    | _ => s
  | .callConsumerSize =>
    match s.consumer with
    | .idle => { s with consumer := .sizeLoadHead }
    | _ => s
  | .consumerStep => consumerStep Capacity s

def State.accepted (s : State α) : List α := Foundation.BoundedFifo.accepted (outcomes s.history)

def State.delivered (s : State α) : List α := Foundation.BoundedFifo.delivered (outcomes s.history)

def State.held (s : State α) : ℕ := s.accepted.length-s.delivered.length

end SputterOS.LockFreeQueue
