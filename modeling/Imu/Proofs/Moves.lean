import Imu.Latch

/-!
All that can happen to the latches, one move for each recorded event. Whatever a program over
them does, it is a walk of such moves, so what each move keeps the whole of a run keeps, however
deep its edges are nested.
-/

namespace Imu.Signals

variable {γ α δ : Type}

/-- The single actions on the latches, by the event that each is recorded as. -/
inductive Move (signals : Signals γ) : LatchEvent γ → Signals γ → Prop where
  | clockRead :
    Move signals (.clockRead signals.clock.next) { signals with clock := signals.clock.rest }
  | entered (index : Nat) :
    Move signals (.entered index)
      (signals.update index { signals.latch index with pending := true })
  | called (callback : γ) (index : Nat) :
    Move signals (.called callback index (signals.latch index).pending) signals
  | consumed (index : Nat) :
    Move signals (.consumed index (signals.latch index).pending)
      (signals.update index { signals.latch index with pending := false })
  | peeked (index : Nat) : Move signals (.peeked index (signals.latch index).pending) signals
  | installed (index : Nat) (callback : Option γ) :
    Move signals (.installed index callback)
      (signals.update index { signals.latch index with callback := callback })
  | inspected (index : Nat) : Move signals (.inspected index (signals.latch index).timing) signals
  | recorded (index : Nat) (entry exit : UInt32) :
    Move signals (.recorded index ((signals.latch index).timing.after entry exit))
      (signals.update index
        { signals.latch index with timing := (signals.latch index).timing.after entry exit })

inductive Walk : Signals γ → List (LatchEvent γ) → Signals γ → Prop where
  | rest (signals : Signals γ) : Walk signals [] signals
  | step {start middle finish : Signals γ} {event : LatchEvent γ} {events : List (LatchEvent γ)}
    (move : start.Move event middle) (later : Walk middle events finish) :
    Walk start (event :: events) finish

theorem Walk.append {start middle finish : Signals γ} {earlier later : List (LatchEvent γ)}
    (first : Walk start earlier middle) (second : Walk middle later finish) :
    Walk start (earlier ++ later) finish := by
  induction first with
  | rest => exact second
  | step move _ ih => exact .step move (ih second)

theorem Walk.split {start finish : Signals γ} {earlier later : List (LatchEvent γ)}
    (walk : Walk start (earlier ++ later) finish) :
    ∃ middle, Walk start earlier middle ∧ Walk middle later finish := by
  induction earlier generalizing start with
  | nil => exact ⟨start, .rest start, walk⟩
  | cons event rest ih =>
    cases walk with
    | step move remaining =>
      obtain ⟨middle, first, second⟩ := ih remaining
      exact ⟨middle, .step move first, second⟩

def Walks (program : Action γ α) : Prop :=
  ∀ signals, Walk signals (program.run signals).events (program.run signals).state

theorem walks_pure (value : α) : Walks (pure value : Action γ α) := fun signals => .rest signals

theorem Walks.bind {first : Action γ α} {next : α → Action γ δ} (walks : Walks first)
    (rest : ∀ value, Walks (next value)) : Walks (first >>= next) :=
  fun signals => (walks signals).append (rest _ _)

theorem walks_act {action : Signals γ → α × Signals γ} {event : α → LatchEvent γ}
    (move : ∀ signals, Move signals (event (action signals).1) (action signals).2) :
    Walks (Traced.act action event) :=
  fun signals => .step (move signals) (.rest _)

theorem walks_readClock : Walks (readClock : Action γ UInt32) := walks_act fun _ => .clockRead

theorem walks_consume (index : Nat) : Walks (consume index : Action γ Bool) :=
  walks_act fun _ => .consumed index

theorem walks_peek (index : Nat) : Walks (peek index : Action γ Bool) :=
  walks_act fun _ => .peeked index

theorem walks_install (index : Nat) (callback : Option γ) : Walks (install index callback) :=
  walks_act fun _ => .installed index callback

theorem walks_inspect (index : Nat) : Walks (inspect index : Action γ EdgeRecord) :=
  walks_act fun _ => .inspected index

theorem walks_edge (index : Nat) {react : γ → Action γ Unit}
    (reaction : ∀ callback, Walks (react callback)) : Walks (edge index react) := by
  apply Walks.bind (walks_act fun _ => .entered index)
  intro installed
  cases installed with
  | none => exact walks_pure ()
  | some callback =>
    exact (walks_act fun _ => .called callback index).bind fun _ => reaction callback

theorem walks_timedEdge (index : Nat) {react : γ → Action γ Unit}
    (reaction : ∀ callback, Walks (react callback)) : Walks (timedEdge index react) := by
  apply walks_readClock.bind
  intro entry
  apply (walks_edge index reaction).bind
  intro _
  apply walks_readClock.bind
  intro exit
  exact (walks_act fun _ => .recorded index entry exit).bind fun _ => walks_pure ()

/-- The finite programs over the latches. What one does next may depend on all it has seen, and
so may what a callback does. -/
inductive Program : {α : Type} → Action γ α → Prop where
  | pure {α : Type} (value : α) : Program (Pure.pure value)
  | bind {α δ : Type} {first : Action γ α} {next : α → Action γ δ} (begin : Program first)
    (proceed : ∀ value, Program (next value)) : Program (first >>= next)
  | readClock : Program readClock
  | consume (index : Nat) : Program (consume index)
  | peek (index : Nat) : Program (peek index)
  | install (index : Nat) (callback : Option γ) : Program (install index callback)
  | inspect (index : Nat) : Program (inspect index)
  | edge (index : Nat) {react : γ → Action γ Unit}
    (reaction : ∀ callback, Program (react callback)) : Program (edge index react)
  | timedEdge (index : Nat) {react : γ → Action γ Unit}
    (reaction : ∀ callback, Program (react callback)) : Program (timedEdge index react)

theorem Program.walks {program : Action γ α} (finite : Program program) : Walks program := by
  induction finite with
  | pure value => exact walks_pure value
  | bind _ _ begins proceeds => exact begins.bind proceeds
  | readClock => exact walks_readClock
  | consume index => exact walks_consume index
  | peek index => exact walks_peek index
  | install index callback => exact walks_install index callback
  | inspect index => exact walks_inspect index
  | edge index _ reacts => exact walks_edge index reacts
  | timedEdge index _ reacts => exact walks_timedEdge index reacts

theorem program_perform (index : Nat) (operation : LatchOperation γ) :
    Program (perform index operation) := by
  cases operation with
  | consume => exact (Program.consume index).bind fun _ => .pure ()
  | peek => exact (Program.peek index).bind fun _ => .pure ()
  | install callback => exact .install index callback
  | inspect => exact (Program.inspect index).bind fun _ => .pure ()

end Imu.Signals

namespace Imu.Script

variable {γ : Type}

theorem program_run (script : Script γ) : Signals.Program script.run := by
  induction script with
  | done => exact .pure ()
  | act latch operation next ih => exact (Signals.program_perform latch operation).bind fun _ => ih
  | edge latch timed reaction next reacts ih =>
    cases timed with
    | false => exact (Signals.Program.edge latch reacts).bind fun _ => ih
    | true => exact (Signals.Program.timedEdge latch reacts).bind fun _ => ih

end Imu.Script
