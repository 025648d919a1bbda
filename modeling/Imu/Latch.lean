import Imu.Indexed
import Imu.Traced

/-!
The data-ready signals shared between interrupt handlers and the polling loop. An edge
sets its latch and runs the callback installed on it; a callback may itself use the
latches, raise further edges and replace callbacks, so one edge is the root of a finite
tree of nested operations, given here as a `Script`.
-/

namespace Imu

/-- Microseconds, of a clock that wraps. -/
structure EdgeRecord where
  interval : UInt32 := 0
  handler : UInt32 := 0
  lastEdge : Option UInt32 := none
  deriving DecidableEq

/-- The record of an edge handled from `entry` to `exit`, following the previous record. -/
def EdgeRecord.after (previous : EdgeRecord) (entry exit : UInt32) : EdgeRecord where
  interval :=
    match previous.lastEdge with
    | some last => entry - last
    | none => 0
  handler := exit - entry
  lastEdge := some entry

structure Latch (γ : Type) where
  pending : Bool := false
  callback : Option γ := none
  timing : EdgeRecord := {}
  deriving DecidableEq

structure Signals (γ : Type) where
  latches : Bank (Latch γ)
  clock : Readings UInt32

/-- What happens to the latches, in the order in which it acts on them. -/
inductive LatchEvent (γ : Type) where
  | clockRead (value : UInt32)
  | entered (latch : Nat)
  | called (callback : γ) (latch : Nat) (pending : Bool)
  | consumed (latch : Nat) (pending : Bool)
  | peeked (latch : Nat) (pending : Bool)
  | installed (latch : Nat) (callback : Option γ)
  | inspected (latch : Nat) (timing : EdgeRecord)
  | recorded (latch : Nat) (timing : EdgeRecord)
  deriving DecidableEq

inductive LatchOperation (γ : Type) where
  | consume
  | peek
  | install (callback : Option γ)
  | inspect
  deriving DecidableEq

/-- A finite sequence of operations. An edge says what each callback would do, were it the
one installed on the latch when the edge is entered. -/
inductive Script (γ : Type) where
  | done
  | act (latch : Nat) (operation : LatchOperation γ) (next : Script γ)
  | edge (latch : Nat) (timed : Bool) (reaction : γ → Script γ) (next : Script γ)

namespace Signals

variable {γ : Type}

abbrev Action (γ α : Type) : Type := Traced (LatchEvent γ) (Signals γ) α

def latch (signals : Signals γ) (index : Nat) : Latch γ := signals.latches.get index

def update (index : Nat) (latch : Latch γ) (signals : Signals γ) : Signals γ :=
  { signals with latches := signals.latches.set index latch }

def readClock : Action γ UInt32 :=
  Traced.act (fun signals => (signals.clock.next, { signals with clock := signals.clock.rest }))
    .clockRead

def consume (index : Nat) : Action γ Bool :=
  Traced.act
    (fun signals =>
      ((signals.latch index).pending,
        signals.update index { signals.latch index with pending := false }))
    (.consumed index)

def peek (index : Nat) : Action γ Bool :=
  Traced.act (fun signals => ((signals.latch index).pending, signals)) (.peeked index)

def install (index : Nat) (callback : Option γ) : Action γ Unit :=
  Traced.act
    (fun signals => ((), signals.update index { signals.latch index with callback := callback }))
    (fun _ => .installed index callback)

def inspect (index : Nat) : Action γ EdgeRecord :=
  Traced.act (fun signals => ((signals.latch index).timing, signals)) (.inspected index)

def enter (index : Nat) : Action γ (Option γ) :=
  Traced.act
    (fun signals =>
      ((signals.latch index).callback,
        signals.update index { signals.latch index with pending := true }))
    (fun _ => .entered index)

/-- A callback is handed its latch and can see whether that is pending. -/
def announce (callback : γ) (index : Nat) : Action γ Bool :=
  Traced.act (fun signals => ((signals.latch index).pending, signals)) (.called callback index)

/-- The previous record is the one found when this edge is complete. -/
def record (index : Nat) (entry exit : UInt32) : Action γ EdgeRecord :=
  Traced.act
    (fun signals =>
      ((signals.latch index).timing.after entry exit,
        signals.update index
          { signals.latch index with timing := (signals.latch index).timing.after entry exit }))
    (.recorded index)

def edge (index : Nat) (react : γ → Action γ Unit) : Action γ Unit := do
  let installed ← enter index
  match installed with
  | none => pure ()
  | some callback => do
    let _pending ← announce callback index
    react callback

def timedEdge (index : Nat) (react : γ → Action γ Unit) : Action γ Unit := do
  let entry ← readClock
  edge index react
  let exit ← readClock
  let _timing ← record index entry exit

def perform (index : Nat) : LatchOperation γ → Action γ Unit
  | .consume => do let _pending ← consume index
  | .peek => do let _pending ← peek index
  | .install callback => install index callback
  | .inspect => do let _timing ← inspect index

end Signals

namespace Script

variable {γ : Type}

def run : Script γ → Signals.Action γ Unit
  | done => pure ()
  | act latch operation next => do
    Signals.perform latch operation
    next.run
  | edge latch timed reaction next => do
    if timed then Signals.timedEdge latch fun callback => (reaction callback).run
    else Signals.edge latch fun callback => (reaction callback).run
    next.run

end Script

end Imu
