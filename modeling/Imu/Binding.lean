import Imu.Burst
import Imu.Event

/-!
The routines bound to an identified chip. A binding is chosen once and never changes; what
it lacks is either replaced by the plain routine of the same kind or reported absent. Those
to choose from come with the chip drivers a board is built with, in the order in which they
are asked. Their list is bounded; a candidate that does not fit is refused and the list
stays as it was.
-/

namespace Imu

structure Binding where
  read : ReadRoutine
  write : WriteRoutine
  /-- For chips whose configuration registers cannot be read at full speed. -/
  slowRead : Option ReadRoutine := none
  verifiedWrite : Option WriteRoutine := none
  reset : Option Nat := none
  gyroRegister : UInt8
  deriving DecidableEq

namespace Binding

def primary (gyroRegister : UInt8) : Binding where
  read := .primary
  write := .primary
  gyroRegister := gyroRegister

def slowest (binding : Binding) : ReadRoutine := binding.slowRead.getD binding.read

def safest (binding : Binding) : WriteRoutine := binding.verifiedWrite.getD binding.write

end Binding

inductive Call where
  | read (register : UInt8) (size : Nat) (buffer : Vector UInt8 size)
  | slowRead (register : UInt8) (size : Nat) (buffer : Vector UInt8 size)
  | write (register data : UInt8)
  | verifiedWrite (register data : UInt8)
  | reset

inductive CallReply where
  | filled (ack : Bool) (buffer : List UInt8)
  | acknowledged (ack : Bool)
  | completed
  | absent
  deriving DecidableEq

/-- What an acknowledgement means to the caller of an operation. -/
def confirmed (ack : Bool) : Except Failure Unit := if ack then .ok () else .error .noAck

namespace Binding

variable {β : Type} [Bus β]

def readSample (register : UInt8) (binding : Binding) :
    Traced Event β (Except Failure Sample) := do
  let reply ← Event.burst 6 binding.read register
  if reply.ack then pure (.ok (Sample.ofBurst (Burst.ofBuffer reply.buffer)))
  else pure (.error .noAck)

def callRead {size : Nat} (register : UInt8) (buffer : Vector UInt8 size) :
    Option ReadRoutine → Traced Event β CallReply
  | none => pure .absent
  | some via => do
    let reply ← Event.readVia via register buffer
    pure (.filled reply.ack reply.buffer.toList)

def callWrite (register data : UInt8) : Option WriteRoutine → Traced Event β CallReply
  | none => pure .absent
  | some via => do
    let ack ← Event.writeVia via register data
    pure (.acknowledged ack)

def callReset : Option Nat → Traced Event β CallReply
  | none => pure .absent
  | some index => do
    Event.resetVia index
    pure .completed

def call (binding : Binding) : Call → Traced Event β CallReply
  | .read register _ buffer => callRead register buffer (some binding.read)
  | .slowRead register _ buffer => callRead register buffer binding.slowRead
  | .write register data => callWrite register data (some binding.write)
  | .verifiedWrite register data => callWrite register data binding.verifiedWrite
  | .reset => callReset binding.reset

end Binding

/-- A driver that claims the chip makes it the given family, reached through the given binding. -/
structure Candidate where
  family : Family
  routine : Nat
  binding : Binding
  deriving DecidableEq

def CandidateList.capacity : Nat := 8

structure CandidateList where
  entries : List Candidate
  bounded : entries.length ≤ CandidateList.capacity
  deriving DecidableEq

namespace CandidateList

def empty : CandidateList := ⟨[], Nat.zero_le _⟩

def length (list : CandidateList) : Nat := list.entries.length

def isEmpty (list : CandidateList) : Bool := list.entries.isEmpty

def push (list : CandidateList) (candidate : Candidate) : Except Failure CandidateList :=
  if room : list.length < capacity then
    .ok ⟨list.entries ++ [candidate], by rw [List.length_append]; exact room⟩
  else .error .listFull

/-- Each attempt in turn, and the list that those with room made. -/
def pushAll (list : CandidateList) : List Candidate → List (Except Failure Unit) × CandidateList
  | [] => ([], list)
  | candidate :: rest =>
    match list.push candidate with
    | .ok longer =>
      let later := longer.pushAll rest
      (.ok () :: later.1, later.2)
    | .error refusal =>
      let later := list.pushAll rest
      (.error refusal :: later.1, later.2)

theorem push_of_room {list : CandidateList} (candidate : Candidate)
    (room : list.length < capacity) :
    ∃ longer, list.push candidate = .ok longer ∧ longer.entries = list.entries ++ [candidate] :=
  ⟨_, dif_pos room, rfl⟩

theorem push_of_full {list : CandidateList} (candidate : Candidate)
    (full : ¬ list.length < capacity) :
    list.push candidate = .error .listFull := dif_neg full

def askAll {β : Type} [Bus β] : List Candidate → Traced Event β (List Bool)
  | [] => pure []
  | candidate :: rest => do
    let claimed ← Event.probeVia candidate.routine
    let later ← askAll rest
    pure (claimed :: later)

end CandidateList

end Imu
