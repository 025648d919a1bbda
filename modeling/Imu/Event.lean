import Imu.Bus
import Imu.Indexed

/-!
The board-level settings of the unit, the line on which it announces a fresh sample, and
everything it does to the world outside it: as data, and as the single steps that do it. A
device operation is a program made of these steps, so its record is complete.
-/

namespace Imu

/-- The transition of the data-ready line that raises the interrupt. -/
inductive Trigger where
  | rising
  | falling
  deriving DecidableEq

def Trigger.name : Trigger → String
  | rising => "Rising"
  | falling => "Falling"

/-- What looking at the data-ready line finds; reading a pin can fail. -/
inductive Level where
  | high
  | low
  | failed
  deriving DecidableEq

abbrev Line : Type := Readings Level

/-- A line that is not wired to anything still reads low. -/
def Line.unconnected : Line := Readings.constant .low

structure Settings where
  /-- In milliseconds. The chip needs 30 of them after power-up. -/
  settleDelay : UInt32 := 35
  priority : UInt8 := 15
  trigger : Trigger := .rising
  /-- Refuse to arm the interrupt unless the line reads low. -/
  requireIdleLine : Bool := false
  deriving DecidableEq

inductive Event where
  | delay (milliseconds : UInt32)
  | access (call : Access)
  /-- The handler is the one given to the operation that escalates. -/
  | report (handler : Nat) (alarm : Alarm)
  | lineRead (level : Level)
  | lineEnabled (trigger : Trigger) (priority : UInt8)
  deriving DecidableEq

namespace Event

variable {β : Type}

def wait (milliseconds : UInt32) : Traced Event β Unit := Traced.emit (.delay milliseconds)

def escalate (handler : Nat) (alarm : Alarm) : Traced Event β Unit :=
  Traced.emit (.report handler alarm)

def readVia [Bus β] {size : Nat} (via : ReadRoutine) (register : UInt8)
    (buffer : Vector UInt8 size) : Traced Event β (ReadReply size) :=
  Traced.act (via.perform register buffer) fun reply =>
    .access (.read via register reply.buffer.toList reply.ack)

/-- A read into a fresh buffer. -/
def burst [Bus β] (size : Nat) (via : ReadRoutine) (register : UInt8) :
    Traced Event β (ReadReply size) :=
  readVia via register (Vector.replicate size 0)

def writeVia [Bus β] (via : WriteRoutine) (register data : UInt8) : Traced Event β Bool :=
  Traced.act (via.perform register data) fun ack => .access (.write via register data ack)

def resetVia [Bus β] (index : Nat) : Traced Event β Unit :=
  Traced.act (fun bus => ((), ChipDrivers.reset index bus)) fun _ => .access (.reset index)

def probeVia [Bus β] (index : Nat) : Traced Event β Bool :=
  Traced.act (ChipDrivers.probe index) fun claimed => .access (.probe index claimed)

def readLine : Traced Event Line Level := Traced.act Readings.look .lineRead

def enableLine (trigger : Trigger) (priority : UInt8) : Traced Event Line Unit :=
  Traced.emit (.lineEnabled trigger priority)

end Event

end Imu
