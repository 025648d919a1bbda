import Imu.Sensor
import Imu.Traced

/-!
How registers are reached. A board context answers for its primary transport and for the
numbered routines of the chip drivers built into it; an access through either is one
recorded `Access`. Contexts are arbitrary: what an access returns may depend on all that
happened before it. On a `Board` the primary transport is an I2C bus, with one transaction
for each access: the register number is written and the answer read, or the register number
and the new value are written.
-/

namespace Imu

/-- The buffer is the caller's. A refused read may have left anything in it. -/
structure ReadReply (size : Nat) where
  ack : Bool
  buffer : Vector UInt8 size

def ReadReply.byte (reply : ReadReply 1) : UInt8 := reply.buffer[0]

class PrimaryTransport (β : Type) where
  readRegisters : {size : Nat} → UInt8 → Vector UInt8 size → β → ReadReply size × β
  writeRegister : UInt8 → UInt8 → β → Bool × β

/-- Routines of the chip drivers, by number. -/
class ChipDrivers (β : Type) where
  read : {size : Nat} → Nat → UInt8 → Vector UInt8 size → β → ReadReply size × β
  write : Nat → UInt8 → UInt8 → β → Bool × β
  verifiedWrite : Nat → UInt8 → UInt8 → β → Bool × β
  reset : Nat → β → β
  probe : Nat → β → Bool × β

class Bus (β : Type) extends PrimaryTransport β, ChipDrivers β

inductive ReadRoutine where
  | primary
  | driver (index : Nat)
  deriving DecidableEq

inductive WriteRoutine where
  | primary
  | driver (index : Nat)
  /-- Reads the register back before it acknowledges. -/
  | verifying (index : Nat)
  deriving DecidableEq

/-- One call on the board context. A read shows the buffer as the call left it. -/
inductive Access where
  | read (via : ReadRoutine) (register : UInt8) (buffer : List UInt8) (ack : Bool)
  | write (via : WriteRoutine) (register data : UInt8) (ack : Bool)
  | reset (index : Nat)
  | probe (index : Nat) (claimed : Bool)
  deriving DecidableEq

namespace ReadRoutine

def perform {β : Type} [Bus β] {size : Nat} (register : UInt8) (buffer : Vector UInt8 size) :
    ReadRoutine → β → ReadReply size × β
  | primary => PrimaryTransport.readRegisters register buffer
  | driver index => ChipDrivers.read index register buffer

end ReadRoutine

namespace WriteRoutine

def perform {β : Type} [Bus β] (register data : UInt8) : WriteRoutine → β → Bool × β
  | primary => PrimaryTransport.writeRegister register data
  | driver index => ChipDrivers.write index register data
  | verifying index => ChipDrivers.verifiedWrite index register data

end WriteRoutine

/-- An I2C controller; the first argument of a transaction is the 7-bit address. -/
class I2c (ι : Type) where
  writeRead : {size : Nat} → UInt8 → List UInt8 → Vector UInt8 size → ι → ReadReply size × ι
  write : UInt8 → List UInt8 → ι → Bool × ι

structure I2cDevice (ι : Type) where
  controller : ι
  address : UInt8 := 0x68

namespace I2cDevice

variable {ι : Type}

def release (bus : I2cDevice ι) : ι := bus.controller

instance [I2c ι] : PrimaryTransport (I2cDevice ι) where
  readRegisters register buffer bus :=
    let done := I2c.writeRead bus.address [register] buffer bus.controller
    (done.1, { bus with controller := done.2 })
  writeRegister register data bus :=
    let done := I2c.write bus.address [register, data] bus.controller
    (done.1, { bus with controller := done.2 })

end I2cDevice

/-- The chip drivers work on whatever else the board has, and may use the I2C bus as well. -/
structure Board (ι σ : Type) where
  primary : I2cDevice ι
  secondary : σ

namespace Board

variable {ι σ : Type}

instance [I2c ι] : PrimaryTransport (Board ι σ) where
  readRegisters register buffer board :=
    let done := PrimaryTransport.readRegisters register buffer board.primary
    (done.1, { board with primary := done.2 })
  writeRegister register data board :=
    let done := PrimaryTransport.writeRegister register data board.primary
    (done.1, { board with primary := done.2 })

instance [I2c ι] [ChipDrivers (Board ι σ)] : Bus (Board ι σ) where

end Board

end Imu
