import Imu.Bus

/-!
A simulated board: one chip on the I2C bus and one behind the chip drivers. A chip has 256
registers, and faults that refuse accesses to them. Reads are numbered, refused ones
included, so that a fault can be placed in time as well as on a register. All driver
routines of a kind do the same; a probe claims the chip if its number is listed.
-/

namespace Imu.Simulator

structure Chip where
  present : Bool := true
  /-- The address it answers to on I2C. -/
  address : UInt8 := 0x68
  refuseReads : Bool := false
  refuseWrites : Bool := false
  refusedReadRegisters : List UInt8 := []
  refusedWriteRegisters : List UInt8 := []
  /-- Verified writes to these are stored but not acknowledged. -/
  unverifiable : List UInt8 := []
  refusedReads : List Nat := []
  reads : Nat := 0
  /-- What a refused read leaves in the whole buffer, if it touches it. -/
  scribble : Option UInt8 := none
  registers : UInt8 → UInt8 := fun _ => 0

namespace Chip

def absent : Chip := { present := false }

def store (register data : UInt8) (chip : Chip) : Chip :=
  { chip with registers := fun other => if other = register then data else chip.registers other }

/-- Consecutive registers from the given one, wrapping after the last. -/
def load (chip : Chip) (register : UInt8) : List UInt8 → Chip
  | [] => chip
  | data :: rest => (chip.store register data).load (register + 1) rest

def clear (chip : Chip) : Chip := { chip with registers := fun _ => 0 }

def answersRead (chip : Chip) (register : UInt8) : Bool :=
  chip.present && !chip.refuseReads && !chip.refusedReadRegisters.contains register &&
    !chip.refusedReads.contains chip.reads

def answersWrite (chip : Chip) (register : UInt8) : Bool :=
  chip.present && !chip.refuseWrites && !chip.refusedWriteRegisters.contains register

def burst (chip : Chip) (register : UInt8) (size : Nat) : Vector UInt8 size :=
  Vector.ofFn fun offset => chip.registers (register + UInt8.ofNat offset)

def spoil {size : Nat} (chip : Chip) (buffer : Vector UInt8 size) : Vector UInt8 size :=
  match chip.scribble with
  | some filler => Vector.replicate size filler
  | none => buffer

/-- A chip that is not selected refuses every access. -/
def read {size : Nat} (selected : Bool) (register : UInt8) (buffer : Vector UInt8 size)
    (chip : Chip) : ReadReply size × Chip :=
  (if selected && chip.answersRead register then ⟨true, chip.burst register size⟩
    else ⟨false, chip.spoil buffer⟩,
    { chip with reads := chip.reads + 1 })

def write (selected : Bool) (register data : UInt8) (chip : Chip) : Bool × Chip :=
  if selected && chip.answersWrite register then (true, chip.store register data)
  else (false, chip)

def verifiedWrite (register data : UInt8) (chip : Chip) : Bool × Chip :=
  let done := chip.write true register data
  (done.1 && !chip.unverifiable.contains register, done.2)

/-- Only the two register transactions are understood. -/
instance : I2c Chip where
  writeRead address bytes buffer chip :=
    match bytes with
    | [register] => chip.read (address == chip.address) register buffer
    | _ => (⟨false, buffer⟩, chip)
  write address bytes chip :=
    match bytes with
    | [register, data] => chip.write (address == chip.address) register data
    | _ => (false, chip)

end Chip

structure Secondary where
  chip : Chip := .absent
  claims : List Nat := []

abbrev SimulatedBoard : Type := Board Chip Secondary

namespace SimulatedBoard

def onChip {α : Type} (action : Chip → α × Chip) (board : SimulatedBoard) : α × SimulatedBoard :=
  let done := action board.secondary.chip
  (done.1, { board with secondary := { board.secondary with chip := done.2 } })

instance : ChipDrivers SimulatedBoard where
  read _ register buffer := onChip (Chip.read true register buffer)
  write _ register data := onChip (Chip.write true register data)
  verifiedWrite _ register data := onChip (Chip.verifiedWrite register data)
  reset _ board := (onChip (fun chip => ((), chip.clear)) board).2
  probe index board := (board.secondary.claims.contains index, board)

def bare : SimulatedBoard := ⟨{ controller := .absent }, {}⟩

/-- Release the I2C controller and wrap it again, for another address of the unit. -/
def rewrap (address : UInt8) (board : SimulatedBoard) : SimulatedBoard :=
  { board with primary := { controller := board.primary.release, address := address } }

def changePrimary (change : Chip → Chip) (board : SimulatedBoard) : SimulatedBoard :=
  { board with primary := { board.primary with controller := change board.primary.controller } }

def changeSecondary (change : Chip → Chip) (board : SimulatedBoard) : SimulatedBoard :=
  { board with secondary := { board.secondary with chip := change board.secondary.chip } }

def claim (claims : List Nat) (board : SimulatedBoard) : SimulatedBoard :=
  { board with secondary := { board.secondary with claims := claims } }

end SimulatedBoard

end Imu.Simulator
