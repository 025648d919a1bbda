import Imu.Finding

/-!
The gyroscope owns the outcome of identification, which is settled once. Until a
supported chip is settled on, every bus operation is refused without touching the bus.
Arming the data-ready interrupt is independent of that and also happens once. The
accelerometer sits on the same chip in every family and has no routines of its own: each
read of it goes through the binding of its gyroscope.
-/

namespace Imu

/-- How far identification has come. Only `undetermined` is ever left. -/
inductive Standing where
  | undetermined
  | settled (found : Finding)
  | unsupported
  deriving DecidableEq

structure Gyro where
  settings : Settings
  /-- Which latch the data-ready interrupt of this unit sets. -/
  latch : Nat
  wired : Bool
  standing : Standing := .undetermined
  armed : Bool := false
  raw : Sample := .zero
  deriving DecidableEq

namespace Gyro

def fresh (settings : Settings) (latch : Nat) (wired : Bool) : Gyro where
  settings := settings
  latch := latch
  wired := wired

def identification (gyro : Gyro) : Identification :=
  match gyro.standing with
  | .undetermined => .undetected
  | .settled found => found.identification
  | .unsupported => ⟨.mpu60x0, none⟩

def family (gyro : Gyro) : Family := gyro.identification.family

def resolution (gyro : Gyro) : Option Resolution := gyro.identification.resolution

def binding (gyro : Gyro) : Option Binding :=
  match gyro.standing with
  | .settled found => found.binding
  | .undetermined | .unsupported => none

def readable (gyro : Gyro) : Except Failure Binding :=
  if gyro.standing = .unsupported then .error .unsupported
  else if gyro.family = .unknown then .error .undetected
  else
    match gyro.binding with
    | some binding => .ok binding
    | none => .error .undetected

section

variable {α β : Type} [Bus β]

/-- An operation through the bound binding, refused before it touches the bus. -/
def through (gyro : Gyro)
    (operation : Binding → Traced Event β (Except Failure α)) :
    Traced Event β (Except Failure α) :=
  match gyro.readable with
  | .ok binding => operation binding
  | .error refusal => pure (.error refusal)

/-- What an attempt at identification makes of the unit. An interrupted one makes nothing. -/
def settle (gyro : Gyro) (handler : Nat) :
    Except Failure Finding → Traced Event β (Except Failure Family × Gyro)
  | .ok found => pure (.ok found.identification.family, { gyro with standing := .settled found })
  | .error .unsupported => do
    Event.escalate handler .accelUnsupported
    pure (.error .unsupported, { gyro with standing := .unsupported })
  | .error other => pure (.error other, gyro)

/-- Once settled, the first outcome is repeated without touching the bus. -/
def identify (gyro : Gyro) (candidates : CandidateList) (handler : Nat) :
    Traced Event β (Except Failure Family × Gyro) :=
  match gyro.standing with
  | .unsupported => pure (.error .unsupported, gyro)
  | .settled found => pure (.ok found.identification.family, gyro)
  | .undetermined => do
    let outcome ← Finding.search gyro.settings.settleDelay candidates
    gyro.settle handler outcome

/-- A failed read keeps the previous sample. -/
def read (gyro : Gyro) : Traced Event β (Except Failure Unit × Gyro) := do
  let sample ← gyro.through fun binding => binding.readSample binding.gyroRegister
  match sample with
  | .ok raw => pure (.ok (), { gyro with raw := raw })
  | .error failure => pure (.error failure, gyro)

/-- Also yields the buffer, which a refusal leaves alone. -/
def slowRead (gyro : Gyro) (register : UInt8) {size : Nat} (buffer : Vector UInt8 size) :
    Traced Event β (Except Failure Unit × Vector UInt8 size) :=
  match gyro.readable with
  | .error refusal => pure (.error refusal, buffer)
  | .ok binding => do
    let reply ← Event.readVia binding.slowest register buffer
    pure (confirmed reply.ack, reply.buffer)

def write (gyro : Gyro) (register data : UInt8) : Traced Event β (Except Failure Unit) :=
  gyro.through fun binding => do
    let ack ← Event.writeVia binding.write register data
    pure (confirmed ack)

def writeVerified (gyro : Gyro) (register data : UInt8) :
    Traced Event β (Except Failure Unit) :=
  gyro.through fun binding => do
    let ack ← Event.writeVia binding.safest register data
    pure (confirmed ack)

/-- Yields whether the chip has a reset routine; one that has none is left as it is. -/
def reset (gyro : Gyro) : Traced Event β (Except Failure Bool) :=
  gyro.through fun binding =>
    match binding.reset with
    | some index => do
      Event.resetVia index
      pure (.ok true)
    | none => pure (.ok false)

end

def enableLine (gyro : Gyro) : Traced Event Line (Bool × Gyro) := do
  Event.enableLine gyro.settings.trigger gyro.settings.priority
  pure (true, { gyro with armed := true })

/-- A refused call changes nothing and can be repeated. -/
def arm (gyro : Gyro) : Traced Event Line (Bool × Gyro) :=
  if gyro.armed then pure (true, gyro)
  else if gyro.wired then
    if gyro.settings.requireIdleLine then do
      let level ← Event.readLine
      if level = .low then gyro.enableLine else pure (false, gyro)
    else gyro.enableLine
  else pure (false, gyro)

end Gyro

structure Accel where
  raw : Sample := .zero
  deriving DecidableEq

namespace Accel

/-- Only a gyroscope that would allow bus operations can be paired with. -/
def pair (gyro : Gyro) : Except Failure Accel := gyro.readable.map fun _ => {}

def read {β : Type} [Bus β] (accel : Accel) (gyro : Gyro) :
    Traced Event β (Except Failure Unit × Accel) := do
  let sample ← gyro.through fun binding => binding.readSample Register.accelOut
  match sample with
  | .ok raw => pure (.ok (), { accel with raw := raw })
  | .error failure => pure (.error failure, accel)

end Accel

end Imu
