import Imu.Gyro
import Imu.Latch

/-!
Any number of units, boards and latches together. Every operation of the polling side and
of the interrupt side is one `Operation`; a run is a list of them, and its history shows
for each what it answered and all that it did outside.
-/

namespace Imu

structure System (β γ : Type) where
  gyros : Bank Gyro
  /-- The data-ready line of each gyroscope. -/
  lines : Bank Line
  accels : Bank Accel := Bank.fill {}
  accelCount : Nat := 0
  buses : Bank β
  signals : Signals γ

inductive Operation (β γ : Type) where
  | identify (gyro bus : Nat) (candidates : CandidateList) (handler : Nat)
  | read (gyro bus : Nat)
  | slowRead (gyro bus : Nat) (register : UInt8) (size : Nat) (buffer : Vector UInt8 size)
  | write (gyro bus : Nat) (register data : UInt8)
  | writeVerified (gyro bus : Nat) (register data : UInt8)
  | reset (gyro bus : Nat)
  | arm (gyro : Nat)
  | poll (gyro : Nat)
  | setCallback (gyro : Nat) (callback : Option γ)
  | call (gyro bus : Nat) (call : Call)
  | pairAccel (gyro : Nat)
  | addAccel
  | readAccel (accel gyro bus : Nat)
  | signal (latch : Nat) (operation : LatchOperation γ)
  | edge (latch : Nat) (timed : Bool) (reaction : γ → Script γ)
  | setClock (clock : Readings UInt32)
  | busRead (bus : Nat) (register : UInt8) (size : Nat) (buffer : Vector UInt8 size)
  | busWrite (bus : Nat) (register data : UInt8)
  /-- The world beyond a bus changes on its own. -/
  | disturb (bus : Nat) (change : β → β)

inductive Reply where
  | nothing
  | flag (value : Bool)
  | identified (outcome : Except Failure Family)
  | finished (outcome : Except Failure Unit)
  | filled (outcome : Except Failure Unit) (buffer : List UInt8)
  | hadReset (outcome : Except Failure Bool)
  | paired (outcome : Except Failure Nat)
  /-- Without a binding there is no reply. -/
  | called (reply : Option CallReply)
  | transferred (ack : Bool) (buffer : List UInt8)
  | timing (record : EdgeRecord)

/-- An effect of the polling side on the board, or of either side on the latches. -/
inductive Activity (γ : Type) where
  | device (event : Event)
  | signal (event : LatchEvent γ)
  deriving DecidableEq

namespace System

variable {β γ α : Type}

abbrev Action (β γ α : Type) : Type := Traced (Activity γ) (System β γ) α

def onBus (index : Nat) (program : Traced Event β α) : Action β γ α :=
  program.focus (fun system => system.buses.get index)
    (fun bus system => { system with buses := system.buses.set index bus }) .device

def onLine (index : Nat) (program : Traced Event Line α) : Action β γ α :=
  program.focus (fun system => system.lines.get index)
    (fun line system => { system with lines := system.lines.set index line }) .device

def onSignals (program : Signals.Action γ α) : Action β γ α :=
  program.focus System.signals (fun signals system => { system with signals := signals }) .signal

def getGyro (index : Nat) : Action β γ Gyro := do
  let system ← Traced.get
  pure (system.gyros.get index)

def getAccel (index : Nat) : Action β γ Accel := do
  let system ← Traced.get
  pure (system.accels.get index)

def putGyro (index : Nat) (gyro : Gyro) : Action β γ Unit :=
  Traced.modify fun system => { system with gyros := system.gyros.set index gyro }

def putAccel (index : Nat) (accel : Accel) : Action β γ Unit :=
  Traced.modify fun system => { system with accels := system.accels.set index accel }

def appendAccel (accel : Accel) : Action β γ Nat := do
  let system ← Traced.get
  Traced.modify fun system =>
    { system with
      accels := system.accels.set system.accelCount accel
      accelCount := system.accelCount + 1 }
  pure system.accelCount

/-- An unarmed unit leaves its latch to the others that share it. -/
def poll (index : Nat) : Action β γ Bool := do
  let gyro ← getGyro index
  if gyro.armed then onSignals (Signals.consume gyro.latch) else pure false

def onLatch (index : Nat) : LatchOperation γ → Signals.Action γ Reply
  | .consume => do
    let pending ← Signals.consume index
    pure (.flag pending)
  | .peek => do
    let pending ← Signals.peek index
    pure (.flag pending)
  | .install callback => do
    Signals.install index callback
    pure .nothing
  | .inspect => do
    let timing ← Signals.inspect index
    pure (.timing timing)

def step [Bus β] : Operation β γ → Action β γ Reply
  | .identify index bus candidates handler => do
    let gyro ← getGyro index
    let result ← onBus bus (gyro.identify candidates handler)
    putGyro index result.2
    pure (.identified result.1)
  | .read index bus => do
    let gyro ← getGyro index
    let result ← onBus bus gyro.read
    putGyro index result.2
    pure (.finished result.1)
  | .slowRead index bus register _ buffer => do
    let gyro ← getGyro index
    let result ← onBus bus (gyro.slowRead register buffer)
    pure (.filled result.1 result.2.toList)
  | .write index bus register data => do
    let gyro ← getGyro index
    let outcome ← onBus bus (gyro.write register data)
    pure (.finished outcome)
  | .writeVerified index bus register data => do
    let gyro ← getGyro index
    let outcome ← onBus bus (gyro.writeVerified register data)
    pure (.finished outcome)
  | .reset index bus => do
    let gyro ← getGyro index
    let outcome ← onBus bus gyro.reset
    pure (.hadReset outcome)
  | .arm index => do
    let gyro ← getGyro index
    let result ← onLine index gyro.arm
    putGyro index result.2
    pure (.flag result.1)
  | .poll index => do
    let fresh ← poll index
    pure (.flag fresh)
  | .setCallback index callback => do
    let gyro ← getGyro index
    onSignals (Signals.install gyro.latch callback)
    pure .nothing
  | .call index bus call => do
    let gyro ← getGyro index
    match gyro.binding with
    | none => pure (.called none)
    | some binding => do
      let reply ← onBus bus (binding.call call)
      pure (.called (some reply))
  | .pairAccel index => do
    let gyro ← getGyro index
    match Accel.pair gyro with
    | .error refusal => pure (.paired (.error refusal))
    | .ok accel => do
      let number ← appendAccel accel
      pure (.paired (.ok number))
  | .addAccel => do
    let number ← appendAccel {}
    pure (.paired (.ok number))
  | .readAccel number index bus => do
    let gyro ← getGyro index
    let accel ← getAccel number
    let result ← onBus bus (accel.read gyro)
    putAccel number result.2
    pure (.finished result.1)
  | .signal latch operation => onSignals (onLatch latch operation)
  | .edge latch timed reaction => do
    onSignals (Script.edge latch timed reaction .done).run
    pure .nothing
  | .setClock clock => do
    Traced.modify fun system => { system with signals := { system.signals with clock := clock } }
    pure .nothing
  | .busRead bus register _ buffer => do
    let reply ← onBus bus (Event.readVia .primary register buffer)
    pure (.transferred reply.ack reply.buffer.toList)
  | .busWrite bus register data => do
    let ack ← onBus bus (Event.writeVia .primary register data)
    pure (.flag ack)
  | .disturb bus change => do
    Traced.modify fun system =>
      { system with buses := system.buses.set bus (change (system.buses.get bus)) }
    pure .nothing

def perform [Bus β] (system : System β γ) (operation : Operation β γ) :
    Outcome (Activity γ) (System β γ) Reply :=
  (step operation).run system

def after [Bus β] (system : System β γ) : List (Operation β γ) → System β γ
  | [] => system
  | operation :: rest => (system.perform operation).state.after rest

structure Step (β γ : Type) where
  operation : Operation β γ
  reply : Reply
  events : List (Activity γ)

def history [Bus β] (system : System β γ) : List (Operation β γ) → List (Step β γ)
  | [] => []
  | operation :: rest =>
    ⟨operation, (system.perform operation).value, (system.perform operation).events⟩ ::
      (system.perform operation).state.history rest

theorem after_append [Bus β] (system : System β γ) (first second : List (Operation β γ)) :
    system.after (first ++ second) = (system.after first).after second := by
  induction first generalizing system with
  | nil => rfl
  | cons operation rest ih => exact ih _

theorem history_append [Bus β] (system : System β γ) (first second : List (Operation β γ)) :
    system.history (first ++ second) =
      system.history first ++ (system.after first).history second := by
  induction first generalizing system with
  | nil => rfl
  | cons operation rest ih =>
    simp only [List.cons_append, history, after, ih]

end System

end Imu
