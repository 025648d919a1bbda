import Imu.Proofs.Frame

/-!
The bus operations of a unit. A unit that refuses one leaves everything as it was; one that does not
makes a single call on the board, or none where it has nothing to call.
-/

namespace Imu

inductive Request where
  | read (via : ReadRoutine) (register : UInt8) (size : Nat) (buffer : Vector UInt8 size)
  | write (via : WriteRoutine) (register data : UInt8)
  | reset (index : Nat)

namespace Request

variable {β : Type} [Bus β]

/-- What is recorded of the call, and the board that it leaves. -/
def make (bus : β) : Request → Access × β
  | .read via register size buffer =>
    let done : ReadReply size × β :=
      match via with
      | .primary => PrimaryTransport.readRegisters register buffer bus
      | .driver index => ChipDrivers.read index register buffer bus
    (.read via register done.1.buffer.toList done.1.ack, done.2)
  | .write via register data =>
    let done : Bool × β :=
      match via with
      | .primary => PrimaryTransport.writeRegister register data bus
      | .driver index => ChipDrivers.write index register data bus
      | .verifying index => ChipDrivers.verifiedWrite index register data bus
    (.write via register data done.1, done.2)
  | .reset index => (.reset index, ChipDrivers.reset index bus)

theorem make_read (via : ReadRoutine) (register : UInt8) {size : Nat} (buffer : Vector UInt8 size)
    (bus : β) :
    (read via register size buffer).make bus =
      let done := via.perform register buffer bus
      (.read via register done.1.buffer.toList done.1.ack, done.2) := by
  cases via <;> rfl

theorem make_write (via : WriteRoutine) (register data : UInt8) (bus : β) :
    (write via register data).make bus =
      let done := via.perform register data bus
      (.write via register data done.1, done.2) := by
  cases via <;> rfl

end Request

/-- A reset and a probe have nothing to acknowledge. -/
def Access.acknowledged : Access → Bool
  | .read _ _ _ ack | .write _ _ _ ack => ack
  | .reset _ | .probe _ _ => true

def Reply.result? : Reply → Option (Except Failure Unit)
  | .identified outcome => some (outcome.map fun _ => ())
  | .finished outcome | .filled outcome _ => some outcome
  | .hadReset outcome => some (outcome.map fun _ => ())
  | .paired outcome => some (outcome.map fun _ => ())
  | .nothing | .flag _ | .called _ | .transferred _ _ | .timing _ => none

namespace Operation

variable {β γ : Type}

/-- The bus operations of the unit, and those of an accelerometer through it. -/
inductive Gated (g : Nat) : Operation β γ → Prop where
  | read (bus : Nat) : Gated g (.read g bus)
  | slowRead (bus : Nat) (register : UInt8) (size : Nat) (buffer : Vector UInt8 size) :
    Gated g (.slowRead g bus register size buffer)
  | write (bus : Nat) (register data : UInt8) : Gated g (.write g bus register data)
  | writeVerified (bus : Nat) (register data : UInt8) : Gated g (.writeVerified g bus register data)
  | reset (bus : Nat) : Gated g (.reset g bus)
  | pairAccel : Gated g (.pairAccel g)
  | readAccel (number bus : Nat) : Gated g (.readAccel number g bus)

/-- What the operation answers when the unit refuses it: the buffer comes back as it was given. -/
def refused (refusal : Failure) : Operation β γ → Reply
  | .slowRead _ _ _ _ buffer => .filled (.error refusal) buffer.toList
  | .reset _ _ => .hadReset (.error refusal)
  | .pairAccel _ => .paired (.error refusal)
  | _ => .finished (.error refusal)

/-- What the operation calls on which bus, if the unit lets it through. -/
def request (binding : Binding) : Operation β γ → Option (Nat × Request)
  | .read _ bus =>
    some (bus, .read binding.read binding.gyroRegister 6 (Vector.replicate 6 0))
  | .readAccel _ _ bus => some (bus, .read binding.read 0x3B 6 (Vector.replicate 6 0))
  | .slowRead _ bus register size buffer =>
    some (bus, .read (binding.slowRead.getD binding.read) register size buffer)
  | .write _ bus register data => some (bus, .write binding.write register data)
  | .writeVerified _ bus register data =>
    some (bus, .write (binding.verifiedWrite.getD binding.write) register data)
  | .reset _ bus => binding.reset.map fun index => (bus, .reset index)
  | _ => none

theorem Gated.result?_refused {g : Nat} {operation : Operation β γ} (gate : operation.Gated g)
    (refusal : Failure) : (operation.refused refusal).result? = some (.error refusal) := by
  cases gate <;> rfl

end Operation

namespace Gyro

variable {α β : Type}

theorem through_of_closed {gyro : Gyro} {refusal : Failure}
    (closed : gyro.readable = .error refusal)
    (operation : Binding → Traced Event β (Except Failure α)) :
    gyro.through operation = pure (.error refusal) := by
  rw [through, closed]

theorem through_of_open {gyro : Gyro} {binding : Binding} (ready : gyro.readable = .ok binding)
    (operation : Binding → Traced Event β (Except Failure α)) :
    gyro.through operation = operation binding := by
  rw [through, ready]

theorem read_of_closed [Bus β] {gyro : Gyro} {refusal : Failure}
    (closed : gyro.readable = .error refusal) (bus : β) :
    gyro.read.run bus = ⟨(.error refusal, gyro), [], bus⟩ := by
  rw [read, through_of_closed closed]
  rfl

theorem slowRead_of_closed [Bus β] {gyro : Gyro} {refusal : Failure}
    (closed : gyro.readable = .error refusal) (register : UInt8) {size : Nat}
    (buffer : Vector UInt8 size) (bus : β) :
    (gyro.slowRead register buffer).run bus = ⟨(.error refusal, buffer), [], bus⟩ := by
  rw [slowRead, closed]
  rfl

end Gyro

theorem Accel.read_of_closed {β : Type} [Bus β] {gyro : Gyro} {refusal : Failure}
    (closed : gyro.readable = .error refusal) (accel : Accel) (bus : β) :
    (accel.read gyro).run bus = ⟨(.error refusal, accel), [], bus⟩ := by
  rw [read, Gyro.through_of_closed closed]
  rfl

theorem Binding.readSample_run {β : Type} [Bus β] (binding : Binding) (register : UInt8) (bus : β) :
    (binding.readSample register).run bus =
      let reply := binding.read.perform register (Vector.replicate 6 0) bus
      ⟨if reply.1.ack then .ok (Sample.ofBurst (Burst.ofBuffer reply.1.buffer)) else .error .noAck,
        [.access (.read binding.read register reply.1.buffer.toList reply.1.ack)], reply.2⟩ := by
  rcases answer : binding.read.perform register (Vector.replicate 6 0) bus with
    ⟨⟨_ | _, buffer⟩, later⟩ <;>
    simp [readSample, Event.burst, Event.readVia, answer]

namespace System

variable {β γ : Type} [Bus β]

theorem perform_slowRead (system : System β γ) (index bus : Nat) (register : UInt8) {size : Nat}
    (buffer : Vector UInt8 size) :
    system.perform (.slowRead index bus register size buffer) =
      let done := ((system.gyros.get index).slowRead register buffer).run (system.buses.get bus)
      ⟨.filled done.value.1 done.value.2.toList, done.events.map .device,
        { system with buses := system.buses.set bus done.state }⟩ := by
  simp [perform, step, getGyro, onBus]

theorem perform_write (system : System β γ) (index bus : Nat) (register data : UInt8) :
    system.perform (.write index bus register data) =
      let done := ((system.gyros.get index).write register data).run (system.buses.get bus)
      ⟨.finished done.value, done.events.map .device,
        { system with buses := system.buses.set bus done.state }⟩ := by
  simp [perform, step, getGyro, onBus]

theorem perform_writeVerified (system : System β γ) (index bus : Nat) (register data : UInt8) :
    system.perform (.writeVerified index bus register data) =
      let done := ((system.gyros.get index).writeVerified register data).run (system.buses.get bus)
      ⟨.finished done.value, done.events.map .device,
        { system with buses := system.buses.set bus done.state }⟩ := by
  simp [perform, step, getGyro, onBus]

theorem perform_reset (system : System β γ) (index bus : Nat) :
    system.perform (.reset index bus) =
      let done := (system.gyros.get index).reset.run (system.buses.get bus)
      ⟨.hadReset done.value, done.events.map .device,
        { system with buses := system.buses.set bus done.state }⟩ := by
  simp [perform, step, getGyro, onBus]

theorem perform_of_closed {system : System β γ} {g : Nat} {refusal : Failure}
    (closed : (system.gyros.get g).readable = .error refusal) {operation : Operation β γ}
    (gate : operation.Gated g) :
    system.perform operation = ⟨operation.refused refusal, [], system⟩ := by
  cases gate with
  | read bus => simp [perform_read, Gyro.read_of_closed closed, Operation.refused]
  | slowRead bus register size buffer =>
    simp [perform_slowRead, Gyro.slowRead_of_closed closed, Operation.refused]
  | write bus register data =>
    simp [perform_write, Gyro.write, Gyro.through_of_closed closed, Operation.refused]
  | writeVerified bus register data =>
    simp [perform_writeVerified, Gyro.writeVerified, Gyro.through_of_closed closed,
      Operation.refused]
  | reset bus => simp [perform_reset, Gyro.reset, Gyro.through_of_closed closed, Operation.refused]
  | pairAccel =>
    rw [perform_pairAccel, closed]
    rfl
  | readAccel number bus =>
    simp [perform_readAccel, Accel.read_of_closed closed, Operation.refused]

/-- All that the operation did outside is this call, and it failed only if the call was not
acknowledged. -/
def Carries (system : System β γ) (operation : Operation β γ) : Option (Nat × Request) → Prop
  | some (bus, request) =>
    let made := request.make (system.buses.get bus)
    (system.perform operation).events = [.device (.access made.1)] ∧
      (system.perform operation).state.buses = system.buses.set bus made.2 ∧
      (system.perform operation).value.result? = some (confirmed made.1.acknowledged)
  | none =>
    (system.perform operation).events = [] ∧
      (system.perform operation).state.buses = system.buses ∧
      (system.perform operation).value.result? = some (.ok ())

theorem map_sampled (ack : Bool) (sample : Sample) :
    ((if ack then .ok sample else .error .noAck : Except Failure Sample).map fun _ => ()) =
      confirmed ack := by
  cases ack <;> rfl

theorem carries_of_run {system after : System β γ} {operation : Operation β γ} {bus : Nat}
    {request : Request} {done : Access × β} {value : Reply}
    (made : request.make (system.buses.get bus) = done)
    (run : system.perform operation = ⟨value, [.device (.access done.1)], after⟩)
    (left : after.buses = system.buses.set bus done.2)
    (result : value.result? = some (confirmed done.1.acknowledged)) :
    system.Carries operation (some (bus, request)) := by
  rw [Carries, run, made]
  exact ⟨rfl, left, result⟩

theorem carries_nothing_of_run {system after : System β γ} {operation : Operation β γ}
    {value : Reply} (run : system.perform operation = ⟨value, [], after⟩)
    (left : after.buses = system.buses) (succeeded : value.result? = some (.ok ())) :
    system.Carries operation none := by
  rw [Carries, run]
  exact ⟨rfl, left, succeeded⟩

/-- An operation that the unit lets through makes the call that its binding has for it. -/
theorem carries_of_open {system : System β γ} {g : Nat} {binding : Binding}
    (ready : (system.gyros.get g).readable = .ok binding) {operation : Operation β γ}
    (gate : operation.Gated g) : system.Carries operation (operation.request binding) := by
  cases gate with
  | read bus =>
    have run := perform_read system g bus
    rw [Gyro.read_run, Gyro.through_of_open ready, Binding.readSample_run] at run
    exact carries_of_run (Request.make_read ..) run rfl (congrArg some (map_sampled _ _))
  | readAccel number bus =>
    have run := perform_readAccel system number g bus
    rw [Accel.read_run, Gyro.through_of_open ready, Binding.readSample_run] at run
    exact carries_of_run (Request.make_read ..) run rfl (congrArg some (map_sampled _ _))
  | slowRead bus register size buffer =>
    have run := perform_slowRead system g bus register buffer
    rw [Gyro.slowRead, ready] at run
    exact carries_of_run (Request.make_read ..) run rfl rfl
  | write bus register data =>
    have run := perform_write system g bus register data
    rw [Gyro.write, Gyro.through_of_open ready] at run
    exact carries_of_run (Request.make_write ..) run rfl rfl
  | writeVerified bus register data =>
    have run := perform_writeVerified system g bus register data
    rw [Gyro.writeVerified, Gyro.through_of_open ready] at run
    exact carries_of_run (Request.make_write ..) run rfl rfl
  | reset bus =>
    have run := perform_reset system g bus
    rw [Gyro.reset, Gyro.through_of_open ready] at run
    rw [Operation.request]
    cases routine : binding.reset with
    | none =>
      rw [routine] at run
      exact carries_nothing_of_run run (Bank.set_get _ _) rfl
    | some number =>
      rw [routine] at run
      exact carries_of_run rfl run rfl rfl
  | pairAccel =>
    have run := perform_pairAccel system g
    rw [ready] at run
    exact carries_nothing_of_run run rfl rfl

theorem perform_reset_value {system : System β γ} {g : Nat} {binding : Binding}
    (ready : (system.gyros.get g).readable = .ok binding) (bus : Nat) :
    (system.perform (.reset g bus)).value = .hadReset (.ok binding.reset.isSome) := by
  rw [perform_reset, Gyro.reset, Gyro.through_of_open ready]
  cases binding.reset <;> rfl

end System

end Imu
