import Imu.Proofs.Frame
import Imu.Proofs.Pending

/-!
The latches in a run of the whole system. Whatever an operation does to them it does by moves that
its record shows, so after any run a latch is pending exactly if the history shows an edge on it
that nothing has consumed.
-/

namespace Imu

def Activity.signal? {γ : Type} : Activity γ → Option (LatchEvent γ)
  | .signal event => some event
  | .device _ => none

def Operation.setsClock {β γ : Type} : Operation β γ → Bool
  | .setClock _ => true
  | _ => false

def latchEvents {γ : Type} (activities : List (Activity γ)) : List (LatchEvent γ) :=
  activities.filterMap Activity.signal?

section

variable {γ : Type}

theorem latchEvents_append (earlier later : List (Activity γ)) :
    latchEvents (earlier ++ later) = latchEvents earlier ++ latchEvents later :=
  List.filterMap_append

theorem latchEvents_device (events : List Event) :
    latchEvents (events.map .device : List (Activity γ)) = [] := by
  rw [latchEvents, List.filterMap_map]
  exact List.filterMap_eq_nil_iff.mpr fun _ _ => rfl

theorem latchEvents_signal (events : List (LatchEvent γ)) :
    latchEvents (events.map .signal) = events := by
  rw [latchEvents, List.filterMap_map]
  exact List.filterMap_some

end

namespace System

open LatchEvent

variable {β γ α δ : Type}

def ShowsMoves (program : Action β γ α) : Prop :=
  ∀ system, Signals.Walk system.signals (latchEvents (program.run system).events)
    (program.run system).state.signals

theorem showsMoves_pure (value : α) : ShowsMoves (pure value : Action β γ α) :=
  fun _ => .rest _

theorem ShowsMoves.bind {first : Action β γ α} {next : α → Action β γ δ} (shows : ShowsMoves first)
    (rest : ∀ value, ShowsMoves (next value)) : ShowsMoves (first >>= next) := by
  intro system
  rw [Traced.run_bind, latchEvents_append]
  exact (shows system).append (rest _ _)

theorem showsMoves_getGyro (index : Nat) : ShowsMoves (getGyro index : Action β γ Gyro) :=
  fun _ => .rest _

theorem showsMoves_getAccel (index : Nat) : ShowsMoves (getAccel index : Action β γ Accel) :=
  fun _ => .rest _

theorem showsMoves_putGyro (index : Nat) (gyro : Gyro) :
    ShowsMoves (putGyro index gyro : Action β γ Unit) :=
  fun _ => .rest _

theorem showsMoves_putAccel (index : Nat) (accel : Accel) :
    ShowsMoves (putAccel index accel : Action β γ Unit) :=
  fun _ => .rest _

theorem showsMoves_appendAccel (accel : Accel) :
    ShowsMoves (appendAccel accel : Action β γ Nat) :=
  fun _ => .rest _

theorem showsMoves_onBus (index : Nat) (program : Traced Event β α) :
    ShowsMoves (onBus index program : Action β γ α) := by
  intro system
  rw [onBus, Traced.run_focus, latchEvents_device]
  exact .rest _

theorem showsMoves_onLine (index : Nat) (program : Traced Event Line α) :
    ShowsMoves (onLine index program : Action β γ α) := by
  intro system
  rw [onLine, Traced.run_focus, latchEvents_device]
  exact .rest _

theorem showsMoves_onSignals {program : Signals.Action γ α} (walks : Signals.Walks program) :
    ShowsMoves (onSignals program : Action β γ α) := by
  intro system
  rw [onSignals, Traced.run_focus, latchEvents_signal]
  exact walks system.signals

theorem walks_onLatch (index : Nat) (operation : LatchOperation γ) :
    Signals.Walks (onLatch index operation) := by
  cases operation with
  | consume => exact (Signals.walks_consume index).bind fun _ => Signals.walks_pure _
  | peek => exact (Signals.walks_peek index).bind fun _ => Signals.walks_pure _
  | install callback =>
    exact (Signals.walks_install index callback).bind fun _ => Signals.walks_pure _
  | inspect => exact (Signals.walks_inspect index).bind fun _ => Signals.walks_pure _

theorem showsMoves_poll (index : Nat) : ShowsMoves (poll index : Action β γ Bool) := by
  apply (showsMoves_getGyro index).bind
  intro gyro
  split
  · exact showsMoves_onSignals (Signals.walks_consume gyro.latch)
  · exact showsMoves_pure false

variable [Bus β]

theorem showsMoves_step {operation : Operation β γ} (running : operation.setsClock = false) :
    ShowsMoves (step operation) := by
  cases operation with
  | identify index bus candidates handler =>
    exact (showsMoves_getGyro index).bind fun _ => (showsMoves_onBus bus _).bind fun _ =>
      (showsMoves_putGyro index _).bind fun _ => showsMoves_pure _
  | read index bus =>
    exact (showsMoves_getGyro index).bind fun _ => (showsMoves_onBus bus _).bind fun _ =>
      (showsMoves_putGyro index _).bind fun _ => showsMoves_pure _
  | slowRead index bus register size buffer =>
    exact (showsMoves_getGyro index).bind fun _ =>
      (showsMoves_onBus bus _).bind fun _ => showsMoves_pure _
  | write index bus register data | writeVerified index bus register data | reset index bus =>
    exact (showsMoves_getGyro index).bind fun _ =>
      (showsMoves_onBus bus _).bind fun _ => showsMoves_pure _
  | arm index =>
    exact (showsMoves_getGyro index).bind fun _ => (showsMoves_onLine index _).bind fun _ =>
      (showsMoves_putGyro index _).bind fun _ => showsMoves_pure _
  | poll index => exact (showsMoves_poll index).bind fun _ => showsMoves_pure _
  | setCallback index callback =>
    exact (showsMoves_getGyro index).bind fun gyro =>
      (showsMoves_onSignals (Signals.walks_install gyro.latch callback)).bind fun _ =>
        showsMoves_pure _
  | call index bus call =>
    apply (showsMoves_getGyro index).bind
    intro gyro
    cases gyro.binding with
    | none => exact showsMoves_pure _
    | some binding => exact (showsMoves_onBus bus _).bind fun _ => showsMoves_pure _
  | pairAccel index =>
    apply (showsMoves_getGyro index).bind
    intro gyro
    cases Accel.pair gyro with
    | error refusal => exact showsMoves_pure _
    | ok accel => exact (showsMoves_appendAccel accel).bind fun _ => showsMoves_pure _
  | addAccel => exact (showsMoves_appendAccel {}).bind fun _ => showsMoves_pure _
  | readAccel number index bus =>
    exact (showsMoves_getGyro index).bind fun _ => (showsMoves_getAccel number).bind fun _ =>
      (showsMoves_onBus bus _).bind fun _ =>
        (showsMoves_putAccel number _).bind fun _ => showsMoves_pure _
  | signal latch operation => exact showsMoves_onSignals (walks_onLatch latch operation)
  | edge latch timed reaction =>
    exact (showsMoves_onSignals (Script.program_run _).walks).bind fun _ => showsMoves_pure _
  | setClock clock => cases running
  | busRead bus register size buffer =>
    exact (showsMoves_onBus bus _).bind fun _ => showsMoves_pure _
  | busWrite bus register data => exact (showsMoves_onBus bus _).bind fun _ => showsMoves_pure _
  | disturb bus change => exact fun _ => .rest _

theorem perform_pending (system : System β γ) (operation : Operation β γ) (index : Nat) :
    ((system.perform operation).state.signals.latch index).pending = true ↔
      EnteredSince index (latchEvents (system.perform operation).events) ∨
        (system.signals.latch index).pending = true ∧
          Unconsumed index (latchEvents (system.perform operation).events) := by
  cases running : operation.setsClock with
  | false => exact (showsMoves_step running system).pending_iff
  | true =>
    -- Only the clock is replaced, which is no move.
    cases operation with
    | setClock clock =>
      simp [perform, step, latchEvents, not_enteredSince_nil, Unconsumed, Signals.latch]
    | _ => cases running

def latchHistory (system : System β γ) (operations : List (Operation β γ)) :
    List (LatchEvent γ) :=
  (system.history operations).flatMap fun step => latchEvents step.events

theorem latchHistory_cons (system : System β γ) (operation : Operation β γ)
    (rest : List (Operation β γ)) :
    system.latchHistory (operation :: rest) =
      latchEvents (system.perform operation).events ++
        (system.perform operation).state.latchHistory rest := by
  rw [latchHistory, history, List.flatMap_cons]
  rfl

theorem latchHistory_append (system : System β γ) (first second : List (Operation β γ)) :
    system.latchHistory (first ++ second) =
      system.latchHistory first ++ (system.after first).latchHistory second := by
  rw [latchHistory, history_append, List.flatMap_append]
  rfl

theorem after_pending (system : System β γ) (operations : List (Operation β γ)) (index : Nat) :
    ((system.after operations).signals.latch index).pending = true ↔
      EnteredSince index (system.latchHistory operations) ∨
        (system.signals.latch index).pending = true ∧
          Unconsumed index (system.latchHistory operations) := by
  induction operations generalizing system with
  | nil => simp [after, latchHistory, history, not_enteredSince_nil, Unconsumed]
  | cons operation rest ih =>
    rw [after, ih, perform_pending, latchHistory_cons, enteredSince_append, unconsumed_append,
      or_and_right, and_assoc, or_assoc]

end System

end Imu
