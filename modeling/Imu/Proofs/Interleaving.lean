import Imu.Proofs.Signalling
import Imu.Proofs.Steps
import Imu.Simulator.Callback

/-!
The polling side and the interrupt side together. A step is what nothing interrupts: a call on a
board or a line, an access to the units in memory, an access to a latch. An edge may strike between
any two steps of the polling side, also within an operation, and the polling side may go on between
any two steps of an edge. Whatever the order, each side does what it would do if it ran alone, the
polling side first.
-/

namespace Imu

def Activity.device? {γ : Type} : Activity γ → Option Event
  | .device event => some event
  | .signal _ => none

def deviceEvents {γ : Type} (activities : List (Activity γ)) : List Event :=
  activities.filterMap Activity.device?

section

variable {γ : Type}

theorem deviceEvents_append (earlier later : List (Activity γ)) :
    deviceEvents (earlier ++ later) = deviceEvents earlier ++ deviceEvents later :=
  List.filterMap_append

theorem deviceEvents_signal (events : List (LatchEvent γ)) :
    deviceEvents (events.map .signal) = [] := filterMap_signal (fun _ => rfl) events

theorem map_deviceEvents {activities : List (Activity γ)} (apart : latchEvents activities = []) :
    (deviceEvents activities).map .device = activities := by
  induction activities with
  | nil => rfl
  | cons activity rest ih =>
    cases activity with
    | device event => exact congrArg (List.cons _) (ih apart)
    | signal event => cases apart

end

/-- An edge, timed or not. What a callback would do may depend on all that it sees of the latches
and of the clock. -/
structure Strike (γ : Type) where
  latch : Nat
  timed : Bool
  reaction : γ → Signals.Action γ Unit

namespace Strike

variable {γ : Type}

def raise (strike : Strike γ) : Signals.Action γ Unit :=
  if strike.timed then Signals.timedEdge strike.latch strike.reaction
  else Signals.edge strike.latch strike.reaction

def raiseAll : List (Strike γ) → Signals.Action γ Unit
  | [] => pure ()
  | strike :: rest => do
    strike.raise
    raiseAll rest

end Strike

namespace System

variable {β γ α δ : Type}

def performAll [Bus β] : List (Operation β γ) → Action β γ (List Reply)
  | [] => pure []
  | operation :: rest => do
    let reply ← step operation
    let replies ← performAll rest
    pure (reply :: replies)

def inOrder [Bus β] : List (Operation β γ ⊕ Strike γ) → Action β γ (List Reply × Unit)
  | [] => pure ([], ())
  | .inl operation :: rest => do
    let reply ← step operation
    let later ← inOrder rest
    pure (reply :: later.1, later.2)
  | .inr strike :: rest => do
    onSignals strike.raise
    inOrder rest

theorem step_edge [Bus β] (latch : Nat) (timed : Bool) (reaction : γ → Script γ) :
    (step (.edge latch timed reaction) : Action β γ Reply) =
      onSignals (Strike.raise ⟨latch, timed, fun callback => (reaction callback).run⟩) >>=
        fun _ => pure .nothing := by
  have script : (Script.edge latch timed reaction .done).run =
      Strike.raise ⟨latch, timed, fun callback => (reaction callback).run⟩ := by
    cases timed with
    | false => exact bind_pure _
    | true => exact bind_pure _
  rw [step, script]

theorem performAll_run [Bus β] (operations : List (Operation β γ)) (system : System β γ) :
    (performAll operations).run system =
      ⟨(system.history operations).map Step.reply,
        (system.history operations).flatMap Step.events, system.after operations⟩ := by
  induction operations generalizing system with
  | nil => rfl
  | cons operation rest ih =>
    simp only [performAll, Traced.run_bind, ih, Traced.run_pure, List.append_nil]
    rfl

/-- Started here, the program does the same whatever the latches are, and leaves them alone. -/
def IgnoresLatches (program : Action β γ α) (system : System β γ) : Prop :=
  (∀ signals, program.run { system with signals := signals } =
    { program.run system with state := { (program.run system).state with signals := signals } }) ∧
  latchEvents (program.run system).events = []

theorem IgnoresLatches.signals {program : Action β γ α} {system : System β γ}
    (ignores : IgnoresLatches program system) :
    (program.run system).state.signals = system.signals :=
  congrArg (fun done => done.state.signals) (ignores.1 system.signals)

theorem IgnoresLatches.struck {program : Action β γ α} {system : System β γ}
    (ignores : IgnoresLatches program system) (signals : Signals γ) :
    IgnoresLatches program { system with signals := signals } := by
  constructor
  · intro other
    rw [ignores.1 signals]
    exact ignores.1 other
  · rw [ignores.1 signals]
    exact ignores.2

theorem IgnoresLatches.bind {first : Action β γ α} {next : α → Action β γ δ} {system : System β γ}
    (ignores : IgnoresLatches first system)
    (later : IgnoresLatches (next (first.run system).value) (first.run system).state) :
    IgnoresLatches (first >>= next) system := by
  constructor
  · intro signals
    rw [Traced.run_bind, ignores.1, later.1]
    rfl
  · rw [Traced.run_bind, latchEvents_append, ignores.2, later.2]
    rfl

theorem IgnoresLatches.rest {first : Action β γ α} {next : α → Action β γ δ} {system : System β γ}
    (whole : IgnoresLatches (first >>= next) system) (ignores : IgnoresLatches first system) :
    IgnoresLatches (next (first.run system).value) (first.run system).state := by
  constructor
  · intro signals
    have same := whole.1 signals
    rw [Traced.run_bind, ignores.1] at same
    simp only [Traced.run_bind, Outcome.mk.injEq, List.append_cancel_left_eq] at same
    exact (Outcome.mk.injEq ..).mpr same
  · have none := whole.2
    rw [Traced.run_bind, latchEvents_append] at none
    exact (List.append_eq_nil_iff.mp none).2

theorem Outside.ignoresLatches {first : Action β γ α} (outside : Outside first)
    (system : System β γ) : IgnoresLatches first system := by
  cases outside with
  | bus | line => exact ⟨fun _ => rfl, latchEvents_device _⟩
  | _ => exact ⟨fun _ => rfl, rfl⟩

theorem ignoresLatches_of_polls {program : Action β γ α} (polls : Polls program)
    (system : System β γ) : IgnoresLatches program system := by
  induction polls generalizing system with
  | done value => exact ⟨fun _ => rfl, rfl⟩
  | step outside _ ih => exact (outside.ignoresLatches system).bind (ih _ _)

theorem polls_performAll [Bus β] {operations : List (Operation β γ)}
    (apart : ∀ operation ∈ operations, operation.touchesLatches = false) :
    Polls (performAll operations) := by
  induction operations with
  | nil => exact .done []
  | cons operation rest ih =>
    obtain ⟨first, later⟩ := List.forall_mem_cons.mp apart
    exact (polls_step first).bind fun _ => (ih later).bind fun _ => .done _

/-- The single steps of a program, those on the latches included. -/
inductive Single : {α : Type} → Action β γ α → Prop where
  | outside {α : Type} {first : Action β γ α} (outside : Outside first) : Single first
  | latch {α : Type} (action : Signals γ → α × Signals γ) (event : α → LatchEvent γ) :
    Single (onSignals (Traced.act action event))

/-- The third program takes turns between the other two. It yields what both yield. -/
inductive Interleaved : Action β γ α → Signals.Action γ δ → Action β γ (α × δ) → Prop where
  | done (value : α) (result : δ) : Interleaved (pure value) (pure result) (pure (value, result))
  | polling {ε : Type} {first : Action β γ ε} {rest : ε → Action β γ α}
    {interrupts : Signals.Action γ δ} {merged : ε → Action β γ (α × δ)} (single : Single first)
    (later : ∀ told, Interleaved (rest told) interrupts (merged told)) :
    Interleaved (first >>= rest) interrupts (first >>= merged)
  | interrupt {ε : Type} {polling : Action β γ α} {first : Signals.Action γ ε}
    {rest : ε → Signals.Action γ δ} {merged : ε → Action β γ (α × δ)}
    (later : ∀ told, Interleaved polling (rest told) (merged told)) :
    Interleaved polling (first >>= rest) (onSignals first >>= merged)

namespace Interleaved

theorem map {ε : Type} {polling : Action β γ α} {interrupts : Signals.Action γ δ}
    {merged : Action β γ (α × δ)} (interleaved : Interleaved polling interrupts merged)
    (change : α → ε) :
    Interleaved (polling >>= fun value => pure (change value)) interrupts
      (merged >>= fun both => pure (change both.1, both.2)) := by
  induction interleaved with
  | done value result =>
    rw [pure_bind, pure_bind]
    exact .done (change value) result
  | polling single _ ih =>
    rw [bind_assoc, bind_assoc]
    exact .polling single ih
  | interrupt _ ih =>
    rw [bind_assoc]
    exact .interrupt ih

theorem run {polling : Action β γ α} {interrupts : Signals.Action γ δ}
    {merged : Action β γ (α × δ)} (interleaved : Interleaved polling interrupts merged)
    {system : System β γ} (ignores : IgnoresLatches polling system) :
    let done := merged.run system
    let polled := polling.run system
    let raised := interrupts.run system.signals
    done.value = (polled.value, raised.value) ∧
      deviceEvents done.events = deviceEvents polled.events ∧
      latchEvents done.events = raised.events ∧
      done.state = { polled.state with signals := raised.state } := by
  induction interleaved generalizing system with
  | done value result => exact ⟨rfl, rfl, rfl, rfl⟩
  | polling single _ ih =>
    cases single with
    | outside outside =>
      have first := outside.ignoresLatches system
      have rest := ih _ (ignores.rest first)
      rw [first.signals] at rest
      obtain ⟨value, calls, moves, state⟩ := rest
      refine ⟨value, ?_, ?_, state⟩
      · simp only [Traced.run_bind, deviceEvents_append, calls]
      · simp only [Traced.run_bind, latchEvents_append, first.2, moves, List.nil_append]
    -- A step on the latches leaves an event there, and this program leaves none.
    | latch action event => exact absurd ignores.2 (List.cons_ne_nil _ _)
  | @interrupt ε polling first rest merged _ ih =>
    -- What the edge has done to the latches makes no difference to the polling that follows.
    have struck := ignores.struck (first.run system.signals).state
    obtain ⟨value, calls, moves, state⟩ := ih (first.run system.signals).value struck
    rw [ignores.1] at value calls state
    refine ⟨value, ?_, ?_, state⟩
    · simp only [onSignals, Traced.run_bind, Traced.run_focus, deviceEvents_append,
        deviceEvents_signal, List.nil_append, calls]
    · simp only [onSignals, Traced.run_bind, Traced.run_focus, latchEvents_append,
        latchEvents_signal, moves]

end Interleaved

theorem interleaved_of_polls {ε : Type} {first : Action β γ ε} (polls : Polls first)
    {rest : ε → Action β γ α} {interrupts : Signals.Action γ δ} {merged : ε → Action β γ (α × δ)}
    (later : ∀ told, Interleaved (rest told) interrupts (merged told)) :
    Interleaved (first >>= rest) interrupts (first >>= merged) := by
  induction polls with
  | done value =>
    rw [pure_bind, pure_bind]
    exact later value
  | step outside _ ih =>
    rw [bind_assoc, bind_assoc]
    exact .polling (.outside outside) ih

variable [Bus β]

/-- Operations and edges in any order, each as a whole, are an interleaving of the two sides. -/
theorem interleaved_inOrder {schedule : List (Operation β γ ⊕ Strike γ)}
    (apart : ∀ operation ∈ schedule.filterMap Sum.getLeft?, operation.touchesLatches = false) :
    Interleaved (performAll (schedule.filterMap Sum.getLeft?))
      (Strike.raiseAll (schedule.filterMap Sum.getRight?)) (inOrder schedule) := by
  induction schedule with
  | nil => exact .done [] ()
  | cons next rest ih =>
    cases next with
    | inl operation =>
      obtain ⟨first, later⟩ := List.forall_mem_cons.mp apart
      exact interleaved_of_polls (polls_step first) fun reply => (ih later).map (List.cons reply)
    | inr strike => exact .interrupt fun _ => ih apart

/-- Edges that strike between the steps of the polling side might as well come after all of them. -/
theorem edges_do_not_disturb_polling (polling : List (Operation β γ))
    (apart : ∀ operation ∈ polling, operation.touchesLatches = false) (strikes : List (Strike γ)) :
    (∀ schedule : List (Operation β γ ⊕ Strike γ),
      schedule.filterMap Sum.getLeft? = polling → schedule.filterMap Sum.getRight? = strikes →
        Interleaved (performAll polling) (Strike.raiseAll strikes) (inOrder schedule)) ∧
    ∀ merged, Interleaved (performAll polling) (Strike.raiseAll strikes) merged →
      ∀ system : System β γ,
        let done := merged.run system
        let reached := system.after polling
        let raised := (Strike.raiseAll strikes).run reached.signals
        done.value = ((system.history polling).map Step.reply, raised.value) ∧
          (deviceEvents done.events).map .device =
            (system.history polling).flatMap Step.events ∧
          latchEvents done.events = raised.events ∧
          done.state = { reached with signals := raised.state } := by
  constructor
  · rintro schedule rfl rfl
    exact interleaved_inOrder apart
  · intro merged interleaved system done reached raised
    have ignores := ignoresLatches_of_polls (polls_performAll apart) system
    have kept := ignores.signals
    have calls := map_deviceEvents ignores.2
    obtain ⟨value, device, latch, state⟩ := interleaved.run ignores
    rw [performAll_run] at kept calls value device state
    rw [← kept] at value latch state
    exact ⟨value, (congrArg _ device).trans calls, latch, state⟩

end System

namespace Simulator

def dataReady : Strike Callback := ⟨0, true, fun _ => pure ()⟩

/-- The edge strikes when an attempt has made its calls and not yet stored what came of them. -/
def struckAttempt : System.Action SimulatedBoard Callback (List Reply × Unit) := do
  let gyro ← System.getGyro 0
  let result ← System.onBus 0 (gyro.identify .empty 0)
  System.onSignals dataReady.raise
  System.putGyro 0 result.2
  pure ([.identified result.1], ())

theorem struckAttempt_is_interleaved :
    System.Interleaved (System.performAll [attempt]) (Strike.raiseAll [dataReady])
      struckAttempt := by
  have polling : System.performAll [attempt] =
      System.getGyro 0 >>= fun gyro => System.onBus 0 (gyro.identify .empty 0) >>= fun result =>
        System.putGyro 0 result.2 >>= fun _ => pure [.identified result.1] := by
    simp only [System.performAll, attempt, System.step, bind_assoc, pure_bind]
  rw [polling]
  exact .polling (.outside (.getGyro 0)) fun gyro =>
    System.interleaved_of_polls (System.polls_onBus 0 (gyro.sequence_identify .empty 0))
      fun result => .interrupt fun _ =>
        .polling (.outside (.putGyro 0 result.2)) fun _ => .done _ ()

theorem struckAttempt_is_not_disturbed :
    (∀ operation ∈ [attempt], operation.touchesLatches = false) ∧
      System.Interleaved (System.performAll [attempt]) (Strike.raiseAll [dataReady])
        struckAttempt ∧
      let done := struckAttempt.run (powerUp (onPrimary {}))
      latchEvents done.events =
          [.clockRead 0, .entered 0, .clockRead 0, .recorded 0 ⟨0, 0, some 0⟩] ∧
        (done.state.gyros.get 0).detected = true ∧ (done.state.signals.latch 0).pending = true := by
  have apart : ∀ operation ∈ [attempt], operation.touchesLatches = false :=
    List.forall_mem_singleton.mpr rfl
  obtain ⟨_, _, moves, state⟩ :=
    (System.edges_do_not_disturb_polling [attempt] apart [dataReady]).2 struckAttempt
      struckAttempt_is_interleaved (powerUp (onPrimary {}))
  refine ⟨apart, struckAttempt_is_interleaved, moves, ?_, ?_⟩
  · rw [state]
    rfl
  · rw [state]
    rfl

end Simulator

end Imu
