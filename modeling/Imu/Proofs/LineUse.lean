import Imu.Proofs.Arming
import Imu.Proofs.Recording

/-!
What is done to the data-ready line of a unit. Calls that are to arm the unit look at the line, if
the settings ask for that, until it is found low; then the interrupt is enabled, once, and the line
is left alone for good. Nothing else has anything to do with the line.
-/

namespace Imu

namespace Event

def onLine : Event → Bool
  | .lineRead _ | .lineEnabled _ _ => true
  | .delay _ | .access _ | .report _ _ => false

def enables : Event → Bool
  | .lineEnabled _ _ => true
  | .lineRead _ | .delay _ | .access _ | .report _ _ => false

end Event

def Activity.line? {γ : Type} : Activity γ → Option Event
  | .device event => if event.onLine then some event else none
  | .signal _ => none

def lineEvents {γ : Type} (activities : List (Activity γ)) : List Event :=
  activities.filterMap Activity.line?

theorem lineEvents_device {γ : Type} (events : List Event) :
    lineEvents (events.map .device : List (Activity γ)) = events.filter Event.onLine := by
  rw [lineEvents, List.filterMap_map]
  exact congrFun List.filterMap_eq_filter events

namespace Operation

variable {β γ : Type}

def arms (g : Nat) : Operation β γ → Bool
  | .arm index => index == g
  | _ => false

theorem arms_eq_true {g : Nat} {operation : Operation β γ} :
    operation.arms g = true ↔ operation = .arm g := by
  cases operation <;> simp [arms]

theorem CanRecord.line?_eq {operation : Operation β γ} (other : ∀ unit, operation ≠ .arm unit)
    {activity : Activity γ} (kind : operation.CanRecord activity) : activity.line? = none := by
  rcases activity with (_ | _ | _ | _ | _) | _
  case device.lineRead | device.lineEnabled =>
    obtain ⟨unit, arms⟩ := kind
    exact absurd arms (other unit)
  all_goals rfl

end Operation

namespace Gyro

/-- What so many calls do to the line of a unit that is not armed when the first of them is made. -/
def lineUse (settings : Settings) (wired : Bool) : Nat → Line → List Event
  | 0, _ => []
  | calls + 1, line =>
    if wired then
      if settings.requireIdleLine then
        if line.next = .low then
          [.lineRead .low, .lineEnabled settings.trigger settings.priority]
        else .lineRead line.next :: lineUse settings wired calls line.rest
      else [.lineEnabled settings.trigger settings.priority]
    else []

theorem lineUse_unwired (settings : Settings) (calls : Nat) (line : Line) :
    lineUse settings false calls line = [] := by
  cases calls <;> rfl

section

variable {gyro : Gyro} (unarmed : gyro.armed = false) (line : Line)

include unarmed

theorem arm_of_unwired (unwired : gyro.wired = false) :
    gyro.arm.run line = ⟨(false, gyro), [], line⟩ := by
  simp [arm_run, unarmed, unwired]

theorem arm_of_free (wired : gyro.wired = true) (free : gyro.settings.requireIdleLine = false) :
    gyro.arm.run line =
      ⟨(true, { gyro with armed := true }),
        [.lineEnabled gyro.settings.trigger gyro.settings.priority], line⟩ := by
  rw [arm_run, if_neg (by simp [unarmed]), if_pos wired, if_neg (by simp [free])]

theorem arm_of_checked (wired : gyro.wired = true)
    (checked : gyro.settings.requireIdleLine = true) :
    gyro.arm.run line =
      if line.next = .low then
        ⟨(true, { gyro with armed := true }),
          [.lineRead line.next, .lineEnabled gyro.settings.trigger gyro.settings.priority],
          line.rest⟩
      else ⟨(false, gyro), [.lineRead line.next], line.rest⟩ := by
  rw [arm_run, if_neg (by simp [unarmed]), if_pos wired, if_pos checked]
  by_cases idle : line.next = .low
  · rw [if_pos idle, if_pos idle, idle]
  · rw [if_neg idle, if_neg idle]

end

theorem lineEvents_arm {γ : Type} (gyro : Gyro) (line : Line) :
    lineEvents ((gyro.arm.run line).events.map .device : List (Activity γ)) =
      (gyro.arm.run line).events := by
  rw [lineEvents_device, List.filter_eq_self]
  intro event member
  rcases gyro.arm_events line event member with ⟨level, rfl⟩ | ⟨trigger, priority, rfl⟩ <;> rfl

end Gyro

namespace System

variable {β γ : Type} [Bus β] {system : System β γ} {g : Nat}

theorem perform_line_of_ne (system : System β γ) {operation : Operation β γ}
    (other : operation ≠ .arm g) :
    (system.perform operation).state.lines.get g = system.lines.get g := by
  cases operation with
  | arm index =>
    rw [perform_arm]
    refine Bank.get_set_of_ne _ _ ?_
    rintro rfl
    exact other rfl
  | poll index =>
    rw [perform_poll]
    split <;> rfl
  | call index bus call =>
    rw [perform_call]
    split <;> rfl
  | pairAccel index =>
    rw [perform_pairAccel]
    split <;> rfl
  | _ => rfl

theorem lineEvents_of_history (system : System β γ) (operations : List (Operation β γ)) :
    ∀ step ∈ system.history operations, (∀ unit, step.operation ≠ .arm unit) →
      lineEvents step.events = [] :=
  fun step member other => List.filterMap_eq_nil_iff.mpr fun activity recorded =>
    (history_canRecord system operations step member activity recorded).line?_eq other

theorem perform_arm_of_armed (armed : (system.gyros.get g).armed = true) :
    system.perform (.arm g) = ⟨.flag true, [], system⟩ := by
  rw [perform_arm, Gyro.arm_of_armed armed]
  simp

theorem perform_arm_unit (system : System β γ) (g : Nat) :
    let call := system.perform (.arm g)
    let done := (system.gyros.get g).arm.run (system.lines.get g)
    lineEvents call.events = done.events ∧ call.state.gyros.get g = done.value.2 ∧
      call.state.lines.get g = done.state := by
  rw [perform_arm]
  exact ⟨Gyro.lineEvents_arm _ _, Bank.get_set_self .., Bank.get_set_self ..⟩

/-- What the calls that were to arm the unit did to its line in the course of a run. -/
def lineUse (system : System β γ) (g : Nat) (operations : List (Operation β γ)) : List Event :=
  (system.history operations).flatMap fun step =>
    if step.operation.arms g then lineEvents step.events else []

theorem lineUse_cons_arm (system : System β γ) (g : Nat) (rest : List (Operation β γ)) :
    system.lineUse g (.arm g :: rest) =
      ((system.gyros.get g).arm.run (system.lines.get g)).events ++
        (system.perform (.arm g)).state.lineUse g rest := by
  rw [lineUse, history, List.flatMap_cons, if_pos (Operation.arms_eq_true.mpr rfl),
    (perform_arm_unit system g).1]
  rfl

theorem lineUse_cons_of_ne (system : System β γ) {operation : Operation β γ}
    (other : operation ≠ .arm g) (rest : List (Operation β γ)) :
    system.lineUse g (operation :: rest) = (system.perform operation).state.lineUse g rest := by
  rw [lineUse, history, List.flatMap_cons, if_neg (mt Operation.arms_eq_true.mp other)]
  rfl

theorem lineUse_of_armed (armed : (system.gyros.get g).armed = true)
    (operations : List (Operation β γ)) : system.lineUse g operations = [] := by
  induction operations generalizing system with
  | nil => rfl
  | cons operation rest ih =>
    have later := ih (perform_armed armed operation)
    by_cases arms : operation = .arm g
    · subst arms
      rw [lineUse_cons_arm, Gyro.arm_of_armed armed, later]
      rfl
    · rw [lineUse_cons_of_ne system arms, later]

/-- What so many calls come to that were to arm a unit which was not armed before them: whether it
is armed now, what is left of the readings of its line, and what was done to the line. -/
structure Attempts (settings : Settings) (wired : Bool) (line : Line) (calls : Nat) (armed : Bool)
    (left : Line) (events : List Event) : Prop where
  use : events = Gyro.lineUse settings wired calls line
  enabled : events.filter Event.enables =
    if armed then [.lineEnabled settings.trigger settings.priority] else []
  looked : armed = false → wired = true → settings.requireIdleLine = true →
    (∀ call < calls, line call ≠ .low) ∧ left = line.drop calls

namespace Attempts

variable {settings : Settings} {wired : Bool} {line left : Line} {calls : Nat} {armed : Bool}
  {events : List Event}

theorem none (settings : Settings) (wired : Bool) (line : Line) :
    Attempts settings wired line 0 false line [] :=
  ⟨rfl, rfl, fun _ _ _ => ⟨nofun, line.drop_zero.symm⟩⟩

theorem of_unwired (later : Attempts settings false line calls armed left events) :
    Attempts settings false line (calls + 1) armed left events := by
  refine ⟨?_, later.enabled, fun _ wired => nomatch wired⟩
  rw [later.use, Gyro.lineUse_unwired, Gyro.lineUse_unwired]

theorem of_free (free : settings.requireIdleLine = false) (line left : Line) (calls : Nat) :
    Attempts settings true line (calls + 1) true left
      [.lineEnabled settings.trigger settings.priority] :=
  ⟨by simp [Gyro.lineUse, free], rfl, fun unarmed => nomatch unarmed⟩

theorem of_low (checked : settings.requireIdleLine = true) (idle : line.next = .low) (left : Line)
    (calls : Nat) :
    Attempts settings true line (calls + 1) true left
      [.lineRead line.next, .lineEnabled settings.trigger settings.priority] :=
  ⟨by simp [Gyro.lineUse, checked, idle], rfl, fun unarmed => nomatch unarmed⟩

theorem of_busy (checked : settings.requireIdleLine = true) (busy : line.next ≠ .low)
    (later : Attempts settings true line.rest calls armed left events) :
    Attempts settings true line (calls + 1) armed left (.lineRead line.next :: events) := by
  refine ⟨?_, later.enabled, fun unarmed wired _ => ?_⟩
  · rw [later.use, Gyro.lineUse, if_pos rfl, if_pos checked, if_neg busy]
  · obtain ⟨none, remaining⟩ := later.looked unarmed wired checked
    refine ⟨fun call earlier => ?_, remaining.trans (line.drop_rest calls)⟩
    cases call with
    | zero => exact busy
    | succ call => exact none call (Nat.lt_of_succ_lt_succ earlier)

end Attempts

def Attempted (system : System β γ) (g : Nat) (operations : List (Operation β γ)) : Prop :=
  Attempts (system.gyros.get g).settings (system.gyros.get g).wired (system.lines.get g)
    (operations.countP (Operation.arms g)) ((system.after operations).gyros.get g).armed
    ((system.after operations).lines.get g) (system.lineUse g operations)

section

variable (unarmed : (system.gyros.get g).armed = false)

include unarmed

theorem perform_arm_of_unwired (unwired : (system.gyros.get g).wired = false) :
    system.perform (.arm g) = ⟨.flag false, [], system⟩ := by
  rw [perform_arm, Gyro.arm_of_unwired unarmed _ unwired]
  simp

theorem perform_arm_of_free (wired : (system.gyros.get g).wired = true)
    (free : (system.gyros.get g).settings.requireIdleLine = false) :
    let unit := system.gyros.get g
    system.perform (.arm g) =
      ⟨.flag true, [.device (.lineEnabled unit.settings.trigger unit.settings.priority)],
        { system with gyros := system.gyros.set g { unit with armed := true } }⟩ := by
  rw [perform_arm, Gyro.arm_of_free unarmed _ wired free]
  simp

theorem perform_arm_of_checked (wired : (system.gyros.get g).wired = true)
    (checked : (system.gyros.get g).settings.requireIdleLine = true) :
    let unit := system.gyros.get g
    let line := system.lines.get g
    let left := system.lines.set g line.rest
    system.perform (.arm g) =
      if line.next = .low then
        ⟨.flag true, [.device (.lineRead line.next),
            .device (.lineEnabled unit.settings.trigger unit.settings.priority)],
          { system with gyros := system.gyros.set g { unit with armed := true }, lines := left }⟩
      else ⟨.flag false, [.device (.lineRead line.next)], { system with lines := left }⟩ := by
  rw [perform_arm, Gyro.arm_of_checked unarmed _ wired checked]
  by_cases idle : (system.lines.get g).next = .low
  · simp [idle]
  · simp [idle]

theorem attempted_cons_arm {rest : List (Operation β γ)}
    (later : ((system.perform (.arm g)).state.gyros.get g).armed = false →
      (system.perform (.arm g)).state.Attempted g rest) :
    system.Attempted g (.arm g :: rest) := by
  obtain ⟨_, met, remaining⟩ := perform_arm_unit system g
  have done (succeeded : ((system.perform (.arm g)).state.gyros.get g).armed = true) :
      (system.perform (.arm g)).state.lineUse g rest = [] ∧
        ((system.after (.arm g :: rest)).gyros.get g).armed = true :=
    ⟨lineUse_of_armed succeeded rest, after_armed succeeded rest⟩
  rw [Attempted, List.countP_cons_of_pos (Operation.arms_eq_true.mpr rfl), lineUse_cons_arm]
  -- The cases are the checks of the call, in its order. Where it arms the unit nothing follows.
  cases wired : (system.gyros.get g).wired with
  | false =>
    rw [Gyro.arm_of_unwired unarmed _ wired] at met remaining ⊢
    have attempts := later (by rw [met]; exact unarmed)
    simp only [Attempted, met, remaining, wired] at attempts
    exact attempts.of_unwired
  | true =>
    cases checked : (system.gyros.get g).settings.requireIdleLine with
    | false =>
      rw [Gyro.arm_of_free unarmed _ wired checked] at met ⊢
      obtain ⟨quiet, armed⟩ := done (by rw [met])
      rw [quiet, armed]
      exact .of_free checked _ _ _
    | true =>
      rw [Gyro.arm_of_checked unarmed _ wired checked] at met remaining ⊢
      by_cases idle : (system.lines.get g).next = .low
      · rw [if_pos idle] at met ⊢
        obtain ⟨quiet, armed⟩ := done (by rw [met])
        rw [quiet, armed]
        exact .of_low checked idle _ _
      · rw [if_neg idle] at met remaining ⊢
        have attempts := later (by rw [met]; exact unarmed)
        simp only [Attempted, met, remaining, wired] at attempts
        exact attempts.of_busy checked idle

/-- A run does to the line of a unit what its calls do that are to arm this unit. -/
theorem attempted (operations : List (Operation β γ)) : system.Attempted g operations := by
  induction operations generalizing system with
  | nil =>
    have start := Attempts.none (system.gyros.get g).settings (system.gyros.get g).wired
      (system.lines.get g)
    rwa [← unarmed] at start
  | cons operation rest ih =>
    by_cases arms : operation = .arm g
    · subst arms
      exact attempted_cons_arm unarmed ih
    -- Other operations touch neither the line nor what the unit was made with.
    · have later := ih ((perform_armed_of_ne system arms).trans unarmed)
      rw [Attempted, perform_settings, perform_wired, perform_line_of_ne system arms] at later
      rw [Attempted, List.countP_cons_of_neg (mt Operation.arms_eq_true.mp arms),
        lineUse_cons_of_ne system arms]
      exact later

theorem armed_iff_answered (operations : List (Operation β γ)) :
    ((system.after operations).gyros.get g).armed = true ↔
      ∃ step ∈ system.history operations, step.operation = .arm g ∧ step.reply = .flag true := by
  induction operations generalizing system with
  | nil => simp [after, history, unarmed]
  | cons operation rest ih =>
    simp only [history, List.mem_cons, exists_eq_or_imp]
    have told : operation = .arm g ∧ (system.perform operation).value = .flag true ↔
        ((system.perform operation).state.gyros.get g).armed = true := by
      by_cases arms : operation = .arm g
      · subst arms
        rw [perform_arm_value, Reply.flag.injEq]
        exact and_iff_right rfl
      · simp [arms, perform_armed_of_ne system arms, unarmed]
    cases reached : ((system.perform operation).state.gyros.get g).armed with
    | true => exact iff_of_true (after_armed reached rest) (.inl (told.mpr reached))
    | false =>
      refine (ih reached).trans (or_iff_right ?_).symm
      rw [told, reached]
      exact Bool.false_ne_true

/-- The call that arms the unit is the one that enables its interrupt. -/
theorem enables_iff_arms :
    (∃ event ∈ lineEvents (system.perform (.arm g)).events, event.enables = true) ↔
      (system.perform (.arm g)).value = .flag true := by
  have enabled := (attempted unarmed [.arm g]).enabled
  have single : system.lineUse g [.arm g] = lineEvents (system.perform (.arm g)).events := by
    rw [lineUse_cons_arm, ← (perform_arm_unit system g).1]
    exact List.append_nil _
  rw [single] at enabled
  rw [perform_arm_value, Reply.flag.injEq]
  change List.filter _ _ = if ((system.perform (.arm g)).state.gyros.get g).armed then _ else _
    at enabled
  cases armed : ((system.perform (.arm g)).state.gyros.get g).armed with
  | false =>
    rw [armed, if_neg Bool.false_ne_true, List.filter_eq_nil_iff] at enabled
    simpa using enabled
  | true =>
    rw [armed, if_pos rfl] at enabled
    have member : Event.lineEnabled (system.gyros.get g).settings.trigger
        (system.gyros.get g).settings.priority ∈
          (lineEvents (system.perform (.arm g)).events).filter Event.enables := by
      rw [enabled]
      exact List.mem_singleton_self _
    exact iff_of_true ⟨_, List.mem_filter.mp member⟩ rfl

end

/-- The line of a unit is used as the number of calls says that are to arm it, and only the call
that arms the unit enables the interrupt. -/
theorem unit_is_armed_once (system : System β γ) (g : Nat) (settings : Settings) (latch : Nat)
    (wired : Bool) (made : system.gyros.get g = Gyro.fresh settings latch wired)
    (operations : List (Operation β γ)) :
    let reached := system.after operations
    let unit := reached.gyros.get g
    let line := system.lines.get g
    let calls := operations.countP (Operation.arms g)
    let call := reached.perform (.arm g)
    let enabling := Event.lineEnabled settings.trigger settings.priority
    let armed := reached.gyros.set g { unit with armed := true }
    system.lineUse g operations = Gyro.lineUse settings wired calls line ∧
    (system.lineUse g operations).filter Event.enables =
      (if unit.armed then [enabling] else []) ∧
    (unit.armed = true ↔
      ∃ step ∈ system.history operations, step.operation = .arm g ∧ step.reply = .flag true) ∧
    ((∃ event ∈ lineEvents call.events, event.enables = true) ↔ call.value = .flag true ∧
      ∀ step ∈ system.history operations, step.operation = .arm g → step.reply ≠ .flag true) ∧
    (unit.armed = true →
      call = ⟨.flag true, [], reached⟩ ∧
        ∀ later, ((reached.after later).gyros.get g).armed = true) ∧
    (unit.armed = false →
      (wired = false → call = ⟨.flag false, [], reached⟩) ∧
      (wired = true → settings.requireIdleLine = false →
        call = ⟨.flag true, [.device enabling], { reached with gyros := armed }⟩) ∧
      (wired = true → settings.requireIdleLine = true →
        let left := reached.lines.set g (line.drop (calls + 1))
        (∀ earlier < calls, line earlier ≠ .low) ∧
        call =
          if line calls = .low then
            ⟨.flag true, [.device (.lineRead (line calls)), .device enabling],
              { reached with gyros := armed, lines := left }⟩
          else ⟨.flag false, [.device (.lineRead (line calls))], { reached with lines := left }⟩)) ∧
    (∀ operation : Operation β γ, operation ≠ .arm g →
      ((reached.perform operation).state.gyros.get g).armed = unit.armed ∧
        (reached.perform operation).state.lines.get g = reached.lines.get g) ∧
    ∀ step ∈ system.history operations, (∀ other, step.operation ≠ .arm other) →
      lineEvents step.events = [] := by
  intro reached unit line calls call enabling armed
  have unarmed : (system.gyros.get g).armed = false := by rw [made]; rfl
  have configured : unit.settings = settings :=
    (after_settings system operations g).trans (by rw [made]; rfl)
  have connected : unit.wired = wired :=
    (after_wired system operations g).trans (by rw [made]; rfl)
  have attempts : Attempts settings wired line calls unit.armed (reached.lines.get g)
      (system.lineUse g operations) := by
    have attempted := attempted unarmed operations
    rwa [Attempted, made] at attempted
  have answered := armed_iff_answered unarmed operations
  refine ⟨attempts.use, attempts.enabled, answered, ?enabling, ?again, ?first,
    fun operation other => ⟨perform_armed_of_ne reached other, perform_line_of_ne reached other⟩,
    lineEvents_of_history system operations⟩
  case enabling =>
    cases before : unit.armed with
    | true =>
      obtain ⟨step, member, arms, told⟩ := answered.mp before
      have quiet : lineEvents call.events = [] :=
        congrArg (fun done => lineEvents done.events) (perform_arm_of_armed before)
      rw [quiet]
      -- An armed unit was told so by an earlier call, and leaves its line alone.
      refine iff_of_false ?_ fun ⟨_, unanswered⟩ => unanswered step member arms told
      rintro ⟨event, absent, _⟩
      exact List.not_mem_nil absent
    | false =>
      refine (enables_iff_arms before).trans (and_iff_left ?_).symm
      intro step member arms told
      exact Bool.false_ne_true (before.symm.trans (answered.mpr ⟨step, member, arms, told⟩))
  case again =>
    exact fun before => ⟨perform_arm_of_armed before, after_armed before⟩
  case first =>
    intro before
    have enabled : Event.lineEnabled unit.settings.trigger unit.settings.priority = enabling := by
      rw [configured]
    rw [← connected, ← configured, ← enabled]
    refine ⟨perform_arm_of_unwired before, perform_arm_of_free before, fun plugged checked => ?_⟩
    obtain ⟨busy, remaining⟩ :=
      attempts.looked before (connected ▸ plugged) (configured ▸ checked)
    have done := perform_arm_of_checked before plugged checked
    simp only [remaining, Readings.next_drop, Readings.rest_drop] at done
    exact ⟨busy, done⟩

end System

namespace Simulator

def guardedSettings : Settings := { priority := 3, trigger := .falling, requireIdleLine := true }

/-- A unit whose line must be idle, and is not for the first two looks at it. -/
def guarded : System SimulatedBoard Callback :=
  { powerUp .bare with
    gyros := Bank.fill (Gyro.fresh guardedSettings 0 true)
    lines := Bank.fill (Readings.ofList .low [.high, .failed, .low]) }

def insistent : List (Operation SimulatedBoard Callback) :=
  [attempt, .arm 0, .poll 0, .arm 0, .read 0 0, .arm 0, .edge 0 true (Callback.reaction 0), .arm 0]

theorem guarded_is_armed_at_third_call :
    guarded.gyros.get 0 = Gyro.fresh guardedSettings 0 true ∧
      guarded.lineUse 0 insistent =
        [.lineRead .high, .lineRead .failed, .lineRead .low, .lineEnabled .falling 3] ∧
      ((guarded.after insistent).gyros.get 0).armed = true ∧
      (guarded.after insistent).perform (.arm 0) = ⟨.flag true, [], guarded.after insistent⟩ := by
  have made : guarded.gyros.get 0 = Gyro.fresh guardedSettings 0 true := rfl
  have armed : ((guarded.after insistent).gyros.get 0).armed = true := rfl
  obtain ⟨use, _, _, _, again, _⟩ :=
    System.unit_is_armed_once guarded 0 guardedSettings 0 true made insistent
  exact ⟨made, use, armed, (again armed).1⟩

end Simulator

end Imu
