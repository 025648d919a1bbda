import Imu.Gyro

/-!
What the operations of one unit do, each said once: what it answers, which calls it makes and
which part of the unit it changes. Identifying changes the standing and nothing else, reading
the sample and nothing else, arming the armed flag and nothing else.
-/

namespace Imu

namespace Standing

def ofOutcome : Except Failure Finding → Standing
  | .ok found => .settled found
  | .error .unsupported => .unsupported
  | .error _ => .undetermined

end Standing

namespace Gyro

/-- Identification is over, whatever came of it. -/
def detected (gyro : Gyro) : Bool := gyro.standing ≠ .undetermined

/-- Identification found a chip that must not be used. -/
def incompatible (gyro : Gyro) : Bool := gyro.standing = .unsupported

def verdict (gyro : Gyro) : Except Failure Family :=
  if gyro.incompatible then .error .unsupported else .ok gyro.family

/-- All of a unit that does not come from its chip. -/
def bare (gyro : Gyro) : Gyro := { gyro with standing := .undetermined, raw := .zero }

@[simp] theorem bare_settings (gyro : Gyro) : gyro.bare.settings = gyro.settings := rfl
@[simp] theorem bare_latch (gyro : Gyro) : gyro.bare.latch = gyro.latch := rfl
@[simp] theorem bare_wired (gyro : Gyro) : gyro.bare.wired = gyro.wired := rfl
@[simp] theorem bare_armed (gyro : Gyro) : gyro.bare.armed = gyro.armed := rfl

theorem detected_eq_false {gyro : Gyro} :
    gyro.detected = false ↔ gyro.standing = .undetermined := by
  simp [detected]

theorem detected_eq_true {gyro : Gyro} : gyro.detected = true ↔ gyro.standing ≠ .undetermined := by
  simp [detected]

theorem outcome_congr {first second : Gyro} (same : first.standing = second.standing) :
    first.identification = second.identification ∧ first.binding = second.binding ∧
      first.detected = second.detected ∧ first.verdict = second.verdict := by
  simp [identification, binding, detected, verdict, incompatible, family, same]

theorem identification_of_undetected {gyro : Gyro} (undetected : gyro.detected = false) :
    gyro.identification = .undetected := by
  rw [identification, detected_eq_false.mp undetected]

theorem binding_of_undetected {gyro : Gyro} (undetected : gyro.detected = false) :
    gyro.binding = none := by
  rw [binding, detected_eq_false.mp undetected]

theorem readable_of_undetected {gyro : Gyro} (undetected : gyro.detected = false) :
    gyro.readable = .error .undetected := by
  have standing := detected_eq_false.mp undetected
  have unknown : gyro.family = .unknown := by rw [family, identification, standing]; rfl
  rw [readable, if_neg (by simp [standing]), if_pos unknown]

/-- The unit settled on a supported chip, and this is what it is bound to. -/
def Bound (gyro : Gyro) (binding : Binding) : Prop :=
  ∃ found, gyro.standing = .settled found ∧ found.identification.family ≠ .unknown ∧
    found.binding = some binding

theorem readable_eq_ok {gyro : Gyro} {binding : Binding} :
    gyro.readable = .ok binding ↔ gyro.Bound binding := by
  unfold readable family identification Gyro.binding Bound
  cases gyro.standing with
  | undetermined | unsupported => simp [Identification.undetected]
  | settled found =>
    by_cases unknown : found.identification.family = .unknown
    · simp [unknown]
    · cases bound : found.binding <;> simp [unknown, bound]

theorem binding_of_readable {gyro : Gyro} {binding : Binding}
    (ready : gyro.readable = .ok binding) : gyro.binding = some binding := by
  obtain ⟨found, standing, _, bound⟩ := readable_eq_ok.mp ready
  rw [Gyro.binding, standing]
  exact bound

theorem Bound.unique {gyro : Gyro} {binding other : Binding} (bound : gyro.Bound binding)
    (alike : gyro.Bound other) : binding = other :=
  Except.ok.inj ((readable_eq_ok.mpr bound).symm.trans (readable_eq_ok.mpr alike))

def alarms (handler : Nat) : Except Failure Finding → List Event
  | .error .unsupported => [.report handler .accelUnsupported]
  | _ => []

theorem settle_run {β : Type} {gyro : Gyro} (undetected : gyro.detected = false) (handler : Nat)
    (outcome : Except Failure Finding) (bus : β) :
    (gyro.settle handler outcome).run bus =
      ⟨(outcome.map fun found => found.identification.family,
        { gyro with standing := .ofOutcome outcome }), alarms handler outcome, bus⟩ := by
  have same : { gyro with standing := .undetermined } = gyro := by
    rw [← detected_eq_false.mp undetected]
  rcases outcome with (_ | _ | _ | _) | found <;> simp [settle, alarms, Standing.ofOutcome,
    Except.map, Event.escalate, same]

section

variable {β : Type} [Bus β]

theorem identify_run_of_undetected {gyro : Gyro} (undetected : gyro.detected = false)
    (candidates : CandidateList) (handler : Nat) (bus : β) :
    (gyro.identify candidates handler).run bus =
      let done := (Finding.search gyro.settings.settleDelay candidates).run bus
      ⟨(done.value.map fun found => found.identification.family,
        { gyro with standing := .ofOutcome done.value }),
        done.events ++ alarms handler done.value, done.state⟩ := by
  rw [identify, detected_eq_false.mp undetected]
  simp only [Traced.run_bind, settle_run undetected]

theorem identify_run_of_detected {gyro : Gyro} (ended : gyro.detected = true)
    (candidates : CandidateList) (handler : Nat) (bus : β) :
    (gyro.identify candidates handler).run bus = ⟨(gyro.verdict, gyro), [], bus⟩ := by
  unfold identify
  split
  next standing => simp [verdict, incompatible, standing]
  next standing => simp [verdict, incompatible, family, identification, standing]
  next standing => exact absurd standing (detected_eq_true.mp ended)

theorem identify_keeps (gyro : Gyro) (candidates : CandidateList) (handler : Nat) (bus : β) :
    ∃ standing, ((gyro.identify candidates handler).run bus).value.2 =
      { gyro with standing := standing } := by
  cases ended : gyro.detected with
  | true => exact ⟨gyro.standing, by rw [identify_run_of_detected ended]⟩
  | false => exact ⟨_, by rw [identify_run_of_undetected ended]⟩

theorem read_run (gyro : Gyro) (bus : β) :
    gyro.read.run bus =
      let done := (gyro.through fun binding => binding.readSample binding.gyroRegister).run bus
      ⟨(done.value.map fun _ => (), { gyro with raw := done.value.toOption.getD gyro.raw }),
        done.events, done.state⟩ := by
  simp only [read, Traced.run_bind]
  generalize (gyro.through fun binding => binding.readSample binding.gyroRegister).run bus = done
  rcases done with ⟨_ | _, events, later⟩ <;> simp [Except.map, Except.toOption]

theorem read_keeps (gyro : Gyro) (bus : β) :
    ∃ raw, (gyro.read.run bus).value.2 = { gyro with raw := raw } := ⟨_, by rw [read_run]⟩

end

theorem arm_run (gyro : Gyro) (line : Line) :
    gyro.arm.run line =
      if gyro.armed then ⟨(true, gyro), [], line⟩
      else if gyro.wired then
        if gyro.settings.requireIdleLine then
          if line.next = .low then
            ⟨(true, { gyro with armed := true }),
              [.lineRead .low, .lineEnabled gyro.settings.trigger gyro.settings.priority],
              line.rest⟩
          else ⟨(false, gyro), [.lineRead line.next], line.rest⟩
        else
          ⟨(true, { gyro with armed := true }),
            [.lineEnabled gyro.settings.trigger gyro.settings.priority], line⟩
      else ⟨(false, gyro), [], line⟩ := by
  unfold arm enableLine
  split
  · rfl
  · split
    · split
      · by_cases idle : line.next = .low <;>
          simp [Event.readLine, Event.enableLine, Readings.look, idle]
      · rfl
    · rfl

theorem arm_keeps (gyro : Gyro) (line : Line) :
    ∃ armed, (gyro.arm.run line).value.2 = { gyro with armed := armed } := by
  rw [arm_run]
  split
  · exact ⟨gyro.armed, rfl⟩
  · split
    · split
      · split
        · exact ⟨true, rfl⟩
        · exact ⟨gyro.armed, rfl⟩
      · exact ⟨true, rfl⟩
    · exact ⟨gyro.armed, rfl⟩

theorem arm_events (gyro : Gyro) (line : Line) :
    ∀ event ∈ (gyro.arm.run line).events,
      (∃ level, event = .lineRead level) ∨
        ∃ trigger priority, event = .lineEnabled trigger priority := by
  rw [arm_run]
  split
  · simp
  · split
    · split
      · split <;> simp
      · simp
    · simp

theorem arm_bare (gyro : Gyro) (line : Line) :
    gyro.bare.arm.run line =
      let done := gyro.arm.run line
      ⟨(done.value.1, done.value.2.bare), done.events, done.state⟩ := by
  simp only [arm_run]
  -- None of what the call looks at comes from the chip.
  change (if gyro.armed then _ else if gyro.wired then
    if gyro.settings.requireIdleLine then _ else _ else _) = _
  split
  · rfl
  · split
    · split
      · split <;> rfl
      · rfl
    · rfl

end Gyro

namespace Accel

theorem read_run {β : Type} [Bus β] (accel : Accel) (gyro : Gyro) (bus : β) :
    (accel.read gyro).run bus =
      let done := (gyro.through fun binding => binding.readSample Register.accelOut).run bus
      ⟨(done.value.map fun _ => (), { accel with raw := done.value.toOption.getD accel.raw }),
        done.events, done.state⟩ := by
  simp only [read, Traced.run_bind]
  generalize (gyro.through fun binding => binding.readSample Register.accelOut).run bus = done
  rcases done with ⟨_ | _, events, later⟩ <;> simp [Except.map, Except.toOption]

end Accel

end Imu
