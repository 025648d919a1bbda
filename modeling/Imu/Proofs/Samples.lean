import Imu.Proofs.Requests
import Imu.Proofs.Search
import Imu.Simulator.Callback

/-!
What a raw sample is worth after any run: it is the last burst that was acknowledged to the read
operation of that very device, decoded, and zero if there was none.
-/

namespace Imu

namespace Sample

/-- Two bytes as a two's complement number, the high one first. -/
def twosComplement (high low : UInt8) : Int :=
  if high.toNat < 128 then 256 * high.toNat + low.toNat
  else 256 * high.toNat + low.toNat - 65536

theorem toInt_word_eq (high low : UInt8) : (word high low).toInt = twosComplement high low := by
  have highBound := high.toNat_lt
  have lowBound := low.toNat_lt
  calc
    (word high low).toInt = ((256 * high.toNat + low.toNat : Nat) : Int).bmod 65536 :=
      toInt_word high low
    _ = twosComplement high low := by
      unfold twosComplement
      by_cases positive : high.toNat < 128
      · rw [if_pos positive]
        apply Int.bmod_eq_of_le <;> omega
      · rw [if_neg positive, ← Int.sub_bmod_right]
        apply Int.bmod_eq_of_le <;> omega

def Decodes (sample : Sample) : List UInt8 → Prop
  | [xHigh, xLow, yHigh, yLow, zHigh, zLow] =>
    sample.x.toInt = twosComplement xHigh xLow ∧ sample.y.toInt = twosComplement yHigh yLow ∧
      sample.z.toInt = twosComplement zHigh zLow
  | _ => False

theorem decodes_ofBurst (buffer : Vector UInt8 6) :
    (ofBurst (Burst.ofBuffer buffer)).Decodes buffer.toList := by
  have split :
      buffer.toList = [buffer[0], buffer[1], buffer[2], buffer[3], buffer[4], buffer[5]] := by
    apply List.ext_getElem
    · simp
    · intro place inside _
      have small : place < 6 := by simpa using inside
      rcases place with _ | _ | _ | _ | _ | _ | rest
      case succ => omega
      all_goals rfl
  rw [split]
  exact ⟨toInt_word_eq .., toInt_word_eq .., toInt_word_eq ..⟩

end Sample

def Operation.readsSample {β γ : Type} : Operation β γ → Bool
  | .read _ _ | .readAccel _ _ _ => true
  | _ => false

theorem Gyro.readSample_of_bound {β : Type} [Bus β] {gyro : Gyro} {binding : Binding}
    (bound : gyro.Bound binding) (register : Binding → UInt8) (bus : β) :
    (gyro.through fun binding => binding.readSample (register binding)).run bus =
      let burst := Event.ask 6 binding.read (register binding) bus
      ⟨if burst.1.ack then .ok (Sample.ofBurst (Burst.ofBuffer burst.1.buffer)) else .error .noAck,
        [.ofRead binding.read (register binding) burst.1], burst.2⟩ := by
  rw [through_of_open (readable_eq_ok.mpr bound), Binding.readSample_run, Event.perform_eq_ask]
  rfl

namespace System

variable {β γ : Type} [Bus β]

/-- The board acknowledges a burst through what the unit is bound to. -/
def Acknowledges (system : System β γ) (g bus : Nat) (register : Binding → UInt8) : Prop :=
  ∃ binding, (system.gyros.get g).Bound binding ∧
    (Event.ask 6 binding.read (register binding) (system.buses.get bus)).1.ack = true

def Answered (system : System β γ) : Operation β γ → Prop
  | .read g bus => system.Acknowledges g bus Binding.gyroRegister
  | .readAccel _ g bus => system.Acknowledges g bus fun _ => 0x3B
  | _ => False

def GyroAnswered (g : Nat) (system : System β γ) (operation : Operation β γ) : Prop :=
  (∃ bus, operation = .read g bus) ∧ system.Answered operation

/-- An accelerometer may be read with any unit. -/
def AccelAnswered (number : Nat) (system : System β γ) (operation : Operation β γ) : Prop :=
  (∃ g bus, operation = .readAccel number g bus) ∧ system.Answered operation

def AccelMade (number : Nat) (system : System β γ) (operation : Operation β γ) : Prop :=
  operation.makesAccel = true ∧ (system.perform operation).value = .paired (.ok number)

/-- The board acknowledges the burst with these bytes. The operation makes this one call. -/
def Delivered (system : System β γ) (operation : Operation β γ) (g bus : Nat)
    (register : Binding → UInt8) (bytes : List UInt8) : Prop :=
  ∃ binding, (system.gyros.get g).Bound binding ∧
    let burst := Event.ask 6 binding.read (register binding) (system.buses.get bus)
    burst.1.ack = true ∧ burst.1.buffer.toList = bytes ∧
      (system.perform operation).events =
        [.device (.access (.read binding.read (register binding) bytes true))] ∧
      (system.perform operation).state.buses = system.buses.set bus burst.2

/-- How an operation that reads a sample can end, and what becomes of the sample. -/
inductive Ends (system : System β γ) (operation : Operation β γ) (g bus : Nat)
    (register : Binding → UInt8) (former latter : Sample) : Prop where
  | failed (unanswered : ¬system.Acknowledges g bus register) (failure : Failure)
    (value : (system.perform operation).value = .finished (.error failure))
    (kept : latter = former)
  | delivered (answered : system.Acknowledges g bus register)
    (value : (system.perform operation).value = .finished (.ok ())) (bytes : List UInt8)
    (delivered : system.Delivered operation g bus register bytes) (decodes : latter.Decodes bytes)

theorem ends_of_run {system : System β γ} {operation : Operation β γ} {g bus : Nat}
    {register : Binding → UInt8} {done : Outcome Event β (Except Failure Sample)}
    (run : ((system.gyros.get g).through fun binding => binding.readSample (register binding)).run
      (system.buses.get bus) = done)
    (former : Sample)
    (value : (system.perform operation).value = .finished (done.value.map fun _ => ()))
    (events : (system.perform operation).events = done.events.map .device)
    (buses : (system.perform operation).state.buses = system.buses.set bus done.state) :
    system.Ends operation g bus register former (done.value.toOption.getD former) := by
  cases gate : (system.gyros.get g).readable with
  | error refusal =>
    rw [Gyro.through_of_closed gate] at run
    subst run
    have unanswered : ¬system.Acknowledges g bus register := by
      rintro ⟨binding, bound, _⟩
      rw [Gyro.readable_eq_ok.mpr bound] at gate
      cases gate
    exact .failed unanswered refusal value rfl
  | ok binding =>
    have bound := Gyro.readable_eq_ok.mp gate
    rw [Gyro.readSample_of_bound bound] at run
    cases ack : (Event.ask 6 binding.read (register binding) (system.buses.get bus)).1.ack with
    -- No other binding could have been acknowledged: the unit is bound to this one.
    | false =>
      simp only [ack] at run
      subst run
      have unanswered : ¬system.Acknowledges g bus register := by
        rintro ⟨other, alike, answered⟩
        rw [← bound.unique alike, ack] at answered
        cases answered
      exact .failed unanswered .noAck value rfl
    | true =>
      simp only [ack, if_true] at run
      subst run
      have delivered : system.Delivered operation g bus register _ :=
        ⟨binding, bound, ack, rfl, by rw [events, Event.ofRead, ack]; rfl, buses⟩
      exact .delivered ⟨binding, bound, ack⟩ value _ delivered (Sample.decodes_ofBurst _)

theorem read_ends (system : System β γ) (g bus : Nat) :
    system.Ends (.read g bus) g bus Binding.gyroRegister (system.gyros.get g).raw
      ((system.perform (.read g bus)).state.gyros.get g).raw := by
  have run := perform_read system g bus
  rw [Gyro.read_run] at run
  have ends := ends_of_run rfl (system.gyros.get g).raw (congrArg Outcome.value run)
    (congrArg Outcome.events run) (congrArg (fun done => done.state.buses) run)
  rw [run, Bank.get_set_self]
  exact ends

theorem readAccel_ends (system : System β γ) (number g bus : Nat) :
    system.Ends (.readAccel number g bus) g bus (fun _ => 0x3B) (system.accels.get number).raw
      ((system.perform (.readAccel number g bus)).state.accels.get number).raw := by
  have run := perform_readAccel system number g bus
  rw [Accel.read_run] at run
  have ends := ends_of_run rfl (system.accels.get number).raw (congrArg Outcome.value run)
    (congrArg Outcome.events run) (congrArg (fun done => done.state.buses) run)
  rw [run, Bank.get_set_self]
  exact ends

namespace Ends

variable {system : System β γ} {operation : Operation β γ} {g bus : Nat}
  {register : Binding → UInt8} {former latter : Sample}

theorem answered_iff (ends : system.Ends operation g bus register former latter) :
    system.Acknowledges g bus register ↔
      (system.perform operation).value = .finished (.ok ()) := by
  cases ends with
  | failed unanswered failure value kept =>
    rw [value]
    exact iff_of_false unanswered nofun
  | delivered answered value bytes delivered decodes => exact iff_of_true answered value

theorem decodes (ends : system.Ends operation g bus register former latter)
    (answered : system.Acknowledges g bus register) :
    ∃ bytes, system.Delivered operation g bus register bytes ∧ latter.Decodes bytes := by
  cases ends with
  | failed unanswered failure value kept => exact absurd answered unanswered
  | delivered answered value bytes delivered decodes => exact ⟨bytes, delivered, decodes⟩

theorem kept (ends : system.Ends operation g bus register former latter)
    (unanswered : ¬system.Acknowledges g bus register) : latter = former := by
  cases ends with
  | failed unanswered failure value kept => exact kept
  | delivered answered value bytes delivered decodes => exact absurd answered unanswered

end Ends

theorem perform_raw (system : System β γ) {operation : Operation β γ} {g : Nat}
    (other : ¬system.GyroAnswered g operation) :
    ((system.perform operation).state.gyros.get g).raw = (system.gyros.get g).raw := by
  -- `perform_parts` leaves the sample open for a read, even for one that failed.
  by_cases reads : ∃ bus, operation = .read g bus
  · obtain ⟨bus, rfl⟩ := reads
    exact (system.read_ends g bus).kept fun answered => other ⟨⟨bus, rfl⟩, answered⟩
  · obtain ⟨standing, armed, raw, became, _, _, kept⟩ := perform_parts system operation g
    rw [became]
    exact kept fun bus same => reads ⟨bus, same⟩

theorem perform_accel_raw (system : System β γ) {operation : Operation β γ} {number : Nat}
    (other : ¬(system.AccelAnswered number operation ∨ system.AccelMade number operation)) :
    ((system.perform operation).state.accels.get number).raw = (system.accels.get number).raw := by
  rcases perform_accel system operation number with same | ⟨g, bus, rfl, _⟩ | made
  · rw [same]
  · exact (system.readAccel_ends number g bus).kept fun answered =>
      other (.inl ⟨⟨g, bus, rfl⟩, answered⟩)
  · exact absurd (.inr made) other

/-- The sample of the unit is what the last answered read of it delivered, in one burst through its
binding, and zero if there was none. -/
def GyroSampled (system : System β γ) (operations : List (Operation β γ)) (g : Nat) : Prop :=
  let unread := fun (met : System β γ) operation => ¬met.GyroAnswered g operation
  let sample := ((system.after operations).gyros.get g).raw
  (sample = ⟨0, 0, 0⟩ ∧ system.Throughout unread operations) ∨
  ∃ before bus later bytes, operations = before ++ .read g bus :: later ∧
    (system.after before).Delivered (.read g bus) g bus Binding.gyroRegister bytes ∧
    sample.Decodes bytes ∧
    ((system.after before).perform (.read g bus)).state.Throughout unread later

/-- The same for an accelerometer, through the binding of the unit that it was read with. It starts
over when it is made. -/
def AccelSampled (system : System β γ) (operations : List (Operation β γ)) (number : Nat) : Prop :=
  let unread := fun (met : System β γ) operation =>
    ¬(met.AccelAnswered number operation ∨ met.AccelMade number operation)
  let sample := ((system.after operations).accels.get number).raw
  (sample = ⟨0, 0, 0⟩ ∧ (system.Throughout unread operations ∨
    ∃ before making later, operations = before ++ making :: later ∧
      (system.after before).AccelMade number making ∧
      ((system.after before).perform making).state.Throughout unread later)) ∨
  ∃ before g bus later bytes, operations = before ++ .readAccel number g bus :: later ∧
    (system.after before).Delivered (.readAccel number g bus) g bus (fun _ => 0x3B) bytes ∧
    sample.Decodes bytes ∧
    ((system.after before).perform (.readAccel number g bus)).state.Throughout unread later

theorem gyroSampled_after (system : System β γ) {g : Nat}
    (start : (system.gyros.get g).raw = ⟨0, 0, 0⟩) (operations : List (Operation β γ)) :
    system.GyroSampled operations g := by
  unfold GyroSampled
  intro unread sample
  rcases last_writer (fun met => (met.gyros.get g).raw) (GyroAnswered g)
      (fun met _ other => met.perform_raw other) system operations with
    ⟨kept, quiet⟩ | ⟨before, operation, later, split, ⟨⟨bus, rfl⟩, answered⟩, left, quiet⟩
  · exact .inl ⟨kept.trans start, quiet⟩
  · obtain ⟨bytes, delivered, decodes⟩ := ((system.after before).read_ends g bus).decodes answered
    rw [← left] at decodes
    exact .inr ⟨before, bus, later, bytes, split, delivered, decodes, quiet⟩

theorem accelSampled_after (system : System β γ) {number : Nat}
    (start : (system.accels.get number).raw = ⟨0, 0, 0⟩) (operations : List (Operation β γ)) :
    system.AccelSampled operations number := by
  unfold AccelSampled
  intro unread sample
  rcases last_writer (fun met => (met.accels.get number).raw)
      (fun met operation => met.AccelAnswered number operation ∨ met.AccelMade number operation)
      (fun met _ other => met.perform_accel_raw other) system operations with
    ⟨kept, quiet⟩ | ⟨before, operation, later, split, wrote, left, quiet⟩
  · exact .inl ⟨kept.trans start, .inl quiet⟩
  · rcases wrote with ⟨⟨g, bus, rfl⟩, answered⟩ | made
    · obtain ⟨bytes, delivered, decodes⟩ :=
        ((system.after before).readAccel_ends number g bus).decodes answered
      rw [← left] at decodes
      exact .inr ⟨before, g, bus, later, bytes, split, delivered, decodes, quiet⟩
    · have zero : sample = ⟨0, 0, 0⟩ := by
        rw [show sample = _ from left, accel_of_made made.1 made.2]
        rfl
      exact .inl ⟨zero, .inr ⟨before, operation, later, split, made, quiet⟩⟩

/-- Every sample is what the last answered read of its device delivered, and nothing else changes
one. -/
theorem samples_are_last_answered_bursts (system : System β γ)
    (units : ∀ g, (system.gyros.get g).raw = ⟨0, 0, 0⟩)
    (accels : ∀ number, (system.accels.get number).raw = ⟨0, 0, 0⟩)
    (operations : List (Operation β γ)) :
    let reached := system.after operations
    (∀ g, system.GyroSampled operations g) ∧
    (∀ number, system.AccelSampled operations number) ∧
    ∀ operation,
      (∀ g, ¬reached.GyroAnswered g operation →
        ((reached.perform operation).state.gyros.get g).raw = (reached.gyros.get g).raw) ∧
      (∀ number, ¬(reached.AccelAnswered number operation ∨ reached.AccelMade number operation) →
        ((reached.perform operation).state.accels.get number).raw =
          (reached.accels.get number).raw) ∧
      (operation.readsSample = true →
        (reached.Answered operation ↔ (reached.perform operation).value = .finished (.ok ()))) := by
  intro reached
  refine ⟨fun g => system.gyroSampled_after (units g) operations,
    fun number => system.accelSampled_after (accels number) operations, ?_⟩
  intro operation
  refine ⟨fun g => reached.perform_raw, fun number => reached.perform_accel_raw, ?_⟩
  intro reads
  cases operation with
  | read g bus => exact (reached.read_ends g bus).answered_iff
  | readAccel number g bus => exact (reached.readAccel_ends number g bus).answered_iff
  | _ => cases reads

end System

namespace Simulator

/-- A part of the extended family that turns about two of its axes. -/
def turning : Chip := (({} : Chip).load 0x75 [0x70]).load 0x43 [0xFF, 0xFE, 0x00, 0x05, 0x80, 0x00]

theorem turning_is_sampled :
    (∀ g, ((powerUp (onPrimary turning)).gyros.get g).raw = ⟨0, 0, 0⟩) ∧
      (∀ number, ((powerUp (onPrimary turning)).accels.get number).raw = ⟨0, 0, 0⟩) ∧
      (powerUp (onPrimary turning)).GyroSampled [.read 0 0, attempt, .read 0 0] 0 ∧
      ((powerUp (onPrimary turning)).after [.read 0 0, attempt]).Answered (.read 0 0) ∧
      (((powerUp (onPrimary turning)).after [.read 0 0, attempt, .read 0 0]).gyros.get 0).raw =
        ⟨-2, 5, -32768⟩ := by
  have units : ∀ g, ((powerUp (onPrimary turning)).gyros.get g).raw = ⟨0, 0, 0⟩ := fun _ => rfl
  have accels : ∀ number, ((powerUp (onPrimary turning)).accels.get number).raw = ⟨0, 0, 0⟩ :=
    fun _ => rfl
  have raw : (((powerUp (onPrimary turning)).after [.read 0 0, attempt, .read 0 0]).gyros.get
      0).raw = .ofBurst ⟨0xFF, 0xFE, 0x00, 0x05, 0x80, 0x00⟩ := rfl
  obtain ⟨sampled, _⟩ :=
    System.samples_are_last_answered_bursts _ units accels [.read 0 0, attempt, .read 0 0]
  obtain ⟨_, _, answers⟩ :=
    System.samples_are_last_answered_bursts _ units accels [.read 0 0, attempt]
  obtain ⟨_, _, answered⟩ := answers (.read 0 0)
  exact ⟨units, accels, sampled 0, (answered rfl).mpr rfl, raw.trans (by decide)⟩

end Simulator

end Imu
