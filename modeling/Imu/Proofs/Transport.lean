import Imu.Proofs.Gate

/-!
The binding of a unit, from the attempt that settled it to the calls of every later operation. The
attempt chooses it once: the primary routines if the primary transport answered, else what the first
driver that claimed the chip came with. From then on each operation that is not refused makes the
one call that this binding has for it, and a call on the primary routines is a single transaction
where the primary transport is an I2C bus.
-/

namespace Imu

def Activity.access? {γ : Type} : Activity γ → Option Access
  | .device (.access call) => some call
  | _ => none

def accesses {γ : Type} (activities : List (Activity γ)) : List Access :=
  activities.filterMap Activity.access?

theorem accesses_signal {γ : Type} (events : List (LatchEvent γ)) :
    accesses (events.map .signal) = [] := filterMap_signal (fun _ => rfl) events

theorem Gyro.accesses_arm {γ : Type} (gyro : Gyro) (line : Line) :
    accesses ((gyro.arm.run line).events.map .device : List (Activity γ)) = [] := by
  rw [accesses, List.filterMap_map]
  apply List.filterMap_eq_nil_iff.mpr
  intro event member
  rcases gyro.arm_events line event member with ⟨level, rfl⟩ | ⟨trigger, priority, rfl⟩ <;> rfl

/-- The I2C transaction that a call on the primary transport comes to, and what is recorded of it.
-/
def Request.transact {ι : Type} [I2c ι] (address : UInt8) (controller : ι) :
    Request → Option (Access × ι)
  | .read .primary register _ buffer =>
    let done := I2c.writeRead address [register] buffer controller
    some (.read .primary register done.1.buffer.toList done.1.ack, done.2)
  | .write .primary register data =>
    let done := I2c.write address [register, data] controller
    some (.write .primary register data done.1, done.2)
  | .read (.driver _) _ _ _ | .write (.driver _) _ _ | .write (.verifying _) _ _ | .reset _ => none

/-- On a binding to the primary routines every call is one transaction, and the rest of the board
has no part in it. -/
theorem Operation.transact_of_primary {β γ ι σ : Type} [I2c ι] [ChipDrivers (Board ι σ)]
    {operation : Operation β γ} {register : UInt8} {number : Nat} {request : Request}
    (asked : operation.request (.primary register) = some (number, request)) (controller : ι)
    (address : UInt8) (secondary : σ) :
    ∃ done, request.transact address controller = some done ∧
      request.make (⟨⟨controller, address⟩, secondary⟩ : Board ι σ) =
        (done.1, ⟨⟨done.2, address⟩, secondary⟩) := by
  cases operation with
  | read | readAccel | slowRead | write | writeVerified =>
    cases asked
    exact ⟨_, rfl, rfl⟩
  | _ => cases asked

namespace Finding

variable {β : Type} [Bus β]

theorem ofAnswers_binding {whoAmI : UInt8} {legacyId : Option (Vector UInt8 1)}
    {offsets : Option (Vector UInt8 6)} {product : Option (Vector UInt8 1)} {found : Finding}
    (succeeded : ofAnswers whoAmI legacyId offsets product = .ok found) :
    ∃ register, found.binding = some (.primary register) := by
  unfold ofAnswers at succeeded
  split at succeeded
  · cases succeeded
    exact ⟨_, rfl⟩
  · split at succeeded
    · cases told : Resolution.ofAnswers offsets product with
      | ok resolution => rw [told] at succeeded; cases succeeded; exact ⟨_, rfl⟩
      | error failure => rw [told] at succeeded; cases succeeded
    · split at succeeded <;> cases succeeded <;> exact ⟨_, rfl⟩

/-- What a search on this board with these candidates comes to, by who answered. -/
inductive Chosen (candidates : List Candidate) (bus : β) : Except Failure Finding → Prop where
  | failed (answered : (Event.ask 1 .primary 0x75 bus).1.ack = true) (failure : Failure) :
    Chosen candidates bus (.error failure)
  | primary (answered : (Event.ask 1 .primary 0x75 bus).1.ack = true) (found : Finding)
    (register : UInt8) (binding : found.binding = some (.primary register)) :
    Chosen candidates bus (.ok found)
  | nothing (silent : (Event.ask 1 .primary 0x75 bus).1.ack = false)
    (decline : AllDecline candidates (Event.ask 1 .primary 0x75 bus).2) :
    Chosen candidates bus (.ok nothing)
  | claimed (silent : (Event.ask 1 .primary 0x75 bus).1.ack = false)
    (declined : List Candidate) (claimer : Candidate) (unasked : List Candidate)
    (split : candidates = declined ++ claimer :: unasked)
    (decline : AllDecline declined (Event.ask 1 .primary 0x75 bus).2)
    (claims : (ChipDrivers.probe claimer.routine
      (afterAsking declined (Event.ask 1 .primary 0x75 bus).2)).1 = true) :
    Chosen candidates bus (.ok (claimedBy claimer))

theorem chosen_search (settleDelay : UInt32) (candidates : CandidateList) (bus : β) :
    Chosen candidates.entries bus ((search settleDelay candidates).run bus).value := by
  cases answered : (Event.ask 1 .primary Register.whoAmI bus).1.ack with
  | true =>
    cases told : ((search settleDelay candidates).run bus).value with
    | error failure => exact .failed answered failure
    | ok found =>
      rw [search_run_of_answered settleDelay candidates answered] at told
      obtain ⟨register, binding⟩ := ofAnswers_binding ((onPrimary_run _ _).1.symm.trans told)
      exact .primary answered found register binding
  | false =>
    have value : ((search settleDelay candidates).run bus).value =
        .ok ((ofCandidates candidates.entries).run
          (Event.ask 1 .primary Register.whoAmI bus).2).value :=
      congrArg Outcome.value (search_run_of_refused settleDelay candidates answered)
    rcases ofCandidates_run candidates.entries (Event.ask 1 .primary Register.whoAmI bus).2 with
      ⟨decline, run⟩ | ⟨declined, claimer, unasked, split, decline, claims, run⟩
    · rw [value, run]
      exact .nothing answered decline
    · rw [value, run]
      exact .claimed answered declined claimer unasked split decline claims

end Finding

namespace System

variable {β γ : Type} [Bus β] {system : System β γ} {g : Nat} {operations : List (Operation β γ)}

namespace Decision

def board (decision : system.Decision g operations) : β := decision.met.buses.get decision.bus

def binding (decision : system.Decision g operations) : Option Binding :=
  decision.search.value.toOption.bind Finding.binding

theorem binding_after (decision : system.Decision g operations) :
    ((system.after operations).gyros.get g).binding = decision.binding := by
  rw [Gyro.binding, decision.standing, binding]
  rcases decision.outcome with ⟨found, told⟩ | told <;> rw [told] <;> rfl

theorem chosen (decision : system.Decision g operations) :
    Finding.Chosen decision.candidates.entries decision.board decision.search.value :=
  Finding.chosen_search _ decision.candidates decision.board

end Decision

theorem quiet_of_not_gated (ended : (system.gyros.get g).detected = true)
    {operation : Operation β γ} (concerns : operation.Concerns g) (free : ¬operation.Gated g) :
    accesses (system.perform operation).events = [] ∧
      (system.perform operation).state.buses = system.buses := by
  cases concerns with
  | gated gate => exact absurd gate free
  | identify bus candidates handler =>
    rw [perform_identify_of_detected ended]
    exact ⟨rfl, rfl⟩
  | arm =>
    rw [perform_arm]
    exact ⟨Gyro.accesses_arm _ _, rfl⟩
  | poll =>
    rw [perform_poll]
    split
    · exact ⟨accesses_signal _, rfl⟩
    · exact ⟨rfl, rfl⟩
  | setCallback callback => exact ⟨rfl, rfl⟩

/-- What an operation on a unit does on the boards, given what the unit is bound to: nothing if the
unit refuses it, the one call that the binding has for it if not, and nothing if it is not one that
could be refused. -/
structure CallsThrough (system : System β γ) (g : Nat) (bound : Option Binding)
    (operation : Operation β γ) : Prop where
  binding : (system.gyros.get g).binding = bound
  refused : ∀ refusal, (system.gyros.get g).readable = .error refusal → operation.Gated g →
    system.perform operation = ⟨operation.refused refusal, [], system⟩
  carried : ∀ binding, (system.gyros.get g).readable = .ok binding → operation.Gated g →
    bound = some binding ∧ system.Carries operation (operation.request binding)
  reset : ∀ binding bus, (system.gyros.get g).readable = .ok binding → operation = .reset g bus →
    (system.perform operation).value = .hadReset (.ok binding.reset.isSome)
  free : ¬operation.Gated g → accesses (system.perform operation).events = [] ∧
    (system.perform operation).state.buses = system.buses

theorem callsThrough_of_detected (ended : (system.gyros.get g).detected = true)
    {operation : Operation β γ} (concerns : operation.Concerns g) :
    system.CallsThrough g (system.gyros.get g).binding operation where
  binding := rfl
  refused _ closed gate := perform_of_closed closed gate
  carried _ ready gate := ⟨Gyro.binding_of_readable ready, carries_of_open ready gate⟩
  reset _ bus ready same := by
    rw [same]
    exact perform_reset_value ready bus
  free := quiet_of_not_gated ended concerns

/-- Everything done with a settled unit goes through what the deciding attempt bound it to. -/
theorem settled_unit_calls_its_binding (system : System β γ) (g : Nat) (settings : Settings)
    (latch : Nat) (wired : Bool) (made : system.gyros.get g = Gyro.fresh settings latch wired)
    (operations : List (Operation β γ))
    (ended : ((system.after operations).gyros.get g).detected = true) :
    ∃ decision : system.Decision g operations,
      Finding.Chosen decision.candidates.entries decision.board decision.search.value ∧
      (∀ later operation, operation.Concerns g →
        ((system.after operations).after later).CallsThrough g decision.binding operation) ∧
      ∀ register, decision.binding = some (.primary register) →
        ∀ (operation : Operation β γ) number request,
          operation.request (.primary register) = some (number, request) →
          ∀ (ι σ : Type) [I2c ι] [ChipDrivers (Board ι σ)] (controller : ι) (address : UInt8)
            (secondary : σ), ∃ done, request.transact address controller = some done ∧
              request.make (⟨⟨controller, address⟩, secondary⟩ : Board ι σ) =
                (done.1, ⟨⟨done.2, address⟩, secondary⟩) := by
  have waiting : (system.gyros.get g).detected = false := by rw [made]; rfl
  obtain ⟨decision⟩ := exists_decision waiting ended
  refine ⟨decision, decision.chosen, ?through, ?transaction⟩
  case through =>
    intro later operation concerns
    obtain ⟨_, binding, detected, _⟩ :=
      Gyro.outcome_congr (after_standing_of_detected ended later)
    -- What the unit was bound to then is what it is bound to whenever it is used.
    rw [← decision.binding_after, ← binding]
    exact callsThrough_of_detected (detected.trans ended) concerns
  case transaction =>
    intro register _ operation number request asked ι σ _ _ controller address secondary
    exact Operation.transact_of_primary asked controller address secondary

end System

namespace Simulator

theorem behindDriver_is_read_through_its_driver :
    (powerUp behindDriver).gyros.get 0 = Gyro.fresh {} 0 false ∧
      (((powerUp behindDriver).after [driverAttempt]).gyros.get 0).detected = true ∧
      (∃ decision : (powerUp behindDriver).Decision 0 [driverAttempt],
        decision.binding = some driver.binding) ∧
      ((powerUp behindDriver).after [driverAttempt]).Carries (.read 0 0)
        (some (0, .read (.driver 0) 0x43 6 (Vector.replicate 6 0))) := by
  obtain ⟨decision, _, calls, _⟩ :=
    System.settled_unit_calls_its_binding (powerUp behindDriver) 0 {} 0 false rfl [driverAttempt]
      rfl
  have through := calls [] (.read 0 0) (.gated (.read 0))
  obtain ⟨bound, carried⟩ := through.carried driver.binding rfl (.read 0)
  exact ⟨rfl, rfl, ⟨decision, bound⟩, carried⟩

end Simulator

end Imu
