import Imu.Proofs.Settling

/-!
The attempt that settled a unit. A run has settled a unit if and only if it holds such an attempt,
and the unit stands from then on as the search of that attempt left it.
-/

namespace Imu.System

variable {β γ : Type} [Bus β]

def searchFor (system : System β γ) (g bus : Nat) (candidates : CandidateList) :
    Outcome Event β (Except Failure Finding) :=
  (Finding.search (system.gyros.get g).settings.settleDelay candidates).run (system.buses.get bus)

/-- An attempt in the run that met the unit unsettled and left it settled. -/
structure Decision (system : System β γ) (g : Nat) (operations : List (Operation β γ)) where
  before : List (Operation β γ)
  bus : Nat
  candidates : CandidateList
  handler : Nat
  later : List (Operation β γ)
  split : operations = before ++ .identify g bus candidates handler :: later
  waiting : ((system.after before).gyros.get g).detected = false
  ended : (((system.after before).perform
    (.identify g bus candidates handler)).state.gyros.get g).detected = true

namespace Decision

def cons {system : System β γ} {g : Nat} {operation : Operation β γ} {rest : List (Operation β γ)}
    (decision : (system.perform operation).state.Decision g rest) :
    system.Decision g (operation :: rest) where
  before := operation :: decision.before
  bus := decision.bus
  candidates := decision.candidates
  handler := decision.handler
  later := decision.later
  split := congrArg (List.cons operation) decision.split
  waiting := decision.waiting
  ended := decision.ended

variable {system : System β γ} {g : Nat} {operations : List (Operation β γ)}

def met (decision : system.Decision g operations) : System β γ := system.after decision.before

def search (decision : system.Decision g operations) : Outcome Event β (Except Failure Finding) :=
  decision.met.searchFor g decision.bus decision.candidates

def call (decision : system.Decision g operations) : Outcome (Activity γ) (System β γ) Reply :=
  decision.met.perform (.identify g decision.bus decision.candidates decision.handler)

theorem call_eq (decision : system.Decision g operations) :
    decision.call =
      ⟨.identified (decision.search.value.map fun found => found.identification.family),
        (decision.search.events ++ Gyro.alarms decision.handler decision.search.value).map .device,
        { decision.met with
          gyros := decision.met.gyros.set g
            { decision.met.gyros.get g with standing := .ofOutcome decision.search.value }
          buses := decision.met.buses.set decision.bus decision.search.state }⟩ :=
  perform_identify_of_undetected decision.waiting decision.bus decision.candidates decision.handler

theorem call_standing (decision : system.Decision g operations) :
    (decision.call.state.gyros.get g).standing = .ofOutcome decision.search.value := by
  rw [call_eq, Bank.get_set_self]

theorem finished (decision : system.Decision g operations) :
    decision.search.value ≠ .error .noAck := by
  intro cutOff
  -- A search that was cut off leaves the unit waiting, and this attempt did not.
  have standing := decision.call_standing
  rw [cutOff] at standing
  exact Gyro.detected_eq_true.mp decision.ended standing

theorem outcome (decision : system.Decision g operations) :
    (∃ found, decision.search.value = .ok found) ∨
      decision.search.value = .error .unsupported := by
  cases told : decision.search.value with
  | ok found => exact .inl ⟨found, rfl⟩
  | error failure =>
    rcases Finding.search_error told with rfl | rfl
    · exact absurd told decision.finished
    · exact .inr rfl

theorem after_eq (decision : system.Decision g operations) :
    system.after operations = decision.call.state.after decision.later :=
  calc
    system.after operations = system.after (decision.before ++
        .identify g decision.bus decision.candidates decision.handler :: decision.later) :=
      congrArg system.after decision.split
    _ = decision.call.state.after decision.later := after_append ..

theorem standing (decision : system.Decision g operations) :
    ((system.after operations).gyros.get g).standing = .ofOutcome decision.search.value := by
  rw [decision.after_eq]
  exact (after_standing_of_detected decision.ended decision.later).trans decision.call_standing

theorem incompatible_iff (decision : system.Decision g operations) :
    ((system.after operations).gyros.get g).incompatible = true ↔
      decision.search.value = .error .unsupported := by
  rw [Gyro.incompatible, decide_eq_true_iff, decision.standing]
  rcases decision.outcome with ⟨found, told⟩ | told <;> simp [told, Standing.ofOutcome]

theorem found (decision : system.Decision g operations) {found : Finding}
    (told : decision.search.value = .ok found) :
    ((system.after operations).gyros.get g).identification = found.identification ∧
      ((system.after operations).gyros.get g).binding = found.binding := by
  have standing : ((system.after operations).gyros.get g).standing = .settled found := by
    rw [decision.standing, told]
    rfl
  exact ⟨by rw [Gyro.identification, standing], by rw [Gyro.binding, standing]⟩

end Decision

variable {system : System β γ} {g : Nat} {operations : List (Operation β γ)}

/-- A run that settles a unit holds the attempt that did. -/
theorem exists_decision (waiting : (system.gyros.get g).detected = false)
    (ended : ((system.after operations).gyros.get g).detected = true) :
    Nonempty (system.Decision g operations) := by
  rcases decided_after waiting operations with
    unsettled | ⟨_, candidates, _, _, _, before, number, handler, later, split, met, left, _⟩
  · rw [unsettled] at ended
    cases ended
  · exact ⟨⟨before, number, candidates, handler, later, split, met, left⟩⟩

theorem incompatible_after_iff (waiting : (system.gyros.get g).detected = false) :
    ((system.after operations).gyros.get g).incompatible = true ↔
      ∃ decision : system.Decision g operations, decision.search.value = .error .unsupported := by
  constructor
  · intro unusable
    have ended : ((system.after operations).gyros.get g).detected = true := by
      rw [Gyro.incompatible, decide_eq_true_iff] at unusable
      simp [Gyro.detected, unusable]
    obtain ⟨decision⟩ := exists_decision waiting ended
    exact ⟨decision, decision.incompatible_iff.mp unusable⟩
  · rintro ⟨decision, told⟩
    exact decision.incompatible_iff.mpr told

end Imu.System
