import Imu.Proofs.Decision
import Imu.Proofs.Requests
import Imu.Proofs.Shape

/-!
The gate that the bus operations of a unit share. It is shut for one reason on a chip that must not
be used, for another on a unit that no known chip was found for, and open otherwise; and once the
unit has settled it stays as it is.
-/

namespace Imu

namespace Finding

/-- A finding that names no chip: there is none, the one that answered was not recognised, or a
driver of no known family claimed it. -/
inductive Nameless (candidates : List Candidate) (events : List Event) : Finding → Prop where
  | nothing : Nameless candidates events ⟨none, .undetected⟩
  | unrecognised : Nameless candidates events ⟨some (.primary 0x43), .undetected⟩
  | claimed (candidate : Candidate) (listed : candidate ∈ candidates)
    (claims : .access (.probe candidate.routine true) ∈ events)
    (unknown : candidate.family = .unknown) :
    Nameless candidates events ⟨some candidate.binding, ⟨.unknown, none⟩⟩

theorem Origin.nameless_iff {candidates : List Candidate} {events : List Event} {found : Finding}
    (origin : Origin candidates events found) :
    found.identification.family = .unknown ↔ found.Nameless candidates events := by
  constructor
  · intro unknown
    cases origin with
    | nothing => exact .nothing
    | unrecognised => exact .unrecognised
    | legacy | classified _ | extended => cases unknown
    | claimed candidate listed claims =>
      have nameless : Nameless candidates events ⟨some candidate.binding, ⟨.unknown, none⟩⟩ :=
        .claimed candidate listed claims unknown
      rw [← unknown] at nameless
      exact nameless
  · intro nameless
    cases nameless <;> rfl

end Finding

namespace Reply

/-- The gate let the operation through: it succeeded or was not acknowledged. -/
def Passed (reply : Reply) : Prop :=
  reply.result? = some (.ok ()) ∨ reply.result? = some (.error .noAck)

def Refused (reply : Reply) : Prop :=
  reply.result? = some (.error .undetected) ∨ reply.result? = some (.error .unsupported)

theorem Passed.not_refused {reply : Reply} (passed : reply.Passed) : ¬reply.Refused := by
  rcases passed with same | same <;> rw [Refused, same] <;> simp

theorem passed_of_confirmed {reply : Reply} {ack : Bool}
    (answered : reply.result? = some (confirmed ack)) : reply.Passed := by
  cases ack with
  | false => exact .inr answered
  | true => exact .inl answered

end Reply

inductive Operation.Concerns {β γ : Type} (g : Nat) : Operation β γ → Prop where
  | gated {operation : Operation β γ} (gate : operation.Gated g) : Concerns g operation
  | identify (bus : Nat) (candidates : CandidateList) (handler : Nat) :
    Concerns g (.identify g bus candidates handler)
  | arm : Concerns g (.arm g)
  | poll : Concerns g (.poll g)
  | setCallback (callback : Option γ) : Concerns g (.setCallback g callback)

namespace Gyro

theorem readable_congr {first second : Gyro} (same : first.standing = second.standing) :
    first.readable = second.readable := by
  obtain ⟨identification, binding, _⟩ := outcome_congr same
  rw [readable, readable, family, family, same, identification, binding]

theorem readable_error {gyro : Gyro} {refusal : Failure} (closed : gyro.readable = .error refusal) :
    refusal = .unsupported ∨ refusal = .undetected := by
  unfold readable at closed
  split at closed
  · cases closed
    exact .inl rfl
  · split at closed
    · cases closed
      exact .inr rfl
    · split at closed <;> cases closed
      exact .inr rfl

theorem detected_of_open {gyro : Gyro} {binding : Binding} (ready : gyro.readable = .ok binding) :
    gyro.detected = true := by
  cases ended : gyro.detected with
  | true => rfl
  | false =>
    rw [readable_of_undetected ended] at ready
    cases ready

theorem verdict_of_open {gyro : Gyro} {binding : Binding} (ready : gyro.readable = .ok binding) :
    gyro.verdict = .ok gyro.family := by
  have usable : gyro.standing ≠ .unsupported := by
    intro unusable
    rw [readable, if_pos unusable] at ready
    cases ready
  rw [verdict, incompatible, if_neg (by simpa using usable)]

theorem readable_unsupported {gyro : Gyro} :
    gyro.readable = .error .unsupported ↔ gyro.incompatible = true := by
  rw [incompatible, decide_eq_true_iff, readable]
  by_cases unusable : gyro.standing = .unsupported
  · rw [if_pos unusable]
    exact iff_of_true rfl unusable
  · rw [if_neg unusable]
    refine iff_of_false ?_ unusable
    split
    · simp
    · split <;> simp

/-- The last check of the gate never fires: a unit of a shape is refused only for being unusable or
for having no name. -/
theorem Shape.readable_undetected {claims : Candidate → Prop} {gyro : Gyro}
    (shape : gyro.Shape claims) :
    gyro.readable = .error .undetected ↔ gyro.incompatible = false ∧ gyro.family = .unknown := by
  constructor
  · intro closed
    have usable : gyro.incompatible = false := by
      rw [← Bool.not_eq_true, ← readable_unsupported, closed]
      exact nofun
    refine ⟨usable, ?_⟩
    by_cases unknown : gyro.family = .unknown
    · exact unknown
    · obtain ⟨binding, _, ready⟩ := shape.readable usable unknown
      rw [ready] at closed
      cases closed
  · rintro ⟨usable, unknown⟩
    have supported : gyro.standing ≠ .unsupported := by simpa [Gyro.incompatible] using usable
    rw [Gyro.readable, if_neg supported, if_pos unknown]

end Gyro

namespace System

variable {β γ : Type} [Bus β] {system : System β γ} {g : Nat} {operations : List (Operation β γ)}

theorem after_readable (ended : (system.gyros.get g).detected = true)
    (operations : List (Operation β γ)) :
    ((system.after operations).gyros.get g).readable = (system.gyros.get g).readable :=
  Gyro.readable_congr (after_standing_of_detected ended operations)

theorem passed_of_open {binding : Binding} (ready : (system.gyros.get g).readable = .ok binding)
    {operation : Operation β γ} (gate : operation.Gated g) :
    (system.perform operation).value.Passed := by
  have carried := carries_of_open ready gate
  cases request : operation.request binding with
  | none =>
    rw [request] at carried
    exact .inl carried.2.2
  | some call =>
    rw [request] at carried
    exact Reply.passed_of_confirmed carried.2.2

theorem result?_of_closed {refusal : Failure}
    (closed : (system.gyros.get g).readable = .error refusal) {operation : Operation β γ}
    (gate : operation.Gated g) :
    (system.perform operation).value.result? = some (.error refusal) := by
  rw [perform_of_closed closed gate]
  exact gate.result?_refused refusal

theorem result?_eq_iff {operation : Operation β γ} (gate : operation.Gated g) {refusal : Failure}
    (answered : refusal ≠ .noAck) :
    (system.perform operation).value.result? = some (.error refusal) ↔
      (system.gyros.get g).readable = .error refusal := by
  cases ready : (system.gyros.get g).readable with
  | error other => simp [result?_of_closed ready gate]
  | ok binding =>
    refine iff_of_false ?_ nofun
    -- Past the gate a call succeeds or is not acknowledged, and neither is this refusal.
    rcases passed_of_open ready gate with same | same <;> rw [same]
    · exact nofun
    · simpa using Ne.symm answered

theorem not_refused_of_open {binding : Binding}
    (ready : (system.gyros.get g).readable = .ok binding) {operation : Operation β γ}
    (concerns : operation.Concerns g) : ¬(system.perform operation).value.Refused := by
  cases concerns with
  | gated gate => exact (passed_of_open ready gate).not_refused
  | identify bus candidates handler =>
    rw [perform_identify_of_detected (Gyro.detected_of_open ready), Gyro.verdict_of_open ready]
    exact Reply.Passed.not_refused (.inl rfl)
  | arm =>
    rw [perform_arm]
    simp [Reply.Refused, Reply.result?]
  | poll =>
    rw [perform_poll]
    split <;> simp [Reply.Refused, Reply.result?]
  | setCallback callback => simp [perform, step, Reply.Refused, Reply.result?]

theorem after_nameless_iff (waiting : (system.gyros.get g).detected = false) :
    ((system.after operations).gyros.get g).readable = .error .undetected ↔
      ((system.after operations).gyros.get g).detected = false ∨
        ∃ (decision : system.Decision g operations) (found : Finding),
          decision.search.value = .ok found ∧
            found.Nameless decision.candidates.entries decision.search.events := by
  constructor
  · intro closed
    cases ended : ((system.after operations).gyros.get g).detected with
    | false => exact .inl rfl
    | true =>
      right
      obtain ⟨decision⟩ := exists_decision waiting ended
      obtain ⟨usable, unknown⟩ := (shape_after waiting operations).readable_undetected.mp closed
      -- The deciding search found a chip without a name, or it would have shut the gate for good.
      rcases decision.outcome with ⟨found, told⟩ | told
      · have origin := Finding.search_origin told
        rw [Gyro.family, (decision.found told).1] at unknown
        exact ⟨decision, found, told, origin.nameless_iff.mp unknown⟩
      · rw [decision.incompatible_iff.mpr told] at usable
        cases usable
  · rintro (unsettled | ⟨decision, found, told, nameless⟩)
    · exact Gyro.readable_of_undetected unsettled
    · rw [(shape_after waiting operations).readable_undetected]
      constructor
      · rw [← Bool.not_eq_true, decision.incompatible_iff, told]
        simp
      · rw [Gyro.family, (decision.found told).1]
        exact (Finding.search_origin told).nameless_iff.mpr nameless

/-- Which search decides about a refusal. A refused call does nothing, and once one is let through
none is refused any more. -/
theorem bus_operations_are_gated (system : System β γ) (g : Nat) (settings : Settings) (latch : Nat)
    (wired : Bool) (made : system.gyros.get g = Gyro.fresh settings latch wired)
    (operations : List (Operation β γ)) (operation : Operation β γ) (gate : operation.Gated g) :
    let reached := system.after operations
    let call := reached.perform operation
    (call.value.result? = some (.error .unsupported) ↔
      ∃ decision : system.Decision g operations, decision.search.value = .error .unsupported) ∧
    (call.value.result? = some (.error .undetected) ↔
      (reached.gyros.get g).detected = false ∨
        ∃ (decision : system.Decision g operations) (found : Finding),
          decision.search.value = .ok found ∧
            found.Nameless decision.candidates.entries decision.search.events) ∧
    ((call.value.Passed ∧
        ∀ later other, other.Concerns g →
          ¬((call.state.after later).perform other).value.Refused) ∨
      ∃ refusal, (refusal = .unsupported ∨ refusal = .undetected) ∧
        call = ⟨operation.refused refusal, [], reached⟩ ∧
        ((reached.gyros.get g).detected = true → ∀ later other, other.Gated g →
          (call.state.after later).perform other =
            ⟨other.refused refusal, [], call.state.after later⟩)) := by
  intro reached call
  have waiting : (system.gyros.get g).detected = false := by rw [made]; rfl
  refine ⟨?unsupported, ?undetected, ?gate⟩
  case unsupported =>
    have shut : call.value.result? = some (.error .unsupported) ↔ _ := result?_eq_iff gate nofun
    rw [shut, Gyro.readable_unsupported]
    exact incompatible_after_iff waiting
  case undetected =>
    have shut : call.value.result? = some (.error .undetected) ↔ _ := result?_eq_iff gate nofun
    rw [shut]
    exact after_nameless_iff waiting
  case gate =>
    cases ready : (reached.gyros.get g).readable with
    | ok binding =>
      refine .inl ⟨passed_of_open ready gate, ?_⟩
      intro later other concerns
      -- An open gate means that the unit has settled, and then the gate does not move.
      have still : ((reached.after (operation :: later)).gyros.get g).readable = .ok binding :=
        (after_readable (Gyro.detected_of_open ready) _).trans ready
      exact not_refused_of_open still concerns
    | error refusal =>
      have refused : call = ⟨operation.refused refusal, [], reached⟩ := perform_of_closed ready gate
      refine .inr ⟨refusal, Gyro.readable_error ready, refused, ?_⟩
      intro ended later other otherGate
      rw [refused]
      exact perform_of_closed ((after_readable ended later).trans ready) otherGate

end System

namespace Simulator

/-- A chip that answers, but with an identity of no known family. -/
def stranger : Chip := ({} : Chip).load 0x75 [0x12]

def peekConfiguration : Operation SimulatedBoard Callback := .slowRead 0 0 0x1A 2 #v[7, 9]

theorem stranger_is_refused :
    (powerUp (onPrimary stranger)).gyros.get 0 = Gyro.fresh {} 0 false ∧
      peekConfiguration.Gated 0 ∧
      (∃ (decision : (powerUp (onPrimary stranger)).Decision 0 [attempt]) (found : Finding),
        decision.search.value = .ok found ∧
          found.Nameless decision.candidates.entries decision.search.events) ∧
      let reached := (powerUp (onPrimary stranger)).after [attempt]
      reached.perform peekConfiguration = ⟨.filled (.error .undetected) [7, 9], [], reached⟩ := by
  have gate : peekConfiguration.Gated 0 := .slowRead 0 0x1A 2 #v[7, 9]
  obtain ⟨_, undetected, passed | ⟨refusal, _, call, _⟩⟩ :=
    System.bus_operations_are_gated (powerUp (onPrimary stranger)) 0 {} 0 false rfl [attempt]
      peekConfiguration gate
  · exact absurd (.inl rfl) passed.1.not_refused
  · have nameless := undetected.mp rfl
    have answer : (Reply.filled (.error .undetected) [7, 9]).result? = some (.error refusal) :=
      (congrArg (fun done => done.value.result?) call).trans (gate.result?_refused refusal)
    cases answer
    exact ⟨rfl, gate, nameless.resolve_left nofun, call⟩

end Simulator

end Imu
