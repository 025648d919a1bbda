import Imu.Proofs.Frame
import Imu.Proofs.Search
import Imu.Simulator.Callback

/-!
A unit settles once. Attempts at identifying it that are cut off leave no trace in it; the
first that is not fixes what it is taken for, and nothing changes that afterwards.
-/

namespace Imu

namespace Gyro

/-- The unit stands for this outcome of a search. Of an unsupported chip it keeps the family. -/
def StandsFor (gyro : Gyro) : Except Failure Finding → Prop
  | .ok found => gyro.identification = found.identification ∧ gyro.binding = found.binding
  | .error failure =>
    failure = .unsupported ∧ gyro.identification = ⟨.mpu60x0, none⟩ ∧ gyro.binding = none

end Gyro

namespace System

variable {β γ : Type} [Bus β]

/-- Every attempt at identifying the unit was cut off by a missing acknowledgement. -/
def Interrupted (g : Nat) : System β γ → List (Operation β γ) → Prop :=
  Throughout fun system operation => operation.identifies g = true →
    (system.perform operation).value = .identified (.error .noAck)

theorem perform_identify_of_detected {system : System β γ} {g : Nat}
    (ended : (system.gyros.get g).detected = true) (bus : Nat) (candidates : CandidateList)
    (handler : Nat) :
    system.perform (.identify g bus candidates handler) =
      ⟨.identified (system.gyros.get g).verdict, [], system⟩ := by
  rw [perform_identify, Gyro.identify_run_of_detected ended]
  simp

theorem perform_identify_of_undetected {system : System β γ} {g : Nat}
    (undetected : (system.gyros.get g).detected = false) (bus : Nat) (candidates : CandidateList)
    (handler : Nat) :
    let done := (Finding.search (system.gyros.get g).settings.settleDelay candidates).run
      (system.buses.get bus)
    system.perform (.identify g bus candidates handler) =
      ⟨.identified (done.value.map fun found => found.identification.family),
        (done.events ++ Gyro.alarms handler done.value).map .device,
        { system with
          gyros := system.gyros.set g
            { system.gyros.get g with standing := .ofOutcome done.value }
          buses := system.buses.set bus done.state }⟩ := by
  rw [perform_identify, Gyro.identify_run_of_undetected undetected]

theorem perform_identify_standsFor {system : System β γ} {g : Nat}
    (undetected : (system.gyros.get g).detected = false) (bus : Nat) (candidates : CandidateList)
    (handler : Nat) :
    let search := (Finding.search (system.gyros.get g).settings.settleDelay candidates).run
      (system.buses.get bus)
    let call := system.perform (.identify g bus candidates handler)
    call.value = .identified (search.value.map fun found => found.identification.family) ∧
      (search.value ≠ .error .noAck →
        (call.state.gyros.get g).detected = true ∧
        (call.state.gyros.get g).StandsFor search.value ∧
        call.value = .identified (call.state.gyros.get g).verdict) := by
  intro search call
  have run : call = _ := perform_identify_of_undetected undetected bus candidates handler
  rw [run]
  refine ⟨rfl, fun finished => ?_⟩
  simp only [Bank.get_set_self]
  change _ ∧ _ ∧ Reply.identified (search.value.map _) = _
  change Gyro.detected { system.gyros.get g with standing := .ofOutcome search.value } = true ∧ _
  cases outcome : search.value with
  | ok found => exact ⟨rfl, ⟨rfl, rfl⟩, rfl⟩
  | error failure =>
    rcases Finding.search_error outcome with rfl | rfl
    · exact absurd outcome finished
    · exact ⟨rfl, ⟨rfl, rfl, rfl⟩, rfl⟩

theorem detected_perform_identify {system : System β γ} {g : Nat}
    (undetected : (system.gyros.get g).detected = false) (bus : Nat) (candidates : CandidateList)
    (handler : Nat) :
    let search := (Finding.search (system.gyros.get g).settings.settleDelay candidates).run
      (system.buses.get bus)
    let call := system.perform (.identify g bus candidates handler)
    (call.state.gyros.get g).detected = false ↔ search.value = .error .noAck := by
  intro search call
  constructor
  · intro still
    refine Classical.byContradiction fun finished => ?_
    obtain ⟨_, decided⟩ := perform_identify_standsFor undetected bus candidates handler
    exact Bool.false_ne_true (still.symm.trans (decided finished).1)
  · intro cutOff
    have run : call = _ := perform_identify_of_undetected undetected bus candidates handler
    rw [run, Bank.get_set_self, Gyro.detected_eq_false]
    exact congrArg Standing.ofOutcome cutOff

/-- Only an attempt settles a unit. -/
theorem identify_of_settling {system : System β γ} {g : Nat}
    (undetected : (system.gyros.get g).detected = false) {operation : Operation β γ}
    (ended : ((system.perform operation).state.gyros.get g).detected = true) :
    ∃ bus candidates handler, operation = .identify g bus candidates handler := by
  rw [← Operation.identifies_eq_true]
  refine Bool.of_not_eq_false fun other => ?_
  rw [Gyro.detected_eq_true, perform_standing system other] at ended
  exact ended (Gyro.detected_eq_false.mp undetected)

theorem perform_standing_of_detected {system : System β γ} {g : Nat}
    (ended : (system.gyros.get g).detected = true) (operation : Operation β γ) :
    ((system.perform operation).state.gyros.get g).standing = (system.gyros.get g).standing := by
  cases attempt : operation.identifies g with
  | false => exact perform_standing system attempt
  | true =>
    obtain ⟨bus, candidates, handler, rfl⟩ := Operation.identifies_eq_true.mp attempt
    rw [perform_identify_of_detected ended]

theorem after_standing_of_detected {system : System β γ} {g : Nat}
    (ended : (system.gyros.get g).detected = true) (operations : List (Operation β γ)) :
    ((system.after operations).gyros.get g).standing = (system.gyros.get g).standing := by
  induction operations generalizing system with
  | nil => rfl
  | cons operation rest ih =>
    have kept := perform_standing_of_detected ended operation
    have still : ((system.perform operation).state.gyros.get g).detected = true := by
      rw [Gyro.detected_eq_true, kept]
      exact Gyro.detected_eq_true.mp ended
    exact (ih still).trans kept

/-- The attempt in the run that settled the unit was given these candidates and did this. -/
def DecidedBy (system : System β γ) (g : Nat) (operations : List (Operation β γ))
    (candidates : CandidateList) (events : List (Activity γ)) : Prop :=
  ∃ before bus handler later,
    operations = before ++ .identify g bus candidates handler :: later ∧
    ((system.after before).gyros.get g).detected = false ∧
    let call := (system.after before).perform (.identify g bus candidates handler)
    (call.state.gyros.get g).detected = true ∧ call.events = events

theorem decidedBy_cons {system : System β γ} {g : Nat} {operation : Operation β γ}
    {rest : List (Operation β γ)} {candidates : CandidateList} {events : List (Activity γ)}
    (decided : (system.perform operation).state.DecidedBy g rest candidates events) :
    system.DecidedBy g (operation :: rest) candidates events := by
  obtain ⟨before, bus, handler, later, split, undetected, ended, did⟩ := decided
  exact ⟨operation :: before, bus, handler, later, congrArg (List.cons operation) split,
    undetected, ended, did⟩

theorem decided_after {system : System β γ} {g : Nat}
    (undetected : (system.gyros.get g).detected = false) (operations : List (Operation β γ)) :
    ((system.after operations).gyros.get g).detected = false ∨
    ∃ (bus : β) (candidates : CandidateList) (handler : Nat),
      let search := (Finding.search (system.gyros.get g).settings.settleDelay candidates).run bus
      search.value ≠ .error .noAck ∧
      ((system.after operations).gyros.get g).standing = .ofOutcome search.value ∧
      system.DecidedBy g operations candidates
        ((search.events ++ Gyro.alarms handler search.value).map .device) := by
  induction operations generalizing system with
  | nil => exact .inl undetected
  | cons operation rest ih =>
    cases reached : ((system.perform operation).state.gyros.get g).detected with
    | false =>
      rcases ih reached with unsettled | ⟨bus, candidates, handler, finished, standing, decided⟩
      · exact .inl unsettled
      · rw [perform_settings] at finished standing decided
        exact .inr ⟨bus, candidates, handler, finished, standing, decidedBy_cons decided⟩
    | true =>
      -- This is the attempt that settled the unit, and nothing after it changes the standing.
      obtain ⟨bus, candidates, handler, rfl⟩ := identify_of_settling undetected reached
      have kept := after_standing_of_detected reached rest
      have call := perform_identify_of_undetected undetected bus candidates handler
      refine .inr ⟨system.buses.get bus, candidates, handler, ?_, ?_,
        [], bus, handler, rest, rfl, undetected, reached, congrArg Outcome.events call⟩
      · intro cutOff
        rw [(detected_perform_identify undetected bus candidates handler).mpr cutOff] at reached
        cases reached
      · refine kept.trans ?_
        rw [call]
        simp

theorem perform_untouched {system : System β γ} {g : Nat}
    (untouched : (system.gyros.get g).bare = system.gyros.get g) {operation : Operation β γ}
    (interrupted : operation.identifies g = true →
      (system.perform operation).value = .identified (.error .noAck)) :
    ((system.perform operation).state.gyros.get g).bare =
      (system.perform operation).state.gyros.get g := by
  have undetected : (system.gyros.get g).detected = false :=
    Gyro.detected_eq_false.mpr (congrArg Gyro.standing untouched).symm
  rcases perform_gyro system operation g with
    same | ⟨bus, candidates, handler, rfl, _⟩ | ⟨bus, rfl, became⟩ | ⟨rfl, became⟩
  · rw [same, untouched]
  · have answer := interrupted (by simp [Operation.identifies])
    rw [perform_identify_of_undetected undetected] at answer ⊢
    simp only [Reply.identified.injEq, Bank.get_set_self] at answer ⊢
    generalize ((Finding.search _ candidates).run (system.buses.get bus)).value = outcome
      at answer ⊢
    rcases outcome with (_ | _ | _ | _) | _ <;> cases answer
    exact congrArg (fun gyro : Gyro => { gyro with standing := .undetermined }) untouched
  -- A unit that is not identified refuses to be read, so its sample stays as well.
  · have refused := Gyro.readable_of_undetected undetected
    rw [became, Gyro.read_run]
    simp only [Gyro.through, refused]
    exact untouched
  · obtain ⟨armed, kept⟩ := (system.gyros.get g).arm_keeps (system.lines.get g)
    rw [became, kept]
    exact congrArg (fun gyro : Gyro => { gyro with armed := armed }) untouched

theorem after_untouched {system : System β γ} {g : Nat}
    (untouched : (system.gyros.get g).bare = system.gyros.get g) {operations : List (Operation β γ)}
    (interrupted : system.Interrupted g operations) :
    ((system.after operations).gyros.get g).bare = (system.after operations).gyros.get g :=
  kept_after (fun met => (met.gyros.get g).bare = met.gyros.get g)
    (fun _ _ kept => perform_untouched kept) untouched interrupted

/-- Operations that stay outside can be left out of a run without any effect inside. -/
theorem inside_after_filter {keep : Operation β γ → Bool}
    (outside : ∀ operation, keep operation = false → operation.reachesInside = false)
    {first second : System β γ} (agree : first.inside = second.inside)
    (operations : List (Operation β γ)) :
    (first.after operations).inside = (second.after (operations.filter keep)).inside := by
  induction operations generalizing first second with
  | nil => exact agree
  | cons operation rest ih =>
    cases kept : keep operation with
    | true =>
      rw [List.filter_cons_of_pos kept]
      exact ih (inside_perform_congr agree operation)
    | false =>
      rw [List.filter_cons_of_neg (by simp [kept])]
      exact ih ((inside_perform_of_outside first (outside operation kept)).trans agree)

/-- Attempts that were cut off leave no trace, and the first that is not decides for good. -/
theorem identification_is_set_once (system : System β γ) (g : Nat) (settings : Settings)
    (latch : Nat) (wired : Bool) (made : system.gyros.get g = Gyro.fresh settings latch wired)
    (before : List (Operation β γ)) (interrupted : system.Interrupted g before) :
    let reached := system.after before
    let unasked := system.after (before.filter fun operation => !operation.identifies g)
    ((reached.gyros.get g).identification = .undetected ∧
      (reached.gyros.get g).binding = none ∧
      reached.gyros.get g = unasked.gyros.get g ∧
      reached.lines = unasked.lines ∧ reached.signals = unasked.signals) ∧
    ∀ bus candidates handler,
      let search := (Finding.search settings.settleDelay candidates).run (reached.buses.get bus)
      let call := reached.perform (.identify g bus candidates handler)
      call.value = .identified (search.value.map fun found => found.identification.family) ∧
      (search.value ≠ .error .noAck →
        (call.state.gyros.get g).StandsFor search.value ∧
        ∀ later,
          ((call.state.after later).gyros.get g).identification =
            (call.state.gyros.get g).identification ∧
          ((call.state.after later).gyros.get g).binding = (call.state.gyros.get g).binding ∧
          ∀ otherBus otherCandidates otherHandler,
            (call.state.after later).perform
                (.identify g otherBus otherCandidates otherHandler) =
              ⟨call.value, [], call.state.after later⟩) := by
  intro reached unasked
  have untouched : (system.gyros.get g).bare = system.gyros.get g := by rw [made]; rfl
  have reachedUntouched := after_untouched untouched interrupted
  have undetected : (reached.gyros.get g).detected = false :=
    Gyro.detected_eq_false.mpr (congrArg Gyro.standing reachedUntouched).symm
  refine ⟨⟨Gyro.identification_of_undetected undetected, Gyro.binding_of_undetected undetected, ?_⟩,
    fun bus candidates handler => ?_⟩
  -- Without its attempts the run is one of which none was answered.
  · have neverAsked :
        system.Interrupted g (before.filter fun operation => !operation.identifies g) :=
      throughout_of_mem (fun operation member _ asked => by simp [asked] at member) system
    have unaskedUntouched := after_untouched untouched neverAsked
    have agree : reached.inside = unasked.inside := inside_after_filter (fun operation dropped => by
      cases operation <;> simp_all [Operation.identifies, Operation.reachesInside]) rfl before
    obtain ⟨units, lines, signals⟩ := inside_eq_iff.mp agree
    exact ⟨reachedUntouched.symm.trans ((units g).trans unaskedUntouched), lines, signals⟩
  · have delay : (reached.gyros.get g).settings = settings :=
      (after_settings system before g).trans (by rw [made]; rfl)
    obtain ⟨answer, decided⟩ := perform_identify_standsFor undetected bus candidates handler
    rw [delay] at answer decided
    refine ⟨answer, fun finished => ?_⟩
    obtain ⟨ended, stands, verdict⟩ := decided finished
    refine ⟨stands, fun later => ?_⟩
    obtain ⟨identification, binding, detected, same⟩ :=
      Gyro.outcome_congr (after_standing_of_detected ended later)
    refine ⟨identification, binding, fun otherBus otherCandidates otherHandler => ?_⟩
    rw [perform_identify_of_detected (detected.trans ended), same, verdict]

end System

namespace Simulator

/-- An early part that does not acknowledge its third read, the first of the offsets. -/
def cutOffOnce : Chip := (({ refusedReads := [2] } : Chip).load 0x75 [0x68]).load 0x07 [1]

theorem cutOffOnce_is_identified_again :
    (powerUp (onPrimary cutOffOnce)).gyros.get 0 = Gyro.fresh {} 0 false ∧
      (powerUp (onPrimary cutOffOnce)).Interrupted 0 [attempt] ∧
      (((powerUp (onPrimary cutOffOnce)).after
        [attempt, attempt, .read 0 0, attempt]).gyros.get 0).identification =
          ⟨.mpu60x0, some .half⟩ := by
  have interrupted : (powerUp (onPrimary cutOffOnce)).Interrupted 0 [attempt] :=
    ⟨fun _ => rfl, trivial⟩
  obtain ⟨_, decides⟩ := System.identification_is_set_once _ 0 {} 0 false rfl _ interrupted
  obtain ⟨_, decided⟩ := decides 0 .empty 0
  obtain ⟨stands, forGood⟩ := decided (by
    intro cutOff
    cases cutOff)
  obtain ⟨kept, _⟩ := forGood [.read 0 0, attempt]
  exact ⟨rfl, interrupted, kept.trans stands.1⟩

end Simulator

end Imu
