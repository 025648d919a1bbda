import Imu.Proofs.Escalation
import Imu.Proofs.LostAnswer

/-!
How often an identification can be cut off. Each attempt that ends without an answer has met a
refused read of its own, so a run in which the primary transports refuse a few reads cuts off as
many attempts at most, and all of them come before the one that settles the unit.
-/

namespace Imu

namespace Activity

variable {γ : Type}

def refusesRead : Activity γ → Bool
  | .device event => event.refusal.isSome
  | .signal _ => false

def delay? : Activity γ → Option UInt32
  | .device (.delay milliseconds) => some milliseconds
  | _ => none

end Activity

section

variable {γ : Type}

def refusedReads (activities : List (Activity γ)) : Nat := activities.countP Activity.refusesRead

def delays (activities : List (Activity γ)) : List UInt32 := activities.filterMap Activity.delay?

theorem refusedReads_device (events : List Event) :
    refusedReads (events.map .device : List (Activity γ)) = (Event.refusals events).length := by
  rw [refusedReads, List.countP_map, Event.refusals, List.length_filterMap_eq_countP]
  rfl

end

namespace Finding

variable {β : Type} [Bus β]

theorem refusals_of_cutOff {settleDelay : UInt32} {candidates : CandidateList} {bus : β}
    (cutOff : ((search settleDelay candidates).run bus).value = .error .noAck) :
    Event.refusals ((search settleDelay candidates).run bus).events ≠ [] := by
  cases answered : (Event.ask 1 .primary Register.whoAmI bus).1.ack with
  | false =>
    rw [search_run_of_refused settleDelay candidates answered] at cutOff
    cases cutOff
  | true =>
    obtain ⟨value, refusals, _⟩ := search_of_answered settleDelay candidates answered
    rw [value] at cutOff
    rw [refusals]
    -- If nothing was refused then nothing is missing, and the search was not cut off.
    intro none
    have legacyTold := (List.append_eq_nil_iff.mp none).1
    exact missing_eq_iff.mp (none.trans legacyTold.symm) cutOff

theorem delays_search {γ : Type} (settleDelay : UInt32) (candidates : CandidateList) (bus : β) :
    delays (((search settleDelay candidates).run bus).events.map .device : List (Activity γ)) =
      [settleDelay] := by
  obtain ⟨rest, events, refused, answered⟩ := footprint_search settleDelay candidates bus
  rw [events]
  have silent : delays (rest.map .device : List (Activity γ)) = [] := by
    cases ack : (Event.ask 1 .primary 0x75 bus).1.ack with
    | false =>
      rw [delays, List.filterMap_map]
      apply List.filterMap_eq_nil_iff.mpr
      intro event member
      obtain ⟨candidate, _, claimed, rfl⟩ := (refused ack).probes event member
      rfl
    | true =>
      rw [(answered ack).1]
      split
      · split <;> rfl
      · rfl
  exact congrArg (List.cons settleDelay) silent

end Finding

theorem Gyro.delays_alarms {γ : Type} (handler : Nat) (outcome : Except Failure Finding) :
    delays ((alarms handler outcome).map .device : List (Activity γ)) = [] := by
  rcases outcome with (_ | _ | _ | _) | _ <;> rfl

namespace System

variable {β γ : Type}

/-- An attempt at identifying the unit was cut off by a missing acknowledgement. -/
def Step.cutOff (g : Nat) (step : Step β γ) : Bool :=
  step.operation.identifies g &&
    match step.reply with
    | .identified (.error .noAck) => true
    | _ => false

theorem Step.cutOff_iff {g : Nat} {step : Step β γ} :
    step.cutOff g = true ↔
      step.operation.identifies g = true ∧ step.reply = .identified (.error .noAck) := by
  rw [cutOff, Bool.and_eq_true]
  refine and_congr_right fun _ => ?_
  split
  next same => simp [same]
  next other => simpa using other

variable [Bus β]

def refusedIn (system : System β γ) (operations : List (Operation β γ)) : Nat :=
  refusedReads ((system.history operations).flatMap Step.events)

theorem refusedIn_cons (system : System β γ) (operation : Operation β γ)
    (rest : List (Operation β γ)) :
    system.refusedIn (operation :: rest) =
      refusedReads (system.perform operation).events +
        (system.perform operation).state.refusedIn rest := by
  rw [refusedIn, history, List.flatMap_cons, refusedReads, List.countP_append]
  rfl

theorem refusedIn_append (system : System β γ) (first second : List (Operation β γ)) :
    system.refusedIn (first ++ second) =
      system.refusedIn first + (system.after first).refusedIn second := by
  rw [refusedIn, history_append, List.flatMap_append, refusedReads, List.countP_append]
  rfl

variable {system : System β γ} {g : Nat} {operation : Operation β γ}
  {operations : List (Operation β γ)}

theorem attempt_cases (system : System β γ) (attempt : operation.identifies g = true) :
    let call := system.perform operation
    (call.value = .identified (.error .noAck) ∧ (call.state.gyros.get g).detected = false ∧
      0 < refusedReads call.events) ∨
    (call.value ≠ .identified (.error .noAck) ∧ (call.state.gyros.get g).detected = true ∧
      call.value = .identified (call.state.gyros.get g).verdict) := by
  obtain ⟨bus, candidates, handler, rfl⟩ := Operation.identifies_eq_true.mp attempt
  intro call
  cases waiting : (system.gyros.get g).detected with
  | true =>
    have run : call = _ := perform_identify_of_detected waiting bus candidates handler
    rw [run]
    refine .inr ⟨?_, waiting, rfl⟩
    rw [Gyro.verdict]
    split <;> simp
  | false =>
    obtain ⟨answer, decided⟩ := perform_identify_standsFor waiting bus candidates handler
    have told : call.value = .identified (.error .noAck) ↔
        (system.searchFor g bus candidates).value = .error .noAck := by
      rw [show call.value = _ from answer, Reply.identified.injEq]
      change (system.searchFor g bus candidates).value.map _ = _ ↔ _
      cases (system.searchFor g bus candidates).value <;> simp [Except.map]
    by_cases cutOff : (system.searchFor g bus candidates).value = .error .noAck
    · have run : call = _ := perform_identify_of_undetected waiting bus candidates handler
      have still := (detected_perform_identify waiting bus candidates handler).mpr cutOff
      refine .inl ⟨told.mpr cutOff, still, ?_⟩
      have refused := List.length_pos_iff.mpr (Finding.refusals_of_cutOff cutOff)
      rw [run, refusedReads_device, Event.refusals_append, List.length_append]
      exact Nat.add_pos_left refused _
    · obtain ⟨ended, _, verdict⟩ := decided cutOff
      exact .inr ⟨mt told.mp cutOff, ended, verdict⟩

/-- Each attempt that was cut off is charged to a refused read of its own. -/
theorem cutOff_le_refusedIn (system : System β γ) (g : Nat) (operations : List (Operation β γ)) :
    (system.history operations).countP (Step.cutOff g) ≤ system.refusedIn operations := by
  induction operations generalizing system with
  | nil => exact Nat.le_refl 0
  | cons operation rest ih =>
    have later := ih (system.perform operation).state
    rw [history, List.countP_cons, refusedIn_cons]
    split
    next cutOff =>
      obtain ⟨attempt, answer⟩ := Step.cutOff_iff.mp cutOff
      rcases attempt_cases system attempt with ⟨_, _, refused⟩ | ⟨other, _⟩
      · dsimp only at refused
        omega
      · exact absurd answer other
    next => omega

theorem attempts_of_waiting {system : System β γ} {operations : List (Operation β γ)}
    (waiting : ((system.after operations).gyros.get g).detected = false) :
    operations.countP (Operation.identifies g) =
      (system.history operations).countP (Step.cutOff g) := by
  induction operations generalizing system with
  | nil => rfl
  | cons operation rest ih =>
    have later := ih waiting
    rw [history, List.countP_cons, List.countP_cons, later]
    refine congrArg _ (if_congr ?_ rfl rfl)
    rw [Step.cutOff_iff]
    refine ⟨fun attempt => ⟨attempt, ?_⟩, And.left⟩
    rcases attempt_cases system attempt with ⟨answer, _⟩ | ⟨_, ended, _⟩
    · exact answer
    -- A unit that had settled here would not be waiting at the end.
    · obtain ⟨_, _, still, _⟩ := Gyro.outcome_congr (after_standing_of_detected ended rest)
      exact absurd (waiting.symm.trans (still.trans ended)) Bool.false_ne_true

theorem waiting_of_interrupted (fresh : (system.gyros.get g).bare = system.gyros.get g)
    (interrupted : system.Interrupted g operations) :
    ((system.after operations).gyros.get g).detected = false :=
  Gyro.detected_eq_false.mpr (congrArg Gyro.standing (after_untouched fresh interrupted)).symm

/-- An attempt that is cut off uses up a refused read, so one attempt more than there are refusals
settles the unit. -/
theorem interruptions_are_bounded (system : System β γ) (g : Nat) (settings : Settings)
    (latch : Nat) (wired : Bool) (made : system.gyros.get g = Gyro.fresh settings latch wired)
    (limit : Nat) (operations : List (Operation β γ))
    (bounded : system.refusedIn operations ≤ limit) :
    (system.history operations).countP (Step.cutOff g) ≤ limit ∧
    ∀ before later, operations = before ++ later →
      (limit < before.countP (Operation.identifies g) →
        ((system.after before).gyros.get g).detected = true ∧
        ∀ more, ((system.after (before ++ more)).gyros.get g).standing =
          ((system.after before).gyros.get g).standing) ∧
      ∀ bus candidates handler rest, later = .identify g bus candidates handler :: rest →
        let call := (system.after before).perform (.identify g bus candidates handler)
        (call.value ≠ .identified (.error .noAck) →
          ∀ step ∈ call.state.history rest, step.operation.identifies g = true →
            step.reply = call.value) ∧
        (system.Interrupted g before → delays call.events = [settings.settleDelay]) := by
  have fresh : (system.gyros.get g).bare = system.gyros.get g := by rw [made]; rfl
  refine ⟨Nat.le_trans (cutOff_le_refusedIn system g operations) bounded, ?_⟩
  intro before later split
  constructor
  · intro enough
    have ended : ((system.after before).gyros.get g).detected = true := by
      cases reached : ((system.after before).gyros.get g).detected with
      | true => rfl
      | false =>
        -- All these attempts were cut off, which takes more refusals than there are.
        have attempts := attempts_of_waiting reached
        have charged := cutOff_le_refusedIn system g before
        rw [split, refusedIn_append] at bounded
        omega
    refine ⟨ended, fun more => ?_⟩
    rw [after_append]
    exact after_standing_of_detected ended more
  · intro bus candidates handler rest next call
    have attempt :
        (Operation.identify g bus candidates handler : Operation β γ).identifies g = true :=
      beq_self_eq_true g
    constructor
    · intro answered
      rcases attempt_cases (system.after before) attempt with ⟨cutOff, _⟩ | ⟨_, ended, verdict⟩
      · exact absurd cutOff answered
      · intro step member again
        exact ((reportsOn_of_detected ended rest).2 step member again).trans verdict.symm
    · intro interrupted
      have waiting := waiting_of_interrupted fresh interrupted
      have run : call = _ := perform_identify_of_undetected waiting bus candidates handler
      have settleDelay : ((system.after before).gyros.get g).settings = settings :=
        (after_settings system before g).trans (by rw [made]; rfl)
      rw [run, settleDelay, List.map_append, delays, List.filterMap_append]
      change delays _ ++ delays _ = _
      rw [Finding.delays_search, Gyro.delays_alarms]
      rfl

end System

namespace Simulator

/-- A direct read of the bus between the attempts uses up none of the refusals. -/
def patient : List (Operation SimulatedBoard Callback) :=
  [attempt, .busRead 0 0x75 1 (Vector.replicate 1 0), attempt, attempt]

theorem cutOffOnce_settles_at_second_attempt :
    (powerUp (onPrimary cutOffOnce)).refusedIn patient ≤ 1 ∧
      ((powerUp (onPrimary cutOffOnce)).history patient).countP (System.Step.cutOff 0) ≤ 1 ∧
      (((powerUp (onPrimary cutOffOnce)).after (patient.take 3)).gyros.get 0).detected = true := by
  have bounded : (powerUp (onPrimary cutOffOnce)).refusedIn patient ≤ 1 := by decide
  obtain ⟨interrupted, settled⟩ := System.interruptions_are_bounded (powerUp (onPrimary cutOffOnce))
    0 {} 0 false rfl 1 patient bounded
  obtain ⟨forGood, _⟩ := settled (patient.take 3) [attempt] rfl
  exact ⟨bounded, interrupted, (forGood (by decide)).1⟩

end Simulator

end Imu
