import Imu.Proofs.Gate
import Imu.Proofs.Recording

/-!
When the failure handler is called. Only the attempt that settles a unit on a chip that must not be
used escalates, at its very end, and everything that is asked of the unit afterwards is refused.
-/

namespace Imu

def Event.report? : Event → Option (Nat × Alarm)
  | .report handler alarm => some (handler, alarm)
  | _ => none

def Activity.report? {γ : Type} : Activity γ → Option (Nat × Alarm)
  | .device event => event.report?
  | .signal _ => none

def reports {γ : Type} (activities : List (Activity γ)) : List (Nat × Alarm) :=
  activities.filterMap Activity.report?

theorem reports_device {γ : Type} (events : List Event) :
    reports (events.map .device : List (Activity γ)) = events.filterMap Event.report? := by
  rw [reports, List.filterMap_map]
  rfl

theorem Event.IsSearching.report?_eq {settleDelay : UInt32} {candidates : CandidateList}
    {event : Event} (searching : event.IsSearching settleDelay candidates) :
    event.report? = none := by
  rcases searching with rfl | ⟨register, buffer, ack, rfl⟩ | ⟨candidate, _, claimed, rfl⟩ <;> rfl

theorem Operation.CanRecord.report?_eq {β γ : Type} {operation : Operation β γ}
    (other : ∀ unit, operation.identifies unit = false) {activity : Activity γ}
    (kind : operation.CanRecord activity) : activity.report? = none := by
  rcases activity with (_ | _ | _ | _ | _) | _
  case device.report =>
    obtain ⟨unit, identifies⟩ := kind
    exact absurd identifies (Bool.eq_false_iff.mp (other unit))
  all_goals rfl

namespace System

variable {β γ : Type} [Bus β] {system : System β γ} {g : Nat} {operations : List (Operation β γ)}

theorem reports_of_history (system : System β γ) (operations : List (Operation β γ)) :
    ∀ step ∈ system.history operations, (∀ unit, step.operation.identifies unit = false) →
      reports step.events = [] :=
  fun step member other => List.filterMap_eq_nil_iff.mpr fun activity recorded =>
    (history_canRecord system operations step member activity recorded).report?_eq other

theorem reports_searchFor (system : System β γ) (g bus : Nat) (candidates : CandidateList) :
    (system.searchFor g bus candidates).events.filterMap Event.report? = [] :=
  List.filterMap_eq_nil_iff.mpr fun event member =>
    ((Finding.footprint_search _ _ _).searching event member).report?_eq

theorem reports_of_undetected (waiting : (system.gyros.get g).detected = false) (bus : Nat)
    (candidates : CandidateList) (handler : Nat) :
    reports (system.perform (.identify g bus candidates handler)).events =
      (Gyro.alarms handler (system.searchFor g bus candidates).value).filterMap Event.report? := by
  rw [perform_identify_of_undetected waiting, reports_device, List.filterMap_append]
  change (system.searchFor g bus candidates).events.filterMap Event.report? ++ _ = _
  rw [reports_searchFor]
  rfl

/-- The handlers that attempts at identifying the unit called in the course of a run. -/
def reportsOn (system : System β γ) (g : Nat) (operations : List (Operation β γ)) :
    List (Nat × Alarm) :=
  (system.history operations).flatMap fun step =>
    if step.operation.identifies g then reports step.events else []

theorem reportsOn_cons (system : System β γ) (g : Nat) (operation : Operation β γ)
    (rest : List (Operation β γ)) :
    system.reportsOn g (operation :: rest) =
      (if operation.identifies g then reports (system.perform operation).events else []) ++
        (system.perform operation).state.reportsOn g rest := by
  rw [reportsOn, history, List.flatMap_cons]
  rfl

/-- An attempt at identifying the unit was told that its chip must not be used. -/
def Step.Condemns (g : Nat) (step : Step β γ) : Prop :=
  step.operation.identifies g = true ∧ step.reply = .identified (.error .unsupported)

theorem reportsOn_of_detected (ended : (system.gyros.get g).detected = true)
    (operations : List (Operation β γ)) :
    system.reportsOn g operations = [] ∧
      ∀ step ∈ system.history operations, step.operation.identifies g = true →
        step.reply = .identified (system.gyros.get g).verdict := by
  induction operations generalizing system with
  | nil => exact ⟨rfl, List.forall_mem_nil _⟩
  | cons operation rest ih =>
    have kept := perform_standing_of_detected ended operation
    obtain ⟨_, _, still, verdict⟩ := Gyro.outcome_congr kept
    obtain ⟨silent, answers⟩ := ih (still.trans ended)
    rw [verdict] at answers
    rw [reportsOn_cons, silent, List.append_nil]
    cases attempt : operation.identifies g with
    | false =>
      refine ⟨if_neg Bool.false_ne_true, List.forall_mem_cons.mpr ⟨?_, answers⟩⟩
      intro identifies
      exact absurd (attempt.symm.trans identifies) Bool.false_ne_true
    | true =>
      obtain ⟨bus, candidates, handler, rfl⟩ := Operation.identifies_eq_true.mp attempt
      have call := perform_identify_of_detected ended bus candidates handler
      refine ⟨?_, List.forall_mem_cons.mpr ⟨fun _ => congrArg Outcome.value call, answers⟩⟩
      rw [call]
      exact ite_self _

theorem quiet_of_waiting (waiting : (system.gyros.get g).detected = false)
    {operation : Operation β γ}
    (still : ((system.perform operation).state.gyros.get g).detected = false)
    (attempt : operation.identifies g = true) :
    reports (system.perform operation).events = [] ∧
      (system.perform operation).value ≠ .identified (.error .unsupported) := by
  obtain ⟨bus, candidates, handler, rfl⟩ := Operation.identifies_eq_true.mp attempt
  have cutOff : (system.searchFor g bus candidates).value = .error .noAck :=
    (detected_perform_identify waiting bus candidates handler).mp still
  constructor
  · rw [reports_of_undetected waiting, cutOff]
    rfl
  · rw [perform_identify_of_undetected waiting]
    change Reply.identified ((system.searchFor g bus candidates).value.map _) ≠ _
    simp [cutOff, Except.map]

/-- Either no attempt at identifying the unit was told that its chip must not be used and none
called a handler, or the first that was told so called its own and none called any other. -/
def ReportedOnce (system : System β γ) (g : Nat) (operations : List (Operation β γ)) : Prop :=
  (system.reportsOn g operations = [] ∧ ∀ step ∈ system.history operations, ¬step.Condemns g) ∨
  ∃ decision : system.Decision g operations,
    decision.search.value = .error .unsupported ∧
    (∀ step ∈ system.history decision.before, ¬step.Condemns g) ∧
    system.reportsOn g operations = [(decision.handler, .accelUnsupported)]

theorem reportedOnce_of_still (waiting : (system.gyros.get g).detected = false)
    {operation : Operation β γ} {rest : List (Operation β γ)}
    (still : ((system.perform operation).state.gyros.get g).detected = false)
    (later : (system.perform operation).state.ReportedOnce g rest) :
    system.ReportedOnce g (operation :: rest) := by
  have quiet := quiet_of_waiting waiting still
  have silent : (if operation.identifies g then reports (system.perform operation).events
      else []) = [] := by
    split
    next attempt => exact (quiet attempt).1
    next => rfl
  have acquitted : ¬Step.Condemns g
      ⟨operation, (system.perform operation).value, (system.perform operation).events⟩ :=
    fun condemns => (quiet condemns.1).2 condemns.2
  rw [ReportedOnce, reportsOn_cons, silent, List.nil_append]
  rcases later with ⟨none, others⟩ | ⟨decision, told, others, one⟩
  · exact .inl ⟨none, List.forall_mem_cons.mpr ⟨acquitted, others⟩⟩
  · exact .inr ⟨decision.cons, told, List.forall_mem_cons.mpr ⟨acquitted, others⟩, one⟩

/-- The attempt that settles the unit calls a handler only for a chip that must not be used, and
what comes after it repeats its verdict. -/
theorem reportedOnce_of_settling (waiting : (system.gyros.get g).detected = false) {bus : Nat}
    {candidates : CandidateList} {handler : Nat} (rest : List (Operation β γ))
    (ended : ((system.perform (.identify g bus candidates handler)).state.gyros.get g).detected =
      true) :
    system.ReportedOnce g (.identify g bus candidates handler :: rest) := by
  let decision : system.Decision g (.identify g bus candidates handler :: rest) :=
    ⟨[], bus, candidates, handler, rest, rfl, waiting, ended⟩
  obtain ⟨silent, answers⟩ := reportsOn_of_detected ended rest
  have called : system.reportsOn g (.identify g bus candidates handler :: rest) =
      (Gyro.alarms handler decision.search.value).filterMap Event.report? := by
    rw [reportsOn_cons, silent, List.append_nil, Operation.identifies, if_pos (beq_self_eq_true g)]
    exact reports_of_undetected waiting bus candidates handler
  rw [ReportedOnce, called]
  rcases decision.outcome with ⟨found, told⟩ | told
  · left
    have usable : (decision.call.state.gyros.get g).verdict ≠ .error .unsupported := by
      simp [Gyro.verdict, Gyro.incompatible, decision.call_standing, told, Standing.ofOutcome]
    refine ⟨by rw [told]; rfl, List.forall_mem_cons.mpr ⟨?_, ?_⟩⟩
    · rintro ⟨_, condemned⟩
      change decision.call.value = _ at condemned
      rw [decision.call_eq, told] at condemned
      cases condemned
    -- Later attempts answer from what the unit is known to be, which is usable.
    · rintro step member ⟨identifies, condemned⟩
      exact usable (Reply.identified.inj ((answers step member identifies).symm.trans condemned))
  · exact .inr ⟨decision, told, List.forall_mem_nil _, by rw [told]; rfl⟩

theorem reportedOnce_of_waiting (waiting : (system.gyros.get g).detected = false)
    (operations : List (Operation β γ)) : system.ReportedOnce g operations := by
  induction operations generalizing system with
  | nil => exact .inl ⟨rfl, List.forall_mem_nil _⟩
  | cons operation rest ih =>
    cases reached : ((system.perform operation).state.gyros.get g).detected with
    | false => exact reportedOnce_of_still waiting reached (ih reached)
    | true =>
      obtain ⟨bus, candidates, handler, rfl⟩ := identify_of_settling waiting reached
      exact reportedOnce_of_settling waiting rest reached

/-- Only an attempt that settles a unit on an unsupported chip calls a handler: its own, and as the
last thing it does. -/
theorem unsupported_chip_is_reported_once (system : System β γ) (g : Nat) (settings : Settings)
    (latch : Nat) (wired : Bool) (made : system.gyros.get g = Gyro.fresh settings latch wired)
    (operations : List (Operation β γ)) :
    (∀ step ∈ system.history operations, (∀ unit, step.operation.identifies unit = false) →
      reports step.events = []) ∧
    ((system.reportsOn g operations = [] ∧
        ∀ step ∈ system.history operations, ¬step.Condemns g) ∨
      ∃ decision : system.Decision g operations,
        decision.call.value = .identified (.error .unsupported) ∧
        (∀ step ∈ system.history decision.before, ¬step.Condemns g) ∧
        system.reportsOn g operations = [(decision.handler, .accelUnsupported)] ∧
        (∃ earlier, reports earlier = [] ∧ decision.call.events =
          earlier ++ [.device (.report decision.handler .accelUnsupported)]) ∧
        ∀ later,
          let reached := decision.call.state.after later
          (∀ operation : Operation β γ, operation.Gated g →
            reached.perform operation = ⟨operation.refused .unsupported, [], reached⟩) ∧
          ∀ bus candidates handler, reached.perform (.identify g bus candidates handler) =
            ⟨.identified (.error .unsupported), [], reached⟩) := by
  have waiting : (system.gyros.get g).detected = false := by rw [made]; rfl
  refine ⟨reports_of_history system operations, ?_⟩
  rcases reportedOnce_of_waiting waiting operations with acquitted | ⟨decision, told, others, one⟩
  · exact .inl acquitted
  · have call := decision.call_eq
    rw [told] at call
    refine .inr ⟨decision, by rw [call]; rfl, others, one, ?_, ?_⟩
    · refine ⟨decision.search.events.map .device, ?_, by rw [call, List.map_append]; rfl⟩
      rw [reports_device]
      exact reports_searchFor _ _ _ _
    · intro later reached
      have ended : (decision.call.state.gyros.get g).detected = true := decision.ended
      have standing : (reached.gyros.get g).standing = .unsupported := by
        rw [after_standing_of_detected ended later, decision.call_standing, told]
        rfl
      have unusable : (reached.gyros.get g).incompatible = true := by
        rw [Gyro.incompatible, standing]
        rfl
      have settled : (reached.gyros.get g).detected = true := by
        rw [Gyro.detected, standing]
        rfl
      constructor
      · intro operation gate
        exact perform_of_closed (Gyro.readable_unsupported.mpr unusable) gate
      · intro bus candidates handler
        rw [perform_identify_of_detected settled, Gyro.verdict, if_pos unusable]

end System

namespace Simulator

/-- A part whose revision is not supported, and that does not acknowledge its third read. -/
def outdated : Chip := (({ refusedReads := [2] } : Chip).load 0x75 [0x68]).load 0x0B [1]

/-- The first attempt is cut off and the second is not; each has a handler of its own. -/
def retried : List (Operation SimulatedBoard Callback) :=
  [attempt, .identify 0 0 .empty 1, .read 0 0, .identify 0 0 .empty 2]

theorem outdated_is_reported_once :
    (powerUp (onPrimary outdated)).gyros.get 0 = Gyro.fresh {} 0 false ∧
      (powerUp (onPrimary outdated)).reportsOn 0 retried = [(1, .accelUnsupported)] ∧
      let reached := (powerUp (onPrimary outdated)).after retried
      reached.perform (.write 0 0 0x6B 0) = ⟨.finished (.error .unsupported), [], reached⟩ := by
  have told : (powerUp (onPrimary outdated)).reportsOn 0 retried = [(1, .accelUnsupported)] := rfl
  obtain ⟨_, ⟨none, _⟩ | ⟨decision, _, _, _, _, refused⟩⟩ :=
    System.unsupported_chip_is_reported_once (powerUp (onPrimary outdated)) 0 {} 0 false rfl retried
  · rw [told] at none
    cases none
  · obtain ⟨shut, _⟩ := refused decision.later
    have write := shut (.write 0 0 0x6B 0) (.write 0 0x6B 0)
    rw [← decision.after_eq] at write
    exact ⟨rfl, told, write⟩

end Simulator

end Imu
