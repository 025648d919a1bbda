import Imu.Proofs.Footprint
import Imu.Proofs.Requests
import Imu.Proofs.Settling

/-!
What the operations can record. A delay and a report are recorded only of an attempt at identifying
a unit, and what is done to a line only of a call that is to arm one. All else that an operation
does outside is a call on a board or something that happens to a latch.
-/

namespace Imu

namespace Operation

variable {β γ : Type}

/-- The activity is of a kind that the operation can record. -/
def CanRecord (operation : Operation β γ) : Activity γ → Prop
  | .device (.delay _) | .device (.report _ _) => ∃ unit, operation.identifies unit = true
  | .device (.lineRead _) | .device (.lineEnabled _ _) => ∃ unit, operation = .arm unit
  | .device (.access _) | .signal _ => True

theorem canRecord_signals (operation : Operation β γ) (events : List (LatchEvent γ)) :
    ∀ activity ∈ events.map .signal, operation.CanRecord activity :=
  List.forall_mem_map.mpr fun _ _ => trivial

theorem canRecord_accesses (operation : Operation β γ) {events : List Event}
    (calls : ∀ event ∈ events, ∃ access, event = .access access) :
    ∀ activity ∈ events.map .device, operation.CanRecord activity := by
  refine List.forall_mem_map.mpr fun event member => ?_
  obtain ⟨access, rfl⟩ := calls event member
  trivial

end Operation

theorem Event.IsSearching.canRecord {β γ : Type} {settleDelay : UInt32}
    {candidates : CandidateList} {event : Event}
    (searching : event.IsSearching settleDelay candidates) {operation : Operation β γ} {unit : Nat}
    (identifies : operation.identifies unit = true) : operation.CanRecord (.device event) := by
  rcases searching with rfl | ⟨register, buffer, ack, rfl⟩ | ⟨candidate, _, claimed, rfl⟩
  · exact ⟨unit, identifies⟩
  · trivial
  · trivial

theorem Gyro.canRecord_alarms {β γ : Type} {operation : Operation β γ} {unit : Nat}
    (identifies : operation.identifies unit = true) (handler : Nat)
    (outcome : Except Failure Finding) :
    ∀ event ∈ alarms handler outcome, operation.CanRecord (.device event) := by
  unfold alarms
  split
  · exact List.forall_mem_singleton.mpr ⟨unit, identifies⟩
  · exact List.forall_mem_nil _

theorem Binding.call_events {β : Type} [Bus β] (binding : Binding) (call : Call) (bus : β) :
    ∀ event ∈ ((binding.call call).run bus).events, ∃ access, event = .access access := by
  have single {access : Access} :
      ∀ event ∈ [Event.access access], ∃ other, event = .access other :=
    List.forall_mem_singleton.mpr ⟨access, rfl⟩
  cases call with
  | read register size buffer => exact single
  | write register data => exact single
  | slowRead register size buffer =>
    rw [Binding.call]
    cases binding.slowRead with
    | none => exact List.forall_mem_nil _
    | some via => exact single
  | verifiedWrite register data =>
    rw [Binding.call]
    cases binding.verifiedWrite with
    | none => exact List.forall_mem_nil _
    | some via => exact single
  | reset =>
    rw [Binding.call]
    cases binding.reset with
    | none => exact List.forall_mem_nil _
    | some index => exact single

namespace System

variable {β γ : Type} [Bus β]

theorem canRecord_of_gated {system : System β γ} {g : Nat} {operation : Operation β γ}
    (gate : operation.Gated g) :
    ∀ activity ∈ (system.perform operation).events, operation.CanRecord activity := by
  cases ready : (system.gyros.get g).readable with
  | error refusal =>
    rw [perform_of_closed ready gate]
    exact List.forall_mem_nil _
  | ok binding =>
    have carried := carries_of_open ready gate
    cases request : operation.request binding with
    | none =>
      rw [request] at carried
      rw [carried.1]
      exact List.forall_mem_nil _
    | some call =>
      rw [request] at carried
      rw [carried.1]
      exact List.forall_mem_singleton.mpr trivial

theorem canRecord_identify (system : System β γ) (index bus : Nat) (candidates : CandidateList)
    (handler : Nat) :
    let attempt : Operation β γ := .identify index bus candidates handler
    ∀ activity ∈ (system.perform attempt).events, attempt.CanRecord activity := by
  intro attempt
  have identifies : attempt.identifies index = true := beq_self_eq_true index
  cases ended : (system.gyros.get index).detected with
  | true =>
    rw [perform_identify_of_detected ended]
    exact List.forall_mem_nil _
  | false =>
    rw [perform_identify_of_undetected ended]
    refine List.forall_mem_map.mpr (List.forall_mem_append.mpr ⟨fun event member => ?_,
      Gyro.canRecord_alarms identifies handler _⟩)
    exact ((Finding.footprint_search _ _ _).searching event member).canRecord identifies

/-- No operation records anything that is not of its kind. -/
theorem perform_canRecord (system : System β γ) (operation : Operation β γ) :
    ∀ activity ∈ (system.perform operation).events, operation.CanRecord activity := by
  cases operation with
  | identify index bus candidates handler =>
    exact canRecord_identify system index bus candidates handler
  | read index bus => exact canRecord_of_gated (.read bus)
  | slowRead index bus register size buffer =>
    exact canRecord_of_gated (.slowRead bus register size buffer)
  | write index bus register data => exact canRecord_of_gated (.write bus register data)
  | writeVerified index bus register data =>
    exact canRecord_of_gated (.writeVerified bus register data)
  | reset index bus => exact canRecord_of_gated (.reset bus)
  | pairAccel index => exact canRecord_of_gated .pairAccel
  | readAccel number index bus => exact canRecord_of_gated (.readAccel number bus)
  | arm index =>
    rw [perform_arm]
    refine List.forall_mem_map.mpr fun event member => ?_
    rcases Gyro.arm_events _ _ event member with ⟨level, rfl⟩ | ⟨trigger, priority, rfl⟩
    · exact ⟨index, rfl⟩
    · exact ⟨index, rfl⟩
  | poll index =>
    rw [perform_poll]
    split
    · exact Operation.canRecord_signals _ _
    · exact List.forall_mem_nil _
  | call index bus call =>
    rw [perform_call]
    split
    · exact List.forall_mem_nil _
    · exact Operation.canRecord_accesses _ (Binding.call_events _ call _)
  | signal latch operation => exact Operation.canRecord_signals _ _
  | edge latch timed reaction =>
    simp only [perform, step, onSignals, Traced.run_bind, Traced.run_focus, Traced.run_pure,
      List.append_nil]
    exact Operation.canRecord_signals _ _
  | setCallback index callback => exact Operation.canRecord_signals _ [_]
  | busRead bus register size buffer | busWrite bus register data =>
    exact List.forall_mem_singleton.mpr trivial
  | addAccel | setClock clock | disturb bus change => exact List.forall_mem_nil _

theorem history_canRecord (system : System β γ) (operations : List (Operation β γ)) :
    ∀ step ∈ system.history operations, ∀ activity ∈ step.events,
      step.operation.CanRecord activity := by
  induction operations generalizing system with
  | nil => exact List.forall_mem_nil _
  | cons operation rest ih =>
    exact List.forall_mem_cons.mpr ⟨perform_canRecord system operation, ih _⟩

end System

end Imu
