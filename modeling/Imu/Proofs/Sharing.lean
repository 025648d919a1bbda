import Imu.Proofs.LineUse

/-!
Units that share latches. To poll a unit that is not armed is to do nothing at all, and to poll an
armed one is to consume its latch. So everybody who consumes a latch, be it directly, through an
armed unit or from a callback, is told of the edges since it was consumed last, and each edge is
told to one of them only.
-/

namespace Imu

open LatchEvent

namespace System

variable {β γ : Type}

def ignores (system : System β γ) : Operation β γ → Bool
  | .poll g => !(system.gyros.get g).armed
  | _ => false

theorem ignores_eq_true {system : System β γ} {operation : Operation β γ} :
    system.ignores operation = true ↔
      ∃ g, operation = .poll g ∧ (system.gyros.get g).armed = false := by
  cases operation <;> simp [ignores]

def Step.ignored (step : Step β γ) : Bool :=
  match step.operation with
  | .poll _ => step.events.isEmpty
  | _ => false

variable [Bus β]

/-- The run without its polls of units that are not armed when it gets to them. -/
def heeded (system : System β γ) : List (Operation β γ) → List (Operation β γ)
  | [] => []
  | operation :: rest =>
    let later := (system.perform operation).state.heeded rest
    if system.ignores operation then later else operation :: later

theorem perform_poll_of_unarmed {system : System β γ} {g : Nat}
    (unarmed : (system.gyros.get g).armed = false) :
    system.perform (.poll g) = ⟨.flag false, [], system⟩ := by
  rw [perform_poll, if_neg (Bool.not_eq_true _ ▸ unarmed)]

theorem perform_consume (system : System β γ) (index : Nat) :
    system.perform (.signal index .consume) =
      let pending := (system.signals.latch index).pending
      ⟨.flag pending, [.signal (.consumed index pending)],
        { system with
          signals := ((Signals.consume index).run system.signals).state }⟩ := rfl

theorem perform_poll_of_armed {system : System β γ} {g : Nat}
    (armed : (system.gyros.get g).armed = true) :
    system.perform (.poll g) = system.perform (.signal (system.gyros.get g).latch .consume) := by
  rw [perform_poll, if_pos armed]
  rfl

theorem ignored_iff_ignores (system : System β γ) (operation : Operation β γ) :
    (Step.mk operation (system.perform operation).value (system.perform operation).events).ignored =
      system.ignores operation := by
  cases operation with
  | poll g =>
    cases armed : (system.gyros.get g).armed with
    | false => simp [Step.ignored, ignores, armed, perform_poll_of_unarmed armed]
    | true => simp [Step.ignored, ignores, armed, perform_poll_of_armed armed, perform_consume]
  | _ => rfl

/-- Without the polls of units that are not armed everything else happens as it does with them. -/
theorem heeded_run (system : System β γ) (operations : List (Operation β γ)) :
    system.history (system.heeded operations) =
        (system.history operations).filter (fun step => !step.ignored) ∧
      system.after (system.heeded operations) = system.after operations := by
  induction operations generalizing system with
  | nil => exact ⟨rfl, rfl⟩
  | cons operation rest ih =>
    obtain ⟨results, state⟩ := ih (system.perform operation).state
    have record := ignored_iff_ignores system operation
    rw [heeded, history, after]
    cases ignored : system.ignores operation with
    | true =>
      obtain ⟨g, rfl, unarmed⟩ := ignores_eq_true.mp ignored
      rw [ignored] at record
      rw [if_pos rfl, List.filter_cons_of_neg (by simp [record])]
      rw [perform_poll_of_unarmed unarmed] at results state ⊢
      exact ⟨results, state⟩
    | false =>
      rw [ignored] at record
      rw [if_neg Bool.false_ne_true, List.filter_cons_of_pos (by simp [record]), history, after,
        results]
      exact ⟨rfl, state⟩

theorem operation_of_latchHistory {system : System β γ} {operations : List (Operation β γ)}
    {earlier later : List (LatchEvent γ)} {event : LatchEvent γ}
    (split : system.latchHistory operations = earlier ++ event :: later) :
    ∃ before operation begun ended,
      latchEvents ((system.after before).perform operation).events = begun ++ event :: ended ∧
        earlier = system.latchHistory before ++ begun := by
  induction operations generalizing system earlier with
  | nil => simp [latchHistory, history] at split
  | cons operation rest ih =>
    rw [latchHistory_cons, List.append_eq_append_iff] at split
    -- The event is one of the later operations, or of this one.
    rcases split with ⟨begun, rfl, remaining⟩ | ⟨ended, here, remaining⟩
    · obtain ⟨before, within, first, last, found, rfl⟩ := ih remaining
      refine ⟨operation :: before, within, first, last, found, ?_⟩
      rw [latchHistory_cons, List.append_assoc]
    · cases ended with
      | nil =>
        have rest : _ = [] ++ event :: later := remaining.symm
        obtain ⟨before, within, first, last, found, split⟩ := ih rest
        obtain ⟨quiet, rfl⟩ := List.append_eq_nil_iff.mp split.symm
        refine ⟨operation :: before, within, [], last, found, ?_⟩
        simp [latchHistory_cons, quiet, here]
      | cons other ended =>
        obtain ⟨rfl, _⟩ := List.cons.inj remaining
        exact ⟨[], operation, earlier, ended, here, rfl⟩

/-- On a latch that is idle at first, whoever consumes it learns whether an edge was entered since
it was consumed before. -/
theorem consumed_iff {system : System β γ} {operations : List (Operation β γ)}
    {earlier later : List (LatchEvent γ)} {index : Nat} {answer : Bool}
    (idle : (system.signals.latch index).pending = false)
    (split : system.latchHistory operations = earlier ++ .consumed index answer :: later) :
    answer = true ↔ EnteredSince index earlier := by
  obtain ⟨before, operation, begun, ended, here, rfl⟩ := operation_of_latchHistory split
  have pending := after_pending system before index
  -- An operation that sets the clock shows no move, so the event is not one of its.
  cases running : operation.setsClock with
  | false =>
    have walk := showsMoves_step running (system.after before)
    rw [← perform, here] at walk
    rw [walk.answer_iff, pending, idle, enteredSince_append]
    simp
  | true =>
    cases operation with
    | setClock clock => exact absurd here.symm (by simp [perform, step, latchEvents])
    | _ => cases running

theorem entered_between {system : System β γ} {operations : List (Operation β γ)}
    {earlier between later : List (LatchEvent γ)} {index : Nat} {first : Bool}
    (idle : (system.signals.latch index).pending = false)
    (split : system.latchHistory operations =
      (earlier ++ .consumed index first :: between) ++ .consumed index true :: later) :
    .entered index ∈ between := by
  have since := (consumed_iff idle split).mp rfl
  rw [enteredSince_append, unconsumed_cons, enteredSince_cons] at since
  rcases since with (⟨start, rest, rfl, _⟩ | ⟨consumed, _⟩) | ⟨_, unconsumed, _⟩
  · exact List.mem_append_cons_self
  · cases consumed
  · simp [consumes] at unconsumed

/-- Polls of units that are not armed can be left out of a run, and of those who consume one latch
only one is told of an edge. -/
theorem shared_edge_is_told_once (system : System β γ) (operations : List (Operation β γ)) :
    let reached := system.after operations
    let done := system.latchHistory operations
    (∀ g, (system.gyros.get g).armed = false →
      (∀ step ∈ system.history operations, step.operation = .arm g → step.reply ≠ .flag true) →
        reached.perform (.poll g) = ⟨.flag false, [], reached⟩) ∧
    (system.history (system.heeded operations) =
        (system.history operations).filter (fun step => !step.ignored) ∧
      system.after (system.heeded operations) = reached) ∧
    (∀ g, (reached.gyros.get g).armed = true →
      reached.perform (.poll g) =
        reached.perform (.signal (system.gyros.get g).latch .consume)) ∧
    ∀ index, (system.signals.latch index).pending = false →
      (∃ answer,
        (reached.perform (.signal index .consume)).value = .flag answer ∧
        (reached.perform (.signal index .consume)).events = [.signal (.consumed index answer)] ∧
        (answer = true ↔ EnteredSince index done)) ∧
      (∀ earlier answer later, done = earlier ++ .consumed index answer :: later →
        (answer = true ↔ EnteredSince index earlier)) ∧
      (∀ earlier first between later,
        done = (earlier ++ .consumed index first :: between) ++ .consumed index true :: later →
          .entered index ∈ between) := by
  intro reached done
  refine ⟨?unarmed, heeded_run system operations, ?armed, fun index idle =>
    ⟨⟨(reached.signals.latch index).pending, rfl, rfl, ?next⟩, fun _ _ _ => consumed_iff idle,
      fun _ _ _ _ => entered_between idle⟩⟩
  case unarmed =>
    intro g start refused
    refine perform_poll_of_unarmed (Bool.eq_false_iff.mpr fun armed => ?_)
    obtain ⟨step, member, arms, told⟩ := (armed_iff_answered start operations).mp armed
    exact refused step member arms told
  case armed =>
    intro g armed
    rw [← after_latch system operations g]
    exact perform_poll_of_armed armed
  case next =>
    rw [after_pending, idle]
    simp [done]

end System

namespace Simulator

/-- Two units on one latch, of which only the first has a line. -/
def neighbours : System SimulatedBoard Callback :=
  { powerUp .bare with
    gyros := Bank.ofList (Gyro.fresh {} 0 false) [Gyro.fresh {} 0 true, Gyro.fresh {} 0 false] }

def sought : List (Operation SimulatedBoard Callback) :=
  [.arm 0, .arm 1, .edge 0 false (Callback.reaction 0), .poll 1, .poll 0, .signal 0 .consume]

theorem sought_edge_is_told_once :
    (neighbours.signals.latch 0).pending = false ∧
      (neighbours.gyros.get 1).armed = false ∧
      neighbours.latchHistory sought = [.entered 0, .consumed 0 true, .consumed 0 false] ∧
      (neighbours.after sought).perform (.poll 1) =
        ⟨.flag false, [], neighbours.after sought⟩ ∧
      (neighbours.after sought).perform (.poll 0) =
        (neighbours.after sought).perform (.signal 0 .consume) ∧
      (neighbours.history (neighbours.heeded sought)).length = 5 ∧
      (false = true ↔ LatchEvent.EnteredSince 0
        [LatchEvent.entered (γ := Callback) 0, .consumed 0 true]) := by
  have idle : (neighbours.signals.latch 0).pending = false := rfl
  have start : (neighbours.gyros.get 1).armed = false := rfl
  have armed : ((neighbours.after sought).gyros.get 0).armed = true := rfl
  have record : neighbours.latchHistory sought =
      [.entered 0, .consumed 0 true, .consumed 0 false] := rfl
  obtain ⟨unarmed, ⟨results, _⟩, same, told⟩ :=
    System.shared_edge_is_told_once neighbours sought
  have refused : ∀ step ∈ neighbours.history sought,
      step.operation = .arm 1 → step.reply ≠ .flag true := by
    intro step member arms answered
    have still : ((neighbours.after sought).gyros.get 1).armed = false := rfl
    have became := (System.armed_iff_answered start sought).mpr ⟨step, member, arms, answered⟩
    exact Bool.false_ne_true (still.symm.trans became)
  refine ⟨idle, start, record, unarmed 1 start refused, same 0 armed, ?_, ?_⟩
  · rw [results]; rfl
  · exact (told 0 idle).2.1 [.entered 0, .consumed 0 true] false [] record

end Simulator

end Imu
