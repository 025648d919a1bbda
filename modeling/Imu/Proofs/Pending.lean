import Imu.Proofs.Moves
import Imu.Simulator.Callback

/-!
What the pending bit of a latch is worth. Along any walk it is set exactly if an edge was entered
since the latch was last consumed, so every consumption tells whether there was one, wherever in
the nesting of edges it happens.
-/

namespace Imu

namespace LatchEvent

variable {γ : Type}

def enters (index : Nat) : LatchEvent γ → Bool
  | .entered latch => latch == index
  | _ => false

def consumes (index : Nat) : LatchEvent γ → Bool
  | .consumed latch _ => latch == index
  | _ => false

def takes (index : Nat) : LatchEvent γ → Bool
  | .consumed latch pending => latch == index && pending
  | _ => false

theorem enters_eq_true {index : Nat} {event : LatchEvent γ} :
    event.enters index = true ↔ event = .entered index := by
  cases event <;> simp [enters]

def Unconsumed (index : Nat) (events : List (LatchEvent γ)) : Prop :=
  ∀ event ∈ events, event.consumes index = false

/-- An edge was entered on the latch, and since then the latch has not been consumed. -/
def EnteredSince (index : Nat) (events : List (LatchEvent γ)) : Prop :=
  ∃ earlier later, events = earlier ++ .entered index :: later ∧ Unconsumed index later

theorem unconsumed_cons {index : Nat} {event : LatchEvent γ} {events : List (LatchEvent γ)} :
    Unconsumed index (event :: events) ↔
      event.consumes index = false ∧ Unconsumed index events :=
  List.forall_mem_cons

theorem unconsumed_append {index : Nat} {earlier later : List (LatchEvent γ)} :
    Unconsumed index (earlier ++ later) ↔ Unconsumed index earlier ∧ Unconsumed index later :=
  List.forall_mem_append

theorem not_enteredSince_nil (index : Nat) : ¬EnteredSince index ([] : List (LatchEvent γ)) := by
  intro ⟨earlier, later, split, _⟩
  simp at split

theorem enteredSince_cons {index : Nat} {event : LatchEvent γ} {events : List (LatchEvent γ)} :
    EnteredSince index (event :: events) ↔
      EnteredSince index events ∨ event = .entered index ∧ Unconsumed index events := by
  constructor
  · rintro ⟨earlier, later, split, kept⟩
    cases earlier with
    | nil =>
      obtain ⟨rfl, rfl⟩ := List.cons.inj split
      exact .inr ⟨rfl, kept⟩
    | cons first earlier =>
      obtain ⟨rfl, rfl⟩ := List.cons.inj split
      exact .inl ⟨earlier, later, rfl, kept⟩
  · rintro (⟨earlier, later, rfl, kept⟩ | ⟨rfl, kept⟩)
    · exact ⟨event :: earlier, later, rfl, kept⟩
    · exact ⟨[], events, rfl, kept⟩

theorem enteredSince_append {index : Nat} {earlier later : List (LatchEvent γ)} :
    EnteredSince index (earlier ++ later) ↔
      EnteredSince index later ∨ EnteredSince index earlier ∧ Unconsumed index later := by
  induction earlier with
  | nil => simp [not_enteredSince_nil]
  | cons event rest ih =>
    rw [List.cons_append, enteredSince_cons, ih, enteredSince_cons, unconsumed_append,
      or_and_right, and_assoc, or_assoc]

end LatchEvent

namespace Signals

open LatchEvent

variable {γ α : Type} {start finish signals : Signals γ} {index : Nat}

theorem latch_update (signals : Signals γ) (index other : Nat) (latch : Latch γ) :
    (signals.update other latch).latch index =
      if index = other then latch else signals.latch index := rfl

theorem Move.pending {event : LatchEvent γ} (move : start.Move event finish) :
    (finish.latch index).pending =
      (event.enters index || (start.latch index).pending && !event.consumes index) := by
  cases move with
  | entered other | consumed other =>
    rw [latch_update]
    by_cases same : index = other
    · simp [enters, consumes, same]
    · simp [enters, consumes, same, Ne.symm same]
  | installed other callback | recorded other entry exit =>
    rw [latch_update]
    by_cases same : index = other <;> simp [enters, consumes, same]
  | clockRead | called callback other | peeked other | inspected other =>
    simp [enters, consumes, latch]

theorem Move.takes {event : LatchEvent γ} (move : start.Move event finish) :
    event.takes index = (event.consumes index && (start.latch index).pending) := by
  cases move with
  | consumed other =>
    by_cases same : other = index
    · subst same
      rfl
    · simp only [LatchEvent.takes, consumes, beq_false_of_ne same, Bool.false_and]
  | _ => simp [LatchEvent.takes, consumes]

theorem Move.taken_le {event : LatchEvent γ} (move : start.Move event finish) (index : Nat) :
    (if event.takes index then 1 else 0) + (finish.latch index).pending.toNat ≤
      (if event.enters index then 1 else 0) + (start.latch index).pending.toNat := by
  -- A move is told apart by what it does to the bit, so there are eight cases.
  have table : ∀ entered consumed pending : Bool,
      (if (consumed && pending) = true then 1 else 0) +
          (entered || pending && !consumed).toNat ≤
        (if entered = true then 1 else 0) + pending.toNat := by
    decide
  rw [move.takes, move.pending]
  exact table _ _ _

theorem Walk.pending_iff {events : List (LatchEvent γ)} (walk : Walk start events finish) :
    (finish.latch index).pending = true ↔
      EnteredSince index events ∨
        (start.latch index).pending = true ∧ Unconsumed index events := by
  induction walk with
  | rest => simp [not_enteredSince_nil, Unconsumed]
  | step move later ih =>
    rw [ih, move.pending, enteredSince_cons, unconsumed_cons, ← enters_eq_true, Bool.or_eq_true,
      Bool.and_eq_true, Bool.not_eq_true', or_and_right, and_assoc, or_assoc]

/-- Each consumption that finds the latch pending uses up an edge, unless it was pending before. -/
theorem Walk.taken_le {events : List (LatchEvent γ)} (walk : Walk start events finish)
    (index : Nat) :
    events.countP (takes index) + (finish.latch index).pending.toNat ≤
      events.countP (enters index) + (start.latch index).pending.toNat := by
  induction walk with
  | rest => simp
  | step move later ih =>
    have one := move.taken_le index
    rw [List.countP_cons, List.countP_cons]
    omega

theorem Walk.pending_midway {earlier later : List (LatchEvent γ)}
    (walk : Walk start (earlier ++ later) finish) (idle : (start.latch index).pending = false) :
    ∃ middle, Walk middle later finish ∧
      ((middle.latch index).pending = true ↔ EnteredSince index earlier) := by
  obtain ⟨middle, before, after⟩ := walk.split
  refine ⟨middle, after, ?_⟩
  rw [before.pending_iff, idle]
  simp

theorem Walk.answer_iff {earlier later : List (LatchEvent γ)} {answer : Bool}
    (walk : Walk start (earlier ++ .consumed index answer :: later) finish) :
    answer = true ↔
      EnteredSince index earlier ∨
        (start.latch index).pending = true ∧ Unconsumed index earlier := by
  obtain ⟨middle, before, after⟩ := walk.split
  cases after with
  | step move _ =>
    cases move
    exact before.pending_iff

theorem Walk.consumed_iff {earlier later : List (LatchEvent γ)} {answer : Bool}
    (walk : Walk start (earlier ++ .consumed index answer :: later) finish)
    (idle : (start.latch index).pending = false) :
    answer = true ↔ EnteredSince index earlier := by
  rw [walk.answer_iff, idle]
  simp

theorem Walk.peeked_iff {earlier later : List (LatchEvent γ)} {answer : Bool}
    (walk : Walk start (earlier ++ .peeked index answer :: later) finish)
    (idle : (start.latch index).pending = false) :
    answer = true ↔ EnteredSince index earlier := by
  obtain ⟨_, after, told⟩ := walk.pending_midway idle
  cases after with
  | step move _ =>
    cases move
    exact told

theorem Walk.taken_between {earlier between later : List (LatchEvent γ)}
    (walk : Walk start (earlier ++ between ++ later) finish)
    (apart : .entered index ∉ between) : between.countP (takes index) ≤ 1 := by
  obtain ⟨_, before, _⟩ := walk.split
  obtain ⟨middle, _, walked⟩ := before.split
  have bound := walked.taken_le index
  have none : between.countP (enters index) = 0 := by
    rw [List.countP_eq_zero]
    intro event member entered
    rw [enters_eq_true.mp entered] at member
    exact apart member
  -- No edge in between, so only the bit that the last one left can be used up.
  have bit := (middle.latch index).pending.toNat_le
  omega

/-- No edge is lost and none is told twice, whatever the program and the callbacks do to the
latches. -/
theorem consume_tells_of_edges (idle : (signals.latch index).pending = false)
    (program : Action γ α) (finite : Program program) :
    let done := program.run signals
    (∀ earlier answer later, done.events = earlier ++ .consumed index answer :: later →
      (answer = true ↔ EnteredSince index earlier)) ∧
    (∀ earlier answer later, done.events = earlier ++ .peeked index answer :: later →
      (answer = true ↔ EnteredSince index earlier)) ∧
    (∀ moment : Signals γ,
      ((consume index).run moment).events = [.consumed index ((consume index).run moment).value] ∧
        ((peek index).run moment).events = [.peeked index ((peek index).run moment).value] ∧
        ((peek index).run moment).value = ((consume index).run moment).value ∧
        ((peek index).run moment).state = moment) ∧
    ((done.state.latch index).pending = true ↔ EnteredSince index done.events) ∧
    done.events.countP (takes index) ≤ done.events.countP (enters index) ∧
    (∀ earlier between answer later,
      done.events = earlier ++ .entered index :: between ++ .consumed index answer :: later →
        Unconsumed index between → answer = true) ∧
    (∀ earlier between later,
      done.events = earlier ++ .entered index :: between ++ .entered index :: later →
        .entered index ∉ between → between.countP (takes index) ≤ 1) := by
  intro done
  have walk : Walk signals done.events done.state := finite.walks signals
  refine ⟨?consumed, ?peeked, fun moment => ⟨rfl, rfl, rfl, rfl⟩, ?pending, ?counted, ?kept,
    ?between⟩
  case consumed =>
    intro earlier answer later split
    rw [split] at walk
    exact walk.consumed_iff idle
  case peeked =>
    intro earlier answer later split
    rw [split] at walk
    exact walk.peeked_iff idle
  case pending =>
    rw [walk.pending_iff, idle]
    simp
  case counted =>
    have bound := walk.taken_le index
    rw [idle, Bool.toNat_false] at bound
    omega
  case kept =>
    intro earlier between answer later split unconsumed
    rw [split] at walk
    exact (walk.consumed_iff idle).mpr ⟨earlier, between, rfl, unconsumed⟩
  case between =>
    intro earlier between later split apart
    have joined : earlier ++ .entered index :: between ++ .entered index :: later =
        (earlier ++ [.entered index]) ++ between ++ .entered index :: later := by
      simp
    rw [split, joined] at walk
    exact walk.taken_between apart

end Signals

namespace Simulator

def quiet : Signals Callback := ⟨Bank.fill {}, Readings.constant 0⟩

/-- An edge whose callback raises two more, a consumption, and an edge that its callback consumes.
-/
def nested : Script Callback :=
  .act 0 (.install (some .reenter)) <| .edge 0 false (Callback.reaction 0) <|
    .act 0 .consume <| .act 0 (.install (some .consume)) <|
      .edge 0 true (Callback.reaction 0) <| .act 0 .peek .done

theorem nested_is_consumed_twice :
    let done := nested.run.run quiet
    (quiet.latch 0).pending = false ∧ Signals.Program nested.run ∧
      done.events.countP (LatchEvent.enters 0) = 4 ∧
      done.events.countP (LatchEvent.takes 0) = 2 ∧
      ((done.state.latch 0).pending = true ↔ LatchEvent.EnteredSince 0 done.events) := by
  intro done
  have idle : (quiet.latch 0).pending = false := rfl
  obtain ⟨_, _, _, pending, _⟩ :=
    Signals.consume_tells_of_edges idle nested.run nested.program_run
  exact ⟨idle, nested.program_run, rfl, rfl, pending⟩

end Simulator

end Imu
