import Imu.System

/-!
Runs of any length. `Throughout` speaks of every operation of a run together with the system
that it meets. What each operation keeps, a run keeps, and a part of the system that only
some operations write is as the last of them left it.
-/

namespace Imu.System

variable {β γ : Type} [Bus β]

/-- The fact holds of each operation of the run, in the system which that operation meets. -/
def Throughout (fact : System β γ → Operation β γ → Prop) (system : System β γ) :
    List (Operation β γ) → Prop
  | [] => True
  | operation :: rest =>
    fact system operation ∧ Throughout fact (system.perform operation).state rest

theorem throughout_of_mem {fact : System β γ → Operation β γ → Prop}
    {operations : List (Operation β γ)}
    (always : ∀ operation ∈ operations, ∀ system, fact system operation) (system : System β γ) :
    system.Throughout fact operations := by
  induction operations generalizing system with
  | nil => trivial
  | cons operation rest ih =>
    exact ⟨always operation (List.mem_cons_self ..) system,
      ih (fun other member => always other (List.mem_cons_of_mem _ member)) _⟩

theorem kept_after (kept : System β γ → Prop) {fact : System β γ → Operation β γ → Prop}
    (step : ∀ system operation, kept system → fact system operation →
      kept (system.perform operation).state)
    {system : System β γ} {operations : List (Operation β γ)} (start : kept system)
    (facts : system.Throughout fact operations) : kept (system.after operations) := by
  induction operations generalizing system with
  | nil => exact start
  | cons operation rest ih => exact ih (step system operation start facts.1) facts.2

/-- Either nothing in the run wrote the part, or some operation was the last to write it. -/
theorem last_writer {α : Type} (part : System β γ → α)
    (writes : System β γ → Operation β γ → Prop)
    (step : ∀ system operation, ¬writes system operation →
      part (system.perform operation).state = part system)
    (system : System β γ) (operations : List (Operation β γ)) :
    (part (system.after operations) = part system ∧
      system.Throughout (fun met operation => ¬writes met operation) operations) ∨
    ∃ before operation later, operations = before ++ operation :: later ∧
      writes (system.after before) operation ∧
      part (system.after operations) = part ((system.after before).perform operation).state ∧
      ((system.after before).perform operation).state.Throughout
        (fun met other => ¬writes met other) later := by
  induction operations generalizing system with
  | nil => exact .inl ⟨rfl, trivial⟩
  | cons operation rest ih =>
    rcases ih (system.perform operation).state with
      ⟨unwritten, quiet⟩ | ⟨before, last, later, split, wrote, left, quiet⟩
    · by_cases first : writes system operation
      · exact .inr ⟨[], operation, rest, rfl, first, unwritten, quiet⟩
      · exact .inl ⟨unwritten.trans (step system operation first), first, quiet⟩
    · exact .inr ⟨operation :: before, last, later, congrArg (List.cons operation) split, wrote,
        left, quiet⟩

end Imu.System
