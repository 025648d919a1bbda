/-!
Programs that act on an outside state and leave a record of what they did to it. The
record only ever grows at its end, so what a program recorded is a fact about the
program and the state it started in, never about what ran before it.
-/

namespace Imu

structure Outcome (ε σ α : Type) where
  value : α
  events : List ε
  state : σ

/-- A program over `σ` that yields an `α` and records events of type `ε`. -/
def Traced (ε σ α : Type) : Type := σ → Outcome ε σ α

namespace Traced

variable {ε φ σ τ α β : Type}

def run (program : Traced ε σ α) (state : σ) : Outcome ε σ α := program state

instance : Monad (Traced ε σ) where
  pure value := fun state => ⟨value, [], state⟩
  bind first next := fun state =>
    let reached := first.run state
    let rest := (next reached.value).run reached.state
    ⟨rest.value, reached.events ++ rest.events, rest.state⟩

def emit (event : ε) : Traced ε σ Unit := fun state => ⟨(), [event], state⟩

def get : Traced ε σ σ := fun state => ⟨state, [], state⟩

def modify (change : σ → σ) : Traced ε σ Unit := fun state => ⟨(), [], change state⟩

/-- A single action on the state, recorded after it has happened. -/
def act (action : σ → α × σ) (event : α → ε) : Traced ε σ α := fun state =>
  let done := action state
  ⟨done.1, [event done.1], done.2⟩

/-- Run a program on one part of a larger state, renaming what it records. -/
def focus (part : τ → σ) (restore : σ → τ → τ) (rename : ε → φ) (program : Traced ε σ α) :
    Traced φ τ α := fun state =>
  let done := program.run (part state)
  ⟨done.value, done.events.map rename, restore done.state state⟩

@[simp] theorem run_pure (value : α) (state : σ) :
    (pure value : Traced ε σ α).run state = ⟨value, [], state⟩ := rfl

@[simp] theorem run_bind (first : Traced ε σ α) (next : α → Traced ε σ β) (state : σ) :
    (first >>= next).run state =
      ⟨((next (first.run state).value).run (first.run state).state).value,
        (first.run state).events ++
          ((next (first.run state).value).run (first.run state).state).events,
        ((next (first.run state).value).run (first.run state).state).state⟩ := rfl

@[simp] theorem run_emit (event : ε) (state : σ) :
    (emit event : Traced ε σ Unit).run state = ⟨(), [event], state⟩ := rfl

@[simp] theorem run_get (state : σ) : (get : Traced ε σ σ).run state = ⟨state, [], state⟩ := rfl

@[simp] theorem run_modify (change : σ → σ) (state : σ) :
    (modify change : Traced ε σ Unit).run state = ⟨(), [], change state⟩ := rfl

@[simp] theorem run_act (action : σ → α × σ) (event : α → ε) (state : σ) :
    (act action event).run state = ⟨(action state).1, [event (action state).1], (action state).2⟩ :=
  rfl

@[simp] theorem run_focus (part : τ → σ) (restore : σ → τ → τ) (rename : ε → φ)
    (program : Traced ε σ α) (state : τ) :
    (focus part restore rename program).run state =
      ⟨(program.run (part state)).value, (program.run (part state)).events.map rename,
        restore (program.run (part state)).state state⟩ := rfl

instance : LawfulMonad (Traced ε σ) := LawfulMonad.mk' _
  (fun program => by
    funext state
    show Outcome.mk (program state).value ((program state).events ++ []) (program state).state = _
    rw [List.append_nil])
  (fun _ _ => rfl)
  (fun first next last => by
    funext state
    show Outcome.mk _ ((_ ++ _) ++ _) _ = Outcome.mk _ (_ ++ (_ ++ _)) _
    rw [List.append_assoc]
    rfl)

@[simp] theorem run_map (change : α → β) (program : Traced ε σ α) (state : σ) :
    (change <$> program).run state =
      ⟨change (program.run state).value, (program.run state).events,
        (program.run state).state⟩ := by
  rw [map_eq_pure_bind]
  simp only [run_bind, run_pure, List.append_nil]

end Traced

end Imu
