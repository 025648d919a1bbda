import Imu.Proofs.Run
import Imu.Proofs.Unit

/-!
What one operation does to a system of units, lines, accelerometers, buses and latches. Only
three operations change a unit, each only the unit it names, and no bus has any part in what
happens to the lines, the latches or the part of a unit that does not come from its chip.
-/

namespace Imu

theorem filterMap_signal {γ δ : Type} {view : Activity γ → Option δ}
    (hidden : ∀ event, view (.signal event) = none) (events : List (LatchEvent γ)) :
    (events.map .signal).filterMap view = [] := by
  rw [List.filterMap_map]
  exact List.filterMap_eq_nil_iff.mpr fun event _ => hidden event

namespace Operation

variable {β γ : Type}

def identifies (g : Nat) : Operation β γ → Bool
  | .identify index _ _ _ => index == g
  | _ => false

theorem identifies_eq_true {g : Nat} {operation : Operation β γ} :
    operation.identifies g = true ↔
      ∃ bus candidates handler, operation = .identify g bus candidates handler := by
  cases operation <;> simp [identifies]

def makesAccel : Operation β γ → Bool
  | .pairAccel _ | .addAccel => true
  | _ => false

def reachesInside : Operation β γ → Bool
  | .arm _ | .poll _ | .setCallback _ _ | .signal _ _ | .edge _ _ _ | .setClock _ => true
  | _ => false

end Operation

namespace System

variable {β γ : Type}

/-- What is left of a system when everything a bus could have told is taken away. -/
structure Inside (γ : Type) where
  units : Nat → Gyro
  lines : Bank Line
  signals : Signals γ

def inside (system : System β γ) : Inside γ where
  units := fun g => (system.gyros.get g).bare
  lines := system.lines
  signals := system.signals

theorem inside_eq_iff {first second : System β γ} :
    first.inside = second.inside ↔ (∀ g, (first.gyros.get g).bare = (second.gyros.get g).bare) ∧
      first.lines = second.lines ∧ first.signals = second.signals := by
  simp only [inside, Inside.mk.injEq, funext_iff]

variable [Bus β]

theorem perform_identify (system : System β γ) (index bus : Nat) (candidates : CandidateList)
    (handler : Nat) :
    system.perform (.identify index bus candidates handler) =
      let done := ((system.gyros.get index).identify candidates handler).run (system.buses.get bus)
      ⟨.identified done.value.1, done.events.map .device,
        { system with
          gyros := system.gyros.set index done.value.2
          buses := system.buses.set bus done.state }⟩ := by
  simp [perform, step, getGyro, onBus, putGyro]

theorem perform_read (system : System β γ) (index bus : Nat) :
    system.perform (.read index bus) =
      let done := (system.gyros.get index).read.run (system.buses.get bus)
      ⟨.finished done.value.1, done.events.map .device,
        { system with
          gyros := system.gyros.set index done.value.2
          buses := system.buses.set bus done.state }⟩ := by
  simp [perform, step, getGyro, onBus, putGyro]

theorem perform_arm (system : System β γ) (index : Nat) :
    system.perform (.arm index) =
      let done := (system.gyros.get index).arm.run (system.lines.get index)
      ⟨.flag done.value.1, done.events.map .device,
        { system with
          gyros := system.gyros.set index done.value.2
          lines := system.lines.set index done.state }⟩ := by
  simp [perform, step, getGyro, onLine, putGyro]

theorem perform_poll (system : System β γ) (index : Nat) :
    system.perform (.poll index) =
      if (system.gyros.get index).armed then
        let done := (Signals.consume (system.gyros.get index).latch).run system.signals
        ⟨.flag done.value, done.events.map .signal, { system with signals := done.state }⟩
      else ⟨.flag false, [], system⟩ := by
  cases armed : (system.gyros.get index).armed <;>
    simp [perform, step, poll, getGyro, onSignals, armed]

theorem perform_readAccel (system : System β γ) (number index bus : Nat) :
    system.perform (.readAccel number index bus) =
      let done :=
        ((system.accels.get number).read (system.gyros.get index)).run (system.buses.get bus)
      ⟨.finished done.value.1, done.events.map .device,
        { system with
          accels := system.accels.set number done.value.2
          buses := system.buses.set bus done.state }⟩ := by
  simp [perform, step, getGyro, getAccel, onBus, putAccel]

theorem perform_call (system : System β γ) (index bus : Nat) (call : Call) :
    system.perform (.call index bus call) =
      match (system.gyros.get index).binding with
      | none => ⟨.called none, [], system⟩
      | some binding =>
        let done := (binding.call call).run (system.buses.get bus)
        ⟨.called (some done.value), done.events.map .device,
          { system with buses := system.buses.set bus done.state }⟩ := by
  simp only [perform, step, getGyro, Traced.run_bind, Traced.run_get, Traced.run_pure]
  cases (system.gyros.get index).binding with
  | none => rfl
  | some binding => simp [onBus]

def withAccel (system : System β γ) : System β γ :=
  { system with
    accels := system.accels.set system.accelCount {}
    accelCount := system.accelCount + 1 }

theorem perform_addAccel (system : System β γ) :
    system.perform .addAccel = ⟨.paired (.ok system.accelCount), [], system.withAccel⟩ := rfl

theorem perform_pairAccel (system : System β γ) (index : Nat) :
    system.perform (.pairAccel index) =
      match (system.gyros.get index).readable with
      | .error refusal => ⟨.paired (.error refusal), [], system⟩
      | .ok _ => ⟨.paired (.ok system.accelCount), [], system.withAccel⟩ := by
  simp only [perform, step, getGyro, Traced.run_bind, Traced.run_get, Traced.run_pure, Accel.pair]
  cases (system.gyros.get index).readable <;> rfl

theorem perform_gyro (system : System β γ) (operation : Operation β γ) (g : Nat) :
    (system.perform operation).state.gyros.get g = system.gyros.get g ∨
    (∃ bus candidates handler, operation = .identify g bus candidates handler ∧
      (system.perform operation).state.gyros.get g =
        (((system.gyros.get g).identify candidates handler).run (system.buses.get bus)).value.2) ∨
    (∃ bus, operation = .read g bus ∧ (system.perform operation).state.gyros.get g =
      ((system.gyros.get g).read.run (system.buses.get bus)).value.2) ∨
    (operation = .arm g ∧ (system.perform operation).state.gyros.get g =
      ((system.gyros.get g).arm.run (system.lines.get g)).value.2) := by
  -- Three operations write a unit, each the one that it names.
  cases operation with
  | identify index bus candidates handler =>
    rw [perform_identify]
    by_cases same : g = index
    · subst same
      exact .inr (.inl ⟨bus, candidates, handler, rfl, Bank.get_set_self ..⟩)
    · exact .inl (Bank.get_set_of_ne _ _ same)
  | read index bus =>
    rw [perform_read]
    by_cases same : g = index
    · subst same
      exact .inr (.inr (.inl ⟨bus, rfl, Bank.get_set_self ..⟩))
    · exact .inl (Bank.get_set_of_ne _ _ same)
  | arm index =>
    rw [perform_arm]
    by_cases same : g = index
    · subst same
      exact .inr (.inr (.inr ⟨rfl, Bank.get_set_self ..⟩))
    · exact .inl (Bank.get_set_of_ne _ _ same)
  | poll index =>
    left
    rw [perform_poll]
    split <;> rfl
  | call index bus call =>
    left
    rw [perform_call]
    split <;> rfl
  | pairAccel index =>
    left
    rw [perform_pairAccel]
    split <;> rfl
  | _ => exact .inl rfl

theorem perform_accel (system : System β γ) (operation : Operation β γ) (number : Nat) :
    (system.perform operation).state.accels.get number = system.accels.get number ∨
    (∃ g bus, operation = .readAccel number g bus ∧
      (system.perform operation).state.accels.get number =
        (((system.accels.get number).read (system.gyros.get g)).run
          (system.buses.get bus)).value.2) ∨
    (operation.makesAccel = true ∧ (system.perform operation).value = .paired (.ok number)) := by
  cases operation with
  | readAccel index g bus =>
    rw [perform_readAccel]
    by_cases same : number = index
    · subst same
      exact .inr (.inl ⟨g, bus, rfl, Bank.get_set_self ..⟩)
    · exact .inl (Bank.get_set_of_ne _ _ same)
  | addAccel =>
    rw [perform_addAccel]
    by_cases same : number = system.accelCount
    · subst same
      exact .inr (.inr ⟨rfl, rfl⟩)
    · exact .inl (Bank.get_set_of_ne _ _ same)
  | pairAccel g =>
    rw [perform_pairAccel]
    cases (system.gyros.get g).readable with
    | error refusal => exact .inl rfl
    | ok binding =>
      by_cases same : number = system.accelCount
      · subst same
        exact .inr (.inr ⟨rfl, rfl⟩)
      · exact .inl (Bank.get_set_of_ne _ _ same)
  | poll index =>
    left
    rw [perform_poll]
    split <;> rfl
  | call index bus call =>
    left
    rw [perform_call]
    split <;> rfl
  | _ => exact .inl rfl

theorem accel_of_made {system : System β γ} {operation : Operation β γ} {number : Nat}
    (makes : operation.makesAccel = true)
    (made : (system.perform operation).value = .paired (.ok number)) :
    (system.perform operation).state.accels.get number = {} := by
  cases operation with
  | addAccel =>
    rw [perform_addAccel] at made ⊢
    cases made
    exact Bank.get_set_self ..
  | pairAccel g =>
    rw [perform_pairAccel] at made ⊢
    cases gate : (system.gyros.get g).readable with
    | error refusal => rw [gate] at made; cases made
    | ok binding =>
      rw [gate] at made
      cases made
      exact Bank.get_set_self ..
  | _ => cases makes

theorem perform_parts (system : System β γ) (operation : Operation β γ) (g : Nat) :
    ∃ standing armed raw,
      (system.perform operation).state.gyros.get g =
        { system.gyros.get g with standing := standing, armed := armed, raw := raw } ∧
      (operation.identifies g = false → standing = (system.gyros.get g).standing) ∧
      (operation ≠ .arm g → armed = (system.gyros.get g).armed) ∧
      ((∀ bus, operation ≠ .read g bus) → raw = (system.gyros.get g).raw) := by
  rcases perform_gyro system operation g with
    same | ⟨bus, candidates, handler, rfl, became⟩ | ⟨bus, rfl, became⟩ | ⟨rfl, became⟩
  · exact ⟨_, _, _, same, fun _ => rfl, fun _ => rfl, fun _ => rfl⟩
  · obtain ⟨standing, kept⟩ :=
      (system.gyros.get g).identify_keeps candidates handler (system.buses.get bus)
    refine ⟨standing, _, _, became.trans kept, ?_, fun _ => rfl, fun _ => rfl⟩
    intro other
    simp [Operation.identifies] at other
  · obtain ⟨raw, kept⟩ := (system.gyros.get g).read_keeps (system.buses.get bus)
    refine ⟨_, _, raw, became.trans kept, fun _ => rfl, fun _ => rfl, ?_⟩
    intro other
    exact absurd rfl (other bus)
  · obtain ⟨armed, kept⟩ := (system.gyros.get g).arm_keeps (system.lines.get g)
    refine ⟨_, armed, _, became.trans kept, fun _ => rfl, ?_, fun _ => rfl⟩
    intro other
    exact absurd rfl other

theorem perform_standing (system : System β γ) {operation : Operation β γ} {g : Nat}
    (other : operation.identifies g = false) :
    ((system.perform operation).state.gyros.get g).standing = (system.gyros.get g).standing := by
  obtain ⟨standing, armed, raw, became, kept, _⟩ := perform_parts system operation g
  rw [became]
  exact kept other

theorem perform_made {α : Type} (part : Gyro → α)
    (made : ∀ gyro standing armed raw,
      part { gyro with standing := standing, armed := armed, raw := raw } = part gyro)
    (system : System β γ) (operation : Operation β γ) (g : Nat) :
    part ((system.perform operation).state.gyros.get g) = part (system.gyros.get g) := by
  obtain ⟨standing, armed, raw, became, _⟩ := perform_parts system operation g
  rw [became]
  exact made _ standing armed raw

theorem after_made {α : Type} (part : Gyro → α)
    (made : ∀ gyro standing armed raw,
      part { gyro with standing := standing, armed := armed, raw := raw } = part gyro)
    (system : System β γ) (operations : List (Operation β γ)) (g : Nat) :
    part ((system.after operations).gyros.get g) = part (system.gyros.get g) := by
  induction operations generalizing system with
  | nil => rfl
  | cons operation rest ih => exact (ih _).trans (perform_made part made system operation g)

theorem perform_settings (system : System β γ) (operation : Operation β γ) (g : Nat) :
    ((system.perform operation).state.gyros.get g).settings = (system.gyros.get g).settings :=
  perform_made Gyro.settings (fun _ _ _ _ => rfl) system operation g

theorem after_settings (system : System β γ) (operations : List (Operation β γ)) (g : Nat) :
    ((system.after operations).gyros.get g).settings = (system.gyros.get g).settings :=
  after_made Gyro.settings (fun _ _ _ _ => rfl) system operations g

theorem after_latch (system : System β γ) (operations : List (Operation β γ)) (g : Nat) :
    ((system.after operations).gyros.get g).latch = (system.gyros.get g).latch :=
  after_made Gyro.latch (fun _ _ _ _ => rfl) system operations g

theorem perform_wired (system : System β γ) (operation : Operation β γ) (g : Nat) :
    ((system.perform operation).state.gyros.get g).wired = (system.gyros.get g).wired :=
  perform_made Gyro.wired (fun _ _ _ _ => rfl) system operation g

theorem after_wired (system : System β γ) (operations : List (Operation β γ)) (g : Nat) :
    ((system.after operations).gyros.get g).wired = (system.gyros.get g).wired :=
  after_made Gyro.wired (fun _ _ _ _ => rfl) system operations g

/-- Whatever a bus answers, it changes nothing inside. -/
theorem inside_perform_of_outside (system : System β γ) {operation : Operation β γ}
    (outside : operation.reachesInside = false) :
    (system.perform operation).state.inside = system.inside := by
  have units : ∀ g,
      ((system.perform operation).state.gyros.get g).bare = (system.gyros.get g).bare := by
    intro g
    obtain ⟨standing, armed, raw, became, _, kept, _⟩ := perform_parts system operation g
    have still : armed = (system.gyros.get g).armed := kept (by rintro rfl; cases outside)
    rw [became, still]
    rfl
  have rest : (system.perform operation).state.lines = system.lines ∧
      (system.perform operation).state.signals = system.signals := by
    cases operation with
    | arm _ | poll _ | setCallback _ _ | signal _ _ | edge _ _ _ | setClock _ => cases outside
    | call index bus call =>
      rw [perform_call]
      split <;> exact ⟨rfl, rfl⟩
    | pairAccel index =>
      rw [perform_pairAccel]
      split <;> exact ⟨rfl, rfl⟩
    | _ => exact ⟨rfl, rfl⟩
  exact inside_eq_iff.mpr ⟨units, rest⟩

theorem inside_perform_congr {first second : System β γ} (agree : first.inside = second.inside)
    (operation : Operation β γ) :
    (first.perform operation).state.inside = (second.perform operation).state.inside := by
  obtain ⟨units, lines, signals⟩ := inside_eq_iff.mp agree
  by_cases outside : operation.reachesInside = false
  · rw [inside_perform_of_outside first outside, inside_perform_of_outside second outside, agree]
  -- What reaches inside reads only what the two systems agree on.
  · cases operation with
    | arm index =>
      have armed :=
        congrArg (fun gyro : Gyro => gyro.arm.run (second.lines.get index)) (units index)
      simp only [Gyro.arm_bare, Outcome.mk.injEq, Prod.mk.injEq] at armed
      rw [perform_arm, perform_arm, inside_eq_iff, lines]
      refine ⟨fun g => ?_, ?_, signals⟩
      · by_cases same : g = index
        · subst same
          simpa only [Bank.get_set_self] using armed.1.2
        · simpa only [Bank.get_set_of_ne _ _ same] using units g
      · simp only [armed.2.2]
    | poll index =>
      have armed := congrArg Gyro.armed (units index)
      have latch := congrArg Gyro.latch (units index)
      simp only [Gyro.bare_armed, Gyro.bare_latch] at armed latch
      rw [perform_poll, perform_poll, armed, latch, signals]
      split
      · exact inside_eq_iff.mpr ⟨units, lines, rfl⟩
      · exact agree
    | setCallback index callback =>
      have latch := congrArg Gyro.latch (units index)
      simp only [Gyro.bare_latch] at latch
      refine inside_eq_iff.mpr ⟨units, lines, ?_⟩
      change ((Signals.install (first.gyros.get index).latch callback).run first.signals).state = _
      rw [latch, signals]
      rfl
    | signal latch operation =>
      refine inside_eq_iff.mpr ⟨units, lines, ?_⟩
      change ((onLatch latch operation).run first.signals).state = _
      rw [signals]
      rfl
    | edge latch timed reaction =>
      refine inside_eq_iff.mpr ⟨units, lines, ?_⟩
      change ((Script.edge latch timed reaction .done).run.run first.signals).state = _
      rw [signals]
      rfl
    | setClock clock =>
      refine inside_eq_iff.mpr ⟨units, lines, ?_⟩
      change { first.signals with clock := clock } = _
      rw [signals]
      rfl
    | _ => exact absurd rfl outside

end System

end Imu
