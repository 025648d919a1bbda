import Imu.Proofs.Settling

/-!
The shapes that a unit can have. Nothing checks that the fields of a unit fit together: they do
because each way out of the search makes them together and no other operation touches them.
-/

namespace Imu

namespace Gyro

/-- The shapes of a unit, in terms of what can be observed of it. Of the candidates only those
that `claims` holds of can have been settled on. -/
inductive Shape (claims : Candidate → Prop) (gyro : Gyro) : Prop where
  | undetected (waiting : gyro.detected = false) (usable : gyro.incompatible = false)
    (identification : gyro.identification = .undetected) (binding : gyro.binding = none)
  | incompatible (ended : gyro.detected = true) (unusable : gyro.incompatible = true)
    (identification : gyro.identification = ⟨.mpu60x0, none⟩) (binding : gyro.binding = none)
  | nothing (ended : gyro.detected = true) (usable : gyro.incompatible = false)
    (identification : gyro.identification = .undetected) (binding : gyro.binding = none)
  | unrecognised (ended : gyro.detected = true) (usable : gyro.incompatible = false)
    (identification : gyro.identification = .undetected)
    (binding : gyro.binding = some (.primary 0x43))
  | primary (ended : gyro.detected = true) (usable : gyro.incompatible = false) (binding : Binding)
    (bound : gyro.binding = some binding)
    (routines : binding.read = .primary ∧ binding.write = .primary)
    (lacks : binding.slowRead = none ∧ binding.verifiedWrite = none ∧ binding.reset = none)
    (known : (gyro.identification = ⟨.mpu3050, none⟩ ∧ binding.gyroRegister = 0x1D) ∨
      (gyro.identification = ⟨.mpu60x0, some .half⟩ ∧ binding.gyroRegister = 0x43) ∨
      (gyro.identification = ⟨.mpu60x0, some .full⟩ ∧ binding.gyroRegister = 0x43) ∨
      (gyro.identification = ⟨.mpu65xxI2c, none⟩ ∧ binding.gyroRegister = 0x43))
  | claimed (ended : gyro.detected = true) (usable : gyro.incompatible = false)
    (candidate : Candidate) (claim : claims candidate)
    (identification : gyro.identification = ⟨candidate.family, none⟩)
    (binding : gyro.binding = some candidate.binding)

theorem shape_of_undetected (claims : Candidate → Prop) {gyro : Gyro}
    (waiting : gyro.detected = false) : gyro.Shape claims := by
  have usable : gyro.incompatible = false := by
    simp [incompatible, detected_eq_false.mp waiting]
  exact .undetected waiting usable (identification_of_undetected waiting)
    (binding_of_undetected waiting)

theorem shape_of_unsupported (claims : Candidate → Prop) {gyro : Gyro}
    (standing : gyro.standing = .unsupported) : gyro.Shape claims := by
  apply Shape.incompatible
  · simp [detected, standing]
  · simp [incompatible, standing]
  · rw [identification, standing]
  · rw [binding, standing]

theorem shape_of_settled {claims : Candidate → Prop} {gyro : Gyro} {candidates : List Candidate}
    {events : List Event} {found : Finding} (standing : gyro.standing = .settled found)
    (origin : Finding.Origin candidates events found)
    (claimed : ∀ candidate ∈ candidates,
      .access (.probe candidate.routine true) ∈ events → claims candidate) :
    gyro.Shape claims := by
  have ended : gyro.detected = true := by simp [detected, standing]
  have usable : gyro.incompatible = false := by simp [incompatible, standing]
  have identification : gyro.identification = found.identification := by
    rw [Gyro.identification, standing]
  have binding : gyro.binding = found.binding := by rw [Gyro.binding, standing]
  cases origin with
  | nothing => exact .nothing ended usable identification binding
  | unrecognised => exact .unrecognised ended usable identification binding
  | legacy =>
    exact .primary ended usable _ binding ⟨rfl, rfl⟩ ⟨rfl, rfl, rfl⟩ (.inl ⟨identification, rfl⟩)
  | classified resolution =>
    refine .primary ended usable _ binding ⟨rfl, rfl⟩ ⟨rfl, rfl, rfl⟩ (.inr ?_)
    cases resolution with
    | half => exact .inl ⟨identification, rfl⟩
    | full => exact .inr (.inl ⟨identification, rfl⟩)
  | extended =>
    exact .primary ended usable _ binding ⟨rfl, rfl⟩ ⟨rfl, rfl, rfl⟩
      (.inr (.inr (.inr ⟨identification, rfl⟩)))
  | claimed candidate listed answered =>
    exact .claimed ended usable candidate (claimed candidate listed answered) identification binding

namespace Shape

variable {claims : Candidate → Prop} {gyro : Gyro}

theorem eq_primary {binding : Binding}
    (routines : binding.read = .primary ∧ binding.write = .primary)
    (lacks : binding.slowRead = none ∧ binding.verifiedWrite = none ∧ binding.reset = none) :
    binding = .primary binding.gyroRegister := by
  obtain ⟨read, write, slowRead, verifiedWrite, reset, register⟩ := binding
  obtain ⟨rfl, rfl⟩ := routines
  obtain ⟨rfl, rfl, rfl⟩ := lacks
  rfl

theorem of_resolution (shape : gyro.Shape claims) {resolution : Resolution}
    (classified : gyro.resolution = some resolution) :
    gyro.family = .mpu60x0 ∧ gyro.binding = some (.primary 0x43) := by
  unfold Gyro.resolution at classified
  unfold Gyro.family
  cases shape with
  | primary _ _ binding bound routines lacks known =>
    rcases known with ⟨same, _⟩ | ⟨same, register⟩ | ⟨same, register⟩ | ⟨same, _⟩
    · rw [same] at classified; cases classified
    · exact ⟨by rw [same], by rw [bound, eq_primary routines lacks, register]⟩
    · exact ⟨by rw [same], by rw [bound, eq_primary routines lacks, register]⟩
    · rw [same] at classified; cases classified
  -- The other shapes carry no resolution.
  | undetected _ _ identification _ | incompatible _ _ identification _
  | nothing _ _ identification _ | unrecognised _ _ identification _
  | claimed _ _ _ _ identification _ =>
    rw [identification] at classified
    cases classified

theorem readable (shape : gyro.Shape claims) (usable : gyro.incompatible = false)
    (known : gyro.family ≠ .unknown) :
    ∃ binding, gyro.binding = some binding ∧ gyro.readable = .ok binding := by
  have bound : ∃ binding, gyro.binding = some binding := by
    cases shape with
    | undetected _ _ identification _ | nothing _ _ identification _ =>
      exact absurd (congrArg Identification.family identification) known
    | incompatible _ unusable _ _ => rw [usable] at unusable; cases unusable
    | unrecognised _ _ _ binding => exact ⟨_, binding⟩
    | primary _ _ binding bound _ _ _ => exact ⟨binding, bound⟩
    | claimed _ _ candidate _ _ binding => exact ⟨candidate.binding, binding⟩
  obtain ⟨binding, bound⟩ := bound
  refine ⟨binding, bound, ?_⟩
  have supported : gyro.standing ≠ .unsupported := by simpa [Gyro.incompatible] using usable
  rw [Gyro.readable, if_neg supported, if_neg known, bound]

theorem usesSpi_iff (shape : gyro.Shape claims)
    (drivers : ∀ candidate, claims candidate → candidate.family.usesSpi = true) :
    (gyro.family.usesSpi = true ↔ ∃ candidate, claims candidate ∧
      gyro.identification = ⟨candidate.family, none⟩ ∧ gyro.binding = some candidate.binding) ∧
    (gyro.family.usesSpi = false →
      gyro.binding = none ∨ ∃ register, gyro.binding = some (.primary register)) := by
  have secondary : (∃ candidate, claims candidate ∧
      gyro.identification = ⟨candidate.family, none⟩ ∧ gyro.binding = some candidate.binding) →
      gyro.family.usesSpi = true := by
    intro ⟨candidate, claim, identification, _⟩
    rw [Gyro.family, identification]
    exact drivers candidate claim
  have told : gyro.family.usesSpi = true ∧ (∃ candidate, claims candidate ∧
      gyro.identification = ⟨candidate.family, none⟩ ∧ gyro.binding = some candidate.binding) ∨
      gyro.family.usesSpi = false ∧
        (gyro.binding = none ∨ ∃ register, gyro.binding = some (.primary register)) := by
    cases shape with
    | undetected _ _ identification binding | nothing _ _ identification binding
    | incompatible _ _ identification binding =>
      exact .inr ⟨by rw [Gyro.family, identification]; rfl, .inl binding⟩
    | unrecognised _ _ identification binding =>
      exact .inr ⟨by rw [Gyro.family, identification]; rfl, .inr ⟨_, binding⟩⟩
    | primary _ _ binding bound routines lacks known =>
      refine .inr ⟨?_, .inr ⟨binding.gyroRegister, by rw [bound, ← eq_primary routines lacks]⟩⟩
      rw [Gyro.family]
      rcases known with ⟨same, _⟩ | ⟨same, _⟩ | ⟨same, _⟩ | ⟨same, _⟩ <;> rw [same] <;> rfl
    | claimed _ _ candidate claim identification binding =>
      have claimed : ∃ candidate, claims candidate ∧
          gyro.identification = ⟨candidate.family, none⟩ ∧ gyro.binding = some candidate.binding :=
        ⟨candidate, claim, identification, binding⟩
      exact .inl ⟨secondary claimed, claimed⟩
  rcases told with ⟨spi, claimed⟩ | ⟨other, rest⟩
  · refine ⟨⟨fun _ => claimed, secondary⟩, ?_⟩
    intro other
    exact absurd (other.symm.trans spi) Bool.false_ne_true
  · refine ⟨⟨?_, secondary⟩, fun _ => rest⟩
    intro spi
    exact absurd (other.symm.trans spi) Bool.false_ne_true

end Shape

end Gyro

namespace System

variable {β γ : Type} [Bus β]

/-- The candidate was listed in the attempt that settled the unit, and claimed the chip there. -/
def ClaimedBy (system : System β γ) (g : Nat) (operations : List (Operation β γ))
    (candidate : Candidate) : Prop :=
  ∃ candidates events, system.DecidedBy g operations candidates events ∧
    candidate ∈ candidates.entries ∧ .device (.access (.probe candidate.routine true)) ∈ events

theorem shape_after {system : System β γ} {g : Nat}
    (waiting : (system.gyros.get g).detected = false) (operations : List (Operation β γ)) :
    ((system.after operations).gyros.get g).Shape (system.ClaimedBy g operations) := by
  rcases decided_after waiting operations with
    unsettled | ⟨bus, candidates, handler, finished, standing, decided⟩
  · exact Gyro.shape_of_undetected _ unsettled
  · generalize search : (Finding.search _ candidates).run bus = done at finished standing decided
    cases outcome : done.value with
    | ok found =>
      rw [outcome] at standing
      -- The shape follows from the exit that the search took.
      have origin := Finding.search_origin (search ▸ outcome)
      apply Gyro.shape_of_settled standing origin
      intro candidate listed answered
      refine ⟨candidates, _, decided, listed, ?_⟩
      rw [← search]
      exact List.mem_map_of_mem (List.mem_append_left _ answered)
    | error failure =>
      rw [outcome] at standing finished
      rcases Finding.search_error (search ▸ outcome) with rfl | rfl
      · exact absurd rfl finished
      · exact Gyro.shape_of_unsupported _ standing

/-- Whatever is done with a unit, it has one of six shapes. What follows is read off them. -/
theorem unit_has_shape (system : System β γ) (g : Nat) (settings : Settings) (latch : Nat)
    (wired : Bool) (made : system.gyros.get g = Gyro.fresh settings latch wired)
    (operations : List (Operation β γ)) :
    let unit := (system.after operations).gyros.get g
    unit.Shape (system.ClaimedBy g operations) ∧
    (∀ resolution, unit.resolution = some resolution →
      unit.family = .mpu60x0 ∧ unit.binding = some (.primary 0x43)) ∧
    (unit.incompatible = false → unit.family ≠ .unknown →
      ∃ binding, unit.binding = some binding ∧ unit.readable = .ok binding) ∧
    ((∀ candidates events, system.DecidedBy g operations candidates events →
        ∀ candidate ∈ candidates.entries, candidate.family.usesSpi = true) →
      (unit.family.usesSpi = true ↔ ∃ candidate, system.ClaimedBy g operations candidate ∧
        unit.identification = ⟨candidate.family, none⟩ ∧ unit.binding = some candidate.binding) ∧
      (unit.family.usesSpi = false →
        unit.binding = none ∨ ∃ register, unit.binding = some (.primary register))) := by
  intro unit
  have waiting : (system.gyros.get g).detected = false := by rw [made]; rfl
  have shape := shape_after waiting operations
  refine ⟨shape, fun _ => shape.of_resolution, shape.readable, fun secondary => ?_⟩
  apply shape.usesSpi_iff
  intro candidate ⟨candidates, events, decided, listed, _⟩
  exact secondary candidates events decided candidate listed

end System

namespace Simulator

def behindDriver : SimulatedBoard := ⟨{ controller := .absent }, { chip := {}, claims := [0] }⟩

def driver : Candidate where
  family := .mpu9250Spi
  routine := 0
  binding := { read := .driver 0, write := .driver 0, reset := some 0, gyroRegister := 0x43 }

def driverAttempt : Operation SimulatedBoard Callback := .identify 0 0 ⟨[driver], by decide⟩ 0

theorem behindDriver_is_claimed :
    (powerUp behindDriver).gyros.get 0 = Gyro.fresh {} 0 false ∧
      ∃ candidate, (powerUp behindDriver).ClaimedBy 0 [driverAttempt] candidate ∧
        (((powerUp behindDriver).after [driverAttempt]).gyros.get 0).identification =
          ⟨candidate.family, none⟩ ∧
        (((powerUp behindDriver).after [driverAttempt]).gyros.get 0).binding =
          some candidate.binding := by
  obtain ⟨_, _, _, transport⟩ :=
    System.unit_has_shape (powerUp behindDriver) 0 {} 0 false rfl [driverAttempt]
  have secondary : ∀ candidates events,
      (powerUp behindDriver).DecidedBy 0 [driverAttempt] candidates events →
        ∀ candidate ∈ candidates.entries, candidate.family.usesSpi = true := by
    intro candidates events ⟨before, bus, handler, later, split, _⟩ candidate listed
    cases before with
    | nil =>
      obtain rfl : ⟨[driver], by decide⟩ = candidates := by
        simp only [driverAttempt, List.nil_append, List.cons.injEq, Operation.identify.injEq]
          at split
        exact split.1.2.2.1
      obtain rfl : candidate = driver := by simpa using listed
      rfl
    | cons => simp at split
  exact ⟨rfl, (transport secondary).1.mp rfl⟩

end Simulator

end Imu
