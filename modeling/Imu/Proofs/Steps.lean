import Imu.Proofs.Frame

/-!
The steps that the operations of the polling side are made of. Each is one call on a board or a
line, or one access to the units and accelerometers in memory; between any two of them the
interrupt side can act.
-/

namespace Imu

namespace Traced

variable {ε φ σ τ α δ : Type}

/-- A finite sequence of steps of the given kind, each of which may depend on what those before it
told. -/
inductive MadeOf (steps : {δ : Type} → Traced ε σ δ → Prop) : Traced ε σ α → Prop where
  | done (value : α) : MadeOf @steps (pure value)
  | step {δ : Type} {first : Traced ε σ δ} {rest : δ → Traced ε σ α} (kind : steps first)
    (later : ∀ told, MadeOf @steps (rest told)) : MadeOf @steps (first >>= rest)

theorem MadeOf.bind {steps : {δ : Type} → Traced ε σ δ → Prop} {first : Traced ε σ α}
    {next : α → Traced ε σ δ} (made : MadeOf @steps first)
    (rest : ∀ value, MadeOf @steps (next value)) : MadeOf @steps (first >>= next) := by
  induction made with
  | done value =>
    rw [pure_bind]
    exact rest value
  | step kind _ ih =>
    rw [bind_assoc]
    exact .step kind ih

inductive IsAct : {δ : Type} → Traced ε σ δ → Prop where
  | act {δ : Type} (action : σ → δ × σ) (event : δ → ε) : IsAct (Traced.act action event)

abbrev Sequence (program : Traced ε σ α) : Prop := MadeOf (@IsAct ε σ) program

theorem sequence_act (action : σ → α × σ) (event : α → ε) : Sequence (act action event) := by
  have sequence : Sequence (act action event >>= pure) := .step (.act action event) .done
  rwa [bind_pure] at sequence

theorem sequence_emit (event : ε) : (emit event : Traced ε σ Unit).Sequence :=
  sequence_act (fun state => ((), state)) fun _ => event

theorem focus_pure {part : τ → σ} {restore : σ → τ → τ} {rename : ε → φ}
    (restored : ∀ whole, restore (part whole) whole = whole) (value : α) :
    focus part restore rename (pure value) = pure value := by
  funext whole
  exact congrArg (Outcome.mk value []) (restored whole)

theorem focus_bind {part : τ → σ} {restore : σ → τ → τ} {rename : ε → φ}
    (kept : ∀ inner whole, part (restore inner whole) = inner)
    (replaced : ∀ inner other whole, restore inner (restore other whole) = restore inner whole)
    (first : Traced ε σ α) (next : α → Traced ε σ δ) :
    focus part restore rename (first >>= next) =
      focus part restore rename first >>= fun value => focus part restore rename (next value) := by
  funext whole
  change (focus part restore rename (first >>= next)).run whole =
    (focus part restore rename first >>= fun value =>
      focus part restore rename (next value)).run whole
  simp only [run_focus, run_bind, kept, replaced, List.map_append]

end Traced

open Traced

namespace Gyro

theorem sequence_through {α β : Type} (gyro : Gyro)
    {operation : Binding → Traced Event β (Except Failure α)}
    (sequence : ∀ binding, (operation binding).Sequence) : (gyro.through operation).Sequence := by
  unfold through
  split
  · exact sequence _
  · exact .done _

theorem sequence_settle {β : Type} (gyro : Gyro) (handler : Nat)
    (outcome : Except Failure Finding) :
    (gyro.settle handler outcome : Traced Event β _).Sequence := by
  unfold settle
  split
  · exact .done _
  · exact (sequence_emit _).bind fun _ => .done _
  · exact .done _

theorem sequence_enableLine (gyro : Gyro) : gyro.enableLine.Sequence :=
  (sequence_emit _).bind fun _ => .done _

theorem sequence_arm (gyro : Gyro) : gyro.arm.Sequence := by
  unfold arm
  split
  · exact .done _
  · split
    · split
      · apply (sequence_act ..).bind
        intro level
        split
        · exact sequence_enableLine gyro
        · exact .done _
      · exact sequence_enableLine gyro
    · exact .done _

end Gyro

section

variable {β : Type} [Bus β]

theorem Event.sequence_readVia {size : Nat} (via : ReadRoutine) (register : UInt8)
    (buffer : Vector UInt8 size) : (readVia via register buffer : Traced Event β _).Sequence :=
  sequence_act ..

namespace Binding

theorem sequence_productClass (binding : Binding) :
    (binding.productClass : Traced Event β _).Sequence := by
  apply (Event.sequence_readVia _ _ _).bind
  intro id
  split <;> exact .done _

theorem sequence_resolutionClass (binding : Binding) :
    (binding.resolutionClass : Traced Event β _).Sequence := by
  apply (Event.sequence_readVia _ _ _).bind
  intro offsets
  split
  · dsimp only
    split
    · exact sequence_productClass binding
    · exact .done _
  · exact .done _

theorem sequence_readSample (register : UInt8) (binding : Binding) :
    (binding.readSample register : Traced Event β _).Sequence := by
  apply (Event.sequence_readVia _ _ _).bind
  intro reply
  split <;> exact .done _

theorem sequence_callRead {size : Nat} (register : UInt8) (buffer : Vector UInt8 size)
    (via : Option ReadRoutine) : (callRead register buffer via : Traced Event β _).Sequence := by
  cases via with
  | none => exact .done _
  | some via => exact (Event.sequence_readVia ..).bind fun _ => .done _

theorem sequence_callWrite (register data : UInt8) (via : Option WriteRoutine) :
    (callWrite register data via : Traced Event β _).Sequence := by
  cases via with
  | none => exact .done _
  | some via => exact (sequence_act ..).bind fun _ => .done _

theorem sequence_call (binding : Binding) (call : Call) :
    (binding.call call : Traced Event β _).Sequence := by
  cases call with
  | read register size buffer => exact sequence_callRead register buffer (some binding.read)
  | slowRead register size buffer => exact sequence_callRead register buffer binding.slowRead
  | write register data => exact sequence_callWrite register data (some binding.write)
  | verifiedWrite register data => exact sequence_callWrite register data binding.verifiedWrite
  | reset =>
    rw [Binding.call]
    cases binding.reset with
    | none => exact .done _
    | some index => exact (sequence_act ..).bind fun _ => .done _

end Binding

namespace Finding

theorem sequence_ofCandidates (list : List Candidate) :
    (ofCandidates list : Traced Event β _).Sequence := by
  induction list with
  | nil => exact .done _
  | cons candidate rest ih =>
    apply (sequence_act ..).bind
    intro claimed
    split
    · exact .done _
    · exact ih

theorem sequence_ofIdentity (whoAmI : UInt8) :
    (ofIdentity whoAmI : Traced Event β _).Sequence := by
  unfold ofIdentity
  split
  · exact (Binding.sequence_resolutionClass _).bind fun _ => .done _
  · split <;> exact .done _

theorem sequence_onPrimary (whoAmI : UInt8) :
    (onPrimary whoAmI : Traced Event β _).Sequence := by
  apply (Event.sequence_readVia _ _ _).bind
  intro identity
  split
  · exact .done _
  · exact sequence_ofIdentity whoAmI

theorem sequence_search (settleDelay : UInt32) (candidates : CandidateList) :
    (search settleDelay candidates : Traced Event β _).Sequence := by
  apply (sequence_emit _).bind
  intro _
  apply (Event.sequence_readVia _ _ _).bind
  intro identity
  split
  · exact sequence_onPrimary identity.byte
  · exact (sequence_ofCandidates _).bind fun _ => .done _

end Finding

namespace Gyro

theorem sequence_identify (gyro : Gyro) (candidates : CandidateList) (handler : Nat) :
    (gyro.identify candidates handler : Traced Event β _).Sequence := by
  unfold identify
  split
  · exact .done _
  · exact .done _
  · exact (Finding.sequence_search ..).bind fun _ => sequence_settle ..

theorem sequence_read (gyro : Gyro) : (gyro.read : Traced Event β _).Sequence := by
  apply (sequence_through gyro fun binding => binding.sequence_readSample _).bind
  intro sample
  cases sample <;> exact .done _

theorem sequence_slowRead (gyro : Gyro) (register : UInt8) {size : Nat}
    (buffer : Vector UInt8 size) :
    (gyro.slowRead register buffer : Traced Event β _).Sequence := by
  unfold slowRead
  split
  · exact .done _
  · exact (Event.sequence_readVia ..).bind fun _ => .done _

theorem sequence_write (gyro : Gyro) (register data : UInt8) :
    (gyro.write register data : Traced Event β _).Sequence :=
  sequence_through gyro fun _ => (sequence_act ..).bind fun _ => .done _

theorem sequence_writeVerified (gyro : Gyro) (register data : UInt8) :
    (gyro.writeVerified register data : Traced Event β _).Sequence :=
  sequence_through gyro fun _ => (sequence_act ..).bind fun _ => .done _

theorem sequence_reset (gyro : Gyro) : (gyro.reset : Traced Event β _).Sequence := by
  apply sequence_through
  intro binding
  split
  · exact (sequence_act ..).bind fun _ => .done _
  · exact .done _

end Gyro

theorem Accel.sequence_read (accel : Accel) (gyro : Gyro) :
    (accel.read gyro : Traced Event β _).Sequence := by
  apply (gyro.sequence_through fun binding => binding.sequence_readSample _).bind
  intro sample
  cases sample <;> exact .done _

end

namespace Operation

variable {β γ : Type}

def touchesLatches : Operation β γ → Bool
  | .poll _ | .setCallback _ _ | .signal _ _ | .edge _ _ _ | .setClock _ => true
  | _ => false

end Operation

namespace System

variable {β γ α δ : Type}

/-- The single steps that leave the latches out. -/
inductive Outside : {α : Type} → Action β γ α → Prop where
  | bus {α : Type} (index : Nat) (action : β → α × β) (event : α → Event) :
    Outside (onBus index (Traced.act action event))
  | line {α : Type} (index : Nat) (action : Line → α × Line) (event : α → Event) :
    Outside (onLine index (Traced.act action event))
  | getGyro (index : Nat) : Outside (getGyro index)
  | putGyro (index : Nat) (gyro : Gyro) : Outside (putGyro index gyro)
  | getAccel (index : Nat) : Outside (getAccel index)
  | putAccel (index : Nat) (accel : Accel) : Outside (putAccel index accel)
  | appendAccel (accel : Accel) : Outside (appendAccel accel)
  | disturb (index : Nat) (change : β → β) :
    Outside (Traced.modify fun system =>
      { system with buses := system.buses.set index (change (system.buses.get index)) })

abbrev Polls (program : Action β γ α) : Prop := MadeOf (@Outside β γ) program

theorem polls_onBus (index : Nat) {program : Traced Event β α} (sequence : program.Sequence) :
    Polls (onBus index program : Action β γ α) := by
  induction sequence with
  | done value =>
    have same : onBus index (pure value) = (pure value : Action β γ α) :=
      focus_pure (fun system => by rw [Bank.set_get]) value
    rw [same]
    exact .done value
  | step kind _ ih =>
    obtain ⟨action, event⟩ := kind
    rw [onBus, focus_bind (fun _ _ => Bank.get_set_self ..) (fun _ _ _ => by rw [Bank.set_set])]
    exact .step (.bus index action event) ih

theorem polls_onLine (index : Nat) {program : Traced Event Line α} (sequence : program.Sequence) :
    Polls (onLine index program : Action β γ α) := by
  induction sequence with
  | done value =>
    have same : onLine index (pure value) = (pure value : Action β γ α) :=
      focus_pure (fun system => by rw [Bank.set_get]) value
    rw [same]
    exact .done value
  | step kind _ ih =>
    obtain ⟨action, event⟩ := kind
    rw [onLine, focus_bind (fun _ _ => Bank.get_set_self ..) (fun _ _ _ => by rw [Bank.set_set])]
    exact .step (.line index action event) ih

/-- Every operation that does not have to do with the latches is made of such steps. -/
theorem polls_step [Bus β] {operation : Operation β γ}
    (apart : operation.touchesLatches = false) : Polls (step operation) := by
  cases operation with
  | identify index bus candidates handler =>
    exact .step (.getGyro index) fun gyro =>
      (polls_onBus bus (gyro.sequence_identify candidates handler)).bind fun _ =>
        .step (.putGyro index _) fun _ => .done _
  | read index bus =>
    exact .step (.getGyro index) fun gyro => (polls_onBus bus gyro.sequence_read).bind fun _ =>
      .step (.putGyro index _) fun _ => .done _
  | slowRead index bus register size buffer =>
    exact .step (.getGyro index) fun gyro =>
      (polls_onBus bus (gyro.sequence_slowRead register buffer)).bind fun _ => .done _
  | write index bus register data =>
    exact .step (.getGyro index) fun gyro =>
      (polls_onBus bus (gyro.sequence_write register data)).bind fun _ => .done _
  | writeVerified index bus register data =>
    exact .step (.getGyro index) fun gyro =>
      (polls_onBus bus (gyro.sequence_writeVerified register data)).bind fun _ => .done _
  | reset index bus =>
    exact .step (.getGyro index) fun gyro =>
      (polls_onBus bus gyro.sequence_reset).bind fun _ => .done _
  | arm index =>
    exact .step (.getGyro index) fun gyro => (polls_onLine index gyro.sequence_arm).bind fun _ =>
      .step (.putGyro index _) fun _ => .done _
  | call index bus call =>
    apply MadeOf.step (.getGyro index)
    intro gyro
    cases gyro.binding with
    | none => exact .done _
    | some binding =>
      exact (polls_onBus bus (binding.sequence_call call)).bind fun _ => .done _
  | pairAccel index =>
    apply MadeOf.step (.getGyro index)
    intro gyro
    cases Accel.pair gyro with
    | error refusal => exact .done _
    | ok accel => exact .step (.appendAccel accel) fun _ => .done _
  | addAccel => exact .step (.appendAccel {}) fun _ => .done _
  | readAccel number index bus =>
    exact .step (.getGyro index) fun gyro => .step (.getAccel number) fun accel =>
      (polls_onBus bus (accel.sequence_read gyro)).bind fun _ =>
        .step (.putAccel number _) fun _ => .done _
  | busRead bus register size buffer =>
    exact (polls_onBus bus (Event.sequence_readVia ..)).bind fun _ => .done _
  | busWrite bus register data => exact (polls_onBus bus (sequence_act ..)).bind fun _ => .done _
  | disturb bus change => exact .step (.disturb bus change) fun _ => .done _
  | poll | setCallback | signal | edge | setClock => cases apart

end System

end Imu
