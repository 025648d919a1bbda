import Imu.Proofs.Outcome
import Imu.Simulator.Callback

/-!
The resolution class of an `mpu60x0`, asked for through any binding on any board. It takes one or
two reads of the binding's plain routine, and the class is a function of seven bits of what they
tell: three that spell a code, and four of the product id that count only where the code is empty.
What is looked up in the two tables of revisions is made visible by classifying with others in
their place.
-/

namespace Imu

/-- Where a revision is looked up: by its code, or by the product id. -/
structure RevisionTables (ρ : Type) where
  ofCode : OffsetCode → Except Failure ρ
  ofProduct : ProductId → Except Failure ρ

namespace RevisionTables

variable {ρ : Type}

def known : RevisionTables Resolution := ⟨OffsetCode.resolution, ProductId.resolution⟩

/-- Tables that give back what they were asked for. -/
def echo : RevisionTables (OffsetCode ⊕ ProductId) where
  ofCode code := .ok (.inl code)
  ofProduct id := .ok (.inr id)

def lookUp (tables : RevisionTables ρ) : OffsetCode ⊕ ProductId → Except Failure ρ :=
  Sum.elim tables.ofCode tables.ofProduct

theorem bind_lookUp_echo (asked : Except Failure (OffsetCode ⊕ ProductId)) :
    asked.bind echo.lookUp = asked := by
  rcases asked with failure | code | id <;> rfl

end RevisionTables

namespace Event

def IsRead (via : ReadRoutine) (ack : Bool) (event : Event) : Prop :=
  ∃ register buffer, event = .access (.read via register buffer ack)

theorem isRead_ofRead {size : Nat} (via : ReadRoutine) (register : UInt8) (reply : ReadReply size)
    (ack : Bool) : (ofRead via register reply).IsRead via ack ↔ reply.ack = ack := by
  constructor
  · rintro ⟨_, _, same⟩
    cases same
    rfl
  · rintro rfl
    exact ⟨_, _, rfl⟩

def AllAnswered (via : ReadRoutine) (events : List Event) : Prop :=
  ∀ event ∈ events, event.IsRead via true

/-- The last of these is a read through the routine, and it was refused. -/
def EndsRefused (via : ReadRoutine) (events : List Event) : Prop :=
  ∃ last, events.getLast? = some last ∧ last.IsRead via false

/-- The reads of a revision. The product id is read only where the offsets were told and spell no
code. -/
def revisionCalls (via : ReadRoutine) (offsets : ReadReply 6) (product : ReadReply 1) :
    List Event :=
  .ofRead via Register.accelOffsets offsets ::
    if offsets.ack = true ∧ LowBitsClear offsets.buffer then
      [.ofRead via Register.productId product]
    else []

variable (via : ReadRoutine) (offsets : ReadReply 6) (product : ReadReply 1)

theorem allAnswered_revisionCalls :
    AllAnswered via (revisionCalls via offsets product) ↔
      offsets.ack = true ∧ (LowBitsClear offsets.buffer → product.ack = true) := by
  rw [AllAnswered, revisionCalls, List.forall_mem_cons, isRead_ofRead]
  refine and_congr_right fun told => ?_
  by_cases early : LowBitsClear offsets.buffer
  · rw [if_pos ⟨told, early⟩, List.forall_mem_singleton, isRead_ofRead]
    simp [early]
  · simp [early]

theorem endsRefused_revisionCalls :
    EndsRefused via (revisionCalls via offsets product) ↔
      offsets.ack = false ∨ LowBitsClear offsets.buffer ∧ product.ack = false := by
  by_cases early : offsets.ack = true ∧ LowBitsClear offsets.buffer
  · have last : (revisionCalls via offsets product).getLast? =
        some (.ofRead via Register.productId product) := by
      rw [revisionCalls, if_pos early]
      rfl
    simp [EndsRefused, last, isRead_ofRead, early]
  · have last : (revisionCalls via offsets product).getLast? =
        some (.ofRead via Register.accelOffsets offsets) := by
      rw [revisionCalls, if_neg early]
      rfl
    -- Offsets that spell no code and were not followed by the product id were refused themselves.
    have refused (clear : LowBitsClear offsets.buffer) : offsets.ack = false :=
      Bool.eq_false_iff.mpr fun told => early ⟨told, clear⟩
    simp only [EndsRefused, last, Option.some.injEq, exists_eq_left', isRead_ofRead]
    exact ⟨.inl, fun cutOff => cutOff.elim id fun later => refused later.1⟩

theorem endsRefused_iff_not_allAnswered :
    EndsRefused via (revisionCalls via offsets product) ↔
      ¬AllAnswered via (revisionCalls via offsets product) := by
  rw [endsRefused_revisionCalls, allAnswered_revisionCalls]
  cases offsets.ack <;> simp

end Event

/-- The table of revisions. The nibble is the low one of the product id. -/
def Resolution.listed : (code nibble : Nat) → Except Failure Resolution
  | 0, 0 => .error .unsupported
  | 0, 4 => .ok .half
  | 0, _ => .ok .full
  | 1, _ => .ok .half
  | 2, _ | 3, _ | 7, _ => .ok .full
  | _, _ => .error .unsupported

namespace OffsetCode

def SameLowBits (first second : Vector UInt8 6) : Prop :=
  (first[1]! &&& 1 : UInt8) = second[1]! &&& 1 ∧ (first[3]! &&& 1 : UInt8) = second[3]! &&& 1 ∧
    (first[5]! &&& 1 : UInt8) = second[5]! &&& 1

instance (first second : Vector UInt8 6) : Decidable (SameLowBits first second) :=
  inferInstanceAs (Decidable (_ ∧ _))

theorem spelled_congr {first second : Vector UInt8 6} (same : SameLowBits first second) :
    spelled first = spelled second := by
  obtain ⟨x, y, z⟩ := same
  simp only [spelled, x, y, z]

theorem resolution_eq_listed (offsets : Vector UInt8 6) (nibble : Nat)
    (spells : spelled offsets ≠ 0) :
    (ofBurst (Burst.ofBuffer offsets)).resolution =
      Resolution.listed (spelled offsets) nibble := by
  rw [resolution_ofBurst]
  have bound := spelled_lt offsets
  generalize spelled offsets = code at spells bound
  -- Neither the empty code nor one of more than three bits is left.
  match code with
  | 1 | 2 | 3 | 4 | 5 | 6 | 7 => rfl

end OffsetCode

namespace ProductId

theorem toNat_revision (id : ProductId) : id.revision.toNat = id.value.toNat % 16 := by
  rw [revision, UInt8.toNat_and]
  exact Nat.and_two_pow_sub_one_eq_mod id.value.toNat 4

theorem resolution_eq_listed (id : ProductId) :
    id.resolution = Resolution.listed 0 (id.value.toNat % 16) := by
  -- The program compares bytes and the table numbers.
  have named (nibble : UInt8) : id.revision = nibble ↔ id.revision.toNat = nibble.toNat :=
    UInt8.toNat_inj.symm
  simp only [resolution, named]
  rw [toNat_revision]
  rcases id.value.toNat % 16 with _ | _ | _ | _ | _ | _ <;> rfl

end ProductId

namespace Resolution

theorem listed_congr {code nibble other : Nat} (same : code = 0 → nibble = other) :
    listed code nibble = listed code other := by
  match code with
  | 0 => rw [same rfl]
  | 1 | 2 | 3 | 4 | 5 | 6 | 7 => rfl
  | _ + 8 => rfl

theorem ofAnswers_eq_listed {offsets : ReadReply 6} {product : ReadReply 1}
    (answered : ofAnswers offsets.answer product.answer ≠ .error .noAck) :
    ofAnswers offsets.answer product.answer =
      listed (OffsetCode.spelled offsets.buffer) (product.buffer[0]!.toNat % 16) := by
  rw [ofAnswers_of_answered answered]
  split
  · next empty =>
    rw [empty]
    exact ProductId.resolution_eq_listed ⟨product.buffer[0]!⟩
  · next spells => exact OffsetCode.resolution_eq_listed offsets.buffer _ spells

/-- What is looked up for a part that was read so, if anything is. -/
def consulted (offsets : ReadReply 6) (product : ReadReply 1) :
    Except Failure (OffsetCode ⊕ ProductId) :=
  if offsets.ack then
    if LowBitsClear offsets.buffer then
      if product.ack then .ok (.inr ⟨product.buffer[0]!⟩) else .error .noAck
    else .ok (.inl (.ofBurst (Burst.ofBuffer offsets.buffer)))
  else .error .noAck

theorem consulted_of_cutOff {offsets : ReadReply 6} {product : ReadReply 1}
    (cutOff : offsets.ack = false ∨ LowBitsClear offsets.buffer ∧ product.ack = false) :
    consulted offsets product = .error .noAck := by
  unfold consulted
  rcases cutOff with refused | ⟨early, refused⟩
  · simp [refused]
  · simp [early, refused]

theorem value_of_consulted {offsets : ReadReply 6} {product : ReadReply 1} {code : OffsetCode}
    (asked : consulted offsets product = .ok (.inl code)) :
    code.value.toNat = OffsetCode.spelled offsets.buffer ∧ code.value ≠ 0 := by
  unfold consulted at asked
  split at asked
  · split at asked
    · split at asked <;> cases asked
    · next spells =>
      cases asked
      exact ⟨OffsetCode.toNat_value _, mt (OffsetCode.value_eq_zero _).mp spells⟩
  · cases asked

end Resolution

namespace Binding

variable {β ρ : Type} [Bus β] (tables : RevisionTables ρ)

def productClassBy (binding : Binding) : Traced Event β (Except Failure ρ) := do
  let id ← Event.burst 1 binding.read Register.productId
  if id.ack then pure (tables.ofProduct ⟨id.byte⟩) else pure (.error .noAck)

/-- The classification through a binding, with these tables to look the revision up in. -/
def classifyBy (binding : Binding) : Traced Event β (Except Failure ρ) := do
  let offsets ← Event.burst 6 binding.read Register.accelOffsets
  if offsets.ack then
    let code := OffsetCode.ofBurst (Burst.ofBuffer offsets.buffer)
    if code.value = 0 then binding.productClassBy tables else pure (tables.ofCode code)
  else pure (.error .noAck)

theorem resolutionClass_eq_classifyBy (binding : Binding) :
    (binding.resolutionClass : Traced Event β _) = binding.classifyBy .known := rfl

theorem productClassBy_run (binding : Binding) (bus : β) :
    (binding.productClassBy tables).run bus =
      let product := Event.ask 1 binding.read Register.productId bus
      ⟨if product.1.ack then tables.ofProduct ⟨product.1.byte⟩ else .error .noAck,
        [.ofRead binding.read Register.productId product.1], product.2⟩ := by
  rw [productClassBy, Event.run_burst_bind]
  rcases Event.ask 1 binding.read Register.productId bus with ⟨⟨_ | _, buffer⟩, later⟩ <;> rfl

theorem classifyBy_run (binding : Binding) (bus : β) :
    (binding.classifyBy tables).run bus =
      let offsets := Event.ask 6 binding.read Register.accelOffsets bus
      let product := Event.ask 1 binding.read Register.productId offsets.2
      ⟨(Resolution.consulted offsets.1 product.1).bind tables.lookUp,
        Event.revisionCalls binding.read offsets.1 product.1,
        if offsets.1.ack = true ∧ LowBitsClear offsets.1.buffer then product.2 else offsets.2⟩ := by
  rw [classifyBy, Event.run_burst_bind]
  rcases Event.ask 6 binding.read Register.accelOffsets bus with ⟨⟨_ | _, buffer⟩, later⟩
  · rfl
  · have empty := OffsetCode.value_eq_zero buffer
    by_cases early : LowBitsClear buffer
    · rcases told : Event.ask 1 binding.read Register.productId later with ⟨⟨_ | _, id⟩, last⟩ <;>
        simp [productClassBy_run, Resolution.consulted, Event.revisionCalls, Except.bind,
          RevisionTables.lookUp, ReadReply.byte_eq, empty, early, told]
    · simp [Resolution.consulted, Event.revisionCalls, Except.bind, RevisionTables.lookUp, empty,
        early]

theorem classifyBy_echo_value (binding : Binding) (bus : β) :
    let offsets := Event.ask 6 binding.read 0x06 bus
    let product := Event.ask 1 binding.read 0x0C offsets.2
    ((binding.classifyBy .echo).run bus).value = Resolution.consulted offsets.1 product.1 := by
  rw [classifyBy_run]
  exact RevisionTables.bind_lookUp_echo _

theorem resolutionClass_calls (binding : Binding) (bus : β) :
    let done := binding.resolutionClass.run bus
    let offsets := Event.ask 6 binding.read 0x06 bus
    let product := Event.ask 1 binding.read 0x0C offsets.2
    done.events = Event.revisionCalls binding.read offsets.1 product.1 ∧
      done.state =
        if offsets.1.ack = true ∧ LowBitsClear offsets.1.buffer then product.2 else offsets.2 := by
  intro done offsets product
  have run : done = _ := classifyBy_run .known binding bus
  exact ⟨congrArg Outcome.events run, congrArg Outcome.state run⟩

theorem resolutionClass_value (binding : Binding) (bus : β) :
    let offsets := Event.ask 6 binding.read 0x06 bus
    let product := Event.ask 1 binding.read 0x0C offsets.2
    (binding.resolutionClass.run bus).value =
      Resolution.ofAnswers offsets.1.answer product.1.answer :=
  congrArg Outcome.value (resolutionClass_run binding bus)

theorem resolutionClass_error {binding : Binding} {bus : β} {failure : Failure}
    (failed : (binding.resolutionClass.run bus).value = .error failure) :
    failure = .noAck ∨ failure = .unsupported := by
  rw [resolutionClass_value] at failed
  exact Resolution.ofAnswers_error failed

theorem resolutionClass_noAck (binding : Binding) (bus : β) :
    (binding.resolutionClass.run bus).value = .error .noAck ↔
      Event.EndsRefused binding.read (binding.resolutionClass.run bus).events := by
  rw [resolutionClass_value, (resolutionClass_calls binding bus).1, Event.endsRefused_revisionCalls,
    Resolution.ofAnswers_cutOff]

theorem resolutionClass_refused (binding : Binding) (bus : β) :
    Event.EndsRefused binding.read (binding.resolutionClass.run bus).events ↔
      ¬Event.AllAnswered binding.read (binding.resolutionClass.run bus).events := by
  rw [(resolutionClass_calls binding bus).1]
  exact Event.endsRefused_iff_not_allAnswered _ _ _

theorem resolutionClass_listed {binding : Binding} {bus : β}
    (answered : Event.AllAnswered binding.read (binding.resolutionClass.run bus).events) :
    let offsets := Event.ask 6 binding.read 0x06 bus
    let product := Event.ask 1 binding.read 0x0C offsets.2
    (binding.resolutionClass.run bus).value =
      Resolution.listed (OffsetCode.spelled offsets.1.buffer)
        (product.1.buffer[0]!.toNat % 16) := by
  have told : (binding.resolutionClass.run bus).value ≠ .error .noAck := by
    rw [Ne, resolutionClass_noAck, resolutionClass_refused]
    exact not_not_intro answered
  rw [resolutionClass_value] at told ⊢
  exact Resolution.ofAnswers_eq_listed told

theorem resolutionClass_run_congr {binding other : Binding} (same : other.read = binding.read)
    (bus : β) : other.resolutionClass.run bus = binding.resolutionClass.run bus := by
  rw [resolutionClass_run, resolutionClass_run, same]

theorem resolutionClass_value_congr {δ : Type} [Bus δ] {binding other : Binding} {bus : β}
    {otherBus : δ}
    (answered : Event.AllAnswered binding.read (binding.resolutionClass.run bus).events)
    (otherAnswered : Event.AllAnswered other.read (other.resolutionClass.run otherBus).events) :
    let offsets := Event.ask 6 binding.read 0x06 bus
    let product := Event.ask 1 binding.read 0x0C offsets.2
    let otherOffsets := Event.ask 6 other.read 0x06 otherBus
    let otherProduct := Event.ask 1 other.read 0x0C otherOffsets.2
    OffsetCode.SameLowBits offsets.1.buffer otherOffsets.1.buffer →
      (LowBitsClear offsets.1.buffer →
        product.1.buffer[0]!.toNat % 16 = otherProduct.1.buffer[0]!.toNat % 16) →
      (binding.resolutionClass.run bus).value = (other.resolutionClass.run otherBus).value := by
  intro offsets product otherOffsets otherProduct bits nibble
  rw [resolutionClass_listed answered, resolutionClass_listed otherAnswered,
    ← OffsetCode.spelled_congr bits]
  exact Resolution.listed_congr fun empty => nibble ((OffsetCode.spelled_eq_zero _).mp empty)

/-- `reached` is what the program looks up, made visible by tables that give it back. -/
theorem resolutionClass_goes_by_revision (binding : Binding) (bus : β) :
    let done := binding.resolutionClass.run bus
    let offsets := Event.ask 6 binding.read 0x06 bus
    let product := Event.ask 1 binding.read 0x0C offsets.2
    let reached := (binding.classifyBy .echo).run bus
    (done.events = .ofRead binding.read 0x06 offsets.1 ::
        (if offsets.1.ack = true ∧ LowBitsClear offsets.1.buffer then
          [.ofRead binding.read 0x0C product.1]
        else []) ∧
      done.state =
        if offsets.1.ack = true ∧ LowBitsClear offsets.1.buffer then product.2 else offsets.2) ∧
    (∀ other : Binding, other.read = binding.read → other.resolutionClass.run bus = done) ∧
    (Event.EndsRefused binding.read done.events ↔ ¬Event.AllAnswered binding.read done.events) ∧
    (done.value = .error .noAck ↔ Event.EndsRefused binding.read done.events) ∧
    done.value ≠ .error .undetected ∧ done.value ≠ .error .listFull ∧
    (Event.AllAnswered binding.read done.events → done.value =
      Resolution.listed (OffsetCode.spelled offsets.1.buffer) (product.1.buffer[0]!.toNat % 16)) ∧
    (∀ {δ : Type} [Bus δ] (other : Binding) (otherBus : δ),
      let otherDone := other.resolutionClass.run otherBus
      let otherOffsets := Event.ask 6 other.read 0x06 otherBus
      let otherProduct := Event.ask 1 other.read 0x0C otherOffsets.2
      Event.AllAnswered binding.read done.events → Event.AllAnswered other.read otherDone.events →
        OffsetCode.SameLowBits offsets.1.buffer otherOffsets.1.buffer →
        (LowBitsClear offsets.1.buffer →
          product.1.buffer[0]!.toNat % 16 = otherProduct.1.buffer[0]!.toNat % 16) →
        done.value = otherDone.value) ∧
    (binding.resolutionClass : Traced Event β _) = binding.classifyBy .known ∧
    (∀ (ρ : Type) (tables : RevisionTables ρ), (binding.classifyBy tables).run bus =
      ⟨reached.value.bind tables.lookUp, done.events, done.state⟩) ∧
    (¬Event.AllAnswered binding.read done.events → reached.value = .error .noAck) ∧
    ∀ code, reached.value = .ok (.inl code) →
      code.value.toNat = OffsetCode.spelled offsets.1.buffer ∧ code.value ≠ 0 := by
  intro done offsets product reached
  have calls := resolutionClass_calls binding bus
  have consulted : reached.value = Resolution.consulted offsets.1 product.1 :=
    classifyBy_echo_value binding bus
  refine ⟨calls, fun other same => resolutionClass_run_congr same bus,
    resolutionClass_refused binding bus, resolutionClass_noAck binding bus,
    fun failed => (resolutionClass_error failed).elim nofun nofun,
    fun failed => (resolutionClass_error failed).elim nofun nofun, resolutionClass_listed,
    fun _ _ answered otherAnswered => resolutionClass_value_congr answered otherAnswered,
    resolutionClass_eq_classifyBy binding, ?tables, ?refused, ?spells⟩
  case tables =>
    intro ρ tables
    rw [classifyBy_run, consulted, calls.1, calls.2]
    rfl
  case refused =>
    intro refused
    rw [← resolutionClass_refused, calls.1, Event.endsRefused_revisionCalls] at refused
    rw [consulted, Resolution.consulted_of_cutOff refused]
  case spells =>
    intro code asked
    exact Resolution.value_of_consulted (consulted.symm.trans asked)

end Binding

namespace Simulator

/-- A part whose offsets spell no code, for all that their other bits are set. -/
def codeless : Chip :=
  (({} : Chip).load 0x06 [0xFF, 0xFE, 0xFF, 0xFE, 0xFF, 0xFE]).load 0x0C [0x54]

/-- The same part, which refuses to tell its product id and leaves another in the buffer. -/
def secretive : Chip := { codeless with refusedReads := [1], scribble := some 0x01 }

def behindDrivers (chip : Chip) : SimulatedBoard := ⟨{ controller := .absent }, { chip := chip }⟩

def furnished : Binding where
  read := .driver 3
  write := .driver 4
  slowRead := some (.driver 5)
  verifiedWrite := some (.verifying 6)
  reset := some 7
  gyroRegister := 0x33

/-- A part that agrees with them in the low nibble of the product id and in hardly anything else. -/
def blank : Chip := ({} : Chip).load 0x0C [0xA4]

theorem codeless_is_classified_by_nibble :
    let done := furnished.resolutionClass.run (behindDrivers codeless)
    let other := (Binding.primary 0x43).resolutionClass.run (onPrimary blank)
    let secret := furnished.resolutionClass.run (behindDrivers secretive)
    Event.AllAnswered (.driver 3) done.events ∧ Event.AllAnswered .primary other.events ∧
      done.value = .ok .half ∧ done.value = other.value ∧
      Event.EndsRefused (.driver 3) secret.events ∧ secret.value = .error .noAck := by
  intro done other secret
  have answered : Event.AllAnswered (.driver 3) done.events :=
    List.forall_mem_cons.mpr ⟨⟨_, _, rfl⟩, List.forall_mem_singleton.mpr ⟨_, _, rfl⟩⟩
  have otherAnswered : Event.AllAnswered .primary other.events :=
    List.forall_mem_cons.mpr ⟨⟨_, _, rfl⟩, List.forall_mem_singleton.mpr ⟨_, _, rfl⟩⟩
  have refused : Event.EndsRefused (.driver 3) secret.events := ⟨_, rfl, _, _, rfl⟩
  obtain ⟨_, _, _, _, _, _, listed, alike, _⟩ :=
    Binding.resolutionClass_goes_by_revision furnished (behindDrivers codeless)
  obtain ⟨_, _, _, cutOff, _⟩ :=
    Binding.resolutionClass_goes_by_revision furnished (behindDrivers secretive)
  have half : done.value = .ok .half := listed answered
  have same : done.value = other.value :=
    alike (.primary 0x43) (onPrimary blank) answered otherAnswered (by decide) (by decide)
  exact ⟨answered, otherAnswered, half, same, refused, cutOff.mpr refused⟩

end Simulator

end Imu
