import Imu.Proofs.LostAnswer

/-!
What of a chip identification can depend on. Two searches of chips whose registers agree on the few
bits that tell families and revisions apart make the same reads and find the same, as long as the
same reads are refused to both. Nothing else reaches them: no other register or bit, no driver, and
not what a refused read left behind.
-/

namespace Imu

/-- The registers agree on all that tells one supported chip from another. -/
structure AgreeOnEvidence (first second : UInt8 → UInt8) : Prop where
  identity : first 0x75 &&& 0x7E = second 0x75 &&& 0x7E
  legacyIdentity : first 0x00 &&& 0x7E = second 0x00 &&& 0x7E
  xOffset : first 0x07 &&& 1 = second 0x07 &&& 1
  yOffset : first 0x09 &&& 1 = second 0x09 &&& 1
  zOffset : first 0x0B &&& 1 = second 0x0B &&& 1
  revision : first 0x0C &&& 0x0F = second 0x0C &&& 0x0F

/-- The primary transport of the bus reads these registers, and whether it acknowledges a read is
scheduled: it depends on how many reads were served before and on the register. What a refused read
leaves in the buffer is left open. -/
structure ScheduledFile {β : Type} [Bus β] (registers : UInt8 → UInt8)
    (schedule : Nat → UInt8 → Bool) (served : Nat → β → Prop) : Prop where
  counts : ∀ {size number : Nat} (register : UInt8) (buffer : Vector UInt8 size) {bus : β},
    served number bus → served (number + 1) (PrimaryTransport.readRegisters register buffer bus).2
  acknowledges : ∀ {size number : Nat} (register : UInt8) (buffer : Vector UInt8 size) {bus : β},
    served number bus →
      (PrimaryTransport.readRegisters register buffer bus).1.ack = schedule number register
  delivers : ∀ {size number : Nat} (register : UInt8) (buffer : Vector UInt8 size) {bus : β},
    served number bus → schedule number register = true →
      (PrimaryTransport.readRegisters register buffer bus).1.buffer =
        contents registers register size

/-- The answer of such a chip to a read, if it is told at all. -/
def heard (told : Bool) (registers : UInt8 → UInt8) (register : UInt8) (size : Nat) :
    Option (Vector UInt8 size) :=
  if told then some (contents registers register size) else none

namespace ScheduledFile

variable {β : Type} [Bus β] {registers : UInt8 → UInt8} {schedule : Nat → UInt8 → Bool}
  {served : Nat → β → Prop} {number : Nat} {bus : β}

theorem ask_counts (file : ScheduledFile registers schedule served) (size : Nat)
    (register : UInt8) (ready : served number bus) :
    served (number + 1) (Event.ask size .primary register bus).2 :=
  file.counts register _ ready

theorem ask_ack (file : ScheduledFile registers schedule served) (size : Nat) (register : UInt8)
    (ready : served number bus) :
    (Event.ask size .primary register bus).1.ack = schedule number register :=
  file.acknowledges register _ ready

theorem answer (file : ScheduledFile registers schedule served) (size : Nat) (register : UInt8)
    (ready : served number bus) :
    (Event.ask size .primary register bus).1.answer =
      heard (schedule number register) registers register size := by
  have ack := file.ask_ack size register ready
  cases scheduled : schedule number register with
  | false => exact ReadReply.answer_of_refusal (ack.trans scheduled)
  | true =>
    rw [ReadReply.answer_of_ack (ack.trans scheduled)]
    exact congrArg some (file.delivers register _ ready scheduled)

theorem byte (file : ScheduledFile registers schedule served) {register : UInt8}
    (ready : served number bus) (scheduled : schedule number register = true) :
    (Event.ask 1 .primary register bus).1.byte = registers register := by
  have told := file.delivers register (Vector.replicate 1 0) ready scheduled
  change onlyByte (PrimaryTransport.readRegisters register _ bus).1.buffer = _
  rw [told, onlyByte_contents]

end ScheduledFile

namespace AgreeOnEvidence

variable {first second : UInt8 → UInt8}

theorem masked (agree : AgreeOnEvidence first second) :
    Identity.masked (first Register.whoAmI) = Identity.masked (second Register.whoAmI) :=
  agree.identity

theorem namesLegacy (agree : AgreeOnEvidence first second) (told : Bool) :
    Finding.namesLegacy (heard told first Register.legacyWhoAmI 1) =
      Finding.namesLegacy (heard told second Register.legacyWhoAmI 1) := by
  cases told with
  | false => rfl
  | true =>
    change Finding.namesLegacy (some (contents first _ 1)) =
      Finding.namesLegacy (some (contents second _ 1))
    rw [Bool.eq_iff_iff, Finding.namesLegacy_contents, Finding.namesLegacy_contents,
      agree.legacyIdentity]

theorem code (agree : AgreeOnEvidence first second) :
    OffsetCode.ofBurst (Burst.ofBuffer (contents first Register.accelOffsets 6)) =
      OffsetCode.ofBurst (Burst.ofBuffer (contents second Register.accelOffsets 6)) := by
  -- Three bytes of the six are looked at, and those are where the registers agree in a bit.
  have low (registers : UInt8 → UInt8) :
      (Burst.ofBuffer (contents registers Register.accelOffsets 6)).xLow = registers 0x07 ∧
        (Burst.ofBuffer (contents registers Register.accelOffsets 6)).yLow = registers 0x09 ∧
        (Burst.ofBuffer (contents registers Register.accelOffsets 6)).zLow = registers 0x0B :=
    ⟨Vector.getElem_ofFn _, Vector.getElem_ofFn _, Vector.getElem_ofFn _⟩
  obtain ⟨firstX, firstY, firstZ⟩ := low first
  obtain ⟨secondX, secondY, secondZ⟩ := low second
  simp only [OffsetCode.ofBurst, OffsetCode.lowBit, firstX, firstY, firstZ, secondX, secondY,
    secondZ, agree.xOffset, agree.yOffset, agree.zOffset]

theorem early (agree : AgreeOnEvidence first second) (told : Bool) :
    Resolution.early (heard told first Register.accelOffsets 6) =
      Resolution.early (heard told second Register.accelOffsets 6) := by
  cases told with
  | false => rfl
  | true =>
    change decide (OffsetCode.value _ = 0) = decide (OffsetCode.value _ = 0)
    rw [agree.code]

theorem ofProduct (agree : AgreeOnEvidence first second) (told : Bool) :
    Resolution.ofProduct (heard told first Register.productId 1) =
      Resolution.ofProduct (heard told second Register.productId 1) := by
  cases told with
  | false => rfl
  | true =>
    have same : (ProductId.mk (first Register.productId)).revision =
        (ProductId.mk (second Register.productId)).revision := agree.revision
    change (ProductId.mk (onlyByte (contents first _ 1))).resolution =
      (ProductId.mk (onlyByte (contents second _ 1))).resolution
    rw [onlyByte_contents, onlyByte_contents, ProductId.resolution, ProductId.resolution, same]

theorem resolution (agree : AgreeOnEvidence first second) (offsetsTold productTold : Bool) :
    Resolution.ofAnswers (heard offsetsTold first Register.accelOffsets 6)
        (heard productTold first Register.productId 1) =
      Resolution.ofAnswers (heard offsetsTold second Register.accelOffsets 6)
        (heard productTold second Register.productId 1) := by
  cases offsetsTold with
  | false => rfl
  | true =>
    change (if Resolution.early (heard true first _ 6) then _ else OffsetCode.resolution _) =
      if Resolution.early (heard true second _ 6) then _ else OffsetCode.resolution _
    rw [agree.early, agree.ofProduct, agree.code]

theorem finding (agree : AgreeOnEvidence first second)
    (legacyTold offsetsTold productTold : Bool) :
    Finding.ofAnswers (first Register.whoAmI) (heard legacyTold first Register.legacyWhoAmI 1)
        (heard offsetsTold first Register.accelOffsets 6)
        (heard productTold first Register.productId 1) =
      Finding.ofAnswers (second Register.whoAmI) (heard legacyTold second Register.legacyWhoAmI 1)
        (heard offsetsTold second Register.accelOffsets 6)
        (heard productTold second Register.productId 1) := by
  rw [Finding.ofAnswers, Finding.ofAnswers, agree.masked, agree.namesLegacy, agree.resolution]

end AgreeOnEvidence

namespace Event

def readRequest : Event → Option (ReadRoutine × UInt8 × Nat)
  | .access (.read via register buffer _) => some (via, register, buffer.length)
  | _ => none

def readRequests (events : List Event) : List (ReadRoutine × UInt8 × Nat) :=
  events.filterMap readRequest

theorem readRequests_ofRead_cons {size : Nat} (via : ReadRoutine) (register : UInt8)
    (reply : ReadReply size) (events : List Event) :
    readRequests (.ofRead via register reply :: events) =
      (via, register, size) :: readRequests events := by
  have asked : readRequest (.ofRead via register reply) = some (via, register, size) := by
    rw [ofRead, readRequest, Vector.length_toList]
  rw [readRequests, List.filterMap_cons_some asked]
  rfl

end Event

namespace Finding

/-- What a search asks of a primary transport that answers its identity. -/
def requested (whoAmI : UInt8) (legacyId : Option (Vector UInt8 1))
    (offsets : Option (Vector UInt8 6)) : List (ReadRoutine × UInt8 × Nat) :=
  (.primary, Register.whoAmI, 1) :: (.primary, Register.legacyWhoAmI, 1) ::
    if namesLegacy legacyId then []
    else if Identity.masked whoAmI = Identity.mpuX0x0 then
      (.primary, Register.accelOffsets, 6) ::
        if Resolution.early offsets then [(.primary, Register.productId, 1)] else []
    else []

variable {β : Type} [Bus β]

theorem readRequests_revisionReads (whoAmI : UInt8) (bus : β) :
    Event.readRequests (revisionReads whoAmI bus) =
      if Identity.masked whoAmI = Identity.mpuX0x0 then
        (.primary, Register.accelOffsets, 6) ::
          if Resolution.early (Event.ask 6 .primary Register.accelOffsets bus).1.answer then
            [(.primary, Register.productId, 1)] else []
      else [] := by
  rw [revisionReads_eq]
  split
  · rw [Event.readRequests_ofRead_cons]
    split
    · exact congrArg _ (Event.readRequests_ofRead_cons _ _ _ [])
    · rfl
  · rfl

theorem readRequests_search (settleDelay : UInt32) (candidates : CandidateList) {bus : β}
    (answered : (Event.ask 1 .primary Register.whoAmI bus).1.ack = true) :
    let whoAmI := Event.ask 1 .primary Register.whoAmI bus
    let legacyId := Event.ask 1 .primary Register.legacyWhoAmI whoAmI.2
    let offsets := Event.ask 6 .primary Register.accelOffsets legacyId.2
    Event.readRequests ((search settleDelay candidates).run bus).events =
      requested whoAmI.1.byte legacyId.1.answer offsets.1.answer := by
  intro whoAmI legacyId offsets
  obtain ⟨_, events, _⟩ := onPrimary_run whoAmI.1.byte whoAmI.2
  rw [search_run_of_answered settleDelay candidates answered]
  change Event.readRequests (.ofRead .primary _ whoAmI.1 :: _) = _
  rw [Event.readRequests_ofRead_cons, events, Event.readRequests_ofRead_cons, requested]
  split
  · rfl
  · rw [readRequests_revisionReads]

theorem search_of_scheduled {registers : UInt8 → UInt8} {schedule : Nat → UInt8 → Bool}
    {served : Nat → β → Prop} (file : ScheduledFile registers schedule served) {number : Nat}
    {bus : β} (ready : served number bus) (answered : schedule number Register.whoAmI = true)
    (settleDelay : UInt32) (candidates : CandidateList) :
    let legacyId := heard (schedule (number + 1) Register.legacyWhoAmI) registers
      Register.legacyWhoAmI 1
    let offsets := heard (schedule (number + 2) Register.accelOffsets) registers
      Register.accelOffsets 6
    let product := heard (schedule (number + 3) Register.productId) registers Register.productId 1
    let done := (search settleDelay candidates).run bus
    done.value = ofAnswers (registers Register.whoAmI) legacyId offsets product ∧
      Event.readRequests done.events =
        requested (registers Register.whoAmI) legacyId offsets := by
  intro legacyId offsets product done
  have ack : (Event.ask 1 .primary Register.whoAmI bus).1.ack = true :=
    (file.ask_ack 1 Register.whoAmI ready).trans answered
  have afterWhoAmI := file.ask_counts 1 Register.whoAmI ready
  have afterLegacyId := file.ask_counts 1 Register.legacyWhoAmI afterWhoAmI
  have afterOffsets := file.ask_counts 6 Register.accelOffsets afterLegacyId
  obtain ⟨value, _⟩ := search_of_answered settleDelay candidates ack
  have requests := readRequests_search settleDelay candidates ack
  dsimp only at requests
  rw [file.byte ready answered, file.answer 1 _ afterWhoAmI, file.answer 6 _ afterLegacyId]
    at value requests
  rw [file.answer 1 _ afterOffsets] at value
  exact ⟨value, requests⟩

theorem requested_congr {registers others : UInt8 → UInt8}
    (agree : AgreeOnEvidence registers others) (legacyTold offsetsTold : Bool) :
    requested (registers Register.whoAmI) (heard legacyTold registers Register.legacyWhoAmI 1)
        (heard offsetsTold registers Register.accelOffsets 6) =
      requested (others Register.whoAmI) (heard legacyTold others Register.legacyWhoAmI 1)
        (heard offsetsTold others Register.accelOffsets 6) := by
  rw [requested, requested, agree.masked, agree.namesLegacy, agree.early]

/-- Searches of two chips that agree on the evidence and refuse the same reads find the same. -/
theorem search_depends_on_evidence {δ : Type} [Bus δ] {registers others : UInt8 → UInt8}
    {schedule : Nat → UInt8 → Bool} {served : Nat → β → Prop} {otherServed : Nat → δ → Prop}
    (file : ScheduledFile registers schedule served)
    (otherFile : ScheduledFile others schedule otherServed)
    (agree : AgreeOnEvidence registers others) (number : Nat)
    (answered : schedule number 0x75 = true) (bus : β) (ready : served number bus) (otherBus : δ)
    (otherReady : otherServed number otherBus) (settleDelay otherDelay : UInt32)
    (candidates otherCandidates : CandidateList) :
    let done := (search settleDelay candidates).run bus
    let otherDone := (search otherDelay otherCandidates).run otherBus
    done.value = otherDone.value ∧
      Event.readRequests done.events = Event.readRequests otherDone.events := by
  intro done otherDone
  obtain ⟨value, requests⟩ := search_of_scheduled file ready answered settleDelay candidates
  obtain ⟨otherValue, otherRequests⟩ :=
    search_of_scheduled otherFile otherReady answered otherDelay otherCandidates
  rw [value, requests, otherValue, otherRequests]
  exact ⟨agree.finding _ _ _, requested_congr agree _ _⟩

end Finding

namespace Simulator

/-- Whether a chip answers a read, by how many reads it counted before. -/
def Chip.schedule (chip : Chip) (number : Nat) (register : UInt8) : Bool :=
  { chip with reads := number }.answersRead register

theorem scheduledFile (chip : Chip) :
    ScheduledFile chip.registers chip.schedule fun number (board : SimulatedBoard) =>
      board.primary = ⟨{ chip with reads := number }, chip.address⟩ := by
  have read {size number : Nat} (register : UInt8) (buffer : Vector UInt8 size)
      {board : SimulatedBoard}
      (ready : board.primary = ⟨{ chip with reads := number }, chip.address⟩) :
      PrimaryTransport.readRegisters register buffer board =
        (if chip.schedule number register then ⟨true, chip.burst register size⟩
          else ⟨false, chip.spoil buffer⟩,
          { board with primary := ⟨{ chip with reads := number + 1 }, chip.address⟩ }) := by
    simp only [PrimaryTransport.readRegisters, I2c.writeRead, Chip.read, ready, beq_self_eq_true,
      Bool.true_and]
    rfl
  constructor
  · intro size number register buffer board ready
    rw [read register buffer ready]
  · intro size number register buffer board ready
    rw [read register buffer ready]
    cases chip.schedule number register <;> rfl
  · intro size number register buffer board ready scheduled
    rw [read register buffer ready, scheduled]
    rfl

theorem Chip.schedule_with (chip : Chip) (registers : UInt8 → UInt8) (scribble : Option UInt8) :
    { chip with registers := registers, scribble := scribble }.schedule = chip.schedule := rfl

/-- An early part that does not acknowledge its second read. -/
def plain : Chip := (({ refusedReads := [1] } : Chip).load 0x75 [0x68]).load 0x0C [0x54]

/-- A part with the same evidence and the same fault, which differs in all else. -/
def noisy : Chip :=
  { plain with
    scribble := some 0x68
    registers := ((plain.load 0x75 [0xE9]).load 0x00
      [0x81, 0xFF, 0xFF, 0xFF, 0xFF, 0xFF, 0xFF, 0x54, 0xAB, 0xFE, 0xCD, 0x80, 0xA4]).registers }

/-- A board whose driver would claim the chip, were it asked. -/
def noisyBoard : SimulatedBoard := ⟨{ controller := noisy }, { claims := [0] }⟩

def eager : CandidateList := ⟨[⟨.icm20608Spi, 0, .primary 0x33⟩], by decide⟩

theorem noisy_is_found_alike :
    AgreeOnEvidence plain.registers noisy.registers ∧
      ((Finding.search 35 .empty).run (onPrimary plain)).value =
        ((Finding.search 35 eager).run noisyBoard).value ∧
      ((Finding.search 35 eager).run noisyBoard).value =
        .ok (Finding.modern ⟨.mpu60x0, some .half⟩) := by
  have agree : AgreeOnEvidence plain.registers noisy.registers := by
    constructor <;> decide
  have schedule : noisy.schedule = plain.schedule := Chip.schedule_with plain _ _
  have file := scheduledFile noisy
  rw [schedule] at file
  obtain ⟨same, _⟩ := Finding.search_depends_on_evidence (scheduledFile plain) file agree 0 rfl
    (onPrimary plain) rfl noisyBoard rfl 35 35 .empty eager
  exact ⟨agree, same, same.symm⟩

end Simulator

end Imu
