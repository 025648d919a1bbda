import Imu.Proofs.Search
import Imu.Proofs.Unit
import Imu.Simulator.Callback

/-!
Identification of one chip with and without reads that it refuses. A missing answer of the
revision registers ends the attempt, which can then be repeated. A missing answer of the legacy
identity does not: it is taken for the answer of a newer chip, and what the rest of the search
makes of that stays.
-/

namespace Imu

def contents (registers : UInt8 → UInt8) (register : UInt8) (size : Nat) : Vector UInt8 size :=
  Vector.ofFn fun offset => registers (register + UInt8.ofNat offset)

theorem onlyByte_contents (registers : UInt8 → UInt8) (register : UInt8) :
    onlyByte (contents registers register 1) = registers register := by
  calc
    onlyByte (contents registers register 1) = registers (register + UInt8.ofNat 0) :=
      Vector.getElem_ofFn Nat.one_pos
    _ = registers register := congrArg registers (UInt8.add_zero register)

/-- As long as the bus is `serving`, the primary transport reads these registers. Which reads it
acknowledges is left open, and so is what a refused one leaves behind. -/
structure RegisterFile {β : Type} [Bus β] (registers : UInt8 → UInt8) (serving : β → Prop) :
    Prop where
  steady : ∀ {size : Nat} (register : UInt8) (buffer : Vector UInt8 size) {bus : β},
    serving bus → serving (PrimaryTransport.readRegisters register buffer bus).2
  delivers : ∀ {size : Nat} (register : UInt8) (buffer : Vector UInt8 size) {bus : β},
    serving bus → (PrimaryTransport.readRegisters register buffer bus).1.ack = true →
      (PrimaryTransport.readRegisters register buffer bus).1.buffer =
        contents registers register size

namespace RegisterFile

variable {β : Type} [Bus β] {registers : UInt8 → UInt8} {serving : β → Prop}

theorem ask_steady (file : RegisterFile registers serving) (size : Nat) (register : UInt8)
    {bus : β} (serves : serving bus) : serving (Event.ask size .primary register bus).2 :=
  file.steady register _ serves

theorem answer (file : RegisterFile registers serving) (size : Nat) (register : UInt8)
    {bus : β} (serves : serving bus) :
    (Event.ask size .primary register bus).1.answer = none ∨
      (Event.ask size .primary register bus).1.answer =
        some (contents registers register size) := by
  cases ack : (Event.ask size .primary register bus).1.ack with
  | false => exact .inl (ReadReply.answer_of_refusal ack)
  | true =>
    right
    rw [ReadReply.answer_of_ack ack]
    exact congrArg some (file.delivers register _ serves ack)

end RegisterFile

namespace Event

/-- The register of a read that the primary transport refused. -/
def refusal : Event → Option UInt8
  | .access (.read .primary register _ false) => some register
  | _ => none

def refusals (events : List Event) : List UInt8 := events.filterMap refusal

def isReport : Event → Bool
  | .report _ _ => true
  | _ => false

def reports (events : List Event) : List Event := events.filter isReport

def unanswered {α : Type} (register : UInt8) (answer : Option α) : List UInt8 :=
  if answer.isNone then [register] else []

theorem refusals_ofRead_cons {size : Nat} (register : UInt8) (reply : ReadReply size)
    (events : List Event) :
    refusals (.ofRead .primary register reply :: events) =
      unanswered register reply.answer ++ refusals events := by
  rcases reply with ⟨_ | _, buffer⟩ <;> rfl

theorem reports_append (first second : List Event) :
    reports (first ++ second) = reports first ++ reports second := List.filter_append ..

theorem refusals_append (first second : List Event) :
    refusals (first ++ second) = refusals first ++ refusals second := List.filterMap_append

end Event

namespace Gyro

theorem reports_alarms (handler : Nat) (outcome : Except Failure Finding) :
    Event.reports (alarms handler outcome) = alarms handler outcome := by
  rcases outcome with (_ | _ | _ | _) | _ <;> rfl

theorem refusals_alarms (handler : Nat) (outcome : Except Failure Finding) :
    Event.refusals (alarms handler outcome) = [] := by
  rcases outcome with (_ | _ | _ | _) | _ <;> rfl

end Gyro

namespace Finding

/-- The registers that were asked for in vain, in the order in which they were asked. -/
def missing (whoAmI : UInt8) (legacyId : Option (Vector UInt8 1))
    (offsets : Option (Vector UInt8 6)) (product : Option (Vector UInt8 1)) : List UInt8 :=
  Event.unanswered Register.legacyWhoAmI legacyId ++
    if namesLegacy legacyId then []
    else if Identity.masked whoAmI = Identity.mpuX0x0 then
      Event.unanswered Register.accelOffsets offsets ++
        if Resolution.early offsets then Event.unanswered Register.productId product else []
    else []

def ofRegisters (registers : UInt8 → UInt8) : Except Failure Finding :=
  ofAnswers (registers Register.whoAmI) (some (contents registers Register.legacyWhoAmI 1))
    (some (contents registers Register.accelOffsets 6))
    (some (contents registers Register.productId 1))

section

variable {whoAmI : UInt8} {legacyId : Option (Vector UInt8 1)} {offsets : Option (Vector UInt8 6)}
  {product : Option (Vector UInt8 1)} {legacyByte : Vector UInt8 1} {burst : Vector UInt8 6}
  {productByte : Vector UInt8 1}

theorem ofAnswers_of_answered (offsetsHeld : offsets = none ∨ offsets = some burst)
    (productHeld : product = none ∨ product = some productByte)
    (finished : ofAnswers whoAmI legacyId offsets product ≠ .error .noAck) :
    ofAnswers whoAmI legacyId offsets product =
      ofAnswers whoAmI legacyId (some burst) (some productByte) := by
  have answered := mt ofAnswers_noAck.mpr finished
  cases old : namesLegacy legacyId with
  | true => simp [ofAnswers, old]
  | false =>
    by_cases classified : Identity.masked whoAmI = Identity.mpuX0x0
    · have told : ¬(offsets = none ∨ Resolution.early offsets = true ∧ product = none) :=
        fun lost => answered ⟨old, classified, lost⟩
      rcases offsetsHeld with lost | rfl
      · exact absurd (.inl lost) told
      · rcases productHeld with lost | rfl
        -- The product id is missing and was not asked for, since the offsets spell a code.
        · have late : ¬Resolution.early (some burst) = true :=
            fun early => told (.inr ⟨early, lost⟩)
          simp [ofAnswers, old, classified, Resolution.ofAnswers, late]
        · rfl
    · rw [ofAnswers, ofAnswers, if_neg classified]
      simp only [old, if_neg classified]

theorem missing_eq_iff :
    missing whoAmI legacyId offsets product = Event.unanswered Register.legacyWhoAmI legacyId ↔
      ofAnswers whoAmI legacyId offsets product ≠ .error .noAck := by
  rw [Ne, ofAnswers_noAck, missing]
  cases old : namesLegacy legacyId with
  | true => simp
  | false =>
    by_cases classified : Identity.masked whoAmI = Identity.mpuX0x0
    · simp only [if_pos classified]
      cases offsets with
      | none => simp [classified, Event.unanswered]
      | some burst =>
        cases early : Resolution.early (some burst) <;> cases product <;>
          simp [classified, Event.unanswered]
    · simp [classified]

theorem family_of_newer (newer : namesLegacy legacyId = false) {found : Finding}
    (succeeded : ofAnswers whoAmI legacyId offsets product = .ok found) :
    found.identification.family ≠ .mpu3050 := by
  rw [ofAnswers, if_neg (by simp [newer])] at succeeded
  split at succeeded
  · cases told : Resolution.ofAnswers offsets product <;> rw [told] at succeeded <;>
      cases succeeded
    simp [modern]
  · split at succeeded <;> cases succeeded <;> simp [modern, Identification.undetected]

theorem ofAnswers_of_newer (newer : namesLegacy legacyId = false) :
    ofAnswers whoAmI legacyId offsets product = ofAnswers whoAmI none offsets product := by
  have silent : ¬namesLegacy none = true := Bool.false_ne_true
  rw [ofAnswers, ofAnswers, if_neg (by simp [newer]), if_neg silent]

/-- The outcome is the right one or cut off, unless the legacy identity is all that is missing
and would have named the oldest family. -/
theorem ofAnswers_iff (legacyHeld : legacyId = none ∨ legacyId = some legacyByte)
    (offsetsHeld : offsets = none ∨ offsets = some burst)
    (productHeld : product = none ∨ product = some productByte) :
    (ofAnswers whoAmI legacyId offsets product = .error .noAck ∨
      ofAnswers whoAmI legacyId offsets product =
        ofAnswers whoAmI (some legacyByte) (some burst) (some productByte)) ↔
    ¬(namesLegacy (some legacyByte) = true ∧
      missing whoAmI legacyId offsets product = [Register.legacyWhoAmI]) := by
  by_cases finished : ofAnswers whoAmI legacyId offsets product = .error .noAck
  · have more := mt missing_eq_iff.mp (not_not_intro finished)
    have newer := (ofAnswers_noAck.mp finished).1
    refine iff_of_true (.inl finished) ?_
    intro ⟨old, only⟩
    rcases legacyHeld with rfl | rfl
    · exact more only
    · rw [newer] at old
      cases old
  · have only := missing_eq_iff.mpr finished
    have told := ofAnswers_of_answered offsetsHeld productHeld finished
    rcases legacyHeld with rfl | rfl
    -- Nothing else is missing, so the outcome is that of a chip that is not of the oldest family.
    · have silent : missing whoAmI none offsets product = [Register.legacyWhoAmI] := only
      cases old : namesLegacy (some legacyByte) with
      | true =>
        have right :
            ofAnswers whoAmI (some legacyByte) (some burst) (some productByte) = .ok legacy :=
          if_pos old
        have wrong : ofAnswers whoAmI none offsets product ≠ .ok legacy :=
          fun named => family_of_newer rfl named rfl
        simp [finished, silent, right, wrong]
      | false =>
        have right := told.trans (ofAnswers_of_newer old).symm
        simp [right]
    · have complete : missing whoAmI (some legacyByte) offsets product = [] := only
      simp [told, complete]

theorem ofAnswers_of_complete (legacyHeld : legacyId = none ∨ legacyId = some legacyByte)
    (offsetsHeld : offsets = none ∨ offsets = some burst)
    (productHeld : product = none ∨ product = some productByte)
    (complete : missing whoAmI legacyId offsets product = []) :
    ofAnswers whoAmI legacyId offsets product =
      ofAnswers whoAmI (some legacyByte) (some burst) (some productByte) := by
  rcases legacyHeld with rfl | rfl
  · cases complete
  · exact ofAnswers_of_answered offsetsHeld productHeld (missing_eq_iff.mp complete)

end

variable {β : Type} [Bus β]

theorem refusals_revisionReads (whoAmI : UInt8) (bus : β) :
    let offsets := Event.ask 6 .primary Register.accelOffsets bus
    let product := Event.ask 1 .primary Register.productId offsets.2
    Event.refusals (revisionReads whoAmI bus) =
      if Identity.masked whoAmI = Identity.mpuX0x0 then
        Event.unanswered Register.accelOffsets offsets.1.answer ++
          if Resolution.early offsets.1.answer then
            Event.unanswered Register.productId product.1.answer else []
      else [] := by
  intro offsets product
  rw [revisionReads_eq]
  split
  · rw [Event.refusals_ofRead_cons]
    split
    · exact congrArg _ ((Event.refusals_ofRead_cons _ product.1 []).trans (List.append_nil _))
    · rfl
  · rfl

theorem reports_ofRead_cons {size : Nat} (via : ReadRoutine) (register : UInt8)
    (reply : ReadReply size) (events : List Event) :
    Event.reports (.ofRead via register reply :: events) = Event.reports events := rfl

theorem reports_revisionReads (whoAmI : UInt8) (bus : β) :
    Event.reports (revisionReads whoAmI bus) = [] := by
  rw [revisionReads_eq]
  split
  · rw [reports_ofRead_cons]
    split <;> rfl
  · rfl

theorem search_of_answered (settleDelay : UInt32) (candidates : CandidateList) {bus : β}
    (answered : (Event.ask 1 .primary Register.whoAmI bus).1.ack = true) :
    let whoAmI := Event.ask 1 .primary Register.whoAmI bus
    let legacyId := Event.ask 1 .primary Register.legacyWhoAmI whoAmI.2
    let offsets := Event.ask 6 .primary Register.accelOffsets legacyId.2
    let product := Event.ask 1 .primary Register.productId offsets.2
    let done := (search settleDelay candidates).run bus
    done.value =
        ofAnswers whoAmI.1.byte legacyId.1.answer offsets.1.answer product.1.answer ∧
      Event.refusals done.events =
        missing whoAmI.1.byte legacyId.1.answer offsets.1.answer product.1.answer ∧
      Event.reports done.events = [] := by
  intro whoAmI legacyId offsets product done
  obtain ⟨value, events, _⟩ := onPrimary_run whoAmI.1.byte whoAmI.2
  have run : done = _ := search_run_of_answered settleDelay candidates answered
  rw [run]
  refine ⟨value, ?_, ?_⟩
  · change Event.refusals (.ofRead .primary _ whoAmI.1 :: _) = _
    rw [Event.refusals_ofRead_cons, events, Event.refusals_ofRead_cons, missing,
      ReadReply.answer_of_ack answered]
    refine congrArg (Event.unanswered Register.legacyWhoAmI legacyId.1.answer ++ ·) ?_
    split
    · rfl
    · exact refusals_revisionReads ..
  · change Event.reports (.ofRead .primary Register.whoAmI whoAmI.1 :: _) = _
    rw [reports_ofRead_cons, events, reports_ofRead_cons]
    split
    · rfl
    · exact reports_revisionReads ..

theorem namesLegacy_contents (registers : UInt8 → UInt8) :
    namesLegacy (some (contents registers Register.legacyWhoAmI 1)) = true ↔
      registers 0x00 &&& 0x7E = 0x68 := by
  have held := onlyByte_contents registers Register.legacyWhoAmI
  change decide (Identity.masked (onlyByte _) = _) = true ↔ _
  rw [held, decide_eq_true_iff]
  exact Iff.rfl

theorem answered_of_refusals {settleDelay : UInt32} {candidates : CandidateList} {bus : β}
    (unrefused :
      Register.whoAmI ∉ Event.refusals ((search settleDelay candidates).run bus).events) :
    (Event.ask 1 .primary Register.whoAmI bus).1.ack = true := by
  cases ack : (Event.ask 1 .primary Register.whoAmI bus).1.ack with
  | true => rfl
  | false =>
    exfalso
    apply unrefused
    rw [search_run]
    change _ ∈ Event.refusals (.ofRead .primary _ (Event.ask 1 .primary Register.whoAmI bus).1 :: _)
    rw [Event.refusals_ofRead_cons, ReadReply.answer_of_refusal ack]
    exact List.mem_append_left _ (List.mem_singleton_self _)

section

variable {registers : UInt8 → UInt8} {serving : β → Prop}

theorem whoAmI_byte (file : RegisterFile registers serving) {bus : β} (serves : serving bus)
    (answered : (Event.ask 1 .primary Register.whoAmI bus).1.ack = true) :
    (Event.ask 1 .primary Register.whoAmI bus).1.byte = registers Register.whoAmI := by
  have told := file.delivers Register.whoAmI (Vector.replicate 1 0) serves answered
  change onlyByte (PrimaryTransport.readRegisters Register.whoAmI _ bus).1.buffer = _
  rw [told, onlyByte_contents]

/-- How far the outcome of a search can be trusted, by which answers were missing. -/
theorem search_of_registerFile (file : RegisterFile registers serving) {bus : β}
    (serves : serving bus) (settleDelay : UInt32) (candidates : CandidateList)
    (answered : (Event.ask 1 .primary Register.whoAmI bus).1.ack = true) :
    let done := (search settleDelay candidates).run bus
    let legacyLost := registers 0x00 &&& 0x7E = 0x68 ∧ Event.refusals done.events = [0x00]
    (done.value = .error .noAck ∨ done.value = ofRegisters registers ↔ ¬legacyLost) ∧
      (Event.refusals done.events = [] → done.value = ofRegisters registers) ∧
      (legacyLost → ofRegisters registers = .ok legacy ∧ done.value ≠ .error .noAck ∧
        ∀ found, done.value = .ok found → found.identification.family ≠ .mpu3050) := by
  intro done legacyLost
  obtain ⟨value, refusals, _⟩ := search_of_answered settleDelay candidates answered
  have afterWhoAmI := file.ask_steady 1 Register.whoAmI serves
  have afterLegacyId := file.ask_steady 1 Register.legacyWhoAmI afterWhoAmI
  have afterOffsets := file.ask_steady 6 Register.accelOffsets afterLegacyId
  have legacyHeld := file.answer 1 Register.legacyWhoAmI afterWhoAmI
  have offsetsHeld := file.answer 6 Register.accelOffsets afterLegacyId
  have productHeld := file.answer 1 Register.productId afterOffsets
  rw [whoAmI_byte file serves answered] at value refusals
  have lost : legacyLost ↔ _ ∧ _ :=
    and_congr (namesLegacy_contents registers).symm (by rw [refusals])
  have right : done.value = .error .noAck ∨ done.value = ofRegisters registers ↔ ¬legacyLost := by
    rw [lost, value]
    exact ofAnswers_iff legacyHeld offsetsHeld productHeld
  refine ⟨right, fun complete => ?_, fun legacyIsLost => ?_⟩
  · rw [value]
    exact ofAnswers_of_complete legacyHeld offsetsHeld productHeld (refusals.symm.trans complete)
  · have finished : done.value ≠ .error .noAck := fun cutOff => right.mp (.inl cutOff) legacyIsLost
    have held : ofRegisters registers = .ok legacy :=
      if_pos ((namesLegacy_contents registers).mpr legacyIsLost.1)
    refine ⟨held, finished, fun found succeeded => ?_⟩
    rw [value] at finished succeeded
    rcases legacyHeld with silent | told
    · exact family_of_newer (by rw [silent]; rfl) succeeded
    -- Had the legacy identity been told, it could not be among what is missing.
    · have only := missing_eq_iff.mpr finished
      rw [← refusals, legacyIsLost.2, told] at only
      cases only

end

end Finding

namespace Gyro

theorem settled_inj (gyro : Gyro) (first second : Except Failure Finding) :
    ((first.map fun found => found.identification.family,
        { gyro with standing := Standing.ofOutcome first }) : Except Failure Family × Gyro) =
      (second.map fun found => found.identification.family,
        { gyro with standing := Standing.ofOutcome second }) ↔ first = second := by
  constructor
  · intro same
    have families := congrArg Prod.fst same
    have standings := congrArg (fun pair => pair.2.standing) same
    cases first with
    | error failure =>
      cases second with
      | error other => simpa [Except.map] using families
      | ok found => cases families
    | ok found =>
      cases second with
      | error other => cases families
      | ok other => simpa [Standing.ofOutcome] using standings
  · intro same
    rw [same]

theorem interrupted_iff {gyro : Gyro} (undetected : gyro.detected = false)
    {outcome : Except Failure Finding} :
    ((outcome.map fun found => found.identification.family,
        { gyro with standing := Standing.ofOutcome outcome }) : Except Failure Family × Gyro) =
      (.error .noAck, gyro) ↔ outcome = .error .noAck := by
  have kept : { gyro with standing := Standing.ofOutcome (.error .noAck) } = gyro := by
    change { gyro with standing := .undetermined } = gyro
    rw [← detected_eq_false.mp undetected]
  have cutOff := settled_inj gyro outcome (.error .noAck)
  rw [kept] at cutOff
  exact cutOff

theorem settled_elsewhere {gyro : Gyro} {outcome : Except Failure Finding}
    (failures : ∀ failure, outcome = .error failure → failure = .noAck ∨ failure = .unsupported)
    (finished : outcome ≠ .error .noAck)
    (other : ∀ found, outcome = .ok found → found.identification.family ≠ .mpu3050) :
    let unit := { gyro with standing := Standing.ofOutcome outcome }
    unit.detected = true ∧ unit.family ≠ .mpu3050 := by
  cases outcome with
  | ok found => exact ⟨rfl, other found rfl⟩
  | error failure =>
    rcases failures failure rfl with rfl | rfl
    · exact absurd rfl finished
    · refine ⟨rfl, ?_⟩
      simp [family, identification, Standing.ofOutcome]

theorem identify_of_answered {β : Type} [Bus β] {gyro : Gyro} (undetected : gyro.detected = false)
    (candidates : CandidateList) (handler : Nat) {bus : β}
    (unrefused : Register.whoAmI ∉
      Event.refusals ((gyro.identify candidates handler).run bus).events) :
    let done := (Finding.search gyro.settings.settleDelay candidates).run bus
    let call := (gyro.identify candidates handler).run bus
    (Event.ask 1 .primary Register.whoAmI bus).1.ack = true ∧
      call.value = (done.value.map fun found => found.identification.family,
        { gyro with standing := .ofOutcome done.value }) ∧
      Event.refusals call.events = Event.refusals done.events ∧
      Event.reports call.events = alarms handler done.value := by
  intro done call
  have run : call = _ := identify_run_of_undetected undetected candidates handler bus
  have refusals : Event.refusals call.events = Event.refusals done.events := by
    rw [run, Event.refusals_append, refusals_alarms, List.append_nil]
  have answered := Finding.answered_of_refusals (refusals ▸ unrefused)
  obtain ⟨_, _, reports⟩ := Finding.search_of_answered gyro.settings.settleDelay candidates answered
  refine ⟨answered, congrArg Outcome.value run, refusals, ?_⟩
  rw [run, Event.reports_append, reports_alarms, reports, List.nil_append]

/-- An identification that misses answers is cut off or right, unless all it misses is the legacy
identity of the oldest family. -/
theorem identify_despite_refusals {β δ : Type} [Bus β] [Bus δ] (registers : UInt8 → UInt8)
    (serving : β → Prop) (file : RegisterFile registers serving) (faultless : δ → Prop)
    (sameFile : RegisterFile registers faultless) (gyro : Gyro)
    (undetected : gyro.detected = false) (candidates : CandidateList) (handler : Nat) (bus : β)
    (serves : serving bus) (idealBus : δ) (idealServes : faultless idealBus) :
    let lossy := (gyro.identify candidates handler).run bus
    let ideal := (gyro.identify candidates handler).run idealBus
    let legacyLost := registers 0x00 &&& 0x7E = 0x68 ∧ Event.refusals lossy.events = [0x00]
    0x75 ∉ Event.refusals lossy.events → Event.refusals ideal.events = [] →
    ((lossy.value = (.error .noAck, gyro) ∨ lossy.value = ideal.value ∧
        Event.reports lossy.events = Event.reports ideal.events) ↔ ¬legacyLost) ∧
      (legacyLost → ideal.value.1 = .ok .mpu3050 ∧
        lossy.value.2.detected = true ∧ lossy.value.2.family ≠ .mpu3050) := by
  intro lossy ideal legacyLost unrefused complete
  obtain ⟨answered, value, refusals, reports⟩ :=
    identify_of_answered undetected candidates handler unrefused
  obtain ⟨idealAnswered, idealValue, idealRefusals, idealReports⟩ :=
    identify_of_answered undetected candidates handler
      (show Register.whoAmI ∉ Event.refusals ideal.events by
        rw [complete]
        exact List.not_mem_nil)
  obtain ⟨right, _, wrong⟩ := Finding.search_of_registerFile file serves
    gyro.settings.settleDelay candidates answered
  obtain ⟨_, held, _⟩ := Finding.search_of_registerFile sameFile idealServes
    gyro.settings.settleDelay candidates idealAnswered
  have idealFound := held (idealRefusals.symm.trans complete)
  have failures : ∀ failure,
      ((Finding.search gyro.settings.settleDelay candidates).run bus).value = .error failure →
        failure = .noAck ∨ failure = .unsupported := fun _ => Finding.search_error
  -- From here on the two calls differ only in the outcome of their searches.
  rw [← refusals] at right wrong
  rw [idealFound] at idealValue idealReports
  generalize ((Finding.search gyro.settings.settleDelay candidates).run bus).value = outcome
    at value reports right wrong failures
  constructor
  · rw [← right]
    apply or_congr
    · rw [value]
      exact interrupted_iff undetected
    · rw [value, idealValue, reports, idealReports, settled_inj]
      exact and_iff_left_of_imp (congrArg (alarms handler))
  · intro legacyIsLost
    obtain ⟨oldest, finished, other⟩ := wrong legacyIsLost
    rw [idealValue, oldest, value]
    exact ⟨rfl, settled_elsewhere failures finished other⟩

end Gyro

namespace Simulator

theorem registerFile (registers : UInt8 → UInt8) :
    RegisterFile registers fun board : SimulatedBoard =>
      board.primary.controller.registers = registers := by
  constructor
  · intro size register buffer board serves
    exact serves
  · intro size register buffer board serves ack
    change (Chip.read _ register buffer board.primary.controller).1.ack = true at ack
    change (Chip.read _ register buffer board.primary.controller).1.buffer = _
    unfold Chip.read at ack ⊢
    split
    · exact congrArg (fun held => contents held register size) serves
    next refused => rw [if_neg refused] at ack; cases ack

/-- A part of the oldest family, which reads zeros in the revision registers. -/
def oldest : Chip := (({} : Chip).load 0x00 [0x68]).load 0x75 [0x68]

def oldestDistracted : Chip := { oldest with refusedReads := [1] }

theorem distracted_is_condemned :
    let unit := Gyro.fresh {} 0 false
    let lossy := (unit.identify .empty 0).run (onPrimary oldestDistracted)
    let ideal := (unit.identify .empty 0).run (onPrimary oldest)
    Event.refusals lossy.events = [0x00] ∧ Event.refusals ideal.events = [] ∧
      lossy.value.1 = .error .unsupported ∧
      Event.reports lossy.events = [.report 0 .accelUnsupported] ∧
      ideal.value.1 = .ok .mpu3050 ∧ Event.reports ideal.events = [] :=
  ⟨rfl, rfl, rfl, rfl, rfl, rfl⟩

theorem distracted_is_settled_elsewhere :
    ((Gyro.fresh {} 0 false).identify .empty 0 |>.run (onPrimary oldest)).value.1 = .ok .mpu3050 ∧
      ((Gyro.fresh {} 0 false).identify .empty 0 |>.run
        (onPrimary oldestDistracted)).value.2.detected = true ∧
      ((Gyro.fresh {} 0 false).identify .empty 0 |>.run
        (onPrimary oldestDistracted)).value.2.family ≠ .mpu3050 := by
  have lost : Event.refusals ((Gyro.fresh {} 0 false).identify .empty 0 |>.run
      (onPrimary oldestDistracted)).events = [0x00] := rfl
  obtain ⟨_, settled⟩ := Gyro.identify_despite_refusals oldest.registers _ (registerFile _) _
    (registerFile _) (Gyro.fresh {} 0 false) rfl .empty 0 (onPrimary oldestDistracted) rfl
    (onPrimary oldest) rfl (by rw [lost]; decide) rfl
  exact settled ⟨rfl, lost⟩

end Simulator

end Imu
