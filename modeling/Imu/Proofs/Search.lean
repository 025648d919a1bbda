import Imu.Finding

/-!
What a search for the chip comes to, as a function of what its reads told. An `answer` is the
buffer of an acknowledged read; what a refused read leaves behind is no part of it, so no
identification can depend on that. A search fails in two ways only, and what it finds is one of
five fixed findings or what a candidate stands for.
-/

namespace Imu

def ReadReply.answer {size : Nat} (reply : ReadReply size) : Option (Vector UInt8 size) :=
  if reply.ack then some reply.buffer else none

theorem ReadReply.answer_of_ack {size : Nat} {reply : ReadReply size} (ack : reply.ack = true) :
    reply.answer = some reply.buffer := if_pos ack

theorem ReadReply.answer_of_refusal {size : Nat} {reply : ReadReply size}
    (refused : reply.ack = false) : reply.answer = none := by simp [answer, refused]

def onlyByte (bytes : Vector UInt8 1) : UInt8 := bytes.get ⟨0, Nat.one_pos⟩

namespace Event

variable {β : Type} [Bus β]

/-- The reply to a read into a fresh buffer, and the bus that it leaves. -/
def ask (size : Nat) (via : ReadRoutine) (register : UInt8) (bus : β) : ReadReply size × β :=
  match via with
  | .primary => PrimaryTransport.readRegisters register (Vector.replicate size 0) bus
  | .driver index => ChipDrivers.read index register (Vector.replicate size 0) bus

theorem perform_eq_ask (size : Nat) (via : ReadRoutine) (register : UInt8) (bus : β) :
    via.perform register (Vector.replicate size 0) bus = ask size via register bus := by
  cases via <;> rfl

def ofRead {size : Nat} (via : ReadRoutine) (register : UInt8) (reply : ReadReply size) : Event :=
  .access (.read via register reply.buffer.toList reply.ack)

theorem run_burst_bind {α : Type} (size : Nat) (via : ReadRoutine) (register : UInt8)
    (next : ReadReply size → Traced Event β α) (bus : β) :
    (burst size via register >>= next).run bus =
      let asked := ask size via register bus
      let rest := (next asked.1).run asked.2
      ⟨rest.value, ofRead via register asked.1 :: rest.events, rest.state⟩ := by
  rw [← perform_eq_ask]
  rfl

end Event

namespace Resolution

/-- Early parts spell no code in the offsets; only they are asked for their product id. -/
def early : Option (Vector UInt8 6) → Bool
  | some offsets => (OffsetCode.ofBurst (Burst.ofBuffer offsets)).value = 0
  | none => false

def ofProduct : Option (Vector UInt8 1) → Except Failure Resolution
  | some id => (ProductId.mk (onlyByte id)).resolution
  | none => .error .noAck

def ofAnswers (offsets : Option (Vector UInt8 6)) (product : Option (Vector UInt8 1)) :
    Except Failure Resolution :=
  match offsets with
  | none => .error .noAck
  | some burst =>
    if early offsets then ofProduct product
    else (OffsetCode.ofBurst (Burst.ofBuffer burst)).resolution

theorem ofProduct_error {product : Option (Vector UInt8 1)} {failure : Failure}
    (failed : ofProduct product = .error failure) : failure = .noAck ∨ failure = .unsupported := by
  cases product with
  | none => cases failed; exact .inl rfl
  | some id =>
    simp only [ofProduct, ProductId.resolution] at failed
    split at failed
    · cases failed; exact .inr rfl
    · split at failed <;> cases failed

theorem ofAnswers_error {offsets : Option (Vector UInt8 6)} {product : Option (Vector UInt8 1)}
    {failure : Failure} (failed : ofAnswers offsets product = .error failure) :
    failure = .noAck ∨ failure = .unsupported := by
  cases offsets with
  | none => cases failed; exact .inl rfl
  | some burst =>
    simp only [ofAnswers] at failed
    split at failed
    · exact ofProduct_error failed
    · simp only [OffsetCode.resolution] at failed
      split at failed
      · cases failed
      · split at failed <;> cases failed
        exact .inr rfl

theorem ofProduct_noAck {product : Option (Vector UInt8 1)} :
    ofProduct product = .error .noAck ↔ product = none := by
  cases product with
  | none => simp [ofProduct]
  | some id =>
    simp only [ofProduct, ProductId.resolution]
    split
    · simp
    · split <;> simp

theorem ofAnswers_noAck {offsets : Option (Vector UInt8 6)} {product : Option (Vector UInt8 1)} :
    ofAnswers offsets product = .error .noAck ↔
      offsets = none ∨ early offsets = true ∧ product = none := by
  cases offsets with
  | none => simp [ofAnswers]
  | some burst =>
    by_cases soon : early (some burst) = true
    · simp [ofAnswers, soon, ofProduct_noAck]
    · simp only [ofAnswers, if_neg soon, OffsetCode.resolution]
      split
      · simp [soon]
      · split <;> simp [soon]

end Resolution

namespace Binding

variable {β : Type} [Bus β]

theorem productClass_run (binding : Binding) (bus : β) :
    binding.productClass.run bus =
      let product := Event.ask 1 binding.read Register.productId bus
      ⟨Resolution.ofProduct product.1.answer,
        [.ofRead binding.read Register.productId product.1], product.2⟩ := by
  rw [productClass, Event.run_burst_bind]
  rcases Event.ask 1 binding.read Register.productId bus with ⟨⟨_ | _, buffer⟩, later⟩ <;> rfl

theorem resolutionClass_run (binding : Binding) (bus : β) :
    binding.resolutionClass.run bus =
      let offsets := Event.ask 6 binding.read Register.accelOffsets bus
      let product := Event.ask 1 binding.read Register.productId offsets.2
      ⟨Resolution.ofAnswers offsets.1.answer product.1.answer,
        .ofRead binding.read Register.accelOffsets offsets.1 ::
          if Resolution.early offsets.1.answer then
            [.ofRead binding.read Register.productId product.1] else [],
        if Resolution.early offsets.1.answer then product.2 else offsets.2⟩ := by
  rw [resolutionClass, Event.run_burst_bind]
  rcases Event.ask 6 binding.read Register.accelOffsets bus with ⟨⟨_ | _, buffer⟩, later⟩
  · rfl
  · by_cases early : (OffsetCode.ofBurst (Burst.ofBuffer buffer)).value = 0 <;>
      simp [ReadReply.answer, Resolution.ofAnswers, Resolution.early, productClass_run, early]

end Binding

namespace Finding

def namesLegacy : Option (Vector UInt8 1) → Bool
  | some id => Identity.masked (onlyByte id) = Identity.mpuX0x0
  | none => false

/-- The answers are those to the legacy identity, the offsets and the product id. -/
def ofAnswers (whoAmI : UInt8) (legacyId : Option (Vector UInt8 1))
    (offsets : Option (Vector UInt8 6)) (product : Option (Vector UInt8 1)) :
    Except Failure Finding :=
  if namesLegacy legacyId then .ok legacy
  else if Identity.masked whoAmI = Identity.mpuX0x0 then
    (Resolution.ofAnswers offsets product).map fun found => modern ⟨.mpu60x0, some found⟩
  else if Identity.masked whoAmI = Identity.mpu6500 then .ok (modern ⟨.mpu65xxI2c, none⟩)
  else .ok (modern .undetected)

/-- All that a search of these candidates can find, next to what it did. -/
inductive Origin (candidates : List Candidate) (events : List Event) : Finding → Prop where
  | nothing : Origin candidates events nothing
  | unrecognised : Origin candidates events (modern .undetected)
  | legacy : Origin candidates events legacy
  | classified (resolution : Resolution) :
    Origin candidates events (modern ⟨.mpu60x0, some resolution⟩)
  | extended : Origin candidates events (modern ⟨.mpu65xxI2c, none⟩)
  | claimed (candidate : Candidate) (listed : candidate ∈ candidates)
    (claims : .access (.probe candidate.routine true) ∈ events) :
    Origin candidates events (claimedBy candidate)

theorem ofAnswers_error {whoAmI : UInt8} {legacyId : Option (Vector UInt8 1)}
    {offsets : Option (Vector UInt8 6)} {product : Option (Vector UInt8 1)} {failure : Failure}
    (failed : ofAnswers whoAmI legacyId offsets product = .error failure) :
    failure = .noAck ∨ failure = .unsupported := by
  unfold ofAnswers at failed
  split at failed
  · cases failed
  · split at failed
    · cases told : Resolution.ofAnswers offsets product with
      | ok found => rw [told] at failed; cases failed
      | error other =>
        rw [told] at failed
        cases failed
        exact Resolution.ofAnswers_error told
    · split at failed <;> cases failed

theorem ofAnswers_noAck {whoAmI : UInt8} {legacyId : Option (Vector UInt8 1)}
    {offsets : Option (Vector UInt8 6)} {product : Option (Vector UInt8 1)} :
    ofAnswers whoAmI legacyId offsets product = .error .noAck ↔
      namesLegacy legacyId = false ∧ Identity.masked whoAmI = Identity.mpuX0x0 ∧
        (offsets = none ∨ Resolution.early offsets = true ∧ product = none) := by
  rw [← Resolution.ofAnswers_noAck]
  cases old : namesLegacy legacyId with
  | true => simp [ofAnswers, old]
  | false =>
    by_cases classified : Identity.masked whoAmI = Identity.mpuX0x0
    · cases told : Resolution.ofAnswers offsets product <;>
        simp [ofAnswers, old, classified, told, Except.map]
    · rw [ofAnswers, if_neg (by simp [old]), if_neg classified]
      split <;> simp [classified]

theorem ofAnswers_origin (candidates : List Candidate) (events : List Event) {whoAmI : UInt8}
    {legacyId : Option (Vector UInt8 1)} {offsets : Option (Vector UInt8 6)}
    {product : Option (Vector UInt8 1)} {found : Finding}
    (succeeded : ofAnswers whoAmI legacyId offsets product = .ok found) :
    Origin candidates events found := by
  unfold ofAnswers at succeeded
  split at succeeded
  · cases succeeded; exact .legacy
  · split at succeeded
    · cases told : Resolution.ofAnswers offsets product with
      | ok resolution => rw [told] at succeeded; cases succeeded; exact .classified resolution
      | error failure => rw [told] at succeeded; cases succeeded
    · split at succeeded <;> cases succeeded
      · exact .extended
      · exact .unrecognised

variable {β : Type} [Bus β]

theorem ofCandidates_cons_run (candidate : Candidate) (list : List Candidate) (bus : β) :
    (ofCandidates (candidate :: list)).run bus =
      let probed := ChipDrivers.probe candidate.routine bus
      let rest := (if probed.1 then pure (claimedBy candidate) else ofCandidates list).run probed.2
      ⟨rest.value, .access (.probe candidate.routine probed.1) :: rest.events, rest.state⟩ := rfl

/-- Each driver, asked on the board that those before it left, declines the chip. -/
def AllDecline : List Candidate → β → Prop
  | [], _ => True
  | candidate :: rest, bus =>
    (ChipDrivers.probe candidate.routine bus).1 = false ∧
      AllDecline rest (ChipDrivers.probe candidate.routine bus).2

def afterAsking : List Candidate → β → β
  | [], bus => bus
  | candidate :: rest, bus => afterAsking rest (ChipDrivers.probe candidate.routine bus).2

/-- The candidates are asked in order, and the first that claims the chip is the last asked. -/
theorem ofCandidates_run (list : List Candidate) (bus : β) :
    (AllDecline list bus ∧
      (ofCandidates list).run bus =
        ⟨nothing, list.map fun candidate => .access (.probe candidate.routine false),
          afterAsking list bus⟩) ∨
    ∃ declined candidate rest, list = declined ++ candidate :: rest ∧ AllDecline declined bus ∧
      (ChipDrivers.probe candidate.routine (afterAsking declined bus)).1 = true ∧
      (ofCandidates list).run bus =
        ⟨claimedBy candidate,
          (declined.map fun other => .access (.probe other.routine false)) ++
            [.access (.probe candidate.routine true)],
          (ChipDrivers.probe candidate.routine (afterAsking declined bus)).2⟩ := by
  induction list generalizing bus with
  | nil => exact .inl ⟨trivial, rfl⟩
  | cons first rest ih =>
    rw [ofCandidates_cons_run]
    rcases answer : ChipDrivers.probe first.routine bus with ⟨_ | _, reached⟩
    -- The first declines, and those after it are asked on the board that it left.
    · rcases ih reached with
        ⟨decline, run⟩ | ⟨declined, candidate, later, split, decline, claims, run⟩
      · left
        simp [AllDecline, afterAsking, answer, decline, run]
      · refine .inr ⟨first :: declined, candidate, later, congrArg (List.cons first) split, ?_⟩
        simp [AllDecline, afterAsking, answer, decline, claims, run]
    · refine .inr ⟨[], first, rest, rfl, trivial, ?_⟩
      simp [afterAsking, answer]

theorem search_run (settleDelay : UInt32) (candidates : CandidateList) (bus : β) :
    (search settleDelay candidates).run bus =
      let whoAmI := Event.ask 1 .primary Register.whoAmI bus
      let rest := (if whoAmI.1.ack then onPrimary whoAmI.1.byte
        else ofCandidates candidates.entries >>= fun found => pure (.ok found)).run whoAmI.2
      ⟨rest.value, .delay settleDelay :: .ofRead .primary Register.whoAmI whoAmI.1 :: rest.events,
        rest.state⟩ := rfl

theorem search_run_of_answered (settleDelay : UInt32) (candidates : CandidateList) {bus : β}
    (answered : (Event.ask 1 .primary Register.whoAmI bus).1.ack = true) :
    (search settleDelay candidates).run bus =
      let whoAmI := Event.ask 1 .primary Register.whoAmI bus
      let rest := (onPrimary whoAmI.1.byte).run whoAmI.2
      ⟨rest.value, .delay settleDelay :: .ofRead .primary Register.whoAmI whoAmI.1 :: rest.events,
        rest.state⟩ := by
  rw [search_run]
  simp only [if_pos answered]

theorem search_run_of_refused (settleDelay : UInt32) (candidates : CandidateList) {bus : β}
    (refused : (Event.ask 1 .primary Register.whoAmI bus).1.ack = false) :
    (search settleDelay candidates).run bus =
      let whoAmI := Event.ask 1 .primary Register.whoAmI bus
      let rest := (ofCandidates candidates.entries).run whoAmI.2
      ⟨.ok rest.value,
        .delay settleDelay :: .ofRead .primary Register.whoAmI whoAmI.1 :: rest.events,
        rest.state⟩ := by
  rw [search_run]
  simp [refused]

def revisionReads (whoAmI : UInt8) (bus : β) : List Event :=
  if Identity.masked whoAmI = Identity.mpuX0x0 then
    ((Binding.primary Register.gyroOut).resolutionClass.run bus).events
  else []

theorem revisionReads_eq (whoAmI : UInt8) (bus : β) :
    revisionReads whoAmI bus =
      let offsets := Event.ask 6 .primary Register.accelOffsets bus
      let product := Event.ask 1 .primary Register.productId offsets.2
      if Identity.masked whoAmI = Identity.mpuX0x0 then
        .ofRead .primary Register.accelOffsets offsets.1 ::
          if Resolution.early offsets.1.answer then
            [.ofRead .primary Register.productId product.1] else []
      else [] := by
  unfold revisionReads
  rw [Binding.resolutionClass_run]
  rfl

theorem ofIdentity_run (whoAmI : UInt8) {legacyId : Option (Vector UInt8 1)}
    (newer : namesLegacy legacyId = false) (bus : β) :
    let offsets := Event.ask 6 .primary Register.accelOffsets bus
    let product := Event.ask 1 .primary Register.productId offsets.2
    ((ofIdentity whoAmI).run bus).value =
        ofAnswers whoAmI legacyId offsets.1.answer product.1.answer ∧
      ((ofIdentity whoAmI).run bus).events = revisionReads whoAmI bus ∧
      ((ofIdentity whoAmI).run bus).state =
        if Identity.masked whoAmI = Identity.mpuX0x0 then
          if Resolution.early offsets.1.answer then product.2 else offsets.2
        else bus := by
  simp only [ofIdentity, ofAnswers, newer, revisionReads]
  split
  · simp [Binding.resolutionClass_run, Binding.primary]
  · split <;> exact ⟨rfl, rfl, rfl⟩

theorem namesLegacy_answer (reply : ReadReply 1) :
    namesLegacy reply.answer = true ↔
      reply.ack = true ∧ Identity.masked reply.byte = Identity.mpuX0x0 := by
  rcases reply with ⟨_ | _, buffer⟩
  · simp [namesLegacy, ReadReply.answer]
  · exact decide_eq_true_iff.trans ⟨fun same => ⟨rfl, same⟩, And.right⟩

theorem onPrimary_run (whoAmI : UInt8) (bus : β) :
    let legacyId := Event.ask 1 .primary Register.legacyWhoAmI bus
    let offsets := Event.ask 6 .primary Register.accelOffsets legacyId.2
    let product := Event.ask 1 .primary Register.productId offsets.2
    ((onPrimary whoAmI).run bus).value =
        ofAnswers whoAmI legacyId.1.answer offsets.1.answer product.1.answer ∧
      ((onPrimary whoAmI).run bus).events =
        .ofRead .primary Register.legacyWhoAmI legacyId.1 ::
          (if namesLegacy legacyId.1.answer then [] else revisionReads whoAmI legacyId.2) ∧
      ((onPrimary whoAmI).run bus).state =
        if ¬namesLegacy legacyId.1.answer ∧ Identity.masked whoAmI = Identity.mpuX0x0 then
          if Resolution.early offsets.1.answer then product.2 else offsets.2
        else legacyId.2 := by
  rw [onPrimary, Event.run_burst_bind]
  -- The legacy identity decides alone when it was told and names the oldest family.
  generalize Event.ask 1 .primary Register.legacyWhoAmI bus = legacyId
  by_cases old : namesLegacy legacyId.1.answer = true
  · simp [(namesLegacy_answer legacyId.1).mp old, ofAnswers, old]
  · have newer : namesLegacy legacyId.1.answer = false := by simpa using old
    obtain ⟨value, events, state⟩ := ofIdentity_run whoAmI newer legacyId.2
    have passed := mt (namesLegacy_answer legacyId.1).mpr old
    simp [if_neg passed, value, events, state, newer]

theorem search_error {settleDelay : UInt32} {candidates : CandidateList} {bus : β}
    {failure : Failure}
    (failed : ((search settleDelay candidates).run bus).value = .error failure) :
    failure = .noAck ∨ failure = .unsupported := by
  rw [search_run] at failed
  dsimp only at failed
  split at failed
  · rw [(onPrimary_run _ _).1] at failed
    exact ofAnswers_error failed
  · cases failed

theorem search_origin {settleDelay : UInt32} {candidates : CandidateList} {bus : β}
    {found : Finding}
    (succeeded : ((search settleDelay candidates).run bus).value = .ok found) :
    Origin candidates.entries ((search settleDelay candidates).run bus).events found := by
  rw [search_run] at succeeded ⊢
  dsimp only at succeeded ⊢
  generalize Event.ask 1 .primary Register.whoAmI bus = whoAmI at succeeded ⊢
  cases answered : whoAmI.1.ack with
  | true =>
    rw [answered, if_pos rfl, (onPrimary_run _ _).1] at succeeded
    exact ofAnswers_origin _ _ succeeded
  | false =>
    rw [answered] at succeeded
    rcases ofCandidates_run candidates.entries whoAmI.2 with
      ⟨_, run⟩ | ⟨declined, candidate, rest, split, _, _, run⟩
    · obtain rfl : nothing = found := by simpa [run] using succeeded
      exact .nothing
    · obtain rfl : claimedBy candidate = found := by simpa [run] using succeeded
      refine .claimed candidate (by simp [split]) ?_
      simp [run]

end Finding

end Imu
