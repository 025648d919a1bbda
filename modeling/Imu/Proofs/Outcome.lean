import Imu.Proofs.Footprint

/-!
What a search finds, as a function of what the board told it. The identity decides between the
drivers and the primary transport, the legacy identity and the masked identity between the
families, and the offsets and the product id between the resolutions of an `mpu60x0`. A refused
read leaves bytes behind as well; they are told apart from an answer at each of the four reads.
-/

namespace Imu

namespace OffsetCode

/-- The code that the low bits of the three axes spell. -/
def spelled (offsets : Vector UInt8 6) : Nat :=
  (offsets[1]! &&& 1).toNat + 2 * (offsets[3]! &&& 1).toNat + 4 * (offsets[5]! &&& 1).toNat

theorem toNat_lowBit (byte : UInt8) : (lowBit byte).toNat = (byte &&& 1).toNat := by
  have halves : (byte &&& 1).toNat = byte.toNat % 2 := by
    rw [UInt8.toNat_and]
    exact Nat.and_one_is_mod _
  have empty : byte &&& 1 = 0 ↔ (byte &&& 1).toNat = 0 := UInt8.toNat_inj.symm
  cases low : lowBit byte with
  | false =>
    rw [lowBit, bne_eq_false_iff_eq] at low
    exact (empty.mp low).symm
  | true =>
    rw [lowBit, bne_iff_ne, Ne, empty] at low
    rw [Bool.toNat_true]
    omega

theorem toNat_value (offsets : Vector UInt8 6) :
    (ofBurst (Burst.ofBuffer offsets)).value.toNat = spelled offsets := by
  have table : ∀ x y z : Bool,
      ((if x then 1 else 0) + (if y then 2 else 0) + (if z then 4 else 0) : UInt8).toNat =
        x.toNat + 2 * y.toNat + 4 * z.toNat := by
    decide
  obtain ⟨x, y, z⟩ := Burst.lows_ofBuffer offsets
  rw [value_ofBurst, table, toNat_lowBit, toNat_lowBit, toNat_lowBit, x, y, z]
  rfl

theorem value_eq_iff (offsets : Vector UInt8 6) (code : UInt8) :
    (ofBurst (Burst.ofBuffer offsets)).value = code ↔ spelled offsets = code.toNat := by
  rw [← toNat_value, UInt8.toNat_inj]

theorem spelled_eq_zero (offsets : Vector UInt8 6) : spelled offsets = 0 ↔ LowBitsClear offsets :=
  (value_eq_iff offsets 0).symm.trans (value_eq_zero offsets)

theorem spelled_lt (offsets : Vector UInt8 6) : spelled offsets < 8 := by
  have bit (byte : UInt8) : (byte &&& 1).toNat ≤ 1 := by
    rw [← toNat_lowBit]
    exact Bool.toNat_le _
  have x := bit offsets[1]!
  have y := bit offsets[3]!
  have z := bit offsets[5]!
  unfold spelled
  omega

theorem resolution_ofBurst (offsets : Vector UInt8 6) :
    (ofBurst (Burst.ofBuffer offsets)).resolution =
      if spelled offsets = 1 then .ok .half
      else if spelled offsets = 2 ∨ spelled offsets = 3 ∨ spelled offsets = 7 then .ok .full
      else .error .unsupported := by
  simp only [resolution, value_eq_iff]
  rfl

theorem resolution_unsupported (offsets : Vector UInt8 6) (spells : spelled offsets ≠ 0) :
    (ofBurst (Burst.ofBuffer offsets)).resolution = .error .unsupported ↔
      spelled offsets = 4 ∨ spelled offsets = 5 ∨ spelled offsets = 6 := by
  have bound := spelled_lt offsets
  rw [resolution_ofBurst]
  split
  · simp only [reduceCtorEq, false_iff]
    omega
  · split
    · simp only [reduceCtorEq, false_iff]
      omega
    · simp only [true_iff]
      omega

theorem resolution_half (offsets : Vector UInt8 6) :
    (ofBurst (Burst.ofBuffer offsets)).resolution = .ok .half ↔ spelled offsets = 1 := by
  rw [resolution_ofBurst]
  split
  · simp [*]
  · split <;> simp [*]

end OffsetCode

namespace ProductId

theorem resolution_unsupported (id : UInt8) :
    (ProductId.mk id).resolution = .error .unsupported ↔ id &&& 0x0F = 0 := by
  unfold resolution revision
  by_cases unnamed : id &&& 0x0F = 0
  · simp [unnamed]
  · by_cases four : id &&& 0x0F = 4 <;> simp [unnamed, four]

theorem resolution_half (id : UInt8) :
    (ProductId.mk id).resolution = .ok .half ↔ id &&& 0x0F = 4 := by
  unfold resolution revision
  by_cases unnamed : id &&& 0x0F = 0
  · simp [unnamed]
  · by_cases four : id &&& 0x0F = 4 <;> simp [unnamed, four]

end ProductId

namespace Resolution

theorem ofAnswers_cutOff (offsets : ReadReply 6) (product : ReadReply 1) :
    ofAnswers offsets.answer product.answer = .error .noAck ↔
      offsets.ack = false ∨ LowBitsClear offsets.buffer ∧ product.ack = false := by
  have lost {size : Nat} (reply : ReadReply size) : reply.answer = none ↔ reply.ack = false := by
    cases ack : reply.ack <;> simp [ReadReply.answer, ack]
  rw [ofAnswers_noAck, early_answer, lost, lost]
  cases offsets.ack <;> simp

variable {offsets : ReadReply 6} {product : ReadReply 1}

theorem ofAnswers_of_answered (answered : ofAnswers offsets.answer product.answer ≠ .error .noAck) :
    ofAnswers offsets.answer product.answer =
      if OffsetCode.spelled offsets.buffer = 0 then (ProductId.mk product.buffer[0]!).resolution
      else (OffsetCode.ofBurst (Burst.ofBuffer offsets.buffer)).resolution := by
  rw [Ne, ofAnswers_cutOff, not_or, Bool.not_eq_false, not_and, Bool.not_eq_false] at answered
  obtain ⟨burst, id⟩ := answered
  have early : early offsets.answer = true ↔ OffsetCode.spelled offsets.buffer = 0 := by
    rw [early_answer, OffsetCode.spelled_eq_zero, and_iff_right burst]
  rw [ReadReply.answer_of_ack burst] at early ⊢
  -- Only offsets that spell no code make the search ask for the product id.
  by_cases empty : OffsetCode.spelled offsets.buffer = 0
  · rw [ReadReply.answer_of_ack (id ((OffsetCode.spelled_eq_zero _).mp empty)), if_pos empty,
      ← ReadReply.byte_eq]
    exact if_pos (early.mpr empty)
  · rw [if_neg empty]
    exact if_neg (mt early.mp empty)

theorem ofAnswers_unsupported (answered : ofAnswers offsets.answer product.answer ≠ .error .noAck) :
    ofAnswers offsets.answer product.answer = .error .unsupported ↔
      (OffsetCode.spelled offsets.buffer = 4 ∨ OffsetCode.spelled offsets.buffer = 5 ∨
        OffsetCode.spelled offsets.buffer = 6) ∨
      OffsetCode.spelled offsets.buffer = 0 ∧ product.buffer[0]! &&& 0x0F = 0 := by
  rw [ofAnswers_of_answered answered]
  by_cases empty : OffsetCode.spelled offsets.buffer = 0
  · simp [empty, ProductId.resolution_unsupported]
  · simp [empty, OffsetCode.resolution_unsupported]

theorem ofAnswers_half (answered : ofAnswers offsets.answer product.answer ≠ .error .noAck) :
    ofAnswers offsets.answer product.answer = .ok .half ↔
      OffsetCode.spelled offsets.buffer = 1 ∨
      OffsetCode.spelled offsets.buffer = 0 ∧ product.buffer[0]! &&& 0x0F = 4 := by
  rw [ofAnswers_of_answered answered]
  by_cases empty : OffsetCode.spelled offsets.buffer = 0
  · simp [empty, ProductId.resolution_half]
  · simp [empty, OffsetCode.resolution_half]

end Resolution

namespace Finding

/-- What is found in an `mpu60x0` when its offsets and its product id were answered so. The product
id counts only where the offsets spell no code. -/
structure Classified (offsets : ReadReply 6) (product : ReadReply 1)
    (found : Except Failure Finding) : Prop where
  cutOff : found = .error .noAck ↔
    offsets.ack = false ∨ LowBitsClear offsets.buffer ∧ product.ack = false
  unsupported : found ≠ .error .noAck → (found = .error .unsupported ↔
    (OffsetCode.spelled offsets.buffer = 4 ∨ OffsetCode.spelled offsets.buffer = 5 ∨
      OffsetCode.spelled offsets.buffer = 6) ∨
    OffsetCode.spelled offsets.buffer = 0 ∧ product.buffer[0]! &&& 0x0F = 0)
  settled : found ≠ .error .noAck → found ≠ .error .unsupported → ∃ resolution,
    found = .ok ⟨some ⟨.primary, .primary, none, none, none, 0x43⟩, ⟨.mpu60x0, some resolution⟩⟩ ∧
      (resolution = .half ↔ OffsetCode.spelled offsets.buffer = 1 ∨
        OffsetCode.spelled offsets.buffer = 0 ∧ product.buffer[0]! &&& 0x0F = 4)

theorem classified_ofAnswers (offsets : ReadReply 6) (product : ReadReply 1) :
    Classified offsets product ((Resolution.ofAnswers offsets.answer product.answer).map
      fun resolution => modern ⟨.mpu60x0, some resolution⟩) := by
  have cutOff := Resolution.ofAnswers_cutOff offsets product
  have unsupported := @Resolution.ofAnswers_unsupported offsets product
  have half := @Resolution.ofAnswers_half offsets product
  cases told : Resolution.ofAnswers offsets.answer product.answer with
  | error failure =>
    rw [told] at cutOff unsupported
    have only := Resolution.ofAnswers_error told
    refine ⟨?_, ?_, ?_⟩
    · simpa [Except.map] using cutOff
    · simpa [Except.map] using unsupported
    · rintro answered known
      rcases only with rfl | rfl
      · exact absurd rfl answered
      · exact absurd rfl known
  | ok resolution =>
    rw [told] at cutOff unsupported half
    refine ⟨?_, ?_, ?_⟩
    · simpa [Except.map] using cutOff
    · simpa [Except.map] using unsupported
    · rintro answered known
      exact ⟨resolution, rfl, by simpa using half⟩

/-- What is found where the primary transport answered, family by family. The legacy identity
excludes the others, and of those the masked identity decides. -/
structure OnPrimary (identity legacyId : ReadReply 1) (offsets : ReadReply 6)
    (product : ReadReply 1) (found : Except Failure Finding) : Prop where
  oldest :
    found = .ok ⟨some ⟨.primary, .primary, none, none, none, 0x1D⟩, ⟨.mpu3050, none⟩⟩ ↔
      legacyId.NamesOldest
  extended : ¬legacyId.NamesOldest →
    (found = .ok ⟨some ⟨.primary, .primary, none, none, none, 0x43⟩, ⟨.mpu65xxI2c, none⟩⟩ ↔
      identity.buffer[0]! &&& 0x7E = 0x70)
  unrecognised : ¬legacyId.NamesOldest →
    (found = .ok ⟨some ⟨.primary, .primary, none, none, none, 0x43⟩, ⟨.unknown, none⟩⟩ ↔
      identity.buffer[0]! &&& 0x7E ≠ 0x68 ∧ identity.buffer[0]! &&& 0x7E ≠ 0x70)
  classified : ¬legacyId.NamesOldest → identity.buffer[0]! &&& 0x7E = 0x68 →
    Classified offsets product found

theorem map_modern_ne {told : Except Failure Resolution} {found : Finding}
    (other : found.identification.family ≠ .mpu60x0) :
    (told.map fun resolution => modern ⟨.mpu60x0, some resolution⟩) ≠ .ok found := by
  rcases told with failure | resolution
  · exact nofun
  · rintro same
    cases same
    exact other rfl

theorem onPrimary_ofAnswers (identity legacyId : ReadReply 1) (offsets : ReadReply 6)
    (product : ReadReply 1) :
    OnPrimary identity legacyId offsets product
      (ofAnswers identity.buffer[0]! legacyId.answer offsets.answer product.answer) := by
  have oldest := namesLegacy_iff legacyId
  by_cases old : legacyId.NamesOldest
  · have found : ofAnswers identity.buffer[0]! legacyId.answer offsets.answer product.answer =
        .ok legacy := if_pos (oldest.mpr old)
    rw [found]
    exact ⟨iff_of_true rfl old, fun newer => absurd old newer, fun newer => absurd old newer,
      fun newer => absurd old newer⟩
  · have newer : ofAnswers identity.buffer[0]! legacyId.answer offsets.answer product.answer = _ :=
      if_neg (mt oldest.mp old)
    by_cases classified : identity.buffer[0]! &&& 0x7E = 0x68
    · rw [newer.trans (if_pos classified)]
      refine ⟨iff_of_false (map_modern_ne nofun) old, fun _ => ?_, fun _ => ?_, fun _ _ => ?_⟩
      · exact iff_of_false (map_modern_ne nofun) (by rw [classified]; decide)
      · exact iff_of_false (map_modern_ne nofun) fun other => other.1 classified
      · exact classified_ofAnswers offsets product
    · by_cases extended : identity.buffer[0]! &&& 0x7E = 0x70
      · rw [newer.trans ((if_neg classified).trans (if_pos extended))]
        exact ⟨iff_of_false nofun old, fun _ => iff_of_true rfl extended,
          fun _ => iff_of_false nofun fun other => other.2 extended,
          fun _ same => absurd same classified⟩
      · rw [newer.trans ((if_neg classified).trans (if_neg extended))]
        exact ⟨iff_of_false nofun old, fun _ => iff_of_false nofun extended,
          fun _ => iff_of_true rfl ⟨classified, extended⟩, fun _ same => absurd same classified⟩

variable {β : Type} [Bus β]

def FirstClaim (list : List Candidate) (bus : β) (found : Except Failure Finding) : Prop :=
  (AllDecline list bus ∧ found = .ok ⟨none, ⟨.unknown, none⟩⟩) ∨
  ∃ declined claimer unasked, list = declined ++ claimer :: unasked ∧ AllDecline declined bus ∧
    (ChipDrivers.probe claimer.routine (afterAsking declined bus)).1 = true ∧
    found = .ok ⟨some claimer.binding, ⟨claimer.family, none⟩⟩

theorem firstClaim_ofCandidates (list : List Candidate) (bus : β) :
    FirstClaim list bus (.ok ((ofCandidates list).run bus).value) := by
  rcases ofCandidates_run list bus with
    ⟨decline, run⟩ | ⟨declined, claimer, unasked, split, decline, claims, run⟩
  · exact .inl ⟨decline, by rw [run]; rfl⟩
  · exact .inr ⟨declined, claimer, unasked, split, decline, claims, by rw [run]; rfl⟩

/-- The replies are those to the reads of the search, each on the board as the one before left it.
-/
theorem search_outcome (settleDelay : UInt32) (candidates : CandidateList) (bus : β) :
    let found := ((search settleDelay candidates).run bus).value
    let identity := PrimaryTransport.readRegisters 0x75 (Vector.replicate 1 0) bus
    let legacyId := PrimaryTransport.readRegisters 0x00 (Vector.replicate 1 0) identity.2
    let offsets := PrimaryTransport.readRegisters 0x06 (Vector.replicate 6 0) legacyId.2
    let product := PrimaryTransport.readRegisters 0x0C (Vector.replicate 1 0) offsets.2
    (identity.1.ack = false → FirstClaim candidates.entries identity.2 found) ∧
      (identity.1.ack = true → OnPrimary identity.1 legacyId.1 offsets.1 product.1 found) := by
  intro found identity legacyId offsets product
  constructor
  · intro refused
    have run : found = .ok ((ofCandidates candidates.entries).run identity.2).value :=
      congrArg Outcome.value (search_run_of_refused settleDelay candidates refused)
    rw [run]
    exact firstClaim_ofCandidates candidates.entries identity.2
  · intro answered
    have run : found = ((onPrimary identity.1.byte).run identity.2).value :=
      (congrArg Outcome.value (search_run_of_answered settleDelay candidates answered) :)
    rw [run, (onPrimary_run identity.1.byte identity.2).1, ReadReply.byte_eq]
    exact onPrimary_ofAnswers identity.1 legacyId.1 offsets.1 product.1

end Finding

end Imu
