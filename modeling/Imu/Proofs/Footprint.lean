import Imu.Proofs.Search
import Imu.Simulator.Board
import Mathlib.Logic.Basic

/-!
What a search does to the board, call by call. If the primary transport answers it makes up to
three further reads there and asks no driver; otherwise it asks the drivers in order and makes no
further read. It writes nothing and uses no routine of a candidate but the probe.
-/

namespace Imu

/-- The low byte of each axis of the accelerometer offsets is even. -/
def LowBitsClear (offsets : Vector UInt8 6) : Prop :=
  offsets[1]! &&& 1 = 0 ∧ offsets[3]! &&& 1 = 0 ∧ offsets[5]! &&& 1 = 0

instance (offsets : Vector UInt8 6) : Decidable (LowBitsClear offsets) :=
  inferInstanceAs (Decidable (_ ∧ _))

theorem Burst.lows_ofBuffer (buffer : Vector UInt8 6) :
    (ofBuffer buffer).xLow = buffer[1]! ∧ (ofBuffer buffer).yLow = buffer[3]! ∧
      (ofBuffer buffer).zLow = buffer[5]! := by
  simp [ofBuffer]

theorem ReadReply.byte_eq (reply : ReadReply 1) : reply.byte = reply.buffer[0]! := by
  simp [byte]

/-- The legacy identity was read, and it names the oldest family. -/
def ReadReply.NamesOldest (reply : ReadReply 1) : Prop :=
  reply.ack = true ∧ reply.buffer[0]! &&& 0x7E = 0x68

instance (reply : ReadReply 1) : Decidable reply.NamesOldest := inferInstanceAs (Decidable (_ ∧ _))

theorem OffsetCode.value_eq_zero (offsets : Vector UInt8 6) :
    (OffsetCode.ofBurst (Burst.ofBuffer offsets)).value = 0 ↔ LowBitsClear offsets := by
  have table : ∀ x y z : Bool,
      (if x then 1 else 0) + (if y then 2 else 0) + (if z then 4 else 0) = (0 : UInt8) ↔
        x = false ∧ y = false ∧ z = false := by
    decide
  obtain ⟨x, y, z⟩ := Burst.lows_ofBuffer offsets
  rw [OffsetCode.value_ofBurst, table, x, y, z]
  simp only [OffsetCode.lowBit, bne_eq_false_iff_eq]
  rfl

theorem Resolution.early_answer (reply : ReadReply 6) :
    Resolution.early reply.answer = true ↔ reply.ack = true ∧ LowBitsClear reply.buffer := by
  cases ack : reply.ack with
  | false => simp [ReadReply.answer_of_refusal ack, Resolution.early]
  | true =>
    rw [ReadReply.answer_of_ack ack, ← OffsetCode.value_eq_zero]
    simp [Resolution.early]

namespace Event

def IsSearching (settleDelay : UInt32) (candidates : CandidateList) (event : Event) : Prop :=
  event = .delay settleDelay ∨
    (∃ register buffer ack, event = .access (.read .primary register buffer ack)) ∨
    ∃ candidate ∈ candidates.entries, ∃ claimed,
      event = .access (.probe candidate.routine claimed)

theorem isSearching_ofRead {settleDelay : UInt32} {candidates : CandidateList} {size : Nat}
    (register : UInt8) (reply : ReadReply size) :
    (ofRead .primary register reply).IsSearching settleDelay candidates :=
  .inr (.inl ⟨register, _, _, rfl⟩)

theorem isSearching_probe {settleDelay : UInt32} {candidates : CandidateList}
    {candidate : Candidate} (listed : candidate ∈ candidates.entries) (claimed : Bool) :
    (Event.access (.probe candidate.routine claimed)).IsSearching settleDelay candidates :=
  .inr (.inr ⟨candidate, listed, claimed, rfl⟩)

end Event

namespace Finding

variable {β : Type} [Bus β]

/-- The drivers of the list are asked in order up to the first that claims the chip, or all of them
if none does; that leaves these events and this board. -/
def Asked (list : List Candidate) (bus : β) (events : List Event) (left : β) : Prop :=
  (AllDecline list bus ∧
    events = list.map (fun candidate => .access (.probe candidate.routine false)) ∧
    left = afterAsking list bus) ∨
  ∃ declined claimer unasked, list = declined ++ claimer :: unasked ∧ AllDecline declined bus ∧
    (ChipDrivers.probe claimer.routine (afterAsking declined bus)).1 = true ∧
    events = (declined.map fun candidate => .access (.probe candidate.routine false)) ++
      [.access (.probe claimer.routine true)] ∧
    left = (ChipDrivers.probe claimer.routine (afterAsking declined bus)).2

theorem asked_ofCandidates (list : List Candidate) (bus : β) :
    Asked list bus ((ofCandidates list).run bus).events ((ofCandidates list).run bus).state := by
  rcases ofCandidates_run list bus with
    ⟨decline, run⟩ | ⟨declined, claimer, unasked, split, decline, claims, run⟩
  · exact .inl ⟨decline, by rw [run], by rw [run]⟩
  · exact .inr ⟨declined, claimer, unasked, split, decline, claims, by rw [run], by rw [run]⟩

theorem Asked.probes {list : List Candidate} {bus left : β} {events : List Event}
    (asked : Asked list bus events left) :
    ∀ event ∈ events, ∃ candidate ∈ list, ∃ claimed,
      event = .access (.probe candidate.routine claimed) := by
  intro event member
  rcases asked with ⟨_, rfl, _⟩ | ⟨declined, claimer, unasked, rfl, _, _, rfl, _⟩
  · obtain ⟨candidate, listed, rfl⟩ := List.mem_map.mp member
    exact ⟨candidate, listed, false, rfl⟩
  · rcases List.mem_append.mp member with earlier | last
    · obtain ⟨candidate, listed, rfl⟩ := List.mem_map.mp earlier
      exact ⟨candidate, List.mem_append_left _ listed, false, rfl⟩
    · exact ⟨claimer, by simp, true, List.mem_singleton.mp last⟩

theorem namesLegacy_iff (reply : ReadReply 1) :
    namesLegacy reply.answer = true ↔ reply.NamesOldest := by
  rw [namesLegacy_answer, reply.byte_eq]
  rfl

/-- The calls on a primary transport that answered its identity, and the board that they leave: the
legacy identity, and for an `mpu60x0` the offsets and, if they spell no code, the product id. -/
def PrimaryCalls (whoAmI : UInt8) (bus : β) (calls : List Event) (left : β) : Prop :=
  let legacyId := PrimaryTransport.readRegisters 0x00 (Vector.replicate 1 0) bus
  let offsets := PrimaryTransport.readRegisters 0x06 (Vector.replicate 6 0) legacyId.2
  let product := PrimaryTransport.readRegisters 0x0C (Vector.replicate 1 0) offsets.2
  calls = .ofRead .primary 0x00 legacyId.1 ::
      (if ¬legacyId.1.NamesOldest ∧ whoAmI &&& 0x7E = 0x68 then
        .ofRead .primary 0x06 offsets.1 ::
          if offsets.1.ack = true ∧ LowBitsClear offsets.1.buffer then
            [.ofRead .primary 0x0C product.1] else []
      else []) ∧
    left =
      if ¬legacyId.1.NamesOldest ∧ whoAmI &&& 0x7E = 0x68 then
        if offsets.1.ack = true ∧ LowBitsClear offsets.1.buffer then product.2 else offsets.2
      else legacyId.2

theorem primaryCalls_onPrimary (whoAmI : UInt8) (bus : β) :
    PrimaryCalls whoAmI bus ((onPrimary whoAmI).run bus).events
      ((onPrimary whoAmI).run bus).state := by
  unfold PrimaryCalls
  intro legacyId offsets product
  obtain ⟨_, events, state⟩ := onPrimary_run whoAmI bus
  have revised : ¬namesLegacy legacyId.1.answer = true ∧
        Identity.masked whoAmI = Identity.mpuX0x0 ↔
      ¬legacyId.1.NamesOldest ∧ whoAmI &&& 0x7E = 0x68 :=
    and_congr_left fun _ => not_congr (namesLegacy_iff legacyId.1)
  have early := Resolution.early_answer offsets.1
  refine ⟨events.trans (congrArg (List.cons _) ?_),
    state.trans (if_congr revised (if_congr early rfl rfl) rfl)⟩
  -- A run is said to skip the revision for the oldest family; the calls say when it is read.
  rw [revisionReads_eq, ← ite_not, ← ite_and]
  exact if_congr revised (congrArg (List.cons _) (if_congr early rfl rfl)) rfl

theorem PrimaryCalls.searching {whoAmI : UInt8} {bus left : β} {calls : List Event}
    (called : PrimaryCalls whoAmI bus calls left) (settleDelay : UInt32)
    (candidates : CandidateList) : ∀ event ∈ calls, event.IsSearching settleDelay candidates := by
  rw [called.1]
  refine List.forall_mem_cons.mpr ⟨Event.isSearching_ofRead .., ?_⟩
  split
  · refine List.forall_mem_cons.mpr ⟨Event.isSearching_ofRead .., ?_⟩
    split
    · exact List.forall_mem_singleton.mpr (Event.isSearching_ofRead ..)
    · exact List.forall_mem_nil _
  · exact List.forall_mem_nil _

/-- These are the calls of one search, in order, and this is the board that they leave. Each call
meets the board as the one before it left it. -/
def Footprint (settleDelay : UInt32) (candidates : CandidateList) (bus : β) (events : List Event)
    (left : β) : Prop :=
  let identity := PrimaryTransport.readRegisters 0x75 (Vector.replicate 1 0) bus
  ∃ rest, events = .delay settleDelay :: .ofRead .primary 0x75 identity.1 :: rest ∧
    (identity.1.ack = false → Asked candidates.entries identity.2 rest left) ∧
    (identity.1.ack = true → PrimaryCalls identity.1.buffer[0]! identity.2 rest left)

theorem footprint_search (settleDelay : UInt32) (candidates : CandidateList) (bus : β) :
    let done := (search settleDelay candidates).run bus
    Footprint settleDelay candidates bus done.events done.state := by
  intro done
  cases answered : (PrimaryTransport.readRegisters 0x75 (Vector.replicate 1 0) bus).1.ack with
  | false =>
    have run : done = _ := search_run_of_refused settleDelay candidates answered
    refine ⟨_, congrArg Outcome.events run, fun _ => ?_, fun contrary => ?_⟩
    · rw [run]
      exact asked_ofCandidates candidates.entries _
    · rw [answered] at contrary
      cases contrary
  | true =>
    have run : done = _ := search_run_of_answered settleDelay candidates answered
    refine ⟨_, congrArg Outcome.events run, fun contrary => ?_, fun _ => ?_⟩
    · rw [answered] at contrary
      cases contrary
    · rw [run, ← ReadReply.byte_eq]
      exact primaryCalls_onPrimary _ _

theorem Footprint.searching {settleDelay : UInt32} {candidates : CandidateList} {bus left : β}
    {events : List Event} (footprint : Footprint settleDelay candidates bus events left) :
    ∀ event ∈ events, event.IsSearching settleDelay candidates := by
  obtain ⟨rest, rfl, refused, answered⟩ := footprint
  refine List.forall_mem_cons.mpr ⟨.inl rfl, List.forall_mem_cons.mpr
    ⟨Event.isSearching_ofRead .., ?_⟩⟩
  cases ack : (PrimaryTransport.readRegisters 0x75 (Vector.replicate 1 0) bus).1.ack with
  | false =>
    intro event member
    obtain ⟨candidate, listed, claimed, rfl⟩ := (refused ack).probes event member
    exact Event.isSearching_probe listed claimed
  | true => exact (answered ack).searching settleDelay candidates

end Finding

namespace Simulator

/-- The boards differ at most in how many reads the chip on the primary transport has counted. -/
def SameChips (board left : SimulatedBoard) : Prop :=
  left.secondary = board.secondary ∧ ∃ reads, left.primary =
    { board.primary with controller := { board.primary.controller with reads := reads } }

theorem SameChips.trans {first second third : SimulatedBoard} (earlier : SameChips first second)
    (later : SameChips second third) : SameChips first third := by
  obtain ⟨secondary, reads, primary⟩ := earlier
  obtain ⟨laterSecondary, laterReads, laterPrimary⟩ := later
  exact ⟨laterSecondary.trans secondary, laterReads, by rw [laterPrimary, primary]⟩

theorem sameChips_ask (size : Nat) (register : UInt8) (board : SimulatedBoard) :
    SameChips board (Event.ask size .primary register board).2 :=
  ⟨rfl, board.primary.controller.reads + 1, rfl⟩

theorem afterAsking_board (list : List Candidate) (board : SimulatedBoard) :
    Finding.afterAsking list board = board := by
  induction list with
  | nil => rfl
  | cons candidate rest ih => exact ih

theorem board_of_asked {list : List Candidate} {board left : SimulatedBoard}
    {events : List Event} (asked : Finding.Asked list board events left) :
    left = board := by
  rcases asked with ⟨_, _, rfl⟩ | ⟨declined, claimer, unasked, _, _, _, _, rfl⟩
  · exact afterAsking_board list board
  · exact afterAsking_board declined board

theorem sameChips_of_primaryCalls {whoAmI : UInt8} {board left : SimulatedBoard}
    {calls : List Event} (called : Finding.PrimaryCalls whoAmI board calls left) :
    SameChips board left := by
  have first := sameChips_ask 1 0x00 board
  have second := first.trans (sameChips_ask 6 0x06 _)
  rw [called.2]
  split
  · split
    · exact second.trans (sameChips_ask 1 0x0C _)
    · exact second
  · exact first

theorem sameChips_of_footprint {settleDelay : UInt32} {candidates : CandidateList}
    {board left : SimulatedBoard} {events : List Event}
    (footprint : Finding.Footprint settleDelay candidates board events left) :
    SameChips board left := by
  obtain ⟨rest, _, refused, answered⟩ := footprint
  have identity := sameChips_ask 1 0x75 board
  cases ack : (PrimaryTransport.readRegisters 0x75 (Vector.replicate 1 0) board).1.ack with
  | false =>
    rw [board_of_asked (refused ack)]
    exact identity
  | true => exact identity.trans (sameChips_of_primaryCalls (answered ack))

end Simulator

namespace Finding

/-- The calls of a search on any board, and the board that they leave. The chips of a simulated
board stay as they are. -/
theorem search_footprint {β : Type} [Bus β] (settleDelay : UInt32) (candidates : CandidateList) :
    (∀ bus : β,
      let done := (search settleDelay candidates).run bus
      Footprint settleDelay candidates bus done.events done.state ∧
        ∀ event ∈ done.events, event.IsSearching settleDelay candidates) ∧
    ∀ board : Simulator.SimulatedBoard,
      Simulator.SameChips board ((search settleDelay candidates).run board).state := by
  constructor
  · intro bus done
    have footprint := footprint_search settleDelay candidates bus
    exact ⟨footprint, footprint.searching⟩
  · intro board
    exact Simulator.sameChips_of_footprint (footprint_search settleDelay candidates board)

end Finding

end Imu
