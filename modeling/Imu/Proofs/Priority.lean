import Imu.Proofs.Search
import Imu.Simulator.Callback

/-!
The candidate list as a bounded list of priorities. As many candidates are kept as there is room
for, in the order in which they were put forward, and a board on which the primary transport does
not answer is claimed by the first of them that would have it. A candidate that was refused has no
part in that.
-/

namespace Imu

namespace CandidateList

/-- Attempts are accepted as long as there is room and refused from then on, and what is accepted
is appended. -/
theorem pushAll_eq (list : CandidateList) (attempts : List Candidate) :
    (list.pushAll attempts).1 =
        List.replicate (min attempts.length (capacity - list.length)) (.ok ()) ++
          List.replicate (attempts.length - (capacity - list.length)) (.error .listFull) ∧
      (list.pushAll attempts).2.entries =
        list.entries ++ attempts.take (capacity - list.length) := by
  induction attempts generalizing list with
  | nil => simp [pushAll]
  | cons candidate rest ih =>
    by_cases room : list.length < capacity
    · obtain ⟨longer, pushed, entries⟩ := push_of_room candidate room
      obtain ⟨results, kept⟩ := ih longer
      have left : capacity - list.length = (capacity - longer.length) + 1 := by
        have length : longer.length = list.length + 1 := by simp [length, entries]
        omega
      rw [pushAll, pushed]
      constructor
      · simp [results, left, List.replicate_succ, Nat.add_min_add_right]
      · simp [kept, entries, left]
    · obtain ⟨results, kept⟩ := ih list
      have left : capacity - list.length = 0 := by omega
      rw [left] at results kept
      rw [pushAll, push_of_full candidate room]
      constructor
      · simp [results, left, List.replicate_succ]
      · simp [kept, left]

theorem entries_pushAll_empty (attempts : List Candidate) :
    (empty.pushAll attempts).2.entries = attempts.take 8 :=
  (pushAll_eq empty attempts).2

theorem eq_of_entries {first second : CandidateList} (same : first.entries = second.entries) :
    first = second := by
  cases first
  cases second
  cases same
  rfl

theorem push_or_full (list : CandidateList) (candidate : Candidate) :
    (list.length < 8 ∧ ∃ longer, list.push candidate = .ok longer ∧
      longer.entries = list.entries ++ [candidate] ∧
      list.pushAll [candidate] = ([.ok ()], longer)) ∨
    list.length = 8 ∧ list.push candidate = .error .listFull ∧
      list.pushAll [candidate] = ([.error .listFull], list) := by
  by_cases room : list.length < capacity
  · obtain ⟨longer, pushed, entries⟩ := push_of_room candidate room
    exact .inl ⟨room, longer, pushed, entries, by rw [pushAll, pushed]; rfl⟩
  · have full := push_of_full candidate room
    have bounded : list.length ≤ capacity := list.bounded
    refine .inr ⟨?_, full, by rw [pushAll, full]; rfl⟩
    exact Nat.le_antisymm bounded (Nat.not_lt.mp room)

end CandidateList

namespace Finding

variable {β : Type} [Bus β]

def declinedProbes (declined : List Candidate) : List Event :=
  declined.map fun candidate => .access (.probe candidate.routine false)

theorem ofCandidates_run_of_decline {list : List Candidate} {bus : β}
    (decline : AllDecline list bus) :
    (ofCandidates list).run bus = ⟨nothing, declinedProbes list, afterAsking list bus⟩ := by
  induction list generalizing bus with
  | nil => rfl
  | cons candidate rest ih =>
    rw [ofCandidates_cons_run]
    simp [decline.1, ih decline.2, declinedProbes, afterAsking]

theorem ofCandidates_run_of_claim {declined : List Candidate} {claimer : Candidate}
    (unasked : List Candidate) {bus : β} (decline : AllDecline declined bus)
    (claims : (ChipDrivers.probe claimer.routine (afterAsking declined bus)).1 = true) :
    (ofCandidates (declined ++ claimer :: unasked)).run bus =
      ⟨claimedBy claimer, declinedProbes declined ++ [.access (.probe claimer.routine true)],
        (ChipDrivers.probe claimer.routine (afterAsking declined bus)).2⟩ := by
  induction declined generalizing bus with
  | nil =>
    rw [List.nil_append, ofCandidates_cons_run]
    rw [afterAsking] at claims
    simp [claims, declinedProbes, afterAsking]
  | cons candidate rest ih =>
    rw [List.cons_append, ofCandidates_cons_run]
    simp [decline.1, ih decline.2 claims, declinedProbes, afterAsking]

theorem allDecline_or_claim (list : List Candidate) (bus : β) :
    AllDecline list bus ∨ ∃ declined claimer unasked, list = declined ++ claimer :: unasked ∧
      AllDecline declined bus ∧
      (ChipDrivers.probe claimer.routine (afterAsking declined bus)).1 = true := by
  rcases ofCandidates_run list bus with
    ⟨decline, _⟩ | ⟨declined, claimer, unasked, split, decline, claims, _⟩
  · exact .inl decline
  · exact .inr ⟨declined, claimer, unasked, split, decline, claims⟩

/-- The candidate of this rank claims the chip, and none of those before it does. -/
structure ClaimedAt (attempts : List Candidate) (bus : β) (rank : Nat) (claimer : Candidate) :
    Prop where
  kept : rank < 8
  ranked : attempts[rank]? = some claimer
  declined : AllDecline (attempts.take rank) bus
  claims : (ChipDrivers.probe claimer.routine (afterAsking (attempts.take rank) bus)).1 = true

theorem ClaimedAt.split {attempts : List Candidate} {bus : β} {rank : Nat} {claimer : Candidate}
    (first : ClaimedAt attempts bus rank claimer) :
    ∃ unasked, attempts.take 8 = attempts.take rank ++ claimer :: unasked := by
  have kept := first.kept
  have ranked : (attempts.take 8)[rank]? = some claimer := by
    rw [List.getElem?_take_of_lt kept, first.ranked]
  obtain ⟨inside, same⟩ := List.getElem?_eq_some_iff.mp ranked
  refine ⟨(attempts.take 8).drop (rank + 1), ?_⟩
  calc
    attempts.take 8 = (attempts.take 8).take rank ++ (attempts.take 8).drop rank :=
      (List.take_append_drop ..).symm
    _ = attempts.take rank ++ claimer :: (attempts.take 8).drop (rank + 1) := by
      rw [List.take_take, Nat.min_eq_left (Nat.le_of_lt kept), List.drop_eq_getElem_cons inside,
        same]

theorem claimedAt_of_split {attempts declined unasked : List Candidate} {claimer : Candidate}
    {bus : β} (split : attempts.take 8 = declined ++ claimer :: unasked)
    (decline : AllDecline declined bus)
    (claims : (ChipDrivers.probe claimer.routine (afterAsking declined bus)).1 = true) :
    ClaimedAt attempts bus declined.length claimer := by
  -- The claimer is one of the eight that were kept, so those before it are fewer.
  have kept : declined.length < 8 := by
    have bound := List.length_take_le 8 attempts
    rw [split, List.length_append, List.length_cons] at bound
    omega
  have before : attempts.take declined.length = declined := by
    rw [← Nat.min_eq_left (Nat.le_of_lt kept), ← List.take_take, split, List.take_left]
  have ranked : attempts[declined.length]? = some claimer := by
    rw [← List.getElem?_take_of_lt kept, split, List.getElem?_append_right (Nat.le_refl _),
      Nat.sub_self]
    rfl
  exact ⟨kept, ranked, by rwa [before], by rwa [before]⟩

/-- There is room for eight candidates. They are asked in the order in which they were put on the
list, up to the first that claims the chip. -/
theorem candidates_are_asked_by_priority (attempts : List Candidate) :
    let made := CandidateList.empty.pushAll attempts
    made.1 = List.replicate (min attempts.length 8) (.ok ()) ++
        List.replicate (attempts.length - 8) (.error .listFull) ∧
    (∀ count,
      let list := (CandidateList.empty.pushAll (attempts.take count)).2
      list.entries = attempts.take (min count 8) ∧
        list.length = min (min count 8) attempts.length ∧
        (list.isEmpty = true ↔ list.length = 0)) ∧
    (∀ (list : CandidateList) (candidate : Candidate),
      (list.length < 8 ∧ ∃ longer, list.push candidate = .ok longer ∧
        longer.entries = list.entries ++ [candidate] ∧
        list.pushAll [candidate] = ([.ok ()], longer)) ∨
      list.length = 8 ∧ list.push candidate = .error .listFull ∧
        list.pushAll [candidate] = ([.error .listFull], list)) ∧
    (∀ others : List Candidate, others.take 8 = attempts.take 8 →
      (CandidateList.empty.pushAll others).2 = made.2) ∧
    ∀ (settleDelay : UInt32) (bus : β),
      let identity := Event.ask 1 .primary 0x75 bus
      let opening := [.delay settleDelay, .ofRead .primary 0x75 identity.1]
      let done := (search settleDelay made.2).run bus
      identity.1.ack = false →
        (AllDecline (attempts.take 8) identity.2 ∨
          ∃ rank claimer, ClaimedAt attempts identity.2 rank claimer) ∧
        (AllDecline (attempts.take 8) identity.2 →
          done = ⟨.ok ⟨none, .undetected⟩, opening ++ declinedProbes (attempts.take 8),
            afterAsking (attempts.take 8) identity.2⟩) ∧
        ∀ rank claimer, ClaimedAt attempts identity.2 rank claimer →
          done = ⟨.ok ⟨some claimer.binding, ⟨claimer.family, none⟩⟩,
            opening ++ (declinedProbes (attempts.take rank) ++
              [.access (.probe claimer.routine true)]),
            (ChipDrivers.probe claimer.routine
              (afterAsking (attempts.take rank) identity.2)).2⟩ := by
  intro made
  have entries : made.2.entries = attempts.take 8 := CandidateList.entries_pushAll_empty attempts
  refine ⟨(CandidateList.pushAll_eq .empty attempts).1, ?moments, CandidateList.push_or_full,
    ?refused, ?found⟩
  case moments =>
    intro count list
    have kept : list.entries = attempts.take (min count 8) := by
      rw [CandidateList.entries_pushAll_empty, List.take_take, Nat.min_comm]
    refine ⟨kept, ?_, ?_⟩
    · rw [CandidateList.length, kept, List.length_take]
    · rw [CandidateList.isEmpty, List.isEmpty_iff, CandidateList.length, List.length_eq_zero_iff]
  case refused =>
    intro others same
    apply CandidateList.eq_of_entries
    rw [CandidateList.entries_pushAll_empty, same, entries]
  case found =>
    intro settleDelay bus identity opening done refused
    let asked := (ofCandidates (attempts.take 8)).run identity.2
    have run : done = ⟨.ok asked.value, opening ++ asked.events, asked.state⟩ := by
      have searched := search_run_of_refused settleDelay made.2 refused
      rwa [entries] at searched
    refine ⟨?_, fun decline => ?_, fun rank claimer first => ?_⟩
    · refine (allDecline_or_claim (attempts.take 8) identity.2).imp_right ?_
      rintro ⟨declined, claimer, unasked, split, decline, claims⟩
      exact ⟨declined.length, claimer, claimedAt_of_split split decline claims⟩
    · have all : asked = _ := ofCandidates_run_of_decline decline
      rw [run, all]
      rfl
    · obtain ⟨unasked, split⟩ := first.split
      have upTo : asked = _ :=
        (congrArg (fun list => (ofCandidates list).run identity.2) split).trans
          (ofCandidates_run_of_claim unasked first.declined first.claims)
      rw [run, upTo]
      rfl

end Finding

namespace Simulator

def crowd : List Candidate :=
  (List.range 10).map fun number => ⟨.mpu9250Spi, number, .primary (UInt8.ofNat number)⟩

/-- Nothing is on the primary transport, and three drivers would have the chip. -/
def contested : SimulatedBoard := ⟨{ controller := .absent }, { claims := [9, 7, 3] }⟩

theorem contested_is_claimed_by_priority :
    let made := CandidateList.empty.pushAll crowd
    let identity := Event.ask 1 .primary 0x75 contested
    identity.1.ack = false ∧
      made.1 = List.replicate 8 (.ok ()) ++ List.replicate 2 (.error .listFull) ∧
      made.2.entries = crowd.take 8 ∧
      ((Finding.search 35 made.2).run contested).value =
        .ok ⟨some (.primary 3), ⟨.mpu9250Spi, none⟩⟩ := by
  intro made identity
  have refused : identity.1.ack = false := rfl
  obtain ⟨accepted, moments, _, _, search⟩ :=
    Finding.candidates_are_asked_by_priority (β := SimulatedBoard) crowd
  obtain ⟨_, _, claimed⟩ := search 35 contested refused
  have first : Finding.ClaimedAt crowd identity.2 3 ⟨.mpu9250Spi, 3, .primary 3⟩ :=
    ⟨by decide, rfl, ⟨rfl, rfl, rfl, trivial⟩, rfl⟩
  exact ⟨refused, accepted, (moments 10).1, congrArg Outcome.value (claimed 3 _ first)⟩

end Simulator

end Imu
