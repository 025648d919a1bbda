import Imu.Proofs.Callbacks

/-!
The timing of edges. A timed edge is recorded as its handling ends, so an edge that is raised while
another is handled is recorded first, though it was entered last. The record is sane, with a clock
that does not wrap, as long as no edge is overtaken in this way.
-/

namespace Imu

theorem EdgeRecord.eq_after {record previous : EdgeRecord} {entry exit start finish : UInt32}
    (follows : record = previous.after start finish) (starts : record.lastEdge = some entry)
    (lasts : record.handler = exit - entry) : record = previous.after entry exit := by
  subst follows
  cases starts
  rw [EdgeRecord.after, EdgeRecord.after, ← lasts]
  rfl

namespace LatchEvent

variable {γ : Type}

def reading? : LatchEvent γ → Option UInt32
  | .clockRead value => some value
  | _ => none

def clockReadings (events : List (LatchEvent γ)) : List UInt32 := events.filterMap reading?

def entryRecorded? (index : Nat) : LatchEvent γ → Option UInt32
  | .recorded latch record => if latch = index then record.lastEdge else none
  | _ => none

/-- The times at which the timed edges of the latch were entered, in the order in which they are
recorded. -/
def recordedEntries (index : Nat) (events : List (LatchEvent γ)) : List UInt32 :=
  events.filterMap (entryRecorded? index)

def recording (index : Nat) (previous : EdgeRecord) : LatchEvent γ → EdgeRecord
  | .recorded latch record => if index = latch then record else previous
  | _ => previous

def timingAfter (index : Nat) (previous : EdgeRecord) (events : List (LatchEvent γ)) :
    EdgeRecord :=
  events.foldl (recording index) previous

/-- A timed edge of the latch, from the reading of the clock as it is entered to its record. -/
structure TimedEdge (index : Nat) (events : List (LatchEvent γ)) where
  before : List (LatchEvent γ)
  entry : UInt32
  within : List (LatchEvent γ)
  exit : UInt32
  record : EdgeRecord
  later : List (LatchEvent γ)
  split : events = before ++ .clockRead entry :: .entered index :: (within ++ [.clockRead exit]) ++
    .recorded index record :: later
  starts : record.lastEdge = some entry
  lasts : record.handler = exit - entry

namespace TimedEdge

variable {index : Nat} {events : List (LatchEvent γ)}

def IsFirst (edge : TimedEdge index events) : Prop :=
  ∀ other : TimedEdge index events, edge.before.length ≤ other.before.length

def earlier (edge : TimedEdge index events) : List (LatchEvent γ) :=
  edge.before ++ .clockRead edge.entry :: .entered index :: (edge.within ++ [.clockRead edge.exit])

/-- While the edge is handled, one that is entered at a later time is recorded. -/
def Overtaken (edge : TimedEdge index events) : Prop :=
  ∃ record entry, .recorded index record ∈ edge.within ∧ record.lastEdge = some entry ∧
    edge.entry < entry

end TimedEdge

/-- The interval is never longer than the time that has passed since the first timed edge was
entered, and the last edge is never earlier than one that has been recorded. -/
structure SaneTiming (index : Nat) (events : List (LatchEvent γ)) : Prop where
  bounded : ∀ first : TimedEdge index events, first.IsFirst → ∀ since later,
    events = first.before ++ .clockRead first.entry :: since ++ later →
      (timingAfter index {} (first.before ++ .clockRead first.entry :: since)).interval.toNat ≤
        ((clockReadings since).getLastD first.entry).toNat - first.entry.toNat
  forward : ∀ earlier later, events = earlier ++ later → ∀ record entry,
    .recorded index record ∈ earlier → record.lastEdge = some entry →
      ∃ last, (timingAfter index {} earlier).lastEdge = some last ∧ entry ≤ last

/-- What is recorded of the latch is that of a timed edge, following what was recorded before. -/
def KeepsTime (index : Nat) (events : List (LatchEvent γ)) : Prop :=
  ∀ earlier record later, events = earlier ++ .recorded index record :: later →
    ∃ edge : TimedEdge index events, edge.earlier = earlier ∧ edge.record = record ∧
      edge.later = later ∧ record = (timingAfter index {} earlier).after edge.entry edge.exit

/-- Every record closes a timed edge on its latch. -/
def Closes (events : List (LatchEvent γ)) : Prop :=
  ∀ earlier index record later, events = earlier ++ .recorded index record :: later →
    ∃ before entry within exit,
      earlier = before ++ .clockRead entry :: .entered index :: (within ++ [.clockRead exit]) ∧
        record.lastEdge = some entry ∧ record.handler = exit - entry

variable {index : Nat} {previous : EdgeRecord} {earlier later events : List (LatchEvent γ)}

theorem clockReadings_append :
    clockReadings (earlier ++ later) = clockReadings earlier ++ clockReadings later :=
  List.filterMap_append

theorem clockReadings_clockRead (value : UInt32) :
    clockReadings (.clockRead value :: events) = value :: clockReadings events := rfl

theorem timingAfter_append :
    timingAfter index previous (earlier ++ later) =
      timingAfter index (timingAfter index previous earlier) later := List.foldl_append

theorem timingAfter_recorded (record : EdgeRecord) :
    timingAfter index previous (earlier ++ [.recorded index record]) = record := by
  rw [timingAfter_append]
  exact if_pos rfl

theorem recording_cases (index : Nat) (previous : EdgeRecord) (event : LatchEvent γ) :
    event = .recorded index (event.recording index previous) ∨
      event.recording index previous = previous ∧ ∀ record, .recorded index record ≠ event := by
  cases event with
  | recorded latch record =>
    by_cases same : index = latch
    · subst same
      exact .inl (congrArg _ (if_pos rfl).symm)
    · exact .inr ⟨if_neg same, fun other equal => same (LatchEvent.recorded.inj equal).1⟩
  | _ => exact .inr ⟨rfl, nofun⟩

theorem timingAfter_cases (index : Nat) (previous : EdgeRecord) (events : List (LatchEvent γ)) :
    timingAfter index previous events = previous ∧ (∀ record, .recorded index record ∉ events) ∨
      ∃ earlier later, events =
        earlier ++ .recorded index (timingAfter index previous events) :: later ∧
          ∀ record, .recorded index record ∉ later := by
  induction events generalizing previous with
  | nil => exact .inl ⟨rfl, fun _ => List.not_mem_nil⟩
  | cons event rest ih =>
    change timingAfter index (event.recording index previous) rest = previous ∧ _ ∨
      ∃ earlier later, event :: rest = earlier ++
        .recorded index (timingAfter index (event.recording index previous) rest) :: later ∧ _
    rcases ih (event.recording index previous) with ⟨kept, none⟩ | ⟨earlier, later, split, none⟩
    · rw [kept]
      rcases recording_cases index previous event with recorded | ⟨same, other⟩
      · exact .inr ⟨[], rest, congrArg (List.cons · rest) recorded, none⟩
      · refine .inl ⟨same, fun record member => ?_⟩
        rcases List.mem_cons.mp member with equal | member
        · exact other record equal
        · exact none record member
    · exact .inr ⟨event :: earlier, later, congrArg (List.cons event) split, none⟩

theorem le_of_ordered {entry value : UInt32} (ordered : (clockReadings events).Pairwise (· ≤ ·))
    (split : events = earlier ++ .clockRead value :: later)
    (member : .clockRead entry ∈ earlier) : entry ≤ value := by
  rw [split, clockReadings_append, clockReadings_clockRead] at ordered
  have read : entry ∈ clockReadings earlier := List.mem_filterMap.mpr ⟨_, member, rfl⟩
  exact (List.pairwise_append.mp ordered).2.2 entry read value (List.mem_cons_self ..)

theorem le_getLastD {first : UInt32} {rest : List UInt32}
    (ordered : (first :: rest).Pairwise (· ≤ ·)) :
    ∀ value ∈ first :: rest, value ≤ rest.getLastD first := by
  induction rest generalizing first with
  | nil => exact List.forall_mem_singleton.mpr (UInt32.le_refl first)
  | cons next rest ih =>
    obtain ⟨least, later⟩ := List.pairwise_cons.mp ordered
    have last := ih later
    rw [List.getLastD_cons]
    refine List.forall_mem_cons.mpr ⟨?_, last⟩
    exact UInt32.le_trans (least next (List.mem_cons_self ..)) (last next (List.mem_cons_self ..))

theorem le_getLastD_of_ordered {first entry : UInt32} {since : List (LatchEvent γ)}
    (ordered : (clockReadings events).Pairwise (· ≤ ·))
    (moment : events = earlier ++ .clockRead first :: since ++ later)
    (past : .clockRead entry ∈ earlier ++ .clockRead first :: since) :
    entry ≤ (clockReadings since).getLastD first := by
  have split : events = earlier ++ .clockRead first :: (since ++ later) := by simpa using moment
  have readings := ordered
  rw [moment, clockReadings_append, clockReadings_append] at readings
  have last := le_getLastD (List.pairwise_append.mp (List.pairwise_append.mp readings).1).2.1
  rcases List.mem_append.mp past with before | member
  · exact UInt32.le_trans (le_of_ordered ordered split before) (last first (List.mem_cons_self ..))
  · have read : entry ∈ clockReadings (.clockRead first :: since) :=
      List.mem_filterMap.mpr ⟨_, member, rfl⟩
    exact last entry read

namespace TimedEdge

theorem split_entry (edge : TimedEdge index events) : events = edge.before ++
    .clockRead edge.entry :: .entered index :: (edge.within ++ [.clockRead edge.exit] ++
      .recorded index edge.record :: edge.later) :=
  edge.split.trans (by simp)

theorem split_record (edge : TimedEdge index events) :
    events = edge.earlier ++ .recorded index edge.record :: edge.later := edge.split

theorem entry_mem (edge : TimedEdge index events) : .clockRead edge.entry ∈ edge.earlier := by
  simp [TimedEdge.earlier]

theorem entry_le (ordered : (clockReadings events).Pairwise (· ≤ ·))
    (first second : TimedEdge index events)
    (sooner : first.before.length ≤ second.before.length) : first.entry ≤ second.entry := by
  have splits := first.split_entry.symm.trans second.split_entry
  rcases List.append_eq_append_iff.mp splits with ⟨gap, reaches, same⟩ | ⟨gap, reaches, same⟩
  · cases gap with
    | nil =>
      exact UInt32.le_of_eq (LatchEvent.clockRead.inj (List.cons.inj same).1)
    | cons event rest =>
      -- The first edge is entered before the second one is.
      obtain ⟨rfl, _⟩ := List.cons.inj same
      exact le_of_ordered ordered second.split_entry (by simp [reaches])
  · have none : gap = [] := by
      rw [reaches, List.length_append] at sooner
      exact List.length_eq_zero_iff.mp (by omega)
    rw [none] at same
    exact UInt32.le_of_eq (LatchEvent.clockRead.inj (List.cons.inj same).1).symm

theorem le_entry (ordered : (clockReadings events).Pairwise (· ≤ ·))
    (keeps : KeepsTime index events) (edge : TimedEdge index events) (fair : ¬edge.Overtaken)
    {record : EdgeRecord} {entry : UInt32} (member : .recorded index record ∈ edge.earlier)
    (starts : record.lastEdge = some entry) : entry ≤ edge.entry := by
  have place : .recorded index record ∈ edge.before ∨ .recorded index record ∈ edge.within := by
    simpa [TimedEdge.earlier] using member
  rcases place with before | within
  · obtain ⟨earlier, later, reached⟩ := List.append_of_mem before
    have split : events = earlier ++ .recorded index record :: (later ++
        .clockRead edge.entry :: .entered index :: (edge.within ++ [.clockRead edge.exit] ++
          .recorded index edge.record :: edge.later)) := by
      simpa [reached] using edge.split_entry
    obtain ⟨other, rfl, rfl, _, _⟩ := keeps earlier record _ split
    cases other.starts.symm.trans starts
    refine le_of_ordered ordered edge.split_entry ?_
    rw [reached]
    exact List.mem_append_left _ other.entry_mem
  · exact UInt32.not_lt.mp fun later => fair ⟨record, entry, within, starts, later⟩

end TimedEdge

theorem KeepsTime.last (keeps : KeepsTime index events) (moment : events = earlier ++ later) :
    timingAfter index {} earlier = {} ∧ (∀ record, .recorded index record ∉ earlier) ∨
      ∃ (edge : TimedEdge index events) (since : List (LatchEvent γ)),
        earlier = edge.earlier ++ .recorded index edge.record :: since ∧
        (∀ record, .recorded index record ∉ since) ∧
        timingAfter index {} earlier = edge.record ∧
        edge.record = (timingAfter index {} edge.earlier).after edge.entry edge.exit := by
  rcases timingAfter_cases index {} earlier with idle | ⟨first, since, reached, none⟩
  · exact .inl idle
  · right
    generalize timingAfter index {} earlier = record at reached ⊢
    have split : events = first ++ .recorded index record :: (since ++ later) := by
      simpa [reached] using moment
    obtain ⟨edge, rfl, rfl, _, follows⟩ := keeps first record _ split
    exact ⟨edge, since, reached, none, rfl, follows⟩

theorem KeepsTime.up_to (keeps : KeepsTime index (earlier ++ later)) : KeepsTime index earlier := by
  intro before record after split
  obtain ⟨edge, same, rfl, _, follows⟩ := keeps before record (after ++ later) (by simp [split])
  have upTo : earlier = edge.earlier ++ .recorded index edge.record :: after :=
    split.trans (congrArg (· ++ .recorded index edge.record :: after) same.symm)
  exact ⟨⟨edge.before, edge.entry, edge.within, edge.exit, edge.record, after, upTo, edge.starts,
    edge.lasts⟩, same, rfl, rfl, follows⟩

section

variable (ordered : (clockReadings events).Pairwise (· ≤ ·)) (keeps : KeepsTime index events)
  (fair : ∀ edge : TimedEdge index events, ¬edge.Overtaken)

include ordered keeps fair

theorem forward_of_fair {record : EdgeRecord} {entry : UInt32} (moment : events = earlier ++ later)
    (member : .recorded index record ∈ earlier) (starts : record.lastEdge = some entry) :
    ∃ last, (timingAfter index {} earlier).lastEdge = some last ∧ entry ≤ last := by
  rcases keeps.last moment with ⟨_, none⟩ | ⟨edge, since, reached, none, timed, _⟩
  · exact absurd member (none record)
  · rw [timed]
    refine ⟨edge.entry, edge.starts, ?_⟩
    rw [reached, List.mem_append, List.mem_cons] at member
    rcases member with before | equal | after
    · exact edge.le_entry ordered keeps (fair edge) before starts
    · rw [(LatchEvent.recorded.inj equal).2, edge.starts] at starts
      exact UInt32.le_of_eq (Option.some.inj starts).symm
    · exact absurd after (none record)

theorem bounded_of_fair {first : TimedEdge index events} (isFirst : first.IsFirst)
    {since : List (LatchEvent γ)}
    (moment : events = first.before ++ .clockRead first.entry :: since ++ later) :
    (timingAfter index {} (first.before ++ .clockRead first.entry :: since)).interval.toNat ≤
      ((clockReadings since).getLastD first.entry).toNat - first.entry.toNat := by
  rcases keeps.last moment with ⟨idle, _⟩ | ⟨edge, after, reached, _, timed, follows⟩
  · rw [idle]
    exact Nat.zero_le _
  rcases keeps.last edge.split_record with ⟨idle, _⟩ | ⟨previous, between, sooner, _, before, _⟩
  · rw [timed, follows, EdgeRecord.after, idle]
    exact Nat.zero_le _
  -- The first edge, the one before the last, the last and now, in the order of the clock.
  have begun : first.entry ≤ previous.entry := first.entry_le ordered previous (isFirst previous)
  have recorded : .recorded index previous.record ∈ edge.earlier :=
    sooner ▸ List.mem_append_right _ (List.mem_cons_self ..)
  have entered : previous.entry ≤ edge.entry :=
    edge.le_entry ordered keeps (fair edge) recorded previous.starts
  have past : .clockRead edge.entry ∈ first.before ++ .clockRead first.entry :: since :=
    reached ▸ List.mem_append_left _ edge.entry_mem
  have now := le_getLastD_of_ordered ordered moment past
  have interval : edge.record.interval = edge.entry - previous.entry := by
    rw [follows, before, EdgeRecord.after, previous.starts]
  rw [timed, interval, UInt32.toNat_sub_of_le _ _ entered]
  rw [UInt32.le_iff_toNat_le] at begun entered now
  omega

end

theorem TimedEdge.not_overtaken (edge : TimedEdge index events)
    (inOrder : (recordedEntries index events).Pairwise (· ≤ ·)) : ¬edge.Overtaken := by
  rintro ⟨record, entry, within, starts, later⟩
  -- The edge that overtakes is listed before this one, with a later entry.
  have recorded : .recorded index record ∈ edge.earlier := by simp [TimedEdge.earlier, within]
  have nested : entry ∈ recordedEntries index edge.earlier :=
    List.mem_filterMap.mpr ⟨_, recorded, by simp [entryRecorded?, starts]⟩
  have entries : recordedEntries index events = recordedEntries index edge.earlier ++
      edge.entry :: recordedEntries index edge.later := by
    refine (congrArg (recordedEntries index) edge.split_record).trans ?_
    simp [recordedEntries, entryRecorded?, edge.starts]
  rw [entries] at inOrder
  have order := (List.pairwise_append.mp inOrder).2.2 entry nested edge.entry
  exact UInt32.not_le.mpr later (order (List.mem_cons_self ..))

/-- The timing is sane if and only if no edge is overtaken. -/
theorem saneTiming_iff (ordered : (clockReadings events).Pairwise (· ≤ ·))
    (keeps : KeepsTime index events) :
    SaneTiming index events ↔ ∀ edge : TimedEdge index events, ¬edge.Overtaken := by
  constructor
  · intro sane edge ⟨record, entry, within, starts, later⟩
    have moment : events = edge.earlier ++ [.recorded index edge.record] ++ edge.later :=
      edge.split.trans (by simp [TimedEdge.earlier])
    have member : .recorded index record ∈ edge.earlier ++ [.recorded index edge.record] := by
      simp [TimedEdge.earlier, within]
    obtain ⟨last, timed, forward⟩ := sane.forward _ _ moment record entry member starts
    rw [timingAfter_recorded, edge.starts] at timed
    cases timed
    exact UInt32.not_le.mpr later forward
  · exact fun fair => ⟨fun _ isFirst _ _ => bounded_of_fair ordered keeps fair isFirst,
      fun _ _ moment _ _ => forward_of_fair ordered keeps fair moment⟩

theorem closes_of_unrecorded (none : ∀ index record, .recorded index record ∉ events) :
    Closes events := by
  rintro earlier index record later rfl
  exact absurd (List.mem_append_right _ (List.mem_cons_self ..)) (none index record)

theorem Closes.append (first : Closes earlier) (second : Closes later) :
    Closes (earlier ++ later) := by
  intro before index record after split
  rcases List.append_eq_append_iff.mp split with ⟨gap, rfl, rest⟩ | ⟨gap, reached, rest⟩
  · obtain ⟨start, entry, within, exit, rfl, told⟩ := second gap index record after rest
    exact ⟨earlier ++ start, entry, within, exit, (List.append_assoc ..).symm, told⟩
  · cases gap with
    | nil =>
      obtain ⟨start, entry, within, exit, none, _⟩ := second [] index record after rest.symm
      simp at none
    | cons event gap =>
      obtain ⟨rfl, _⟩ := List.cons.inj rest
      exact first before index record gap reached

theorem Closes.close {entry exit : UInt32} {record : EdgeRecord}
    (body : Closes (.clockRead entry :: .entered index :: events))
    (starts : record.lastEdge = some entry) (lasts : record.handler = exit - entry) :
    Closes (.clockRead entry :: .entered index :: events ++
      [.clockRead exit, .recorded index record]) := by
  intro before latch other after split
  rcases List.append_eq_append_iff.mp split with ⟨gap, rfl, rest⟩ | ⟨gap, reached, rest⟩
  · rcases gap with _ | ⟨reading, _ | ⟨_, _⟩⟩
    · cases rest
    · cases rest
      exact ⟨[], entry, events, exit, by simp, starts, lasts⟩
    · simp at rest
  · cases gap with
    | nil => cases rest
    | cons event gap =>
      obtain ⟨rfl, _⟩ := List.cons.inj rest
      exact body before latch other gap reached

end LatchEvent

namespace Signals

open LatchEvent

variable {γ α : Type} {start finish : Signals γ} {index : Nat} {record : EdgeRecord}
  {earlier later events : List (LatchEvent γ)}

theorem Move.timing {event : LatchEvent γ} (move : start.Move event finish) :
    (finish.latch index).timing = event.recording index (start.latch index).timing := by
  cases move with
  | entered other | consumed other | installed other =>
    rw [latch_update]
    by_cases same : index = other
    · subst same
      simp [recording]
    · simp [recording, same]
  | recorded other =>
    rw [latch_update]
    by_cases same : index = other
    · simp [recording, same]
    · simp [recording, same]
  | clockRead | called | peeked | inspected => rfl

theorem Walk.timing (walk : Walk start events finish) :
    (finish.latch index).timing = timingAfter index (start.latch index).timing events := by
  induction walk with
  | rest => rfl
  | step move _ ih =>
    rw [ih, move.timing]
    rfl

theorem Walk.inspected (walk : Walk start (earlier ++ .inspected index record :: later) finish) :
    record = timingAfter index (start.latch index).timing earlier := by
  obtain ⟨middle, before, after⟩ := walk.split
  rw [← before.timing]
  cases after with
  | step move _ =>
    cases move
    rfl

theorem Walk.recorded (walk : Walk start (earlier ++ .recorded index record :: later) finish) :
    ∃ entry exit,
      record = (timingAfter index (start.latch index).timing earlier).after entry exit := by
  obtain ⟨middle, before, after⟩ := walk.split
  rw [← before.timing]
  cases after with
  | step move _ =>
    cases move
    exact ⟨_, _, rfl⟩

theorem closes_edge (index : Nat) {react : γ → Action γ Unit}
    (reacts : ∀ callback signals, Closes ((react callback).run signals).events)
    (signals : Signals γ) : Closes ((edge index react).run signals).events := by
  rw [edge_run, handling]
  cases signals.callbacks.get index with
  | none => exact closes_of_unrecorded (by simp [opening])
  | some callback =>
    exact (closes_of_unrecorded (by simp [opening])).append (reacts callback _)

theorem Program.closes {program : Action γ α} (finite : Program program) (signals : Signals γ) :
    Closes (program.run signals).events := by
  induction finite generalizing signals with
  | pure value => exact closes_of_unrecorded nofun
  | bind begin _ begins proceeds => exact (begins signals).append (proceeds _ _)
  | readClock | consume | peek | install | inspect =>
    exact closes_of_unrecorded fun _ _ member => nomatch List.mem_singleton.mp member
  | edge index _ reacts => exact closes_edge index reacts signals
  | timedEdge index _ reacts =>
    have handled := closes_edge index reacts { signals with clock := signals.clock.rest }
    rw [edge_run] at handled
    rw [timedEdge_run, edge_run]
    have reading : Closes ([.clockRead signals.clock.next] : List (LatchEvent γ)) :=
      closes_of_unrecorded nofun
    exact (reading.append handled).close rfl rfl

theorem Program.keepsTime {program : Action γ α} (finite : Program program) {signals : Signals γ}
    (new : (signals.latch index).timing = {}) :
    KeepsTime index (program.run signals).events := by
  intro earlier record later split
  obtain ⟨before, entry, within, exit, rfl, starts, lasts⟩ :=
    finite.closes signals _ _ _ _ split
  refine ⟨⟨before, entry, within, exit, record, later, split, starts, lasts⟩, rfl, rfl, rfl, ?_⟩
  have walk := finite.walks signals
  rw [split] at walk
  obtain ⟨start, finish, same⟩ := walk.recorded
  rw [new] at same
  exact EdgeRecord.eq_after same starts lasts

theorem timedEdge_records (index : Nat) (react : γ → Action γ Unit) (signals : Signals γ) :
    let raised := (timedEdge index react).run signals
    raised.events.getLast? = some (.recorded index (raised.state.latch index).timing) ∧
      (raised.state.latch index).timing.lastEdge = some signals.clock.next := by
  rw [timedEdge_run]
  dsimp only
  rw [latch_update, if_pos rfl]
  exact ⟨by simp [List.getLast?_cons], rfl⟩

/-- The timing neither runs ahead of the clock nor goes back, unless an edge is complete after one
that was entered later. -/
theorem timing_is_sane_unless_overtaken {program : Action γ α} (finite : Program program)
    (signals : Signals γ) (index : Nat) (new : (signals.latch index).timing = {})
    (ordered : (clockReadings (program.run signals).events).Pairwise (· ≤ ·)) :
    let done := program.run signals
    (∀ (react : γ → Action γ Unit) (moment : Signals γ),
      let raised := (timedEdge index react).run moment
      raised.events.getLast? = some (.recorded index (raised.state.latch index).timing) ∧
        (raised.state.latch index).timing.lastEdge = some moment.clock.next) ∧
    (∀ earlier record later, done.events = earlier ++ .inspected index record :: later →
      record = timingAfter index {} earlier) ∧
    (done.state.latch index).timing = timingAfter index {} done.events ∧
    KeepsTime index done.events ∧
    ∀ earlier later, done.events = earlier ++ later →
      (SaneTiming index earlier ↔ ∀ edge : TimedEdge index earlier, ¬edge.Overtaken) := by
  intro done
  have walk : Walk signals done.events done.state := finite.walks signals
  have keeps : KeepsTime index done.events := finite.keepsTime new
  refine ⟨timedEdge_records index, ?seen, ?left, keeps, ?sane⟩
  case seen =>
    intro earlier record later split
    rw [split] at walk
    rw [← new]
    exact walk.inspected
  case left => rw [walk.timing, new]
  case sane =>
    intro earlier later split
    change (clockReadings done.events).Pairwise (· ≤ ·) at ordered
    rw [split] at ordered keeps
    rw [clockReadings_append] at ordered
    exact saneTiming_iff (List.pairwise_append.mp ordered).1 keeps.up_to

end Signals

namespace Simulator

def paced : Script Callback :=
  .edge 0 true (Callback.reaction 0) <| .edge 0 true (Callback.reaction 0) .done

def pacing : Signals Callback := ⟨Bank.fill {}, Readings.ofList 0 [100, 110, 1100, 1120]⟩

theorem paced_is_sane :
    Signals.Program paced.run ∧ (pacing.latch 0).timing = {} ∧
      (LatchEvent.clockReadings (paced.run.run pacing).events).Pairwise (· ≤ ·) ∧
      LatchEvent.SaneTiming 0 (paced.run.run pacing).events ∧
      ((paced.run.run pacing).state.latch 0).timing = ⟨1000, 20, some 1100⟩ := by
  have ordered : (LatchEvent.clockReadings (paced.run.run pacing).events).Pairwise (· ≤ ·) := by
    change [100, 110, 1100, 1120].Pairwise (· ≤ · : UInt32 → UInt32 → Prop)
    decide
  obtain ⟨_, _, _, _, sane⟩ :=
    Signals.timing_is_sane_unless_overtaken paced.program_run pacing 0 rfl ordered
  refine ⟨paced.program_run, rfl, ordered, ?_, rfl⟩
  refine (sane _ [] (List.append_nil _).symm).mpr fun edge => edge.not_overtaken ?_
  change [100, 1100].Pairwise (· ≤ · : UInt32 → UInt32 → Prop)
  decide

def reentrant : Script Callback :=
  .act 0 (.install (some .timed)) <| .edge 0 true (Callback.reaction 0) .done

theorem reentrant_is_not_sane :
    let start : Signals Callback := ⟨Bank.fill {}, Readings.ofList 0 [100, 110]⟩
    let done := reentrant.run.run start
    start.latch 0 = {} ∧
      done.events =
        [.installed 0 (some .timed), .clockRead 100, .entered 0, .called .timed 0 true,
          .clockRead 110, .entered 0, .called .timed 0 true,
          .clockRead 110, .entered 0, .called .timed 0 true,
          .clockRead 110, .recorded 0 ⟨0, 0, some 110⟩,
          .clockRead 110, .recorded 0 ⟨0, 0, some 110⟩,
          .clockRead 110, .recorded 0 ⟨4294967286, 10, some 100⟩] ∧
      (done.state.latch 0).timing = ⟨4294967286, 10, some 100⟩ ∧
      (110 : UInt32) - 100 < 4294967286 ∧ ¬LatchEvent.SaneTiming 0 done.events := by
  refine ⟨rfl, rfl, rfl, by decide, fun sane => ?_⟩
  have member : .recorded 0 ⟨0, 0, some 110⟩ ∈
      (reentrant.run.run ⟨Bank.fill {}, Readings.ofList 0 [100, 110]⟩).events := by
    decide
  obtain ⟨last, timed, forward⟩ := sane.forward _ [] (List.append_nil _).symm _ 110 member rfl
  cases (Option.some.inj timed : 100 = last)
  exact absurd forward (by decide)

end Simulator

end Imu
