import Imu.Proofs.Timing

/-!
What the timing is worth when the clock wraps. The calls that time an edge are listed in the order
in which they are complete, each with the two readings of the clock that it takes, and at every
moment the timing is what those which are complete by then make of it, one after the other. Read
off a time that never wraps, its fields are the differences of that time, reduced to the width of
the clock, so they are exact as long as they fit.
-/

namespace Imu

open LatchEvent

def Readings.ofTime (time : Nat → Nat) : Readings UInt32 := fun reading => .ofNat (time reading)

theorem LatchEvent.timingAfter_of_unrecorded {γ : Type} {index : Nat} {events : List (LatchEvent γ)}
    (previous : EdgeRecord) (none : ∀ record, .recorded index record ∉ events) :
    timingAfter index previous events = previous := by
  rcases timingAfter_cases index previous events with ⟨kept, _⟩ | ⟨earlier, later, split, _⟩
  · exact kept
  · exact absurd (split ▸ List.mem_append_right _ (List.mem_cons_self ..)) (none _)

/-- A call that times an edge: what happens before it, and what happens between its two readings
of the clock. -/
structure TimedCall (γ : Type) where
  latch : Nat
  before : List (LatchEvent γ)
  within : List (LatchEvent γ)

namespace TimedCall

variable {γ : Type}

def following (earlier : List (LatchEvent γ)) (call : TimedCall γ) : TimedCall γ :=
  { call with before := earlier ++ call.before }

/-- Which reading of the clock is the first that the call takes. -/
def opened (call : TimedCall γ) : Nat := (clockReadings call.before).length

def closed (call : TimedCall γ) : Nat := call.opened + 1 + (clockReadings call.within).length

def ended (call : TimedCall γ) : Nat := call.before.length + call.within.length + 3

@[simp] theorem following_latch (earlier : List (LatchEvent γ)) (call : TimedCall γ) :
    (call.following earlier).latch = call.latch := rfl

@[simp] theorem following_opened (earlier : List (LatchEvent γ)) (call : TimedCall γ) :
    (call.following earlier).opened = (clockReadings earlier).length + call.opened := by
  simp [following, opened, clockReadings_append]

@[simp] theorem following_closed (earlier : List (LatchEvent γ)) (call : TimedCall γ) :
    (call.following earlier).closed = (clockReadings earlier).length + call.closed := by
  rw [closed, following_opened, closed]
  simp only [following]
  omega

@[simp] theorem following_ended (earlier : List (LatchEvent γ)) (call : TimedCall γ) :
    (call.following earlier).ended = earlier.length + call.ended := by
  simp only [following, ended, List.length_append]
  omega

/-- The events show the call: two readings of the clock, with what is handled in between, and then
the record. -/
def ShownIn (clock : Readings UInt32) (events : List (LatchEvent γ)) (call : TimedCall γ) : Prop :=
  ∃ record later, events = call.before ++ .clockRead (clock call.opened) ::
    (call.within ++ [.clockRead (clock call.closed), .recorded call.latch record]) ++ later

def timing (clock : Readings UInt32) (previous : EdgeRecord) (calls : List (TimedCall γ)) :
    EdgeRecord :=
  calls.foldl (fun record call => record.after (clock call.opened) (clock call.closed)) previous

def completed (index moment : Nat) (calls : List (TimedCall γ)) : List (TimedCall γ) :=
  calls.filter fun call => call.latch == index && decide (call.ended ≤ moment)

theorem completed_append (index moment : Nat) (early late : List (TimedCall γ)) :
    completed index moment (early ++ late) =
      completed index moment early ++ completed index moment late := List.filter_append ..

theorem timing_append (clock : Readings UInt32) (previous : EdgeRecord)
    (early late : List (TimedCall γ)) :
    timing clock previous (early ++ late) = timing clock (timing clock previous early) late :=
  List.foldl_append

theorem timing_following (clock : Readings UInt32) (previous : EdgeRecord)
    (earlier : List (LatchEvent γ)) (calls : List (TimedCall γ)) :
    timing clock previous (calls.map (following earlier)) =
      timing (clock.drop (clockReadings earlier).length) previous calls := by
  simp [timing, List.foldl_map, Readings.drop]

theorem ended_pos (call : TimedCall γ) : 0 < call.ended := Nat.succ_pos _

theorem completed_following (index moment : Nat) (earlier : List (LatchEvent γ))
    (calls : List (TimedCall γ)) :
    completed index moment (calls.map (following earlier)) =
      (completed index (moment - earlier.length) calls).map (following earlier) := by
  rw [completed, completed, List.filter_map]
  refine congrArg _ (List.filter_congr fun call _ => ?_)
  have positive := call.ended_pos
  have same : earlier.length + call.ended ≤ moment ↔ call.ended ≤ moment - earlier.length := by
    omega
  simp [same]

theorem completed_of_all {index bound moment : Nat} {calls : List (TimedCall γ)}
    (all : ∀ call ∈ calls, call.ended ≤ bound) (later : bound ≤ moment) :
    completed index moment calls = completed index bound calls := by
  refine List.filter_congr fun call member => ?_
  have done := all call member
  have eventually := Nat.le_trans done later
  simp [done, eventually]

variable {clock : Readings UInt32} {earlier later events : List (LatchEvent γ)}
  {call : TimedCall γ}

theorem ShownIn.ended_le (shown : call.ShownIn clock events) : call.ended ≤ events.length := by
  obtain ⟨record, later, rfl⟩ := shown
  simp only [ended, List.length_append, List.length_cons, List.length_nil]
  omega

theorem ShownIn.append (shown : call.ShownIn clock earlier) (later : List (LatchEvent γ)) :
    call.ShownIn clock (earlier ++ later) := by
  obtain ⟨record, rest, rfl⟩ := shown
  exact ⟨record, rest ++ later, List.append_assoc ..⟩

theorem ShownIn.following (earlier : List (LatchEvent γ))
    (shown : call.ShownIn (clock.drop (clockReadings earlier).length) later) :
    (call.following earlier).ShownIn clock (earlier ++ later) := by
  obtain ⟨record, rest, rfl⟩ := shown
  refine ⟨record, rest, ?_⟩
  rw [following_opened, following_closed]
  simp [TimedCall.following, Readings.drop]

end TimedCall

namespace Signals

open TimedCall

variable {γ α : Type} {start middle finish signals : Signals γ} {index : Nat}
  {earlier later events : List (LatchEvent γ)} {early late calls : List (TimedCall γ)}

theorem Walk.clock (walk : Walk start events finish) :
    finish.clock = start.clock.drop (clockReadings events).length := by
  induction walk with
  | rest signals => exact (Readings.drop_zero signals.clock).symm
  | step move _ ih =>
    rw [ih]
    cases move with
    | clockRead => exact Readings.drop_rest _ _
    | _ => rfl

theorem walk_opening (signals : Signals γ) (index : Nat) :
    Walk signals (opening index (signals.callbacks.get index)) (signals.entered index) := by
  have enters : Walk signals [.entered index] (signals.entered index) :=
    .step (.entered index) (.rest _)
  cases signals.callbacks.get index with
  | none => exact enters
  | some callback =>
    have calls : Move (signals.entered index) (.called callback index true)
        (signals.entered index) := by
      have call : Move (signals.entered index) _ _ := .called callback index
      rwa [entered, latch_update, if_pos rfl] at call
    exact enters.append (.step calls (.rest _))

/-- What calls time an edge in the course of a program, in the order in which they are complete. An
edge that is raised by a callback is complete before the one that the callback is run for. -/
inductive Completes : {α : Type} → Action γ α → Signals γ → List (TimedCall γ) → Prop where
  | pure {α : Type} (value : α) (signals : Signals γ) : Completes (Pure.pure value) signals []
  | bind {α δ : Type} {first : Action γ α} {next : α → Action γ δ} {signals : Signals γ}
    {early late : List (TimedCall γ)} (begins : Completes first signals early)
    (proceeds :
      Completes (next (first.run signals).value) (first.run signals).state late) :
    Completes (first >>= next) signals
      (early ++ late.map (TimedCall.following (first.run signals).events))
  | readClock (signals : Signals γ) : Completes readClock signals []
  | consume (index : Nat) (signals : Signals γ) : Completes (consume index) signals []
  | peek (index : Nat) (signals : Signals γ) : Completes (peek index) signals []
  | install (index : Nat) (callback : Option γ) (signals : Signals γ) :
    Completes (install index callback) signals []
  | inspect (index : Nat) (signals : Signals γ) : Completes (inspect index) signals []
  | unheeded {index : Nat} {react : γ → Action γ Unit} {signals : Signals γ}
    (bare : signals.callbacks.get index = none) : Completes (edge index react) signals []
  | heeded {index : Nat} {react : γ → Action γ Unit} {signals : Signals γ} {callback : γ}
    {nested : List (TimedCall γ)} (due : signals.callbacks.get index = some callback)
    (reacts : Completes (react callback) (signals.entered index) nested) :
    Completes (edge index react) signals
      (nested.map (TimedCall.following (opening index (some callback))))
  | timedEdge {index : Nat} {react : γ → Action γ Unit} {signals : Signals γ}
    {nested : List (TimedCall γ)}
    (handled : Completes (edge index react) { signals with clock := signals.clock.rest } nested) :
    Completes (timedEdge index react) signals
      (nested.map (TimedCall.following [.clockRead signals.clock.next]) ++
        [⟨index, [],
          ((edge index react).run { signals with clock := signals.clock.rest }).events⟩])

theorem completes_edge (index : Nat) {react : γ → Action γ Unit}
    (reacts : ∀ callback signals, ∃ calls, Completes (react callback) signals calls)
    (signals : Signals γ) : ∃ calls, Completes (edge index react) signals calls := by
  cases due : signals.callbacks.get index with
  | none => exact ⟨[], .unheeded due⟩
  | some callback =>
    obtain ⟨nested, completes⟩ := reacts callback (signals.entered index)
    exact ⟨_, .heeded due completes⟩

theorem Program.completes {program : Action γ α} (finite : Program program) (signals : Signals γ) :
    ∃ calls, Completes program signals calls := by
  induction finite generalizing signals with
  | pure value => exact ⟨[], .pure value signals⟩
  | bind _ _ begins proceeds =>
    obtain ⟨early, first⟩ := begins signals
    obtain ⟨late, rest⟩ := proceeds _ _
    exact ⟨_, .bind first rest⟩
  | readClock => exact ⟨[], .readClock signals⟩
  | consume index => exact ⟨[], .consume index signals⟩
  | peek index => exact ⟨[], .peek index signals⟩
  | install index callback => exact ⟨[], .install index callback signals⟩
  | inspect index => exact ⟨[], .inspect index signals⟩
  | edge index _ reacts => exact completes_edge index reacts signals
  | timedEdge index _ reacts =>
    obtain ⟨nested, handled⟩ :=
      completes_edge index reacts { signals with clock := signals.clock.rest }
    exact ⟨_, .timedEdge handled⟩

/-- The calls are shown by the events, in order, and are what the timing of the latch comes from at
every moment. -/
structure Accounts (index : Nat) (start : Signals γ) (events : List (LatchEvent γ))
    (finish : Signals γ) (calls : List (TimedCall γ)) : Prop where
  walk : Walk start events finish
  shown : ∀ call ∈ calls, call.ShownIn start.clock events
  ordered : calls.Pairwise fun first second => first.ended < second.ended
  timing : ∀ moment, timingAfter index (start.latch index).timing (events.take moment) =
    TimedCall.timing start.clock (start.latch index).timing (completed index moment calls)

theorem Accounts.ended_le (accounts : Accounts index start events finish calls) :
    ∀ call ∈ calls, call.ended ≤ events.length :=
  fun call member => (accounts.shown call member).ended_le

theorem Accounts.of_unrecorded (walk : Walk start events finish)
    (none : ∀ record, .recorded index record ∉ events) :
    Accounts index start events finish [] where
  walk := walk
  shown := nofun
  ordered := .nil
  timing _ :=
    timingAfter_of_unrecorded _ fun record member => none record (List.mem_of_mem_take member)

theorem Accounts.append (first : Accounts index start earlier middle early)
    (second : Accounts index middle later finish late) :
    Accounts index start (earlier ++ later) finish (early ++ late.map (following earlier)) := by
  have clock := first.walk.clock
  refine ⟨first.walk.append second.walk, ?shown, ?ordered, ?timing⟩
  case shown =>
    intro call member
    rcases List.mem_append.mp member with before | after
    · exact (first.shown call before).append later
    · obtain ⟨one, belongs, rfl⟩ := List.mem_map.mp after
      have shown := second.shown one belongs
      rw [clock] at shown
      exact shown.following earlier
  case ordered =>
    refine List.pairwise_append.mpr ⟨first.ordered, ?_, ?_⟩
    · rw [List.pairwise_map]
      refine second.ordered.imp fun sooner => ?_
      rw [following_ended, following_ended]
      omega
    · intro call before after member
      obtain ⟨one, _, rfl⟩ := List.mem_map.mp member
      have bound := first.ended_le call before
      have positive := one.ended_pos
      rw [following_ended]
      omega
  case timing =>
    intro moment
    rw [completed_append, completed_following, timing_append, timing_following, ← clock]
    by_cases begun : moment ≤ earlier.length
    · -- None of what comes second has happened yet.
      have nothing : completed index (moment - earlier.length) late = [] := by
        rw [Nat.sub_eq_zero_of_le begun]
        refine List.filter_eq_nil_iff.mpr fun call _ => ?_
        have positive := call.ended_pos
        simp [Nat.ne_of_gt positive]
      rw [List.take_append_of_le_length begun, first.timing, nothing]
      rfl
    · have past : earlier.length ≤ moment := Nat.le_of_not_le begun
      have whole := first.timing earlier.length
      rw [List.take_length] at whole
      rw [completed_of_all first.ended_le past, ← whole, ← first.walk.timing, ← second.timing,
        first.walk.timing, List.take_append, timingAfter_append, List.take_of_length_le past]

theorem accounts_opening (index : Nat) (signals : Signals γ) (other : Nat) :
    Accounts index signals (opening other (signals.callbacks.get other)) (signals.entered other)
      [] :=
  .of_unrecorded (walk_opening signals other) (by simp [opening])

/-- The call that an edge is timed by is complete after those that are made while it is handled. -/
theorem Accounts.close {latch : Nat}
    (body : Accounts index start (.clockRead start.clock.next :: events) middle calls) :
    let timing := (middle.latch latch).timing.after start.clock.next middle.clock.next
    Accounts index start
      (.clockRead start.clock.next :: events ++
        [.clockRead middle.clock.next, .recorded latch timing])
      ({ middle with clock := middle.clock.rest }.update latch
        { middle.latch latch with timing := timing })
      (calls ++ [⟨latch, [], events⟩]) := by
  intro timing
  have outer : TimedCall.ended ⟨latch, [], events⟩ = events.length + 3 := by simp [ended]
  have exit : middle.clock.next = start.clock (TimedCall.closed ⟨latch, [], events⟩) := by
    rw [body.walk.clock, Readings.next_drop, clockReadings_clockRead, List.length_cons]
    simp [closed, opened, clockReadings, Nat.add_comm]
  refine ⟨?walk, ?shown, ?ordered, ?timing⟩
  case walk =>
    exact body.walk.append (.step .clockRead (.step (.recorded latch _ _) (.rest _)))
  case shown =>
    refine List.forall_mem_append.mpr ⟨fun call member => (body.shown call member).append _,
      List.forall_mem_singleton.mpr ⟨timing, [], ?_⟩⟩
    rw [← exit]
    simp [opened, clockReadings]
    rfl
  case ordered =>
    refine List.pairwise_append.mpr ⟨body.ordered, List.pairwise_singleton .., ?_⟩
    intro call nested last member
    have bound := body.ended_le call nested
    rw [List.length_cons] at bound
    rw [List.mem_singleton.mp member, outer]
    omega
  case timing =>
    intro moment
    rw [List.take_append, timingAfter_append, completed_append, timing_append, body.timing moment,
      List.length_cons]
    -- Up to its record the call has no effect on the timing.
    by_cases done : events.length + 3 ≤ moment
    · have before : TimedCall.timing start.clock (start.latch index).timing
          (completed index moment calls) = (middle.latch index).timing := by
        rw [← body.timing moment, List.take_of_length_le (by rw [List.length_cons]; omega),
          ← body.walk.timing]
      rw [before, List.take_of_length_le (by simp only [List.length_cons, List.length_nil]; omega)]
      by_cases same : latch = index
      · subst same
        simp [completed, outer, done, TimedCall.timing, timingAfter, recording, timing, exit,
          opened, clockReadings]
        rfl
      · simp [completed, same, Ne.symm same, TimedCall.timing, timingAfter, recording]
    · have begun : moment - (events.length + 1) < 2 := by omega
      let closing : List (LatchEvent γ) := [.clockRead middle.clock.next, .recorded latch timing]
      have unrecorded : ∀ record,
          .recorded index record ∉ closing.take (moment - (events.length + 1)) := by
        intro record member
        have reading := (List.take_sublist_take_left (Nat.le_of_lt_succ begun)).subset member
        cases List.mem_singleton.mp reading
      rw [timingAfter_of_unrecorded _ unrecorded]
      simp [completed, outer, done, TimedCall.timing]

theorem Completes.accounts {program : Action γ α} (completes : Completes program signals calls)
    (index : Nat) :
    Accounts index signals (program.run signals).events (program.run signals).state calls := by
  induction completes with
  | pure value signals => exact .of_unrecorded (.rest signals) fun _ => List.not_mem_nil
  | bind _ _ first second => exact first.append second
  | readClock signals =>
    exact .of_unrecorded (walks_readClock signals) (by simp [Signals.readClock])
  | consume other signals =>
    exact .of_unrecorded (walks_consume other signals) (by simp [Signals.consume])
  | peek other signals => exact .of_unrecorded (walks_peek other signals) (by simp [Signals.peek])
  | install other callback signals =>
    exact .of_unrecorded (walks_install other callback signals) (by simp [Signals.install])
  | inspect other signals =>
    exact .of_unrecorded (walks_inspect other signals) (by simp [Signals.inspect])
  | @unheeded other react signals bare =>
    have opened := accounts_opening index signals other
    rw [bare] at opened
    rw [edge_run, handling, bare, List.append_nil]
    exact opened
  | @heeded other react signals callback nested due _ reacted =>
    have opened := accounts_opening index signals other
    rw [due] at opened
    rw [edge_run, handling, due]
    exact opened.append reacted
  | @timedEdge other react signals nested _ handled =>
    have reading : Accounts index signals [.clockRead signals.clock.next]
        { signals with clock := signals.clock.rest } [] :=
      .of_unrecorded (.step .clockRead (.rest _)) (by simp)
    rw [timedEdge_run]
    exact (reading.append handled).close

theorem edge_timing (other : Nat) {react : γ → Action γ Unit}
    (keeps : ∀ callback signals,
      (((react callback).run signals).state.latch index).timing = (signals.latch index).timing)
    (signals : Signals γ) :
    (((edge other react).run signals).state.latch index).timing =
      (signals.latch index).timing := by
  have entering : ((signals.entered other).latch index).timing = (signals.latch index).timing := by
    rw [(walk_opening signals other).timing]
    exact timingAfter_of_unrecorded _ (by simp [opening])
  rw [edge_run, handling]
  cases signals.callbacks.get other with
  | none => exact entering
  | some callback => exact (keeps callback _).trans entering

end Signals

namespace Simulator

/-- The counter wraps between the first two readings. -/
def lateTime (reading : Nat) : Nat := 4294967286 + 20 * reading

def late : Signals Callback := ⟨Bank.fill { callback := some .log }, .ofTime lateTime⟩

end Simulator

end Imu
