import Imu.Proofs.Signalling
import Imu.Simulator.Callback

/-!
When an armed unit finds a sample. Arming leaves the latch of the unit alone, so an edge that
waits there from before is found by the first poll, unless something consumes the latch first.
-/

namespace Imu

theorem Gyro.arm_answer (gyro : Gyro) (line : Line) :
    (gyro.arm.run line).value.1 = (gyro.arm.run line).value.2.armed := by
  rw [arm_run]
  split
  next armed => exact armed.symm
  next unarmed =>
    have still : false = gyro.armed := by simpa using unarmed
    split
    · split
      · split
        · rfl
        · exact still
      · rfl
    · exact still

theorem Gyro.arm_of_armed {gyro : Gyro} (armed : gyro.armed = true) (line : Line) :
    gyro.arm.run line = ⟨(true, gyro), [], line⟩ := by
  rw [arm_run, if_pos armed]

namespace System

open LatchEvent

variable {β γ : Type} [Bus β]

theorem perform_armed_of_ne (system : System β γ) {operation : Operation β γ} {g : Nat}
    (other : operation ≠ .arm g) :
    ((system.perform operation).state.gyros.get g).armed = (system.gyros.get g).armed := by
  obtain ⟨standing, armed, raw, became, _, kept, _⟩ := perform_parts system operation g
  rw [became]
  exact kept other

theorem perform_arm_value (system : System β γ) (g : Nat) :
    (system.perform (.arm g)).value =
      .flag ((system.perform (.arm g)).state.gyros.get g).armed := by
  rw [perform_arm, Bank.get_set_self]
  exact congrArg Reply.flag (Gyro.arm_answer _ _)

theorem perform_armed {system : System β γ} {g : Nat} (armed : (system.gyros.get g).armed = true)
    (operation : Operation β γ) :
    ((system.perform operation).state.gyros.get g).armed = true := by
  by_cases arms : operation = .arm g
  · subst arms
    rw [perform_arm, Gyro.arm_of_armed armed, Bank.get_set_self]
    exact armed
  · exact (perform_armed_of_ne system arms).trans armed

theorem after_armed {system : System β γ} {g : Nat} (armed : (system.gyros.get g).armed = true)
    (operations : List (Operation β γ)) :
    ((system.after operations).gyros.get g).armed = true := by
  induction operations generalizing system with
  | nil => exact armed
  | cons operation rest ih => exact ih (perform_armed armed operation)

/-- After these operations a call that arms the unit succeeds for the first time. -/
def FirstArmed (system : System β γ) (g : Nat) (before : List (Operation β γ)) : Prop :=
  ((system.after before).gyros.get g).armed = false ∧
    ((system.after before).perform (.arm g)).value = .flag true

theorem armed_of_firstArmed {system : System β γ} {g : Nat} {before : List (Operation β γ)}
    (first : system.FirstArmed g before) (later : List (Operation β γ)) :
    ((system.after (before ++ .arm g :: later)).gyros.get g).armed = true := by
  have answered := first.2
  rw [perform_arm_value] at answered
  rw [after_append]
  exact after_armed (Reply.flag.inj answered) later

theorem firstArmed_of_armed {system : System β γ} {g : Nat}
    (unarmed : (system.gyros.get g).armed = false) {operations : List (Operation β γ)}
    (armed : ((system.after operations).gyros.get g).armed = true) :
    ∃ before later, operations = before ++ .arm g :: later ∧ system.FirstArmed g before := by
  induction operations generalizing system with
  | nil =>
    rw [after, unarmed] at armed
    cases armed
  | cons operation rest ih =>
    cases reached : ((system.perform operation).state.gyros.get g).armed with
    | false =>
      obtain ⟨before, later, split, first⟩ := ih reached armed
      exact ⟨operation :: before, later, congrArg (List.cons operation) split, first⟩
    | true =>
      -- The unit was not armed before this operation, so it is the one that arms it.
      by_cases arms : operation = .arm g
      · subst arms
        exact ⟨[], rest, rfl, unarmed, by rw [after, perform_arm_value, reached]⟩
      · rw [perform_armed_of_ne system arms, unarmed] at reached
        cases reached

theorem perform_poll_value (system : System β γ) (g : Nat) :
    (system.perform (.poll g)).value =
      .flag ((system.gyros.get g).armed &&
        (system.signals.latch (system.gyros.get g).latch).pending) := by
  rw [perform_poll]
  cases (system.gyros.get g).armed <;> rfl

/-- The latch holds an edge from before the later events, and they have not touched it. -/
def Stale (latch : Nat) (earlier later : List (LatchEvent γ)) : Prop :=
  EnteredSince latch earlier ∧ .entered latch ∉ later ∧ Unconsumed latch later

theorem enteredSince_or_stale {latch : Nat} {earlier later : List (LatchEvent γ)} :
    EnteredSince latch (earlier ++ later) ↔
      EnteredSince latch later ∨ Stale latch earlier later := by
  rw [enteredSince_append]
  constructor
  · rintro (fresh | ⟨waiting, unconsumed⟩)
    · exact .inl fresh
    -- Nothing consumes the latch later, so any edge among the later events is still there.
    · by_cases entered : .entered latch ∈ later
      · obtain ⟨before, after, rfl⟩ := List.append_of_mem entered
        exact .inl ⟨before, after, rfl, (unconsumed_cons.mp (unconsumed_append.mp unconsumed).2).2⟩
      · exact .inr ⟨waiting, entered, unconsumed⟩
  · rintro (fresh | ⟨waiting, _, unconsumed⟩)
    · exact .inl fresh
    · exact .inr ⟨waiting, unconsumed⟩

/-- A poll finds an edge that was entered since the unit was armed, or one from before that nothing
has touched since. -/
theorem poll_finds_edges (system : System β γ) (g : Nat) (settings : Settings) (latch : Nat)
    (wired : Bool) (made : system.gyros.get g = Gyro.fresh settings latch wired)
    (idle : (system.signals.latch latch).pending = false) (operations : List (Operation β γ)) :
    let poll := (system.after operations).perform (.poll g)
    (poll.value = .flag true →
      EnteredSince latch (system.latchHistory operations) ∧
      ∃ before later, operations = before ++ .arm g :: later ∧ system.FirstArmed g before) ∧
    ∀ before later, operations = before ++ .arm g :: later → system.FirstArmed g before →
      let earlyEvents := system.latchHistory before
      let lateEvents := (system.after (before ++ [.arm g])).latchHistory later
      (poll.value = .flag true ↔
        EnteredSince latch lateEvents ∨ Stale latch earlyEvents lateEvents) ∧
      (Stale latch earlyEvents lateEvents → ¬EnteredSince latch lateEvents) := by
  intro poll
  have unarmed : (system.gyros.get g).armed = false := by rw [made]; rfl
  have found : poll.value = .flag true ↔ ((system.after operations).gyros.get g).armed = true ∧
      EnteredSince latch (system.latchHistory operations) := by
    have own : ((system.after operations).gyros.get g).latch = latch :=
      (after_latch system operations g).trans (by rw [made]; rfl)
    rw [perform_poll_value, own, Reply.flag.injEq, Bool.and_eq_true, after_pending, idle]
    simp
  constructor
  · intro sampled
    obtain ⟨armed, entered⟩ := found.mp sampled
    exact ⟨entered, firstArmed_of_armed unarmed armed⟩
  · intro before later split first earlyEvents lateEvents
    have armed := armed_of_firstArmed first later
    -- Arming does nothing to the latches, so the record splits at the call.
    have joined : system.latchHistory operations = earlyEvents ++ lateEvents := by
      have arming : (system.after before).latchHistory [.arm g] = [] := by
        rw [latchHistory_cons, perform_arm, latchEvents_device]
        rfl
      rw [split, show before ++ .arm g :: later = (before ++ [.arm g]) ++ later by simp,
        latchHistory_append, latchHistory_append, arming, List.append_nil]
    rw [found, joined, enteredSince_or_stale, split]
    refine ⟨and_iff_right armed, ?_⟩
    -- A stale latch is not entered later, so the two cases exclude each other.
    rintro ⟨_, absent, _⟩ ⟨earlier, rest, same, _⟩
    rw [same] at absent
    exact absent (List.mem_append_right _ (List.mem_cons_self ..))

end System

namespace Simulator

def wiredUp : System SimulatedBoard Callback :=
  { powerUp .bare with gyros := Bank.fill (Gyro.fresh {} 0 true) }

/-- An edge on the latch of a unit that is not armed, and a poll that does not find it. -/
def premature : List (Operation SimulatedBoard Callback) :=
  [.edge 0 false (Callback.reaction 0), .poll 0]

theorem premature_edge_is_sampled :
    wiredUp.FirstArmed 0 premature ∧
      ((wiredUp.after (premature ++ [.arm 0])).perform (.poll 0)).value = .flag true ∧
      ¬LatchEvent.EnteredSince 0 ((wiredUp.after (premature ++ [.arm 0])).latchHistory []) :=
  ⟨⟨rfl, rfl⟩, rfl, LatchEvent.not_enteredSince_nil 0⟩

theorem premature_edge_is_stale :
    wiredUp.gyros.get 0 = Gyro.fresh {} 0 true ∧ (wiredUp.signals.latch 0).pending = false ∧
      wiredUp.FirstArmed 0 premature ∧
      System.Stale 0 (wiredUp.latchHistory premature)
        ((wiredUp.after (premature ++ [.arm 0])).latchHistory []) ∧
      ((wiredUp.after (premature ++ [.arm 0])).perform (.poll 0)).value = .flag true := by
  have made : wiredUp.gyros.get 0 = Gyro.fresh {} 0 true := rfl
  have idle : (wiredUp.signals.latch 0).pending = false := rfl
  have first : wiredUp.FirstArmed 0 premature := ⟨rfl, rfl⟩
  have stale : System.Stale 0 (wiredUp.latchHistory premature)
      ((wiredUp.after (premature ++ [.arm 0])).latchHistory []) :=
    ⟨⟨[], [], rfl, List.forall_mem_nil _⟩, List.not_mem_nil, List.forall_mem_nil _⟩
  obtain ⟨_, polled⟩ :=
    System.poll_finds_edges wiredUp 0 {} 0 true made idle (premature ++ [.arm 0])
  exact ⟨made, idle, first, stale, (polled premature [] rfl first).1.mpr (.inr stale)⟩

end Simulator

end Imu
