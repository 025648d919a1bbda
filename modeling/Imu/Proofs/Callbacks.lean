import Imu.Proofs.Interleaving

/-!
Which callbacks are run. An edge calls the callback that is installed on its latch as it is entered,
once and before anything else happens, and what that callback installs counts from the next edge on.
Apart from what its callback does, an edge has to do with its own latch only.
-/

namespace Imu

namespace LatchEvent

variable {γ : Type}

def installing (installed : Bank (Option γ)) : LatchEvent γ → Bank (Option γ)
  | .installed latch callback => installed.set latch callback
  | _ => installed

/-- The callbacks that are installed when all this has happened. -/
def installedAfter (installed : Bank (Option γ)) (events : List (LatchEvent γ)) :
    Bank (Option γ) :=
  events.foldl installing installed

def calls (index : Nat) : LatchEvent γ → Bool
  | .called _ latch _ => latch == index
  | _ => false

def begins : LatchEvent γ → Bool
  | .entered _ | .called _ _ _ => true
  | _ => false

def concerns (index : Nat) : LatchEvent γ → Bool
  | .entered latch | .called _ latch _ | .consumed latch _ | .peeked latch _ | .installed latch _
  | .inspected latch _ | .recorded latch _ => latch == index
  | .clockRead _ => false

/-- How many edges on the latch were entered while a callback was installed on it. -/
def heededEdges (index : Nat) (installed : Bank (Option γ)) : List (LatchEvent γ) → Nat
  | [] => 0
  | event :: rest =>
    (if event.enters index && (installed.get index).isSome then 1 else 0) +
      heededEdges index (installing installed event) rest

/-- Every edge is followed by the call of the callback that is installed, if any, and there are no
other calls. -/
inductive Obeys : Bank (Option γ) → List (LatchEvent γ) → Prop where
  | done (installed : Bank (Option γ)) : Obeys installed []
  | apart {installed : Bank (Option γ)} {event : LatchEvent γ} {rest : List (LatchEvent γ)}
    (other : event.begins = false) (later : Obeys (installing installed event) rest) :
    Obeys installed (event :: rest)
  | unheeded {installed : Bank (Option γ)} {index : Nat} {rest : List (LatchEvent γ)}
    (bare : installed.get index = none) (later : Obeys installed rest) :
    Obeys installed (.entered index :: rest)
  | heeded {installed : Bank (Option γ)} {index : Nat} {callback : γ} {rest : List (LatchEvent γ)}
    (due : installed.get index = some callback) (later : Obeys installed rest) :
    Obeys installed (.entered index :: .called callback index true :: rest)

variable {installed : Bank (Option γ)} {earlier later events : List (LatchEvent γ)}

theorem installedAfter_append :
    installedAfter installed (earlier ++ later) =
      installedAfter (installedAfter installed earlier) later := List.foldl_append

theorem get_installedAfter_of_kept {index : Nat}
    (kept : ∀ callback, .installed index callback ∉ events) :
    (installedAfter installed events).get index = installed.get index := by
  induction events generalizing installed with
  | nil => rfl
  | cons event rest ih =>
    have later : (installedAfter (installing installed event) rest).get index =
        (installing installed event).get index :=
      ih fun callback member => kept callback (List.mem_cons_of_mem _ member)
    -- Only an installation could matter to the latch, and it is on another one.
    refine later.trans ?_
    cases event with
    | installed latch callback =>
      refine Bank.get_set_of_ne _ _ ?_
      rintro rfl
      exact kept callback (List.mem_cons_self ..)
    | _ => rfl

theorem Obeys.append (first : Obeys installed earlier)
    (second : Obeys (installedAfter installed earlier) later) :
    Obeys installed (earlier ++ later) := by
  induction first with
  | done => exact second
  | apart other _ ih => exact .apart other (ih second)
  | unheeded bare _ ih => exact .unheeded bare (ih second)
  | heeded due _ ih => exact .heeded due (ih second)

theorem Obeys.not_called {callback : γ} {index : Nat} {pending : Bool} :
    ¬Obeys installed (.called callback index pending :: events) := by
  intro obeys
  cases obeys with
  | apart other => cases other

/-- What follows the entry of an edge, by the callback that was installed on its latch. -/
def Follows (index : Nat) (later : List (LatchEvent γ)) : Option γ → Prop
  | some callback => ∃ rest, later = .called callback index true :: rest
  | none => ∀ callback latch pending rest, later ≠ .called callback latch pending :: rest

theorem Obeys.edge (obeys : Obeys installed events) :
    ∀ earlier index later, events = earlier ++ .entered index :: later →
      Follows index later ((installedAfter installed earlier).get index) := by
  induction obeys with
  | done => simp
  | apart other _ ih =>
    intro earlier index later split
    cases earlier with
    | nil =>
      obtain ⟨rfl, rfl⟩ := List.cons.inj split
      cases other
    | cons event before =>
      obtain ⟨rfl, rest⟩ := List.cons.inj split
      exact ih before index later rest
  | @unheeded installed latch rest bare follows ih =>
    intro earlier index later split
    cases earlier with
    | nil =>
      obtain ⟨same, rfl⟩ := List.cons.inj split
      cases same
      change Follows latch rest (installed.get latch)
      rw [bare]
      rintro callback other pending after rfl
      exact follows.not_called
    | cons event before =>
      obtain ⟨rfl, same⟩ := List.cons.inj split
      exact ih before index later same
  | @heeded installed latch callback rest due _ ih =>
    intro earlier index later split
    -- An entry and its call are two events: the place is the entry, the call, or beyond both.
    rcases earlier with _ | ⟨event, _ | ⟨call, before⟩⟩
    · obtain ⟨same, rfl⟩ := List.cons.inj split
      cases same
      change Follows latch _ (installed.get latch)
      rw [due]
      exact ⟨rest, rfl⟩
    · cases split
    · obtain ⟨rfl, called⟩ := List.cons.inj split
      obtain ⟨rfl, same⟩ := List.cons.inj called
      exact ih before index later same

theorem Obeys.call (obeys : Obeys installed events) :
    ∀ earlier callback index pending later,
      events = earlier ++ .called callback index pending :: later →
        pending = true ∧ ∃ before, earlier = before ++ [.entered index] ∧
          (installedAfter installed before).get index = some callback := by
  induction obeys with
  | done => simp
  | apart other _ ih =>
    intro earlier callback index pending later split
    cases earlier with
    | nil =>
      obtain ⟨rfl, rfl⟩ := List.cons.inj split
      cases other
    | cons event before =>
      obtain ⟨rfl, rest⟩ := List.cons.inj split
      obtain ⟨set, first, rfl, due⟩ := ih before callback index pending later rest
      exact ⟨set, _ :: first, rfl, due⟩
  | unheeded bare _ ih =>
    intro earlier callback index pending later split
    cases earlier with
    | nil => cases split
    | cons entry before =>
      obtain ⟨rfl, rest⟩ := List.cons.inj split
      obtain ⟨set, first, rfl, due⟩ := ih before callback index pending later rest
      exact ⟨set, _ :: first, rfl, due⟩
  | heeded due _ ih =>
    intro earlier callback index pending later split
    rcases earlier with _ | ⟨event, _ | ⟨call, before⟩⟩
    · cases split
    · cases split
      exact ⟨rfl, [], rfl, due⟩
    · obtain ⟨rfl, called⟩ := List.cons.inj split
      obtain ⟨rfl, rest⟩ := List.cons.inj called
      obtain ⟨set, first, rfl, due⟩ := ih before callback index pending later rest
      exact ⟨set, _ :: _ :: first, rfl, due⟩

theorem Obeys.count (obeys : Obeys installed events) (index : Nat) :
    events.countP (calls index) = heededEdges index installed events := by
  induction obeys with
  | done => rfl
  | @apart installed event rest other _ ih =>
    have neither : event.calls index = false ∧ event.enters index = false := by
      cases event <;> simp_all [begins, calls, enters]
    simp [heededEdges, neither, ih]
  | @unheeded installed latch rest bare _ ih =>
    have unheeded : latch = index → (installed.get index).isSome = false := by
      rintro rfl
      rw [bare]
      rfl
    simpa [calls, heededEdges, enters, installing, ih] using unheeded
  | @heeded installed latch callback rest due _ ih =>
    have heeded : latch = index → (installed.get index).isSome = true := by
      rintro rfl
      rw [due]
      rfl
    by_cases same : latch = index
    · simp [calls, heededEdges, enters, installing, ih, same, heeded same, Nat.add_comm]
    · simp [calls, heededEdges, enters, installing, ih, same]

end LatchEvent

namespace Signals

open LatchEvent

variable {γ α : Type} {start finish : Signals γ}

def callbacks (signals : Signals γ) : Bank (Option γ) := fun index => (signals.latch index).callback

theorem callbacks_update (signals : Signals γ) (index : Nat) (latch : Latch γ) :
    (signals.update index latch).callbacks = signals.callbacks.set index latch.callback := by
  funext other
  change ((signals.update index latch).latch other).callback = if other = index then _ else _
  rw [latch_update]
  split <;> rfl

theorem callbacks_update_of_eq (signals : Signals γ) {index : Nat} {latch : Latch γ}
    (same : latch.callback = (signals.latch index).callback) :
    (signals.update index latch).callbacks = signals.callbacks := by
  rw [callbacks_update, same]
  exact Bank.set_get _ _

theorem Move.callbacks {event : LatchEvent γ} (move : start.Move event finish) :
    finish.callbacks = installing start.callbacks event := by
  cases move with
  | installed index callback => exact callbacks_update _ _ _
  | entered | consumed | recorded => exact callbacks_update_of_eq _ rfl
  | clockRead | called | peeked | inspected => rfl

theorem Walk.callbacks {events : List (LatchEvent γ)} (walk : Walk start events finish) :
    finish.callbacks = installedAfter start.callbacks events := by
  induction walk with
  | rest => rfl
  | step move _ ih =>
    rw [ih, move.callbacks]
    rfl

theorem Move.latch_of_apart {event : LatchEvent γ} {index : Nat} (move : start.Move event finish)
    (apart : event.concerns index = false) : finish.latch index = start.latch index := by
  cases move with
  | entered other | consumed other | installed other | recorded other =>
    rw [latch_update, if_neg]
    rintro rfl
    simp [concerns] at apart
  | clockRead | called | peeked | inspected => rfl

theorem Walk.latch_of_apart {events : List (LatchEvent γ)} {index : Nat}
    (walk : Walk start events finish) (apart : ∀ event ∈ events, event.concerns index = false) :
    finish.latch index = start.latch index := by
  induction walk with
  | rest => rfl
  | step move _ ih =>
    obtain ⟨first, later⟩ := List.forall_mem_cons.mp apart
    exact (ih later).trans (move.latch_of_apart first)

def entered (signals : Signals γ) (index : Nat) : Signals γ :=
  signals.update index { signals.latch index with pending := true }

theorem callbacks_entered (signals : Signals γ) (index : Nat) :
    (signals.entered index).callbacks = signals.callbacks := callbacks_update_of_eq _ rfl

def opening (index : Nat) (installed : Option γ) : List (LatchEvent γ) :=
  .entered index :: installed.toList.map fun callback => .called callback index true

def handling (index : Nat) (react : γ → Action γ Unit) (signals : Signals γ) :
    Outcome (LatchEvent γ) (Signals γ) Unit :=
  match signals.callbacks.get index with
  | none => ⟨(), [], signals.entered index⟩
  | some callback => (react callback).run (signals.entered index)

theorem edge_run (index : Nat) (react : γ → Action γ Unit) (signals : Signals γ) :
    (edge index react).run signals =
      ⟨(), opening index (signals.callbacks.get index) ++ (handling index react signals).events,
        (handling index react signals).state⟩ := by
  -- The callback finds its latch pending because the entry has just set it.
  have set : ((signals.entered index).latch index).pending = true := by
    rw [entered, latch_update, if_pos rfl]
  have enters : (enter index).run signals =
      ⟨signals.callbacks.get index, [.entered index], signals.entered index⟩ := rfl
  rw [edge, Traced.run_bind, enters, handling]
  cases signals.callbacks.get index with
  | none => rfl
  | some callback => simp [announce, set, opening]

theorem timedEdge_run (index : Nat) (react : γ → Action γ Unit) (signals : Signals γ) :
    let handled := (edge index react).run { signals with clock := signals.clock.rest }
    let timing :=
      (handled.state.latch index).timing.after signals.clock.next handled.state.clock.next
    (timedEdge index react).run signals =
      ⟨(), .clockRead signals.clock.next ::
          (handled.events ++ [.clockRead handled.state.clock.next, .recorded index timing]),
        { handled.state with clock := handled.state.clock.rest }.update index
          { handled.state.latch index with timing := timing }⟩ := rfl

theorem obeys_edge (index : Nat) {react : γ → Action γ Unit}
    (reacts : ∀ callback signals,
      Obeys (callbacks signals) ((react callback).run signals).events) (signals : Signals γ) :
    Obeys signals.callbacks ((edge index react).run signals).events := by
  rw [edge_run, handling]
  cases due : signals.callbacks.get index with
  | none => exact .unheeded due (.done _)
  | some callback =>
    have body := reacts callback (signals.entered index)
    rw [callbacks_entered] at body
    exact .heeded due body

theorem Program.obeys {program : Action γ α} (finite : Program program) (signals : Signals γ) :
    Obeys signals.callbacks (program.run signals).events := by
  induction finite generalizing signals with
  | pure value => exact .done _
  | bind begin _ begins proceeds =>
    refine (begins signals).append ?_
    -- What the second program starts with is what the first has made of the callbacks.
    rw [← (begin.walks signals).callbacks]
    exact proceeds _ _
  | readClock | consume | peek | install | inspect => exact .apart rfl (.done _)
  | edge index _ reacts => exact obeys_edge index reacts signals
  | timedEdge index _ reacts =>
    have handled := obeys_edge index reacts { signals with clock := signals.clock.rest }
    rw [timedEdge_run]
    exact .apart rfl (handled.append (.apart rfl (.apart rfl (.done _))))

/-- What a run does about callbacks, from the latches it starts with to those it leaves. -/
structure Conforms (start : Signals γ) (events : List (LatchEvent γ)) (finish : Signals γ) :
    Prop where
  obeys : Obeys start.callbacks events
  installs : finish.callbacks = installedAfter start.callbacks events
  spares : ∀ index, (∀ event ∈ events, event.concerns index = false) →
    finish.latch index = start.latch index

theorem Program.conforms {program : Action γ α} (finite : Program program) (signals : Signals γ) :
    Conforms signals (program.run signals).events (program.run signals).state :=
  ⟨finite.obeys signals, (finite.walks signals).callbacks,
    fun _ => (finite.walks signals).latch_of_apart⟩

theorem Conforms.append {start middle finish : Signals γ} {earlier later : List (LatchEvent γ)}
    (first : Conforms start earlier middle) (second : Conforms middle later finish) :
    Conforms start (earlier ++ later) finish := by
  refine ⟨first.obeys.append (first.installs ▸ second.obeys), ?_, fun index apart => ?_⟩
  · rw [second.installs, first.installs, installedAfter_append]
  · obtain ⟨early, late⟩ := List.forall_mem_append.mp apart
    exact (second.spares index late).trans (first.spares index early)

/-- Each edge runs the callback that is installed on its latch as it is entered, there and then,
and no other callback is run. Latches of which there is no mention stay as they are. -/
structure RunsCallbacks (start : Signals γ) (events : List (LatchEvent γ)) (finish : Signals γ) :
    Prop where
  edge : ∀ earlier index later, events = earlier ++ .entered index :: later →
    Follows index later ((installedAfter start.callbacks earlier).get index)
  call : ∀ earlier callback index pending later,
    events = earlier ++ .called callback index pending :: later →
      pending = true ∧ ∃ before, earlier = before ++ [.entered index] ∧
        (installedAfter start.callbacks before).get index = some callback
  replaced : ∀ earlier index callback between later,
    events = earlier ++ .installed index callback :: between ++ .entered index :: later →
      (∀ other, .installed index other ∉ between) → Follows index later callback
  count : ∀ index, events.countP (calls index) = heededEdges index start.callbacks events
  left : finish.callbacks = installedAfter start.callbacks events
  others : ∀ index, (∀ event ∈ events, event.concerns index = false) →
    finish.latch index = start.latch index

theorem Conforms.runsCallbacks {start finish : Signals γ} {events : List (LatchEvent γ)}
    (conforms : Conforms start events finish) : RunsCallbacks start events finish := by
  refine ⟨conforms.obeys.edge, conforms.obeys.call, ?replaced, conforms.obeys.count,
    conforms.installs, conforms.spares⟩
  intro earlier index callback between later split kept
  have follows := conforms.obeys.edge _ index later split
  -- What was installed before does not matter to this latch any more.
  have last : (installedAfter start.callbacks
      (earlier ++ .installed index callback :: between)).get index = callback := by
    rw [installedAfter_append]
    exact (get_installedAfter_of_kept kept).trans (Bank.get_set_self _ _ _)
  rwa [last] at follows

end Signals

namespace Strike

open LatchEvent

variable {γ : Type}

def handled (strike : Strike γ) (signals : Signals γ) : Outcome (LatchEvent γ) (Signals γ) Unit :=
  Signals.handling strike.latch strike.reaction
    (if strike.timed then { signals with clock := signals.clock.rest } else signals)

/-- The callback does what it does once, right after the entry of the edge. All else that happens
is no edge and no call, and does not concern other latches. -/
theorem raise_run (strike : Strike γ) (signals : Signals γ) :
    ∃ earlier later,
      (strike.raise.run signals).events =
        earlier ++ Signals.opening strike.latch (signals.callbacks.get strike.latch) ++
          (strike.handled signals).events ++ later ∧
      (∀ event ∈ earlier ++ later, event.begins = false ∧
        ∀ other, other ≠ strike.latch → event.concerns other = false) ∧
      ∀ other, other ≠ strike.latch →
        (strike.raise.run signals).state.latch other =
          (strike.handled signals).state.latch other := by
  obtain ⟨latch, timed, reaction⟩ := strike
  cases timed with
  | false =>
    have raised : (Strike.raise ⟨latch, false, reaction⟩).run signals =
        (Signals.edge latch reaction).run signals := rfl
    rw [raised, Signals.edge_run]
    exact ⟨[], [], by simp [handled], by simp, fun _ _ => rfl⟩
  | true =>
    have raised : (Strike.raise ⟨latch, true, reaction⟩).run signals =
        (Signals.timedEdge latch reaction).run signals := rfl
    let body := Signals.handling latch reaction { signals with clock := signals.clock.rest }
    let timing := (body.state.latch latch).timing.after signals.clock.next body.state.clock.next
    rw [raised, Signals.timedEdge_run, Signals.edge_run]
    refine ⟨[.clockRead signals.clock.next],
      [.clockRead body.state.clock.next, .recorded latch timing], ?events, ?apart,
      fun other apart => if_neg apart⟩
    case events =>
      change _ :: ((_ ++ _) ++ _) = ([_] ++ _) ++ _ ++ _
      rw [List.singleton_append, List.cons_append, List.cons_append]
      rfl
    case apart =>
      refine List.forall_mem_append.mpr ⟨List.forall_mem_singleton.mpr ⟨rfl, fun _ _ => rfl⟩, ?_⟩
      exact List.forall_mem_cons.mpr ⟨⟨rfl, fun _ _ => rfl⟩,
        List.forall_mem_singleton.mpr ⟨rfl, fun _ apart => beq_false_of_ne apart.symm⟩⟩

end Strike

namespace System

open LatchEvent

variable {β γ : Type} [Bus β]

theorem exists_program {operation : Operation β γ} (running : operation.setsClock = false)
    (system : System β γ) :
    ∃ program : Signals.Action γ Unit, Signals.Program program ∧
      latchEvents (system.perform operation).events = (program.run system.signals).events ∧
      (system.perform operation).state.signals = (program.run system.signals).state := by
  cases touches : operation.touchesLatches with
  | false =>
    have ignores := ignoresLatches_of_polls (polls_step touches) system
    exact ⟨pure (), .pure (), ignores.2, ignores.signals⟩
  | true =>
    -- These alone reach the latches, and each does so by one program.
    cases operation with
    | poll index =>
      rw [perform_poll]
      split
      · exact ⟨_, (Signals.Program.consume (system.gyros.get index).latch).bind fun _ => .pure (),
          rfl, rfl⟩
      · exact ⟨pure (), .pure (), rfl, rfl⟩
    | setCallback index callback =>
      exact ⟨_, .install (system.gyros.get index).latch callback, rfl, rfl⟩
    | signal latch operation =>
      refine ⟨_, Signals.program_perform latch operation, ?_, ?_⟩
      · cases operation <;> rfl
      · cases operation <;> rfl
    | edge latch timed reaction =>
      refine ⟨_, (Script.edge latch timed reaction .done).program_run, ?_, rfl⟩
      let raised := (Script.edge latch timed reaction .done).run.run system.signals
      change latchEvents (raised.events.map .signal ++ []) = _
      rw [List.append_nil, latchEvents_signal]
    | setClock => cases running
    | _ => cases touches

theorem perform_conforms (system : System β γ) (operation : Operation β γ) :
    Signals.Conforms system.signals (latchEvents (system.perform operation).events)
      (system.perform operation).state.signals := by
  cases running : operation.setsClock with
  | false =>
    obtain ⟨program, finite, events, state⟩ := exists_program running system
    rw [events, state]
    exact finite.conforms system.signals
  | true =>
    cases operation with
    | setClock clock => exact ⟨.done _, rfl, fun _ _ => rfl⟩
    | _ => cases running

theorem after_conforms (system : System β γ) (operations : List (Operation β γ)) :
    Signals.Conforms system.signals (system.latchHistory operations)
      (system.after operations).signals := by
  induction operations generalizing system with
  | nil => exact ⟨.done _, rfl, fun _ _ => rfl⟩
  | cons operation rest ih =>
    rw [latchHistory_cons]
    exact (perform_conforms system operation).append (ih _)

/-- Each edge runs the callback that is installed as it is entered, once and before anything else
happens. An edge without one runs none. -/
theorem edges_run_installed_callbacks {program : Signals.Action γ α}
    (finite : Signals.Program program) (signals : Signals γ) (strike : Strike γ)
    (system : System β γ) (operations : List (Operation β γ)) (index : Nat)
    (callback : Option γ) :
    let done := program.run signals
    let struck := strike.raise.run signals
    let replaced := ((Signals.install index callback).run signals).state
    let set := system.perform (.setCallback index callback)
    Signals.RunsCallbacks signals done.events done.state ∧
    (∀ earlier later, done.events = earlier ++ later → ∃ middle : Signals γ,
      Signals.Walk signals earlier middle ∧ Signals.Walk middle later done.state ∧
        middle.callbacks = installedAfter signals.callbacks earlier) ∧
    (∃ earlier later,
      struck.events =
        earlier ++ Signals.opening strike.latch (signals.callbacks.get strike.latch) ++
          (strike.handled signals).events ++ later ∧
      (∀ event ∈ earlier ++ later, event.begins = false ∧
        ∀ other, other ≠ strike.latch → event.concerns other = false) ∧
      ∀ other, other ≠ strike.latch →
        struck.state.latch other = (strike.handled signals).state.latch other) ∧
    Signals.RunsCallbacks system.signals (system.latchHistory operations)
      (system.after operations).signals ∧
    (replaced.latch index = { signals.latch index with callback := callback } ∧
      (∀ other, other ≠ index → replaced.latch other = signals.latch other) ∧
      replaced.clock = signals.clock) ∧
    latchEvents set.events = [.installed (system.gyros.get index).latch callback] ∧
    set.state = { system with
      signals := ((Signals.install (system.gyros.get index).latch callback).run
        system.signals).state } := by
  refine ⟨(finite.conforms signals).runsCallbacks, ?moments, strike.raise_run signals,
    (after_conforms system operations).runsCallbacks,
    ⟨if_pos rfl, fun other apart => if_neg apart, rfl⟩, rfl, rfl⟩
  case moments =>
    intro earlier later split
    have walk := finite.walks signals
    rw [split] at walk
    obtain ⟨middle, before, after⟩ := walk.split
    exact ⟨middle, before, after, before.callbacks⟩

end System

namespace Simulator

/-- A callback that replaces itself and then raises another edge on its latch. -/
def replacing : Script Callback :=
  .act 0 (.install (some .swap)) <|
    .edge 0 false
      (fun _ => .act 0 (.install (some .log)) <| .edge 0 true (Callback.reaction 0) .done) <|
      .edge 0 false (Callback.reaction 0) .done

theorem replacing_runs_installed_callbacks :
    Signals.Program replacing.run ∧
      let done := replacing.run.run quiet
      done.events.filter (LatchEvent.calls 0) =
        [.called .swap 0 true, .called .log 0 true, .called .log 0 true] ∧
      done.events.countP (LatchEvent.calls 0) =
        LatchEvent.heededEdges 0 quiet.callbacks done.events ∧
      done.state.latch 1 = quiet.latch 1 := by
  obtain ⟨runs, _⟩ := System.edges_run_installed_callbacks replacing.program_run quiet dataReady
    (powerUp (onPrimary {})) [] 0 (some Callback.log)
  exact ⟨replacing.program_run, rfl, runs.count 0, runs.others 1 (by decide)⟩

end Simulator

end Imu
