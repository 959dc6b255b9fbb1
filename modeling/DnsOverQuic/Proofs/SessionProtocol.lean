import DnsOverQuic.Proofs.Isolation

/-!
# The loop of a session while calls are held

The loop never waits for a task.  The calls that it makes, the tasks that it
starts and the number that it returns depend on the number of its own turns
alone, whatever calls of the resolver are held.

When the loop has returned and no task can step, the tasks that have not ended
are those with a held call.  Each has counted its query and nothing else and has
left its stream open, and when its call returns it ends as if it had never been
held.
-/

namespace DnsOverQuic.Gateway

open Dns

namespace Session

/-- The loop has returned and no task can step. -/
def IsQuiescent
    (handler : Handler)
    (forward : Nat → Forwarder)
    (held : Nat → Message → Bool)
    (session : Session) : Prop :=
  session.loop = .returned ∧
    ∀ index, session.stepTask? handler (forward index) (held index) index = none

theorem step?_eq_none_of_stepTask?_eq_none
    {handler : Handler}
    {forward : Forwarder}
    {held : Message → Bool}
    {session : Session}
    {index : Nat}
    {task : Task}
    (found : session.tasks[index]? = some task)
    (stuck : session.stepTask? handler forward held index = none) :
    task.step? handler forward held = none := by
  cases stepped : task.step? handler forward held with
  | none => rfl
  | some step => simp [stepTask?, found, stepped] at stuck

namespace HasTaken

variable
    {offer : Offer}
    {turns : Nat}
    {session : Session}

/-- The loop returns the number of all streams, after the turns that it takes to do so. -/
theorem result?_eq
    (taken : session.HasTaken offer turns) :
    session.result? =
      if offer.streams.length + 2 ≤ turns then some offer.streams.length else none := by
  have started : session.dispatched = min turns offer.streams.length := by
    rw [taken.dispatched, ← List.length_take, ← taken.streams, List.length_map]
  rw [result?, taken.loop, started]
  by_cases enough : offer.streams.length + 2 ≤ turns
  · rw [if_pos ((offer.loopAfter_eq_returned_iff turns).mpr enough), if_pos enough,
      Nat.min_eq_right (by omega)]
  · rw [if_neg (mt (offer.loopAfter_eq_returned_iff turns).mp enough), if_neg enough]

/-- The only code with which the loop closes a connection is that of an internal error. -/
theorem number_of_closeWithError
    (taken : session.HasTaken offer turns)
    {code : Protocol.CloseCode}
    {reason : String}
    (closed : .closeWithError code reason ∈ session.calls) :
    code.number = 1 ∧ reason = "" := by
  rw [taken.calls] at closed
  have called := List.mem_of_mem_take closed
  simp only [Offer.calls, List.mem_append, List.mem_replicate, List.mem_cons, reduceCtorEq,
    and_false, false_or, List.not_mem_nil, or_false, SessionCall.closeWithError.injEq] at called
  rcases called with ⟨rfl, rfl⟩
  exact ⟨rfl, rfl⟩

end HasTaken

end Session

namespace Task

variable
    {handler : Handler}
    {forward : Forwarder}
    {held : Message → Bool}
    {task : Task}

/-- A task that is held has counted its query, and has neither written nor closed. -/
theorem IsSound.of_isHeld
    (sound : task.IsSound handler forward held)
    (waits : task.isHeld held = true) :
    task.history.count (.count .queries) = 1 ∧
      task.history.count (.count .validQueries) = 0 ∧
      task.history.count (.count .resolverFailures) = 0 ∧
      (∀ octets, .write octets ∉ task.history) ∧ .close ∉ task.history := by
  rcases history_of_isHeld sound.prologue waits with ⟨query, -, history⟩
  rw [history]
  refine ⟨?_, ?_, ?_, ?_, ?_⟩ <;> simp

theorem IsSound.isHeld_of_reaches
    (sound : task.IsSound handler forward held)
    (stuck : task.step? handler forward held = none)
    (reaches : (handler.handle forward task.stream).reaches held = true) :
    task.isHeld held = true := by
  rcases isHeld_or_finished_of_step?_eq_none stuck with waits | ⟨outcome, ended⟩
  · exact waits
  · have free :=
      (finished_iff_of_stuck sound.faithful sound.prologue sound.waits stuck).mp
        (by simp [ended, Stage.outcome?])
    rw [free] at reaches
    cases reaches

end Task

/--
The protocol of a session, whatever calls are held and in whatever order turns
are taken.  The loop calls its connection and starts tasks as the number of its
own turns says, and returns the number of all streams.  Once it has returned and
no task can step, exactly the tasks that do not reach a held call have ended.
The others have counted a query and nothing else, have neither written nor
closed, and end as the stream handled alone once their calls return.
-/
theorem session_protocol
    (handler : Handler)
    (forward : Nat → Nat → Forwarder)
    (held : Nat → Nat → Message → Bool)
    (offers : List Offer)
    (schedule : List (Nat × Actor))
    {place : Nat}
    {offer : Offer}
    (offered : offers[place]? = some offer) :
    let running := (Running.start offers).run handler forward held schedule
    let turns := schedule.count (place, .loop)
    (∀ counter, running.counters.get counter =
      UInt64.ofNat (running.events.count (.count counter))) ∧
    ∃ session, running.sessions[place]? = some session ∧
      session.calls = offer.calls.take turns ∧
      (∀ code reason, .closeWithError code reason ∈ session.calls →
        code.number = 1 ∧ reason = "") ∧
      session.tasks.map Task.stream = offer.streams.take turns ∧
      session.result? =
        (if offer.streams.length + 2 ≤ turns then some offer.streams.length else none) ∧
      (session.IsQuiescent handler (forward place) (held place) →
        session.calls = offer.calls ∧
        session.tasks.map Task.stream = offer.streams ∧
        session.result? = some offer.streams.length ∧
        ∀ (index : Nat) (task : Task), session.tasks[index]? = some task →
          let alone := handler.handle (forward place index) task.stream
          (task.stage.outcome?.isSome = true ↔ alone.reaches (held place index) = false) ∧
          (alone.reaches (held place index) = true →
            task.history.count (.count .queries) = 1 ∧
            task.history.count (.count .validQueries) = 0 ∧
            task.history.count (.count .resolverFailures) = 0 ∧
            (∀ octets, .write octets ∉ task.history) ∧ .close ∉ task.history) ∧
          ∀ (held' : Nat → Nat → Message → Bool) (later : List (Nat × Actor)),
            (∀ message, held' place index message = false) →
            Stage.opened.stepsLeft ≤ later.count (place, .task index) →
            ∃ ended, (running.run handler forward held' later).task? (place, index) = some ended ∧
              ended.history = alone.events ∧ ended.stage = .finished alone.outcome) := by
  intro running turns
  rcases Running.exists_session_of_offers handler forward held offered schedule
      with ⟨session, found, taken⟩
  refine ⟨(Running.Agrees.start offers).run schedule, session, found, taken.calls,
    fun code reason closed => taken.number_of_closeWithError closed, taken.streams,
    taken.result?_eq, ?_⟩
  rintro ⟨returned, stuck⟩
  have enough : offer.streams.length + 2 ≤ turns :=
    (offer.loopAfter_eq_returned_iff turns).mp (taken.loop.symm.trans returned)
  refine ⟨?_, Running.streams_of_returned taken returned, ?_, ?_⟩
  · rw [taken.calls, List.take_of_length_le (by rw [Offer.length_calls]; exact enough)]
  · rw [taken.result?_eq, if_pos enough]
  · intro index task inside alone
    have there : running.task? (place, index) = some task := by
      simp [Running.task?, running, found, inside]
    have sound := Running.isSound_of_task? handler forward held there
    have still := Session.step?_eq_none_of_stepTask?_eq_none inside (stuck index)
    refine ⟨?_, ?_, ?_⟩
    · exact Task.finished_iff_of_stuck sound.faithful sound.prologue sound.waits still
    · intro reaches
      exact sound.of_isHeld (sound.isHeld_of_reaches still reaches)
    · intro held' later free enoughTurns
      have finishes :=
        Running.task?_finishes handler forward held' there sound.faithful free enoughTurns
      exact ⟨_, finishes, rfl, rfl⟩

/-- A session of two streams returns and keeps one call, which is held, waiting. -/
theorem session_protocol_of_held_call :
    let query : Octets := List.replicate 17 0
    let offer : Offer := {
      streams := [⟨.ok query, .all⟩, ⟨.ok query, .all⟩]
      failure := .sessionAccept "closed" }
    let handler : Handler := { resolver := .named "resolver".toList 53 }
    let forward : Nat → Nat → Forwarder := fun _ _ _ message => .ok message
    let held : Nat → Nat → Message → Bool := fun _ index _ => index = 1
    let running := (Running.start [offer]).run handler forward held
      ((Session.fairTurns 2).map (0, ·))
    ∃ session, running.sessions[0]? = some session ∧
      session.calls = offer.calls ∧
      session.result? = some 2 ∧
      ∀ task, session.tasks[1]? = some task →
        task.history.count (.count .queries) = 1 ∧ .close ∉ task.history := by
  intro query offer handler forward held running
  have offered : [offer][0]? = some offer := rfl
  rcases session_protocol handler forward held [offer] ((Session.fairTurns 2).map (0, ·)) offered
    with ⟨-, session, found, -, -, streams, -, quiescent⟩
  have many : session.tasks.length = 2 := by
    rw [← List.length_map, streams]
    rfl
  have still : ∀ session ∈ running.sessions, session.loop = .returned ∧ ∀ index < 2,
      (session.stepTask? handler (forward 0 index) (held 0 index) index).isNone = true := by
    decide
  have quiet : session.IsQuiescent handler (forward 0) (held 0) := by
    rcases still session (List.mem_of_getElem? found) with ⟨returned, stuck⟩
    refine ⟨returned, fun index => ?_⟩
    by_cases inside : index < 2
    · exact Option.isNone_iff_eq_none.mp (stuck index inside)
    · simp [Session.stepTask?, List.getElem?_eq_none (Nat.le_of_not_lt (many ▸ inside))]
  rcases quiescent quiet with ⟨calls, -, result, tasks⟩
  refine ⟨session, found, calls, result, fun task there => ?_⟩
  rcases tasks 1 task there with ⟨-, waits, -⟩
  have asks : ∀ session ∈ running.sessions, ∀ task ∈ session.tasks,
      (handler.handle (forward 0 1) task.stream).reaches (held 0 1) = true := by
    decide
  rcases waits (asks session (List.mem_of_getElem? found) task (List.mem_of_getElem? there))
    with ⟨counted, -, -, -, unclosed⟩
  exact ⟨counted, unclosed⟩

end DnsOverQuic.Gateway
