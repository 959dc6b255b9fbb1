import DnsOverQuic.Proofs.SharedCounters
import Mathlib

/-!
# Streams do not touch each other

Tasks of many streams take their steps in any order.  Whatever the order, what
can be seen of a stream so far is how the same stream handled alone begins, and
all of it once the task has ended.  Other streams, their replies and the order
of the turns do not enter into it, so two gateways that differ in all of these
agree on every stream that they have in common.
-/

namespace DnsOverQuic.Gateway

open Dns

/-- The events in which the client's stream or the resolver takes part. -/
def Transcript.visible
    (transcript : Transcript) :
    List Event :=
  transcript.events.filter Event.isExternal

/-- The events so far in which the client's stream or the resolver takes part. -/
def Task.visible
    (task : Task) :
    List Event :=
  task.history.filter Event.isExternal

theorem Offer.count_accepted
    (offer : Offer)
    (turns : Nat) :
    (offer.calls.take turns).count (.accept none) = (offer.streams.take turns).length := by
  rw [Offer.calls, List.take_append, List.count_append, List.take_replicate,
    List.count_replicate_self, List.length_replicate, List.length_take, Nat.add_eq_left]
  apply List.count_eq_zero.mpr
  intro accepted
  have called := List.mem_of_mem_take accepted
  simp at called

namespace Running

variable
    {handler : Handler}
    {forward : Nat → Nat → Forwarder}
    {held : Nat → Nat → Message → Bool}

/-- A task whose call is not held ends, if it gets its turns, as its stream handled alone. -/
theorem task?_finishes
    (handler : Handler)
    (forward : Nat → Nat → Forwarder)
    (held : Nat → Nat → Message → Bool)
    {running : Running}
    {place : Nat × Nat}
    {task : Task}
    (found : running.task? place = some task)
    (faithful : task.IsFaithful handler (forward place.1 place.2))
    (free : ∀ message, held place.1 place.2 message = false)
    {schedule : List (Nat × Actor)}
    (enough : Stage.opened.stepsLeft ≤ schedule.count (place.1, .task place.2)) :
    let alone := handler.handle (forward place.1 place.2) task.stream
    (running.run handler forward held schedule).task? place =
      some { stream := task.stream, stage := .finished alone.outcome, history := alone.events } := by
  have atMost : task.stage.stepsLeft ≤ Stage.opened.stepsLeft := by
    cases task.stage <;> simp [Stage.stepsLeft]
  rw [task?_run handler forward held found]
  exact congrArg some (faithful.turns_eq free (Nat.le_trans atMost enough))

/-- Every session has returned from its loop and every task has ended. -/
def IsOver
    (running : Running) : Prop :=
  ∀ session ∈ running.sessions,
    session.loop = .returned ∧ ∀ task ∈ session.tasks, task.stage.outcome?.isSome = true

/-- The session of an offer is there after every schedule, as far as its loop has come. -/
theorem exists_session_of_offers
    (handler : Handler)
    (forward : Nat → Nat → Forwarder)
    (held : Nat → Nat → Message → Bool)
    {offers : List Offer}
    {place : Nat}
    {offer : Offer}
    (offered : offers[place]? = some offer)
    (schedule : List (Nat × Actor)) :
    ∃ session, ((start offers).run handler forward held schedule).sessions[place]? =
        some session ∧
      session.HasTaken offer (schedule.count (place, .loop)) := by
  have there : ∃ session,
      ((start offers).run handler forward held schedule).sessions[place]? = some session := by
    rw [sessions_run, start, List.getElem?_map, offered]
    exact ⟨_, rfl⟩
  rcases there with ⟨session, found⟩
  rcases exists_offer_of_sessions handler forward held found with ⟨taker, same, taken, -⟩
  rw [offered] at same
  cases same
  exact ⟨session, found, taken⟩

theorem streams_of_returned
    {offer : Offer}
    {turns : Nat}
    {session : Session}
    (taken : session.HasTaken offer turns)
    (returned : session.loop = .returned) :
    session.tasks.map Task.stream = offer.streams := by
  have many : offer.streams.length + 2 ≤ turns :=
    (offer.loopAfter_eq_returned_iff turns).mp (taken.loop.symm.trans returned)
  rw [taken.streams, List.take_of_length_le (by omega)]

theorem streams_of_isOver
    {offers : List Offer}
    {schedule : List (Nat × Actor)}
    (isOver : ((start offers).run handler forward held schedule).IsOver) :
    ((start offers).run handler forward held schedule).tasks.map Task.stream =
      offers.flatMap Offer.streams := by
  let running := (start offers).run handler forward held schedule
  have each :
      running.sessions.map (fun session => session.tasks.map Task.stream) =
        offers.map Offer.streams := by
    apply List.ext_getElem?
    intro place
    rw [List.getElem?_map, List.getElem?_map]
    cases found : running.sessions[place]? with
    | some session =>
        rcases exists_offer_of_sessions handler forward held found with ⟨offer, offered, taken, -⟩
        have returned := (isOver session (List.mem_of_getElem? found)).1
        rw [offered, Option.map_some, Option.map_some, streams_of_returned taken returned]
    | none =>
        cases offered : offers[place]? with
        | none => rfl
        | some offer =>
            rcases exists_session_of_offers handler forward held offered schedule
                with ⟨session, there, -⟩
            rw [there] at found
            cases found
  calc
    running.tasks.map Task.stream
        = (running.sessions.map (fun session => session.tasks.map Task.stream)).flatten := by
          rw [tasks, List.map_flatMap, List.flatMap_def]
    _ = offers.flatMap Offer.streams := by rw [each, ← List.flatMap_def]

/-- When everything is over, what has happened is what all streams handled alone do. -/
theorem events_of_isOver
    {forward : Forwarder}
    {offers : List Offer}
    {schedule : List (Nat × Actor)}
    (isOver : ((start offers).run handler (fun _ _ => forward) held schedule).IsOver) :
    ((start offers).run handler (fun _ _ => forward) held schedule).events =
      (offers.flatMap Offer.streams).flatMap
        (fun stream => (handler.handle forward stream).events) := by
  have whole :
      ∀ task ∈ ((start offers).run handler (fun _ _ => forward) held schedule).tasks,
        task.history = (handler.handle forward task.stream).events := by
    intro task member
    rcases exists_place_of_mem_tasks member with ⟨place, found⟩
    have faithful := (isSound_of_task? handler (fun _ _ => forward) held found).faithful
    rcases List.mem_flatMap.mp member with ⟨session, there, inside⟩
    have ended := (isOver session there).2 task inside
    rcases Stage.exists_outcome_of_isSome ended with ⟨outcome, current⟩
    exact (faithful.eq_of_finished current).1
  rw [← streams_of_isOver isOver, List.flatMap_map, events]
  exact List.flatMap_congr whole

end Running

/--
Streams are isolated from each other under every order of turns.  Every accepted
stream has one task.  What can be seen of it is how the stream handled alone
begins, and all of that once the task has ended, which it does if its call
returns and it gets its turns.  In two gateways with the same handler and
resolver, a stream that both have shows the same, whatever else they have.  The
counters end as the sums of what the streams handled alone count.
-/
theorem streams_isolated
    (handler : Handler)
    (forward : Forwarder)
    (held : Nat → Nat → Message → Bool)
    (offers : List Offer)
    (schedule : List (Nat × Actor)) :
    let running :=
      (Running.start offers).run handler (fun _ _ => forward) held schedule
    (∀ (place : Nat) (offer : Offer), offers[place]? = some offer →
      ∃ session, running.sessions[place]? = some session ∧
        session.tasks.map Task.stream ++ session.offered = offer.streams ∧
        session.calls.count (.accept none) = session.tasks.length) ∧
    (∀ (place : Nat × Nat) (task : Task), running.task? place = some task →
      let alone := handler.handle forward task.stream
      task.visible <+: alone.visible ∧
      (∀ outcome, task.stage = .finished outcome →
        task.visible = alone.visible ∧ outcome = alone.outcome) ∧
      ∀ (held' : Nat → Nat → Message → Bool) (later : List (Nat × Actor)),
        (∀ message, held' place.1 place.2 message = false) →
        Stage.opened.stepsLeft ≤ later.count (place.1, .task place.2) →
        ∃ ended,
          (running.run handler (fun _ _ => forward) held' later).task? place = some ended ∧
            ended.stage = .finished alone.outcome ∧ ended.visible = alone.visible) ∧
    (∀ (held' : Nat → Nat → Message → Bool) (offers' : List Offer)
      (schedule' : List (Nat × Actor)) (place place' : Nat × Nat) (task task' : Task),
      running.task? place = some task →
      ((Running.start offers').run handler (fun _ _ => forward) held' schedule').task? place' =
        some task' →
      task.stream = task'.stream →
      (task.visible <+: task'.visible ∨ task'.visible <+: task.visible) ∧
      ∀ outcome outcome', task.stage = .finished outcome → task'.stage = .finished outcome' →
        task.visible = task'.visible ∧ outcome = outcome') ∧
    (running.IsOver →
      ∀ counter, running.counters.get counter =
        UInt64.ofNat ((offers.flatMap Offer.streams).map (fun stream =>
          (handler.handle forward stream).events.count (.count counter))).sum) := by
  intro running
  refine ⟨?_, ?_, ?_, ?_⟩
  · intro place offer offered
    rcases Running.exists_session_of_offers handler (fun _ _ => forward) held offered schedule
        with ⟨session, found, taken⟩
    refine ⟨session, found, ?_, ?_⟩
    · rw [taken.streams, taken.offered, List.take_append_drop]
    · rw [taken.calls, Offer.count_accepted, ← taken.streams, List.length_map]
  · intro place task found alone
    have faithful :=
      (Running.isSound_of_task? handler (fun _ _ => forward) held found).faithful
    refine ⟨faithful.history_isPrefix.filter _, ?_, ?_⟩
    · intro outcome ended
      rcases faithful.eq_of_finished ended with ⟨history, same⟩
      exact ⟨congrArg (List.filter Event.isExternal) history, same⟩
    · intro held' later free enough
      have finishes :=
        Running.task?_finishes handler (fun _ _ => forward) held' found faithful free enough
      exact ⟨_, finishes, rfl, rfl⟩
  · intro held' offers' schedule' place place' task task' found found' same
    have faithful :=
      (Running.isSound_of_task? handler (fun _ _ => forward) held found).faithful
    have faithful' :=
      (Running.isSound_of_task? handler (fun _ _ => forward) held' found').faithful
    have first := faithful.history_isPrefix
    have second := faithful'.history_isPrefix
    rw [← same] at second
    refine ⟨?_, ?_⟩
    · rcases List.prefix_or_prefix_of_prefix first second with shorter | longer
      · exact Or.inl (shorter.filter _)
      · exact Or.inr (longer.filter _)
    · intro outcome outcome' ended ended'
      rcases faithful.eq_of_finished ended with ⟨history, outcomeSame⟩
      rcases faithful'.eq_of_finished ended' with ⟨history', outcomeSame'⟩
      rw [← same] at history' outcomeSame'
      exact ⟨congrArg (List.filter Event.isExternal) (history.trans history'.symm),
        outcomeSame.trans outcomeSame'.symm⟩
  · intro isOver counter
    have agrees : running.Agrees := (Running.Agrees.start offers).run schedule
    rw [agrees counter, Running.events_of_isOver isOver, List.count_flatMap]
    rfl

/-- A stream beside one that cannot be read shows what it would show alone. -/
theorem streams_isolated_beside_broken_stream :
    let handler : Handler := { resolver := .named "resolver".toList 53 }
    let forward : Forwarder := fun _ message => .ok message
    let offer : Offer := {
      streams := [⟨.error (.streamRead "reset"), .all⟩, ⟨.ok (List.replicate 17 0), .all⟩]
      failure := .sessionAccept "closed" }
    let running := (Running.start [offer]).run handler (fun _ _ => forward) (fun _ _ _ => false)
      ((Session.fairTurns 2).map (0, ·))
    ∃ task, running.task? (0, 1) = some task ∧ task.stage = .finished (.answered true false) ∧
      task.visible = (handler.handle forward task.stream).visible := by
  intro handler forward offer running
  rcases streams_isolated handler forward (fun _ _ _ => false) [offer]
    ((Session.fairTurns 2).map (0, ·)) with ⟨-, alone, -, -⟩
  have ends : (running.task? (0, 1)).map Task.stage = some (.finished (.answered true false)) := by
    decide
  rcases Option.map_eq_some_iff.mp ends with ⟨task, there, ended⟩
  exact ⟨task, there, ended, ((alone (0, 1) task there).2.1 _ ended).1⟩

end DnsOverQuic.Gateway
