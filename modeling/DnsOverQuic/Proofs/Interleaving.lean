import DnsOverQuic.Gateway.Session
import DnsOverQuic.Proofs.Stepwise
import Mathlib.Data.List.Basic

/-!
# Interleavings, taken apart

A schedule interleaves the turns of the loops and of the tasks of all sessions.
It is taken apart in two steps.  What happens in a session is what its own
turns do to it, and what happens to a task is what its own turns do to it from
the turn in which the loop started it.  So a task that is found in a running
gateway has had some number of turns of its own, whatever else took place, and
the loop is as far as the number of its turns says.
-/

namespace DnsOverQuic.Gateway

open Dns

namespace Session

section Turns

variable
    (handler : Handler)
    (forward : Nat → Forwarder)
    (held : Nat → Message → Bool)

/-- The session after a turn of one of its actors, which passes if it cannot step. -/
def turn
    (session : Session) :
    Actor → Session
  | .loop => session.stepLoop?.getD session
  | .task index =>
      ((session.stepTask? handler (forward index) (held index) index).map Prod.snd).getD session

/-- The session after the turns of its actors. -/
def run
    (actors : List Actor)
    (session : Session) :
    Session :=
  actors.foldl (turn handler forward held) session

/-- The turn of a task changes that task and nothing else in the session. -/
theorem turn_task
    (session : Session)
    (index : Nat) :
    session.turn handler forward held (.task index) =
      { session with
        tasks := session.tasks.modify index (Task.turn handler (forward index) (held index)) } := by
  cases found : session.tasks[index]? with
  | none =>
      have beyond := List.getElem?_eq_none_iff.mp found
      simp [turn, stepTask?, found, List.modify_eq_self beyond]
  | some task =>
      cases stepped : task.step? handler (forward index) (held index) with
      | none =>
          have same : session.tasks.modify index
              (Task.turn handler (forward index) (held index)) = session.tasks := by
            apply List.ext_getElem?
            intro position
            by_cases here : index = position
            · subst here
              simp [found, Task.turn, stepped]
            · simp [here]
          simp [turn, stepTask?, found, stepped, same]
      | some step =>
          have set : session.tasks.set index step.2 =
              session.tasks.modify index (Task.turn handler (forward index) (held index)) := by
            apply List.ext_getElem?
            intro position
            by_cases here : index = position
            · subst here
              simp [found, Task.turn, stepped, List.getElem?_set_self']
            · simp [List.getElem?_set_ne here, here]
          simp [turn, stepTask?, found, stepped, set]

theorem tasks_turn_loop
    {session : Session}
    {index : Nat}
    {task : Task}
    (found : session.tasks[index]? = some task) :
    (session.turn handler forward held .loop).tasks[index]? = some task := by
  have inside := (List.getElem?_eq_some_iff.mp found).1
  simp only [turn, stepLoop?]
  split <;> simp [found, List.getElem?_append_left inside]

/-- A turn moves a task on exactly if it is the turn of that task. -/
theorem tasks_turn
    {session : Session}
    {index : Nat}
    {task : Task}
    (found : session.tasks[index]? = some task)
    (actor : Actor) :
    (session.turn handler forward held actor).tasks[index]? =
      some (if actor = .task index then
        task.turn handler (forward index) (held index) else task) := by
  cases actor with
  | loop => simpa using tasks_turn_loop handler forward held found
  | task other =>
      rw [turn_task]
      by_cases own : other = index
      · subst own
        simp [found]
      · simp [found, own]

/-- Once a task is there, only the number of its own turns matters to it. -/
theorem tasks_run
    {session : Session}
    {index : Nat}
    {task : Task}
    (found : session.tasks[index]? = some task)
    (actors : List Actor) :
    (session.run handler forward held actors).tasks[index]? =
      some ((Task.turn handler (forward index) (held index))^[actors.count (.task index)]
        task) := by
  induction actors generalizing session task with
  | nil => exact found
  | cons actor actors ih =>
      have moved := ih (tasks_turn handler forward held found actor)
      by_cases own : actor = .task index
      · subst own
        simpa [run] using moved
      · simpa [run, own] using moved

/-- Every task got where it is by turns of its own, from the start. -/
def TasksTurned
    (session : Session) : Prop :=
  ∀ index task, session.tasks[index]? = some task →
    ∃ turns, task =
      (Task.turn handler (forward index) (held index))^[turns] { stream := task.stream }

theorem stream_turn
    (handler : Handler)
    (forward : Forwarder)
    (held : Message → Bool)
    (task : Task) :
    (task.turn handler forward held).stream = task.stream := by
  cases stepped : task.step? handler forward held with
  | none => simp [Task.turn, stepped]
  | some step => simpa [Task.turn, stepped] using Task.stream_step stepped

variable {handler forward held} in
/-- A turn of the loop starts a task afresh, and a turn of a task is one of its own. -/
theorem TasksTurned.turn
    {session : Session}
    (turned : session.TasksTurned handler forward held)
    (actor : Actor) :
    (session.turn handler forward held actor).TasksTurned handler forward held := by
  intro index task found
  cases actor with
  | task other =>
      rw [turn_task] at found
      by_cases own : other = index
      · subst own
        rw [List.getElem?_modify_eq] at found
        rcases Option.map_eq_some_iff.mp found with ⟨before, there, rfl⟩
        rcases turned other before there with ⟨turns, history⟩
        refine ⟨turns + 1, ?_⟩
        rw [Function.iterate_succ_apply', stream_turn, ← history]
      · rw [List.getElem?_modify_ne _ _ own] at found
        exact turned index task found
  | loop =>
      simp only [Session.turn, stepLoop?] at found
      split at found
      · -- The loop appends the task of the next stream; the others keep their places.
        next stream rest _ _ =>
          rcases Nat.lt_trichotomy index session.tasks.length with old | new | beyond
          · rw [Option.getD_some, List.getElem?_append_left old] at found
            exact turned index task found
          · subst new
            rw [Option.getD_some, List.getElem?_concat_length] at found
            cases found
            exact ⟨0, rfl⟩
          · rw [Option.getD_some, List.getElem?_eq_none (by simp; omega)] at found
            cases found
      all_goals exact turned index task found

variable {handler forward held} in
theorem TasksTurned.run
    {session : Session}
    (turned : session.TasksTurned handler forward held)
    (actors : List Actor) :
    (session.run handler forward held actors).TasksTurned handler forward held := by
  induction actors generalizing session with
  | nil => exact turned
  | cons actor actors ih => exact ih (turned.turn actor)

end Turns

end Session

/-- The calls that the loop makes on a connection, from the first to the last. -/
def Offer.calls
    (offer : Offer) :
    List SessionCall :=
  List.replicate offer.streams.length (.accept none) ++
    [.accept (some offer.failure), .closeWithError .internalError ""]

theorem Offer.length_calls
    (offer : Offer) :
    offer.calls.length = offer.streams.length + 2 := by
  simp [Offer.calls]

/-- The stage of the loop after a number of its turns. -/
def Offer.loopAfter
    (offer : Offer)
    (turns : Nat) :
    LoopStage :=
  if turns ≤ offer.streams.length then .accepting
  else if turns = offer.streams.length + 1 then .closing
  else .returned

/-- The loop returns with the turn that closes the connection. -/
theorem Offer.loopAfter_eq_returned_iff
    (offer : Offer)
    (turns : Nat) :
    offer.loopAfter turns = .returned ↔ offer.streams.length + 2 ≤ turns := by
  unfold loopAfter
  split
  · simp
    omega
  · split
    · simp
      omega
    · simp
      omega

namespace Session

/-- The loop has taken a number of turns on an offer. -/
structure HasTaken
    (offer : Offer)
    (turns : Nat)
    (session : Session) : Prop where
  failure : session.failure = offer.failure
  loop : session.loop = offer.loopAfter turns
  offered : session.offered = offer.streams.drop turns
  streams : session.tasks.map Task.stream = offer.streams.take turns
  dispatched : session.dispatched = session.tasks.length
  calls : session.calls = offer.calls.take turns

namespace HasTaken

variable
    {offer : Offer}
    {turns : Nat}
    {session : Session}

theorem start
    (offer : Offer) :
    (Session.start offer).HasTaken offer 0 := by
  constructor <;> simp [Session.start, Offer.loopAfter]

/-- A turn of a task takes nothing of the offer. -/
theorem turn_task
    (handler : Handler)
    (forward : Nat → Forwarder)
    (held : Nat → Message → Bool)
    (index : Nat)
    (taken : session.HasTaken offer turns) :
    (session.turn handler forward held (.task index)).HasTaken offer turns := by
  have streams :
      (session.tasks.modify index (Task.turn handler (forward index) (held index))).map
        Task.stream = session.tasks.map Task.stream := by
    apply List.ext_getElem?
    intro position
    by_cases here : index = position
    · subst here
      cases found : session.tasks[index]? <;> simp [found, stream_turn]
    · simp [here]
  rw [Session.turn_task]
  exact {
    failure := taken.failure
    loop := taken.loop
    offered := taken.offered
    streams := streams.trans taken.streams
    dispatched := by simpa using taken.dispatched
    calls := taken.calls }

section Loop

variable
    (handler : Handler)
    (forward : Nat → Forwarder)
    (held : Nat → Message → Bool)

theorem turn_loop_of_accepting
    (taken : session.HasTaken offer turns)
    (fewer : turns < offer.streams.length) :
    (session.turn handler forward held .loop).HasTaken offer (turns + 1) := by
  have next : session.offered = offer.streams[turns] :: offer.streams.drop (turns + 1) := by
    rw [taken.offered, List.drop_eq_getElem_cons fewer]
  have accepting : session.loop = .accepting := by
    rw [taken.loop, Offer.loopAfter, if_pos (Nat.le_of_lt fewer)]
  have call : offer.calls[turns]? = some (.accept none) := by
    rw [Offer.calls, List.getElem?_append_left (by simpa using fewer)]
    simp [fewer]
  simp only [turn, stepLoop?, accepting, next, Option.getD_some]
  exact {
    failure := taken.failure
    loop := by simp [Offer.loopAfter, Nat.succ_le_of_lt fewer]
    offered := rfl
    streams := by
      rw [List.map_append, taken.streams, List.take_add_one, List.getElem?_eq_getElem fewer]
      rfl
    dispatched := by simp [taken.dispatched]
    calls := by rw [taken.calls, List.take_add_one, call, Option.toList_some] }

theorem turn_loop_of_exhausted
    (taken : session.HasTaken offer turns)
    (spent : turns = offer.streams.length) :
    (session.turn handler forward held .loop).HasTaken offer (turns + 1) := by
  have exhausted : session.offered = [] := by
    rw [taken.offered, spent, List.drop_length]
  have accepting : session.loop = .accepting := by
    rw [taken.loop, Offer.loopAfter, if_pos (Nat.le_of_eq spent)]
  have call : offer.calls[turns]? = some (.accept (some offer.failure)) := by
    rw [Offer.calls, List.getElem?_append_right (by simp [spent])]
    simp [spent]
  have streams : session.tasks.map Task.stream = offer.streams.take (turns + 1) := by
    rw [taken.streams, spent, List.take_of_length_le (by simp), List.take_of_length_le (by simp)]
  simp only [turn, stepLoop?, accepting, exhausted, Option.getD_some]
  exact {
    failure := taken.failure
    loop := by simp [spent, Offer.loopAfter]
    offered := by simp [spent]
    streams := streams
    dispatched := taken.dispatched
    calls := by rw [taken.calls, taken.failure, List.take_add_one, call, Option.toList_some] }

theorem streams_of_exhausted
    (taken : session.HasTaken offer turns)
    (beyond : offer.streams.length < turns) :
    session.offered = offer.streams.drop (turns + 1) ∧
      session.tasks.map Task.stream = offer.streams.take (turns + 1) := by
  constructor
  · rw [taken.offered, List.drop_eq_nil_of_le (Nat.le_of_lt beyond),
      List.drop_eq_nil_of_le (by omega)]
  · rw [taken.streams, List.take_of_length_le (Nat.le_of_lt beyond),
      List.take_of_length_le (by omega)]

theorem turn_loop_of_closing
    (taken : session.HasTaken offer turns)
    (closes : turns = offer.streams.length + 1) :
    (session.turn handler forward held .loop).HasTaken offer (turns + 1) := by
  have beyond : offer.streams.length < turns := by omega
  have closing : session.loop = .closing := by
    rw [taken.loop, Offer.loopAfter, if_neg (Nat.not_le_of_lt beyond), if_pos closes]
  have call : offer.calls[turns]? = some (.closeWithError .internalError "") := by
    rw [Offer.calls, List.getElem?_append_right (by simp [closes])]
    simp [closes]
  rcases taken.streams_of_exhausted beyond with ⟨offered, streams⟩
  simp only [turn, stepLoop?, closing, Option.getD_some]
  exact {
    failure := taken.failure
    loop := by
      rw [closes, Offer.loopAfter, if_neg (by omega), if_neg (by omega)]
    offered := offered
    streams := streams
    dispatched := taken.dispatched
    calls := by rw [taken.calls, List.take_add_one, call, Option.toList_some] }

theorem turn_loop_of_returned
    (taken : session.HasTaken offer turns)
    (beyond : offer.streams.length + 1 < turns) :
    (session.turn handler forward held .loop).HasTaken offer (turns + 1) := by
  have short := offer.length_calls
  have returned : session.loop = .returned := by
    rw [taken.loop, Offer.loopAfter, if_neg (by omega), if_neg (by omega)]
  rcases taken.streams_of_exhausted (Nat.lt_of_succ_lt beyond) with ⟨offered, streams⟩
  simp only [turn, stepLoop?, returned, Option.getD_none]
  exact {
    failure := taken.failure
    loop := by
      rw [returned, Offer.loopAfter, if_neg (by omega), if_neg (by omega)]
    offered := offered
    streams := streams
    dispatched := taken.dispatched
    calls := by
      rw [taken.calls, List.take_of_length_le (by omega), List.take_of_length_le (by omega)] }

/-- A turn of the loop takes the next of the offer, as long as there is something to do. -/
theorem turn_loop
    (taken : session.HasTaken offer turns) :
    (session.turn handler forward held .loop).HasTaken offer (turns + 1) := by
  rcases Nat.lt_trichotomy turns offer.streams.length with fewer | spent | beyond
  · exact taken.turn_loop_of_accepting handler forward held fewer
  · exact taken.turn_loop_of_exhausted handler forward held spent
  · rcases Nat.eq_or_lt_of_le beyond with closes | returned
    · exact taken.turn_loop_of_closing handler forward held closes.symm
    · exact taken.turn_loop_of_returned handler forward held returned

end Loop

/-- The loop has taken as many turns as a schedule gives it. -/
theorem run
    (handler : Handler)
    (forward : Nat → Forwarder)
    (held : Nat → Message → Bool)
    (taken : session.HasTaken offer turns)
    (actors : List Actor) :
    (session.run handler forward held actors).HasTaken offer (turns + actors.count .loop) := by
  induction actors generalizing session turns with
  | nil => exact taken
  | cons actor actors ih =>
      cases actor with
      | loop =>
          have moved := ih (taken.turn_loop handler forward held)
          rw [List.count_cons_self, Nat.add_comm _ 1, ← Nat.add_assoc]
          exact moved
      | task index =>
          have moved := ih (taken.turn_task handler forward held index)
          rw [List.count_cons_of_ne (by simp)]
          exact moved

end HasTaken

end Session

namespace Running

/-- The turns that a schedule gives to the actors of one session. -/
def turnsOf
    (place : Nat) :
    List (Nat × Actor) → List Actor
  | [] => []
  | turn :: schedule =>
      if turn.1 = place then turn.2 :: turnsOf place schedule else turnsOf place schedule

theorem count_turnsOf
    (place : Nat)
    (actor : Actor)
    (schedule : List (Nat × Actor)) :
    (turnsOf place schedule).count actor = schedule.count (place, actor) := by
  induction schedule with
  | nil => rfl
  | cons turn schedule ih =>
      rcases turn with ⟨other, mover⟩
      by_cases here : other = place
      · subst here
        simp [turnsOf, ih, List.count_cons]
      · simp [turnsOf, ih, here]

variable
    (handler : Handler)
    (forward : Nat → Nat → Forwarder)
    (held : Nat → Nat → Message → Bool)

/-- A turn changes the session of its actor and no other. -/
theorem sessions_turn
    (running : Running)
    (turn : Nat × Actor)
    (place : Nat) :
    (running.turn handler forward held turn).sessions[place]? =
      running.sessions[place]?.map (fun session =>
        if turn.1 = place then session.turn handler (forward place) (held place) turn.2
        else session) := by
  rcases turn with ⟨other, actor⟩
  cases found : running.sessions[other]? with
  | none =>
      by_cases here : other = place
      · subst here
        simp [Running.turn, step?, found]
      · simp [Running.turn, step?, found, here]
  | some session =>
      by_cases here : other = place
      · subst here
        cases actor with
        | loop =>
            cases stepped : session.stepLoop? <;>
              simp [Running.turn, step?, Session.turn, found, stepped,
                List.getElem?_set_self']
        | task index =>
            cases stepped :
                session.stepTask? handler (forward other index) (held other index) index <;>
              simp [Running.turn, step?, Session.turn, found, stepped,
                List.getElem?_set_self']
      · cases actor with
        | loop =>
            cases stepped : session.stepLoop? <;>
              simp [Running.turn, step?, found, stepped, here, List.getElem?_set_ne here]
        | task index =>
            cases stepped :
                session.stepTask? handler (forward other index) (held other index) index <;>
              simp [Running.turn, step?, found, stepped, here, List.getElem?_set_ne here]

/-- What becomes of a session is what its own turns make of it. -/
theorem sessions_run
    (running : Running)
    (schedule : List (Nat × Actor))
    (place : Nat) :
    (running.run handler forward held schedule).sessions[place]? =
      running.sessions[place]?.map
        (Session.run handler (forward place) (held place) (turnsOf place schedule)) := by
  induction schedule generalizing running with
  | nil =>
      have idle : Session.run handler (forward place) (held place) [] = id := rfl
      simp [run, turnsOf, idle]
  | cons turn schedule ih =>
      have moved := ih (running.turn handler forward held turn)
      rw [sessions_turn, Option.map_map] at moved
      refine moved.trans (congrArg (Option.map · _) ?_)
      funext session
      by_cases here : turn.1 = place <;> simp [turnsOf, here, Session.run]

/-- Once a task is there, only the number of its own turns matters to it. -/
theorem task?_run
    {running : Running}
    {place : Nat × Nat}
    {task : Task}
    (found : running.task? place = some task)
    (schedule : List (Nat × Actor)) :
    (running.run handler forward held schedule).task? place =
      some ((Task.turn handler (forward place.1 place.2) (held place.1 place.2))^[
        schedule.count (place.1, .task place.2)] task) := by
  rcases Option.bind_eq_some_iff.mp found with ⟨session, there, inside⟩
  have moved :=
    Session.tasks_run handler (forward place.1) (held place.1) inside (turnsOf place.1 schedule)
  rw [count_turnsOf] at moved
  simpa [task?, sessions_run, there] using moved

/-- A session that is found after a schedule has taken turns on its offer. -/
theorem exists_offer_of_sessions
    {offers : List Offer}
    {schedule : List (Nat × Actor)}
    {place : Nat}
    {session : Session}
    (found : ((start offers).run handler forward held schedule).sessions[place]? = some session) :
    ∃ offer, offers[place]? = some offer ∧
      session.HasTaken offer (schedule.count (place, .loop)) ∧
      session.TasksTurned handler (forward place) (held place) := by
  rw [sessions_run, start, List.getElem?_map, Option.map_map] at found
  rcases Option.map_eq_some_iff.mp found with ⟨offer, there, rfl⟩
  refine ⟨offer, there, ?_, ?_⟩
  · have taken :=
      (Session.HasTaken.start offer).run handler (forward place) (held place)
        (turnsOf place schedule)
    rwa [count_turnsOf, Nat.zero_add] at taken
  · apply Session.TasksTurned.run
    intro index task started
    simp [Session.start] at started

/-- Every task that is found after a schedule is sound. -/
theorem isSound_of_task?
    {offers : List Offer}
    {schedule : List (Nat × Actor)}
    {place : Nat × Nat}
    {task : Task}
    (found : ((start offers).run handler forward held schedule).task? place = some task) :
    task.IsSound handler (forward place.1 place.2) (held place.1 place.2) := by
  rcases Option.bind_eq_some_iff.mp found with ⟨session, there, inside⟩
  rcases exists_offer_of_sessions handler forward held there with ⟨offer, -, -, turned⟩
  rcases turned place.2 task inside with ⟨turns, same⟩
  rw [same]
  exact Task.isSound_turns handler _ _ task.stream turns

end Running

end DnsOverQuic.Gateway
