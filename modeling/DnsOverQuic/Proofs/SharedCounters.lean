import DnsOverQuic.Proofs.Interleaving

/-!
# The counters that all tasks share

Every step of a task adds one event to what has happened in the gateway, and
the counters follow it.  So at any time a counter is the number of its events
in the histories of all tasks of all sessions, up to the wrap at 2 ^ 64.
-/

namespace DnsOverQuic.Gateway

open Dns

/-- What has happened to the streams of a session, stream by stream. -/
def Session.events
    (session : Session) :
    List Event :=
  session.tasks.flatMap Task.history

namespace Running

/-- The tasks of all sessions. -/
def tasks
    (running : Running) :
    List Task :=
  running.sessions.flatMap Session.tasks

theorem exists_place_of_mem_tasks
    {running : Running}
    {task : Task}
    (member : task ∈ running.tasks) :
    ∃ place, running.task? place = some task := by
  rcases List.mem_flatMap.mp member with ⟨session, there, inside⟩
  rcases List.mem_iff_getElem?.mp there with ⟨place, found⟩
  rcases List.mem_iff_getElem?.mp inside with ⟨index, here⟩
  refine ⟨(place, index), ?_⟩
  simp [task?, found, here]

/-- What has happened to the streams of all sessions, stream by stream. -/
def events
    (running : Running) :
    List Event :=
  running.tasks.flatMap Task.history

theorem events_eq_flatMap
    (running : Running) :
    running.events = running.sessions.flatMap Session.events := by
  rw [events, tasks, List.flatMap_assoc]
  rfl

end Running

/-- What is added to one part is added to the whole, at some position. -/
theorem flatMap_set_perm
    {α β : Type}
    {part : α → List β}
    {parts : List α}
    {index : Nat}
    {before after : α}
    {added : List β}
    (found : parts[index]? = some before)
    (grows : (part after).Perm (added ++ part before)) :
    ((parts.set index after).flatMap part).Perm (added ++ parts.flatMap part) := by
  induction parts generalizing index with
  | nil => simp at found
  | cons first rest ih =>
      cases index with
      | zero =>
          cases found
          simpa using grows.append_right (rest.flatMap part)
      | succ index =>
          have here : rest[index]? = some before := by
            simpa using found
          have inner := ih here
          exact (inner.append_left (part first)).trans
            (List.perm_append_comm_assoc (part first) added (rest.flatMap part))

namespace Session

variable
    {handler : Handler}
    {forward : Forwarder}
    {held : Message → Bool}
    {session next : Session}

theorem events_stepLoop
    (stepped : session.stepLoop? = some next) :
    next.events = session.events := by
  unfold stepLoop? at stepped
  split at stepped <;> cases stepped <;> simp [events]

theorem events_stepTask
    {index : Nat}
    {event : Event}
    (stepped : session.stepTask? handler forward held index = some (event, next)) :
    next.events.Perm ([event] ++ session.events) := by
  rcases Option.bind_eq_some_iff.mp stepped with ⟨task, found, rest⟩
  rcases Option.bind_eq_some_iff.mp rest with ⟨⟨made, moved⟩, taskStepped, same⟩
  rcases Task.exists_stage_of_step? taskStepped with ⟨-, stage, -, advanced⟩
  cases advanced
  cases same
  exact flatMap_set_perm found List.perm_append_comm

end Session

theorem Counters.get_afterEvent
    (counters : Counters)
    (event : Event)
    (counter : Counter) :
    (counters.afterEvent event).get counter =
      counters.get counter + if event = .count counter then 1 else 0 := by
  cases event with
  | count counted =>
      have counts := counters.get_increment counted counter
      by_cases same : counter = counted
      · subst same
        simpa [afterEvent, Event.counter?] using counts
      · simpa [afterEvent, Event.counter?, same, Ne.symm same] using counts
  | _ => simp [afterEvent, Event.counter?]

namespace Running

/-- The counters tell what has happened, up to the wrap. -/
def Agrees
    (running : Running) : Prop :=
  ∀ counter, running.counters.get counter = UInt64.ofNat (running.events.count (.count counter))

variable
    {handler : Handler}
    {forward : Nat → Nat → Forwarder}
    {held : Nat → Nat → Message → Bool}
    {running next : Running}

/-- The counters follow every step. -/
theorem Agrees.step
    {turn : Nat × Actor}
    (stepped : running.step? handler forward held turn = some next)
    (agrees : running.Agrees) :
    next.Agrees := by
  intro counter
  rcases turn with ⟨place, actor⟩
  rcases Option.bind_eq_some_iff.mp stepped with ⟨session, found, rest⟩
  cases actor with
  | loop =>
      rcases Option.bind_eq_some_iff.mp rest with ⟨moved, loopStepped, same⟩
      cases same
      have kept : moved.events.Perm ([] ++ session.events) := by
        rw [Session.events_stepLoop loopStepped, List.nil_append]
      have unchanged := flatMap_set_perm found kept
      rw [events_eq_flatMap, unchanged.count_eq, List.nil_append, ← events_eq_flatMap]
      exact agrees counter
  | task index =>
      rcases Option.bind_eq_some_iff.mp rest with ⟨⟨event, moved⟩, taskStepped, same⟩
      cases same
      have added := flatMap_set_perm found (Session.events_stepTask taskStepped)
      rw [events_eq_flatMap, added.count_eq, Counters.get_afterEvent, agrees counter,
        events_eq_flatMap, List.singleton_append, List.count_cons]
      by_cases same : event = .count counter <;> simp [same, UInt64.ofNat_add]

theorem Agrees.start
    (offers : List Offer) :
    (Running.start offers).Agrees := by
  intro counter
  have silent : (Running.start offers).events = [] := by
    simp [events, tasks, Running.start, Session.start, List.flatMap_eq_nil_iff]
  rw [silent]
  cases counter <;> rfl

theorem Agrees.run
    (schedule : List (Nat × Actor))
    (agrees : running.Agrees) :
    (running.run handler forward held schedule).Agrees := by
  induction schedule generalizing running with
  | nil => exact agrees
  | cons turn schedule ih =>
      apply ih
      cases stepped : running.step? handler forward held turn with
      | none => simpa [Running.turn, stepped] using agrees
      | some next => simpa [Running.turn, stepped] using agrees.step stepped

end Running

end DnsOverQuic.Gateway
