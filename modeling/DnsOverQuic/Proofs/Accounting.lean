import DnsOverQuic.Proofs.SharedCounters
import Mathlib

/-!
# What the counters account for

A query is counted when its message has been delivered, and then it is either
refused or forwarded and counted as valid, with a failure of the resolver
counted after that.  At any time a counted query is valid, refused, or not yet
decided; when all tasks have ended, the counters are numbers of outcomes and
numbers of calls.

Both follow from what the history of one task has counted, which its stage and
the handling of its stream alone determine.
-/

namespace DnsOverQuic.Gateway

open Dns

/-- The outcome of a stage in which it is settled. -/
def Stage.verdict? :
    Stage → Option Outcome
  | closing outcome => some outcome
  | finished outcome => some outcome
  | _ => none

namespace Task

/-- True if the stream delivered a message of admissible size and this has been counted. -/
def hasPassed
    (task : Task) :
    Bool :=
  task.stream.message?.isSome && task.history.contains (.count .queries)

/-- True if the query has been counted and refused. -/
def isRefused
    (task : Task) :
    Bool :=
  task.history.contains (.count .queries) && task.stage.verdict?.any Outcome.isRefused

/-- True if the query has been counted and has neither been refused nor counted as valid. -/
def isUndecided
    (task : Task) :
    Bool :=
  task.history.contains (.count .queries) && !task.stage.verdict?.any Outcome.isRefused &&
    !task.history.contains (.count .validQueries)

/-- How often the history has counted something. -/
def counted
    (counter : Counter)
    (task : Task) :
    Nat :=
  task.history.count (.count counter)

variable
    {handler : Handler}
    {forward : Forwarder}
    {task : Task}

/-- The history has counted what the stream alone counts, less what is still to happen. -/
theorem IsFaithful.counted_add
    (faithful : task.IsFaithful handler forward)
    (counter : Counter) :
    task.counted counter +
        (task.stage.remainder handler forward task.stream).events.count (.count counter) =
      (handler.handle forward task.stream).events.count (.count counter) := by
  rw [counted, ← List.count_append]
  exact congrArg (fun transcript => transcript.events.count (.count counter)) faithful

theorem IsFaithful.outcome_remainder
    (faithful : task.IsFaithful handler forward) :
    (task.stage.remainder handler forward task.stream).outcome =
      (handler.handle forward task.stream).outcome := by
  rw [← Transcript.outcome_after task.history, faithful]

/--
What a task has counted, as far as its stage tells.  Its query is not counted yet,
or has been counted and nothing else, or has been counted as valid too; once its
outcome is settled, the outcome tells which of the two have been counted.
-/
inductive Ledger
    (task : Task) : Prop where
  | uncounted
      (verdict : task.stage.verdict? = none)
      (queries : task.counted .queries = 0)
      (validQueries : task.counted .validQueries = 0)
      (failures : task.counted .resolverFailures = 0)
  | undecided
      (verdict : task.stage.verdict? = none)
      (queries : task.counted .queries = 1)
      (validQueries : task.counted .validQueries = 0)
      (failures : task.counted .resolverFailures = 0)
  | valid
      (verdict : task.stage.verdict? = none)
      (queries : task.counted .queries = 1)
      (validQueries : task.counted .validQueries = 1)
      (failures : task.counted .resolverFailures ≤ 1)
  | settled
      {outcome : Outcome}
      (verdict : task.stage.verdict? = some outcome)
      (queries : task.counted .queries = if outcome = .undersized then 0 else 1)
      (validQueries : task.counted .validQueries = if outcome.isForwarded then 1 else 0)
      (failures : task.counted .resolverFailures ≤ task.counted .validQueries)

/-- A task whose conclusion is under way has counted its query and that it is valid. -/
theorem IsFaithful.ledger_of_answering
    (faithful : task.IsFaithful handler forward)
    (verdict : task.stage.verdict? = none)
    (forwards : (task.stage.remainder handler forward task.stream).outcome.isForwarded = true)
    (noQueries :
      (task.stage.remainder handler forward task.stream).events.count (.count .queries) = 0)
    (noValidQueries :
      (task.stage.remainder handler forward task.stream).events.count
        (.count .validQueries) = 0) :
    task.Ledger := by
  have accounted := handler.isAccounted_handle forward task.stream
  rw [faithful.outcome_remainder] at forwards
  have notUndersized : (handler.handle forward task.stream).outcome ≠ .undersized := by
    intro undersized
    rw [undersized] at forwards
    cases forwards
  have queries := faithful.counted_add .queries
  have validQueries := faithful.counted_add .validQueries
  have failures := faithful.counted_add .resolverFailures
  rw [noQueries, accounted.queries, if_neg notUndersized] at queries
  rw [noValidQueries, accounted.validQueries, if_pos forwards] at validQueries
  have atMost := accounted.failures_le
  rw [accounted.validQueries, if_pos forwards] at atMost
  exact .valid verdict queries validQueries (by omega)

/-- A task whose outcome is settled has counted all that its stream alone counts. -/
theorem IsFaithful.ledger_of_settled
    (faithful : task.IsFaithful handler forward)
    {outcome : Outcome}
    (verdict : task.stage.verdict? = some outcome)
    (same : (task.stage.remainder handler forward task.stream).outcome = outcome)
    (nothing : ∀ counter,
      (task.stage.remainder handler forward task.stream).events.count (.count counter) = 0) :
    task.Ledger := by
  have accounted := handler.isAccounted_handle forward task.stream
  have whole : ∀ counter, task.counted counter =
      (handler.handle forward task.stream).events.count (.count counter) := by
    intro counter
    have counted := faithful.counted_add counter
    rwa [nothing counter, Nat.add_zero] at counted
  rw [faithful.outcome_remainder] at same
  refine .settled verdict ?_ ?_ ?_
  · rw [whole, accounted.queries, same]
  · rw [whole, accounted.validQueries, same]
  · rw [whole, whole]
    exact accounted.failures_le

/-- Every task that has had turns since its start keeps a ledger. -/
theorem IsSound.ledger
    {held : Message → Bool}
    (sound : task.IsSound handler forward held) :
    task.Ledger := by
  cases current : task.stage with
  | opened =>
      have history := sound.prologue _ (by rw [current]; rfl)
      refine .uncounted (by rw [current]; rfl) ?_ ?_ ?_ <;> simp [counted, history]
  | delivered octets =>
      have history := sound.prologue _ (by rw [current]; rfl)
      refine .uncounted (by rw [current]; rfl) ?_ ?_ ?_ <;> simp [counted, history]
  | asking query =>
      have history := sound.prologue _ (by rw [current]; rfl)
      refine .undecided (by rw [current]; rfl) ?_ ?_ ?_ <;> simp [counted, history]
  | waiting query =>
      have history := sound.prologue _ (by rw [current]; rfl)
      refine .undecided (by rw [current]; rfl) ?_ ?_ ?_ <;> simp [counted, history]
  | failed query =>
      apply sound.faithful.ledger_of_answering (by rw [current]; rfl) <;>
        simp [current, Stage.remainder, Handler.isForwarded_answer]
  | writing octets resolverOk =>
      apply sound.faithful.ledger_of_answering (by rw [current]; rfl) <;>
        simp [current, Stage.remainder, ClientStream.isForwarded_outcomeOfWrite]
  | closing outcome =>
      have verdict : task.stage.verdict? = some outcome := by
        rw [current]
        rfl
      apply sound.faithful.ledger_of_settled verdict <;> simp [current, Stage.remainder]
  | finished outcome =>
      have verdict : task.stage.verdict? = some outcome := by
        rw [current]
        rfl
      apply sound.faithful.ledger_of_settled verdict <;> simp [current, Stage.remainder]

/-- A query is counted exactly once, and only for a message of admissible size. -/
theorem IsSound.queries_eq
    {held : Message → Bool}
    (sound : task.IsSound handler forward held) :
    task.counted .queries = task.hasPassed.toNat := by
  have accounted := handler.isAccounted_handle forward task.stream
  have part := sound.faithful.counted_add .queries
  have delivered : 0 < task.counted .queries → task.stream.message?.isSome = true := by
    intro some
    cases unread : task.stream.message? with
    | some octets => rfl
    | none =>
        rw [Handler.handle_of_unread unread] at part
        simp at part
        omega
  have atMost : task.counted .queries ≤ 1 := by
    rw [accounted.queries] at part
    split at part <;> omega
  by_cases counts : .count .queries ∈ task.history
  · have positive : 0 < task.counted .queries := List.count_pos_iff.mpr counts
    simp [hasPassed, counts, delivered positive]
    omega
  · simp [hasPassed, counts, counted, List.count_eq_zero.mpr counts]

/-- A failure is counted after a valid query, and a valid query after a query. -/
theorem Ledger.ordered
    (ledger : task.Ledger) :
    task.counted .resolverFailures ≤ task.counted .validQueries ∧
      task.counted .validQueries ≤ task.counted .queries := by
  cases ledger with
  | uncounted _ queries validQueries failures => omega
  | undecided _ queries validQueries failures => omega
  | valid _ queries validQueries failures => omega
  | @settled outcome _ queries validQueries failures =>
      refine ⟨failures, ?_⟩
      rw [queries, validQueries]
      cases outcome <;> simp [Outcome.isForwarded]

/-- A counted query is valid, refused or undecided. -/
theorem Ledger.queries_eq
    (ledger : task.Ledger) :
    task.counted .queries =
      task.counted .validQueries + (task.isRefused.toNat + task.isUndecided.toNat) := by
  have counts : ∀ counter, .count counter ∈ task.history ↔ 0 < task.counted counter :=
    fun counter => List.count_pos_iff.symm
  cases ledger with
  | uncounted verdict queries validQueries failures =>
      simp [isRefused, isUndecided, counts, queries, validQueries]
  | undecided verdict queries validQueries failures =>
      simp [isRefused, isUndecided, counts, queries, validQueries, verdict]
  | valid verdict queries validQueries failures =>
      simp [isRefused, isUndecided, counts, queries, validQueries, verdict]
  | @settled outcome verdict queries validQueries failures =>
      cases outcome <;>
        simp_all [isRefused, isUndecided, Outcome.isForwarded, Outcome.isRefused]

/-- True if the task has ended with an outcome that has a property. -/
def endedAs
    (property : Outcome → Bool)
    (task : Task) :
    Bool :=
  task.stage.outcome?.any property

/-- The number of calls of the task. -/
def calls
    (task : Task) :
    Nat :=
  task.history.countP Event.isCall

/-- The number of calls of the task that fail. -/
def failedCalls
    (forward : Forwarder)
    (task : Task) :
    Nat :=
  task.history.countP (Event.isFailedCall forward)

/-- True if the task could not write its response after its call had failed. -/
def isUnwrittenFailure
    (forward : Forwarder)
    (task : Task) :
    Bool :=
  task.endedAs (· == .writeFailed) && decide (0 < task.failedCalls forward)

/-- What the counts of a task amount to once it has ended. -/
structure Balance
    (forward : Forwarder)
    (task : Task) : Prop where
  queries : task.counted .queries = (task.endedAs (· != .undersized)).toNat
  validQueries :
    task.counted .validQueries =
      (task.endedAs Outcome.isAnswered).toNat + (task.endedAs (· == .writeFailed)).toNat
  calls : task.counted .validQueries = task.calls
  failedCalls : task.counted .resolverFailures = task.failedCalls forward
  failures :
    task.counted .resolverFailures =
      (task.endedAs Outcome.isAnsweredEmpty).toNat + (task.isUnwrittenFailure forward).toNat

theorem IsFaithful.balance
    (faithful : task.IsFaithful handler forward)
    (ended : task.stage.outcome?.isSome = true) :
    task.Balance forward := by
  rcases Stage.exists_outcome_of_isSome ended with ⟨outcome, current⟩
  rcases faithful.eq_of_finished current with ⟨history, same⟩
  have whole : handler.handle forward task.stream = ⟨task.history, outcome⟩ := by
    rw [history, same]
  have accounted := handler.isAccounted_handle forward task.stream
  rw [whole] at accounted
  have failedCalls : task.counted .resolverFailures = task.failedCalls forward :=
    accounted.failedCalls.symm
  have atMost : task.counted .resolverFailures ≤ task.counted .validQueries :=
    accounted.failures_le
  have queries : task.counted .queries = if outcome = .undersized then 0 else 1 :=
    accounted.queries
  have validQueries : task.counted .validQueries = if outcome.isForwarded then 1 else 0 :=
    accounted.validQueries
  have answered : ∀ resolverOk short, outcome = .answered resolverOk short →
      task.counted .resolverFailures = if resolverOk then 0 else 1 :=
    accounted.answered
  have endedAs : ∀ property : Outcome → Bool, task.endedAs property = property outcome := by
    intro property
    simp [Task.endedAs, current, Stage.outcome?]
  refine ⟨?_, ?_, accounted.calls.symm, failedCalls, ?_⟩
  · rw [queries, endedAs]
    cases outcome <;> rfl
  · rw [validQueries, endedAs, endedAs]
    cases outcome <;> rfl
  · rw [isUnwrittenFailure, endedAs, endedAs, ← failedCalls]
    cases outcome with
    | answered resolverOk short =>
        rw [answered resolverOk short rfl]
        cases resolverOk <;> rfl
    | writeFailed =>
        -- This is the one outcome that does not tell whether the call failed.
        have few : task.counted .resolverFailures ≤ 1 := by
          simpa [validQueries, Outcome.isForwarded] using atMost
        rcases Nat.le_one_iff_eq_zero_or_eq_one.mp few with none | one
        · rw [none]
          rfl
        · rw [one]
          rfl
    | _ =>
        have none : task.counted .resolverFailures = 0 := by
          simpa [validQueries, Outcome.isForwarded] using atMost
        rw [none]
        rfl

end Task

theorem countP_eq_sum
    {α : Type}
    (property : α → Bool)
    (members : List α) :
    members.countP property = (members.map (fun member => (property member).toNat)).sum := by
  induction members with
  | nil => rfl
  | cons member members ih =>
      rw [List.countP_cons, ih, List.map_cons, List.sum_cons, Nat.add_comm]
      cases property member <;> rfl

namespace Running

/-- The tasks of all sessions with their places. -/
def placed
    (running : Running) :
    List ((Nat × Nat) × Task) :=
  running.sessions.zipIdx.flatMap (fun (session, place) =>
    session.tasks.zipIdx.map (fun (task, index) => ((place, index), task)))

theorem task?_of_mem_placed
    {running : Running}
    {place : Nat × Nat}
    {task : Task}
    (member : (place, task) ∈ running.placed) :
    running.task? place = some task := by
  rcases List.mem_flatMap.mp member with ⟨⟨session, first⟩, there, inside⟩
  rcases List.mem_map.mp inside with ⟨⟨found, second⟩, here, same⟩
  cases same
  have sessionFound := List.mem_zipIdx_iff_getElem?.mp there
  have taskFound := List.mem_zipIdx_iff_getElem?.mp here
  simp_all [task?]

theorem map_placed
    (running : Running) :
    running.placed.map Prod.snd = running.tasks := by
  have session : ∀ entry : Session × Nat,
      (entry.1.tasks.zipIdx.map (fun (task, index) => ((entry.2, index), task))).map Prod.snd =
        entry.1.tasks := by
    intro entry
    rw [List.map_map]
    exact List.zipIdx_map_fst 0 entry.1.tasks
  rw [placed, List.map_flatMap, tasks]
  calc
    running.sessions.zipIdx.flatMap (fun entry =>
          (entry.1.tasks.zipIdx.map (fun (task, index) => ((entry.2, index), task))).map Prod.snd)
        = running.sessions.zipIdx.flatMap (fun entry => entry.1.tasks) := by
          simp only [session]
    _ = (running.sessions.zipIdx.map Prod.fst).flatMap Session.tasks := by
          rw [List.flatMap_map]
    _ = running.sessions.flatMap Session.tasks := by
          rw [List.zipIdx_map_fst]

/-- The number of increments of all counters. -/
def increments
    (running : Running) :
    Nat :=
  running.events.countP (fun event => event.counter?.isSome)

/-- A counter holds what all tasks have counted, unless there were too many increments. -/
theorem Agrees.toNat_eq
    {running : Running}
    (agrees : running.Agrees)
    (few : running.increments < 2 ^ 64)
    (counter : Counter) :
    (running.counters.get counter).toNat = (running.tasks.map (Task.counted counter)).sum := by
  have part : running.events.count (.count counter) ≤ running.increments := by
    apply List.countP_mono_left
    intro event _ same
    rw [eq_of_beq same]
    rfl
  rw [agrees counter, UInt64.toNat_ofNat_of_lt' (Nat.lt_of_le_of_lt part few), events,
    List.count_flatMap]
  rfl

/-- The counters account for every query that has been counted. -/
structure IsConserved
    (running : Running) : Prop where
  queries : running.counters.queries.toNat = running.tasks.countP Task.hasPassed
  failures_le : running.counters.resolverFailures.toNat ≤ running.counters.validQueries.toNat
  validQueries_le : running.counters.validQueries.toNat ≤ running.counters.queries.toNat
  difference :
    running.counters.queries.toNat - running.counters.validQueries.toNat =
      running.tasks.countP Task.isRefused + running.tasks.countP Task.isUndecided

/-- The counters are numbers of outcomes and of calls. -/
structure IsSettled
    (forward : Nat → Nat → Forwarder)
    (running : Running) : Prop where
  queries :
    running.counters.queries.toNat = running.tasks.countP (Task.endedAs (· != .undersized))
  validQueries :
    running.counters.validQueries.toNat =
      running.tasks.countP (Task.endedAs Outcome.isAnswered) +
        running.tasks.countP (Task.endedAs (· == .writeFailed))
  calls : running.counters.validQueries.toNat = running.events.countP Event.isCall
  failedCalls :
    running.counters.resolverFailures.toNat =
      (running.placed.map (fun (place, task) =>
        task.failedCalls (forward place.1 place.2))).sum
  failures :
    running.counters.resolverFailures.toNat =
      running.tasks.countP (Task.endedAs Outcome.isAnsweredEmpty) +
        running.placed.countP (fun (place, task) =>
          task.isUnwrittenFailure (forward place.1 place.2))

variable
    {handler : Handler}
    {forward : Nat → Nat → Forwarder}
    {held : Nat → Nat → Message → Bool}
    {offers : List Offer}
    {schedule : List (Nat × Actor)}

theorem exists_isSound_of_mem_tasks
    {task : Task}
    (member : task ∈ ((start offers).run handler forward held schedule).tasks) :
    ∃ place : Nat × Nat,
      task.IsSound handler (forward place.1 place.2) (held place.1 place.2) := by
  rcases exists_place_of_mem_tasks member with ⟨place, found⟩
  exact ⟨place, isSound_of_task? handler forward held found⟩

/-- The counters account for all counted queries after every schedule. -/
theorem isConserved_run
    (few : ((start offers).run handler forward held schedule).increments < 2 ^ 64) :
    ((start offers).run handler forward held schedule).IsConserved := by
  let running := (start offers).run handler forward held schedule
  have agrees : running.Agrees := (Agrees.start offers).run schedule
  have queries := agrees.toNat_eq few .queries
  have validQueries := agrees.toNat_eq few .validQueries
  have failures := agrees.toNat_eq few .resolverFailures
  have ordered : ∀ task ∈ running.tasks,
      task.counted .resolverFailures ≤ task.counted .validQueries ∧
        task.counted .validQueries ≤ task.counted .queries := by
    intro task member
    rcases exists_isSound_of_mem_tasks member with ⟨place, sound⟩
    exact sound.ledger.ordered
  have split :
      (running.tasks.map (Task.counted .queries)).sum =
        (running.tasks.map (Task.counted .validQueries)).sum +
          (running.tasks.countP Task.isRefused + running.tasks.countP Task.isUndecided) := by
    rw [countP_eq_sum, countP_eq_sum, ← List.sum_map_add, ← List.sum_map_add]
    apply congrArg List.sum
    apply List.map_congr_left
    intro task member
    rcases exists_isSound_of_mem_tasks member with ⟨place, sound⟩
    exact sound.ledger.queries_eq
  constructor
  · rw [countP_eq_sum]
    refine queries.trans (congrArg List.sum (List.map_congr_left ?_))
    intro task member
    rcases exists_isSound_of_mem_tasks member with ⟨place, sound⟩
    exact sound.queries_eq
  · refine (failures.trans_le ?_).trans_eq validQueries.symm
    exact List.sum_le_sum (fun task member => (ordered task member).1)
  · refine (validQueries.trans_le ?_).trans_eq queries.symm
    exact List.sum_le_sum (fun task member => (ordered task member).2)
  · change (running.counters.get .queries).toNat - (running.counters.get .validQueries).toNat = _
    rw [queries, validQueries]
    exact Nat.sub_eq_of_eq_add' split

theorem sum_map_tasks
    (running : Running)
    (number : Task → Nat) :
    (running.tasks.map number).sum = (running.placed.map (fun entry => number entry.2)).sum := by
  rw [← map_placed, List.map_map]
  rfl

/-- The counters are numbers of outcomes and of calls once all tasks have ended. -/
theorem isSettled_run
    (few : ((start offers).run handler forward held schedule).increments < 2 ^ 64)
    (ended : ∀ task ∈ ((start offers).run handler forward held schedule).tasks,
      task.stage.outcome?.isSome = true) :
    ((start offers).run handler forward held schedule).IsSettled forward := by
  let running := (start offers).run handler forward held schedule
  have agrees : running.Agrees := (Agrees.start offers).run schedule
  have queries := agrees.toNat_eq few .queries
  have validQueries := agrees.toNat_eq few .validQueries
  have failures := agrees.toNat_eq few .resolverFailures
  have placed : ∀ entry ∈ running.placed,
      entry.2.Balance (forward entry.1.1 entry.1.2) := by
    rintro ⟨place, task⟩ member
    have found := task?_of_mem_placed member
    have inside : task ∈ running.tasks := by
      rw [← map_placed]
      exact List.mem_map_of_mem member
    exact (isSound_of_task? handler forward held found).faithful.balance (ended task inside)
  have balance : ∀ task ∈ running.tasks,
      ∃ place : Nat × Nat, task.Balance (forward place.1 place.2) := by
    intro task member
    rcases exists_place_of_mem_tasks member with ⟨place, found⟩
    exact ⟨place,
      (isSound_of_task? handler forward held found).faithful.balance (ended task member)⟩
  constructor
  · rw [countP_eq_sum]
    refine queries.trans (congrArg List.sum (List.map_congr_left ?_))
    intro task member
    rcases balance task member with ⟨place, balanced⟩
    exact balanced.queries
  · rw [countP_eq_sum, countP_eq_sum, ← List.sum_map_add]
    refine validQueries.trans (congrArg List.sum (List.map_congr_left ?_))
    intro task member
    rcases balance task member with ⟨place, balanced⟩
    exact balanced.validQueries
  · rw [events, List.countP_flatMap]
    refine validQueries.trans (congrArg List.sum (List.map_congr_left ?_))
    intro task member
    rcases balance task member with ⟨place, balanced⟩
    exact balanced.calls
  · rw [sum_map_tasks] at failures
    refine failures.trans (congrArg List.sum (List.map_congr_left ?_))
    intro entry member
    exact (placed entry member).failedCalls
  · rw [sum_map_tasks] at failures
    rw [countP_eq_sum, countP_eq_sum, sum_map_tasks, ← List.sum_map_add]
    refine failures.trans (congrArg List.sum (List.map_congr_left ?_))
    intro entry member
    exact (placed entry member).failures

end Running

/--
Conservation of the counters.  Sessions share one handler and one set of counters,
and fewer increments have happened than a counter can hold.  After every schedule
the counters account for all counted queries, and when all tasks have ended they
are numbers of outcomes and of calls.
-/
theorem counters_conserved
    (handler : Handler)
    (forward : Nat → Nat → Forwarder)
    (held : Nat → Nat → Message → Bool)
    (offers : List Offer)
    (schedule : List (Nat × Actor))
    (few : ((Running.start offers).run handler forward held schedule).increments < 2 ^ 64) :
    let running := (Running.start offers).run handler forward held schedule
    running.IsConserved ∧
      ((∀ task ∈ running.tasks, task.stage.outcome?.isSome = true) →
        running.IsSettled forward) :=
  ⟨Running.isConserved_run few, Running.isSettled_run few⟩

/-- One query is answered, one fails and cannot be answered, and one stream has no query. -/
theorem counters_conserved_of_three_streams :
    let query : Octets := List.replicate 17 0
    let offer : Offer := {
      streams := [⟨.ok query, .all⟩, ⟨.ok query, .fault (.streamWrite "reset")⟩, ⟨.ok [], .all⟩]
      failure := .sessionAccept "closed" }
    let forward : Nat → Nat → Forwarder := fun _ index _ message =>
      if index = 0 then .ok message else .error (.resolverTimeout "resolver:53")
    let running := (Running.start [offer]).run { resolver := .named "resolver".toList 53 } forward
      (fun _ _ _ => false) ((Session.fairTurns 3).map (0, ·))
    running.increments < 2 ^ 64 ∧ running.IsConserved ∧ running.IsSettled forward := by
  intro query offer forward running
  have few : running.increments < 2 ^ 64 := by
    decide
  have ended : ∀ task ∈ running.tasks, task.stage.outcome?.isSome = true := by
    decide
  have conserved := counters_conserved _ forward _ [offer] _ few
  exact ⟨few, conserved.1, conserved.2 ended⟩

end DnsOverQuic.Gateway
