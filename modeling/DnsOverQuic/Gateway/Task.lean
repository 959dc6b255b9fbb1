import DnsOverQuic.Gateway.Handler

/-!
# Stream tasks, step by step

Streams of a session are handled by tasks that run beside each other.  A task
moves from stage to stage, and each step is one event that others may observe.
A task that waits for the resolver takes no step while its call is held.
-/

namespace DnsOverQuic.Gateway

open Dns

/-- How far the handling of a stream has come. -/
inductive Stage where
  | opened
  | delivered (octets : Octets)
  | asking (query : Message)
  | waiting (query : Message)
  | failed (query : Message)
  | writing (octets : Octets) (resolverOk : Bool)
  | closing (outcome : Outcome)
  | finished (outcome : Outcome)
deriving DecidableEq

instance : Inhabited Stage := ⟨.opened⟩

namespace Stage

/-- The stage after octets of admissible size have been counted. -/
def considered
    (handler : Handler)
    (octets : Octets) :
    Stage :=
  match handler.examine octets with
  | .error outcome => closing outcome
  | .ok query => asking query

/-- The stage in which a response is given. -/
def answering
    (handler : Handler)
    (id : UInt16)
    (response : Message)
    (resolverOk : Bool) :
    Stage :=
  match handler.codec.encode (response.withId id) with
  | none => closing .writeFailed
  | some octets => writing octets resolverOk

/-- The stage after the stream has been read. -/
def afterRead
    (stream : ClientStream) :
    Stage :=
  match stream.message? with
  | none => finished .undersized
  | some octets => delivered octets

/-- The stage after the resolver's part has ended. -/
def afterReturn
    (handler : Handler)
    (forward : Forwarder)
    (query : Message) :
    Stage :=
  match forward handler.resolver (Handler.forwarded query) with
  | .ok response => answering handler query.id response true
  | .error _ => failed query

/-- The next step: its event and the stage that it leads to. -/
def step?
    (handler : Handler)
    (forward : Forwarder)
    (stream : ClientStream) :
    Stage → Option (Event × Stage)
  | opened => some (.read Protocol.maxMessageSize, afterRead stream)
  | delivered octets => some (.count .queries, considered handler octets)
  | asking query =>
      some (.forward handler.resolver (Handler.forwarded query), waiting query)
  | waiting query => some (.count .validQueries, afterReturn handler forward query)
  | failed query =>
      some (.count .resolverFailures, answering handler query.id .empty false)
  | writing octets resolverOk =>
      some (.write octets, closing (stream.outcomeOfWrite octets resolverOk))
  | closing outcome => some (.close, finished outcome)
  | finished _ => none

/-- The call that a stage waits for, by the message that was forwarded. -/
def pending? :
    Stage → Option Message
  | waiting query => some (Handler.forwarded query)
  | _ => none

/-- The outcome of a stage in which the handling has ended. -/
def outcome? :
    Stage → Option Outcome
  | finished outcome => some outcome
  | _ => none

/-- An upper bound on the steps that are left. -/
def stepsLeft :
    Stage → Nat
  | opened => 7
  | delivered _ => 6
  | asking _ => 5
  | waiting _ => 4
  | failed _ => 3
  | writing _ _ => 2
  | closing _ => 1
  | finished _ => 0

/-- Every step brings the end nearer. -/
theorem stepsLeft_lt
    {handler : Handler}
    {forward : Forwarder}
    {stream : ClientStream}
    {stage next : Stage}
    {event : Event}
    (stepped : stage.step? handler forward stream = some (event, next)) :
    next.stepsLeft < stage.stepsLeft := by
  cases stage <;> simp only [step?, Option.some.injEq, Prod.mk.injEq, reduceCtorEq] at stepped
  case opened =>
    rw [← stepped.2]
    simp only [afterRead]
    repeat' split
    all_goals simp [stepsLeft]
  case delivered =>
    rw [← stepped.2]
    simp only [considered]
    repeat' split
    all_goals simp [stepsLeft]
  case waiting =>
    rw [← stepped.2]
    simp only [afterReturn, answering]
    repeat' split
    all_goals simp [stepsLeft]
  case failed =>
    rw [← stepped.2]
    simp only [answering]
    repeat' split
    all_goals simp [stepsLeft]
  all_goals
    rw [← stepped.2]
    simp [stepsLeft]

end Stage

/-- A stream under handling: how far it has come, and the events so far. -/
structure Task where
  stream : ClientStream
  stage : Stage := .opened
  history : List Event := []
deriving Inhabited

namespace Task

/-- True if the task waits for a call that is held. -/
def isHeld
    (held : Message → Bool)
    (task : Task) :
    Bool :=
  task.stage.pending?.any held

/-- The next step of the task, unless it has ended or its call is held. -/
def step?
    (handler : Handler)
    (forward : Forwarder)
    (held : Message → Bool)
    (task : Task) :
    Option (Event × Task) :=
  if task.isHeld held then
    none
  else
    (task.stage.step? handler forward task.stream).map (fun (event, stage) =>
      (event, { task with stage := stage, history := task.history ++ [event] }))

end Task

end DnsOverQuic.Gateway
