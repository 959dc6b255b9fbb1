import DnsOverQuic.Gateway.Task
import DnsOverQuic.Protocol

/-!
# Sessions

A session hands out streams until accepting fails.  Its loop starts a task for
every stream and never waits for a task; when accepting fails it closes the
connection with the code of an internal error and ends.  The tasks go on.

The loop and the tasks take their steps in any order.  A schedule is a list of
the actors whose turn it is; an actor that cannot step lets its turn pass.
-/

namespace DnsOverQuic.Gateway

open Dns

/-- What the loop calls on the connection, with the failure of a failed call. -/
inductive SessionCall where
  | accept (failure : Option Failure)
  | closeWithError (code : Protocol.CloseCode) (reason : String)
deriving DecidableEq, Inhabited

/-- What the loop of a session does next. -/
inductive LoopStage where
  | accepting
  | closing
  | returned
deriving DecidableEq, Inhabited

/-- What a connection hands out: streams, and then a failure to accept another one. -/
structure Offer where
  streams : List ClientStream
  failure : Failure
deriving Inhabited

/--
A session: the streams still to be handed out, the loop with its count of
dispatched streams, and the tasks.
-/
structure Session where
  offered : List ClientStream
  failure : Failure
  loop : LoopStage := .accepting
  dispatched : Nat := 0
  calls : List SessionCall := []
  tasks : List Task := []
deriving Inhabited

/-- Who takes a step: the loop of a session, or the task of a stream. -/
inductive Actor where
  | loop
  | task (index : Nat)
deriving DecidableEq, Inhabited

namespace Session

/-- The session in which nothing of an offer has been taken yet. -/
def start
    (offer : Offer) :
    Session where
  offered := offer.streams
  failure := offer.failure

/-- The number that the loop returns, once it has returned. -/
def result?
    (session : Session) :
    Option Nat :=
  if session.loop = .returned then some session.dispatched else none

/-- The next step of the loop. -/
def stepLoop?
    (session : Session) :
    Option Session :=
  match session.loop, session.offered with
  | .accepting, stream :: rest =>
      some { session with
        offered := rest
        dispatched := session.dispatched + 1
        calls := session.calls ++ [.accept none]
        tasks := session.tasks ++ [{ stream := stream }] }
  | .accepting, [] =>
      some { session with
        loop := .closing
        calls := session.calls ++ [.accept (some session.failure)] }
  | .closing, _ =>
      some { session with
        loop := .returned
        calls := session.calls ++ [.closeWithError .internalError ""] }
  | .returned, _ => none

/-- The next step of a task, with its event. -/
def stepTask?
    (handler : Handler)
    (forward : Forwarder)
    (held : Message → Bool)
    (index : Nat)
    (session : Session) :
    Option (Event × Session) := do
  let task ← session.tasks[index]?
  let (event, task) ← task.step? handler forward held
  return (event, { session with tasks := session.tasks.set index task })

/-- The actors of a session with a number of streams, each with enough turns. -/
def fairTurns
    (streams : Nat) :
    List Actor :=
  List.replicate (streams + 2) .loop ++
    (List.range streams).flatMap (fun index =>
      List.replicate Stage.opened.stepsLeft (.task index))

end Session

/-- A running gateway: sessions that share counters. -/
structure Running where
  sessions : List Session
  counters : Counters := .zero
deriving Inhabited

namespace Running

/-- The gateway in which nothing of some offers has been taken yet. -/
def start
    (offers : List Offer) :
    Running where
  sessions := offers.map Session.start

/-- The task of a stream, by the place of its session and its place there. -/
def task?
    (running : Running)
    (place : Nat × Nat) :
    Option Task := do
  (← running.sessions[place.1]?).tasks[place.2]?

/--
The next step of an actor of a session.  The replies of the resolver, and which
calls are held, may differ from stream to stream.
-/
def step?
    (handler : Handler)
    (forward : Nat → Nat → Forwarder)
    (held : Nat → Nat → Message → Bool)
    (turn : Nat × Actor)
    (running : Running) :
    Option Running := do
  let session ← running.sessions[turn.1]?
  match turn.2 with
  | .loop => do
      let session ← session.stepLoop?
      return { running with sessions := running.sessions.set turn.1 session }
  | .task index => do
      let (event, session) ←
        session.stepTask? handler (forward turn.1 index) (held turn.1 index) index
      return {
        sessions := running.sessions.set turn.1 session
        counters := running.counters.afterEvent event }

/-- Let an actor take its turn, which passes if the actor cannot step. -/
def turn
    (handler : Handler)
    (forward : Nat → Nat → Forwarder)
    (held : Nat → Nat → Message → Bool)
    (running : Running)
    (turn : Nat × Actor) :
    Running :=
  (running.step? handler forward held turn).getD running

/-- Let actors take their turns in the order of a schedule. -/
def run
    (handler : Handler)
    (forward : Nat → Nat → Forwarder)
    (held : Nat → Nat → Message → Bool)
    (schedule : List (Nat × Actor))
    (running : Running) :
    Running :=
  schedule.foldl (turn handler forward held) running

/--
Handle a session to the point where only tasks with held calls are left, and
then, after the calls have returned, to its end.
-/
def serve
    (handler : Handler)
    (forward : Forwarder)
    (held : Message → Bool)
    (streams : List ClientStream)
    (failure : Failure) :
    Running × Running :=
  let schedule := (Session.fairTurns streams.length).map (0, ·)
  let whileHeld :=
    run handler (fun _ _ => forward) (fun _ _ => held) schedule (start [⟨streams, failure⟩])
  (whileHeld,
    run handler (fun _ _ => forward) (fun _ _ _ => false) schedule whileHeld)

end Running

end DnsOverQuic.Gateway
