import DnsOverQuic.Dns.Codec
import DnsOverQuic.Gateway.Counters
import DnsOverQuic.Gateway.Guard
import DnsOverQuic.Gateway.Stream
import DnsOverQuic.Resolver

/-!
# Handling a stream

A stream carries one query and one response.  The query is forwarded under the
identifier zero, and the response goes back under the identifier of the query.
If the resolver fails the client gets an empty message instead.

A stream that does not deliver a message of admissible size is left alone.
Every other stream is closed exactly once, as the last event.
-/

namespace DnsOverQuic.Gateway

open Dns

/-- Something that happens while a stream is handled. -/
inductive Event where
  | read (limit : Nat)
  | count (counter : Counter)
  | forward (resolver : ResolverAddress) (message : Message)
  | write (octets : Octets)
  | close
deriving DecidableEq

instance : Inhabited Event := ⟨.close⟩

/-- A way to exchange a message with a resolver. -/
abbrev Forwarder :=
  ResolverAddress → Message → Except Failure Message

/-- What the handling of streams depends on beside the forwarder. -/
structure Handler where
  resolver : ResolverAddress
  codec : Codec := .wire
deriving Inhabited

/-- The events of handling a stream, and how it ended. -/
structure Transcript where
  events : List Event
  outcome : Outcome
deriving DecidableEq, Inhabited

/-- The octets that a stream delivers, if they are of the size of a message. -/
def ClientStream.message?
    (stream : ClientStream) :
    Option Octets :=
  match stream.read Protocol.maxMessageSize with
  | .ok octets => if Guard.isUndersized octets then none else some octets
  | .error _ => none

/-- The outcome of writing a response to a stream. -/
def ClientStream.outcomeOfWrite
    (stream : ClientStream)
    (octets : Octets)
    (resolverOk : Bool) :
    Outcome :=
  match stream.write octets with
  | .ok taken => .answered resolverOk (taken ≠ octets.length)
  | .error _ => .writeFailed

namespace Transcript

/-- The transcript that begins with some events and goes on as another. -/
def after
    (events : List Event)
    (transcript : Transcript) :
    Transcript :=
  ⟨events ++ transcript.events, transcript.outcome⟩

@[simp]
theorem events_after
    (events : List Event)
    (transcript : Transcript) :
    (transcript.after events).events = events ++ transcript.events :=
  rfl

@[simp]
theorem outcome_after
    (events : List Event)
    (transcript : Transcript) :
    (transcript.after events).outcome = transcript.outcome :=
  rfl

@[simp]
theorem after_nil
    (transcript : Transcript) :
    transcript.after [] = transcript :=
  rfl

theorem after_after
    (transcript : Transcript)
    (first second : List Event) :
    (transcript.after second).after first = transcript.after (first ++ second) := by
  simp [after]

end Transcript

namespace Handler

/-- The message that is forwarded for a query. -/
def forwarded
    (query : Message) :
    Message :=
  query.withId 0

/-- The query in octets of admissible size, or the outcome of refusing them. -/
def examine
    (handler : Handler)
    (octets : Octets) :
    Except Outcome Message :=
  match handler.codec.decode octets with
  | none => .error .malformed
  | some query =>
      if Guard.carriesKeepalive query then .error .keepaliveRejected else .ok query

/--
Answer a stream under an identifier: write the response if it can be encoded,
and close the stream.
-/
def answer
    (handler : Handler)
    (stream : ClientStream)
    (id : UInt16)
    (response : Message)
    (resolverOk : Bool) :
    Transcript :=
  match handler.codec.encode (response.withId id) with
  | none => ⟨[.close], .writeFailed⟩
  | some octets => ⟨[.write octets, .close], stream.outcomeOfWrite octets resolverOk⟩

/-- Go on with a stream after its query has been forwarded, by what came of it. -/
def conclude
    (handler : Handler)
    (stream : ClientStream)
    (id : UInt16) :
    Except Failure Message → Transcript
  | .ok response =>
      (handler.answer stream id response true).after [.count .validQueries]
  | .error _ =>
      (handler.answer stream id .empty false).after
        [.count .validQueries, .count .resolverFailures]

/--
Handle a stream, where forwarding a query is an action of a monad.  The action
is done at most once.
-/
def handleWith
    {μ : Type → Type}
    [Monad μ]
    (handler : Handler)
    (forward : ResolverAddress → Message → μ (Except Failure Message))
    (stream : ClientStream) :
    μ Transcript :=
  match stream.message? with
  | none => pure ⟨[.read Protocol.maxMessageSize], .undersized⟩
  | some octets =>
      match handler.examine octets with
      | .error outcome =>
          pure ⟨[.read Protocol.maxMessageSize, .count .queries, .close], outcome⟩
      | .ok query => do
          let reply ← forward handler.resolver (forwarded query)
          return (handler.conclude stream query.id reply).after
            [.read Protocol.maxMessageSize, .count .queries,
              .forward handler.resolver (forwarded query)]

/-- Handle a stream, where the replies to forwarded queries are given. -/
def handle
    (handler : Handler)
    (forward : Forwarder)
    (stream : ClientStream) :
    Transcript :=
  Id.run (handler.handleWith (fun resolver query => pure (forward resolver query)) stream)

end Handler

namespace Event

/-- The counter that an event increments. -/
def counter? :
    Event → Option Counter
  | count counter => some counter
  | _ => none

/-- True for the events that the client's stream or the resolver takes part in. -/
def isExternal :
    Event → Bool
  | count _ => false
  | _ => true

end Event

namespace Counters

/-- The counts after an event. -/
def afterEvent
    (counters : Counters)
    (event : Event) :
    Counters :=
  match event.counter? with
  | some counter => counters.increment counter
  | none => counters

/-- The counts after events in order. -/
def afterEvents
    (counters : Counters)
    (events : List Event) :
    Counters :=
  events.foldl afterEvent counters

end Counters

end DnsOverQuic.Gateway
