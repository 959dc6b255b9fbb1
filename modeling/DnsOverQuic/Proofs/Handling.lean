import DnsOverQuic.Gateway.Handler
import Mathlib.Tactic.Common

/-!
# What the handling of a stream amounts to

A stream is handled in one of three ways.  It may be left alone, it may be
refused after it has been counted, or its query is forwarded and the reply
concludes it.  What is counted and which calls are made follow from the outcome
alone, except that a response that could not be written does not tell whether
the resolver failed.
-/

namespace DnsOverQuic.Gateway

open Dns

namespace Outcome

/-- True for the outcomes of streams whose query was refused. -/
def isRefused :
    Outcome → Bool
  | malformed => true
  | keepaliveRejected => true
  | _ => false

/-- True for the outcomes of streams whose query was forwarded. -/
def isForwarded :
    Outcome → Bool
  | answered _ _ => true
  | writeFailed => true
  | _ => false

/-- True for an empty response, which is written when the resolver failed. -/
def isAnsweredEmpty :
    Outcome → Bool
  | answered resolverOk _ => !resolverOk
  | _ => false

end Outcome

namespace Event

/-- The message of a call to the resolver. -/
def call? :
    Event → Option Message
  | forward _ message => some message
  | _ => none

/-- True for a call to the resolver. -/
def isCall
    (event : Event) :
    Bool :=
  event.call?.isSome

/-- True for a call to the resolver that fails. -/
def isFailedCall
    (forward : Forwarder) :
    Event → Bool
  | .forward resolver message => !(forward resolver message).isOk
  | _ => false

end Event

namespace ClientStream

/-- A stream delivers a message exactly if it can be read and the size is admissible. -/
theorem message?_eq_some_iff
    {stream : ClientStream}
    {octets : Octets} :
    stream.message? = some octets ↔
      stream.delivery = .ok octets ∧ Protocol.minMessageSize ≤ octets.length ∧
        octets.length ≤ Protocol.maxMessageSize := by
  unfold message? read
  cases stream.delivery with
  | error failure => simp
  | ok delivered =>
      by_cases short : delivered.length < Protocol.minMessageSize <;>
        by_cases long : delivered.length ≤ Protocol.maxMessageSize <;>
          simp only [Guard.isUndersized, short, long, decide_true, decide_false, if_true, if_false,
            reduceCtorEq, Bool.false_eq_true, false_iff, Option.some.injEq, Except.ok.injEq]
      · rintro ⟨rfl, enough, _⟩
        omega
      · rintro ⟨rfl, _, few⟩
        omega
      · constructor
        · rintro rfl
          exact ⟨rfl, by omega, long⟩
        · rintro ⟨same, _, _⟩
          exact same
      · rintro ⟨rfl, _, few⟩
        exact long few

theorem isForwarded_outcomeOfWrite
    (stream : ClientStream)
    (octets : Octets)
    (resolverOk : Bool) :
    (stream.outcomeOfWrite octets resolverOk).isForwarded = true := by
  unfold outcomeOfWrite
  split <;> rfl

/-- A response that was written tells whether the resolver answered. -/
theorem resolverOk_of_outcomeOfWrite
    {stream : ClientStream}
    {octets : Octets}
    {resolverOk told short : Bool}
    (written : stream.outcomeOfWrite octets resolverOk = .answered told short) :
    told = resolverOk := by
  unfold outcomeOfWrite at written
  split at written
  · cases written
    rfl
  · cases written

end ClientStream

/--
The counters that a transcript increments and the calls that it makes agree with
its outcome.
-/
structure Transcript.IsAccounted
    (forward : Forwarder)
    (transcript : Transcript) : Prop where
  queries :
    transcript.events.count (.count .queries) =
      if transcript.outcome = .undersized then 0 else 1
  validQueries :
    transcript.events.count (.count .validQueries) =
      if transcript.outcome.isForwarded then 1 else 0
  calls :
    transcript.events.countP Event.isCall = transcript.events.count (.count .validQueries)
  failedCalls :
    transcript.events.countP (Event.isFailedCall forward) =
      transcript.events.count (.count .resolverFailures)
  failures_le :
    transcript.events.count (.count .resolverFailures) ≤
      transcript.events.count (.count .validQueries)
  answered :
    ∀ resolverOk short, transcript.outcome = .answered resolverOk short →
      transcript.events.count (.count .resolverFailures) = if resolverOk then 0 else 1

namespace Handler

/-- Octets are examined with success exactly if they are a query without the keepalive option. -/
theorem examine_eq_ok_iff
    {handler : Handler}
    {octets : Octets}
    {query : Message} :
    handler.examine octets = .ok query ↔
      handler.codec.decode octets = some query ∧ Guard.carriesKeepalive query = false := by
  unfold examine
  cases handler.codec.decode octets with
  | none => simp
  | some decoded =>
      cases carries : Guard.carriesKeepalive decoded with
      | false =>
          simp only [carries, Bool.false_eq_true, if_false, Except.ok.injEq, Option.some.injEq]
          constructor
          · rintro rfl
            exact ⟨rfl, carries⟩
          · exact fun found => found.1
      | true =>
          simp only [carries, if_true, reduceCtorEq, Option.some.injEq, false_iff]
          rintro ⟨rfl, free⟩
          rw [carries] at free
          cases free

theorem isRefused_of_examine
    {handler : Handler}
    {octets : Octets}
    {outcome : Outcome}
    (refused : handler.examine octets = .error outcome) :
    outcome.isRefused = true := by
  unfold examine at refused
  split at refused
  · cases refused
    rfl
  · split at refused
    · cases refused
      rfl
    · cases refused

variable
    {handler : Handler}
    {forward : Forwarder}
    {stream : ClientStream}
    {octets : Octets}

theorem handle_of_unread
    (unread : stream.message? = none) :
    handler.handle forward stream = ⟨[.read Protocol.maxMessageSize], .undersized⟩ := by
  simp [handle, handleWith, unread]

theorem handle_of_refused
    {outcome : Outcome}
    (delivered : stream.message? = some octets)
    (refused : handler.examine octets = .error outcome) :
    handler.handle forward stream =
      ⟨[.read Protocol.maxMessageSize, .count .queries, .close], outcome⟩ := by
  simp [handle, handleWith, delivered, refused]

theorem handle_of_examined
    {query : Message}
    (delivered : stream.message? = some octets)
    (examined : handler.examine octets = .ok query) :
    handler.handle forward stream =
      (handler.conclude stream query.id (forward handler.resolver (forwarded query))).after
        [.read Protocol.maxMessageSize, .count .queries,
          .forward handler.resolver (forwarded query)] := by
  simp [handle, handleWith, delivered, examined]

/-- An answer either is written and closes the stream, or only closes it. -/
theorem answer_cases
    (handler : Handler)
    (stream : ClientStream)
    (id : UInt16)
    (response : Message)
    (resolverOk : Bool) :
    handler.answer stream id response resolverOk = ⟨[.close], .writeFailed⟩ ∨
      ∃ packed, handler.answer stream id response resolverOk =
        ⟨[.write packed, .close], stream.outcomeOfWrite packed resolverOk⟩ := by
  unfold answer
  split
  · exact Or.inl rfl
  · exact Or.inr ⟨_, rfl⟩

theorem isForwarded_answer
    (handler : Handler)
    (stream : ClientStream)
    (id : UInt16)
    (response : Message)
    (resolverOk : Bool) :
    (handler.answer stream id response resolverOk).outcome.isForwarded = true := by
  rcases handler.answer_cases stream id response resolverOk with closed | ⟨packed, written⟩
  · rw [closed]
    rfl
  · rw [written]
    exact stream.isForwarded_outcomeOfWrite packed resolverOk

/-- An answer counts nothing and calls nobody. -/
theorem quiet_answer
    {handler : Handler}
    {stream : ClientStream}
    {id : UInt16}
    {response : Message}
    {resolverOk : Bool}
    {event : Event}
    (answered : event ∈ (handler.answer stream id response resolverOk).events) :
    event.counter? = none ∧ event.call? = none := by
  rcases handler.answer_cases stream id response resolverOk with closed | ⟨packed, written⟩
  · rw [closed] at answered
    rcases List.mem_singleton.mp answered with rfl
    exact ⟨rfl, rfl⟩
  · rw [written] at answered
    simp only [List.mem_cons, List.not_mem_nil, or_false] at answered
    rcases answered with rfl | rfl <;> exact ⟨rfl, rfl⟩

@[simp]
theorem count_answer
    (handler : Handler)
    (stream : ClientStream)
    (id : UInt16)
    (response : Message)
    (resolverOk : Bool)
    (counter : Counter) :
    (handler.answer stream id response resolverOk).events.count (.count counter) = 0 := by
  apply List.count_eq_zero.mpr
  intro counted
  have quiet := (quiet_answer counted).1
  cases quiet

@[simp]
theorem calls_answer
    (handler : Handler)
    (stream : ClientStream)
    (id : UInt16)
    (response : Message)
    (resolverOk : Bool) :
    (handler.answer stream id response resolverOk).events.countP Event.isCall = 0 := by
  apply List.countP_eq_zero.mpr
  intro event answered
  simp [Event.isCall, (quiet_answer answered).2]

@[simp]
theorem failedCalls_answer
    (handler : Handler)
    (forward : Forwarder)
    (stream : ClientStream)
    (id : UInt16)
    (response : Message)
    (resolverOk : Bool) :
    (handler.answer stream id response resolverOk).events.countP
      (Event.isFailedCall forward) = 0 := by
  apply List.countP_eq_zero.mpr
  intro event answered
  have quiet := (quiet_answer answered).2
  cases event with
  | forward resolver message => cases quiet
  | _ => simp [Event.isFailedCall]

theorem resolverOk_of_answer
    {handler : Handler}
    {stream : ClientStream}
    {id : UInt16}
    {response : Message}
    {resolverOk told short : Bool}
    (answered :
      (handler.answer stream id response resolverOk).outcome = .answered told short) :
    told = resolverOk := by
  rcases handler.answer_cases stream id response resolverOk with closed | ⟨packed, written⟩
  · rw [closed] at answered
    cases answered
  · rw [written] at answered
    exact ClientStream.resolverOk_of_outcomeOfWrite answered

theorem isForwarded_conclude
    (handler : Handler)
    (stream : ClientStream)
    (id : UInt16)
    (reply : Except Failure Message) :
    (handler.conclude stream id reply).outcome.isForwarded = true := by
  cases reply with
  | ok response => exact handler.isForwarded_answer stream id response true
  | error failure => exact handler.isForwarded_answer stream id .empty false

section Conclusion

variable
    (handler : Handler)
    (forward : Forwarder)
    (stream : ClientStream)
    (id : UInt16)
    (reply : Except Failure Message)

@[simp]
theorem count_queries_conclude :
    (handler.conclude stream id reply).events.count (.count .queries) = 0 := by
  cases reply <;> simp [conclude]

@[simp]
theorem count_validQueries_conclude :
    (handler.conclude stream id reply).events.count (.count .validQueries) = 1 := by
  cases reply <;> simp [conclude]

@[simp]
theorem count_resolverFailures_conclude :
    (handler.conclude stream id reply).events.count (.count .resolverFailures) =
      if reply.isOk then 0 else 1 := by
  cases reply <;> simp [conclude, Except.isOk, Except.toBool]

@[simp]
theorem calls_conclude :
    (handler.conclude stream id reply).events.countP Event.isCall = 0 := by
  cases reply <;> simp [conclude, Event.isCall, Event.call?]

@[simp]
theorem failedCalls_conclude :
    (handler.conclude stream id reply).events.countP (Event.isFailedCall forward) = 0 := by
  cases reply <;> simp [conclude, Event.isFailedCall]

end Conclusion

theorem resolverOk_of_conclude
    {id : UInt16}
    {reply : Except Failure Message}
    {told short : Bool}
    (answered : (handler.conclude stream id reply).outcome = .answered told short) :
    told = reply.isOk := by
  cases reply with
  | ok response => exact resolverOk_of_answer answered
  | error failure => exact resolverOk_of_answer answered

/-- Every stream is handled in agreement with its outcome. -/
theorem isAccounted_handle
    (handler : Handler)
    (forward : Forwarder)
    (stream : ClientStream) :
    (handler.handle forward stream).IsAccounted forward := by
  cases delivered : stream.message? with
  | none =>
      rw [handle_of_unread delivered]
      constructor <;> simp [Outcome.isForwarded, Event.isCall, Event.call?, Event.isFailedCall]
  | some octets =>
      cases examined : handler.examine octets with
      | error outcome =>
          have refused := isRefused_of_examine examined
          have notUndersized : outcome ≠ .undersized := by
            rintro rfl
            cases refused
          have notForwarded : outcome.isForwarded = false := by
            cases outcome <;> first | rfl | cases refused
          have notAnswered : ∀ resolverOk short, outcome ≠ .answered resolverOk short := by
            rintro resolverOk short rfl
            cases refused
          rw [handle_of_refused delivered examined]
          constructor <;>
            simp [notUndersized, notForwarded, notAnswered, Event.isCall, Event.call?,
              Event.isFailedCall]
      | ok query =>
          let reply := forward handler.resolver (forwarded query)
          have forwards : (handler.conclude stream query.id reply).outcome.isForwarded = true :=
            handler.isForwarded_conclude stream query.id reply
          have notUndersized : (handler.conclude stream query.id reply).outcome ≠ .undersized := by
            intro undersized
            rw [undersized] at forwards
            cases forwards
          rw [handle_of_examined delivered examined]
          exact {
            queries := by simp [reply, notUndersized]
            validQueries := by simp [reply, forwards]
            calls := by simp [List.countP_cons, Event.isCall, Event.call?]
            failedCalls := by
              cases ok : reply.isOk <;> simp [reply, ok, Event.isFailedCall]
            failures_le := by
              cases ok : reply.isOk <;> simp [reply, ok]
            answered := by
              intro resolverOk short answered
              rw [resolverOk_of_conclude answered]
              simp }

end Handler

end DnsOverQuic.Gateway
