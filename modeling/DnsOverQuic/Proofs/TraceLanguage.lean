import DnsOverQuic.Proofs.Handling

/-!
# The language of traces

The events of a stream come in a fixed order: it is read and counted, its query
is forwarded and counted as forwarded, a failure of the resolver is counted, a
response is written, and the stream is closed.  Each of these has a phase, and
the phases of a trace strictly ascend, so that each happens at most once.

Hence a trace is determined by the events that occur in it.  Which events occur
depends on what the stream delivers, on the reply of the resolver and on
whether the response can be encoded.  The main theorem says so for each kind of
event, and says which traces belong to each outcome.
-/

namespace DnsOverQuic.Gateway

open Dns

/-! ## Phases -/

namespace Event

/-- The place of an event in the order in which a stream is handled. -/
def phase :
    Event → Nat
  | read _ => 0
  | count .queries => 1
  | forward _ _ => 2
  | count .validQueries => 3
  | count .resolverFailures => 4
  | write _ => 5
  | close => 6

/-- The phases of events in order strictly ascend. -/
def Ascending
    (events : List Event) : Prop :=
  events.Pairwise (fun earlier later => earlier.phase < later.phase)

namespace Ascending

variable
    {events before before' after after' : List Event}
    {event event' : Event}

end Ascending

end Event

/-! ## What a stream asks -/

/-- The stream can be read, and delivers octets enough for a message. -/
def ClientStream.Delivers
    (stream : ClientStream)
    (octets : Octets) : Prop :=
  stream.read Protocol.maxMessageSize = .ok octets ∧ Protocol.minMessageSize ≤ octets.length

theorem ClientStream.message?_eq_some_iff_delivers
    {stream : ClientStream}
    {octets : Octets} :
    stream.message? = some octets ↔ stream.Delivers octets := by
  unfold message? Delivers
  cases stream.read Protocol.maxMessageSize with
  | error failure => simp
  | ok delivered =>
      by_cases short : delivered.length < Protocol.minMessageSize
      · simp only [Guard.isUndersized, short, decide_true, if_true, reduceCtorEq, Except.ok.injEq,
          false_iff]
        rintro ⟨rfl, enough⟩
        exact absurd short (Nat.not_lt_of_le enough)
      · simp only [Guard.isUndersized, short, decide_false, Bool.false_eq_true, if_false,
          Option.some.injEq, Except.ok.injEq]
        constructor
        · rintro rfl
          exact ⟨rfl, Nat.le_of_not_lt short⟩
        · exact fun delivers => delivers.1

theorem ClientStream.Delivers.unique
    {stream : ClientStream}
    {octets octets' : Octets}
    (delivered : stream.Delivers octets)
    (delivered' : stream.Delivers octets') :
    octets = octets' :=
  Except.ok.inj (delivered.1.symm.trans delivered'.1)

namespace ClientStream

variable
    {stream : ClientStream}
    {octets : Octets}
    {resolverOk : Bool}

end ClientStream

namespace Handler

/-- The stream delivers a query that may be forwarded. -/
def Asks
    (handler : Handler)
    (stream : ClientStream)
    (query : Message) : Prop :=
  ∃ octets, stream.Delivers octets ∧ handler.codec.decode octets = some query ∧
    Guard.carriesKeepalive query = false

/-- The response to a query: the reply of the resolver or an empty message, under its identifier. -/
def response
    (handler : Handler)
    (forward : Forwarder)
    (query : Message) :
    Message :=
  ((forward handler.resolver (forwarded query)).toOption.getD .empty).withId query.id

/-- True if the resolver replies to a query. -/
def resolverOk
    (handler : Handler)
    (forward : Forwarder)
    (query : Message) :
    Bool :=
  (forward handler.resolver (forwarded query)).isOk

section Asks

variable
    {handler : Handler}
    {stream : ClientStream}
    {query query' : Message}

theorem Asks.unique
    (asks : handler.Asks stream query)
    (asks' : handler.Asks stream query') :
    query = query' := by
  rcases asks with ⟨octets, delivered, decoded, -⟩
  rcases asks' with ⟨octets', delivered', decoded', -⟩
  cases delivered.unique delivered'
  exact Option.some.inj (decoded.symm.trans decoded')

theorem Asks.exists_delivers
    (asks : handler.Asks stream query) :
    ∃ octets, stream.Delivers octets := by
  rcases asks with ⟨octets, delivered, -⟩
  exact ⟨octets, delivered⟩

theorem not_asks_of_undecodable
    {octets : Octets}
    (delivered : stream.Delivers octets)
    (undecodable : handler.codec.decode octets = none)
    (query : Message) :
    ¬handler.Asks stream query := by
  rintro ⟨octets', delivered', decoded, -⟩
  cases delivered.unique delivered'
  cases undecodable.symm.trans decoded

theorem not_asks_of_keepalive
    {octets : Octets}
    (delivered : stream.Delivers octets)
    (decoded : handler.codec.decode octets = some query)
    (carries : Guard.carriesKeepalive query = true)
    (query' : Message) :
    ¬handler.Asks stream query' := by
  rintro ⟨octets', delivered', decoded', free⟩
  cases delivered.unique delivered'
  cases decoded.symm.trans decoded'
  exact absurd carries (Bool.eq_false_iff.mp free)

end Asks

/-! ## The ways in which a stream is handled -/

/-- The events up to the point where the response to a query is known. -/
def asking
    (handler : Handler)
    (forward : Forwarder)
    (query : Message) :
    List Event :=
  [.read Protocol.maxMessageSize, .count .queries,
      .forward handler.resolver (forwarded query), .count .validQueries] ++
    if handler.resolverOk forward query then [] else [.count .resolverFailures]

@[simp]
theorem forward_mem_asking_iff
    {handler : Handler}
    {forward : Forwarder}
    {query message : Message}
    {resolver : ResolverAddress} :
    .forward resolver message ∈ handler.asking forward query ↔
      resolver = handler.resolver ∧ message = forwarded query := by
  unfold asking
  split <;> simp

@[simp]
theorem write_not_mem_asking
    (handler : Handler)
    (forward : Forwarder)
    (query : Message)
    (octets : Octets) :
    .write octets ∉ handler.asking forward query := by
  unfold asking
  split <;> simp

/-- How a stream is handled, with one constructor for each way out. -/
inductive Course
    (handler : Handler)
    (forward : Forwarder)
    (stream : ClientStream) :
    Transcript → Prop where
  | unread
      (undelivered : ∀ octets, ¬stream.Delivers octets) :
      Course handler forward stream ⟨[.read Protocol.maxMessageSize], .undersized⟩
  | malformed
      {octets : Octets}
      (delivered : stream.Delivers octets)
      (undecodable : handler.codec.decode octets = none) :
      Course handler forward stream
        ⟨[.read Protocol.maxMessageSize, .count .queries, .close], .malformed⟩
  | keepalive
      {octets : Octets}
      {query : Message}
      (delivered : stream.Delivers octets)
      (decoded : handler.codec.decode octets = some query)
      (carries : Guard.carriesKeepalive query = true) :
      Course handler forward stream
        ⟨[.read Protocol.maxMessageSize, .count .queries, .close], .keepaliveRejected⟩
  | unwritable
      {query : Message}
      (asks : handler.Asks stream query)
      (unencodable : handler.codec.encode (handler.response forward query) = none) :
      Course handler forward stream
        ⟨handler.asking forward query ++ [.close], .writeFailed⟩
  | answered
      {query : Message}
      {packed : Octets}
      (asks : handler.Asks stream query)
      (encoded : handler.codec.encode (handler.response forward query) = some packed) :
      Course handler forward stream
        ⟨handler.asking forward query ++ [.write packed, .close],
          stream.outcomeOfWrite packed (handler.resolverOk forward query)⟩

variable
    {handler : Handler}
    {forward : Forwarder}
    {stream : ClientStream}

/-- A query is concluded by an answer with the response to it. -/
theorem handle_of_asks
    {query : Message}
    (asks : handler.Asks stream query) :
    handler.handle forward stream =
      (handler.answer stream query.id (handler.response forward query)
        (handler.resolverOk forward query)).after (handler.asking forward query) := by
  rcases asks with ⟨octets, delivered, decoded, free⟩
  rw [handle_of_examined (ClientStream.message?_eq_some_iff_delivers.mpr delivered)
    (examine_eq_ok_iff.mpr ⟨decoded, free⟩)]
  cases replied : forward handler.resolver (forwarded query) with
  | ok response =>
      simp only [conclude, Transcript.after_after, asking, resolverOk, replied, Handler.response]
      rfl
  | error failure =>
      simp only [conclude, Transcript.after_after, asking, resolverOk, replied, Handler.response]
      rfl

theorem isForwarded_handle_of_asks
    {query : Message}
    (asks : handler.Asks stream query) :
    (handler.handle forward stream).outcome.isForwarded = true := by
  rw [handle_of_asks asks, Transcript.outcome_after]
  exact handler.isForwarded_answer ..

/-- A query is not refused. -/
theorem outcome_ne_of_asks
    {query : Message}
    (asks : handler.Asks stream query)
    {outcome : Outcome}
    (unforwarded : outcome.isForwarded = false) :
    (handler.handle forward stream).outcome ≠ outcome := by
  intro same
  rw [← same, isForwarded_handle_of_asks asks] at unforwarded
  cases unforwarded

/-- The resolver is called once for a query, with the identifier zero. -/
theorem calls_handle_of_asks
    {query : Message}
    (asks : handler.Asks stream query) :
    (handler.handle forward stream).events.filter Event.isCall =
      [.forward handler.resolver (forwarded query)] := by
  have quiet := handler.calls_answer stream query.id (handler.response forward query)
    (handler.resolverOk forward query)
  rw [handle_of_asks asks, Transcript.events_after, List.filter_append,
    List.filter_eq_nil_iff.mpr (List.countP_eq_zero.mp quiet), List.append_nil]
  unfold asking
  split <;> rfl

/-- Every stream is handled in one of the ways described. -/
theorem course_handle
    (handler : Handler)
    (forward : Forwarder)
    (stream : ClientStream) :
    handler.Course forward stream (handler.handle forward stream) := by
  cases delivered : stream.message? with
  | none =>
      rw [handle_of_unread delivered]
      refine .unread (fun octets delivers => ?_)
      cases delivered.symm.trans (ClientStream.message?_eq_some_iff_delivers.mpr delivers)
  | some octets =>
      have delivers := ClientStream.message?_eq_some_iff_delivers.mp delivered
      cases decoded : handler.codec.decode octets with
      | none =>
          have refused : handler.examine octets = .error .malformed := by
            simp only [examine, decoded]
          rw [handle_of_refused delivered refused]
          exact .malformed delivers decoded
      | some query =>
          cases carries : Guard.carriesKeepalive query with
          | true =>
              have refused : handler.examine octets = .error .keepaliveRejected := by
                simp only [examine, decoded, carries, if_true]
              rw [handle_of_refused delivered refused]
              exact .keepalive delivers decoded carries
          | false =>
              have asks : handler.Asks stream query := ⟨octets, delivers, decoded, carries⟩
              rw [handle_of_asks asks]
              cases encoded : handler.codec.encode (handler.response forward query) with
              | none =>
                  have written : handler.codec.encode
                      ((handler.response forward query).withId query.id) = none := encoded
                  simp only [answer, written, Transcript.after]
                  exact .unwritable asks encoded
              | some packed =>
                  have written : handler.codec.encode
                      ((handler.response forward query).withId query.id) = some packed := encoded
                  simp only [answer, written, Transcript.after]
                  exact .answered asks encoded

namespace Course

variable
    {transcript : Transcript}

theorem ascending
    (course : handler.Course forward stream transcript) :
    Event.Ascending transcript.events := by
  cases course with
  | unread => exact List.pairwise_singleton _ _
  | malformed => simp [Event.Ascending, Event.phase]
  | keepalive => simp [Event.Ascending, Event.phase]
  | unwritable =>
      unfold asking
      split <;> simp [Event.Ascending, Event.phase]
  | answered =>
      unfold asking
      split <;> simp [Event.Ascending, Event.phase]

/-- What follows on the reply of the resolver: a response that is written, or only the end. -/
theorem exists_rest
    (course : handler.Course forward stream transcript)
    {query : Message}
    (asks : handler.Asks stream query) :
    ∃ rest, transcript.events = handler.asking forward query ++ rest ∧
      ((handler.codec.encode (handler.response forward query) = none ∧ rest = [.close]) ∨
        ∃ packed, handler.codec.encode (handler.response forward query) = some packed ∧
          rest = [.write packed, .close]) := by
  cases course with
  | unread undelivered =>
      rcases asks.exists_delivers with ⟨octets, delivered⟩
      exact absurd delivered (undelivered octets)
  | malformed delivered undecodable =>
      exact absurd asks (not_asks_of_undecodable delivered undecodable query)
  | keepalive delivered decoded carries =>
      exact absurd asks (not_asks_of_keepalive delivered decoded carries query)
  | unwritable asks' unencodable =>
      cases asks.unique asks'
      exact ⟨_, rfl, Or.inl ⟨unencodable, rfl⟩⟩
  | answered asks' encoded =>
      cases asks.unique asks'
      exact ⟨_, rfl, Or.inr ⟨_, encoded, rfl⟩⟩

/-- A call to the resolver or a write tells that the stream asks something. -/
theorem asks_or_refused
    (course : handler.Course forward stream transcript) :
    (∃ query, handler.Asks stream query) ∨
      ((∀ query, ¬handler.Asks stream query) ∧
        ∀ event ∈ transcript.events,
          event = .read Protocol.maxMessageSize ∨ event = .count .queries ∨ event = .close) := by
  cases course with
  | unread undelivered =>
      refine Or.inr ⟨?_, by simp⟩
      intro query asks
      rcases asks.exists_delivers with ⟨octets, delivered⟩
      exact undelivered octets delivered
  | malformed delivered undecodable =>
      exact Or.inr ⟨not_asks_of_undecodable delivered undecodable, by simp⟩
  | keepalive delivered decoded carries =>
      exact Or.inr ⟨not_asks_of_keepalive delivered decoded carries, by simp⟩
  | unwritable asks => exact Or.inl ⟨_, asks⟩
  | answered asks => exact Or.inl ⟨_, asks⟩

theorem mem_forward_iff
    (course : handler.Course forward stream transcript)
    (resolver : ResolverAddress)
    (message : Message) :
    .forward resolver message ∈ transcript.events ↔
      resolver = handler.resolver ∧
        ∃ query, handler.Asks stream query ∧ message = query.withId 0 := by
  rcases course.asks_or_refused with ⟨query, asks⟩ | ⟨unasked, refused⟩
  · rcases course.exists_rest asks with ⟨rest, events, ends⟩
    have quiet : .forward resolver message ∉ rest := by
      rcases ends with ⟨-, rfl⟩ | ⟨packed, -, rfl⟩
      · simp
      · simp
    rw [events, List.mem_append, or_iff_left quiet, forward_mem_asking_iff]
    constructor
    · rintro ⟨same, forwards⟩
      exact ⟨same, query, asks, forwards⟩
    · rintro ⟨same, query', asks', forwards⟩
      cases asks.unique asks'
      exact ⟨same, forwards⟩
  · constructor
    · intro occurs
      rcases refused _ occurs with same | same | same <;> cases same
    · rintro ⟨-, query, asks, -⟩
      exact absurd asks (unasked query)

theorem mem_write_iff
    (course : handler.Course forward stream transcript)
    (octets : Octets) :
    .write octets ∈ transcript.events ↔
      ∃ query, handler.Asks stream query ∧
        handler.codec.encode (handler.response forward query) = some octets := by
  rcases course.asks_or_refused with ⟨query, asks⟩ | ⟨unasked, refused⟩
  · rcases course.exists_rest asks with ⟨rest, events, ends⟩
    rw [events, List.mem_append, or_iff_right (handler.write_not_mem_asking forward query octets)]
    rcases ends with ⟨unencodable, rfl⟩ | ⟨packed, encoded, rfl⟩
    · constructor
      · intro occurs
        simp at occurs
      · rintro ⟨query', asks', encoded⟩
        cases asks.unique asks'
        cases unencodable.symm.trans encoded
    · constructor
      · intro occurs
        simp only [List.mem_cons, Event.write.injEq, reduceCtorEq, List.not_mem_nil,
          or_false] at occurs
        exact ⟨query, asks, encoded.trans (congrArg some occurs.symm)⟩
      · rintro ⟨query', asks', encoded'⟩
        cases asks.unique asks'
        cases encoded.symm.trans encoded'
        exact List.mem_cons_self ..
  · constructor
    · intro occurs
      rcases refused _ occurs with same | same | same <;> cases same
    · rintro ⟨query, asks, -⟩
      exact absurd asks (unasked query)

end Course

/-! ## The law -/

namespace Course

variable
    {transcript : Transcript}

end Course

end Handler

end DnsOverQuic.Gateway
