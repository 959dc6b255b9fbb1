import DnsOverQuic.Proofs.MessageHeader
import DnsOverQuic.Proofs.Relaying

/-!
# Failures of the resolver as clients see them

An exchange with the resolver fails in one of ten ways, one or two for each of the
operations that it does.  Each of them ends the handling of the stream in the same
transcript: the response is an empty message under the identifier of the query, and
the same is counted.  So a client cannot tell in which way the exchange failed, nor
which resolver was asked, and what it asked itself shows in the identifier only.
-/

namespace DnsOverQuic.Exchange

open Dns

namespace Outcomes

/-- The ways in which an exchange fails, by what its operations come to. -/
inductive Fails
    (outcomes : Outcomes)
    (codec : Codec)
    (timeout : Option UInt64)
    (resolver : ResolverAddress)
    (query : Message) : Prop where
  | unencodable
      (encoded : codec.encode query = none)
  | lookupFailed
      {host : List Char}
      {number : UInt16}
      {reason : String}
      (named : resolver = .named host number)
      (found : outcomes.lookup = .error reason)
  | lookupEmpty
      {host : List Char}
      {number : UInt16}
      (named : resolver = .named host number)
      (found : outcomes.lookup = .ok [])
  | unbound
      {reason : String}
      (bound : outcomes.bind = .error reason)
  | unconnected
      {reason : String}
      (connected : outcomes.connect = .error reason)
  | unsent
      {octets : Octets}
      {reason : String}
      (encoded : codec.encode query = some octets)
      (sent : outcomes.send octets = .error reason)
  | sentShort
      {octets : Octets}
      {count : Nat}
      (encoded : codec.encode query = some octets)
      (sent : outcomes.send octets = .ok count)
      (short : count ≠ octets.length)
  | unreceived
      {reason : String}
      (received : outcomes.receive = .fault reason)
  | timedOut
      {limit : UInt64}
      (limited : timeout = some limit)
      (received : outcomes.receive = .silence)
  | undecodable
      {datagram : Octets}
      (received : outcomes.receive = .datagram datagram)
      (undecoded : codec.decode (datagram.take Protocol.maxDatagramSize) = none)

variable
    {outcomes : Outcomes}
    {codec : Codec}
    {timeout : Option UInt64}
    {resolver : ResolverAddress}
    {query : Message}

/-- A name that cannot be looked up, or that stands for nothing, has no location. -/
theorem Locates.fails
    {operations : List Operation}
    {failure : Failure}
    (located : outcomes.Locates resolver operations (.error failure)) :
    outcomes.Fails codec timeout resolver query := by
  cases located with
  | unknown found => exact .lookupEmpty rfl found
  | failed found => exact .lookupFailed rfl found

/-- A failure either keeps the query from being delivered or spoils the reception. -/
theorem Fails.undelivered_or_unanswered
    (fails : outcomes.Fails codec timeout resolver query) :
    ¬outcomes.Delivers codec resolver query ∨
      ∃ failure, conclude codec timeout (serverText resolver) outcomes.receive =
        some (.error failure) := by
  cases fails with
  | unencodable encoded =>
      refine Or.inl ?_
      rintro ⟨-, -, -, octets, encoded', -⟩
      cases encoded.symm.trans encoded'
  | lookupFailed named found =>
      subst named
      refine Or.inl ?_
      rintro ⟨⟨_, _, located⟩, -, -, -⟩
      exact located.not_error (.failed found)
  | lookupEmpty named found =>
      subst named
      refine Or.inl ?_
      rintro ⟨⟨_, _, located⟩, -, -, -⟩
      exact located.not_error (.unknown found)
  | unbound bound =>
      refine Or.inl ?_
      rintro ⟨-, bound', -, -⟩
      cases bound.symm.trans bound'
  | unconnected connected =>
      refine Or.inl ?_
      rintro ⟨-, -, connected', -⟩
      cases connected.symm.trans connected'
  | unsent encoded sent =>
      refine Or.inl ?_
      rintro ⟨-, -, -, octets, encoded', sent'⟩
      cases encoded.symm.trans encoded'
      cases sent.symm.trans sent'
  | sentShort encoded sent short =>
      refine Or.inl ?_
      rintro ⟨-, -, -, octets, encoded', sent'⟩
      cases encoded.symm.trans encoded'
      cases sent.symm.trans sent'
      exact short rfl
  | unreceived received => exact Or.inr ⟨_, by rw [received]; rfl⟩
  | timedOut limited received => exact Or.inr ⟨_, by rw [received, limited]; rfl⟩
  | undecodable received undecoded =>
      exact Or.inr ⟨_, by simp only [received, conclude, interpret, undecoded]; rfl⟩

/-- An exchange comes to a failure exactly if it fails in one of the ways described. -/
theorem Course.exists_failure_iff_fails
    {operations : List Operation}
    {result : Option (Except Failure Message)}
    (course : outcomes.Course codec timeout resolver query operations result) :
    (∃ failure, result = some (.error failure)) ↔
      outcomes.Fails codec timeout resolver query := by
  constructor
  · rintro ⟨failure, failed⟩
    cases course with
    | unencodable encoded => exact .unencodable encoded
    | unlocated _ located => exact located.fails
    | unbound _ _ bound => exact .unbound bound
    | unconnected _ _ _ connected => exact .unconnected connected
    | unsent encoded _ _ _ sent => exact .unsent encoded sent
    | sentShort encoded _ _ _ sent short => exact .sentShort encoded sent short
    | awaited =>
        cases received : outcomes.receive with
        | fault reason => exact .unreceived received
        | silence =>
            cases limited : timeout with
            | none => simp [received, limited, conclude] at failed
            | some limit => exact .timedOut rfl received
        | datagram datagram =>
            cases decoded : codec.decode (datagram.take Protocol.maxDatagramSize) with
            | none => exact .undecodable received decoded
            | some response => simp [received, conclude, interpret, decoded] at failed
  · intro fails
    rcases course.delivers_or_failed with ⟨delivers, same⟩ | ⟨-, failed⟩
    · rcases fails.undelivered_or_unanswered with undelivered | ⟨failure, concluded⟩
      · exact absurd delivers undelivered
      · exact ⟨failure, same.trans concluded⟩
    · exact failed

end Outcomes

end DnsOverQuic.Exchange

namespace DnsOverQuic.Gateway

open Dns
open Exchange (Outcomes)

/-- The octets that an event offers to the stream. -/
def Event.offered? :
    Event → Option Octets
  | write octets => some octets
  | _ => none

/-- An empty message under an identifier, as it is written: a header of twelve octets. -/
def bareHeader
    (id : UInt16) :
    Octets :=
  Octets.ofUInt16 id ++ List.replicate 10 0

/-- What becomes of a stream whose query gets no reply. -/
def unansweredTranscript
    (resolver : ResolverAddress)
    (stream : ClientStream)
    (query : Message) :
    Transcript where
  events :=
    [.read Protocol.maxMessageSize, .count .queries,
      .forward resolver (Handler.forwarded query), .count .validQueries,
      .count .resolverFailures, .write (bareHeader query.id), .close]
  outcome := stream.outcomeOfWrite (bareHeader query.id) false

/-- Every failure of the forwarder ends a stream in the same transcript. -/
theorem Handler.handle_of_failure
    {resolver : ResolverAddress}
    {stream : ClientStream}
    {octets : Octets}
    {query : Message}
    (delivered : stream.message? = some octets)
    (examined : Handler.examine ⟨resolver, .wire⟩ octets = .ok query)
    (failure : Failure) :
    Handler.handle ⟨resolver, .wire⟩ (fun _ _ => .error failure) stream =
      unansweredTranscript resolver stream query := by
  have written : Codec.wire.encode (Message.empty.withId query.id) =
      some (bareHeader query.id) :=
    Message.encode?_empty_withId query.id
  rw [handle_of_examined delivered examined]
  simp only [conclude, answer, written]
  rfl

/-- A stream whose exchange fails, in whatever way, comes to the same transcript. -/
theorem Services.relay_of_fails
    {resolver : ResolverAddress}
    {timeout : Option UInt64}
    {outcomes : Outcomes}
    {stream : ClientStream}
    {octets : Octets}
    {query : Message}
    (delivered : stream.message? = some octets)
    (examined : Handler.examine ⟨resolver, .wire⟩ octets = .ok query)
    (fails : outcomes.Fails .wire timeout resolver (Handler.forwarded query)) :
    ((Services.relay { handler := { resolver := resolver }, timeout := timeout }
      outcomes.sockets.observed stream).run ([], ())).1 =
        some (unansweredTranscript resolver stream query) := by
  rcases outcomes.exists_course .wire timeout resolver (Handler.forwarded query) with
    ⟨operations, result, performed, course⟩
  rcases course.exists_failure_iff_fails.mpr fails with ⟨failure, rfl⟩
  rw [Services.relay_of_examined delivered examined performed]
  exact congrArg some (Handler.handle_of_failure delivered examined failure)

/--
Two clients whose queries have the same identifier cannot tell the failures of their
resolvers apart, in whichever ways the exchanges fail, whichever resolvers are asked
and whatever else the queries contain.  Both are offered an empty message under their
identifier and nothing else, and but for the message that is forwarded the events,
the outcome and the counts are the same.
-/
theorem resolver_failures_indistinguishable
    {resolver resolver' : ResolverAddress}
    {timeout timeout' : Option UInt64}
    {outcomes outcomes' : Outcomes}
    (acceptance acceptance' : Acceptance)
    {octets octets' : Octets}
    {query query' : Message}
    (sized : Protocol.minMessageSize ≤ octets.length ∧ octets.length ≤ Protocol.maxMessageSize)
    (sized' : Protocol.minMessageSize ≤ octets'.length ∧ octets'.length ≤ Protocol.maxMessageSize)
    (decoded : Codec.wire.decode octets = some query)
    (decoded' : Codec.wire.decode octets' = some query')
    (free : query.hasOption Protocol.keepaliveOptionCode = false)
    (free' : query'.hasOption Protocol.keepaliveOptionCode = false)
    (same : query.id = query'.id)
    (fails : outcomes.Fails .wire timeout resolver (query.withId 0))
    (fails' : outcomes'.Fails .wire timeout' resolver' (query'.withId 0)) :
    let services : Services := { handler := { resolver := resolver }, timeout := timeout }
    let services' : Services := { handler := { resolver := resolver' }, timeout := timeout' }
    ∃ transcript transcript',
      ((services.relay outcomes.sockets.observed ⟨.ok octets, acceptance⟩).run ([], ())).1 =
        some transcript ∧
      ((services'.relay outcomes'.sockets.observed ⟨.ok octets', acceptance'⟩).run
        ([], ())).1 = some transcript' ∧
      transcript.events.filterMap Event.offered? =
        [Octets.ofUInt16 query.id ++ List.replicate 10 0] ∧
      transcript'.events.filterMap Event.offered? =
        [Octets.ofUInt16 query.id ++ List.replicate 10 0] ∧
      transcript.events.filter (fun event => !event.isCall) =
        transcript'.events.filter (fun event => !event.isCall) ∧
      transcript.events.count .close = 1 ∧
      (∀ counters : Counters,
        counters.afterEvents transcript.events = counters.afterEvents transcript'.events) ∧
      (acceptance = acceptance' → transcript.outcome = transcript'.outcome) := by
  intro services services'
  have delivered : ClientStream.message? ⟨.ok octets, acceptance⟩ = some octets :=
    ClientStream.message?_eq_some_iff.mpr ⟨rfl, sized⟩
  have delivered' : ClientStream.message? ⟨.ok octets', acceptance'⟩ = some octets' :=
    ClientStream.message?_eq_some_iff.mpr ⟨rfl, sized'⟩
  have examined : services.handler.examine octets = .ok query :=
    Handler.examine_eq_ok_iff.mpr ⟨decoded, free⟩
  have examined' : services'.handler.examine octets' = .ok query' :=
    Handler.examine_eq_ok_iff.mpr ⟨decoded', free'⟩
  refine ⟨_, _, Services.relay_of_fails delivered examined fails,
    Services.relay_of_fails delivered' examined' fails', rfl, ?_, ?_, rfl, ?_, ?_⟩
  · rw [same]
    rfl
  · simp [unansweredTranscript, Event.isCall, Event.call?, same]
  · intro counters
    rfl
  · rintro rfl
    simp only [unansweredTranscript, same]
    rfl

/-- A resolver that cannot be reached, and one that is found by its name but stays silent. -/
theorem resolver_failures_indistinguishable_of_refusal_and_silence :
    let services : Services := { handler := { resolver := .literal default }, timeout := none }
    let services' : Services := { handler := { resolver := .named ['a'] 53 }, timeout := some 5 }
    let unreachable : Outcomes := {
      lookup := .error "no names are known"
      bind := .ok ()
      connect := .error "Network is unreachable (os error 101)"
      send := fun octets => .ok octets.length
      receive := .silence }
    let silent : Outcomes := { unreachable with lookup := .ok [default], connect := .ok () }
    ∃ transcript transcript',
      ((services.relay unreachable.sockets.observed
        ⟨.ok (0x12 :: 0x34 :: List.replicate 15 0), .count 7⟩).run ([], ())).1 =
          some transcript ∧
      ((services'.relay silent.sockets.observed
        ⟨.ok (0x12 :: 0x34 :: 1 :: List.replicate 20 0), .count 7⟩).run ([], ())).1 =
          some transcript' ∧
      transcript.events.filterMap Event.offered? = [0x12 :: 0x34 :: List.replicate 10 0] ∧
      transcript'.events.filterMap Event.offered? = [0x12 :: 0x34 :: List.replicate 10 0] ∧
      transcript.outcome = transcript'.outcome := by
  intro services services' unreachable silent
  have decoded : Codec.wire.decode (0x12 :: 0x34 :: List.replicate 15 0) =
      some (Message.empty.withId 0x1234) := by
    decide
  have decoded' : Codec.wire.decode (0x12 :: 0x34 :: 1 :: List.replicate 20 0) =
      some { header := { id := 0x1234, recursionDesired := true } } := by
    decide
  have fails : unreachable.Fails .wire none (.literal default)
      ((Message.empty.withId 0x1234).withId 0) :=
    .unconnected rfl
  have fails' : silent.Fails .wire (some 5) (.named ['a'] 53)
      (Message.withId { header := { id := 0x1234, recursionDesired := true } } 0) :=
    .timedOut rfl rfl
  rcases resolver_failures_indistinguishable (.count 7) (.count 7) (by decide) (by decide)
    decoded decoded' rfl rfl rfl fails fails' with
    ⟨transcript, transcript', relayed, relayed', offered, offered', -, -, -, outcome⟩
  exact ⟨transcript, transcript', relayed, relayed', offered, offered', outcome rfl⟩

end DnsOverQuic.Gateway
