import DnsOverQuic.Proofs.MessageHeader
import DnsOverQuic.Proofs.TraceLanguage
import Mathlib.Data.List.Forall2

/-!
# The identifier of a query stays between the client and the gateway

Two clients send messages that are equal except for their identifiers.  Then the
gateway handles their streams alike: the events are the same in the same order,
the resolver is asked the same, and the two responses that are written differ in
their first two octets only, which are the identifiers of the clients.

The identifier of a reply has no influence at all.  Of the codec only this is
used: it writes the identifier first, and nothing else that it writes depends on
it.
-/

namespace DnsOverQuic

namespace Dns.Codec

/-- The codec writes the identifier first, and the rest does not depend on it. -/
def WritesIdFirst
    (codec : Codec) : Prop :=
  ∀ message : Message, ∃ tail? : Option Octets, ∀ id,
    codec.encode (message.withId id) = tail?.map (Octets.ofUInt16 id ++ ·)

theorem wire_writesIdFirst :
    wire.WritesIdFirst := by
  intro message
  exact ⟨message.tail?, fun id => rfl⟩

end Dns.Codec

namespace Gateway

open Dns

/-! ## Events of two runs -/

namespace Event

/-- Events of two runs that differ at most in the identifier that is written. -/
inductive Alike
    (first second : UInt16) :
    Event → Event → Prop where
  | same
      {event : Event}
      (silent : ∀ octets, event ≠ .write octets) :
      Alike first second event event
  | write
      (tail : Octets) :
      Alike first second
        (.write (Octets.ofUInt16 first ++ tail)) (.write (Octets.ofUInt16 second ++ tail))

namespace Alike

variable
    {first second : UInt16}
    {event event' : Event}

theorem phase_eq
    (alike : Alike first second event event') :
    event.phase = event'.phase := by
  cases alike with
  | same => rfl
  | write => rfl

theorem isCall_eq
    (alike : Alike first second event event') :
    event.isCall = event'.isCall := by
  cases alike with
  | same => rfl
  | write => rfl

theorem eq_of_isCall
    (alike : Alike first second event event')
    (calls : event.isCall = true) :
    event = event' := by
  cases alike with
  | same => rfl
  | write => cases calls

theorem afterEvent_eq
    (alike : Alike first second event event')
    (counters : Counters) :
    counters.afterEvent event = counters.afterEvent event' := by
  cases alike with
  | same => rfl
  | write => rfl

end Alike

end Event

/-- Transcripts of two runs that differ at most in the identifier that is written. -/
structure Transcript.Alike
    (first second : UInt16)
    (transcript transcript' : Transcript) : Prop where
  events : List.Forall₂ (Event.Alike first second) transcript.events transcript'.events
  outcome : transcript.outcome = transcript'.outcome

namespace Transcript.Alike

variable
    {first second : UInt16}
    {transcript transcript' : Transcript}

theorem phases_eq
    (alike : transcript.Alike first second transcript') :
    transcript.events.map Event.phase = transcript'.events.map Event.phase := by
  have same := alike.events
  generalize transcript.events = events, transcript'.events = events' at same
  induction same with
  | nil => rfl
  | cons event _ ih => rw [List.map_cons, List.map_cons, event.phase_eq, ih]

theorem calls_eq
    (alike : transcript.Alike first second transcript') :
    transcript.events.filter Event.isCall = transcript'.events.filter Event.isCall := by
  have same := alike.events
  generalize transcript.events = events, transcript'.events = events' at same
  induction same with
  | nil => rfl
  | @cons event event' _ _ same _ ih =>
      cases calls : event.isCall with
      | true =>
          have calls' : event'.isCall = true := same.isCall_eq ▸ calls
          rw [List.filter_cons_of_pos calls, List.filter_cons_of_pos calls', ih,
            same.eq_of_isCall calls]
      | false =>
          have calls' : event'.isCall = false := same.isCall_eq ▸ calls
          rw [List.filter_cons_of_neg (by simp [calls]), List.filter_cons_of_neg (by simp [calls']),
            ih]

/-- Transcripts that are alike count alike. -/
theorem afterEvents_eq
    (alike : transcript.Alike first second transcript')
    (counters : Counters) :
    counters.afterEvents transcript.events = counters.afterEvents transcript'.events := by
  have same := alike.events
  generalize transcript.events = events, transcript'.events = events' at same
  unfold Counters.afterEvents
  induction same generalizing counters with
  | nil => rfl
  | cons event _ ih => rw [List.foldl_cons, List.foldl_cons, event.afterEvent_eq, ih]

theorem after
    (alike : transcript.Alike first second transcript')
    {events : List Event}
    (silent : ∀ event ∈ events, ∀ octets, event ≠ .write octets) :
    (transcript.after events).Alike first second (transcript'.after events) where
  events := by
    apply List.rel_append
    · exact List.forall₂_same.mpr (fun event occurs => .same (silent event occurs))
    · exact alike.events
  outcome := alike.outcome

end Transcript.Alike

/-! ## Two runs -/

namespace ClientStream

/-- How a stream takes octets depends on their number only. -/
theorem outcomeOfWrite_eq_of_length
    {stream stream' : ClientStream}
    (same : stream.acceptance = stream'.acceptance)
    {octets octets' : Octets}
    (long : octets.length = octets'.length)
    (resolverOk : Bool) :
    stream.outcomeOfWrite octets resolverOk = stream'.outcomeOfWrite octets' resolverOk := by
  simp only [outcomeOfWrite, write, same, long]

end ClientStream

namespace Handler

variable
    {handler : Handler}
    {forward : Forwarder}
    {stream stream' : ClientStream}
    {query query' : Message}

/-- A response is written alike under two identifiers. -/
theorem alike_answer
    (writes : handler.codec.WritesIdFirst)
    (same : stream.acceptance = stream'.acceptance)
    (first second : UInt16)
    (response : Message)
    (resolverOk : Bool) :
    (handler.answer stream first response resolverOk).Alike first second
      (handler.answer stream' second response resolverOk) := by
  have closes : Event.Alike first second .close .close :=
    .same (fun octets => by simp)
  rcases writes response with ⟨tail?, written⟩
  cases tail? with
  | none =>
      simp only [answer, written, Option.map_none]
      exact ⟨.cons closes .nil, rfl⟩
  | some tail =>
      simp only [answer, written, Option.map_some]
      refine ⟨.cons (.write tail) (.cons closes .nil), ?_⟩
      exact ClientStream.outcomeOfWrite_eq_of_length same (by simp) resolverOk

theorem asking_silent
    (handler : Handler)
    (forward : Forwarder)
    (query : Message) :
    ∀ event ∈ handler.asking forward query, ∀ octets, event ≠ .write octets := by
  rintro event occurs octets rfl
  exact handler.write_not_mem_asking forward query octets occurs

theorem reply_eq_of_alike
    (handler : Handler)
    (forward : Forwarder)
    (alike : query.withId 0 = query'.withId 0) :
    forward handler.resolver (forwarded query) = forward handler.resolver (forwarded query') :=
  congrArg (forward handler.resolver) alike

/-- Both responses are the same message under different identifiers. -/
theorem response_eq_of_alike
    (handler : Handler)
    (forward : Forwarder)
    (alike : query.withId 0 = query'.withId 0) :
    handler.response forward query' = (handler.response forward query).withId query'.id := by
  unfold response
  rw [handler.reply_eq_of_alike forward alike]
  rfl

theorem asking_eq_of_alike
    (handler : Handler)
    (forward : Forwarder)
    (alike : query.withId 0 = query'.withId 0) :
    handler.asking forward query = handler.asking forward query' := by
  unfold asking resolverOk
  rw [handler.reply_eq_of_alike forward alike, forwarded, forwarded, alike]

/-- Streams that ask the same, up to the identifiers, are handled alike. -/
theorem alike_handle
    (writes : handler.codec.WritesIdFirst)
    (same : stream.acceptance = stream'.acceptance)
    (asks : handler.Asks stream query)
    (asks' : handler.Asks stream' query')
    (alike : query.withId 0 = query'.withId 0) :
    (handler.handle forward stream).Alike query.id query'.id
      (handler.handle forward stream') := by
  have resolverOk : handler.resolverOk forward query = handler.resolverOk forward query' :=
    congrArg Except.isOk (handler.reply_eq_of_alike forward alike)
  rw [handle_of_asks asks, handle_of_asks asks', ← handler.asking_eq_of_alike forward alike,
    handler.response_eq_of_alike forward alike, ← resolverOk]
  apply Transcript.Alike.after
  · exact alike_answer writes same query.id query'.id (handler.response forward query)
      (handler.resolverOk forward query)
  · exact handler.asking_silent forward query

/-- What is written for two clients begins with their identifiers, and goes on alike. -/
theorem exists_tail_of_written
    (writes : handler.codec.WritesIdFirst)
    (asks : handler.Asks stream query)
    (asks' : handler.Asks stream' query')
    (alike : query.withId 0 = query'.withId 0)
    {written written' : Octets}
    (offered : .write written ∈ (handler.handle forward stream).events)
    (offered' : .write written' ∈ (handler.handle forward stream').events) :
    ∃ tail, written = Octets.ofUInt16 query.id ++ tail ∧
      written' = Octets.ofUInt16 query'.id ++ tail := by
  rcases ((handler.course_handle forward stream).mem_write_iff written).mp offered with
    ⟨asked, asks₁, encoded⟩
  rcases ((handler.course_handle forward stream').mem_write_iff written').mp offered' with
    ⟨asked', asks₂, encoded'⟩
  cases asks.unique asks₁
  cases asks'.unique asks₂
  rw [handler.response_eq_of_alike forward alike] at encoded'
  rcases writes (handler.response forward query) with ⟨tail?, writes⟩
  have first : tail?.map (Octets.ofUInt16 query.id ++ ·) = some written :=
    (writes query.id).symm.trans encoded
  have second : tail?.map (Octets.ofUInt16 query'.id ++ ·) = some written' :=
    (writes query'.id).symm.trans encoded'
  rcases Option.map_eq_some_iff.mp first with ⟨tail, found, same⟩
  rw [found] at second
  exact ⟨tail, same.symm, (Option.some.inj second).symm⟩

/-- The identifier of the reply has no influence on how a stream is handled. -/
theorem handle_withId_reply
    (handler : Handler)
    (forward : Forwarder)
    (stream : ClientStream)
    (id : UInt16) :
    handler.handle (fun resolver message => (forward resolver message).map (·.withId id)) stream =
      handler.handle forward stream := by
  cases delivered : stream.message? with
  | none => rw [handle_of_unread delivered, handle_of_unread delivered]
  | some octets =>
      cases examined : handler.examine octets with
      | error outcome =>
          rw [handle_of_refused delivered examined, handle_of_refused delivered examined]
      | ok query =>
          rw [handle_of_examined delivered examined, handle_of_examined delivered examined]
          cases forward handler.resolver (forwarded query) with
          | ok response => rfl
          | error failure => rfl

end Handler

/--
The identifiers of two clients are all that tells their streams apart, when they
send messages that are otherwise equal.  The resolver is asked the same message
under the identifier zero, the events are of the same kinds and count the same,
the outcome is the same, and each response begins with the identifier of its own
client and goes on as the other.  Whatever identifier the replies of the resolver
carry, nothing of this changes.
-/
theorem transparent_to_identifiers
    {handler : Handler}
    (writes : handler.codec.WritesIdFirst)
    (forward : Forwarder)
    (acceptance : Acceptance)
    {octets octets' : Octets}
    {query query' : Message}
    (sized : Protocol.minMessageSize ≤ octets.length ∧ octets.length ≤ Protocol.maxMessageSize)
    (sized' : Protocol.minMessageSize ≤ octets'.length ∧ octets'.length ≤ Protocol.maxMessageSize)
    (decoded : handler.codec.decode octets = some query)
    (decoded' : handler.codec.decode octets' = some query')
    (alike : query.withId 0 = query'.withId 0)
    (free : query.hasOption Protocol.keepaliveOptionCode = false) :
    let transcript := handler.handle forward ⟨.ok octets, acceptance⟩
    let transcript' := handler.handle forward ⟨.ok octets', acceptance⟩
    transcript.events.filter Event.isCall = [.forward handler.resolver (query.withId 0)] ∧
    transcript'.events.filter Event.isCall = [.forward handler.resolver (query.withId 0)] ∧
    transcript.events.map Event.phase = transcript'.events.map Event.phase ∧
    (∀ counters : Counters,
      counters.afterEvents transcript.events = counters.afterEvents transcript'.events) ∧
    transcript.outcome = transcript'.outcome ∧
    (∀ written written', .write written ∈ transcript.events →
      .write written' ∈ transcript'.events →
      written.length = written'.length ∧ written.drop 2 = written'.drop 2 ∧
        written.take 2 = Octets.ofUInt16 query.id ∧
        written'.take 2 = Octets.ofUInt16 query'.id) ∧
    ∀ id,
      handler.handle (fun resolver message => (forward resolver message).map (·.withId id))
        ⟨.ok octets, acceptance⟩ = transcript := by
  intro transcript transcript'
  have delivered : ClientStream.Delivers ⟨.ok octets, acceptance⟩ octets :=
    ⟨if_pos sized.2, sized.1⟩
  have delivered' : ClientStream.Delivers ⟨.ok octets', acceptance⟩ octets' :=
    ⟨if_pos sized'.2, sized'.1⟩
  have asks : handler.Asks ⟨.ok octets, acceptance⟩ query := ⟨octets, delivered, decoded, free⟩
  have free' : Guard.carriesKeepalive query' = false := by
    rw [← Guard.carriesKeepalive_withId query' 0, ← alike, Guard.carriesKeepalive_withId]
    exact free
  have asks' : handler.Asks ⟨.ok octets', acceptance⟩ query' :=
    ⟨octets', delivered', decoded', free'⟩
  have runs : transcript.Alike query.id query'.id transcript' :=
    Handler.alike_handle writes rfl asks asks' alike
  have calls : transcript.events.filter Event.isCall =
      [.forward handler.resolver (query.withId 0)] :=
    Handler.calls_handle_of_asks asks
  refine ⟨calls, runs.calls_eq ▸ calls, runs.phases_eq, runs.afterEvents_eq, runs.outcome, ?_, ?_⟩
  · intro written written' offered offered'
    rcases Handler.exists_tail_of_written writes asks asks' alike offered offered' with
      ⟨tail, rfl, rfl⟩
    exact ⟨by simp, rfl, rfl, rfl⟩
  · exact fun id => handler.handle_withId_reply forward _ id

/-- Two clients under the identifiers 1234 and abcd, and a resolver that replies under 6363. -/
theorem transparent_to_identifiers_of_two_clients :
    let handler : Handler := { resolver := .literal default }
    let forward : Forwarder := fun _ message => .ok (message.withId 0x6363)
    let transcript := handler.handle forward ⟨.ok (0x12 :: 0x34 :: List.replicate 15 0), .count 3⟩
    let transcript' := handler.handle forward ⟨.ok (0xab :: 0xcd :: List.replicate 15 0), .count 3⟩
    transcript.events.filter Event.isCall = [.forward (.literal default) .empty] ∧
      transcript'.events.filter Event.isCall = [.forward (.literal default) .empty] ∧
      transcript.events.map Event.phase = transcript'.events.map Event.phase ∧
      transcript.outcome = transcript'.outcome := by
  intro handler forward transcript transcript'
  have decoded : handler.codec.decode (0x12 :: 0x34 :: List.replicate 15 0) =
      some (Message.empty.withId 0x1234) := by
    decide
  have decoded' : handler.codec.decode (0xab :: 0xcd :: List.replicate 15 0) =
      some (Message.empty.withId 0xabcd) := by
    decide
  have law := transparent_to_identifiers Codec.wire_writesIdFirst forward (.count 3)
    (by decide) (by decide) decoded decoded' rfl rfl
  exact ⟨law.1, law.2.1, law.2.2.1, law.2.2.2.2.1⟩

end Gateway

end DnsOverQuic
