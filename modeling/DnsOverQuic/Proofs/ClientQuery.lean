import DnsOverQuic.Client.Query
import DnsOverQuic.Proofs.TraceLanguage
import DnsOverQuic.Proofs.WireWriting

/-!
# The queries of the client

The client and the gateway agree on the wire format.  Every query of the client
can be written, in an octet string whose length only depends on the name, and is
read back as the query at the same name that ends at the root.  Its extension
data carry no option, so no check of the gateway refuses it, and it is forwarded
once.
-/

namespace DnsOverQuic.Client

open Dns
open Dns.Wire

/-- The extension data of a query. -/
def extension
    (security : Bool) :
    Edns where
  payload := Protocol.announcedDatagramSize
  version := 0
  flags := if security then securityFlag else 0
  options := []

/-- The octets of a query. -/
def queryOctets
    (id : UInt16)
    (name : Name)
    (type : RecordType)
    (recursion security : Bool) :
    Octets :=
  Message.extendedOctets id (flagBit 0x01 recursion) 0 ⟨name, type, .internet⟩
    (extensionRecord ⟨0⟩ (extension security)) []

/-- The record that carries the extension data of a query is read as these data. -/
theorem edns_extensionRecord
    (security : Bool) :
    ednsOfRecord (extensionAsRead (extensionRecord ⟨0⟩ (extension security)) (.absent .opt)) =
      extension security := by
  cases security <;> decide

variable
    (id : UInt16)
    (name : Name)
    (type : RecordType)
    (recursion security : Bool)

theorem headerTail_query :
    headerTail { id, recursionDesired := recursion } ⟨1, 0, 0, 1⟩ false =
      flagBit 0x01 recursion :: 0 :: (Octets.ofUInt16 1 ++ (Octets.ofUInt16 0 ++
        (Octets.ofUInt16 0 ++ Octets.ofUInt16 1))) := by
  change headerTail { recursionDesired := recursion } ⟨1, 0, 0, 1⟩ false = _
  cases recursion <;> decide

theorem header_query :
    completeHeader (headerOfFlags id (flagBit 0x01 recursion) 0)
        (some (extensionAsRead (extensionRecord ⟨0⟩ (extension security)) (.absent .opt))) =
      { id, recursionDesired := recursion } := by
  have anonymous : completeHeader (headerOfFlags 0 (flagBit 0x01 recursion) 0)
      (some (extensionAsRead (extensionRecord ⟨0⟩ (extension security)) (.absent .opt))) =
        { recursionDesired := recursion } := by
    cases recursion <;> cases security <;> decide
  exact congrArg (fun header : Header => { header with id }) anonymous

theorem length_queryOctets :
    (queryOctets id name type recursion security).length =
      12 + wireLength name.labels + 4 + 11 := by
  have owner : wireLength (extensionRecord ⟨0⟩ (extension security)).owner.labels = 1 := rfl
  simp only [queryOctets, Message.extendedOctets, Message.pairOctets, List.length_append,
    List.length_cons, List.length_nil, Octets.length_ofUInt16, length_questionOctets,
    length_recordOctets, owner]
  omega

/-- Every query is written. -/
theorem encode?_query :
    (query id name type recursion security).encode? =
      some (queryOctets id name type recursion security) := by
  have short := name.wireLength_le
  have written := Message.encode?_of_extension { id, recursionDesired := recursion }
    ⟨name, type, .internet⟩ (extension security) putsAnywhere_noOptions (by
      simp only [headerSize, Protocol.maxMessageSize, List.length_nil]
      omega)
  rw [headerTail_query] at written
  exact written

/-- Every query is read back, at the same name that ends at the root. -/
theorem decode_queryOctets :
    Message.decode (queryOctets id name type recursion security) =
      .ok (query id name.rooted type recursion security) := by
  have read := Message.decode_extendedOctets id (flagBit 0x01 recursion) 0 ⟨name, type, .internet⟩
    (extensionRecord ⟨0⟩ (extension security)) [] rfl rfl (by decide) rfl rfl
  rw [header_query, edns_extensionRecord] at read
  exact read

end DnsOverQuic.Client

namespace DnsOverQuic.Gateway

open Dns

/-- The message asks for the records of a type at a name, and for nothing else. -/
structure IsQueryFor
    (message : Message)
    (name : Name)
    (type : RecordType)
    (recursion security : Bool) : Prop where
  header : message.header = { id := 0, recursionDesired := recursion }
  question : ∃ question, message.questions = [question] ∧
    question.name.labels = name.labels ∧ question.type = type ∧
    question.recordClass = .internet
  answers : message.answers = []
  authorities : message.authorities = []
  additionals : message.additionals = []
  extension : message.edns = some {
    payload := 4096
    version := 0
    flags := if security then 0x8000 else 0
    options := [] }

section Query

variable
    (resolver : ResolverAddress)
    (acceptance : Acceptance)
    (id : UInt16)
    (name : Name)
    (type : RecordType)
    (recursion security : Bool)

/-- What is forwarded of a query of the client is the query under the identifier zero. -/
theorem isQueryFor_forwarded :
    IsQueryFor (Handler.forwarded (Client.query id name.rooted type recursion security))
      name type recursion security where
  header := rfl
  question := ⟨_, rfl, rfl, rfl, rfl⟩
  answers := rfl
  authorities := rfl
  additionals := rfl
  extension := rfl

/-- A stream that delivers a query of the client asks what the client asked. -/
theorem asks_queryOctets :
    Handler.Asks ⟨resolver, .wire⟩
      ⟨.ok (Client.queryOctets id name type recursion security), acceptance⟩
      (Client.query id name.rooted type recursion security) := by
  have short := name.wireLength_le
  have length := Client.length_queryOctets id name type recursion security
  have enough : Protocol.minMessageSize ≤
      (Client.queryOctets id name type recursion security).length := by
    simp only [length, Protocol.minMessageSize]
    omega
  have few : (Client.queryOctets id name type recursion security).length ≤
      Protocol.maxMessageSize := by
    simp only [length, Protocol.maxMessageSize]
    omega
  exact ⟨_, ⟨if_pos few, enough⟩,
    Codec.decode_wire_eq_some_iff.mpr (Client.decode_queryOctets id name type recursion security),
    rfl⟩

end Query

/--
Every query of the client is written in a length that only depends on its name,
and no gateway refuses it: it is forwarded once, and asks for what the client asked.
-/
theorem clientQuery_forwarded
    (resolver : ResolverAddress)
    (forward : Forwarder)
    (acceptance : Acceptance)
    (id : UInt16)
    (name : Name)
    (type : RecordType)
    (recursion security : Bool) :
    ∃ octets,
      Codec.wire.encode (Client.query id name type recursion security) = some octets ∧
      octets.length = 12 + wireLength name.labels + 4 + 11 ∧
      let transcript := Handler.handle ⟨resolver, .wire⟩ forward ⟨.ok octets, acceptance⟩
      transcript.outcome ≠ .undersized ∧
      transcript.outcome ≠ .malformed ∧
      transcript.outcome ≠ .keepaliveRejected ∧
      ∃ message, transcript.events.filter Event.isCall = [.forward resolver message] ∧
        IsQueryFor message name type recursion security := by
  have asks := asks_queryOctets resolver acceptance id name type recursion security
  exact ⟨_, Client.encode?_query id name type recursion security,
    Client.length_queryOctets id name type recursion security,
    Handler.outcome_ne_of_asks asks rfl, Handler.outcome_ne_of_asks asks rfl,
    Handler.outcome_ne_of_asks asks rfl, _, Handler.calls_handle_of_asks asks,
    isQueryFor_forwarded id name type recursion security⟩

end DnsOverQuic.Gateway
