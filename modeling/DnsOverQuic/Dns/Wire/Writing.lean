import DnsOverQuic.Dns.Message
import DnsOverQuic.Dns.Wire.Output

/-!
# Writing messages

A message is written front to back: the header, the questions, the three
sections of records, and the extension record last.  Questions that do not fit
make the message unencodable.  A section ends at the first record that does
not fit; then the header says so, and its counts tell how many records there
are.

The transaction identifier occurs only in the first two octets, so the body
is written without it.
-/

namespace DnsOverQuic.Dns.Wire

/-- Write a question. -/
def putQuestion
    (question : Question) :
    Writer Unit := do
  putName question.name
  putWord question.type.code
  putWord question.recordClass.code

/-- Write an option: its code, the length of its data and the data. -/
def putOption
    (option : EdnsOption) :
    Writer Unit := do
  putWord option.code
  putWord (UInt16.ofNat option.data.length)
  putEach option.data

/-- Write a parameter: its key, the length of its value and the value. -/
def putParameter
    (parameter : ServiceParameter) :
    Writer Unit := do
  putWord parameter.key
  putWord (UInt16.ofNat parameter.value.length)
  putEach parameter.value

/-- Write a service binding. -/
def putServiceBinding
    (binding : ServiceBinding) :
    Writer Unit := do
  putWord binding.priority
  putFullName binding.target
  binding.parameters.forM putParameter

/-- Write the data of a record. -/
def putData :
    RecordData → Writer Unit
  | .absent _ => pure ()
  | .a address => putEach address.octets
  | .aaaa address => address.groups.forM putWord
  | .ns server => putName server
  | .cname target => putName target
  | .ptr target => putName target
  | .aname target => putFullName target
  | .mx preference exchange => do
      putWord preference
      putName exchange
  | .soa primary mailbox serial refresh retry expire minimum => do
      putName primary
      putName mailbox
      putDoubleWord serial
      putDoubleWord refresh
      putDoubleWord retry
      putDoubleWord expire
      putDoubleWord minimum
  | .srv priority weight portNumber target => do
      putWord priority
      putWord weight
      putWord portNumber
      putFullName target
  | .txt strings => strings.forM (fun counted => putCounted counted.octets)
  | .hinfo processor system => do
      putCounted processor.octets
      putCounted system.octets
  | .opt options => options.forM putOption
  | .naptr order preference flags services pattern replacement => do
      putWord order
      putWord preference
      putCounted flags.string.octets
      putCounted services.octets
      putCounted pattern.octets
      putFullName replacement
  | .caa flags tag property => do
      putEach [flags]
      putCounted tag.octets
      putEach property
  | .cert kind keyTag algorithm certificate => do
      putWord kind
      putWord keyTag
      putEach (algorithm :: certificate)
  | .sshfp algorithm kind fingerprint => putEach (algorithm :: kind :: fingerprint)
  | .tlsa usage selector matching association =>
      putEach (usage :: selector :: matching :: association)
  | .csync serial flags bitMap => do
      putDoubleWord serial
      putWord flags
      putEach bitMap.octets
  | .svcb binding => putServiceBinding binding
  | .https binding => putServiceBinding binding
  | .uninterpreted _ octets => putEach octets

/-- Write a record. -/
def putRecord
    (record : Record) :
    Writer Unit := do
  putName record.owner
  putWord record.type.code
  putWord record.recordClass.code
  putDoubleWord record.lifetime
  let length := (← get).position
  putWord 0
  putData record.data
  modify (Output.closeLength length)

/-- How much of a section was written. -/
structure SectionCount where
  records : Nat
  cut : Bool
deriving DecidableEq, Inhabited

/--
Write records until one does not fit, which is abandoned; `count` records of
the section have been written before.
-/
def writeSection
    (count : Nat) :
    List Record → Output → SectionCount × Output
  | [], output => (⟨count, false⟩, output)
  | record :: rest, output =>
      let start := output.position
      let targets := output.targets
      match putRecord record output with
      | .ok _ output => writeSection (count + 1) rest output
      | .error _ output => (⟨count, true⟩, output.abandon start targets)

/-- The extension record of a message with the given response code. -/
def extensionRecord
    (response : ResponseCode)
    (edns : Edns) :
    Record where
  owner := Name.root
  recordClass := ⟨max edns.payload 512⟩
  lifetime :=
    response.high.toUInt32 <<< 24 ||| edns.version.toUInt32 <<< 16 ||| edns.flags.toUInt32
  data := .opt edns.options

/-- The numbers of items in the sections of a message. -/
structure Counts where
  questions : Nat
  answers : Nat
  authorities : Nat
  additionals : Nat
deriving DecidableEq, Inhabited

/-- The body of a message, and what its header has to tell of it. -/
structure Body where
  counts : Counts
  cut : Bool
  octets : Octets
deriving DecidableEq, Inhabited

/-- A flag as a bit of an octet. -/
def flagBit
    (bit : UInt8)
    (flag : Bool) :
    UInt8 :=
  if flag then bit else 0

/-- The octets of a header behind the transaction identifier. -/
def headerTail
    (header : Header)
    (counts : Counts)
    (truncated : Bool) :
    Octets :=
  (flagBit 0x80 header.isResponse ||| UInt8.ofNat header.opcode.val <<< 3 |||
      flagBit 0x04 header.authoritative ||| flagBit 0x02 truncated |||
      flagBit 0x01 header.recursionDesired) ::
    (flagBit 0x80 header.recursionAvailable ||| flagBit 0x20 header.authenticData |||
      flagBit 0x10 header.checkingDisabled ||| header.responseCode.low) ::
    (Octets.ofUInt16 (UInt16.ofNat counts.questions) ++
      Octets.ofUInt16 (UInt16.ofNat counts.answers) ++
      Octets.ofUInt16 (UInt16.ofNat counts.authorities) ++
      Octets.ofUInt16 (UInt16.ofNat counts.additionals))

end DnsOverQuic.Dns.Wire

namespace DnsOverQuic.Dns.Message

open Wire

/-- The body of the message, unless its questions do not fit. -/
def body?
    (message : Message) :
    Option Body :=
  match message.questions.forM putQuestion {} with
  | .error _ _ => none
  | .ok _ output =>
      let (answers, output) := writeSection 0 message.answers output
      let (authorities, output) := writeSection 0 message.authorities output
      let (additionals, output) := writeSection 0 message.additionals output
      let (extension, output) :=
        writeSection 0
          (message.edns.map (extensionRecord message.header.responseCode)).toList output
      some {
        counts := {
          questions := message.questions.length
          answers := answers.records
          authorities := authorities.records
          additionals := additionals.records + extension.records }
        cut := answers.cut || authorities.cut || additionals.cut || extension.cut
        octets := output.octets }

/-- The octets of the message behind its transaction identifier. -/
def tail?
    (message : Message) :
    Option Octets :=
  message.body?.map (fun body =>
    headerTail message.header body.counts (message.header.truncated || body.cut) ++ body.octets)

/-- Write the message, unless its questions do not fit. -/
def encode?
    (message : Message) :
    Option Octets :=
  message.tail?.map (Octets.ofUInt16 message.id ++ ·)

end DnsOverQuic.Dns.Message
