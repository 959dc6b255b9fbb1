import DnsOverQuic.Dns.Message
import DnsOverQuic.Dns.Wire.Cursor
import DnsOverQuic.Dns.Wire.Fields

/-!
# Reading messages

A message is read front to back: the header, then as many questions and
records as the header counts.  Octets after the last counted record are
ignored, and a fault anywhere makes the whole message unreadable.

A name may end in a pointer.  The pointer must aim before the start of the
name part that it ends, and labels that are read through it must end before
that start.  Hence the starts of the parts strictly decrease and reading a name
terminates.
-/

namespace DnsOverQuic.Dns.Wire

/--
Read the labels of a name part that begins at `start`, after the labels in
`labels`.  Reading stays below `bound` if there is one.
-/
def readLabels
    (message : Octets)
    (start : Nat)
    (bound : Option Nat)
    (labels : List Label)
    (cursor : Cursor) :
    Except Malformation (List Label × Cursor) :=
  if bound.any (· ≤ cursor.position) then
    .error (.labelOverlap cursor.position (bound.getD 0))
  else
    match _equation : cursor.rest with
    | [] => .error .endOfMessage
    | octet :: rest =>
        if octet = 0 then
          .ok (labels, ⟨cursor.position + 1, rest⟩)
        else if octet < 64 then
          match split : Octets.splitExact? octet.toNat rest with
          | none => .error .endOfMessage
          | some (label, rest') =>
              readLabels message start bound (labels ++ [label])
                ⟨cursor.position + 1 + octet.toNat, rest'⟩
        else if octet < 192 then
          .error (.labelKind octet)
        else
          match rest with
          | [] => .error .endOfMessage
          | low :: rest' =>
              let target := (octet.toNat - 192) * 256 + low.toNat
              if target < start then do
                let (labels, _) ←
                  readLabels message target (some start) labels (Cursor.seek message target)
                return (labels, ⟨cursor.position + 2, rest'⟩)
              else
                .error (.pointerNotBackward target start)
  termination_by (start, cursor.rest.length)
  decreasing_by
    · have whole := Octets.append_of_splitExact? split
      right
      simp only [_equation, whole, List.length_cons, List.length_append]
      omega
    · left
      assumption

/-- Read a name. -/
def readName
    (message : Octets)
    (cursor : Cursor) :
    Except Malformation (Name × Cursor) := do
  let (labels, next) ← readLabels message cursor.position none [] cursor
  match Name.ofLabels? labels true with
  | some name => return (name, next)
  | none => .error .nameTooLong

/-- Read a counted octet string. -/
def readCharacterString
    (cursor : Cursor) :
    Except Malformation (CharacterString × Cursor) := do
  let (count, cursor) ← cursor.octet
  let (octets, cursor) ← cursor.take count.toNat
  match CharacterString.ofOctets? octets with
  | some counted => return (counted, cursor)
  | none => .error .endOfMessage

/--
Read counted octet strings that together take exactly `length` octets.
-/
def readCharacterStrings
    (length : Nat)
    (cursor : Cursor) :
    Except Malformation (List CharacterString × Cursor) := do
  if length = 0 then
    return ([], cursor)
  else
    let (counted, next) ← readCharacterString cursor
    if counted.octets.length + 1 ≤ length then
      let (others, last) ← readCharacterStrings (length - (counted.octets.length + 1)) next
      return (counted :: others, last)
    else
      .error (.dataLength length (counted.octets.length + 1))
  termination_by length

/-- Read the data of a client subnet option.  Surplus octets are dropped. -/
def readClientSubnet :
    Octets → Except Malformation EdnsOption
  | high :: low :: sourceLength :: scopeLength :: address =>
      match SubnetFamily.ofNumber? (Octets.toUInt16 high low) with
      | none => .error .subnet
      | some family =>
          let size := (sourceLength.toNat + 7) / 8
          if size ≤ family.addressSize ∧ size ≤ address.length then
            .ok (.clientSubnet family sourceLength scopeLength (address.take size))
          else
            .error .subnet
  | _ => .error .subnet

/-- Interpret the data of an option by its code. -/
def readOption
    (code : UInt16)
    (data : Octets) :
    Except Malformation EdnsOption :=
  if code = EdnsOption.clientSubnetCode then
    readClientSubnet data
  else
    .ok (.uninterpreted code data)

/--
Read the options of an extension record whose data have `total` octets, of
which `remaining` are left, after the options in `options`, last first.  If
the data end within an option, all options are dropped.
-/
def readOptions
    (total remaining : Nat)
    (options : List EdnsOption)
    (cursor : Cursor) :
    Except Malformation (List EdnsOption × Cursor) := do
  if remaining = 0 then
    return (options.reverse, cursor)
  else
    let (code, cursor) ← cursor.word
    if remaining < 2 then
      .error (.dataLength remaining 2)
    else if remaining = 2 then
      return ([], cursor)
    else
      let (length, cursor) ← cursor.word
      if total < length.toNat then
        .error (.optionTooLong length.toNat)
      else if remaining < 4 then
        .error (.dataLength remaining 4)
      else if remaining - 4 < length.toNat then
        let (_, cursor) ← cursor.take (remaining - 4)
        return ([], cursor)
      else
        let (data, cursor) ← cursor.take length.toNat
        let option ← readOption code data
        readOptions total (remaining - 4 - length.toNat) (option :: options) cursor
  termination_by remaining

/-- Read an IPv4 address. -/
def readIPv4
    (cursor : Cursor) :
    Except Malformation (IPv4 × Cursor) := do
  let (first, cursor) ← cursor.octet
  let (second, cursor) ← cursor.octet
  let (third, cursor) ← cursor.octet
  let (fourth, cursor) ← cursor.octet
  return (⟨first, second, third, fourth⟩, cursor)

/-- Read a counted number of 16-bit words. -/
def readWords :
    Nat → Cursor → Except Malformation (List UInt16 × Cursor)
  | 0, cursor => .ok ([], cursor)
  | count + 1, cursor => do
      let (word, cursor) ← cursor.word
      let (words, cursor) ← readWords count cursor
      return (word :: words, cursor)

/-- Read an IPv6 address. -/
def readIPv6
    (cursor : Cursor) :
    Except Malformation (IPv6 × Cursor) := do
  let (groups, cursor) ← readWords 8 cursor
  match IPv6.ofGroups? groups with
  | some address => return (address, cursor)
  | none => .error .endOfMessage

/-- Read the two names and five words of a start of authority. -/
def readStartOfAuthority
    (message : Octets)
    (cursor : Cursor) :
    Except Malformation (RecordData × Cursor) := do
  let (primary, cursor) ← readName message cursor
  let (mailbox, cursor) ← readName message cursor
  let (serial, cursor) ← cursor.doubleWord
  let (refresh, cursor) ← cursor.doubleWord
  let (retry, cursor) ← cursor.doubleWord
  let (expire, cursor) ← cursor.doubleWord
  let (minimum, cursor) ← cursor.doubleWord
  return (.soa primary mailbox serial refresh retry expire minimum, cursor)

/-- Read the three words and the name of a service location. -/
def readServiceLocation
    (message : Octets)
    (cursor : Cursor) :
    Except Malformation (RecordData × Cursor) := do
  let (priority, cursor) ← cursor.word
  let (weight, cursor) ← cursor.word
  let (portNumber, cursor) ← cursor.word
  let (target, cursor) ← readName message cursor
  return (.srv priority weight portNumber target, cursor)

/-- Read the two words, three counted strings and the name of a rewriting rule. -/
def readRewriting
    (message : Octets)
    (cursor : Cursor) :
    Except Malformation (RecordData × Cursor) := do
  let (order, cursor) ← cursor.word
  let (preference, cursor) ← cursor.word
  let (flags, cursor) ← readCharacterString cursor
  match RewritingFlags.ofString? flags with
  | none => .error (.dataInadmissible RecordType.naptr.code)
  | some flags =>
      let (services, cursor) ← readCharacterString cursor
      let (pattern, cursor) ← readCharacterString cursor
      let (replacement, cursor) ← readName message cursor
      return (.naptr order preference flags services pattern replacement, cursor)

/--
Read a service binding in data of `length` octets.  Its parameters take what is
left of the data behind the target.
-/
def readServiceBinding
    (message : Octets)
    (type : RecordType)
    (length : Nat)
    (cursor : Cursor) :
    Except Malformation (ServiceBinding × Cursor) := do
  let start := cursor.position
  let (priority, cursor) ← cursor.word
  let (target, cursor) ← readName message cursor
  let taken := cursor.position - start
  if length < taken then
    .error (.dataLength length taken)
  else
    let (octets, cursor) ← cursor.take (length - taken)
    match (parameters? octets).bind (ServiceBinding.ofParameters? priority target) with
    | some binding => return (binding, cursor)
    | none => .error (.dataInadmissible type.code)

/--
Read the data of a record by its type.  The octets that are taken are compared
with the announced length by the caller.
-/
def readDataOfType
    (message : Octets)
    (type : RecordType)
    (length : Nat)
    (cursor : Cursor) :
    Except Malformation (RecordData × Cursor) := do
  if type = .a then
    let (address, cursor) ← readIPv4 cursor
    return (.a address, cursor)
  else if type = .aaaa then
    let (address, cursor) ← readIPv6 cursor
    return (.aaaa address, cursor)
  else if type = .ns then
    let (server, cursor) ← readName message cursor
    return (.ns server, cursor)
  else if type = .cname then
    let (target, cursor) ← readName message cursor
    return (.cname target, cursor)
  else if type = .ptr then
    let (target, cursor) ← readName message cursor
    return (.ptr target, cursor)
  else if type = .aname then
    let (target, cursor) ← readName message cursor
    return (.aname target, cursor)
  else if type = .mx then
    let (preference, cursor) ← cursor.word
    let (exchange, cursor) ← readName message cursor
    return (.mx preference exchange, cursor)
  else if type = .soa then
    readStartOfAuthority message cursor
  else if type = .srv then
    readServiceLocation message cursor
  else if type = .txt then
    let (strings, cursor) ← readCharacterStrings length cursor
    return (.txt strings, cursor)
  else if type = .hinfo then
    let (processor, cursor) ← readCharacterString cursor
    let (system, cursor) ← readCharacterString cursor
    return (.hinfo processor system, cursor)
  else if type = .opt then
    let (options, cursor) ← readOptions length length [] cursor
    return (.opt options, cursor)
  else if type = .any ∨ type = .axfr ∨ type = .ixfr ∨ type = .zero then
    .error (.dataUnknown type.code)
  else if type = .naptr then
    readRewriting message cursor
  else if type = .svcb then
    let (binding, cursor) ← readServiceBinding message type length cursor
    return (.svcb binding, cursor)
  else if type = .https then
    let (binding, cursor) ← readServiceBinding message type length cursor
    return (.https binding, cursor)
  else
    let (octets, cursor) ← cursor.take length
    match dataOfOctets? type octets with
    | some data => return (data, cursor)
    | none => .error (.dataInadmissible type.code)

/--
Read the data of a record.  A length of zero means that there are no data,
whatever the type; other data must take exactly their length.
-/
def readData
    (message : Octets)
    (type : RecordType)
    (length : Nat)
    (cursor : Cursor) :
    Except Malformation (RecordData × Cursor) :=
  if length = 0 then
    .ok (.absent type, cursor)
  else do
    let (data, next) ← readDataOfType message type length cursor
    if next.position = cursor.position + length then
      return (data, next)
    else
      .error (.dataLength length (next.position - cursor.position))

/-- The smallest datagram size that an extension record can announce. -/
def minPayload : UInt16 := 512

/--
Read the class of a record.  An extension record must stand at the root, and
the datagram size in place of its class is raised to the smallest one.
-/
def readClass
    (owner : Name)
    (type : RecordType)
    (cursor : Cursor) :
    Except Malformation (RecordClass × Cursor) :=
  if type = .opt then
    if owner.isRoot then do
      let (payload, cursor) ← cursor.word
      return (⟨max payload minPayload⟩, cursor)
    else
      .error .extensionNotAtRoot
  else do
    let (code, cursor) ← cursor.word
    return (⟨code⟩, cursor)

/-- Read a record. -/
def readRecord
    (message : Octets)
    (cursor : Cursor) :
    Except Malformation (Record × Cursor) := do
  let (owner, cursor) ← readName message cursor
  let (code, cursor) ← cursor.word
  let (recordClass, cursor) ← readClass owner ⟨code⟩ cursor
  let (lifetime, cursor) ← cursor.doubleWord
  let (length, cursor) ← cursor.word
  if cursor.has length.toNat then
    let (data, cursor) ← readData message ⟨code⟩ length.toNat cursor
    return (⟨owner, recordClass, lifetime, data⟩, cursor)
  else
    .error (.dataBeyondEnd length.toNat)

/-- Read a question. -/
def readQuestion
    (message : Octets)
    (cursor : Cursor) :
    Except Malformation (Question × Cursor) := do
  let (name, cursor) ← readName message cursor
  let (type, cursor) ← cursor.word
  let (recordClass, cursor) ← cursor.word
  return (⟨name, ⟨type⟩, ⟨recordClass⟩⟩, cursor)

/-- Read a counted number of items, after those in `items`, last first. -/
def readMany
    {α : Type}
    (read : Cursor → Except Malformation (α × Cursor)) :
    Nat → List α → Cursor → Except Malformation (List α × Cursor)
  | 0, items, cursor => .ok (items.reverse, cursor)
  | count + 1, items, cursor => do
      let (item, cursor) ← read cursor
      readMany read count (item :: items) cursor

/-- The extension data that an extension record carries. -/
def ednsOfRecord
    (record : Record) :
    Edns where
  payload := record.recordClass.code
  version := (record.lifetime >>> 16).toUInt8
  flags := record.lifetime.toUInt16
  options :=
    match record.data with
    | .opt options => options
    | _ => []

/-- The high bits of the response code that an extension record carries. -/
def highBitsOfRecord
    (record : Record) :
    UInt8 :=
  (record.lifetime >>> 24).toUInt8

/--
The additional records without the extension record, and that record.  There
may be one at most.
-/
def takeExtension
    (records : List Record) :
    Except Malformation (List Record × Option Record) :=
  let others := records.filter (fun record => record.type ≠ .opt)
  match records.filter (fun record => record.type = .opt) with
  | [] => .ok (others, none)
  | [record] => .ok (others, some record)
  | _ => .error .secondExtension

/-- The header with the given identifier and flag octets. -/
def headerOfFlags
    (id : UInt16)
    (first second : UInt8) :
    Header where
  id := id
  isResponse := first &&& 0x80 ≠ 0
  opcode := ⟨(first >>> 3).toNat % 16, Nat.mod_lt _ (by decide)⟩
  authoritative := first &&& 0x04 ≠ 0
  truncated := first &&& 0x02 ≠ 0
  recursionDesired := first &&& 0x01 ≠ 0
  recursionAvailable := second &&& 0x80 ≠ 0
  authenticData := second &&& 0x20 ≠ 0
  checkingDisabled := second &&& 0x10 ≠ 0
  responseCode := .ofParts 0 second

/-- The header after the high bits of its response code are known. -/
def completeHeader
    (header : Header) :
    Option Record → Header
  | none => header
  | some record =>
      { header with
        responseCode := .ofParts (highBitsOfRecord record) header.responseCode.low }

end DnsOverQuic.Dns.Wire

namespace DnsOverQuic.Dns.Message

open Wire

/-- Read a message. -/
def decode
    (message : Octets) :
    Except Malformation Message := do
  let (id, cursor) ← (Cursor.start message).word
  let (first, cursor) ← cursor.octet
  let (second, cursor) ← cursor.octet
  let (questionCount, cursor) ← cursor.word
  let (answerCount, cursor) ← cursor.word
  let (authorityCount, cursor) ← cursor.word
  let (additionalCount, cursor) ← cursor.word
  let (questions, cursor) ← readMany (readQuestion message) questionCount.toNat [] cursor
  let (answers, cursor) ← readMany (readRecord message) answerCount.toNat [] cursor
  let (authorities, cursor) ← readMany (readRecord message) authorityCount.toNat [] cursor
  let (additionals, _) ← readMany (readRecord message) additionalCount.toNat [] cursor
  let (additionals, extension) ← takeExtension additionals
  return {
    header := completeHeader (headerOfFlags id first second) extension
    questions := questions
    answers := answers
    authorities := authorities
    additionals := additionals
    edns := extension.map ednsOfRecord }

end DnsOverQuic.Dns.Message
