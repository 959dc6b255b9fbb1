import DnsOverQuic.Dns.RecordData

/-!
# Messages

A message has a header, questions and three sections of records.  The one
extension record of the additional section is not kept among the records but
as the extension data of the message.
-/

namespace DnsOverQuic.Dns

/-- The extension data of a message. -/
structure Edns where
  payload : UInt16
  version : UInt8
  flags : UInt16
  options : List EdnsOption
deriving DecidableEq, Inhabited

/-- A record of an answer, authority or additional section. -/
structure Record where
  owner : Name
  recordClass : RecordClass
  lifetime : UInt32
  data : RecordData
deriving DecidableEq

namespace Record

/-- The type of the record. -/
def type
    (record : Record) :
    RecordType :=
  record.data.type

end Record

/-- A question for the records of one type at one name. -/
structure Question where
  name : Name
  type : RecordType
  recordClass : RecordClass
deriving DecidableEq

/-- The kind of operation that a message asks for unless it says otherwise: a query. -/
def standardOpcode : Fin 16 := ⟨0, by decide⟩

/-- The header of a message, without the counts of its sections. -/
structure Header where
  id : UInt16 := 0
  isResponse : Bool := false
  opcode : Fin 16 := standardOpcode
  authoritative : Bool := false
  truncated : Bool := false
  recursionDesired : Bool := false
  recursionAvailable : Bool := false
  authenticData : Bool := false
  checkingDisabled : Bool := false
  responseCode : ResponseCode := ⟨0⟩
deriving DecidableEq

/-- A message. -/
structure Message where
  header : Header := {}
  questions : List Question := []
  answers : List Record := []
  authorities : List Record := []
  additionals : List Record := []
  edns : Option Edns := none
deriving DecidableEq

namespace Message

/-- The message with nothing in it. -/
def empty : Message := {}

instance : Inhabited Message := ⟨empty⟩

/-- The transaction identifier. -/
def id
    (message : Message) :
    UInt16 :=
  message.header.id

/-- The message with another transaction identifier. -/
def withId
    (message : Message)
    (id : UInt16) :
    Message :=
  { message with header := { message.header with id := id } }

/-- True if the extension data carry an option with the code. -/
def hasOption
    (message : Message)
    (code : UInt16) :
    Bool :=
  match message.edns with
  | some edns => edns.options.any (fun option => option.code == code)
  | none => false

@[simp]
theorem id_withId
    (message : Message)
    (id : UInt16) :
    (message.withId id).id = id :=
  rfl

@[simp]
theorem withId_withId
    (message : Message)
    (first second : UInt16) :
    (message.withId first).withId second = message.withId second :=
  rfl

@[simp]
theorem withId_id
    (message : Message) :
    message.withId message.id = message :=
  rfl

end Message

end DnsOverQuic.Dns
