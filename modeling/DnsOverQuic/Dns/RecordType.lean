/-!
# Record types, classes and response codes

Types, classes and response codes are numbers on the wire, and every number is
kept.  The tables give the mnemonics that are shown and those that a query may
ask for.
-/

namespace DnsOverQuic.Dns

/-- The type of a record or question by its code. -/
structure RecordType where
  code : UInt16
deriving DecidableEq, Inhabited

namespace RecordType

/-- The reserved type zero. -/
def zero : RecordType := ⟨0⟩
/-- An IPv4 address. -/
def a : RecordType := ⟨1⟩
/-- A name server. -/
def ns : RecordType := ⟨2⟩
/-- The canonical name of an alias. -/
def cname : RecordType := ⟨5⟩
/-- The start of a zone. -/
def soa : RecordType := ⟨6⟩
/-- Uninterpreted data. -/
def null : RecordType := ⟨10⟩
/-- A pointer to another name. -/
def ptr : RecordType := ⟨12⟩
/-- A description of a host. -/
def hinfo : RecordType := ⟨13⟩
/-- A mail exchange. -/
def mx : RecordType := ⟨15⟩
/-- Descriptive text. -/
def txt : RecordType := ⟨16⟩
/-- An IPv6 address. -/
def aaaa : RecordType := ⟨28⟩
/-- The location of a service. -/
def srv : RecordType := ⟨33⟩
/-- A rule that rewrites a name. -/
def naptr : RecordType := ⟨35⟩
/-- A certificate. -/
def cert : RecordType := ⟨37⟩
/-- The pseudo type of the extension record. -/
def opt : RecordType := ⟨41⟩
/-- The fingerprint of a host key. -/
def sshfp : RecordType := ⟨44⟩
/-- The certificate that a service is to present. -/
def tlsa : RecordType := ⟨52⟩
/-- What a parent zone is to take over from its child. -/
def csync : RecordType := ⟨62⟩
/-- The binding of a service. -/
def svcb : RecordType := ⟨64⟩
/-- The binding of a web service. -/
def https : RecordType := ⟨65⟩
/-- An incremental zone transfer. -/
def ixfr : RecordType := ⟨251⟩
/-- A zone transfer. -/
def axfr : RecordType := ⟨252⟩
/-- A question for every type. -/
def any : RecordType := ⟨255⟩
/-- The authorities that may certify a name. -/
def caa : RecordType := ⟨257⟩
/-- An alias that is resolved by the server. -/
def aname : RecordType := ⟨65305⟩

/-- The types that a query may ask for, with their mnemonics. -/
def queryable : List (RecordType × String) :=
  [(a, "A"), (ns, "NS"), (cname, "CNAME"), (soa, "SOA"), (null, "NULL"), (ptr, "PTR"),
    (hinfo, "HINFO"), (mx, "MX"), (txt, "TXT"), (⟨24⟩, "SIG"), (⟨25⟩, "KEY"),
    (aaaa, "AAAA"), (srv, "SRV"), (naptr, "NAPTR"), (cert, "CERT"), (⟨43⟩, "DS"),
    (sshfp, "SSHFP"), (⟨46⟩, "RRSIG"), (⟨47⟩, "NSEC"), (⟨48⟩, "DNSKEY"), (⟨50⟩, "NSEC3"),
    (⟨51⟩, "NSEC3PARAM"), (tlsa, "TLSA"), (⟨59⟩, "CDS"), (⟨60⟩, "CDNSKEY"),
    (⟨61⟩, "OPENPGPKEY"), (csync, "CSYNC"), (svcb, "SVCB"), (https, "HTTPS"),
    (⟨250⟩, "TSIG"), (axfr, "AXFR"), (any, "ANY"), (caa, "CAA"), (aname, "ANAME")]

/-- All types that have a mnemonic. -/
def mnemonics : List (RecordType × String) :=
  queryable ++ [(zero, "ZERO"), (opt, "OPT"), (ixfr, "IXFR")]

/-- The mnemonic of the type, or a general word for a type without one. -/
def text
    (type : RecordType) :
    String :=
  (mnemonics.lookup type).getD "Unknown"

/-- The type with the given mnemonic; `*` asks for every type. -/
def ofMnemonic?
    (mnemonic : String) :
    Option RecordType :=
  if mnemonic = "*" then
    some any
  else
    (queryable.find? (fun entry => entry.2 == mnemonic)).map Prod.fst

end RecordType

/-- The class of a record or question by its code. -/
structure RecordClass where
  code : UInt16
deriving DecidableEq, Inhabited

namespace RecordClass

/-- The class of the Internet. -/
def internet : RecordClass := ⟨1⟩

/-- The mnemonics of the classes that have one. -/
def mnemonics : List (RecordClass × String) :=
  [(internet, "IN"), (⟨3⟩, "CH"), (⟨4⟩, "HS"), (⟨254⟩, "NONE"), (⟨255⟩, "ANY")]

/-- The mnemonic of the class, or a general word for a class without one. -/
def text
    (recordClass : RecordClass) :
    String :=
  (mnemonics.lookup recordClass).getD "UNKNOWN"

end RecordClass

/-- A response code of up to twelve bits; the low four stand in the header. -/
structure ResponseCode where
  code : UInt16
deriving DecidableEq, Inhabited

namespace ResponseCode

/-- The code with the given high eight and low four bits. -/
def ofParts
    (high low : UInt8) :
    ResponseCode :=
  ⟨high.toUInt16 <<< 4 ||| (low &&& 0x0f).toUInt16⟩

/-- The four bits that stand in the header. -/
def low
    (response : ResponseCode) :
    UInt8 :=
  (response.code &&& 0x0f).toUInt8

/-- The eight bits that stand in the extension record. -/
def high
    (response : ResponseCode) :
    UInt8 :=
  ((response.code &&& 0x0ff0) >>> 4).toUInt8

/-- The descriptions of the codes that have one. -/
def descriptions : List (ResponseCode × String) :=
  [(⟨0⟩, "No Error"), (⟨1⟩, "Form Error"), (⟨2⟩, "Server Failure"),
    (⟨3⟩, "Non-Existent Domain"), (⟨4⟩, "Not Implemented"), (⟨5⟩, "Query Refused"),
    (⟨6⟩, "Name should not exist"), (⟨7⟩, "RR Set should not exist"),
    (⟨8⟩, "RR Set does not exist"), (⟨9⟩, "Not authorized"), (⟨10⟩, "Name not in zone"),
    (⟨16⟩, "TSIG Failure"), (⟨17⟩, "Key not recognized"),
    (⟨18⟩, "Signature out of time window"), (⟨19⟩, "Bad TKEY mode"),
    (⟨20⟩, "Duplicate key name"), (⟨21⟩, "Algorithm not supported"),
    (⟨22⟩, "Bad truncation"), (⟨23⟩, "Bad server cookie")]

/-- The description of the code, or a general one. -/
def text
    (response : ResponseCode) :
    String :=
  (descriptions.lookup response).getD "Unknown response code"

end ResponseCode

end DnsOverQuic.Dns
