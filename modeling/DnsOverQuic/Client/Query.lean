import DnsOverQuic.Dns.Message
import DnsOverQuic.Protocol

/-!
# Queries

A query has one question in the class of the Internet and announces extension
data without options.
-/

namespace DnsOverQuic.Client

open Dns

/-- The flag by which a query asks for security records. -/
def securityFlag : UInt16 := 0x8000

/-- The query for the records of a type at a name. -/
def query
    (id : UInt16)
    (name : Name)
    (type : RecordType)
    (recursion security : Bool) :
    Message where
  header := { id := id, recursionDesired := recursion }
  questions := [⟨name, type, .internet⟩]
  edns := some {
    payload := Protocol.announcedDatagramSize
    version := 0
    flags := if security then securityFlag else 0
    options := [] }

/-- The record type that a text asks for, in letters of either case. -/
def recordType?
    (text : String) :
    Option RecordType :=
  RecordType.ofMnemonic? (String.ofList (text.toList.map Char.toUpper))

end DnsOverQuic.Client
