import DnsOverQuic.Address.Socket

/-!
# Resolver addresses

The resolver that queries are forwarded to is either a socket address or a
host name that is looked up again for every exchange.  One leading `udp://` is
allowed.  A text that is a socket address is never taken for a host name.
-/

namespace DnsOverQuic

open Text

/-- Where queries are forwarded to. -/
inductive ResolverAddress where
  | literal (address : SocketAddress)
  | named (host : List Char) (portNumber : UInt16)
deriving DecidableEq, Inhabited

namespace ResolverAddress

/-- The text that denotes the resolver. -/
def text :
    ResolverAddress → List Char
  | literal address => address.text
  | named host number => host ++ ':' :: Decimal.numeral number.toNat

/-- The text without one leading `udp://`. -/
def withoutScheme :
    List Char → List Char
  | 'u' :: 'd' :: 'p' :: ':' :: '/' :: '/' :: rest => rest
  | text => text

/-- True for a host name: not empty and without brackets. -/
def isHost
    (host : List Char) :
    Bool :=
  host ≠ [] && host.all (fun symbol => symbol ≠ '[' && symbol ≠ ']')

/--
Read a host name and a number separated by the only colon.  One plus sign may
introduce the number.
-/
def readNamed?
    (target : List Char) :
    Option ResolverAddress :=
  match target.splitOn ':' with
  | [host, digits] =>
      if isHost host then
        (Decimal.readSignedUpTo? 65535 digits).map (fun number => named host (UInt16.ofNat number))
      else
        none
  | _ => none

/-- Read the address of a resolver. -/
def read?
    (text : List Char) :
    Option ResolverAddress :=
  let target := withoutScheme text
  match SocketAddress.read? target with
  | some address => some (literal address)
  | none => readNamed? target

/-- What is reported about a text that denotes no resolver. -/
def complaint
    (text : String) :
    String :=
  "upstream '" ++ text ++
    "' is not of the form host:port (optionally prefixed with udp://)"

/-- Read the address of a resolver, or say why the text is none. -/
def parse
    (text : String) :
    Except String ResolverAddress :=
  match read? text.toList with
  | some address => .ok address
  | none => .error (complaint text)

end ResolverAddress

end DnsOverQuic
