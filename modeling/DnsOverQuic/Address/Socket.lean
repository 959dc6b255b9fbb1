import DnsOverQuic.Address.IPv6

/-!
# Socket addresses

A socket address is an IP address with a number from 0 to 65535, and for IPv6
a scope.  An IPv6 address stands in brackets, and a scope other than zero
follows it behind a percent sign.
-/

namespace DnsOverQuic

open Text

/-- An IP address of either family. -/
inductive IPAddress where
  | v4 (address : IPv4)
  | v6 (address : IPv6)
deriving DecidableEq, Inhabited

namespace IPAddress

/-- The text of the address, without brackets or scope. -/
def text :
    IPAddress → List Char
  | v4 address => address.text
  | v6 address => address.text

/-- Read an address of either family. -/
def read?
    (text : List Char) :
    Option IPAddress :=
  match IPv4.read? text with
  | some address => some (v4 address)
  | none => (IPv6.read? text).map v6

end IPAddress

/-- An IP address, the number of a socket on it, and a scope for IPv6. -/
inductive SocketAddress where
  | v4 (address : IPv4) (portNumber : UInt16)
  | v6 (address : IPv6) (scope : UInt32) (portNumber : UInt16)
deriving DecidableEq, Inhabited

namespace SocketAddress

/-- The socket address of an IP address in the default scope. -/
def ofIP :
    IPAddress → UInt16 → SocketAddress
  | .v4 address, portNumber => v4 address portNumber
  | .v6 address, portNumber => v6 address 0 portNumber

/-- The IP address alone. -/
def ip :
    SocketAddress → IPAddress
  | v4 address _ => .v4 address
  | v6 address _ _ => .v6 address

/-- The number of the socket. -/
def portNumber :
    SocketAddress → UInt16
  | v4 _ number => number
  | v6 _ _ number => number

/-- True for IPv6. -/
def isIPv6 :
    SocketAddress → Bool
  | v4 _ _ => false
  | v6 _ _ _ => true

/-- The unspecified address of the same family, with the number left open. -/
def unspecifiedOfFamily :
    SocketAddress → SocketAddress
  | v4 _ _ => v4 IPv4.unspecified 0
  | v6 _ _ _ => v6 IPv6.unspecified 0 0

/-- The text of a scope: nothing for the default scope. -/
def scopeText
    (scope : UInt32) :
    List Char :=
  if scope = 0 then [] else '%' :: Decimal.numeral scope.toNat

/-- The text of a socket address. -/
def text :
    SocketAddress → List Char
  | v4 address number => address.text ++ ':' :: Decimal.numeral number.toNat
  | v6 address scope number =>
      '[' :: (address.text ++ scopeText scope ++ "]:".toList ++ Decimal.numeral number.toNat)

/-- Read the number of a socket: ASCII digits with a value up to 65535. -/
def readNumber?
    (digits : List Char) :
    Option UInt16 :=
  (Decimal.readUpTo? 65535 digits).map UInt16.ofNat

/-- Read a scope: ASCII digits with a value below 2 ^ 32. -/
def readScope?
    (digits : List Char) :
    Option UInt32 :=
  (Decimal.readUpTo? 4294967295 digits).map UInt32.ofNat

/-- Read an IPv4 socket address. -/
def readV4?
    (text : List Char) :
    Option SocketAddress :=
  match text.splitOn ':' with
  | [host, digits] => do
      return v4 (← IPv4.read? host) (← readNumber? digits)
  | _ => none

/-- Read what stands in the brackets: an IPv6 address with an optional scope. -/
def readScoped?
    (inside : List Char) :
    Option (IPv6 × UInt32) :=
  match inside.splitOn '%' with
  | [host] => do
      return (← IPv6.read? host, 0)
  | [host, scope] => do
      return (← IPv6.read? host, ← readScope? scope)
  | _ => none

/-- Read an IPv6 socket address. -/
def readV6? :
    List Char → Option SocketAddress
  | '[' :: bracketed =>
      match bracketed.splitOn ']' with
      | [inside, ':' :: digits] => do
          let (address, scope) ← readScoped? inside
          return v6 address scope (← readNumber? digits)
      | _ => none
  | _ => none

/-- Read a socket address of either family. -/
def read?
    (text : List Char) :
    Option SocketAddress :=
  (readV4? text).or (readV6? text)

end SocketAddress

end DnsOverQuic
