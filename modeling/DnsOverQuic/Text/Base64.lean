/-!
# Base64

Writing groups three octets into four symbols and pads the last group with
`=`.  Reading takes padding as optional, but padding that is present must
complete the last group.
-/

namespace DnsOverQuic.Text.Base64

/-- The symbol for a six-bit value. -/
def symbol
    (value : UInt8) :
    Char :=
  if value < 26 then Char.ofNat (value.toNat + 'A'.toNat)
  else if value < 52 then Char.ofNat (value.toNat - 26 + 'a'.toNat)
  else if value < 62 then Char.ofNat (value.toNat - 52 + '0'.toNat)
  else if value = 62 then '+'
  else '/'

/-- The six-bit value of a symbol, given by its octet. -/
def value?
    (octet : UInt8) :
    Option UInt8 :=
  if 65 ≤ octet ∧ octet ≤ 90 then some (octet - 65)
  else if 97 ≤ octet ∧ octet ≤ 122 then some (octet - 71)
  else if 48 ≤ octet ∧ octet ≤ 57 then some (octet + 4)
  else if octet = 43 then some 62
  else if octet = 47 then some 63
  else none

/-- Write octets with padding. -/
def write :
    List UInt8 → List Char
  | [] => []
  | [first] =>
      [symbol (first >>> 2), symbol ((first &&& 0x03) <<< 4), '=', '=']
  | [first, second] =>
      [symbol (first >>> 2), symbol ((first &&& 0x03) <<< 4 ||| second >>> 4),
        symbol ((second &&& 0x0f) <<< 2), '=']
  | first :: second :: third :: rest =>
      symbol (first >>> 2) :: symbol ((first &&& 0x03) <<< 4 ||| second >>> 4) ::
        symbol ((second &&& 0x0f) <<< 2 ||| third >>> 6) :: symbol (third &&& 0x3f) ::
          write rest

/-- The first octet of a group. -/
def firstOctet
    (first second : UInt8) :
    UInt8 :=
  first <<< 2 ||| second >>> 4

/-- The second octet of a group. -/
def secondOctet
    (second third : UInt8) :
    UInt8 :=
  second <<< 4 ||| third >>> 2

/-- The third octet of a group. -/
def thirdOctet
    (third fourth : UInt8) :
    UInt8 :=
  third <<< 6 ||| fourth

/--
Read symbols without blanks.  Bits left over in the last group are ignored, a
single symbol left over is a fault.
-/
def readSymbols? :
    List UInt8 → Option (List UInt8)
  | [] => some []
  | [_] => none
  | [first, second] => do
      return [firstOctet (← value? first) (← value? second)]
  | [first, second, third] => do
      let second ← value? second
      let third ← value? third
      return [firstOctet (← value? first) second, secondOctet second third]
  | [first, second, 61, 61] => do
      return [firstOctet (← value? first) (← value? second)]
  | [first, second, third, 61] => do
      let second ← value? second
      let third ← value? third
      return [firstOctet (← value? first) second, secondOctet second third]
  | first :: second :: third :: fourth :: rest => do
      let first ← value? first
      let second ← value? second
      let third ← value? third
      let fourth ← value? fourth
      let octets ← readSymbols? rest
      return firstOctet first second :: secondOctet second third :: thirdOctet third fourth ::
        octets

/-- True for the octets that may stand between symbols. -/
def isBlank
    (octet : UInt8) :
    Bool :=
  octet == 32 || (9 ≤ octet && octet ≤ 13)

/-- Read symbols with blanks among them. -/
def read?
    (octets : List UInt8) :
    Option (List UInt8) :=
  readSymbols? (octets.filter (fun octet => !isBlank octet))

end DnsOverQuic.Text.Base64
