import DnsOverQuic.Text.Decimal

/-!
# IPv4 addresses

An address is written as four decimal numerals separated by dots.  Reading
accepts exactly what writing produces.
-/

namespace DnsOverQuic

open Text

/-- An IPv4 address by its four octets. -/
structure IPv4 where
  first : UInt8
  second : UInt8
  third : UInt8
  fourth : UInt8
deriving DecidableEq, Inhabited

namespace IPv4

/-- The address that stands for every local interface. -/
def unspecified : IPv4 := ⟨0, 0, 0, 0⟩

/-- The address by which a machine reaches itself. -/
def loopback : IPv4 := ⟨127, 0, 0, 1⟩

/-- The octets of the address, first to last. -/
def octets
    (address : IPv4) :
    List UInt8 :=
  [address.first, address.second, address.third, address.fourth]

/-- The dotted quad of the address. -/
def text
    (address : IPv4) :
    List Char :=
  Decimal.numeral address.first.toNat ++ '.' ::
    (Decimal.numeral address.second.toNat ++ '.' ::
      (Decimal.numeral address.third.toNat ++ '.' ::
        Decimal.numeral address.fourth.toNat))

/-- Read one field of a dotted quad: a numeral up to 255, without leading zeros. -/
def readOctet?
    (field : List Char) :
    Option UInt8 :=
  (Decimal.readNumeralUpTo? 255 field).map UInt8.ofNat

/-- Read a dotted quad. -/
def read?
    (text : List Char) :
    Option IPv4 :=
  match text.splitOn '.' with
  | [first, second, third, fourth] => do
      return {
        first := ← readOctet? first
        second := ← readOctet? second
        third := ← readOctet? third
        fourth := ← readOctet? fourth }
  | _ => none

end IPv4

end DnsOverQuic
