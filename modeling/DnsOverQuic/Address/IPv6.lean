import DnsOverQuic.Address.IPv4
import DnsOverQuic.Octets
import DnsOverQuic.Text.Hexadecimal

/-!
# IPv6 addresses

An address is eight 16-bit groups.  Writing follows the recommended form:
lower-case groups without leading zeros, the first longest run of at least two
zero groups as `::`, and a dotted quad for an address that embeds an IPv4
address behind `::ffff:`.  Reading is more liberal: `::` may stand for any
number of zero groups, groups may have leading zeros up to four digits, and a
dotted quad may stand for the last two groups.
-/

namespace DnsOverQuic

open Text

/-- An IPv6 address by its eight groups. -/
structure IPv6 where
  groups : List UInt16
  length_groups : groups.length = 8
deriving DecidableEq

namespace IPv6

/-- The address with all groups zero, which stands for every local interface. -/
def unspecified : IPv6 := ⟨List.replicate 8 0, rfl⟩

/-- The address by which a machine reaches itself. -/
def loopback : IPv6 := ⟨[0, 0, 0, 0, 0, 0, 0, 1], rfl⟩

instance : Inhabited IPv6 := ⟨unspecified⟩

/-- The sixteen octets of the address. -/
def octets
    (address : IPv6) :
    Octets :=
  address.groups.flatMap Octets.ofUInt16

/-- The address with the given groups, if there are eight. -/
def ofGroups?
    (groups : List UInt16) :
    Option IPv6 :=
  if length_groups : groups.length = 8 then
    some ⟨groups, length_groups⟩
  else
    none

/-- The two groups that an embedded IPv4 address fills. -/
def groupsOfIPv4
    (address : IPv4) :
    List UInt16 :=
  [Octets.toUInt16 address.first address.second,
    Octets.toUInt16 address.third address.fourth]

/-- The IPv4 address that two groups embed. -/
def ipv4OfGroups
    (high low : UInt16) :
    IPv4 :=
  ⟨(high >>> 8).toUInt8, high.toUInt8, (low >>> 8).toUInt8, low.toUInt8⟩

/-- The number of zero groups at the front. -/
def zeroRun
    (groups : List UInt16) :
    Nat :=
  (groups.takeWhile (· == 0)).length

/--
The start and length of the first longest run of zero groups; `skipped` groups
precede the given ones.
-/
def longestZeroRun
    (skipped : Nat) :
    List UInt16 → Nat × Nat
  | [] => (skipped, 0)
  | group :: rest =>
      let later := longestZeroRun (skipped + 1) rest
      let here := zeroRun (group :: rest)
      if later.2 ≤ here then (skipped, here) else later

/-- Groups as lower-case numerals separated by colons. -/
def groupsText
    (groups : List UInt16) :
    List Char :=
  [':'].intercalate (groups.map (fun group => Hexadecimal.numeral group.toNat))

/-- The recommended text of the address. -/
def text
    (address : IPv6) :
    List Char :=
  match address.groups with
  | [0, 0, 0, 0, 0, 0xffff, high, low] =>
      "::ffff:".toList ++ (ipv4OfGroups high low).text
  | groups =>
      let (start, length) := longestZeroRun 0 groups
      if 2 ≤ length then
        groupsText (groups.take start) ++ "::".toList ++
          groupsText (groups.drop (start + length))
      else
        groupsText groups

/-- Read one group: one to four hexadecimal digits. -/
def readGroup?
    (field : List Char) :
    Option UInt16 :=
  if field.length ≤ 4 then
    (Hexadecimal.read? field).map UInt16.ofNat
  else
    none

/-- Read groups of hexadecimal digits only. -/
def readFields? :
    List (List Char) → Option (List UInt16)
  | [] => some []
  | field :: rest => do
      let group ← readGroup? field
      let groups ← readFields? rest
      return group :: groups

/-- Read groups, the last field of which may be a dotted quad. -/
def readFieldsWithQuad? :
    List (List Char) → Option (List UInt16)
  | [] => some []
  | [field] =>
      match IPv4.read? field with
      | some address => some (groupsOfIPv4 address)
      | none => (readGroup? field).map ([·])
  | field :: rest => do
      let group ← readGroup? field
      let groups ← readFieldsWithQuad? rest
      return group :: groups

/-- The colon-separated fields of a text; the empty text has none. -/
def fields
    (text : List Char) :
    List (List Char) :=
  if text = [] then [] else text.splitOn ':'

/-- The parts before and after the first `::`. -/
def breakAtGap? :
    List Char → Option (List Char × List Char)
  | ':' :: ':' :: back => some ([], back)
  | symbol :: rest => (breakAtGap? rest).map (fun (front, back) => (symbol :: front, back))
  | [] => none

/-- Read an address. -/
def read?
    (text : List Char) :
    Option IPv6 :=
  match breakAtGap? text with
  | some (front, back) => do
      let before ← readFields? (fields front)
      let after ← readFieldsWithQuad? (fields back)
      if before.length + after.length ≤ 7 then
        ofGroups? (before ++ List.replicate (8 - (before.length + after.length)) 0 ++ after)
      else
        none
  | none => do
      let groups ← readFieldsWithQuad? (fields text)
      ofGroups? groups

end IPv6

end DnsOverQuic
