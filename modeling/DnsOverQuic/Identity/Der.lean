import DnsOverQuic.Octets

/-!
# Distinguished encoding

Certificates and keys are trees of elements, each with a tag, a length and a
content.  The length takes as few octets as possible.
-/

namespace DnsOverQuic.Identity

/-- An element: its tag and its content. -/
structure Element where
  tag : UInt8
  content : Octets
deriving DecidableEq, Inhabited

namespace Der

/-- The tag of integers. -/
def integerTag : UInt8 := 0x02

/-- The tag of bit strings. -/
def bitStringTag : UInt8 := 0x03

/-- The tag of octet strings. -/
def octetStringTag : UInt8 := 0x04

/-- The tag of object identifiers. -/
def identifierTag : UInt8 := 0x06

/-- The tag of sequences. -/
def sequenceTag : UInt8 := 0x30

/-- The tag of an explicitly tagged element with the given number. -/
def explicitTag
    (number : UInt8) :
    UInt8 :=
  0xa0 + number

/-- The number with the given octets, most significant first. -/
def natural
    (octets : Octets) :
    Nat :=
  octets.foldl (fun value octet => 256 * value + octet.toNat) 0

/-- The octets of a number, most significant first, without leading zeros. -/
def octetsOf
    (value : Nat) :
    Octets :=
  if value < 256 then
    [UInt8.ofNat value]
  else
    octetsOf (value / 256) ++ [UInt8.ofNat (value % 256)]

/-- The octets that tell the length of a content. -/
def lengthOctets
    (length : Nat) :
    Octets :=
  if length < 128 then
    [UInt8.ofNat length]
  else
    UInt8.ofNat (128 + (octetsOf length).length) :: octetsOf length

/-- Write an element. -/
def write
    (element : Element) :
    Octets :=
  element.tag :: lengthOctets element.content.length ++ element.content

/-- Read the length of a content, which stands in as few octets as possible. -/
def readLength? :
    Octets → Option (Nat × Octets)
  | [] => none
  | first :: rest =>
      if first < 128 then
        some (first.toNat, rest)
      else do
        let (octets, rest) ← Octets.splitExact? (first.toNat - 128) rest
        let length := natural octets
        if lengthOctets length = first :: octets then some (length, rest) else none

/-- Read an element. -/
def read? :
    Octets → Option (Element × Octets)
  | [] => none
  | tag :: rest => do
      let (length, rest) ← readLength? rest
      let (content, rest) ← Octets.splitExact? length rest
      return (⟨tag, content⟩, rest)

/-- Read elements to the end; there are at most `count`. -/
def readUpTo? :
    (count : Nat) → Octets → Option (List Element)
  | _, [] => some []
  | 0, _ :: _ => none
  | count + 1, octets => do
      let (element, rest) ← read? octets
      let others ← readUpTo? count rest
      return element :: others

/-- Read elements to the end. -/
def readAll?
    (octets : Octets) :
    Option (List Element) :=
  readUpTo? octets.length octets

/-- The parts of an element with the given tag. -/
def parts?
    (tag : UInt8)
    (element : Element) :
    Option (List Element) :=
  if element.tag = tag then readAll? element.content else none

/-- The parts of the only element that octets are, which is a sequence. -/
def sequence?
    (octets : Octets) :
    Option (List Element) := do
  let [element] ← readAll? octets | none
  parts? sequenceTag element

/-- A sequence of elements. -/
def sequence
    (elements : List Element) :
    Element :=
  ⟨sequenceTag, elements.flatMap write⟩

/-- A bit string of whole octets. -/
def bitString
    (octets : Octets) :
    Element :=
  ⟨bitStringTag, 0 :: octets⟩

/-- The value of an integer that is not negative. -/
def integer?
    (element : Element) :
    Option Nat :=
  match element.tag == integerTag, element.content with
  | true, first :: rest => if first < 128 then some (natural (first :: rest)) else none
  | _, _ => none

end Der

end DnsOverQuic.Identity
