/-!
# Octet strings

Messages, datagrams and files are finite sequences of octets.  This module
names that type, writes machine words on it most significant octet first,
and splits off a counted front part.
-/

namespace DnsOverQuic

/-- A finite sequence of octets. -/
abbrev Octets := List UInt8

namespace Octets

/-- The two octets of a 16-bit word, most significant first. -/
def ofUInt16 (word : UInt16) : Octets :=
  [(word >>> 8).toUInt8, word.toUInt8]

/-- The four octets of a 32-bit word, most significant first. -/
def ofUInt32 (word : UInt32) : Octets :=
  [(word >>> 24).toUInt8, (word >>> 16).toUInt8, (word >>> 8).toUInt8, word.toUInt8]

/-- The 16-bit word with the given octets. -/
def toUInt16 (high low : UInt8) : UInt16 :=
  high.toUInt16 <<< 8 ||| low.toUInt16

/-- The 32-bit word with the given halves. -/
def toUInt32 (high low : UInt16) : UInt32 :=
  high.toUInt32 <<< 16 ||| low.toUInt32

/--
Split off exactly `count` octets.  There is no result when fewer are left.
-/
def splitExact?
    (count : Nat)
    (octets : Octets) :
    Option (Octets × Octets) :=
  let front := octets.take count
  if front.length = count then
    some (front, octets.drop count)
  else
    none

@[simp]
theorem length_ofUInt16
    (word : UInt16) :
    (ofUInt16 word).length = 2 :=
  rfl

@[simp]
theorem length_ofUInt32
    (word : UInt32) :
    (ofUInt32 word).length = 4 :=
  rfl

/-- Splitting loses nothing. -/
theorem append_of_splitExact?
    {count : Nat}
    {octets front back : Octets}
    (split : splitExact? count octets = some (front, back)) :
    octets = front ++ back := by
  unfold splitExact? at split
  dsimp only at split
  split at split
  · cases split
    exact (List.take_append_drop count octets).symm
  · cases split

/-- The front part has the length that was asked for. -/
theorem length_of_splitExact?
    {count : Nat}
    {octets front back : Octets}
    (split : splitExact? count octets = some (front, back)) :
    front.length = count := by
  unfold splitExact? at split
  dsimp only at split
  split at split
  next enough =>
    cases split
    exact enough
  next => cases split

/-- A front part of known length splits off. -/
theorem splitExact?_append
    (front back : Octets) :
    splitExact? front.length (front ++ back) = some (front, back) := by
  simp [splitExact?]

end Octets

end DnsOverQuic
