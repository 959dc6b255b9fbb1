import DnsOverQuic.Dns.Name
import DnsOverQuic.Protocol

/-!
# Writing into a message of bounded size

The output of a message under construction begins behind the header, whose
octets are known only when everything else has been written.  Every write is
refused, and changes nothing, if the message would exceed the largest size.

A record that does not fit is abandoned: the write position goes back to its
start, but the octets already written for it remain behind the position until
later writes overwrite them.  The output also remembers where the names that
were written begin, because later names point there.
-/

namespace DnsOverQuic.Dns.Wire

/-- The octets of a message header. -/
def headerSize : Nat := 12

/-- Offsets from here on are beyond the reach of a name pointer. -/
def pointerReach : Nat := 0x3fff

/-- The body of a message under construction. -/
structure Output where
  written : Array UInt8 := #[]
  leftover : Octets := []
  targets : List (List Label × Nat) := []
deriving Inhabited

/-- A write was refused because the message would become too long. -/
structure Overflow where
deriving DecidableEq, Inhabited

/-- A sequence of writes.  What was written before a refused write remains. -/
abbrev Writer := EStateM Overflow Output

namespace Output

/-- The offset in the message at which the next octet is written. -/
def position
    (output : Output) :
    Nat :=
  headerSize + output.written.size

/-- The octets of the body, with those that an abandoned record left behind. -/
def octets
    (output : Output) :
    Octets :=
  output.written.toList ++ output.leftover

/-- Forget what was written from an offset on. -/
def rewind
    (offset : Nat)
    (output : Output) :
    Output :=
  { output with
    written := output.written.shrink (offset - headerSize)
    leftover := [] }

/--
Move the position back to an offset, leaving what was written from there on
behind it, and forget the names that began there.
-/
def abandon
    (offset : Nat)
    (targets : List (List Label × Nat))
    (output : Output) :
    Output where
  written := output.written.shrink (offset - headerSize)
  leftover := output.written.toList.drop (offset - headerSize) ++ output.leftover
  targets := targets

/-- Remember that labels begin at an offset. -/
def remember
    (labels : List Label)
    (offset : Nat)
    (output : Output) :
    Output :=
  { output with targets := (labels, offset) :: output.targets }

/-- Replace the word at an offset by the number of octets that follow it. -/
def closeLength
    (offset : Nat)
    (output : Output) :
    Output :=
  let length := UInt16.ofNat (output.position - (offset + 2))
  { output with
    written :=
      (output.written.setIfInBounds (offset - headerSize) (length >>> 8).toUInt8).setIfInBounds
        (offset - headerSize + 1) length.toUInt8 }

end Output

/-- Write octets, if the message does not become too long. -/
def put
    (octets : Octets) :
    Writer Unit :=
  fun output =>
    if output.position + octets.length ≤ Protocol.maxMessageSize then
      .ok () { output with
        written := output.written ++ octets
        leftover := output.leftover.drop octets.length }
    else
      .error {} output

/-- Write octets one by one. -/
def putEach
    (octets : Octets) :
    Writer Unit :=
  octets.forM (fun octet => put [octet])

/-- Write a 16-bit word. -/
def putWord
    (word : UInt16) :
    Writer Unit :=
  put (Octets.ofUInt16 word)

/-- Write a 32-bit word. -/
def putDoubleWord
    (word : UInt32) :
    Writer Unit :=
  put (Octets.ofUInt32 word)

/-- Write a counted octet string: its length, then its octets. -/
def putCounted
    (octets : Octets) :
    Writer Unit := do
  put [UInt8.ofNat octets.length]
  put octets

/-- The two octets that point to an offset. -/
def pointerOctets
    (offset : Nat) :
    Octets :=
  Octets.ofUInt16 (0xc000 ||| UInt16.ofNat offset)

/-- The non-empty ends of a label sequence that begins at an offset. -/
def labelEnds
    (offset : Nat) :
    List Label → List (List Label × Nat)
  | [] => []
  | label :: rest =>
      (label :: rest, offset) :: labelEnds (offset + label.length + 1) rest

/--
End a name whose labels have been written up to the offset `past`.  The first
of its ends that was written before is replaced by a pointer, if pointing is
allowed; ends that were not are remembered while pointers can reach them.
-/
def closeName
    (pointing : Bool)
    (past : Nat) :
    List (List Label × Nat) → Writer Unit
  | [] => put [0]
  | (labels, offset) :: rest => do
      match (← get).targets.lookup labels with
      | some target =>
          if pointing then
            modify (Output.rewind offset)
            put (pointerOctets target)
          else
            closeName pointing past rest
      | none =>
          if past < pointerReach then
            modify (Output.remember labels offset)
          closeName pointing past rest

/-- Write labels as a name, with or without a pointer in place of its end. -/
def putLabels
    (pointing : Bool)
    (labels : List Label) :
    Writer Unit := do
  let start := (← get).position
  labels.forM putCounted
  let past := (← get).position
  closeName pointing past (labelEnds start labels)

/-- Write a name, shortened by a pointer where that is possible. -/
def putName
    (name : Name) :
    Writer Unit :=
  putLabels true name.labels

/-- Write a name in full and in small letters. -/
def putFullName
    (name : Name) :
    Writer Unit :=
  putLabels false name.lowerLabels

end DnsOverQuic.Dns.Wire
