import DnsOverQuic.Octets

/-!
# Reading positions in a message

A cursor is the part of a message that has not been read, with the offset of
its first octet.  Every read either fails or moves the cursor forward by the
octets that it returns.
-/

namespace DnsOverQuic.Dns.Wire

/-- Why octets are not a message. -/
inductive Malformation where
  | endOfMessage
  | labelKind (octet : UInt8)
  | pointerNotBackward (target start : Nat)
  | labelOverlap (offset bound : Nat)
  | nameTooLong
  | dataBeyondEnd (length : Nat)
  | dataLength (expected actual : Nat)
  | dataUnknown (code : UInt16)
  | dataInadmissible (code : UInt16)
  | extensionNotAtRoot
  | secondExtension
  | optionTooLong (length : Nat)
  | subnet
deriving DecidableEq, Inhabited

/-- A position in a message and what follows it. -/
structure Cursor where
  position : Nat
  rest : Octets
deriving DecidableEq, Inhabited

namespace Cursor

/-- The cursor at the start of a message. -/
def start
    (message : Octets) :
    Cursor :=
  ⟨0, message⟩

/-- The cursor at an offset of a message. -/
def seek
    (message : Octets)
    (offset : Nat) :
    Cursor :=
  ⟨offset, message.drop offset⟩

/-- Read one octet. -/
def octet
    (cursor : Cursor) :
    Except Malformation (UInt8 × Cursor) :=
  match cursor.rest with
  | octet :: rest => .ok (octet, ⟨cursor.position + 1, rest⟩)
  | [] => .error .endOfMessage

/-- Read a 16-bit word. -/
def word
    (cursor : Cursor) :
    Except Malformation (UInt16 × Cursor) :=
  match cursor.rest with
  | high :: low :: rest =>
      .ok (Octets.toUInt16 high low, ⟨cursor.position + 2, rest⟩)
  | _ => .error .endOfMessage

/-- Read a 32-bit word. -/
def doubleWord
    (cursor : Cursor) :
    Except Malformation (UInt32 × Cursor) := do
  let (high, cursor) ← cursor.word
  let (low, cursor) ← cursor.word
  return (Octets.toUInt32 high low, cursor)

/-- Read a counted number of octets. -/
def take
    (count : Nat)
    (cursor : Cursor) :
    Except Malformation (Octets × Cursor) :=
  match Octets.splitExact? count cursor.rest with
  | some (front, back) => .ok (front, ⟨cursor.position + count, back⟩)
  | none => .error .endOfMessage

/-- True if at least a counted number of octets is left. -/
def has
    (count : Nat)
    (cursor : Cursor) :
    Bool :=
  (cursor.rest.take count).length = count

end Cursor

end DnsOverQuic.Dns.Wire
