import DnsOverQuic.Text.Decimal

/-!
# Command lines

A command line consists of flags.  A flag has a long name, and some have a
letter; a switch stands alone, and other flags take one value, which is
attached to the flag or is the next argument.

Faults are found from left to right.  An attached value is checked when it is
read.  A value that is an argument of its own is checked when the next flag or
the end of the line shows that it is complete.
-/

namespace DnsOverQuic.Arguments

open Text

/-- What the value of a flag may be. -/
inductive ValueKind where
  | text
  | path
  | socketNumber
  | truth
deriving DecidableEq, Inhabited

/-- What a flag does. -/
inductive FlagKind where
  | switch
  | valued (kind : ValueKind)
  | help
  | version
deriving DecidableEq, Inhabited

/-- A flag of a command line. -/
structure Flag where
  name : String
  letter : Option Char := none
  kind : FlagKind
deriving DecidableEq, Inhabited

/-- The value that a flag was given. -/
inductive Value where
  | text (content : String)
  | socketNumber (number : UInt16)
  | truth (value : Bool)
  | present
deriving DecidableEq, Inhabited

/-- Why a command line gives no arguments. -/
inductive Fault where
  | unknownArgument
  | invalidValue
  | unacceptableNumber
  | superfluousValue
  | repeated
  | helpAsked
  | versionAsked
deriving DecidableEq, Inhabited

/-- The flags that every command line knows. -/
def commonFlags : List Flag :=
  [⟨"help", some 'h', .help⟩, ⟨"version", some 'V', .version⟩]

/-- Read an integer with an optional sign and no blanks. -/
def integer? :
    List Char → Option Int
  | '-' :: digits => (Decimal.read? digits).map (fun value => - (value : Int))
  | '+' :: digits => (Decimal.read? digits).map (fun value => (value : Int))
  | digits => (Decimal.read? digits).map (fun value => (value : Int))

/-- Read the number of a socket. -/
def socketNumber?
    (text : List Char) :
    Option UInt16 :=
  (integer? text).bind (fun value =>
    if 0 ≤ value ∧ value ≤ 65535 then some (UInt16.ofNat value.toNat) else none)

/-- Take a text as the value of a flag. -/
def accept
    (text : String) :
    ValueKind → Except Fault Value
  | .text => .ok (.text text)
  | .path => if text = "" then .error .invalidValue else .ok (.text text)
  | .socketNumber =>
      match socketNumber? text.toList with
      | some number => .ok (.socketNumber number)
      | none => .error .unacceptableNumber
  | .truth =>
      if text = "true" then .ok (.truth true)
      else if text = "false" then .ok (.truth false)
      else .error .invalidValue

/-- A flag whose value is an argument of its own: absent at first. -/
structure Pending where
  name : String
  kind : ValueKind
  content : Option String := none
deriving DecidableEq, Inhabited

/-- What has been read of a command line. -/
structure State where
  given : List (String × Value) := []
  pending : Option Pending := none
deriving DecidableEq, Inhabited

namespace State

/-- Take a value for a flag, which must not have been given before. -/
def give
    (name : String)
    (value : Except Fault Value)
    (state : State) :
    Except Fault State :=
  if state.given.any (fun entry => entry.1 == name) then
    .error .repeated
  else
    value.map (fun value => { state with given := state.given ++ [(name, value)] })

/-- Check the pending value. -/
def settle
    (state : State) :
    Except Fault State :=
  match state.pending with
  | none => .ok state
  | some pending =>
      match pending.content with
      | none => .error .invalidValue
      | some content =>
          give pending.name (accept content pending.kind) { state with pending := none }

/-- Take an argument that is no flag: a value that a flag waits for. -/
def takeContent
    (content : String)
    (state : State) :
    Except Fault State :=
  match state.pending with
  | some ⟨name, kind, none⟩ => .ok { state with pending := some ⟨name, kind, some content⟩ }
  | _ => .error .unknownArgument

/-- Take a flag, with the value that is attached to it if there is one. -/
def takeFlag
    (flag : Flag)
    (attached : Option String)
    (state : State) :
    Except Fault State :=
  match flag.kind, attached with
  | .valued kind, some content => do
      (← state.settle).give flag.name (accept content kind)
  | .valued kind, none => do
      return { ← state.settle with pending := some { name := flag.name, kind := kind } }
  | _, some _ => .error .superfluousValue
  | .switch, none => do (← state.settle).give flag.name (.ok .present)
  | .help, none => do
      let _ ← state.settle
      .error .helpAsked
  | .version, none => do
      let _ ← state.settle
      .error .versionAsked

end State

/-- Split a flag with a long name from the value behind an equals sign. -/
def splitLong
    (text : List Char) :
    String × Option String :=
  match text.span (· != '=') with
  | (name, _ :: content) => (String.ofList name, some (String.ofList content))
  | (name, []) => (String.ofList name, none)

/-- Take a flag by its long name. -/
def takeLong
    (flags : List Flag)
    (text : List Char)
    (state : State) :
    Except Fault State :=
  let (name, attached) := splitLong text
  match flags.find? (fun flag => flag.name == name) with
  | some flag => state.takeFlag flag attached
  | none => .error .unknownArgument

/-- The value behind the letter of a flag; an equals sign may introduce it. -/
def attachedTo :
    List Char → Option String
  | [] => none
  | '=' :: content => some (String.ofList content)
  | content => some (String.ofList content)

/-- Take flags by their letters, up to the first that takes a value. -/
def takeLetters
    (flags : List Flag) :
    List Char → State → Except Fault State
  | [], state => .ok state
  | letter :: rest, state =>
      match flags.find? (fun flag => flag.letter == some letter) with
      | none => .error .unknownArgument
      | some flag =>
          match flag.kind with
          | .valued _ => state.takeFlag flag (attachedTo rest)
          | _ => do takeLetters flags rest (← state.takeFlag flag none)

/-- Take the arguments of a command line. -/
def takeAll
    (flags : List Flag) :
    List String → State → Except Fault State
  | [], state => state.settle
  | argument :: rest, state =>
      match argument.toList with
      | ['-', '-'] => if rest = [] then state.settle else .error .unknownArgument
      | '-' :: '-' :: text => do takeAll flags rest (← takeLong flags text state)
      | '-' :: letter :: letters => do
          takeAll flags rest (← takeLetters flags (letter :: letters) state)
      | _ => do takeAll flags rest (← state.takeContent argument)

/-- The values that a command line gives to flags, by their names. -/
def read
    (flags : List Flag)
    (arguments : List String) :
    Except Fault (List (String × Value)) :=
  (takeAll (flags ++ commonFlags) arguments {}).map State.given

/-- The text that a flag was given. -/
def textOf?
    (given : List (String × Value))
    (name : String) :
    Option String :=
  match given.lookup name with
  | some (.text content) => some content
  | _ => none

/-- The number of a socket that a flag was given. -/
def socketNumberOf?
    (given : List (String × Value))
    (name : String) :
    Option UInt16 :=
  match given.lookup name with
  | some (.socketNumber number) => some number
  | _ => none

/-- The truth value that a flag was given. -/
def truthOf?
    (given : List (String × Value))
    (name : String) :
    Option Bool :=
  match given.lookup name with
  | some (.truth value) => some value
  | _ => none

/-- True if a switch was given. -/
def isPresent
    (given : List (String × Value))
    (name : String) :
    Bool :=
  given.lookup name == some .present

end DnsOverQuic.Arguments
