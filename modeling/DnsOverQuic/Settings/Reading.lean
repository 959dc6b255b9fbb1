import DnsOverQuic.Settings.Basic
import DnsOverQuic.Toml.Document

/-!
# Settings from TOML

Each section is a table, whose keys set the fields by name, or an array, whose
items set the fields in order.  Fields and sections that are not set keep their
defaults.  Keys that no field has are ignored, but their values must be
representable.
-/

namespace DnsOverQuic

namespace Toml

namespace Value

mutual

/-- True if all numbers in a value are in the range of some machine type. -/
def isRepresentable :
    Value → Bool
  | integer (.ofNat magnitude) => magnitude < Nat.pow 2 128
  | integer (.negSucc pred) => pred < Nat.pow 2 127
  | float inRange => inRange
  | array items => areRepresentable items
  | table _ entries => haveRepresentable entries
  | tables elements => allHaveRepresentable elements
  | _ => true

/-- True if all values of a list are representable. -/
def areRepresentable :
    List Value → Bool
  | [] => true
  | item :: rest => item.isRepresentable && areRepresentable rest

/-- True if the values of all entries are representable. -/
def haveRepresentable :
    List (String × Value) → Bool
  | [] => true
  | (_, value) :: rest => value.isRepresentable && haveRepresentable rest

/-- True if the values of all entries of all tables are representable. -/
def allHaveRepresentable :
    List (List (String × Value)) → Bool
  | [] => true
  | entries :: rest => haveRepresentable entries && allHaveRepresentable rest

end

/-- A value as text. -/
def text? :
    Value → Option String
  | text content => some content
  | _ => none

/-- A value as a truth value. -/
def boolean? :
    Value → Option Bool
  | boolean value => some value
  | _ => none

/-- A value as a natural number up to a limit. -/
def naturalUpTo?
    (limit : Nat) :
    Value → Option Nat
  | integer value => if 0 ≤ value ∧ value ≤ limit then some value.toNat else none
  | _ => none

end Value

/-- True if the keys outside a list have representable values. -/
def Table.ignorable
    (names : List String)
    (table : Table) :
    Bool :=
  table.all (fun (key, value) => names.contains key || value.isRepresentable)

/--
What a section sets, as a function of the name of a field, where the section
has the named fields in this order.
-/
def Value.fields?
    (names : List String) :
    Value → Option (String → Option Value)
  | table _ entries =>
      if Table.ignorable names entries then some (entries.lookup ·) else none
  | array items => some (fun name => items[names.idxOf name]?)
  | tables elements => some (fun name => (elements[names.idxOf name]?).map (table .declared))
  | moment => some (fun _ => none)
  | _ => none

end Toml

namespace Settings

open Toml

/-- Read a field that has a default. -/
def field?
    {α : Type}
    (read? : Value → Option α)
    (default : α) :
    Option Value → Option α
  | none => some default
  | some value => read? value

/-- Read a field that need not be set. -/
def optionalField?
    {α : Type}
    (read? : Value → Option α) :
    Option Value → Option (Option α) :=
  field? (fun value => (read? value).map some) none

/-- A value as the number of a socket. -/
def portNumber?
    (value : Value) :
    Option UInt16 :=
  (value.naturalUpTo? 65535).map UInt16.ofNat

/-- A value as a number of milliseconds. -/
def milliseconds?
    (value : Value) :
    Option UInt64 :=
  (value.naturalUpTo? 18446744073709551615).map UInt64.ofNat

/-- Read the server section. -/
def readServer?
    (value : Value) :
    Option ServerSettings := do
  let set ← value.fields? ["bind_address", "port", "tls_compat"]
  let standard : ServerSettings := {}
  return {
    bindAddress := ← field? Value.text? standard.bindAddress (set "bind_address")
    portNumber := ← field? portNumber? standard.portNumber (set "port")
    withDrafts := ← field? Value.boolean? standard.withDrafts (set "tls_compat") }

/-- Read the identity section. -/
def readIdentity?
    (value : Value) :
    Option IdentitySettings := do
  let set ← value.fields? ["cert_file", "key_file"]
  return {
    certificateFile := ← optionalField? Value.text? (set "cert_file")
    keyFile := ← optionalField? Value.text? (set "key_file") }

/-- Read the resolver section. -/
def readResolver?
    (value : Value) :
    Option ResolverSettings := do
  let set ← value.fields? ["address", "timeout_ms"]
  let standard : ResolverSettings := {}
  return {
    address := ← field? Value.text? standard.address (set "address")
    timeout := ← optionalField? milliseconds? (set "timeout_ms") }

/-- Read the metrics section. -/
def readMetrics?
    (value : Value) :
    Option MetricsSettings := do
  let set ← value.fields? ["enabled", "bind_address", "port"]
  let standard : MetricsSettings := {}
  return {
    enabled := ← field? Value.boolean? standard.enabled (set "enabled")
    bindAddress := ← field? Value.text? standard.bindAddress (set "bind_address")
    portNumber := ← field? portNumber? standard.portNumber (set "port") }

/-- Read the logging section. -/
def readLogging?
    (value : Value) :
    Option LoggingSettings := do
  let set ← value.fields? ["level", "json"]
  let standard : LoggingSettings := {}
  return {
    level := ← field? Value.text? standard.level (set "level")
    json := ← field? Value.boolean? standard.json (set "json") }

/-- The names of the sections. -/
def sectionNames : List String :=
  ["server", "tls", "upstream", "metrics", "logging"]

/-- The settings that a table gives. -/
def ofTable?
    (table : Table) :
    Option Settings :=
  if Table.ignorable sectionNames table then do
    return {
      server := ← field? readServer? {} (table.lookup "server")
      identity := ← field? readIdentity? {} (table.lookup "tls")
      resolver := ← field? readResolver? {} (table.lookup "upstream")
      metrics := ← field? readMetrics? {} (table.lookup "metrics")
      logging := ← field? readLogging? {} (table.lookup "logging") }
  else
    none

/-- Read settings from a document. -/
def read?
    (document : List Char) :
    Option Settings :=
  (Toml.read? document).bind ofTable?

end Settings

end DnsOverQuic
