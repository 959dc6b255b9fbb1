import DnsOverQuic.Gateway.Routes

/-!
# Meters

A meter counts in three cells and has a registry in which the cells are entered
under their names.  A copy of a meter has the same cells, so it counts and shows
the same; a meter that is created has cells of its own.  The counts can be read
in three ways: as they are, as the exposition text of the registry, and over HTTP.
-/

namespace DnsOverQuic.Gateway

open Exposition

/-- The counts, in the order in which cells were made for them. -/
abbrev Cells := List UInt64

/-- A cell, with the name and the description of what is counted in it. -/
structure Tally where
  name : String
  description : String
  cell : Nat
deriving DecidableEq, Inhabited

namespace Tally

/-- True for the characters that can be first in a name. -/
def startsName
    (symbol : Char) :
    Bool :=
  symbol.isAlpha || symbol == '_' || symbol == ':'

/-- True for what can be the name of a tally. -/
def isName
    (name : String) :
    Bool :=
  match name.toList with
  | [] => false
  | first :: rest =>
      startsName first && rest.all (fun symbol => startsName symbol || symbol.isDigit)

/-- Make a tally with a cell of its own.  It must have a name and a description. -/
def make
    (name description : String) :
    StateT Cells Option Tally :=
  fun cells =>
    if isName name && description ≠ "" then
      some (⟨name, description, cells.length⟩, cells ++ [0])
    else
      none

/-- Add one to the count. -/
def increment
    (tally : Tally)
    (cells : Cells) :
    Cells :=
  cells.modify tally.cell (· + 1)

/-- The count. -/
def read
    (tally : Tally)
    (cells : Cells) :
    UInt64 :=
  cells.getD tally.cell 0

/-- The count under its name. -/
def family
    (cells : Cells)
    (tally : Tally) :
    Family :=
  ⟨tally.name, tally.description, tally.read cells⟩

end Tally

/-- Tallies of different names. -/
abbrev Registry := List Tally

namespace Registry

/-- Enter a tally, if its name is not taken. -/
def enter
    (registry : Registry)
    (tally : Tally) :
    StateT Cells Option Registry :=
  if registry.any (fun entered => entered.name == tally.name) then
    failure
  else
    return registry ++ [tally]

/-- Put a family in its place by name. -/
def insert
    (family : Family) :
    List Family → List Family
  | [] => [family]
  | first :: rest =>
      if family.name.toList < first.name.toList then
        family :: first :: rest
      else
        first :: insert family rest

/-- The families of the tallies, in alphabetical order of their names. -/
def gather
    (registry : Registry)
    (cells : Cells) :
    List Family :=
  (registry.map (Tally.family cells)).foldr insert []

end Registry

/-- The tallies of the counters, and the registry in which they are entered. -/
structure Meter where
  queries : Tally
  validQueries : Tally
  resolverFailures : Tally
  registry : Registry
deriving DecidableEq, Inhabited

namespace Meter

/-- Make the tally of a counter. -/
def makeTally
    (counter : Counter) :
    StateT Cells Option Tally :=
  Tally.make counter.sampleName counter.description

/-- Create a meter. -/
def create :
    StateT Cells Option Meter := do
  let queries ← makeTally .queries
  let validQueries ← makeTally .validQueries
  let resolverFailures ← makeTally .resolverFailures
  let registry ← Registry.enter [] queries
  let registry ← registry.enter validQueries
  let registry ← registry.enter resolverFailures
  return { queries, validQueries, resolverFailures, registry }

/-- The tally of a counter. -/
def tally
    (meter : Meter) :
    Counter → Tally
  | .queries => meter.queries
  | .validQueries => meter.validQueries
  | .resolverFailures => meter.resolverFailures

/-- Count once. -/
def record
    (meter : Meter)
    (counter : Counter)
    (cells : Cells) :
    Cells :=
  (meter.tally counter).increment cells

/-- The counts. -/
def snapshot
    (meter : Meter)
    (cells : Cells) :
    Counters where
  queries := meter.queries.read cells
  validQueries := meter.validQueries.read cells
  resolverFailures := meter.resolverFailures.read cells

/-- What is shown of the counts. -/
def texts
    (encoders : Encoders)
    (meter : Meter)
    (cells : Cells) :
    Routes.Texts :=
  .of encoders (meter.registry.gather cells) (meter.snapshot cells)

end Meter

/-- What can be read of a meter. -/
inductive View where
  | snapshot
  | exposition
  | page (method : String) (target : List Char)
deriving DecidableEq, Inhabited

/-- What is read of a meter. -/
inductive Reading where
  | snapshot (counters : Counters)
  | exposition (text : Option (List Char))
  | page (response : Routes.Response)
deriving DecidableEq, Inhabited

/-- Read a meter. -/
def Meter.read
    (encoders : Encoders)
    (meter : Meter)
    (cells : Cells) :
    View → Reading
  | .snapshot => .snapshot (meter.snapshot cells)
  | .exposition => .exposition (meter.texts encoders cells).exposition
  | .page method target =>
      .page (Routes.respond (meter.texts encoders cells) method target)

/-- What is done with meters, which are numbered in the order in which they come to be. -/
inductive Call where
  | create
  | copy (index : Nat)
  | record (index : Nat) (counter : Counter)
  | read (index : Nat) (view : View)
deriving DecidableEq, Inhabited

/-- Meters, and the cells in which they count. -/
structure Meters where
  cells : Cells := []
  meters : List Meter := []
deriving DecidableEq, Inhabited

namespace Meters

/-- Do one call: the meters after it, and what is read by it. -/
def call
    (encoders : Encoders)
    (state : Meters) :
    Call → Meters × Option Reading
  | .create =>
      match Meter.create.run state.cells with
      | some (meter, cells) => (⟨cells, state.meters ++ [meter]⟩, none)
      | none => (state, none)
  | .copy index =>
      match state.meters[index]? with
      | some meter => ({ state with meters := state.meters ++ [meter] }, none)
      | none => (state, none)
  | .record index counter =>
      match state.meters[index]? with
      | some meter => ({ state with cells := meter.record counter state.cells }, none)
      | none => (state, none)
  | .read index view =>
      (state, state.meters[index]?.map (fun meter => meter.read encoders state.cells view))

/-- The meters after calls. -/
def after
    (encoders : Encoders)
    (calls : List Call) :
    Meters :=
  calls.foldl (fun state next => (state.call encoders next).1) {}

end Meters

end DnsOverQuic.Gateway
