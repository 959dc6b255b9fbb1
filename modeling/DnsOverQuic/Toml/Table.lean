/-!
# TOML tables

A table keeps its entries in the order in which they were written.  How a table
came about decides whether later lines may still add to it: an inline table
and a value are closed, a table under a header is opened once, and a table that
dotted keys built is extended by dotted keys only.
-/

namespace DnsOverQuic.Toml

/-- How a table came about. -/
inductive Origin where
  | inline
  | declared
  | implied
  | dotted
deriving DecidableEq, Inhabited

/--
A value.  Of a floating-point number only its being in range is kept, and of a
date or time nothing.
-/
inductive Value where
  | text (content : String)
  | integer (value : Int)
  | float (inRange : Bool)
  | boolean (value : Bool)
  | moment
  | array (items : List Value)
  | table (origin : Origin) (entries : List (String × Value))
  | tables (elements : List (List (String × Value)))
deriving Inhabited

/-- The entries of a table. -/
abbrev Table := List (String × Value)

namespace Table

/--
Change the value of a key, or add the key at the end.  The change sees what
the key has, and may refuse.
-/
def alter?
    (key : String)
    (change : Option Value → Option Value) :
    Table → Option Table
  | [] => (change none).map (fun value => [(key, value)])
  | (name, value) :: rest =>
      if name = key then
        (change (some value)).map (fun value => (name, value) :: rest)
      else
        (alter? key change rest).map ((name, value) :: ·)

/-- Change the last of several tables. -/
def changeLast?
    (change : Table → Option Table) :
    List Table → Option (List Table)
  | [] => none
  | [table] => (change table).map (fun table => [table])
  | table :: rest => (changeLast? change rest).map (table :: ·)

/--
Change the table below a value: the table itself unless it is inline, or the
last of several tables under one header.
-/
def below?
    (change : Table → Option Table) :
    Value → Option Value
  | .table .inline _ => none
  | .table origin entries => (change entries).map (.table origin)
  | .tables elements => (changeLast? change elements).map .tables
  | _ => none

/-- Change what a header path names, adding the tables on the way. -/
def alterAt?
    (change : Option Value → Option Value) :
    List String → Table → Option Table
  | [], _ => none
  | [key], table => alter? key change table
  | key :: path, table =>
      alter? key
        (fun
          | none => (alterAt? change path []).map (.table .implied)
          | some value => below? (alterAt? change path) value)
        table

/-- What opening a table under a header makes of what the header names. -/
def declare? :
    Option Value → Option Value
  | none => some (.table .declared [])
  | some (.table .implied entries) => some (.table .declared entries)
  | some _ => none

/-- What opening one more of several tables makes of what the header names. -/
def declareNext? :
    Option Value → Option Value
  | none => some (.tables [[]])
  | some (.tables elements) => some (.tables (elements ++ [[]]))
  | some _ => none

/-- Change the table that an opened header names. -/
def changeAt?
    (change : Table → Option Table) :
    List String → Table → Option Table
  | [], table => change table
  | key :: path, table =>
      alter? key
        (fun
          | none => none
          | some value => below? (changeAt? change path) value)
        table

/-- Change a table that a dotted key passes through on the way to another. -/
def passed?
    (change : Table → Option Table) :
    Value → Option Value
  | .table .declared _ => none
  | value => below? change value

/-- Change the table that the last part of a dotted key belongs to. -/
def extended?
    (change : Table → Option Table) :
    Value → Option Value
  | .table .dotted entries => (change entries).map (.table .dotted)
  | _ => none

/-- Add a value under a dotted key, which must be new. -/
def insert?
    (value : Value) :
    List String → Table → Option Table
  | [], _ => none
  | [key], table =>
      alter? key
        (fun
          | none => some value
          | some _ => none)
        table
  | key :: path, table =>
      alter? key
        (fun
          | none => (insert? value path []).map (.table .dotted)
          | some existing =>
              if path.length = 1 then
                extended? (insert? value path) existing
              else
                passed? (insert? value path) existing)
        table

end Table

end DnsOverQuic.Toml
