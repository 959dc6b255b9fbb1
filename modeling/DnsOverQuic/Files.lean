import DnsOverQuic.Text.Utf8

/-!
# Files

The files that the gateway reads, by their paths.  A directory is there if it
is listed itself or if a file below it is.
-/

namespace DnsOverQuic

open Text

/-- What a path leads to. -/
inductive File where
  | regular (octets : List UInt8)
  | directory
deriving DecidableEq, Inhabited

/-- Why a file cannot be read. -/
inductive FileFault where
  | missing
  | isDirectory
  | notDirectory
  | notText
deriving DecidableEq, Inhabited

namespace FileFault

/-- The words for the fault. -/
def text :
    FileFault → String
  | missing => "No such file or directory (os error 2)"
  | isDirectory => "Is a directory (os error 21)"
  | notDirectory => "Not a directory (os error 20)"
  | notText => "stream did not contain valid UTF-8"

end FileFault

/-- Files by path. -/
structure Files where
  entries : List (String × File)
deriving Inhabited

namespace Files

/--
The parts of a path, without those that lead nowhere else.  The root of all
paths is a part of its own.
-/
def parts
    (path : String) :
    List (List Char) :=
  let names := (path.toList.splitOn '/').filter (fun part => part ≠ [] && part ≠ ['.'])
  if path.toList.head? = some '/' then ['/'] :: names else names

/-- The file or directory at a sequence of parts. -/
def at?
    (files : Files)
    (path : List (List Char)) :
    Option File :=
  match files.entries.find? (fun entry => parts entry.1 = path) with
  | some (_, file) => some file
  | none =>
      if path = [] ∨ files.entries.any (fun entry => path.isPrefixOf (parts entry.1)) then
        some .directory
      else
        none

/-- True if the path leads through a regular file. -/
def passesRegular
    (files : Files)
    (path : List (List Char)) :
    Bool :=
  files.entries.any (fun (name, file) =>
    file ≠ .directory && (parts name).isPrefixOf path && parts name ≠ path)

/-- What a path leads to, or why it leads nowhere. -/
def find
    (files : Files)
    (path : String) :
    Except FileFault File :=
  if path = "" then
    .error .missing
  else if files.passesRegular (parts path) then
    .error .notDirectory
  else
    match files.at? (parts path) with
    | none => .error .missing
    | some .directory => .ok .directory
    | some file => if path.toList.getLast? = some '/' then .error .notDirectory else .ok file

/-- True if a path leads to a file or a directory. -/
def contains
    (files : Files)
    (path : String) :
    Bool :=
  (files.find path).toOption.isSome

/-- The characters of a text file. -/
def readText
    (files : Files)
    (path : String) :
    Except FileFault (List Char) :=
  match files.find path with
  | .error fault => .error fault
  | .ok .directory => .error .isDirectory
  | .ok (.regular octets) =>
      match Utf8.read? octets with
      | some text => .ok text
      | none => .error .notText

end Files

end DnsOverQuic
