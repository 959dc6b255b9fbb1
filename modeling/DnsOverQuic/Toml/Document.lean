import DnsOverQuic.Toml.Moment
import DnsOverQuic.Toml.Number
import DnsOverQuic.Toml.Quoted
import DnsOverQuic.Toml.Table

/-!
# TOML documents

A document is a sequence of lines: headers, which open tables, and keys with
values, which add to the table that was opened last.  Values nest in arrays
and inline tables up to a fixed depth.  A reader takes a text and returns what
it has read with the text that follows.
-/

namespace DnsOverQuic.Toml

/-- Arrays and inline tables nest no deeper than this. -/
def maxDepth : Nat := 80

namespace Reading

/-- True for a blank within a line. -/
def isBlank
    (symbol : Char) :
    Bool :=
  symbol == ' ' || symbol == '\t'

/-- The text behind blanks. -/
def skipBlanks
    (text : List Char) :
    List Char :=
  text.dropWhile isBlank

/--
The text behind blanks, line ends and comments; `comment` is true within a
comment.  Control characters do not stand in comments.
-/
def skipGaps?
    (comment : Bool) :
    List Char → Option (List Char)
  | [] => some []
  | '\n' :: rest => skipGaps? false rest
  | '\r' :: '\n' :: rest => skipGaps? false rest
  | symbol :: rest =>
      if comment then
        if Quoted.isQuotable symbol then skipGaps? true rest else none
      else if symbol = '#' then skipGaps? true rest
      else if isBlank symbol then skipGaps? false rest
      else some (symbol :: rest)

/-- The text behind the end of a line, before which a comment may stand. -/
def endLine?
    (text : List Char) :
    Option (List Char) :=
  let behind :=
    match skipBlanks text with
    | '#' :: comment => comment.dropWhile Quoted.isQuotable
    | behind => behind
  match behind with
  | [] => some []
  | '\n' :: rest => some rest
  | '\r' :: '\n' :: rest => some rest
  | _ => none

/-- True for the characters of a key without quotes. -/
def isBare
    (symbol : Char) :
    Bool :=
  symbol.isAlphanum || symbol == '_' || symbol == '-'

/-- Read one part of a key. -/
def keyPart?
    (text : List Char) :
    Option (String × List Char) :=
  match text with
  | '"' :: rest => (Quoted.basic? [] rest).map (fun (key, rest) => (String.ofList key, rest))
  | '\'' :: rest => (Quoted.literal? rest).map (fun (key, rest) => (String.ofList key, rest))
  | _ =>
      match text.span isBare with
      | ([], _) => none
      | (key, rest) => some (String.ofList key, rest)

/-- Read a key, with dots between its parts; there are at most `parts` parts. -/
def key? :
    (parts : Nat) → List Char → Option (List String × List Char)
  | 0, _ => none
  | parts + 1, text => do
      let (part, text) ← keyPart? (skipBlanks text)
      match skipBlanks text with
      | '.' :: rest => do
          let (others, rest) ← key? parts rest
          return (part :: others, rest)
      | rest => return ([part], rest)

/-- True for the characters of numbers, dates and words. -/
def isTokenSymbol
    (symbol : Char) :
    Bool :=
  isBare symbol || symbol == '+' || symbol == '.' || symbol == ':'

/-- The value that a word, a number, a date or a time stands for. -/
def ofToken?
    (token : List Char) :
    Option Value :=
  if token = "true".toList then some (.boolean true)
  else if token = "false".toList then some (.boolean false)
  else if Moment.isMoment token then some .moment
  else ((Number.integer? token).map .integer).or ((Number.float? token).map .float)

/--
Split off the front of a text that no blank divides.  One blank may divide a
date from the time that follows it.
-/
def splitToken
    (text : List Char) :
    List Char × List Char :=
  match text.span isTokenSymbol with
  | (date, ' ' :: digit :: rest) =>
      if Moment.afterDate? date = some [] ∧ digit.isDigit then
        let (time, rest) := (digit :: rest).span isTokenSymbol
        (date ++ ' ' :: time, rest)
      else
        (date, ' ' :: digit :: rest)
  | split => split

/-- Read a value that is neither an array nor an inline table. -/
def simple?
    (text : List Char) :
    Option (Value × List Char) :=
  match text with
  | '"' :: _ | '\'' :: _ =>
      (Quoted.read? text).map (fun (content, rest) => (.text (String.ofList content), rest))
  | _ => (ofToken? (splitToken text).1).map (·, (splitToken text).2)

/-- Read a key with its value. -/
def entry?
    (value? : List Char → Option (Value × List Char))
    (text : List Char) :
    Option (List String × Value × List Char) := do
  let (path, text) ← key? (text.length + 1) text
  match text with
  | '=' :: rest => do
      let (value, rest) ← value? (skipBlanks rest)
      return (path, value, rest)
  | _ => none

/-- Read the items of an array to its closing bracket; there are at most `count`. -/
def items?
    (value? : List Char → Option (Value × List Char)) :
    (count : Nat) → List Value → List Char → Option (List Value × List Char)
  | 0, _, _ => none
  | count + 1, items, text => do
      match ← skipGaps? false text with
      | ']' :: rest => return (items.reverse, rest)
      | text => do
          let (item, text) ← value? text
          match ← skipGaps? false text with
          | ',' :: rest => items? value? count (item :: items) rest
          | ']' :: rest => return ((item :: items).reverse, rest)
          | _ => none

/-- Read the entries of an inline table to its closing brace; there are at most `count`. -/
def entries?
    (value? : List Char → Option (Value × List Char)) :
    (count : Nat) → Table → List Char → Option (Table × List Char)
  | 0, _, _ => none
  | count + 1, table, text => do
      match ← skipGaps? false text with
      | '}' :: rest => return (table, rest)
      | text => do
          let (path, value, text) ← entry? value? text
          let table ← table.insert? value path
          match ← skipGaps? false text with
          | ',' :: rest => entries? value? count table rest
          | '}' :: rest => return (table, rest)
          | _ => none

/-- Read a value in which arrays and inline tables nest at most `depth` deep. -/
def value? :
    (depth : Nat) → List Char → Option (Value × List Char)
  | depth + 1, '[' :: rest =>
      (items? (value? depth) (rest.length + 1) [] rest).map (fun (items, rest) =>
        (.array items, rest))
  | depth + 1, '{' :: rest =>
      (entries? (value? depth) (rest.length + 1) [] rest).map (fun (entries, rest) =>
        (.table .inline entries, rest))
  | _, text => simple? text

/-- The whole document so far, and the path of the table that was opened last. -/
structure State where
  root : Table := []
  path : List String := []
deriving Inhabited

/-- Read a header or an entry, up to the end of its line. -/
def line?
    (state : State)
    (text : List Char) :
    Option (State × List Char) :=
  match text with
  | '[' :: '[' :: rest => do
      let (path, rest) ← key? (rest.length + 1) rest
      match rest with
      | ']' :: ']' :: rest => do
          let root ← Table.alterAt? Table.declareNext? path state.root
          return (⟨root, path⟩, rest)
      | _ => none
  | '[' :: rest => do
      let (path, rest) ← key? (rest.length + 1) rest
      match rest with
      | ']' :: rest => do
          let root ← Table.alterAt? Table.declare? path state.root
          return (⟨root, path⟩, rest)
      | _ => none
  | _ => do
      let (path, value, rest) ← entry? (value? maxDepth) text
      let root ← Table.changeAt? (Table.insert? value path) state.path state.root
      return ({ state with root := root }, rest)

/-- Read the lines of a document, of which there are at most `count`. -/
def lines? :
    (count : Nat) → State → List Char → Option Table
  | 0, _, _ => none
  | count + 1, state, text => do
      match ← skipGaps? false text with
      | [] => return state.root
      | text => do
          let (state, text) ← line? state text
          lines? count state (← endLine? text)

end Reading

/-- Read a document, at whose front a byte order mark may stand. -/
def read?
    (text : List Char) :
    Option Table :=
  let text := if text.head? = some (Char.ofNat 0xfeff) then text.tail else text
  Reading.lines? (text.length + 1) {} text

end DnsOverQuic.Toml
