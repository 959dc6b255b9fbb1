import DnsOverQuic.Text.Hexadecimal

/-!
# Quoted text in TOML

Basic text stands in double quotes and knows escapes, literal text stands in
single quotes and knows none.  Three quotes in a row open text over several
lines.  Readers take the text behind the opening quotes and return what is
behind the closing ones.
-/

namespace DnsOverQuic.Toml.Quoted

open Text

/-- True for the characters that may stand in quotes on one line. -/
def isQuotable
    (symbol : Char) :
    Bool :=
  symbol == '\t' || (0x20 ≤ symbol.toNat && symbol.toNat != 0x7f)

/-- What a backslash and one character stand for. -/
def simpleEscape? :
    Char → Option Char
  | 'b' => some '\x08'
  | 't' => some '\t'
  | 'n' => some '\n'
  | 'f' => some '\x0c'
  | 'r' => some '\r'
  | 'e' => some '\x1b'
  | '"' => some '"'
  | '\\' => some '\\'
  | _ => none

/-- The character with a code, unless the code is reserved for pairs. -/
def ofCode?
    (code : Nat) :
    Option Char :=
  if code < 0xd800 ∨ (0xdfff < code ∧ code < 0x110000) then some (Char.ofNat code) else none

/-- The character whose code a counted number of hexadecimal digits give. -/
def codeEscape?
    (count : Nat)
    (text : List Char) :
    Option (Char × List Char) :=
  if (text.take count).length = count then
    ((Hexadecimal.read? (text.take count)).bind ofCode?).map (·, text.drop count)
  else
    none

/-- The character that the text behind a backslash stands for. -/
def escape? :
    List Char → Option (Char × List Char)
  | [] => none
  | 'x' :: rest => codeEscape? 2 rest
  | 'u' :: rest => codeEscape? 4 rest
  | 'U' :: rest => codeEscape? 8 rest
  | symbol :: rest => (simpleEscape? symbol).map (·, rest)

theorem length_of_codeEscape?
    {count : Nat}
    {text rest : List Char}
    {symbol : Char}
    (read : codeEscape? count text = some (symbol, rest)) :
    rest.length ≤ text.length := by
  unfold codeEscape? at read
  split at read
  · simp only [Option.map_eq_some_iff, Prod.mk.injEq] at read
    obtain ⟨_, _, _, rfl⟩ := read
    simp
  · cases read

/-- An escape takes at least one character. -/
theorem length_of_escape?
    {text rest : List Char}
    {symbol : Char}
    (read : escape? text = some (symbol, rest)) :
    rest.length < text.length := by
  unfold escape? at read
  split at read
  · cases read
  · exact Nat.lt_succ_of_le (length_of_codeEscape? read)
  · exact Nat.lt_succ_of_le (length_of_codeEscape? read)
  · exact Nat.lt_succ_of_le (length_of_codeEscape? read)
  · simp only [Option.map_eq_some_iff, Prod.mk.injEq] at read
    obtain ⟨_, _, _, rfl⟩ := read
    exact Nat.lt_succ_self _

/-- Read basic text on one line. -/
def basic?
    (content : List Char)
    (text : List Char) :
    Option (List Char × List Char) :=
  match text with
  | [] => none
  | '"' :: rest => some (content.reverse, rest)
  | '\\' :: rest =>
      match _read : escape? rest with
      | some (symbol, rest') => basic? (symbol :: content) rest'
      | none => none
  | symbol :: rest => if isQuotable symbol then basic? (symbol :: content) rest else none
  termination_by text.length
  decreasing_by
    · exact Nat.lt_succ_of_lt (length_of_escape? _read)
    · exact Nat.lt_succ_self _

/-- Read literal text on one line. -/
def literal?
    (text : List Char) :
    Option (List Char × List Char) :=
  match text.span (fun symbol => isQuotable symbol && symbol != '\'') with
  | (content, '\'' :: rest) => some (content, rest)
  | _ => none

/-- The text without a line end at its front. -/
def withoutLineEnd :
    List Char → List Char
  | '\n' :: rest => rest
  | '\r' :: '\n' :: rest => rest
  | text => text

/-- True for a blank or an end of line. -/
def isGap
    (symbol : Char) :
    Bool :=
  symbol == ' ' || symbol == '\t' || symbol == '\n'

/--
The text behind the blanks and line ends that a backslash at the end of a line
takes away.  Carriage returns stand only before line feeds.
-/
def skipGap :
    List Char → List Char
  | '\r' :: '\n' :: rest => skipGap rest
  | symbol :: rest => if isGap symbol then skipGap rest else symbol :: rest
  | [] => []

/-- The text behind a backslash at the end of a line, if it is that. -/
def lineEscape?
    (text : List Char) :
    Option (List Char) :=
  match text.dropWhile (fun symbol => symbol == ' ' || symbol == '\t') with
  | '\n' :: rest => some (skipGap rest)
  | '\r' :: '\n' :: rest => some (skipGap rest)
  | _ => none

theorem length_skipGap_le
    (text : List Char) :
    (skipGap text).length ≤ text.length := by
  fun_induction skipGap text with
  | case1 rest hypothesis => exact Nat.le_succ_of_le (Nat.le_succ_of_le hypothesis)
  | case2 symbol rest _ _ hypothesis => exact Nat.le_succ_of_le hypothesis
  | case3 => exact Nat.le_refl _
  | case4 => exact Nat.le_refl _

/-- A backslash at the end of a line takes at least the end of the line. -/
theorem length_of_lineEscape?
    {text rest : List Char}
    (read : lineEscape? text = some rest) :
    rest.length < text.length := by
  have shorter :=
    (List.dropWhile_sublist (fun symbol => symbol == ' ' || symbol == '\t') (l := text)).length_le
  unfold lineEscape? at read
  split at read
  next behind equation =>
    cases read
    have := length_skipGap_le behind
    simp only [equation, List.length_cons] at shorter
    omega
  next behind equation =>
    cases read
    have := length_skipGap_le behind
    simp only [equation, List.length_cons] at shorter
    omega
  next => cases read

/--
The content and rest when three quotes close text over several lines; one or
two more quotes at the end belong to the content.
-/
def closed
    (quote : Char)
    (content rest : List Char) :
    List Char × List Char :=
  match rest with
  | first :: second :: rest' =>
      if first = quote then
        if second = quote then ((quote :: quote :: content).reverse, rest')
        else ((quote :: content).reverse, second :: rest')
      else
        (content.reverse, rest)
  | [first] =>
      if first = quote then ((quote :: content).reverse, []) else (content.reverse, rest)
  | [] => (content.reverse, [])

/-- Read basic text over several lines. -/
def basicLines?
    (content : List Char)
    (text : List Char) :
    Option (List Char × List Char) :=
  match text with
  | [] => none
  | '"' :: '"' :: '"' :: rest => some (closed '"' content rest)
  | '\\' :: rest =>
      match _line : lineEscape? rest with
      | some rest' => basicLines? content rest'
      | none =>
          match _read : escape? rest with
          | some (symbol, rest') => basicLines? (symbol :: content) rest'
          | none => none
  | '\r' :: '\n' :: rest => basicLines? ('\n' :: '\r' :: content) rest
  | symbol :: rest =>
      if isQuotable symbol || symbol == '\n' then basicLines? (symbol :: content) rest else none
  termination_by text.length
  decreasing_by
    · exact Nat.lt_succ_of_lt (length_of_lineEscape? _line)
    · exact Nat.lt_succ_of_lt (length_of_escape? _read)
    · exact Nat.lt_succ_of_lt (Nat.lt_succ_self _)
    · exact Nat.lt_succ_self _

/-- Read literal text over several lines. -/
def literalLines?
    (content : List Char) :
    List Char → Option (List Char × List Char)
  | [] => none
  | '\'' :: '\'' :: '\'' :: rest => some (closed '\'' content rest)
  | '\r' :: '\n' :: rest => literalLines? ('\n' :: '\r' :: content) rest
  | symbol :: rest =>
      if isQuotable symbol || symbol == '\n' then literalLines? (symbol :: content) rest
      else none

/-- Read quoted text of one of the four kinds. -/
def read? :
    List Char → Option (List Char × List Char)
  | '"' :: '"' :: '"' :: rest => basicLines? [] (withoutLineEnd rest)
  | '\'' :: '\'' :: '\'' :: rest => literalLines? [] (withoutLineEnd rest)
  | '"' :: rest => basic? [] rest
  | '\'' :: rest => literal? rest
  | _ => none

end DnsOverQuic.Toml.Quoted
