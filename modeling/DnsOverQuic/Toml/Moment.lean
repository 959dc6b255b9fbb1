/-!
# Dates and times in TOML

A date, a time, or both with an optional offset.  Only whether a text is one
is decided here, since no setting is a date or a time.
-/

namespace DnsOverQuic.Toml.Moment

/-- A number of exactly `count` digits at the front of a text. -/
def digits?
    (count : Nat)
    (text : List Char) :
    Option (Nat × List Char) :=
  let front := text.take count
  if front.length = count ∧ front.all Char.isDigit then
    some (Nat.ofDigitChars 10 front 0, text.drop count)
  else
    none

/-- True for the years with a 29th of February. -/
def isLeap
    (year : Nat) :
    Bool :=
  (year % 4 == 0 && year % 100 != 0) || year % 400 == 0

/-- The days of a month; there are none in a month beyond the twelfth. -/
def daysIn
    (year month : Nat) :
    Nat :=
  match month with
  | 2 => if isLeap year then 29 else 28
  | 4 | 6 | 9 | 11 => 30
  | 1 | 3 | 5 | 7 | 8 | 10 | 12 => 31
  | _ => 0

/-- What follows a date at the front of a text. -/
def afterDate?
    (text : List Char) :
    Option (List Char) :=
  match digits? 4 text with
  | some (year, '-' :: text) =>
      match digits? 2 text with
      | some (month, '-' :: text) =>
          match digits? 2 text with
          | some (day, rest) => if 1 ≤ day ∧ day ≤ daysIn year month then some rest else none
          | none => none
      | _ => none
  | _ => none

/-- What follows hours and minutes at the front of a text. -/
def afterMinutes?
    (text : List Char) :
    Option (List Char) :=
  match digits? 2 text with
  | some (hour, ':' :: text) =>
      match digits? 2 text with
      | some (minute, rest) => if hour ≤ 23 ∧ minute ≤ 59 then some rest else none
      | none => none
  | _ => none

/-- What follows the digits of a fraction, of which there is at least one. -/
def afterFraction? :
    List Char → Option (List Char)
  | digit :: rest => if digit.isDigit then some (rest.dropWhile Char.isDigit) else none
  | [] => none

/-- What follows a time; its seconds are optional, and the 60th is a leap second. -/
def afterTime?
    (text : List Char) :
    Option (List Char) :=
  match afterMinutes? text with
  | some (':' :: text) =>
      match digits? 2 text with
      | some (second, '.' :: rest) => if second ≤ 60 then afterFraction? rest else none
      | some (second, rest) => if second ≤ 60 then some rest else none
      | none => none
  | rest => rest

/-- True for an offset from universal time. -/
def isOffset :
    List Char → Bool
  | ['Z'] => true
  | ['z'] => true
  | '+' :: text => afterMinutes? text == some []
  | '-' :: text => afterMinutes? text == some []
  | _ => false

/-- True for a date, a time, or a date and a time with an optional offset. -/
def isMoment
    (text : List Char) :
    Bool :=
  match afterDate? text with
  | some [] => true
  | some (separator :: time) =>
      (separator == 'T' || separator == 't' || separator == ' ') &&
        (match afterTime? time with
          | some [] => true
          | some offset => isOffset offset
          | none => false)
  | none => afterTime? text == some []

end DnsOverQuic.Toml.Moment
