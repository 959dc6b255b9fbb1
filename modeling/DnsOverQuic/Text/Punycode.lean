/-!
# Punycode

The bootstring coding of characters by ASCII letters and digits that labels of
internationalised names use.  ASCII characters stand first and as they are; a
sequence of variable-length numbers tells where the others go.
-/

namespace DnsOverQuic.Text.Punycode

/-- Numbers beyond this are refused in reading. -/
def limit : Nat := 4294967295

/-- The digit for a value below 36. -/
def digit
    (value : Nat) :
    Char :=
  if value < 26 then Char.ofNat (value + 'a'.toNat) else Char.ofNat (value - 26 + '0'.toNat)

/-- The value of a digit, of either letter case. -/
def value?
    (digit : Char) :
    Option Nat :=
  if 'a' ≤ digit ∧ digit ≤ 'z' then some (digit.toNat - 'a'.toNat)
  else if 'A' ≤ digit ∧ digit ≤ 'Z' then some (digit.toNat - 'A'.toNat)
  else if digit.isDigit then some (digit.toNat - '0'.toNat + 26)
  else none

/-- The least digit value that does not end a number at the given place. -/
def threshold
    (place bias : Nat) :
    Nat :=
  if place ≤ bias then 1 else if bias + 26 ≤ place then 26 else place - bias

/-- Halve a difference as often as adaptation asks, counting the steps. -/
def damp
    (steps difference : Nat) :
    Nat :=
  if 455 < difference then damp (steps + 36) (difference / 35)
  else steps + 36 * difference / (difference + 38)
  termination_by difference

/-- The bias after a difference, when `count` characters have been placed. -/
def adapt
    (difference count : Nat)
    (first : Bool) :
    Nat :=
  let scaled := if first then difference / 700 else difference / 2
  damp 0 (scaled + scaled / count)

theorem one_le_threshold
    (place bias : Nat) :
    1 ≤ threshold place bias := by
  unfold threshold
  split
  · omega
  · split <;> omega

/-- Write a number as digits from the given place on. -/
def writeNumber
    (bias place value : Nat) :
    List Char :=
  if value < threshold place bias then
    [digit value]
  else
    digit (threshold place bias + (value - threshold place bias) % (36 - threshold place bias)) ::
      writeNumber bias (place + 36)
        ((value - threshold place bias) / (36 - threshold place bias))
  termination_by value
  decreasing_by
    have positive := one_le_threshold place bias
    have : (value - threshold place bias) / (36 - threshold place bias) ≤
        value - threshold place bias := Nat.div_le_self _ _
    omega

/-- The state of writing: the difference so far, the bias and the digits. -/
structure Writing where
  difference : Nat
  bias : Nat
  placed : Nat
  output : List Char

/-- Pass over one character while characters with the given code are placed. -/
def passCharacter
    (code basic : Nat)
    (state : Writing)
    (symbol : Char) :
    Writing :=
  if symbol.toNat < code then
    { state with difference := state.difference + 1 }
  else if symbol.toNat = code then
    { difference := 0
      bias := adapt state.difference (state.placed + 1) (state.placed == basic)
      placed := state.placed + 1
      output := state.output ++ writeNumber state.bias 36 state.difference }
  else
    state

/-- The least code from `code` on among the characters, if there is one. -/
def nextCode?
    (code : Nat)
    (text : List Char) :
    Option Nat :=
  ((text.map Char.toNat).filter (code ≤ ·)).min?

/-- Place the characters with codes from `code` on, one code a round. -/
def writeRounds
    (text : List Char)
    (basic : Nat) :
    Nat → Nat → Writing → List Char
  | 0, _, state => state.output
  | rounds + 1, code, state =>
      match nextCode? code text with
      | none => state.output
      | some next =>
          let state :=
            { state with difference := state.difference + (next - code) * (state.placed + 1) }
          let state := text.foldl (passCharacter next basic) state
          writeRounds text basic rounds (next + 1)
            { state with difference := state.difference + 1 }

/-- Write a text. -/
def write
    (text : List Char) :
    List Char :=
  let ascii := text.filter (fun symbol => symbol.toNat < 128)
  let front := if ascii = [] then [] else ascii ++ ['-']
  writeRounds text ascii.length text.length 128
    { difference := 0, bias := 72, placed := ascii.length, output := front }

/-- The state of reading one number after another. -/
structure Reading where
  output : List Char
  code : Nat := 128
  position : Nat := 0
  bias : Nat := 72
  start : Nat := 0
  weight : Nat := 1
  place : Nat := 36

/-- Place the character that a complete number tells. -/
def placeCharacter?
    (state : Reading)
    (position : Nat) :
    Option Reading :=
  let count := state.output.length + 1
  let code := state.code + position / count
  let index := position % count
  if code ≤ 0x10ffff ∧ ¬ (0xd800 ≤ code ∧ code ≤ 0xdfff) then
    some {
      output := state.output.take index ++ Char.ofNat code :: state.output.drop index
      code := code
      position := index + 1
      bias := adapt (position - state.start) count (state.start == 0)
      start := index + 1 }
  else
    none

/-- Read digits to the end, which must be the end of a number. -/
def readDigits? :
    List Char → Reading → Option (List Char)
  | [], state => if state.weight = 1 ∧ state.place = 36 then some state.output else none
  | symbol :: rest, state => do
      let value ← value? symbol
      let position := state.position + value * state.weight
      if limit < position then
        none
      else
        let least := threshold state.place state.bias
        if value < least then
          let state ← placeCharacter? state position
          readDigits? rest state
        else
          readDigits? rest { state with
            position := position
            weight := state.weight * (36 - least)
            place := state.place + 36 }

/-- Read a text: what precedes the last hyphen stands as it is. -/
def read?
    (text : List Char) :
    Option (List Char) :=
  if text.any (fun symbol => 128 ≤ symbol.toNat) then
    none
  else
    match text.reverse.span (· != '-') with
    | (digits, _ :: front) => readDigits? digits.reverse { output := front.reverse }
    | (digits, []) => readDigits? digits.reverse { output := [] }

end DnsOverQuic.Text.Punycode
