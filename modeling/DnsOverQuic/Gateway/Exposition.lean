import DnsOverQuic.Gateway.Counters
import DnsOverQuic.Text.Decimal

/-!
# Showing the counters

The counters are shown in two forms.  The exposition text has a description, a
type and a sample line for each counter, in alphabetical order of their names;
its samples are double precision numbers.  The compact object has one member
for each counter, in the order in which they are counted.
-/

namespace DnsOverQuic.Gateway

namespace Counter

/-- The name of a counter in the exposition text. -/
def sampleName :
    Counter → String
  | queries => "doq_queries_total"
  | validQueries => "doq_valid_queries_total"
  | resolverFailures => "doq_upstream_errors_total"

/-- The description of a counter in the exposition text. -/
def description :
    Counter → String
  | queries => "DoQ streams that delivered a minimum-size DNS message"
  | validQueries => "DoQ queries forwarded to the upstream resolver"
  | resolverFailures => "Failed exchanges with the upstream resolver"

/-- The name of a counter in the compact object. -/
def memberName :
    Counter → String
  | queries => "queries"
  | validQueries => "valid_queries"
  | resolverFailures => "upstream_errors"

end Counter

namespace Exposition

open Text

/-- A count under its name, with a description. -/
structure Family where
  name : String
  description : String
  count : UInt64
deriving DecidableEq, Inhabited

/-- The family of a counter. -/
def family
    (counters : Counters)
    (counter : Counter) :
    Family :=
  ⟨counter.sampleName, counter.description, counters.get counter⟩

/-- The families of the counters, in alphabetical order of their names. -/
def families
    (counters : Counters) :
    List Family :=
  [.queries, .resolverFailures, .validQueries].map (family counters)

/-- The members of the compact object, in its order. -/
def members
    (counters : Counters) :
    List (String × UInt64) :=
  [.queries, .validQueries, .resolverFailures].map
    (fun counter => (counter.memberName, counters.get counter))

/-- 2 ^ 53: every natural number below it is a double precision number. -/
def doubleLimit : Nat := 9007199254740992

/--
The double precision number nearest to a natural number.  Up to 53 digits are
kept, and of two numbers that are as near the one with the even last digit is
taken.
-/
def nearestDouble
    (value : Nat) :
    Nat :=
  let unit := 1 <<< (value.log2 - 52)
  let kept := value / unit
  let lost := value % unit
  if 2 * lost < unit || (2 * lost == unit && kept % 2 == 0) then
    kept * unit
  else
    (kept + 1) * unit

/-- A description on one line. -/
def escaped
    (description : String) :
    List Char :=
  description.toList.flatMap fun symbol =>
    match symbol with
    | '\\' => ['\\', '\\']
    | '\n' => ['\\', 'n']
    | _ => [symbol]

/-- The lines on a family. -/
def familyLines
    (family : Family) :
    List (List Char) :=
  ["# HELP ".toList ++ family.name.toList ++ ' ' :: escaped family.description,
    "# TYPE ".toList ++ family.name.toList ++ " counter".toList,
    family.name.toList ++ ' ' :: Decimal.numeral (nearestDouble family.count.toNat)]

/-- The exposition text.  There is none of a family without a name. -/
def text?
    (families : List Family) :
    Option (List Char) :=
  if families.all (fun family => family.name ≠ "") then
    some ((families.flatMap familyLines).flatMap (· ++ ['\n']))
  else
    none

/-- A member of the compact object. -/
def memberText
    (member : String × UInt64) :
    List Char :=
  '"' :: member.1.toList ++ "\":".toList ++ Decimal.numeral member.2.toNat

/-- The compact object. -/
def object
    (members : List (String × UInt64)) :
    List Char :=
  '{' :: [','].intercalate (members.map memberText) ++ ['}']

end Exposition

/-- A way to write the two forms. -/
structure Encoders where
  exposition : List Exposition.Family → Option (List Char)
  object : List (String × UInt64) → List Char

namespace Encoders

/-- The exposition text and the compact object. -/
def standard : Encoders where
  exposition := Exposition.text?
  object := Exposition.object

instance : Inhabited Encoders := ⟨standard⟩

end Encoders

end DnsOverQuic.Gateway
