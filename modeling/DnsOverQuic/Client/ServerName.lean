import DnsOverQuic.Address.Socket

/-!
# Names in certificates

The name that a certificate must be for is an IP address or a host name.  The
labels of a host name consist of letters, digits, underscores and inner
hyphens, and the last one is not a number.
-/

namespace DnsOverQuic.Client.ServerName

/-- True for the characters of a label. -/
def isLabelSymbol
    (symbol : Char) :
    Bool :=
  symbol.isAlphanum || symbol == '_' || symbol == '-'

/-- True for a label of a host name. -/
def isLabel
    (label : List Char) :
    Bool :=
  label ≠ [] && label.length ≤ 63 && label.all isLabelSymbol && label.head? ≠ some '-' &&
    label.getLast? ≠ some '-'

/-- The labels of a host name, at whose end a dot may stand. -/
def labels
    (name : List Char) :
    List (List Char) :=
  let labels := name.splitOn '.'
  if 1 < labels.length ∧ labels.getLast? = some [] then labels.dropLast else labels

/-- True for a host name. -/
def isHostName
    (name : List Char) :
    Bool :=
  name.length ≤ 253 && (labels name).all isLabel &&
    !(labels name).getLast?.any (fun label => label.all Char.isDigit)

/-- True for a name that a certificate can be for. -/
def isUsable
    (name : List Char) :
    Bool :=
  (IPAddress.read? name).isSome || isHostName name

end DnsOverQuic.Client.ServerName
