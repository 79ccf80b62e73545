import LoginGateway.Text.Blank
import LoginGateway.Text.Split
import LoginGateway.Unicode.DomainTable
import LoginGateway.Unicode.Label
import LoginGateway.Url.Punycode

/-!
Domain names and their spelling in ASCII. Characters are kept, dropped or replaced by a table and
composed; each label is checked for what it may hold, and a label that is not ASCII is spelled in
Punycode behind a mark. A label that bears the mark already is read and checked in the same way.
-/
set_option autoImplicit false

namespace LoginGateway.Url.Domain

abbrev Label := List Char

def isForbidden (c : Char) : Bool :=
  Text.isControl c ||
    [' ', '%', '#', '/', ':', '<', '>', '?', '@', '[', '\\', ']', '^', '|'].contains c

def isAscii (cs : List Char) : Bool := cs.all Punycode.isBasic

def punycodeMark : List Char := ['x', 'n', '-', '-']

def maxRead : Nat := 2000
def maxWritten : Nat := 1000

def replacement (found : Unicode.Stretch) (c : Char) : List Char :=
  match found.values with
  | [value] => [Char.ofNat (value + (c.toNat - found.first))]
  | values => values.map Char.ofNat

def mapChar? (c : Char) : Option (List Char) :=
  if Unicode.kept.contains c then some [c]
  else if Unicode.dropped.contains c then some []
  else (Unicode.replaced.find? c).map fun found => replacement found c

def mapped? (cs : List Char) : Option (List Char) := do
  let parts ← cs.mapM mapChar?
  return Unicode.normalize parts.flatten

def prepared? (cs : List Char) : Option (List Char) :=
  if isAscii cs then some (cs.map Char.toLower) else mapped? cs

def startsWithMark (label : Label) : Bool :=
  match label with
  | c :: _ => Unicode.isMark c
  | [] => false

def isValid (label : Label) : Bool :=
  label.all Unicode.kept.contains && !startsWithMark label && Unicode.hasValidJoiners label

def readPunycode? (spelling : List Char) : Option Label := do
  let label ← Punycode.decode? spelling
  if spelling.length ≤ maxRead && !isAscii label && !punycodeMark.isPrefixOf label && mapped? label = some label then
    some label
  else none

def label? (label : Label) : Option Label :=
  match punycodeMark.isPrefixOf? label with
  | some spelling => (readPunycode? spelling).filter isValid
  | none => if isAscii label || isValid label then some label else none

def turns (label : Label) : Bool := !isAscii label && label.any Unicode.turns

def keepDirections (labels : List Label) : Bool :=
  !labels.any turns || labels.all Unicode.keepsDirection

def spell? (label : Label) : Option (List Char) :=
  if isAscii label then some label
  else if label.length ≤ maxWritten then some (punycodeMark ++ Punycode.encode label)
  else none

def joined (labels : List (List Char)) : List Char := ['.'].intercalate labels

def ascii? (bytes : Bytes) : Option (List Char) := do
  let prepared ← prepared? (Text.Utf8.decodeLossy bytes)
  let labels ← (prepared.splitOn '.').mapM label?
  if keepDirections labels then
    let spelled ← labels.mapM spell?
    let domain := joined spelled
    if domain.any isForbidden then none else some domain
  else none

end LoginGateway.Url.Domain
