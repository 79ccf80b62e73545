import LoginGateway.Http.Field
import LoginGateway.Text.Split
import LoginGateway.Text.Decimal

/-!
Request targets: a path with its query, an asterisk, an authority alone, or a whole address. Of an
address the scheme is checked and forgotten, and so is a fragment.
-/
set_option autoImplicit false

namespace LoginGateway.Http

structure Target where
  authority : List Char
  path : List Char
deriving DecidableEq

namespace Target

def maxLength : Nat := 65534

def isBetween (low high : Nat) (c : Char) : Bool := low ≤ c.toNat && c.toNat ≤ high

def isAddressChar (c : Char) : Bool :=
  c.isAlphanum ||
    ['!', '#', '$', '&', '\'', '(', ')', '*', '+', ',', '-', '.', '/', ':', ';', '=', '?', '@', '[',
      ']', '_', '~'].contains c

def endsAuthority (c : Char) : Bool := c = '/' || c = '?' || c = '#'

-- What has been seen of an authority; colons and escapes of a part that may hold them are forgotten at its
-- end.
structure Seen where
  colons : Nat
  opened : Bool
  closed : Bool
  escape : Bool

def maxColons : Nat := 8

def look (seen : Seen) (c : Char) : Except Error Seen :=
  if c = ':' then
    if seen.colons < maxColons then .ok { seen with colons := seen.colons + 1 }
    else .error .targetAuthority
  else if c = '[' then
    if seen.escape || seen.opened then .error .targetAuthority else .ok { seen with opened := true }
  else if c = ']' then
    if !seen.opened || seen.closed then .error .targetAuthority
    else .ok { seen with closed := true, colons := 0, escape := false }
  else if c = '@' then .ok { seen with colons := 0, escape := false }
  else if c = '%' then .ok { seen with escape := true }
  else if isAddressChar c then .ok seen
  else .error .targetCharacter

def splitAuthority (cs : List Char) : Except Error (List Char × List Char) := do
  let authority := Text.before endsAuthority cs
  let seen ← authority.foldlM look ⟨0, false, false, false⟩
  if seen.opened != seen.closed || seen.colons > 1 || seen.escape ||
      authority.getLast? = some '@' then
    .error .targetAuthority
  else .ok (authority, cs.drop authority.length)

def isOutsideAscii (c : Char) : Bool := c.toNat ≥ 0x80

def isPathChar (c : Char) : Bool :=
  c.toNat = 0x21 || isBetween 0x24 0x3B c || c = '=' || isBetween 0x40 0x5F c ||
    isBetween 0x61 0x7A c || ['|', '~', '"', '\x7b', '\x7d'].contains c || isOutsideAscii c

def isQueryChar (c : Char) : Bool :=
  c.toNat = 0x21 || isBetween 0x24 0x3B c || c = '=' || isBetween 0x3F 0x7E c || isOutsideAscii c

def readPath (cs : List Char) : Except Error (List Char) :=
  let kept := Text.before (· = '#') cs
  let path := Text.before (· = '?') kept
  let query := (kept.drop path.length).drop 1
  if path.all isPathChar && query.all isQueryChar then .ok kept else .error .targetCharacter

def isSchemeChar (c : Char) : Bool := c.isAlphanum || ['+', '-', '.', '~'].contains c

def maxSchemeLength : Nat := 64

def isWeb (scheme : List Char) : Bool :=
  let lower := scheme.map Char.toLower
  lower = "http".toList || lower = "https".toList

def dropScheme (cs : List Char) : Except Error (Option (List Char)) :=
  let scheme := cs.takeWhile isSchemeChar
  match [':', '/', '/'].isPrefixOf? (cs.drop scheme.length) with
  | none => .ok none
  | some rest =>
    if !isWeb scheme && scheme.length > maxSchemeLength then .error .schemeLength
    else if scheme.isEmpty && rest.isEmpty then .ok none
    else .ok (some rest)

def readAlone (cs : List Char) : Except Error Target := do
  let (authority, rest) ← splitAuthority cs
  if rest.isEmpty then .ok ⟨authority, []⟩
  else if cs.length = 1 then .error .targetCharacter
  else .error .targetFormat

def readAddress (cs : List Char) : Except Error Target := do
  if cs.isEmpty then .error .targetEmpty
  else
    let (authority, rest) ← splitAuthority cs
    if authority.isEmpty then .error .targetFormat else return ⟨authority, ← readPath rest⟩

def read (cs : List Char) : Except Error Target :=
  if Text.Utf8.byteLength cs > maxLength then .error .targetLength
  else
    match cs with
    | [] => .error .targetEmpty
    | ['*'] => .ok ⟨[], ['*']⟩
    | '/' :: rest => (readPath ('/' :: rest)).map fun path => ⟨[], path⟩
    | cs => do
      match ← dropScheme cs with
      | some rest => readAddress rest
      | none => readAlone cs

def text (t : Target) : String := if t.path.isEmpty then "/" else String.ofList t.path

def authority? (t : Target) : Option String :=
  if t.authority.isEmpty then none else some (String.ofList t.authority)

end Target

end LoginGateway.Http
