import LoginGateway.Url.Host
import LoginGateway.Url.Path
import LoginGateway.Text.Blank

/-!
Reading absolute addresses. Blanks and controls around the text do not count, and neither do line
breaks in it, but for one after the drive letter of a file. The scheme decides the rest: the
schemes of the web need a host and take a backslash for a slash, a file's host is left out where
the path starts with a drive letter, and any other scheme may go without a host or even without a
path.
-/
set_option autoImplicit false

namespace LoginGateway.Url

inductive Kind where
  | web
  | file
  | other
deriving DecidableEq

def defaultPort (scheme : List Char) : Option Nat :=
  [("http".toList, 80), ("https".toList, 443), ("ws".toList, 80), ("wss".toList, 443),
    ("ftp".toList, 21)].lookup scheme

def kind (scheme : List Char) : Kind :=
  if scheme = "file".toList then .file
  else if (defaultPort scheme).isSome then .web
  else .other

def Kind.isSlash (k : Kind) (c : Char) : Bool := c = '/' || (k ≠ .other && c = '\\')

def isPlainFragment (c : Char) : Bool :=
  Percent.isVisible c && !([' ', '"', '<', '>', '`'].contains c)

def isPlainPath (c : Char) : Bool :=
  isPlainFragment c && !(['#', '?', '\x7b', '\x7d'].contains c)

def isPlainUser (c : Char) : Bool :=
  isPlainPath c && !(['/', ':', ';', '=', '@', '[', '\\', ']', '^', '|'].contains c)

def isPlainQuery (k : Kind) (c : Char) : Bool :=
  Percent.isVisible c && !([' ', '"', '#', '<', '>'].contains c) && !(k ≠ .other && c = '\'')

def isSpaceOrControl (c : Char) : Bool := c.toNat ≤ 0x20

def isLineBreak (c : Char) : Bool := c = '\t' || c = '\n' || c = '\r'

def joinLines (cs : List Char) : List Char := cs.filter fun c => !isLineBreak c

def isSchemeChar (c : Char) : Bool := c.isAlphanum || c = '+' || c = '-' || c = '.'

def scheme? (cs : List Char) : Option (List Char × List Char) :=
  match Text.cut? (· = ':') cs with
  | none => none
  | some (front, rest) =>
    let name := joinLines front
    if name.all isSchemeChar && name.head?.any Char.isAlpha then
      some (name.map Char.toLower, rest)
    else none

def cutOff (mark : Char) (cs : List Char) : List Char × Option (List Char) :=
  match Text.cut? (· = mark) cs with
  | some (front, rest) => (front, some rest)
  | none => (cs, none)

def refuse (e : Error) (refused : Bool) : Except Error Unit :=
  if refused then .error e else .ok ()

def noHost : Host := .name []

def credentials (cs : List Char) : List Char × List Char :=
  let (user, password) := cutOff ':' cs
  (Percent.encode isPlainUser user, Percent.encode isPlainUser (password.getD []))

def splitHost : Bool → List Char → List Char × List Char
  | _, [] => ([], [])
  | bracketed, c :: rest =>
    if c = ':' && !bracketed then ([], c :: rest)
    else
      let inside := if c = '[' then true else if c = ']' then false else bracketed
      let (host, port) := splitHost inside rest
      (c :: host, port)

def readPort (cs : List Char) : Except Error (Option Nat × List Char) :=
  let ds := cs.takeWhile fun c => (Text.Decimal.digit? c).isSome
  let rest := cs.drop ds.length
  let port := (Text.Decimal.read? ds).getD 0
  if port > 65535 then .error .port
  else if rest.isEmpty || rest.head? = some '\\' then
    .ok (if ds.isEmpty then none else some port, rest)
  else .error .port

def readAuthority (scheme cs : List Char) (followed : Bool) :
    Except Error (Authority × List Char) := do
  let (userinfo, place) := (Text.cutLast? (· = '@') cs).getD ([], cs)
  refuse .emptyHost (userinfo.isEmpty && place.isEmpty && !cs.isEmpty && followed)
  let (user, password) := credentials userinfo
  let (hostText, rest) := splitHost false place
  refuse .emptyHost (kind scheme == .web && hostText.isEmpty)
  let host ← if kind scheme == .web then Host.readSpecial hostText else Host.readOther hostText
  refuse .emptyHost (host == noHost && !rest.isEmpty)
  let (port, left) ← readPort rest.tail
  refuse .emptyHost (host == noHost && !(user.isEmpty && password.isEmpty))
  return (⟨user, password, host, if port = defaultPort scheme then none else port⟩, left)

def piece (cs : List Char) : Path.Piece :=
  ((cs.splitOnP isLineBreak).filter fun line => !line.isEmpty).map (Percent.encode isPlainPath)

def takePath (k : Kind) (pieces : List (List Char)) : Path.Taken :=
  Path.take (k = .file) Path.nothing (pieces.map piece)

def segments (k : Kind) (cs : List Char) : List Path.Segment :=
  (takePath k (cs.splitOnP k.isSlash)).segments.reverse

def dropSlash (k : Kind) (cs : List Char) : List Char :=
  match cs with
  | c :: rest => if k.isSlash c then rest else cs
  | [] => []

def pathAfter (k : Kind) (cs : List Char) : Path :=
  if k = .other && cs.isEmpty then .segments [] else .segments (segments k (dropSlash k cs))

def readHosted (scheme cs : List Char) (followed : Bool) :
    Except Error (Option Authority × Path) := do
  let k := kind scheme
  let authority := Text.before k.isSlash cs
  let rest := cs.drop authority.length
  let (a, left) ← readAuthority scheme authority (followed || !rest.isEmpty)
  return (some a, pathAfter k (left ++ rest))

def readFileHost (cs : List Char) : Except Error Host :=
  if cs.isEmpty then .ok noHost
  else (Host.readSpecial cs).map fun host =>
    if host = .name "localhost".toList then noHost else host

-- A file's host and the pieces of its path, from the pieces of the text after two slashes. Where there is
-- no host the path keeps the slash at its front, so a drive letter after it is not first.
def readFileAuthority (hostText : List Char) (rest : List (List Char)) :
    Except Error (Host × List (List Char)) :=
  let name := joinLines hostText
  if Path.isDrive name then .ok (noHost, hostText :: rest)
  else (readFileHost name).map fun host =>
    (host, if host == noHost then [] :: rest else rest)

def isBlankLine (cs : List Char) : Bool := cs.all isLineBreak

def splitFile (pieces : List (List Char)) : Except Error (Host × List (List Char)) :=
  match pieces with
  | first :: second :: third :: rest =>
    if !isBlankLine first then .ok (noHost, pieces)
    else if isBlankLine second then readFileAuthority third rest
    else .ok (noHost, pieces.tail)
  | first :: rest => .ok (noHost, if isBlankLine first then rest else pieces)
  | [] => .ok (noHost, [])

def readFile (cs : List Char) : Except Error (Option Authority × Path) := do
  let (host, pieces) ← splitFile (cs.splitOnP (Kind.isSlash .file))
  let path := takePath .file pieces
  let kept := if path.isLocal then noHost else host
  return (some ⟨[], [], kept, none⟩, .segments (Path.collapse path.segments.reverse))

def readOther (scheme cs : List Char) (followed : Bool) : Except Error (Option Authority × Path) :=
  match cs with
  | '/' :: '/' :: rest => readHosted scheme rest followed
  | '/' :: rest => .ok (none, .segments (segments .other rest))
  | _ => .ok (none, .plain (Percent.encode Percent.isVisible cs))

def readBase (scheme cs : List Char) (followed : Bool) : Except Error (Option Authority × Path) :=
  match kind scheme with
  | .web => readHosted scheme ((joinLines cs).dropWhile (Kind.isSlash .web)) followed
  | .file => readFile cs
  | .other => readOther scheme (joinLines cs) followed

def read (cs : List Char) : Except Error Url :=
  match scheme? (Text.strip isSpaceOrControl cs) with
  | none => .error .relative
  | some (scheme, rest) => do
    let (front, fragment) := cutOff '#' rest
    let (body, query) := cutOff '?' front
    let (authority, path) ← readBase scheme body (query.isSome || fragment.isSome)
    return {
      scheme, authority, path
      query := query.map fun cs => Percent.encode (isPlainQuery (kind scheme)) (joinLines cs)
      fragment := fragment.map fun cs => Percent.encode isPlainFragment (joinLines cs) }

def ofString (s : String) : Except Error Url := read s.toList

end LoginGateway.Url
