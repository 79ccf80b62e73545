import LoginGateway.Unicode.Composition
import LoginGateway.Unicode.LabelTable

/-!
Which characters may follow one another in a label of a domain name: joiners stand where a script
needs them, and right-to-left labels keep to one direction.
-/
set_option autoImplicit false

namespace LoginGateway.Unicode

def isMark (c : Char) : Bool := marks.contains c

def code (table : Table) (c : Char) : Nat := ((table.values? c).bind List.head?).getD 0

inductive Joining where
  | left
  | right
  | dual
  | transparent
  | other
deriving DecidableEq

def joiningOf (c : Char) : Joining :=
  match code joining c with
  | 1 => .left
  | 2 => .right
  | 3 => .dual
  | 4 => .transparent
  | _ => .other

def isTransparent (c : Char) : Bool := joiningOf c = .transparent

def visible? (cs : List Char) : Option Char := (cs.dropWhile isTransparent).head?

def joins (kinds : List Joining) (c : Option Char) : Bool :=
  match c with
  | some c => kinds.contains (joiningOf c)
  | none => false

def viramaClass : Nat := 9

def followsVirama (before : List Char) : Bool :=
  match before with
  | c :: _ => combiningClass c = viramaClass
  | [] => false

def nonJoiner : Char := '\u200c'
def joiner : Char := '\u200d'

def joinersFrom (before : List Char) : List Char → Bool
  | [] => true
  | c :: rest =>
    let allowed :=
      if c = nonJoiner then
        followsVirama before ||
          (joins [.left, .dual] (visible? before) && joins [.right, .dual] (visible? rest))
      else if c = joiner then followsVirama before
      else true
    allowed && joinersFrom (c :: before) rest

def hasValidJoiners (cs : List Char) : Bool := joinersFrom [] cs

inductive Direction where
  | left
  | right
  | arabic
  | arabicNumber
  | number
  | neutral
  | mark
  | other
deriving DecidableEq

def directionOf (c : Char) : Direction :=
  match code directions c with
  | 0 => .left
  | 1 => .right
  | 2 => .arabic
  | 3 => .arabicNumber
  | 4 => .number
  | 10 => .mark
  | 11 => .other
  | _ => .neutral

def turns (c : Char) : Bool := [Direction.right, .arabic, .arabicNumber].contains (directionOf c)

def lastDirection? (ds : List Direction) : Option Direction :=
  (ds.reverse.dropWhile (· = .mark)).head?

def endsIn (kinds : List Direction) (ds : List Direction) : Bool :=
  match lastDirection? ds with
  | some d => kinds.contains d
  | none => false

def isRightToLeft (ds : List Direction) : Bool :=
  ds.all (fun d => d ≠ .left && d ≠ .other) &&
    endsIn [.right, .arabic, .number, .arabicNumber] ds &&
    !(ds.contains .number && ds.contains .arabicNumber)

def isLeftToRight (ds : List Direction) : Bool :=
  ds.all (fun d => [Direction.left, .number, .neutral, .mark].contains d) &&
    endsIn [.left, .number] ds

def keepsDirection (cs : List Char) : Bool :=
  let ds := cs.map directionOf
  match ds with
  | [] => true
  | .left :: _ => isLeftToRight ds
  | .right :: _ => isRightToLeft ds
  | .arabic :: _ => isRightToLeft ds
  | _ => false

end LoginGateway.Unicode
