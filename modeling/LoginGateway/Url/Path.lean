import LoginGateway.Url.Basic

/-!
Paths. The text of a path is taken piece by piece between its slashes: `.` adds nothing, `..` takes
back the segment before it unless that is a drive letter, and either one at the end leaves an empty
last segment. A drive letter that is the first segment of a file's path takes the host's place.
-/
set_option autoImplicit false

namespace LoginGateway.Url.Path

abbrev Segment := List Char

-- A piece of a path's text in lines, none of them empty.
abbrev Piece := List Segment

def isDrive : Segment → Bool
  | [letter, mark] => letter.isAlpha && (mark = ':' || mark = '|')
  | _ => false

def drive? : Segment → Option Segment
  | [letter, mark] => if isDrive [letter, mark] then some [letter, ':'] else none
  | _ => none

def plainDots : Segment → Segment
  | '%' :: '2' :: 'e' :: rest => '.' :: plainDots rest
  | '%' :: '2' :: 'E' :: rest => '.' :: plainDots rest
  | c :: rest => c :: plainDots rest
  | [] => []

def isHere (segment : Segment) : Bool := plainDots segment = ['.']
def isUp (segment : Segment) : Bool := plainDots segment = ['.', '.']

def shorten : List Segment → List Segment
  | [] => []
  | last :: done => if isDrive last then last :: done else done

-- The segments that were taken, in reverse, and whether a drive letter is in the host's place.
structure Taken where
  segments : List Segment
  isLocal : Bool

def nothing : Taken := ⟨[], false⟩

def divided? : Piece → Option (Segment × Segment)
  | [letter, ':'] :: line :: lines =>
    if letter.isAlpha then some ([letter, ':'], (line :: lines).flatten) else none
  | [letter] :: [':'] :: line :: lines =>
    if letter.isAlpha then some ([letter, ':'], (line :: lines).flatten) else none
  | _ => none

-- Takes the first piece of a file's path. Where a line ends after a drive letter, the next one is a
-- segment of its own, whatever it holds, and the host stays.
def takeFirst (piece : Piece) : Taken :=
  match divided? piece with
  | some (drive, segment) => ⟨[segment, drive], false⟩
  | none =>
    match drive? piece.flatten with
    | some drive => ⟨[drive], true⟩
    | none => ⟨[piece.flatten], false⟩

def take (isFile : Bool) (taken : Taken) : List Piece → Taken
  | [] => taken
  | piece :: rest =>
    let segment := piece.flatten
    if isHere segment || isUp segment then
      let kept := if isUp segment then shorten taken.segments else taken.segments
      take isFile { taken with segments := if rest.isEmpty then [] :: kept else kept } rest
    else if isFile && taken.segments.isEmpty then take isFile (takeFirst piece) rest
    else take isFile { taken with segments := segment :: taken.segments } rest

def collapse (segments : List Segment) : List Segment :=
  match segments.dropWhile List.isEmpty with
  | [] => [[]]
  | kept => kept

end LoginGateway.Url.Path
