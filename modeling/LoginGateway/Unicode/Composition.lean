import LoginGateway.Unicode.CompositionTable

/-!
The composed normal form: characters are decomposed, marks are put in the order of their classes,
and what can compose with the last starter does.
-/
set_option autoImplicit false

namespace LoginGateway.Unicode

def syllableBase : Nat := 0xAC00
def leadBase : Nat := 0x1100
def vowelBase : Nat := 0x1161
def tailBase : Nat := 0x11A7
def leadCount : Nat := 19
def vowelCount : Nat := 21
def tailCount : Nat := 28
def syllableCount : Nat := leadCount * vowelCount * tailCount

def offset? (base count : Nat) (c : Char) : Option Nat :=
  if base ≤ c.toNat ∧ c.toNat < base + count then some (c.toNat - base) else none

def syllableParts (index : Nat) : List Char :=
  let lead := Char.ofNat (leadBase + index / (vowelCount * tailCount))
  let vowel := Char.ofNat (vowelBase + index / tailCount % vowelCount)
  if index % tailCount = 0 then [lead, vowel]
  else [lead, vowel, Char.ofNat (tailBase + index % tailCount)]

def syllable? (first second : Char) : Option Char :=
  match offset? leadBase leadCount first, offset? vowelBase vowelCount second with
  | some lead, some vowel =>
    some (Char.ofNat (syllableBase + (lead * vowelCount + vowel) * tailCount))
  | _, _ =>
    match offset? syllableBase syllableCount first, offset? tailBase tailCount second with
    | some index, some tail =>
      if index % tailCount = 0 ∧ tail ≠ 0 then some (Char.ofNat (first.toNat + tail)) else none
    | _, _ => none

def decomposed (c : Char) : List Char :=
  match offset? syllableBase syllableCount c with
  | some index => syllableParts index
  | none =>
    match decompositions.values? c with
    | some codes => codes.map Char.ofNat
    | none => [c]

def combiningClass (c : Char) : Nat := ((combining.values? c).bind List.head?).getD 0

def placeMark (c : Char) : List Char → List Char
  | [] => [c]
  | d :: rest =>
    if 0 < combiningClass d ∧ combiningClass d < combiningClass c then d :: placeMark c rest
    else c :: d :: rest

def inOrder (cs : List Char) : List Char := cs.foldr placeMark []

def pairValue? (second : Nat) : List Nat → Option Nat
  | s :: composite :: rest => if s = second then some composite else pairValue? second rest
  | _ => none

def composed? (first second : Char) : Option Char :=
  (syllable? first second).or
    (((compositions.values? first).bind (pairValue? second.toNat)).map Char.ofNat)

-- Composes onto a starter what follows it; the marks kept so far stand in reverse, and one of their class
-- or a higher one comes between.
def composeOnto (starter : Char) (kept : List Char) (lastClass : Nat) : List Char → List Char
  | [] => starter :: kept.reverse
  | c :: rest =>
    let classOf := combiningClass c
    let reached := kept.isEmpty || lastClass < classOf
    match if reached then composed? starter c else none with
    | some composite => composeOnto composite kept lastClass rest
    | none =>
      if classOf = 0 then starter :: kept.reverse ++ composeOnto c [] 0 rest
      else composeOnto starter (c :: kept) classOf rest

def compose : List Char → List Char
  | [] => []
  | c :: rest => composeOnto c [] 0 rest

def normalize (cs : List Char) : List Char := compose (inOrder (cs.flatMap decomposed))

end LoginGateway.Unicode
