import LoginGateway.Json.Basic
import LoginGateway.Text.Utf8
import LoginGateway.Text.Split
import LoginGateway.Bytes.Hex

/-!
The tokens of a JSON document, read from bytes. Blanks between tokens are the four of JSON. A
string is first read as pieces, raw bytes and escaped code units, and then as text: surrogates have
to come in pairs, and the bytes have to be UTF-8.
-/
set_option autoImplicit false

namespace LoginGateway.Json

inductive Token where
  | openArray
  | closeArray
  | openObject
  | closeObject
  | comma
  | colon
  | null
  | bool (b : Bool)
  | number (n : Numeral)
  | text (s : Option String)
deriving DecidableEq

namespace Token

def isSpace (b : UInt8) : Bool := b == 0x20 || b == 0x0A || b == 0x0D || b == 0x09

def digit? (b : UInt8) : Option Nat := Text.Decimal.digit? (Char.ofUInt8 b)

def isDigit (b : UInt8) : Bool := (digit? b).isSome

def digits (bytes : Bytes) : List Nat × Bytes :=
  ((bytes.takeWhile isDigit).filterMap digit?, bytes.dropWhile isDigit)

def isWhole : List Nat → Bool
  | [] => false
  | [_] => true
  | d :: _ => d != 0

def fraction? : Bytes → Option (List Nat × Bytes)
  | 0x2E :: rest =>
    let run := digits rest
    if run.1.isEmpty then none else some run
  | rest => some ([], rest)

def unsignedExponent? (negative : Bool) (bytes : Bytes) : Option (Option Int × Bytes) :=
  let run := digits bytes
  let e : Int := Text.Decimal.value run.1
  if run.1.isEmpty then none else some (some (if negative then -e else e), run.2)

def signedExponent? : Bytes → Option (Option Int × Bytes)
  | 0x2D :: rest => unsignedExponent? true rest
  | 0x2B :: rest => unsignedExponent? false rest
  | rest => unsignedExponent? false rest

def exponent? : Bytes → Option (Option Int × Bytes)
  | 0x65 :: rest => signedExponent? rest
  | 0x45 :: rest => signedExponent? rest
  | rest => some (none, rest)

def unsigned? (negative : Bool) (bytes : Bytes) : Option (Numeral × Bytes) := do
  let run := digits bytes
  if isWhole run.1 then
    let (fraction, rest) ← fraction? run.2
    let (exponent, rest) ← exponent? rest
    return (⟨negative, run.1, fraction, exponent⟩, rest)
  else none

def number? : Bytes → Option (Numeral × Bytes)
  | 0x2D :: rest => unsigned? true rest
  | rest => unsigned? false rest

inductive Piece where
  | byte (b : UInt8)
  | unit (u : Nat)
deriving DecidableEq

def escape? (c : Char) : Option UInt8 :=
  match c with
  | '"' => some 0x22
  | '\\' => some 0x5C
  | '/' => some 0x2F
  | 'b' => some 0x08
  | 'f' => some 0x0C
  | 'n' => some 0x0A
  | 'r' => some 0x0D
  | 't' => some 0x09
  | _ => none

def unit? (a b c d : UInt8) : Option Nat := Hex.value? ([a, b, c, d].map Char.ofUInt8)

def pieces? : Bytes → Option (List Piece × Bytes)
  | [] => none
  | 0x22 :: rest => some ([], rest)
  | 0x5C :: 0x75 :: a :: b :: c :: d :: rest => do
    let u ← unit? a b c d
    let (pieces, rest) ← pieces? rest
    return (.unit u :: pieces, rest)
  | 0x5C :: e :: rest => do
    let b ← escape? (Char.ofUInt8 e)
    let (pieces, rest) ← pieces? rest
    return (.byte b :: pieces, rest)
  | b :: rest =>
    if b < 0x20 || b == 0x5C then none
    else do
      let (pieces, rest) ← pieces? rest
      return (.byte b :: pieces, rest)

def isHigh (u : Nat) : Bool := 0xD800 ≤ u && u < 0xDC00
def isLow (u : Nat) : Bool := 0xDC00 ≤ u && u < 0xE000

def bytes? : List Piece → Option Bytes
  | [] => some []
  | .byte b :: rest => (bytes? rest).map (b :: ·)
  | .unit u :: .unit v :: rest =>
    if isHigh u then
      if isLow v then
        let c := Char.ofNat (0x10000 + (u - 0xD800) * 0x400 + (v - 0xDC00))
        (bytes? rest).map (String.utf8EncodeChar c ++ ·)
      else none
    else if isLow u then none
    else (bytes? (.unit v :: rest)).map (String.utf8EncodeChar (Char.ofNat u) ++ ·)
  | .unit u :: rest =>
    if isHigh u || isLow u then none
    else (bytes? rest).map (String.utf8EncodeChar (Char.ofNat u) ++ ·)

def textOf (pieces : List Piece) : Option String := (bytes? pieces).bind Text.Utf8.read?

def word? (token : Token) (letters : String) (bytes : Bytes) : Option (Token × Bytes) :=
  if (Text.utf8 letters).isPrefixOf bytes then some (token, bytes.drop (Text.utf8 letters).length) else none

def mark? (c : Char) : Option Token :=
  match c with
  | '[' => some .openArray
  | ']' => some .closeArray
  | '\x7b' => some .openObject
  | '\x7d' => some .closeObject
  | ',' => some .comma
  | ':' => some .colon
  | _ => none

def long? (b : UInt8) (rest : Bytes) : Option (Token × Bytes) :=
  match Char.ofUInt8 b with
  | '"' => (pieces? rest).map fun (pieces, rest) => (.text (textOf pieces), rest)
  | 'n' => word? .null "ull" rest
  | 't' => word? (.bool true) "rue" rest
  | 'f' => word? (.bool false) "alse" rest
  | _ => (number? (b :: rest)).map fun (n, rest) => (.number n, rest)

def first? : Bytes → Option (Token × Bytes)
  | [] => none
  | b :: rest =>
    match mark? (Char.ofUInt8 b) with
    | some token => some (token, rest)
    | none => long? b rest

theorem digits_length (bytes : Bytes) : (digits bytes).2.length ≤ bytes.length :=
  (List.dropWhile_suffix isDigit).length_le

theorem digits_shorter {bytes : Bytes} (some_read : (digits bytes).1 ≠ []) :
    (digits bytes).2.length < bytes.length := by
  cases bytes with
  | nil => simp [digits] at some_read
  | cons b rest =>
    by_cases digit : isDigit b
    · have := (List.dropWhile_suffix (l := rest) isDigit).length_le
      simp [digits, digit]; omega
    · simp [digits, digit] at some_read

theorem pieces_shorter {bytes : Bytes} {pieces : List Piece} {rest : Bytes}
    (read : pieces? bytes = some (pieces, rest)) : rest.length < bytes.length := by
  fun_induction pieces? bytes generalizing pieces rest with
  | case1 => simp at read
  | case2 => simp at read; simp [read]
  | case3 a b c d tail ih =>
    simp only [bind, Option.bind_eq_some_iff, pure, Prod.exists] at read
    obtain ⟨u, _, ps, r, got, eq⟩ := read
    cases eq
    have := ih got
    simp; omega
  | case4 e tail _ ih =>
    simp only [bind, Option.bind_eq_some_iff, pure, Prod.exists] at read
    obtain ⟨u, _, ps, r, got, eq⟩ := read
    cases eq
    have := ih got
    simp; omega
  | case5 => simp at read
  | case6 b tail _ _ _ _ ih =>
    simp only [bind, Option.bind_eq_some_iff, pure, Prod.exists] at read
    obtain ⟨ps, r, got, eq⟩ := read
    cases eq
    have := ih got
    simp; omega

theorem fraction_length {bytes rest : Bytes} {ds : List Nat}
    (read : fraction? bytes = some (ds, rest)) : rest.length ≤ bytes.length := by
  unfold fraction? at read
  split at read
  · next tail =>
    have := digits_length tail
    simp only at read
    split at read
    · cases read
    · rw [Option.some.inj read] at this
      exact Nat.le_succ_of_le this
  · cases read; exact Nat.le_refl _

theorem unsigned_exponent_length {negative : Bool} {bytes rest : Bytes} {e : Option Int}
    (read : unsignedExponent? negative bytes = some (e, rest)) : rest.length ≤ bytes.length := by
  unfold unsignedExponent? at read
  have := digits_length bytes
  by_cases none_read : (digits bytes).1.isEmpty
  · simp [none_read] at read
  · simp only [none_read, Bool.false_eq_true, if_false] at read
    cases read
    exact this

theorem signed_exponent_length {bytes rest : Bytes} {e : Option Int}
    (read : signedExponent? bytes = some (e, rest)) : rest.length ≤ bytes.length := by
  unfold signedExponent? at read
  split at read <;> have := unsigned_exponent_length read <;> simp <;> omega

theorem exponent_length {bytes rest : Bytes} {e : Option Int}
    (read : exponent? bytes = some (e, rest)) : rest.length ≤ bytes.length := by
  unfold exponent? at read
  split at read
  · have := signed_exponent_length read; simp; omega
  · have := signed_exponent_length read; simp; omega
  · cases read; simp

theorem unsigned_shorter {negative : Bool} {bytes rest : Bytes} {n : Numeral}
    (read : unsigned? negative bytes = some (n, rest)) : rest.length < bytes.length := by
  unfold unsigned? at read
  simp only at read
  split at read
  · next whole =>
    simp only [bind, Option.bind_eq_some_iff, pure, Prod.exists] at read
    obtain ⟨_, r, fraction, _, r', exponent, eq⟩ := read
    cases eq
    have some_read : (digits bytes).1 ≠ [] := by
      intro none_read
      simp [none_read, isWhole] at whole
    have := digits_shorter some_read
    have := fraction_length fraction
    have := exponent_length exponent
    omega
  · cases read

theorem number_shorter {bytes rest : Bytes} {n : Numeral}
    (read : number? bytes = some (n, rest)) : rest.length < bytes.length := by
  unfold number? at read
  split at read <;> have := unsigned_shorter read <;> simp <;> omega

theorem word_length {token t : Token} {letters : String} {bytes rest : Bytes}
    (read : word? token letters bytes = some (t, rest)) : rest.length ≤ bytes.length := by
  rw [word?] at read
  split at read
  · cases read
    simp
  · cases read

theorem long_shorter {b : UInt8} {bytes rest : Bytes} {t : Token}
    (read : long? b bytes = some (t, rest)) : rest.length < (b :: bytes).length := by
  unfold long? at read
  split at read
  · simp only [Option.map_eq_some_iff, Prod.exists] at read
    obtain ⟨ps, r, found, eq⟩ := read
    cases eq
    have := pieces_shorter found
    simp only [List.length_cons]
    omega
  · exact Nat.lt_succ_of_le (word_length read)
  · exact Nat.lt_succ_of_le (word_length read)
  · exact Nat.lt_succ_of_le (word_length read)
  · simp only [Option.map_eq_some_iff, Prod.exists] at read
    obtain ⟨n, r, found, eq⟩ := read
    cases eq
    exact number_shorter found

theorem first_shorter {bytes rest : Bytes} {t : Token} (read : first? bytes = some (t, rest)) :
    rest.length < bytes.length := by
  cases bytes with
  | nil => cases read
  | cons b tail =>
    simp only [first?] at read
    split at read
    · cases read
      exact Nat.lt_succ_self _
    · exact long_shorter read

def all? (bytes : Bytes) : Option (List Token) :=
  match bytes with
  | [] => some []
  | b :: rest =>
    if isSpace b then all? rest
    else
      match _read : first? (b :: rest) with
      | none => none
      | some (token, rest') => (all? rest').map (token :: ·)
termination_by bytes.length
decreasing_by
  · simp
  · exact first_shorter _read

end Token

end LoginGateway.Json
