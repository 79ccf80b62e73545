import LoginGateway.Proofs.Json.Numeral
import LoginGateway.Proofs.Json.Quoted

/-!
The tokens of a written document are those of its values in order, so that nothing in a text or a
number is ever taken for a mark.
-/
set_option autoImplicit false

namespace LoginGateway.Json

-- Strings that are text and numbers that are natural: what the library itself writes.
mutual
def isPlain : Json → Prop
  | .null => True
  | .bool _ => True
  | .number n => ∃ k, n = .ofNat k
  | .text s => s.isSome
  | .array items => itemsPlain items
  | .object members => membersPlain members
def itemsPlain : List Json → Prop
  | [] => True
  | item :: rest => isPlain item ∧ itemsPlain rest
def membersPlain : List (Option String × Json) → Prop
  | [] => True
  | (name, value) :: rest => name.isSome ∧ isPlain value ∧ membersPlain rest
end

mutual
def tokens : Json → List Token
  | .null => [.null]
  | .bool b => [.bool b]
  | .number n => [.number n]
  | .text s => [.text s]
  | .array items => .openArray :: (itemsTokens items ++ [.closeArray])
  | .object members => .openObject :: (membersTokens members ++ [.closeObject])
def itemsTokens : List Json → List Token
  | [] => []
  | [item] => tokens item
  | item :: rest => tokens item ++ .comma :: itemsTokens rest
def membersTokens : List (Option String × Json) → List Token
  | [] => []
  | [(name, value)] => .text name :: .colon :: tokens value
  | (name, value) :: rest => .text name :: .colon :: (tokens value ++ .comma :: membersTokens rest)
end

namespace Token

open Text

theorem all_cons (t : Token) (b : UInt8) (bytes rest : Bytes) (solid : isSpace b = false)
    (read : first? (b :: bytes) = some (t, rest)) : all? (b :: bytes) = (all? rest).map (t :: ·) := by
  rw [all?, solid]
  simp only [Bool.false_eq_true, if_false]
  split
  · rename_i absent
    cases absent.symm.trans read
  · rename_i token left found
    cases found.symm.trans read
    rfl

theorem all_mark (t : Token) (b : UInt8) (rest : Bytes) (solid : isSpace b = false)
    (mark : mark? (Char.ofUInt8 b) = some t) : all? (b :: rest) = (all? rest).map (t :: ·) :=
  all_cons t b rest rest solid (by simp [first?, mark])

theorem all_quoted (s : String) (rest : Bytes) :
    all? (Utf8.encode (quote s) ++ rest) = (all? rest).map (.text (some s) :: ·) := by
  obtain ⟨front, read, spelled⟩ := pieces_quoted s rest
  have bytes : Utf8.encode (quote s) ++ rest =
      0x22 :: (Utf8.encode (s.toList.flatMap escapeChar) ++ 0x22 :: rest) := by
    rw [quote, List.cons_append, Utf8.encode_cons, Utf8.encode_append, List.append_assoc, List.append_assoc]
    rfl
  have mark : mark? (Char.ofUInt8 0x22) = none := by decide
  rw [bytes]
  apply all_cons _ _ _ _ (by decide)
  simp only [first?, mark, long?]
  simp [show Char.ofUInt8 0x22 = '"' by decide, read, spelled]

-- What may follow a number: nothing that goes on with it.
def Ends (rest : Bytes) : Prop :=
  ∀ b ∈ rest.head?, isDigit b = false ∧ b ≠ 0x2E ∧ b ≠ 0x65 ∧ b ≠ 0x45

def digitByte (d : Nat) : UInt8 := UInt8.ofNat (Decimal.digitChar d).toNat

theorem digit_byte (d : Nat) (small : d < 10) : digit? (digitByte d) = some d := by
  have all : ∀ k, k < 10 → digit? (digitByte k) = some k := by decide
  exact all d small

theorem encode_digits (ds : List Nat) (small : ∀ d ∈ ds, d < 10) :
    Utf8.encode (ds.map Decimal.digitChar) = ds.map digitByte := by
  have ascii : ∀ k, k < 10 → (Decimal.digitChar k).toNat < 0x80 := by decide
  rw [Utf8.encode_ascii]
  · simp [digitByte, Function.comp_def]
  · intro c member
    obtain ⟨d, found, rfl⟩ := List.mem_map.mp member
    exact ascii d (small d found)

theorem digits_run (ds : List Nat) (rest : Bytes) (small : ∀ d ∈ ds, d < 10) (ends : Ends rest) :
    digits (ds.map digitByte ++ rest) = (ds, rest) := by
  have all : ∀ b ∈ ds.map digitByte, isDigit b = true := by
    intro b member
    obtain ⟨d, found, rfl⟩ := List.mem_map.mp member
    simp [isDigit, digit_byte d (small d found)]
  have stops : rest.takeWhile isDigit = [] ∧ rest.dropWhile isDigit = rest := by
    cases rest with
    | nil => simp
    | cons b rest => simp [(ends b rfl).1]
  have values : (ds.map digitByte).filterMap digit? = ds := by
    rw [List.filterMap_map]
    induction ds with
    | nil => rfl
    | cons d ds ih =>
        have first := digit_byte d (small d (by simp))
        rw [List.filterMap_cons_some (by simpa using first)]
        rw [ih (fun x member => small x (by simp [member])) (by simp_all)]
  rw [digits, List.takeWhile_append_of_pos all, List.dropWhile_append_of_pos all, stops.1, stops.2,
    List.append_nil, values]

theorem fraction_none (rest : Bytes) (ends : Ends rest) : fraction? rest = some ([], rest) := by
  unfold fraction?
  split
  · exact absurd rfl (ends _ rfl).2.1
  · rfl

theorem exponent_none (rest : Bytes) (ends : Ends rest) : exponent? rest = some (none, rest) := by
  unfold exponent?
  split
  · exact absurd rfl (ends _ rfl).2.2.1
  · exact absurd rfl (ends _ rfl).2.2.2
  · rfl

theorem whole_digits (n : Nat) : isWhole (Decimal.digits n) := by
  by_cases positive : 0 < n
  · obtain ⟨d, ds, digits, nonzero⟩ := Decimal.digits_head n positive
    rw [digits]
    cases ds with
    | nil => rfl
    | cons e ds => simp [isWhole, nonzero]
  · have zero : n = 0 := by omega
    subst zero
    simp [Decimal.digits, isWhole]

theorem unsigned_digits (n : Nat) (rest : Bytes) (ends : Ends rest) :
    unsigned? false ((Decimal.digits n).map digitByte ++ rest) = some (.ofNat n, rest) := by
  simp only [unsigned?, digits_run _ rest (Decimal.digits_small n) ends, whole_digits n, if_true]
  simp [fraction_none rest ends, exponent_none rest ends, Numeral.ofNat]

theorem digit_byte_first (d : Nat) (small : d < 10) :
    isSpace (digitByte d) = false ∧ mark? (Char.ofUInt8 (digitByte d)) = none ∧ digitByte d ≠ 0x2D ∧
      ∀ bytes, long? (digitByte d) bytes =
        (number? (digitByte d :: bytes)).map fun (n, rest) => (.number n, rest) := by
  have bytes : ∀ k, k < 10 → isSpace (digitByte k) = false ∧ mark? (Char.ofUInt8 (digitByte k)) = none ∧
      digitByte k ≠ 0x2D := by decide
  have letters : ∀ k, k < 10 → Char.ofUInt8 (digitByte k) ≠ '"' ∧ Char.ofUInt8 (digitByte k) ≠ 'n' ∧
      Char.ofUInt8 (digitByte k) ≠ 't' ∧ Char.ofUInt8 (digitByte k) ≠ 'f' := by decide
  obtain ⟨solid, unmarked, unsigned⟩ := bytes d small
  obtain ⟨quote, null, yes, no⟩ := letters d small
  refine ⟨solid, unmarked, unsigned, ?_⟩
  intro tail
  rw [long?]
  split
  · contradiction
  · contradiction
  · contradiction
  · contradiction
  · rfl

theorem all_number (n : Nat) (rest : Bytes) (ends : Ends rest) :
    all? (Utf8.encode (Numeral.ofNat n).text ++ rest) = (all? rest).map (.number (.ofNat n) :: ·) := by
  have text : (Numeral.ofNat n).text = (Decimal.digits n).map Decimal.digitChar := by
    simp [Numeral.ofNat, Numeral.text, Numeral.digitsText]
  have run := unsigned_digits n rest ends
  rw [text, encode_digits _ (Decimal.digits_small n)]
  cases spelled : Decimal.digits n with
  | nil => exact absurd spelled (Decimal.digits_nonempty n)
  | cons d ds =>
      rw [spelled, List.map_cons, List.cons_append] at run
      obtain ⟨solid, unmarked, unsigned, long⟩ := digit_byte_first d (Decimal.digits_small n d (by simp [spelled]))
      rw [List.map_cons, List.cons_append]
      apply all_cons _ _ _ _ solid
      simp only [first?, unmarked, long]
      rw [number?]
      · simp [run]
      · intro tail same
        exact unsigned (List.cons.inj same).1

theorem word_eq_some_iff (t read : Token) (letters : String) (bytes rest : Bytes) :
    word? t letters bytes = some (read, rest) ↔ t = read ∧ bytes = Text.utf8 letters ++ rest := by
  rw [word?]
  by_cases front : (Text.utf8 letters).isPrefixOf bytes
  · obtain ⟨others, rfl⟩ := List.isPrefixOf_iff_prefix.mp front
    simp [front]
  · have apart : bytes ≠ Text.utf8 letters ++ rest := by
      rintro rfl
      exact front (List.isPrefixOf_iff_prefix.mpr (List.prefix_append _ _))
    simp [front, apart]

theorem all_word (t : Token) (b : UInt8) (letters : String) (rest : Bytes) (solid : isSpace b = false)
    (unmarked : mark? (Char.ofUInt8 b) = none)
    (long : ∀ bytes, long? b bytes = word? t letters bytes) :
    all? (b :: (Text.utf8 letters ++ rest)) = (all? rest).map (t :: ·) := by
  apply all_cons _ _ _ _ solid
  have found := (word_eq_some_iff t t letters _ rest).mpr ⟨rfl, rfl⟩
  simp [first?, unmarked, long, found]

theorem ends_mark (b : UInt8) (rest : Bytes) (mark : b = 0x2C ∨ b = 0x5D ∨ b = 0x7D) : Ends (b :: rest) := by
  intro x member
  cases member
  rcases mark with rfl | rfl | rfl <;> decide

theorem all_comma (rest : Bytes) : all? (0x2C :: rest) = (all? rest).map (.comma :: ·) :=
  all_mark .comma 0x2C rest (by decide) (by decide)

theorem all_colon (rest : Bytes) : all? (0x3A :: rest) = (all? rest).map (.colon :: ·) :=
  all_mark .colon 0x3A rest (by decide) (by decide)

theorem encode_mark (c : Char) (b : UInt8) (cs : List Char) (spelled : String.utf8EncodeChar c = [b]) :
    Utf8.encode (c :: cs) = b :: Utf8.encode cs := by
  rw [Utf8.encode_cons, spelled]
  rfl

end Token

open Text Token

mutual
theorem all_write (j : Json) (plain : isPlain j) (rest : Bytes) (ends : Ends rest) :
    all? (Utf8.encode (write j) ++ rest) = (all? rest).map (tokens j ++ ·) := by
  match j with
  | .null => exact all_word .null 0x6E "ull" rest (by decide) (by decide) fun _ => rfl
  | .bool true => exact all_word (.bool true) 0x74 "rue" rest (by decide) (by decide) fun _ => rfl
  | .bool false => exact all_word (.bool false) 0x66 "alse" rest (by decide) (by decide) fun _ => rfl
  | .number n =>
      obtain ⟨k, rfl⟩ := plain
      exact all_number k rest ends
  | .text (some s) => exact all_quoted s rest
  | .array items =>
      have inner := all_items items plain (0x5D :: rest) (ends_mark _ _ (by simp))
      rw [write, List.cons_append, encode_mark '[' 0x5B _ (by decide), Utf8.encode_append,
        List.cons_append, List.append_assoc, all_mark .openArray _ _ (by decide) (by decide)]
      rw [show Utf8.encode [']'] = [0x5D] by decide, List.singleton_append, inner,
        all_mark .closeArray _ _ (by decide) (by decide)]
      simp [tokens, Function.comp_def]
  | .object members =>
      have inner := all_members members plain (0x7D :: rest) (ends_mark _ _ (by simp))
      rw [write, List.cons_append, encode_mark '\x7b' 0x7B _ (by decide), Utf8.encode_append,
        List.cons_append, List.append_assoc, all_mark .openObject _ _ (by decide) (by decide)]
      rw [show Utf8.encode ['\x7d'] = [0x7D] by decide, List.singleton_append, inner,
        all_mark .closeObject _ _ (by decide) (by decide)]
      simp [tokens, Function.comp_def]
theorem all_items (items : List Json) (plain : itemsPlain items) (rest : Bytes) (ends : Ends rest) :
    all? (Utf8.encode (writeItems items) ++ rest) = (all? rest).map (itemsTokens items ++ ·) := by
  match items with
  | [] => simp [writeItems, itemsTokens, Utf8.encode_nil]
  | [item] => exact all_write item plain.1 rest ends
  | item :: next :: more =>
      have others := all_items (next :: more) plain.2 rest ends
      rw [writeItems, Utf8.encode_append, encode_mark ',' 0x2C _ (by decide), List.append_assoc,
        List.cons_append, all_write item plain.1 _ (ends_mark _ _ (by simp)), all_comma, others]
      · simp [itemsTokens, Function.comp_def]
      · simp
theorem all_members (members : List (Option String × Json)) (plain : membersPlain members) (rest : Bytes)
    (ends : Ends rest) :
    all? (Utf8.encode (writeMembers members) ++ rest) = (all? rest).map (membersTokens members ++ ·) := by
  match members with
  | [] => simp [writeMembers, membersTokens, Utf8.encode_nil]
  | [(some name, value)] =>
      have last := all_write value plain.2.1 rest ends
      rw [writeMembers, Utf8.encode_append, encode_mark ':' 0x3A _ (by decide), List.append_assoc,
        List.cons_append, quoteText, Option.getD_some, all_quoted, all_colon, last]
      simp [membersTokens, Function.comp_def]
  | (some name, value) :: next :: more =>
      have others := all_members (next :: more) plain.2.2 rest ends
      rw [writeMembers, Utf8.encode_append, Utf8.encode_append, encode_mark ':' 0x3A _ (by decide),
        encode_mark ',' 0x2C _ (by decide), List.append_assoc, List.append_assoc, List.cons_append,
        List.cons_append, quoteText, Option.getD_some, all_quoted, all_colon,
        all_write value plain.2.1 _ (ends_mark _ _ (by simp)), all_comma, others]
      · simp [membersTokens, Function.comp_def]
      · simp
end

end LoginGateway.Json
