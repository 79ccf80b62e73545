import LoginGateway.Proofs.Error
import LoginGateway.Proofs.Bytes.Base64
import LoginGateway.Proofs.Bytes.Hex
import LoginGateway.Secret.Basic

/-!
Which texts stand for a key: those that writing it down produces, and none besides. Every key can be written down in
each of the marked spellings.
-/
set_option autoImplicit false

namespace LoginGateway.Secret

def Written (key : Bytes) (cs : List Char) : Spelling → Prop
  | .hex => cs.map Char.toLower = Hex.encode key
  | .base64 => cs = Base64.encode .standard key ∨ cs = Base64.encodePadded .standard key
  | .base64Url => cs = Base64.encode .urlSafe key ∨ cs = Base64.encodePadded .urlSafe key

-- The texts that stand for a key: its digits in either case, its base64 with all of the padding or with none, and a text
-- without any mark that has the key's bytes.
inductive Spells (key : Bytes) : List Char → Prop where
  | hex (digits : List Char) (written : digits.map Char.toLower = Hex.encode key) :
      Spells key ("hex:".toList ++ digits)
  | base64 (symbols : List Char)
      (written : symbols = Base64.encode .standard key ∨ symbols = Base64.encodePadded .standard key) :
      Spells key ("base64:".toList ++ symbols)
  | base64Url (symbols : List Char)
      (written : symbols = Base64.encode .urlSafe key ∨ symbols = Base64.encodePadded .urlSafe key) :
      Spells key ("base64url:".toList ++ symbols)
  | plain (text : List Char) (unmarked : ∀ mark ∈ ["hex:", "base64:", "base64url:"], ¬ mark.toList <+: text)
      (written : Text.Utf8.encode text = key) : Spells key text

theorem marked_iff (cs rest : List Char) (spelling : Spelling) :
    marked? cs = some (spelling, rest) ↔ cs = mark spelling ++ rest := by
  constructor
  · intro found
    obtain ⟨other, _, after⟩ := List.exists_of_findSome?_eq_some found
    obtain ⟨left, here, same⟩ := Option.map_eq_some_iff.mp after
    cases same
    exact (List.append_eq_of_isPrefixOf?_eq_some here).symm
  · rintro rfl
    cases spelling <;> rfl

theorem unmarked_iff (cs : List Char) :
    marked? cs = none ↔ ∀ mark ∈ ["hex:", "base64:", "base64url:"], ¬ mark.toList <+: cs := by
  constructor
  · intro missing
    have apart (spelling : Spelling) : ¬ mark spelling <+: cs := by
      rintro ⟨rest, whole⟩
      rw [(marked_iff cs rest spelling).mpr whole.symm] at missing
      cases missing
    simp only [List.forall_mem_cons]
    exact ⟨apart .hex, apart .base64, apart .base64Url, by simp⟩
  · intro apart
    cases found : marked? cs with
    | none => rfl
    | some parts =>
        obtain ⟨spelling, rest⟩ := parts
        have front : mark spelling <+: cs := ⟨rest, ((marked_iff cs rest spelling).mp found).symm⟩
        cases spelling with
        | hex => exact absurd front (apart "hex:" (by simp))
        | base64 => exact absurd front (apart "base64:" (by simp))
        | base64Url => exact absurd front (apart "base64url:" (by simp))

theorem spelled_iff (key : Bytes) (cs : List Char) (spelling : Spelling) :
    spelled? spelling cs = some key ↔ Written key cs spelling := by
  cases spelling with
  | hex => exact Hex.decode_eq_some_iff cs key
  | base64 => exact Base64.decode_either_iff .standard Base64.standard_sound (by decide) cs key
  | base64Url => exact Base64.decode_either_iff .urlSafe Base64.url_safe_sound (by decide) cs key

theorem bytes_marked (key : Bytes) (cs : List Char) (spelling : Spelling) :
    bytes (mark spelling ++ cs) = .ok key ↔ Written key cs spelling := by
  rw [bytes, (marked_iff _ cs spelling).mpr rfl]
  dsimp only
  rw [← spelled_iff]
  cases spelled? spelling cs <;> simp

theorem bytes_unmarked (key : Bytes) (cs : List Char) (unmarked : marked? cs = none) :
    bytes cs = .ok key ↔ Text.Utf8.encode cs = key := by
  rw [bytes, unmarked]
  simp

theorem bytes_ok_iff (key : Bytes) (cs : List Char) : bytes cs = .ok key ↔ Spells key cs := by
  constructor
  · intro read
    cases found : marked? cs with
    | none => exact .plain cs ((unmarked_iff cs).mp found) ((bytes_unmarked key cs found).mp read)
    | some parts =>
        obtain ⟨spelling, rest⟩ := parts
        obtain rfl := (marked_iff cs rest spelling).mp found
        have written := (bytes_marked key rest spelling).mp read
        cases spelling with
        | hex => exact .hex rest written
        | base64 => exact .base64 rest written
        | base64Url => exact .base64Url rest written
  · intro spells
    cases spells with
    | hex digits written => exact (bytes_marked key digits .hex).mpr written
    | base64 symbols written => exact (bytes_marked key symbols .base64).mpr written
    | base64Url symbols written => exact (bytes_marked key symbols .base64Url).mpr written
    | plain text unmarked written => exact (bytes_unmarked key cs ((unmarked_iff cs).mpr unmarked)).mpr written

theorem bytes_error (cs : List Char) (e : Error) (refused : bytes cs = .error e) :
    ∃ spelling, e = .config (.malformedSecret spelling) := by
  rw [bytes] at refused
  split at refused
  · cases refused
  · rename_i spelling rest _
    cases spelled : spelled? spelling rest with
    | some key => rw [spelled] at refused; cases refused
    | none => rw [spelled] at refused; cases refused; exact ⟨spelling, rfl⟩

theorem decode_ok_iff (secret : String) (key : Bytes) :
    decode secret = .ok key ↔ key ≠ [] ∧ Spells key (Text.trim secret.toList) := by
  rw [← bytes_ok_iff]
  constructor
  · intro decoded
    obtain ⟨found, read, kept⟩ := bind_ok _ _ _ decoded
    by_cases empty : found.isEmpty
    · rw [if_pos empty] at kept
      cases kept
    · rw [if_neg empty] at kept
      cases kept
      exact ⟨by simpa using empty, read⟩
  · intro spelled
    obtain ⟨filled, read⟩ := spelled
    rw [decode, read]
    exact if_neg (by simpa using filled)

theorem decode_error (secret : String) (e : Error) (refused : decode secret = .error e) :
    ∃ problem, e = .config problem := by
  rw [decode] at refused
  cases read : bytes (Text.trim secret.toList) with
  | error cause =>
      obtain ⟨spelling, rfl⟩ := bytes_error _ _ read
      rw [read] at refused
      cases refused
      exact ⟨_, rfl⟩
  | ok found =>
      rw [read] at refused
      cases found with
      | nil => cases refused; exact ⟨_, rfl⟩
      | cons b rest => cases refused

def spellings (key : Bytes) : List (List Char) :=
  ["hex:".toList ++ Hex.encode key,
    "base64:".toList ++ Base64.encode .standard key, "base64:".toList ++ Base64.encodePadded .standard key,
    "base64url:".toList ++ Base64.encode .urlSafe key, "base64url:".toList ++ Base64.encodePadded .urlSafe key]

theorem spellings_spell (key : Bytes) : ∀ text ∈ spellings key, Spells key text := by
  simp only [spellings, List.forall_mem_cons]
  exact ⟨.hex _ (Hex.encode_lower key), .base64 _ (.inl rfl), .base64 _ (.inr rfl), .base64Url _ (.inl rfl),
    .base64Url _ (.inr rfl), by simp⟩

def IsFilled (a : Base64.Alphabet) : Prop := ∀ n, n < 64 → Text.isBlank (a.symbol n) = false

theorem standard_filled : IsFilled .standard := by
  unfold IsFilled
  decide +kernel

theorem url_safe_filled : IsFilled .urlSafe := by
  unfold IsFilled
  decide +kernel

theorem spellings_filled (key : Bytes) : ∀ text ∈ spellings key, ∀ c ∈ text, Text.isBlank c = false := by
  have digits := Hex.encode_digits (Text.isBlank · = false) (by decide) key
  have plain (a : Base64.Alphabet) (filled : IsFilled a) :=
    Base64.encode_symbols a (Text.isBlank · = false) filled key
  have padded (a : Base64.Alphabet) (filled : IsFilled a) :=
    Base64.encode_padded_symbols a (Text.isBlank · = false) filled (by decide) key
  simp only [spellings, List.forall_mem_cons, List.forall_mem_append]
  have hex : ∀ c ∈ "hex:".toList, Text.isBlank c = false := by simp [Text.isBlank]
  have base64 : ∀ c ∈ "base64:".toList, Text.isBlank c = false := by simp [Text.isBlank]
  have base64Url : ∀ c ∈ "base64url:".toList, Text.isBlank c = false := by simp [Text.isBlank]
  exact ⟨⟨hex, digits⟩, ⟨base64, plain _ standard_filled⟩, ⟨base64, padded _ standard_filled⟩,
    ⟨base64Url, plain _ url_safe_filled⟩, ⟨base64Url, padded _ url_safe_filled⟩, by simp⟩

theorem decode_exactly_spelled :
    (∀ secret key, decode secret = .ok key ↔ key ≠ [] ∧ Spells key (Text.trim secret.toList)) ∧
    (∀ secret, (∀ key, key ≠ [] → ¬ Spells key (Text.trim secret.toList)) →
      ∃ problem, decode secret = .error (.config problem)) ∧
    ∀ key, key ≠ [] → ∀ text ∈ spellings key, decode (String.ofList text) = .ok key := by
  refine ⟨decode_ok_iff, ?_, ?_⟩
  · intro secret unspelled
    cases decoded : decode secret with
    | ok key =>
        obtain ⟨filled, spelled⟩ := (decode_ok_iff secret key).mp decoded
        exact absurd spelled (unspelled key filled)
    | error e =>
        obtain ⟨problem, rfl⟩ := decode_error secret e decoded
        exact ⟨problem, rfl⟩
  · intro key filled text written
    have whole : Text.trim text = text := Text.strip_kept Text.isBlank text (spellings_filled key text written)
    rw [decode_ok_iff, String.toList_ofList, whole]
    exact ⟨filled, spellings_spell key text written⟩

theorem decode_exactly_spelled_in_blanks :
    ([0xFB, 0xEF] : Bytes) ≠ [] ∧ Spells [0xFB, 0xEF] (Text.trim "\tbase64url:--8=\u2003".toList) ∧
      decode "\tbase64url:--8=\u2003" = .ok [0xFB, 0xEF] := by
  have filled : ([0xFB, 0xEF] : Bytes) ≠ [] := by decide
  have spelled : Spells [0xFB, 0xEF] (Text.trim "\tbase64url:--8=\u2003".toList) := by
    have trimmed : Text.trim "\tbase64url:--8=\u2003".toList = "base64url:".toList ++ "--8=".toList := by decide
    rw [trimmed]
    exact .base64Url _ (.inr (by decide))
  exact ⟨filled, spelled, (decode_exactly_spelled.1 _ _).mpr ⟨filled, spelled⟩⟩

end LoginGateway.Secret
