import LoginGateway.Web.Percent
import LoginGateway.Proofs.Text.Utf8

/-!
Percent escapes give back the bytes that were escaped, and no other byte is touched.
-/
set_option autoImplicit false

namespace LoginGateway.Percent

theorem upper_digit_value : ∀ n, n < 16 → Hex.digit? (Hex.upperDigit n) = some n := by decide

theorem upper_digit_byte : ∀ n, n < 16 → (Hex.upperDigit n).toNat < 0x80 ∧
    Char.ofUInt8 (UInt8.ofNat (Hex.upperDigit n).toNat) = Hex.upperDigit n := by decide

theorem pair_upper_digits (b : UInt8) :
    Hex.pair? (Hex.upperDigit (b.toNat / 16)) (Hex.upperDigit (b.toNat % 16)) = some b := by
  have bound := b.toNat_lt
  have whole : UInt8.ofNat (b.toNat / 16 * 16 + b.toNat % 16) = b := by
    rw [Nat.div_add_mod' b.toNat 16, UInt8.ofNat_toNat]
  rw [Hex.pair?, upper_digit_value _ (by omega), upper_digit_value _ (by omega)]
  simp only [Option.bind_eq_bind, Option.bind_some, Option.pure_def, whole]

theorem escape_byte_ascii (b : UInt8) : ∀ c ∈ escapeByte b, c.toNat < 0x80 := by
  have bound := b.toNat_lt
  simp only [escapeByte, List.mem_cons, List.not_mem_nil, or_false]
  rintro c (rfl | rfl | rfl)
  · decide
  · exact (upper_digit_byte _ (by omega)).1
  · exact (upper_digit_byte _ (by omega)).1

theorem decode_plain (b : UInt8) (rest : Bytes) (plain : b ≠ 0x25) : decode (b :: rest) = b :: decode rest := by
  rw [decode.eq_def]
  split
  · rename_i empty
    cases empty
  · rename_i high low others same
    cases same
    exact absurd rfl plain
  · rename_i other others _ same
    cases same
    rfl

theorem decode_pair (high low b : UInt8) (rest : Bytes) (read : pair? high low = some b) :
    decode (0x25 :: high :: low :: rest) = b :: decode rest := by
  rw [decode, read]

theorem decode_escape_byte (b : UInt8) (rest : Bytes) :
    decode (Text.Utf8.encode (escapeByte b) ++ rest) = b :: decode rest := by
  have bound := b.toNat_lt
  have high := (upper_digit_byte (b.toNat / 16) (by omega)).2
  have low := (upper_digit_byte (b.toNat % 16) (by omega)).2
  rw [Text.Utf8.encode_ascii _ (escape_byte_ascii b)]
  exact decode_pair _ _ b rest (by rw [pair?, high, low, pair_upper_digits])

theorem decode_escape_bytes (bytes rest : Bytes) :
    decode (Text.Utf8.encode (bytes.flatMap escapeByte) ++ rest) = bytes ++ decode rest := by
  induction bytes with
  | nil => rfl
  | cons b bytes ih =>
      rw [List.flatMap_cons, Text.Utf8.encode_append, List.append_assoc, decode_escape_byte, ih, List.cons_append]

theorem decode_escape (c : Char) (rest : Bytes) :
    decode (Text.Utf8.encode (escape c) ++ rest) = String.utf8EncodeChar c ++ decode rest :=
  decode_escape_bytes (String.utf8EncodeChar c) rest

theorem escape_all (P : Char → Prop) (percent : P '%') (digit : ∀ n, n < 16 → P (Hex.upperDigit n)) (c : Char) :
    ∀ d ∈ escape c, P d := by
  intro d member
  obtain ⟨b, _, among⟩ := List.mem_flatMap.mp member
  have bound := b.toNat_lt
  simp only [escapeByte, List.mem_cons, List.not_mem_nil, or_false] at among
  rcases among with rfl | rfl | rfl
  · exact percent
  · exact digit _ (by omega)
  · exact digit _ (by omega)

theorem encode_all (isKept : Char → Bool) (P : Char → Prop) (percent : P '%')
    (digit : ∀ n, n < 16 → P (Hex.upperDigit n)) (cs : List Char) (kept : ∀ c ∈ cs, isKept c → P c) :
    ∀ d ∈ encode isKept cs, P d := by
  intro d member
  obtain ⟨c, inside, among⟩ := List.mem_flatMap.mp member
  by_cases plain : isKept c
  · rw [if_pos plain] at among
    cases List.mem_singleton.mp among
    exact kept d inside plain
  · rw [if_neg plain] at among
    exact escape_all P percent digit c d among

end LoginGateway.Percent
