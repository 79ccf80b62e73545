import LoginGateway.Bytes.Base64
import LoginGateway.Proofs.Text.Utf8

/-!
Base64 reads back what it writes, over every alphabet that tells its symbols apart, and it reads
nothing else: every sequence of bytes has one spelling without padding and one with all of it.
-/
set_option autoImplicit false

namespace LoginGateway.Base64

def Alphabet.IsSound (a : Alphabet) : Prop := ∀ n, n < 64 → a.sextet? (a.symbol n) = some n

theorem url_safe_sound : Alphabet.urlSafe.IsSound := by
  rw [Alphabet.IsSound]
  decide

theorem standard_sound : Alphabet.standard.IsSound := by
  rw [Alphabet.IsSound]
  decide

theorem encode_symbols (a : Alphabet) (P : Char → Prop) (holds : ∀ n, n < 64 → P (a.symbol n))
    (bytes : Bytes) : ∀ c ∈ encode a bytes, P c := by
  fun_induction encode a bytes with
  | case1 => simp
  | case2 x =>
      have bound := x.toNat_lt
      simp only [List.mem_cons, List.not_mem_nil, or_false]
      rintro c (rfl | rfl)
      · exact holds _ (by omega)
      · exact holds _ (by omega)
  | case3 x y =>
      have boundX := x.toNat_lt
      have boundY := y.toNat_lt
      simp only [List.mem_cons, List.not_mem_nil, or_false]
      rintro c (rfl | rfl | rfl)
      · exact holds _ (by omega)
      · exact holds _ (by omega)
      · exact holds _ (by omega)
  | case4 x y z rest ih =>
      have boundX := x.toNat_lt
      have boundY := y.toNat_lt
      have boundZ := z.toNat_lt
      simp only [List.mem_cons]
      rintro c (rfl | rfl | rfl | rfl | member)
      · exact holds _ (by omega)
      · exact holds _ (by omega)
      · exact holds _ (by omega)
      · exact holds _ (by omega)
      · exact ih c member

theorem encode_length (a : Alphabet) (bytes : Bytes) : (encode a bytes).length = (bytes.length * 4 + 2) / 3 := by
  fun_induction encode a bytes with
  | case1 => rfl
  | case2 x => simp
  | case3 x y => simp
  | case4 x y z rest ih =>
      simp only [List.length_cons, ih]
      omega

theorem decode_symbols (a : Alphabet) (cs : List Char) (bytes : Bytes) (decoded : decode? a cs = some bytes) :
    ∀ c ∈ cs, (a.sextet? c).isSome := by
  fun_induction decode? a cs generalizing bytes with
  | case1 => simp
  | case2 => cases decoded
  | case3 c d =>
      obtain ⟨p, first, decoded⟩ := Option.bind_eq_some_iff.mp decoded
      obtain ⟨q, second, _⟩ := Option.bind_eq_some_iff.mp decoded
      simp [first, second]
  | case4 c d e =>
      obtain ⟨p, first, decoded⟩ := Option.bind_eq_some_iff.mp decoded
      obtain ⟨q, second, decoded⟩ := Option.bind_eq_some_iff.mp decoded
      obtain ⟨r, third, _⟩ := Option.bind_eq_some_iff.mp decoded
      simp [first, second, third]
  | case5 c d e f rest ih =>
      obtain ⟨p, first, decoded⟩ := Option.bind_eq_some_iff.mp decoded
      obtain ⟨q, second, decoded⟩ := Option.bind_eq_some_iff.mp decoded
      obtain ⟨r, third, decoded⟩ := Option.bind_eq_some_iff.mp decoded
      obtain ⟨s, fourth, decoded⟩ := Option.bind_eq_some_iff.mp decoded
      obtain ⟨others, tail, _⟩ := Option.bind_eq_some_iff.mp decoded
      simpa [first, second, third, fourth] using ih others tail

theorem byte_of_eq (b : UInt8) (n : Nat) (same : n = b.toNat) : UInt8.ofNat n = b := by
  rw [same, UInt8.ofNat_toNat]

theorem decode_encode (a : Alphabet) (sound : a.IsSound) (bytes : Bytes) :
    decode? a (encode a bytes) = some bytes := by
  fun_induction encode a bytes with
  | case1 => rfl
  | case2 x =>
      have bound := x.toNat_lt
      have first : UInt8.ofNat (x.toNat / 4 * 4 + x.toNat % 4 * 16 / 16) = x := byte_of_eq _ _ (by omega)
      have spare : x.toNat % 4 * 16 % 16 = 0 := by omega
      rw [decode?, sound _ (by omega), sound _ (by omega)]
      simp only [Option.bind_eq_bind, Option.bind_some, spare, first, if_true]
  | case3 x y =>
      have boundX := x.toNat_lt
      have boundY := y.toNat_lt
      have first : UInt8.ofNat (x.toNat / 4 * 4 + (x.toNat % 4 * 16 + y.toNat / 16) / 16) = x :=
        byte_of_eq _ _ (by omega)
      have second : UInt8.ofNat ((x.toNat % 4 * 16 + y.toNat / 16) % 16 * 16 + y.toNat % 16 * 4 / 4) = y :=
        byte_of_eq _ _ (by omega)
      have spare : y.toNat % 16 * 4 % 4 = 0 := by omega
      rw [decode?, sound _ (by omega), sound _ (by omega), sound _ (by omega)]
      simp only [Option.bind_eq_bind, Option.bind_some, spare, first, second, if_true]
  | case4 x y z rest ih =>
      have boundX := x.toNat_lt
      have boundY := y.toNat_lt
      have boundZ := z.toNat_lt
      have first : UInt8.ofNat (x.toNat / 4 * 4 + (x.toNat % 4 * 16 + y.toNat / 16) / 16) = x :=
        byte_of_eq _ _ (by omega)
      have second : UInt8.ofNat ((x.toNat % 4 * 16 + y.toNat / 16) % 16 * 16 +
          (y.toNat % 16 * 4 + z.toNat / 64) / 4) = y := byte_of_eq _ _ (by omega)
      have third : UInt8.ofNat ((y.toNat % 16 * 4 + z.toNat / 64) % 4 * 64 + z.toNat % 64) = z :=
        byte_of_eq _ _ (by omega)
      rw [decode?, sound _ (by omega), sound _ (by omega), sound _ (by omega), sound _ (by omega), ih]
      simp only [Option.bind_eq_bind, Option.bind_some, first, second, third, Option.pure_def]

theorem symbol_of_sextet (a : Alphabet) (c : Char) (n : Nat) (read : a.sextet? c = some n) :
    n < 64 ∧ a.symbol n = c := by
  have code (k : Nat) (same : k = c.toNat) : Char.ofNat k = c := by rw [same, Char.ofNat_toNat]
  rw [Alphabet.sextet?] at read
  rw [Alphabet.symbol]
  by_cases upper : 'A' ≤ c ∧ c ≤ 'Z'
  · rw [if_pos upper] at read
    have low : 0x41 ≤ c.toNat := upper.1
    have high : c.toNat ≤ 0x5A := upper.2
    cases read
    rw [if_pos (by omega)]
    exact ⟨by omega, code _ (by omega)⟩
  · by_cases lower : 'a' ≤ c ∧ c ≤ 'z'
    · rw [if_neg upper, if_pos lower] at read
      have low : 0x61 ≤ c.toNat := lower.1
      have high : c.toNat ≤ 0x7A := lower.2
      cases read
      rw [if_neg (by omega), if_pos (by omega)]
      exact ⟨by omega, code _ (by omega)⟩
    · by_cases digit : '0' ≤ c ∧ c ≤ '9'
      · rw [if_neg upper, if_neg lower, if_pos digit] at read
        have low : 0x30 ≤ c.toNat := digit.1
        have high : c.toNat ≤ 0x39 := digit.2
        cases read
        rw [if_neg (by omega), if_neg (by omega), if_pos (by omega)]
        exact ⟨by omega, code _ (by omega)⟩
      · rw [if_neg upper, if_neg lower, if_neg digit] at read
        by_cases first : c = a.symbol62
        · rw [if_pos first] at read
          cases read
          exact ⟨by decide, first.symm⟩
        · by_cases second : c = a.symbol63
          · rw [if_neg first, if_pos second] at read
            cases read
            exact ⟨by decide, second.symm⟩
          · rw [if_neg first, if_neg second] at read
            cases read

-- A spelling that is read has no spare bits, so the bytes that it stands for are spelled as it is.
theorem encode_of_decode (a : Alphabet) (cs : List Char) (bytes : Bytes) (decoded : decode? a cs = some bytes) :
    encode a bytes = cs := by
  fun_induction decode? a cs generalizing bytes with
  | case1 => cases decoded; rfl
  | case2 => cases decoded
  | case3 c d =>
      obtain ⟨p, first, decoded⟩ := Option.bind_eq_some_iff.mp decoded
      obtain ⟨q, second, spelled⟩ := Option.bind_eq_some_iff.mp decoded
      obtain ⟨boundP, symbolP⟩ := symbol_of_sextet a c p first
      obtain ⟨boundQ, symbolQ⟩ := symbol_of_sextet a d q second
      by_cases spare : q % 16 = 0
      · rw [if_pos spare] at spelled
        cases spelled
        have front : (p * 4 + q / 16) / 4 = p := by omega
        have back : (p * 4 + q / 16) % 4 * 16 = q := by omega
        rw [encode, Text.Utf8.byte_value _ (by omega), front, back, symbolP, symbolQ]
      · rw [if_neg spare] at spelled
        cases spelled
  | case4 c d e =>
      obtain ⟨p, first, decoded⟩ := Option.bind_eq_some_iff.mp decoded
      obtain ⟨q, second, decoded⟩ := Option.bind_eq_some_iff.mp decoded
      obtain ⟨r, third, spelled⟩ := Option.bind_eq_some_iff.mp decoded
      obtain ⟨boundP, symbolP⟩ := symbol_of_sextet a c p first
      obtain ⟨boundQ, symbolQ⟩ := symbol_of_sextet a d q second
      obtain ⟨boundR, symbolR⟩ := symbol_of_sextet a e r third
      by_cases spare : r % 4 = 0
      · rw [if_pos spare] at spelled
        cases spelled
        have front : (p * 4 + q / 16) / 4 = p := by omega
        have middle : (p * 4 + q / 16) % 4 * 16 + (q % 16 * 16 + r / 4) / 16 = q := by omega
        have back : (q % 16 * 16 + r / 4) % 16 * 4 = r := by omega
        rw [encode, Text.Utf8.byte_value _ (by omega), Text.Utf8.byte_value _ (by omega), front, middle, back, symbolP, symbolQ, symbolR]
      · rw [if_neg spare] at spelled
        cases spelled
  | case5 c d e f rest ih =>
      obtain ⟨p, first, decoded⟩ := Option.bind_eq_some_iff.mp decoded
      obtain ⟨q, second, decoded⟩ := Option.bind_eq_some_iff.mp decoded
      obtain ⟨r, third, decoded⟩ := Option.bind_eq_some_iff.mp decoded
      obtain ⟨s, fourth, decoded⟩ := Option.bind_eq_some_iff.mp decoded
      obtain ⟨others, tail, spelled⟩ := Option.bind_eq_some_iff.mp decoded
      obtain ⟨boundP, symbolP⟩ := symbol_of_sextet a c p first
      obtain ⟨boundQ, symbolQ⟩ := symbol_of_sextet a d q second
      obtain ⟨boundR, symbolR⟩ := symbol_of_sextet a e r third
      obtain ⟨boundS, symbolS⟩ := symbol_of_sextet a f s fourth
      cases spelled
      have front : (p * 4 + q / 16) / 4 = p := by omega
      have near : (p * 4 + q / 16) % 4 * 16 + (q % 16 * 16 + r / 4) / 16 = q := by omega
      have far : (q % 16 * 16 + r / 4) % 16 * 4 + (r % 4 * 64 + s) / 64 = r := by omega
      have back : (r % 4 * 64 + s) % 64 = s := by omega
      rw [encode, Text.Utf8.byte_value _ (by omega), Text.Utf8.byte_value _ (by omega), Text.Utf8.byte_value _ (by omega), ih others tail, front,
        near, far, back, symbolP, symbolQ, symbolR, symbolS]

theorem decode_eq_some_iff (a : Alphabet) (sound : a.IsSound) (cs : List Char) (bytes : Bytes) :
    decode? a cs = some bytes ↔ cs = encode a bytes := by
  constructor
  · intro decoded
    exact (encode_of_decode a cs bytes decoded).symm
  · rintro rfl
    exact decode_encode a sound bytes

theorem drop_pad_append (cs : List Char) : dropPad (cs ++ ['=']) = cs := by simp [dropPad]

theorem drop_pad_clear (cs : List Char) (clear : '=' ∉ cs) : dropPad cs = cs := by
  rw [dropPad, if_neg]
  intro last
  exact clear (List.mem_of_getLast? last)

theorem drop_pad_pads (cs : List Char) : ∃ pads ≤ 1, dropPad cs ++ List.replicate pads '=' = cs := by
  rw [dropPad]
  by_cases padded : cs.getLast? = some '='
  · obtain ⟨front, rfl⟩ := List.getLast?_eq_some_iff.mp padded
    exact ⟨1, by decide, by simp⟩
  · exact ⟨0, by decide, by simp [padded]⟩

variable (a : Alphabet) (sound : a.IsSound) (unpadded : a.sextet? '=' = none)

include sound unpadded in
theorem encode_unpadded (bytes : Bytes) : '=' ∉ encode a bytes := by
  intro member
  refine encode_symbols a (· ≠ '=') ?_ bytes '=' member rfl
  intro n small same
  have read := sound n small
  rw [same, unpadded] at read
  cases read

theorem encode_remainder (bytes : Bytes) : (encode a bytes).length % 4 ≠ 1 := by
  rw [encode_length]
  omega

include sound unpadded in
theorem drop_pads_encoded (bytes : Bytes) : dropPad (dropPad (encodePadded a bytes)) = encode a bytes := by
  have clear := encode_unpadded a sound unpadded bytes
  have remainder := encode_remainder a bytes
  have few : padding (encode a bytes).length ≤ 2 := by
    rw [padding]
    omega
  rw [encodePadded]
  generalize padding (encode a bytes).length = pads at few
  match pads, few with
  | 0, _ => rw [List.replicate_zero, List.append_nil, drop_pad_clear _ clear, drop_pad_clear _ clear]
  | 1, _ => rw [List.replicate_one, drop_pad_append, drop_pad_clear _ clear]
  | 2, _ =>
      have pads : List.replicate 2 '=' = ['='] ++ ['='] := rfl
      rw [pads, ← List.append_assoc, drop_pad_append, drop_pad_append]

theorem encode_padded_symbols (P : Char → Prop) (holds : ∀ n, n < 64 → P (a.symbol n)) (pad : P '=') (bytes : Bytes) :
    ∀ c ∈ encodePadded a bytes, P c := by
  intro c member
  rcases List.mem_append.mp member with symbol | filling
  · exact encode_symbols a P holds bytes c symbol
  · rw [List.eq_of_mem_replicate filling]
    exact pad

theorem padded_length (bytes : Bytes) : (encodePadded a bytes).length % 4 = 0 := by
  rw [encodePadded, List.length_append, List.length_replicate, padding]
  omega

-- At most two signs are taken off, and of so few only one number fills up a text to a multiple of four.
theorem padded_of_drop_pads (cs : List Char) (bytes : Bytes) (whole : cs.length % 4 = 0)
    (core : dropPad (dropPad cs) = encode a bytes) : cs = encodePadded a bytes := by
  have remainder := encode_remainder a bytes
  obtain ⟨last, lastFew, outer⟩ := drop_pad_pads cs
  obtain ⟨before, beforeFew, inner⟩ := drop_pad_pads (dropPad cs)
  have spelled : cs = encode a bytes ++ List.replicate (before + last) '=' := by
    rw [← List.replicate_append_replicate, ← List.append_assoc, ← core, inner, outer]
  have filled : before + last = padding (encode a bytes).length := by
    rw [spelled, List.length_append, List.length_replicate] at whole
    rw [padding]
    omega
  rw [spelled, filled, encodePadded]

include sound unpadded

theorem decode_padded_iff (cs : List Char) (bytes : Bytes) :
    decodePadded? a cs = some bytes ↔ cs = encodePadded a bytes := by
  rw [decodePadded?]
  constructor
  · intro decoded
    by_cases whole : cs.length % 4 = 0
    · rw [if_pos whole, decode_eq_some_iff a sound] at decoded
      exact padded_of_drop_pads a cs bytes whole decoded
    · rw [if_neg whole] at decoded
      cases decoded
  · rintro rfl
    rw [if_pos (padded_length a bytes), drop_pads_encoded a sound unpadded, decode_encode a sound]

theorem decode_either_iff (cs : List Char) (bytes : Bytes) :
    decodeEither? a cs = some bytes ↔ cs = encode a bytes ∨ cs = encodePadded a bytes := by
  rw [decodeEither?, Option.or_eq_some_iff, decode_padded_iff a sound unpadded, decode_eq_some_iff a sound]
  constructor
  · intro decoded
    rcases decoded with padded | ⟨_, plain⟩
    · exact .inr padded
    · exact .inl plain
  · intro spelled
    rcases spelled with plain | padded
    · cases other : decodePadded? a cs with
      | none => exact .inr ⟨rfl, plain⟩
      | some found =>
          rw [decode_padded_iff a sound unpadded] at other
          have core := drop_pads_encoded a sound unpadded found
          have clear := encode_unpadded a sound unpadded bytes
          rw [← other, plain, drop_pad_clear _ clear, drop_pad_clear _ clear] at core
          have same : some bytes = some found := by
            rw [← decode_encode a sound, core, decode_encode a sound]
          rw [Option.some.inj same]
          exact .inl other
    · exact .inl padded

end LoginGateway.Base64
