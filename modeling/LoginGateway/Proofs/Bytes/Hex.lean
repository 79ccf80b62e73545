import LoginGateway.Bytes.Hex
import LoginGateway.Proofs.Text.Blank

/-!
What is read as hexadecimal is what is written so, in letters of either case.
-/
set_option autoImplicit false

namespace LoginGateway.Hex

theorem digit_of_char : ∀ n, n < 16 → digit? (digitChar n) = some n := by decide

theorem digit_ascii (c : Char) (n : Nat) (read : digit? c = some n) : c.toNat < 0x80 := by
  rw [digit?] at read
  by_cases decimal : '0' ≤ c ∧ c ≤ '9'
  · have most : c.toNat ≤ 0x39 := decimal.2
    omega
  · by_cases lower : 'a' ≤ c ∧ c ≤ 'f'
    · have most : c.toNat ≤ 0x66 := lower.2
      omega
    · by_cases upper : 'A' ≤ c ∧ c ≤ 'F'
      · have most : c.toNat ≤ 0x46 := upper.2
        omega
      · rw [if_neg decimal, if_neg lower, if_neg upper] at read
        cases read

theorem digit_lower (c : Char) : digit? c.toLower = digit? c := by
  by_cases ascii : c.toNat < 0x80
  · exact Text.ascii_all (fun c => digit? c.toLower = digit? c) (by decide) c ascii
  · have same : c.toLower = c := by
      delta Char.toLower
      split
      · rename_i upper
        have most : c.toNat ≤ 0x5A := upper.2
        omega
      · rfl
    rw [same]

theorem digit_eq_some_iff (c : Char) (n : Nat) : digit? c = some n ↔ n < 16 ∧ c.toLower = digitChar n := by
  constructor
  · intro read
    have spelled : ∀ m, m < 0x80 → ∀ n ∈ digit? (Char.ofNat m), n < 16 ∧ (Char.ofNat m).toLower = digitChar n := by decide
    exact Text.ascii_all (fun c => ∀ n ∈ digit? c, n < 16 ∧ c.toLower = digitChar n) spelled c (digit_ascii c n read) n read
  · intro written
    obtain ⟨small, lower⟩ := written
    rw [← digit_lower, lower, digit_of_char n small]

theorem pair_eq_some_iff (high low : Char) (b : UInt8) :
    pair? high low = some b ↔ high.toLower = digitChar (b.toNat / 16) ∧ low.toLower = digitChar (b.toNat % 16) := by
  have bound := b.toNat_lt
  simp only [pair?, Option.bind_eq_bind, Option.bind_eq_some_iff, digit_eq_some_iff, Option.pure_def, Option.some.injEq]
  constructor
  · intro read
    obtain ⟨h, ⟨smallH, spelledH⟩, l, ⟨smallL, spelledL⟩, rfl⟩ := read
    have value : (UInt8.ofNat (h * 16 + l)).toNat = h * 16 + l := UInt8.toNat_ofNat_of_lt' (show _ < 256 by omega)
    rw [value, show (h * 16 + l) / 16 = h by omega, show (h * 16 + l) % 16 = l by omega]
    exact ⟨spelledH, spelledL⟩
  · intro written
    obtain ⟨spelledH, spelledL⟩ := written
    refine ⟨b.toNat / 16, ⟨by omega, spelledH⟩, b.toNat % 16, ⟨by omega, spelledL⟩, ?_⟩
    rw [show b.toNat / 16 * 16 + b.toNat % 16 = b.toNat by omega, UInt8.ofNat_toNat]

theorem encode_nil : encode [] = [] := rfl

theorem encode_cons (b : UInt8) (bytes : Bytes) :
    encode (b :: bytes) = digitChar (b.toNat / 16) :: digitChar (b.toNat % 16) :: encode bytes := rfl

theorem decode_eq_some_iff (cs : List Char) (bytes : Bytes) :
    decode? cs = some bytes ↔ cs.map Char.toLower = encode bytes := by
  fun_induction decode? cs generalizing bytes with
  | case1 => cases bytes <;> simp [encode_nil, encode_cons]
  | case2 c => cases bytes <;> simp [encode_nil, encode_cons]
  | case3 high low rest ih =>
      cases bytes with
      | nil => simp [Option.bind_eq_some_iff, encode_nil]
      | cons b bytes =>
          simp only [Option.bind_eq_bind, Option.bind_eq_some_iff, pair_eq_some_iff, ih, Option.pure_def, Option.some.injEq,
            List.map_cons, encode_cons, List.cons.injEq]
          constructor
          · intro read
            obtain ⟨_, ⟨spelledH, spelledL⟩, _, others, rfl, rfl⟩ := read
            exact ⟨spelledH, spelledL, others⟩
          · intro written
            obtain ⟨spelledH, spelledL, others⟩ := written
            exact ⟨b, ⟨spelledH, spelledL⟩, bytes, others, rfl, rfl⟩

theorem encode_digits (P : Char → Prop) (holds : ∀ n, n < 16 → P (digitChar n)) (bytes : Bytes) :
    ∀ c ∈ encode bytes, P c := by
  intro c member
  obtain ⟨b, _, digit⟩ := List.mem_flatMap.mp member
  have bound := b.toNat_lt
  simp only [encodeByte, List.mem_cons, List.not_mem_nil, or_false] at digit
  rcases digit with rfl | rfl
  · exact holds _ (by omega)
  · exact holds _ (by omega)

theorem encode_lower (bytes : Bytes) : (encode bytes).map Char.toLower = encode bytes := by
  have lower : ∀ c ∈ encode bytes, c.toLower = id c := encode_digits (fun c => c.toLower = id c) (by decide) bytes
  rw [List.map_congr_left lower, List.map_id]

end LoginGateway.Hex
