import LoginGateway.Text.Decimal

/-!
Decimal digits spell their number, start with a zero only where they are a zero, and read back from
their characters.
-/
set_option autoImplicit false

namespace LoginGateway.Text.Decimal

theorem digits_small (n : Nat) : ∀ d ∈ digits n, d < 10 := by
  fun_induction digits n with
  | case1 n least => simpa using least
  | case2 n _ ih =>
      intro d member
      rcases List.mem_append.mp member with front | last
      · exact ih d front
      · simp only [List.mem_singleton] at last
        omega

theorem digits_nonempty (n : Nat) : digits n ≠ [] := by
  rw [digits]
  split <;> simp

-- A number above zero starts with the digit that counts most, so a second digit never follows a zero.
theorem digits_head (n : Nat) (positive : 0 < n) : ∃ d ds, digits n = d :: ds ∧ d ≠ 0 := by
  fun_induction digits n with
  | case1 n least => exact ⟨n, [], rfl, by omega⟩
  | case2 n _ ih =>
      obtain ⟨d, ds, front, nonzero⟩ := ih (by omega)
      exact ⟨d, ds ++ [n % 10], by rw [front]; rfl, nonzero⟩

theorem value_append (front : List Nat) (d : Nat) : value (front ++ [d]) = value front * 10 + d := by
  simp [value]

theorem value_digits (n : Nat) : value (digits n) = n := by
  fun_induction digits n with
  | case1 n _ => simp [value]
  | case2 n _ ih => rw [value_append, ih]; omega

theorem text_digits (n : Nat) : ∀ c ∈ text n, ∃ d, d < 10 ∧ c = digitChar d := by
  intro c member
  obtain ⟨d, found, rfl⟩ := List.mem_map.mp member
  exact ⟨d, digits_small n d found, rfl⟩

theorem text_all (P : Char → Prop) (holds : ∀ d, d < 10 → P (digitChar d)) (n : Nat) :
    ∀ c ∈ text n, P c := by
  intro c member
  obtain ⟨d, small, rfl⟩ := text_digits n c member
  exact holds d small

theorem digit_of_char : ∀ d, d < 10 → digit? (digitChar d) = some d := by decide

theorem digit_eq_some_iff (c : Char) (d : Nat) : digit? c = some d ↔ d < 10 ∧ c = digitChar d := by
  constructor
  · intro read
    obtain ⟨⟨least, most⟩, same⟩ := Option.ite_none_right_eq_some.mp read
    have low : 0x30 ≤ c.toNat := least
    have high : c.toNat ≤ 0x39 := most
    cases same
    refine ⟨by omega, ?_⟩
    have number : 0x30 + (c.toNat - 0x30) % 10 = c.toNat := by omega
    rw [digitChar, number, Char.ofNat_toNat]
  · rintro ⟨small, rfl⟩
    exact digit_of_char d small

theorem read_digits (ds : List Nat) (given : ds ≠ []) (small : ∀ d ∈ ds, d < 10) :
    read? (ds.map digitChar) = some (value ds) := by
  have each : (ds.map digitChar).mapM digit? = some ds := by
    clear given
    induction ds with
    | nil => rfl
    | cons d ds ih =>
        have first := digit_of_char d (small d List.mem_cons_self)
        have others := ih fun e member => small e (List.mem_cons_of_mem d member)
        rw [List.map_cons, List.mapM_cons, first, others]
        rfl
  rw [read?, if_neg (by simpa using given), each]
  rfl

theorem digits_of_chars (cs : List Char) (ds : List Nat) (each : cs.mapM digit? = some ds) :
    cs = ds.map digitChar ∧ ∀ d ∈ ds, d < 10 := by
  induction cs generalizing ds with
  | nil => cases each; simp
  | cons c cs ih =>
      rw [List.mapM_cons] at each
      obtain ⟨d, first, each⟩ := Option.bind_eq_some_iff.mp each
      obtain ⟨others, later, same⟩ := Option.bind_eq_some_iff.mp each
      cases same
      obtain ⟨small, rfl⟩ := (digit_eq_some_iff c d).mp first
      obtain ⟨rfl, smallToo⟩ := ih others later
      exact ⟨rfl, List.forall_mem_cons.mpr ⟨small, smallToo⟩⟩

-- A number in digits, with or without zeros in front.
def Spelled (n : Nat) (cs : List Char) : Prop :=
  ∃ ds : List Nat, ds ≠ [] ∧ (∀ d ∈ ds, d < 10) ∧ cs = ds.map digitChar ∧ value ds = n

theorem read_iff (cs : List Char) (n : Nat) : read? cs = some n ↔ Spelled n cs := by
  constructor
  · intro read
    obtain ⟨given, read⟩ := Option.ite_none_left_eq_some.mp read
    obtain ⟨ds, each, rfl⟩ := Option.map_eq_some_iff.mp read
    obtain ⟨rfl, small⟩ := digits_of_chars cs ds each
    exact ⟨ds, by simpa using given, small, rfl, rfl⟩
  · rintro ⟨ds, given, small, rfl, rfl⟩
    exact read_digits ds given small

theorem word_of_word (n : UInt64) : word? n.toNat = some n := by
  have bound : n.toNat < wordLimit := n.toNat_lt
  rw [word?, if_pos bound, UInt64.ofNat_toNat]

theorem word_given_iff (n : Nat) : (∃ word, word? n = some word) ↔ n < wordLimit := by
  simp [word?]

theorem word_eq_some_iff (n : Nat) (word : UInt64) : word? n = some word ↔ n = word.toNat := by
  constructor
  · intro fits
    obtain ⟨bound, same⟩ := Option.ite_none_right_eq_some.mp fits
    cases same
    exact (UInt64.toNat_ofNat_of_lt' bound).symm
  · rintro rfl
    exact word_of_word word

theorem read_word_iff (cs : List Char) (word : UInt64) :
    readWord? cs = some word ↔ Spelled word.toNat cs ∨ ∃ digits, cs = '+' :: digits ∧ Spelled word.toNat digits := by
  have unsigned (digits : List Char) : (read? digits).bind word? = some word ↔ Spelled word.toNat digits := by
    simp only [Option.bind_eq_some_iff, word_eq_some_iff, read_iff, exists_eq_right]
  have plus (digits : List Char) : ¬ Spelled word.toNat ('+' :: digits) := by
    rw [← read_iff]
    simp [read?, digit?]
  unfold readWord?
  split
  · rename_i digits
    rw [unsigned]
    simp [plus]
  · rename_i unmarked
    rw [unsigned]
    constructor
    · exact Or.inl
    · rintro (spelled | ⟨digits, rfl, _⟩)
      · exact spelled
      · exact absurd rfl (unmarked digits)

theorem padded_all (P : Char → Prop) (holds : ∀ d, d < 10 → P (digitChar d)) (width n : Nat) :
    ∀ c ∈ padded width n, P c := by
  intro c member
  rcases List.mem_append.mp member with zero | digit
  · rw [List.eq_of_mem_replicate zero]
    exact holds 0 (by decide)
  · exact text_all P holds n c digit

theorem padded_one (n : Nat) (small : n < 10) : padded 1 n = [digitChar n] := by
  rw [padded, text, digits, if_pos small]
  rfl

theorem padded_step (width n : Nat) (room : 1 ≤ width) :
    padded (width + 1) n = padded width (n / 10) ++ [digitChar (n % 10)] := by
  by_cases small : n < 10
  · obtain ⟨others, rfl⟩ := Nat.exists_eq_add_of_le' room
    have zeros : List.replicate (others + 1) '0' = List.replicate others '0' ++ ['0'] := List.replicate_succ'
    rw [padded, padded, text, text, digits, if_pos small, Nat.div_eq_of_lt small, Nat.mod_eq_of_lt small, digits,
      if_pos (by decide)]
    exact congrArg (· ++ [digitChar n]) zeros
  · have front : text n = text (n / 10) ++ [digitChar (n % 10)] := by
      rw [text, digits, if_neg small, List.map_append]
      rfl
    rw [padded, padded, front, List.length_append, List.length_singleton, Nat.add_sub_add_right, List.append_assoc]

end LoginGateway.Text.Decimal
