import LoginGateway.Json.Basic
import LoginGateway.Proofs.Text.Decimal

/-!
The numerals of natural numbers: each gives back its number, and up to 64 bits each fits a double.
-/
set_option autoImplicit false

namespace LoginGateway.Json.Numeral

theorem natural_of_nat (n : Nat) : (ofNat n).natural? = some n := by
  simp [ofNat, natural?, Text.Decimal.value_digits]

theorem natural_iff (n : Numeral) (value : Nat) :
    n.natural? = some value ↔
      n.negative = false ∧ n.fraction = [] ∧ n.exponent = none ∧ Text.Decimal.value n.whole = value := by
  obtain ⟨negative, whole, fraction, exponent⟩ := n
  cases negative <;> cases fraction <;> cases exponent <;> simp [natural?]

theorem value_from_least (ds : List Nat) (n : Nat) : n ≤ ds.foldl (fun n d => n * 10 + d) n := by
  induction ds generalizing n with
  | nil => exact Nat.le_refl n
  | cons d ds ih =>
      have next := ih (n * 10 + d)
      simp only [List.foldl_cons]
      omega

theorem absorb_within (ds : List Nat) (n : Nat)
    (within : ds.foldl (fun n d => n * 10 + d) n < Text.Decimal.wordLimit) :
    absorb n ds = (ds.foldl (fun n d => n * 10 + d) n, 0) := by
  induction ds generalizing n with
  | nil => rfl
  | cons d ds ih =>
      have least := value_from_least ds (n * 10 + d)
      simp only [List.foldl_cons] at within ⊢
      rw [absorb, if_pos (by omega), ih _ within]

theorem scaled_of_nat (n : Nat) (word : n < Text.Decimal.wordLimit) : (ofNat n).scaled = (n, 0) := by
  have value : (Text.Decimal.digits n).foldl (fun n d => n * 10 + d) 0 = n :=
    Text.Decimal.value_digits n
  simp [ofNat, scaled, absorb_within _ _ (by rwa [value]), value, absorb]

theorem nearest_at_most (n : Nat) : nearest n ≤ 2 * n := by
  rw [nearest]
  split
  · omega
  · rename_i large
    have positive : n ≠ 0 := by
      intro zero
      exact large (by rw [zero]; decide)
    have unitBound : Nat.pow 2 (n.log2 - 52) ≤ n :=
      Nat.le_trans (Nat.pow_le_pow_right (by decide) (Nat.sub_le _ _)) (Nat.log2_self_le positive)
    have quotientBound : n / Nat.pow 2 (n.log2 - 52) * Nat.pow 2 (n.log2 - 52) ≤ n := Nat.div_mul_le_self _ _
    dsimp only
    split
    · rw [Nat.succ_mul]
      omega
    · omega

theorem word_fits_double (n : UInt64) : (ofNat n.toNat).fitsDouble := by
  have word : n.toNat < Text.Decimal.wordLimit := n.toNat_lt
  have rounded := nearest_at_most n.toNat
  have room : 2 * Text.Decimal.wordLimit * 2 ≤ overflow := by decide +kernel
  have product := Nat.mul_le_mul rounded (nearest_at_most 1)
  have fits : nearest n.toNat * nearest 1 < overflow := by omega
  rw [fitsDouble, scaled_of_nat _ word]
  simp [fits]

end LoginGateway.Json.Numeral
