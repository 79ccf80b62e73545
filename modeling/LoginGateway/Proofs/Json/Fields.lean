import LoginGateway.Json.Fields
import LoginGateway.Proofs.Json.RoundTrip

/-!
Records written as objects: what their members are decides whether the whole can be read, and a
field gives back the value that was written under its name.
-/
set_option autoImplicit false

namespace LoginGateway.Json

theorem plain_word (n : UInt64) : isPlain (.word n) := ⟨n.toNat, rfl⟩

theorem sound_word (n : UInt64) : isSound (.word n) := Numeral.word_fits_double n

theorem word_of_word (n : UInt64) : word? (.word n) = some n := by
  simp [word, nat, word?, Numeral.natural_of_nat, Text.Decimal.word_of_word]

theorem plain_texts (texts : List String) : isPlain (.array (texts.map str)) := by
  simp only [isPlain]
  induction texts with
  | nil => trivial
  | cons s texts ih => exact ⟨rfl, ih⟩

theorem sound_texts (texts : List String) : isSound (.array (texts.map str)) := by
  simp only [isSound]
  induction texts with
  | nil => rfl
  | cons s texts ih => simpa [itemsSound, str, isSound] using ih

theorem texts_depth (texts : List String) : depth (.array (texts.map str)) = 1 := by
  have flat : itemsDepth (texts.map str) = 0 := by
    induction texts with
    | nil => rfl
    | cons s texts ih => simpa [itemsDepth, str, depth] using ih
  rw [depth, flat]

theorem list_texts (texts : List String) : list? text? (.array (texts.map str)) = some texts := by
  simp only [list?]
  induction texts with
  | nil => rfl
  | cons s texts ih => simp [ih, str, text?]

theorem plain_fields (members : List (String × Json)) (plain : ∀ member ∈ members, isPlain member.2) :
    isPlain (.fields members) := by
  simp only [fields, isPlain]
  induction members with
  | nil => trivial
  | cons member members ih =>
      exact ⟨rfl, plain member (by simp), ih fun other among => plain other (by simp [among])⟩

theorem sound_fields (members : List (String × Json)) (sound : ∀ member ∈ members, isSound member.2) :
    isSound (.fields members) := by
  simp only [fields, isSound]
  induction members with
  | nil => rfl
  | cons member members ih =>
      have others := ih fun other among => sound other (by simp [among])
      simpa [membersSound, sound member (by simp)] using others

theorem fields_depth (limit : Nat) (members : List (String × Json))
    (shallow : ∀ member ∈ members, depth member.2 ≤ limit) : depth (.fields members) ≤ limit + 1 := by
  simp only [fields, depth, Nat.add_le_add_iff_right]
  induction members with
  | nil => exact Nat.zero_le limit
  | cons member members ih =>
      have others := ih fun other among => shallow other (by simp [among])
      exact Nat.max_le.mpr ⟨shallow member (by simp), others⟩

theorem named_fields (members : List (String × Json)) :
    named? (members.map fun (name, value) => (some name, value)) = some members := by
  induction members with
  | nil => rfl
  | cons member members ih =>
      simp only [named?] at ih
      simp [named?, ih]

theorem members_of_fields (names : List String) (members : List (String × Json))
    (once : names.all (isGivenOnce members)) :
    membersOf? names (members.map fun (name, value) => (some name, value)) =
      some fun name => members.lookup name := by
  simp only [membersOf?, named_fields, Option.bind_eq_bind, Option.bind_some, once, if_true]

end LoginGateway.Json
