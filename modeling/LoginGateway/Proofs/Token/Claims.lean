import LoginGateway.Token.Claims
import LoginGateway.Proofs.Json.Fields

/-!
The document of claims gives back the claims: whatever its texts and times are, the members of a
document are read as the fields they were written for.
-/
set_option autoImplicit false

namespace LoginGateway.Claims

open Json

theorem member_readable (c : Claims) (member : String × Json) (among : member ∈ c.members) :
    isPlain member.2 ∧ isSound member.2 ∧ depth member.2 ≤ 1 := by
  have text (s : String) : isPlain (.str s) ∧ isSound (.str s) ∧ depth (.str s) ≤ 1 :=
    ⟨rfl, rfl, Nat.zero_le 1⟩
  have word (n : UInt64) : isPlain (.word n) ∧ isSound (.word n) ∧ depth (.word n) ≤ 1 :=
    ⟨plain_word n, sound_word n, Nat.zero_le 1⟩
  simp only [members, List.mem_append, List.mem_cons, List.not_mem_nil, or_false] at among
  rcases among with (rfl | audience) | rfl | rfl | rfl | rfl | rfl
  · exact text _
  · rw [audienceMembers] at audience
    by_cases nobody : c.audience.isEmpty
    · rw [if_pos nobody] at audience
      cases audience
    · rw [if_neg nobody] at audience
      rw [List.mem_singleton.mp audience]
      exact ⟨plain_texts _, sound_texts _, Nat.le_of_eq (texts_depth _)⟩
  · exact word _
  · exact word _
  · exact word _
  · exact text _
  · cases c.purpose <;> exact text _

theorem to_json_plain (c : Claims) : isPlain c.toJson :=
  plain_fields c.members fun member among => (member_readable c member among).1

theorem to_json_readable (c : Claims) : c.toJson.isReadable 0 := by
  have sound : isSound c.toJson := sound_fields c.members fun member among => (member_readable c member among).2.1
  have shallow : depth c.toJson ≤ 2 :=
    fields_depth 1 c.members fun member among => (member_readable c member among).2.2
  rw [isReadable, sound, Bool.true_and]
  exact decide_eq_true (by unfold maxDepth; omega)

def given (c : Claims) : Fields := fun name => c.members.lookup name

theorem members_given (c : Claims) :
    membersOf? commonFields (c.members.map fun (name, value) => (some name, value)) = some c.given := by
  apply members_of_fields
  obtain ⟨issuer, audience, expires, notBefore, issuedAt, purpose⟩ := c
  cases purpose <;> cases audience <;> rfl

theorem issuer_given (c : Claims) : c.given.text? "iss" = some c.issuer := rfl

theorem audience_given (c : Claims) : c.given.read? "aud" (list? text?) [] = some c.audience := by
  obtain ⟨issuer, audience, expires, notBefore, issuedAt, purpose⟩ := c
  cases audience with
  | nil => cases purpose <;> rfl
  | cons first others => exact list_texts (first :: others)

theorem times_given (c : Claims) : c.given.word? "exp" = some c.expires ∧
    c.given.word? "nbf" = some c.notBefore ∧ c.given.word? "iat" = some c.issuedAt := by
  have read : c.given.word? "exp" = word? (.word c.expires) ∧
      c.given.word? "nbf" = word? (.word c.notBefore) ∧ c.given.word? "iat" = word? (.word c.issuedAt) := by
    obtain ⟨issuer, audience, expires, notBefore, issuedAt, purpose⟩ := c
    cases audience <;> exact ⟨rfl, rfl, rfl⟩
  simpa only [word_of_word] using read

theorem purpose_given (c : Claims) :
    purpose? (c.members.map fun (name, value) => (some name, value)) = some c.purpose := by
  obtain ⟨issuer, audience, expires, notBefore, issuedAt, purpose⟩ := c
  cases purpose <;> cases audience <;> rfl

theorem of_json_to_json (c : Claims) : ofJson? c.toJson = some c := by
  obtain ⟨expires, notBefore, issuedAt⟩ := times_given c
  have readable := to_json_readable c
  rw [toJson, fields] at readable ⊢
  dsimp only [ofJson?]
  rw [if_pos readable, ofMembers?]
  simp only [members_given, purpose_given, issuer_given, audience_given, expires, notBefore, issuedAt,
    Option.bind_eq_bind, Option.bind_some, Option.pure_def]

theorem read_text (c : Claims) : read? (Text.utf8 c.text) = some c := by
  rw [read?, text, read_compact c.toJson (to_json_plain c), Option.bind_some, of_json_to_json]

theorem text_filled (c : Claims) : Text.utf8 c.text ≠ [] := by
  intro blank
  have nothing : read? [] = none := by cbv
  have given := c.read_text
  rw [blank, nothing] at given
  cases given

end LoginGateway.Claims
