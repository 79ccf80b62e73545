import LoginGateway.Proofs.Secret.Spelling
import LoginGateway.Secret.KeySet

/-!
Which key signs and which keys verify; a secret that is decoded is never an empty key, so secrets that can be decoded one by
one make a set that signs with the first of them and verifies with all.
-/
set_option autoImplicit false

namespace LoginGateway

theorem KeySet.signing_key_iff (set : KeySet) (key : Bytes) :
    set.signingKey = .ok key ↔ key ≠ [] ∧ ∃ others, set.keys = key :: others := by
  obtain ⟨keys⟩ := set
  constructor
  · intro signs
    rw [signingKey] at signs
    split at signs
    · rename_i b rest others first
      cases signs
      exact ⟨List.cons_ne_nil b rest, others, first⟩
    · cases signs
  · intro leads
    obtain ⟨usable, others, first⟩ := leads
    cases key with
    | nil => exact absurd rfl usable
    | cons b rest =>
        dsimp only at first
        subst first
        rfl

theorem KeySet.signing_key_missing (set : KeySet) (mute : ∀ key, set.signingKey ≠ .ok key) :
    set.signingKey = .error .noSigningKey := by
  cases signing : set.signingKey with
  | ok key => exact absurd signing (mute key)
  | error e =>
      rw [signingKey] at signing
      split at signing
      · cases signing
      · exact signing.symm

theorem KeySet.mem_verification_keys (set : KeySet) (key : Bytes) :
    key ∈ set.verificationKeys ↔ key ∈ set.keys ∧ key ≠ [] := by
  simp [verificationKeys]

theorem Secret.decode_nonempty (secret : String) (key : Bytes) (decoded : decode secret = .ok key) : key ≠ [] :=
  ((decode_ok_iff secret key).mp decoded).1

namespace Secret

theorem decode_trimmed (secret : String) : decode (Text.trimmed secret) = decode secret := by
  have same : Text.trim (Text.trimmed secret).toList = Text.trim secret.toList := by
    rw [Text.trimmed, String.toList_ofList]
    exact Text.strip_strip Text.isBlank secret.toList
  rw [decode, decode, same]

theorem decode_filled (secret : String) (key : Bytes) (decoded : decode secret = .ok key) :
    Text.isBlankText secret = false := by
  apply eq_false_of_ne_true
  intro blank
  have empty : Text.trim secret.toList = [] := (Text.strip_eq_nil_iff _ _).mpr (List.all_eq_true.mp blank)
  rw [decode, empty] at decoded
  cases decoded

theorem decode_each (secrets : List String) (spelled : ∀ s ∈ secrets, ∃ key, decode s = .ok key) :
    ∃ keys, secrets.mapM decode = .ok keys ∧ ∀ key ∈ keys, key ≠ [] := by
  induction secrets with
  | nil => exact ⟨[], rfl, by simp⟩
  | cons secret secrets ih =>
      obtain ⟨⟨key, first⟩, others⟩ := List.forall_mem_cons.mp spelled
      obtain ⟨keys, later, filled⟩ := ih others
      refine ⟨key :: keys, ?_, List.forall_mem_cons.mpr ⟨decode_nonempty secret key first, filled⟩⟩
      rw [List.mapM_cons, first, later]
      rfl

end Secret

theorem KeySet.of_secrets_given (first : String) (others : List String)
    (spelled : ∀ s ∈ first :: others, ∃ key, Secret.decode s = .ok key) :
    ∃ set, ofSecrets (first :: others) = .ok set ∧ set.signingKey = Secret.decode first ∧
      (first :: others).mapM Secret.decode = .ok set.verificationKeys := by
  obtain ⟨⟨key, decoded⟩, later⟩ := List.forall_mem_cons.mp spelled
  obtain ⟨keys, each, filled⟩ := Secret.decode_each others later
  have usable := Secret.decode_nonempty first key decoded
  have all : (first :: others).mapM Secret.decode = .ok (key :: keys) := by
    rw [List.mapM_cons, decoded, each]
    rfl
  have signs : signingKey ⟨key :: keys⟩ = .ok key := (signing_key_iff _ key).mpr ⟨usable, keys, rfl⟩
  have verify : verificationKeys ⟨key :: keys⟩ = key :: keys := by
    rw [verificationKeys, List.filter_eq_self]
    simpa using ⟨usable, filled⟩
  refine ⟨⟨key :: keys⟩, ?_, signs.trans decoded.symm, ?_⟩
  · rw [ofSecrets, all]
    change (signingKey ⟨key :: keys⟩ >>= fun _ => .ok ⟨key :: keys⟩) = .ok (⟨key :: keys⟩ : KeySet)
    rw [signs]
    rfl
  · rw [verify]
    exact all

end LoginGateway
