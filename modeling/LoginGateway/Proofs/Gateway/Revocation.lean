import LoginGateway.Proofs.Gateway.Provenance

/-!
Keys that are taken away. What a key has signed is no longer accepted once a rotation has dropped the key, for as
long as nobody brings it back and no key that is in use gives the token the same tag.
-/
set_option autoImplicit false

namespace LoginGateway

namespace Token

def tag? (key : Bytes) (token : String) : Option Bytes :=
  (parts? token.toList).map fun p => Hmac.sha256 key (Text.Utf8.encode p.message)

theorem tag_of_parts (key : Bytes) (token : String) (p : Parts) (cut : parts? token.toList = some p) :
    tag? key token = some (Hmac.sha256 key (Text.Utf8.encode p.message)) := by
  rw [tag?, cut, Option.map_some]

theorem tag_of_signed (key signer : Bytes) (claims : Claims) :
    tag? key (String.ofList (signWith signer claims)) = some (Hmac.sha256 key (Text.Utf8.encode (message claims))) := by
  have cut : parts? (String.ofList (signWith signer claims)).toList = some (signedParts signer claims) := by
    rw [String.toList_ofList, parts_sign_with]
  have whole : (signedParts signer claims).message = message claims := by
    simp only [Parts.message, signedParts, message]
  rw [tag_of_parts key _ _ cut, whole]

-- A token bears the tag of its own key, so another key accepts it only by giving it the same one.
theorem tag_of_verified (set later : KeySet) (key : Bytes) (claims found : Claims) (token : String)
    (signing : set.signingKey = .ok key) (signed : sign set claims = .ok token)
    (verified : verify later token = .ok found) : ∃ other ∈ later.keys, tag? other token = tag? key token := by
  obtain ⟨⟨p, cut, other, kept, fits⟩, _⟩ := (verify_ok_iff later token found).mp verified
  obtain ⟨member, _⟩ := (KeySet.mem_verification_keys later other).mp kept
  obtain ⟨signer, first, spelled⟩ := (sign_ok_iff set claims token).mp signed
  cases signing.symm.trans first
  have whole : p = signedParts key claims := by
    rw [spelled, String.toList_ofList, parts_sign_with] at cut
    exact (Option.some.inj cut).symm
  have own : p.isSignedBy key := by
    rw [whole]
    exact signed_by_key key claims
  have borne : p.signature = signature key p.message := of_decide_eq_true own
  have given : p.signature = signature other p.message := of_decide_eq_true fits
  have same := encode_inj _ _ (given.symm.trans borne)
  exact ⟨other, member, by rw [tag_of_parts other token p cut, tag_of_parts key token p cut, same]⟩

end Token

namespace Gateway

def Event.Brings (key : Bytes) : Event → Prop
  | .prepend secret => Secret.decode secret = .ok key
  | .rotate set => Signs set ∧ key ∈ set.keys
  | _ => False

theorem step_lacks (g : Gateway) (keys : KeySet) (now : UInt64) (event : Event) (key : Bytes) (gone : key ∉ keys.keys)
    (quiet : ¬ event.Brings key) : key ∉ (g.step keys now event).1.keys := by
  rcases step_keys g keys now event with same | ⟨secret, fresh, rfl, decoded, made⟩ | ⟨set, first, rfl, signs, made⟩
  · rw [same]
    exact gone
  · rw [made]
    intro member
    rcases List.mem_cons.mp member with rfl | old
    · exact quiet decoded
    · exact gone old
  · rw [made]
    intro member
    exact quiet ⟨⟨first, signs⟩, member⟩

theorem run_lacks (g : Gateway) (keys : KeySet) (steps : List Step) (key : Bytes) (gone : key ∉ keys.keys)
    (quiet : ∀ s ∈ steps, ¬ s.event.Brings key) : key ∉ (g.run keys steps).1.keys := by
  induction steps generalizing keys with
  | nil => exact gone
  | cons s rest ih =>
      have next := step_lacks g keys s.now s.event key gone (quiet s List.mem_cons_self)
      exact ih _ next fun other member => quiet other (List.mem_cons_of_mem s member)

theorem dropped_for_good (g : Gateway) (start : KeySet) (before later : List Step) (now : UInt64) (set : KeySet)
    (key : Bytes) (signs : Signs set) (dropped : key ∉ set.keys) (quiet : ∀ s ∈ later, ¬ s.event.Brings key) :
    key ∉ (g.run start (before ++ ⟨now, .rotate set⟩ :: later)).1.keys := by
  have drops : key ∉ (g.step (g.run start before).1 now (.rotate set)).1.keys := by
    rw [rotated g _ now set signs]
    exact dropped
  rw [run_append]
  exact run_lacks g _ later key drops quiet

structure Refuses (g : Gateway) (keys : KeySet) (token : String) : Prop where
  validated : ∀ now, g.sessions.validate keys now token = .ok none
  resolved : ∀ now r username, Cookie.find? r.cookies g.sessions.cookieName = some token →
    g.resolve keys now r ≠ .authenticated username .sessionCookie

theorem refuses_unverified (g : Gateway) (keys : KeySet) (token : String)
    (unverified : ∀ claims, Token.verify keys token ≠ .ok claims) : Refuses g keys token := by
  have validated (now : UInt64) : g.sessions.validate keys now token = .ok none :=
    (Sessions.validate_none_iff _ _ _ _).mpr fun claims verified => absurd verified (unverified claims)
  refine ⟨validated, fun now r username shown known => ?_⟩
  obtain ⟨_, user⟩ := (resolve_session_iff g keys now r username).mp known
  obtain ⟨found, brought, valid⟩ := (session_user_iff g keys now r username).mp user
  cases shown.symm.trans brought
  cases (validated now).symm.trans valid

theorem revoked_unverified (keys later : KeySet) (key : Bytes) (claims : Claims) (token : String)
    (signing : keys.signingKey = .ok key) (signed : Token.sign keys claims = .ok token) (gone : key ∉ later.keys)
    (apart : ∀ other ∈ later.keys, other ≠ key → Token.tag? other token ≠ Token.tag? key token) :
    ∀ found, Token.verify later token ≠ .ok found := by
  intro found verified
  obtain ⟨other, kept, same⟩ := Token.tag_of_verified keys later key claims found token signing signed verified
  exact apart other kept (fun equal => gone (equal ▸ kept)) same

-- The token may have been given out at any moment, and the last keys are those at any time after the rotation.
theorem revocation_is_effective (g : Gateway) (start : KeySet) (before later : List Step) (now : UInt64)
    (set : KeySet) (key : Bytes) (token : String) (m : Moment) (signing : m.keys.signingKey = .ok key)
    (signs : Signs set) (dropped : key ∉ set.keys) (quiet : ∀ e ∈ later, ¬ e.event.Brings key) (last : KeySet)
    (reached : last = (g.run start (before ++ ⟨now, .rotate set⟩ :: later)).1)
    (apart : ∀ other ∈ last.keys, other ≠ key → Token.tag? other token ≠ Token.tag? key token) :
    (m.GivesSession g token → Refuses g last token) ∧
      (m.GivesLogin g token → ∀ t, g.logins.validate last t token = .error .badState) := by
  have gone : key ∉ last.keys := by
    rw [reached]
    exact dropped_for_good g start before later now set key signs dropped quiet
  constructor
  · intro given
    obtain ⟨username, signed, _⟩ := session_signed g m token given
    exact refuses_unverified g last token (revoked_unverified m.keys last key _ token signing signed gone apart)
  · intro given t
    obtain ⟨place, signed⟩ := login_signed g m token given
    have unverified := revoked_unverified m.keys last key _ token signing signed gone apart
    exact (Logins.validate_error_iff _ _ _ _ _).mpr ⟨rfl, fun claims verified => absurd verified (unverified claims)⟩

def sampleClaims : Claims := Claims.issue "app" 100 Sessions.lifetime (.session "ann")

theorem sample_tags : Hmac.sha256 [109] (Text.Utf8.encode (Token.message sampleClaims)) ≠
    Hmac.sha256 [107] (Text.Utf8.encode (Token.message sampleClaims)) := by
  decide +kernel

-- A session that holds is given up with its key, and a change that fails afterwards does not bring it back.
theorem revocation_is_effective_on_session :
    ∃ token, (⟨⟨[[107]]⟩, 100, .issueSession "ann"⟩ : Moment).GivesSession sample token ∧
      sample.sessions.validate ⟨[[107]]⟩ 101 token = .ok (some "ann") ∧
      (sample.run ⟨[[107]]⟩ [⟨102, .rotate ⟨[[109]]⟩⟩, ⟨103, .rotate ⟨[[], [107]]⟩⟩]).1 = ⟨[[109]]⟩ ∧
      Token.tag? [109] token ≠ Token.tag? [107] token ∧
      sample.sessions.validate ⟨[[109]]⟩ 104 token = .ok none := by
  obtain ⟨token, signed⟩ := Token.sign_given ⟨[[107]]⟩ sampleClaims [107] rfl
  have issued := (Sessions.issue_ok_iff sample.sessions ⟨[[107]]⟩ 100 "ann" _).mpr ⟨token, signed, rfl⟩
  have given : (⟨⟨[[107]]⟩, 100, .issueSession "ann"⟩ : Moment).GivesSession sample token :=
    .inl ⟨_, congrArg Answer.session issued, rfl⟩
  have valid := Sessions.validate_issued sample.sessions ⟨[[107]]⟩ ⟨[[107]]⟩ 100 101 "ann" _ issued (by decide)
    (fun _ kept => kept) (by decide) (by decide)
  have apart : Token.tag? [109] token ≠ Token.tag? [107] token := by
    obtain ⟨key, first, spelled⟩ := (Token.sign_ok_iff _ _ _).mp signed
    rw [spelled, Token.tag_of_signed, Token.tag_of_signed]
    exact fun same => sample_tags (Option.some.inj same)
  have quiet : ∀ e ∈ [(⟨103, .rotate ⟨[[], [107]]⟩⟩ : Step)], ¬ e.event.Brings [107] := by
    intro e member
    cases List.mem_singleton.mp member
    rintro ⟨⟨key, signs⟩, _⟩
    cases signs
  have tagged : ∀ other ∈ (⟨[[109]]⟩ : KeySet).keys, other ≠ [107] →
      Token.tag? other token ≠ Token.tag? [107] token := by
    intro other member _
    cases List.mem_singleton.mp member
    exact apart
  obtain ⟨refused, _⟩ := revocation_is_effective sample ⟨[[107]]⟩ [] [⟨103, .rotate ⟨[[], [107]]⟩⟩] 102 ⟨[[109]]⟩ [107]
    token ⟨⟨[[107]]⟩, 100, .issueSession "ann"⟩ rfl ⟨[109], rfl⟩ (by decide) quiet ⟨[[109]]⟩ rfl tagged
  exact ⟨token, given, valid, rfl, apart, (refused given).validated 104⟩

end Gateway

end LoginGateway
