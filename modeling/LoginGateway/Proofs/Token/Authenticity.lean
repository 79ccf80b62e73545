import LoginGateway.Proofs.Token.Verification

/-!
Which strings verify: exactly those that a key of the set would have signed as they are spelled, under
a header of the one algorithm and over a document of claims. So the order of the keys does not
matter, and neither does how often one stands among them.
-/
set_option autoImplicit false

namespace LoginGateway.Token

namespace Header

def algorithms : List String :=
  ["HS256", "HS384", "HS512", "ES256", "ES384", "RS256", "RS384", "RS512", "PS256", "PS384", "PS512", "EdDSA"]

def Names (j : Json) (algorithm : String) : Prop :=
  ∃ fields, Json.fieldsOf? names j = some fields ∧ isWhole j ∧
    (fields "alg").bind choice? = some algorithm ∧ algorithm ∈ algorithms ∧
    (∀ name ∈ ["typ", "cty", "jku", "kid", "x5u", "x5t", "x5t#S256"], holds fields name Json.text?) ∧
    holds fields "jwk" key? ∧ holds fields "x5c" (Json.list? Json.text?)

theorem choice_single (fields : Json.Fields) (name choice : String) :
    isChoice fields name [choice] ↔ (fields name).bind choice? = some choice := by
  rw [isChoice]
  cases (fields name).bind choice? with
  | none => simp
  | some found => simp

theorem accepts_iff (j : Json) : accepts j ↔ Names j "HS256" := by
  rw [accepts, Names]
  cases read : Json.fieldsOf? names j with
  | none => simp
  | some fields =>
      have known : "HS256" ∈ algorithms := by decide
      simp only [Bool.and_eq_true, List.all_eq_true, choice_single, Option.some.injEq]
      constructor
      · rintro ⟨⟨⟨⟨whole, named⟩, key⟩, texts⟩, chain⟩
        exact ⟨fields, rfl, whole, named, known, texts, key, chain⟩
      · rintro ⟨_, rfl, whole, named, _, texts, key, chain⟩
        exact ⟨⟨⟨⟨whole, named⟩, key⟩, texts⟩, chain⟩

end Header

-- A token that a key would have signed as it is spelled, of the one algorithm, that says these claims.
def Authentic (set : KeySet) (token : String) (claims : Claims) : Prop :=
  ∃ header payload tag : List Char,
    token.toList = header ++ '.' :: payload ++ '.' :: tag ∧ '.' ∉ payload ∧ '.' ∉ tag ∧
    (∃ key ∈ set.keys, key ≠ [] ∧ tag = encode (Hmac.sha256 key (Text.Utf8.encode (header ++ '.' :: payload)))) ∧
    (∃ bytes j, header = encode bytes ∧ Json.read? bytes = some j ∧ Header.Names j "HS256") ∧
    ∃ bytes j, payload = encode bytes ∧ Json.read? bytes = some j ∧ Claims.ofJson? j = some claims

theorem decode_eq_some_iff (cs : List Char) (bytes : Bytes) : decode? cs = some bytes ↔ cs = encode bytes :=
  Base64.decode_eq_some_iff .urlSafe Base64.url_safe_sound cs bytes

theorem has_header_iff (p : Parts) :
    p.hasHeader ↔ ∃ bytes j, p.header = encode bytes ∧ Json.read? bytes = some j ∧ Header.Names j "HS256" := by
  simp only [← decode_eq_some_iff, ← Header.accepts_iff, Parts.hasHeader]
  cases decoded : decode? p.header with
  | none => simp
  | some bytes => cases read : Json.read? bytes <;> simp [read]

theorem claims_eq_some_iff (p : Parts) (claims : Claims) :
    p.claims? = some claims ↔
      ∃ bytes j, p.payload = encode bytes ∧ Json.read? bytes = some j ∧ Claims.ofJson? j = some claims := by
  simp only [← decode_eq_some_iff, Parts.claims?, Claims.read?, Option.bind_eq_some_iff]
  constructor
  · rintro ⟨bytes, decoded, j, read⟩
    exact ⟨bytes, j, decoded, read⟩
  · rintro ⟨bytes, j, decoded, read⟩
    exact ⟨bytes, decoded, j, read⟩

theorem content_eq_some_iff (p : Parts) (claims : Claims) :
    p.content? = some claims ↔ p.hasHeader ∧ p.claims? = some claims := by
  by_cases header : p.hasHeader
  · simp [Parts.content?, header]
  · simp [Parts.content?, header]

theorem verify_ok_iff_authentic (set : KeySet) (token : String) (claims : Claims) :
    verify set token = .ok claims ↔ Authentic set token claims := by
  rw [verify_ok_iff]
  constructor
  · rintro ⟨⟨p, found, key, kept, signed⟩, content⟩
    obtain ⟨whole, payload, tag⟩ := (parts_eq_some_iff _ p).mp found
    obtain ⟨member, usable⟩ := (KeySet.mem_verification_keys set key).mp kept
    rw [content?, found, Option.bind_some] at content
    obtain ⟨header, claims⟩ := (content_eq_some_iff p claims).mp content
    exact ⟨p.header, p.payload, p.signature, whole, payload, tag, ⟨key, member, usable, of_decide_eq_true signed⟩,
      (has_header_iff p).mp header, (claims_eq_some_iff p _).mp claims⟩
  · rintro ⟨header, payload, tag, whole, clear, clearToo, ⟨key, member, usable, signed⟩, named, said⟩
    let p : Parts := ⟨header, payload, tag⟩
    have found : parts? token.toList = some p := (parts_eq_some_iff _ p).mpr ⟨whole, clear, clearToo⟩
    have kept := (KeySet.mem_verification_keys set key).mpr ⟨member, usable⟩
    have content : p.content? = some claims :=
      (content_eq_some_iff p claims).mpr ⟨(has_header_iff p).mpr named, (claims_eq_some_iff p claims).mpr said⟩
    exact ⟨⟨p, found, key, kept, decide_eq_true signed⟩, by rw [content?, found, Option.bind_some, content]⟩

theorem verify_error_iff (set : KeySet) (token : String) (e : Error) :
    verify set token = .error e ↔ e = .noValidKey ∧ ∀ claims, ¬ Authentic set token claims := by
  simp only [← verify_ok_iff_authentic]
  rw [verify]
  cases (parts? token.toList).bind fun p => set.verificationKeys.findSome? (verifyWith? · p) with
  | none => simp [eq_comm]
  | some claims => simp

theorem authentic_more (set more : KeySet) (kept : ∀ key ∈ set.keys, key ≠ [] → key ∈ more.keys) (token : String)
    (claims : Claims) (authentic : Authentic set token claims) : Authentic more token claims := by
  obtain ⟨header, payload, tag, whole, clear, clearToo, ⟨key, member, usable, signed⟩, rest⟩ := authentic
  exact ⟨header, payload, tag, whole, clear, clearToo, ⟨key, kept key member usable, usable, signed⟩, rest⟩

theorem verify_eq_of_authentic (set other : KeySet) (token : String)
    (same : ∀ claims, Authentic set token claims ↔ Authentic other token claims) :
    verify set token = verify other token := by
  simp only [← verify_ok_iff_authentic] at same
  cases verified : verify other token with
  | ok claims => exact (same claims).mpr verified
  | error e =>
      obtain ⟨told, refused⟩ := (verify_error_iff other token e).mp verified
      refine (verify_error_iff set token e).mpr ⟨told, fun claims authentic => refused claims ?_⟩
      rw [← verify_ok_iff_authentic] at authentic ⊢
      exact (same claims).mp authentic

theorem verify_exactly_authentic (set : KeySet) (token : String) :
    (∀ claims, verify set token = .ok claims ↔ Authentic set token claims) ∧
    ((∀ claims, ¬ Authentic set token claims) ↔ verify set token = .error .noValidKey) ∧
    (∀ other : KeySet, (∀ key, key ≠ [] → (key ∈ other.keys ↔ key ∈ set.keys)) →
      verify other token = verify set token) ∧
    ∀ more : KeySet, (∀ key ∈ set.keys, key ≠ [] → key ∈ more.keys) →
      ∀ claims, verify set token = .ok claims → verify more token = .ok claims := by
  refine ⟨verify_ok_iff_authentic set token, ?_, ?_, ?_⟩
  · simp [verify_error_iff]
  · intro other same
    apply verify_eq_of_authentic
    intro claims
    constructor
    · exact authentic_more other set (fun key member usable => (same key usable).mp member) token claims
    · exact authentic_more set other (fun key member usable => (same key usable).mpr member) token claims
  · intro more kept claims verified
    rw [verify_ok_iff_authentic] at verified ⊢
    exact authentic_more set more kept token claims verified

theorem verify_exactly_authentic_among_other_keys :
    ∃ token, Authentic ⟨[[7]]⟩ token ⟨"app", [], 9, 0, 0, .session "é"⟩ ∧
      (∀ key ∈ (⟨[[7]]⟩ : KeySet).keys, key ≠ [] → key ∈ (⟨[[], [9], [7]]⟩ : KeySet).keys) ∧
      verify ⟨[[], [9], [7]]⟩ token = .ok ⟨"app", [], 9, 0, 0, .session "é"⟩ ∧
      (∀ key, key ≠ [] → (key ∈ (⟨[[7], [], [7]]⟩ : KeySet).keys ↔ key ∈ (⟨[[7]]⟩ : KeySet).keys)) ∧
      verify ⟨[[7], [], [7]]⟩ token = verify ⟨[[7]]⟩ token := by
  have verified : verify ⟨[[7]]⟩ (String.ofList (signWith [7] ⟨"app", [], 9, 0, 0, .session "é"⟩)) = .ok _ :=
    verify_sign_with ⟨[[7]]⟩ [7] _ (by decide) (by decide)
  have kept : ∀ key ∈ (⟨[[7]]⟩ : KeySet).keys, key ≠ [] → key ∈ (⟨[[], [9], [7]]⟩ : KeySet).keys := by decide
  have same : ∀ key, key ≠ [] → (key ∈ (⟨[[7], [], [7]]⟩ : KeySet).keys ↔ key ∈ (⟨[[7]]⟩ : KeySet).keys) := by
    intro key usable
    simp [usable]
  obtain ⟨exact, _, repeated, more⟩ := verify_exactly_authentic ⟨[[7]]⟩
    (String.ofList (signWith [7] ⟨"app", [], 9, 0, 0, .session "é"⟩))
  exact ⟨_, (exact _).mp verified, kept, more ⟨[[], [9], [7]]⟩ kept _ verified, same, repeated _ same⟩

end LoginGateway.Token
