import LoginGateway.Proofs.ReturnUrl
import LoginGateway.Proofs.Token.Lifetime

/-!
What one instance issues and another is shown. They need nothing in common but the key that signs, which may stand anywhere
among the other's keys; then the issuers and the time decide.
-/
set_option autoImplicit false

namespace LoginGateway

theorem Sessions.validate_verified (s : Sessions) (set : KeySet) (t : UInt64) (token username : String) (claims : Claims)
    (verified : Token.verify set token = .ok claims) (purpose : claims.purpose = .session username) :
    s.validate set t token =
      if claims.issuer = s.issuer ∧ claims.isCurrent t then
        if username = "" then .error .badSession else .ok (some username)
      else .ok none := by
  by_cases holds : claims.issuer = s.issuer ∧ claims.isCurrent t
  · rw [if_pos holds]
    by_cases blank : username = ""
    · rw [if_pos blank]
      subst blank
      exact (validate_error_iff _ _ _ _ _).mpr ⟨rfl, claims, verified, purpose, holds⟩
    · rw [if_neg blank]
      exact (validate_ok_iff _ _ _ _ _).mpr ⟨blank, claims, verified, purpose, holds⟩
  · rw [if_neg holds]
    apply (validate_none_iff _ _ _ _).mpr
    intro found again
    cases verified.symm.trans again
    rw [Option.eq_none_iff_forall_ne_some]
    intro name read
    exact holds ((username_iff s t claims name).mp read).2

theorem Logins.validate_verified (l : Logins) (set : KeySet) (t : UInt64) (token returnUrl : String) (claims : Claims)
    (verified : Token.verify set token = .ok claims) (purpose : claims.purpose = .login returnUrl) :
    l.validate set t token =
      if claims.issuer = l.issuer ∧ claims.isCurrent t then .ok returnUrl else .error .badState := by
  by_cases holds : claims.issuer = l.issuer ∧ claims.isCurrent t
  · rw [if_pos holds]
    exact (validate_ok_iff _ _ _ _ _).mpr ⟨claims, verified, purpose, holds⟩
  · rw [if_neg holds]
    apply (validate_error_iff _ _ _ _ _).mpr
    refine ⟨rfl, fun found again => ?_⟩
    cases verified.symm.trans again
    rw [Option.eq_none_iff_forall_ne_some]
    intro place read
    exact holds ((return_url_iff l t claims place).mp read).2

theorem Sessions.session_shown_to_another (a b : Sessions) (set later : KeySet) (key : Bytes) (others : List Bytes)
    (first : set.keys = key :: others) (usable : key ≠ []) (kept : key ∈ later.keys) (username : String) (n t : UInt64) :
    ∃ cookie, a.issue set n username = .ok cookie ∧
      cookie.expires.toNat = min (n.toNat + 7200) (Text.Decimal.wordLimit - 1) ∧
      b.validate later t cookie.value =
        if a.issuer = b.issuer ∧ n ≤ t ∧ t < cookie.expires then
          if username = "" then .error .badSession else .ok (some username)
        else .ok none := by
  have signing := (KeySet.signing_key_iff set key).mpr ⟨usable, others, first⟩
  obtain ⟨cookie, issued⟩ := a.issue_given set n username key signing
  obtain ⟨signed, _, expires⟩ := a.issued_parts set n username cookie issued
  have verified := Token.verify_signed_by set later _ cookie.value key signing kept signed
  have span : lifetime.toNat = 7200 := rfl
  have current := Claims.issue_current_until a.issuer n lifetime t (.session username)
  rw [← expires] at current
  refine ⟨cookie, issued, ?_, ?_⟩
  · rw [expires, Claims.later_value, span]
  · rw [b.validate_verified later t cookie.value username _ verified rfl]
    exact if_congr (and_congr_right fun _ => current) rfl rfl

-- A session that the end of time cuts short, and one of nobody, shown behind two other keys.
theorem Sessions.session_shown_to_another_at_end_of_time :
    ∃ cookie nobody,
      (⟨"app", "sid"⟩ : Sessions).issue ⟨[[7], []]⟩ 0xFFFFFFFFFFFFFFF6 "ann" = .ok cookie ∧
      (⟨"app", "sid"⟩ : Sessions).issue ⟨[[7], []]⟩ 0xFFFFFFFFFFFFFFF6 "" = .ok nobody ∧
      cookie.expires = 0xFFFFFFFFFFFFFFFF ∧
      (⟨"app", "other"⟩ : Sessions).validate ⟨[[], [9], [7]]⟩ 0xFFFFFFFFFFFFFFFE cookie.value = .ok (some "ann") ∧
      (⟨"app", "other"⟩ : Sessions).validate ⟨[[], [9], [7]]⟩ 0xFFFFFFFFFFFFFFFE nobody.value = .error .badSession ∧
      (⟨"app", "other"⟩ : Sessions).validate ⟨[[], [9], [7]]⟩ 0xFFFFFFFFFFFFFFFF cookie.value = .ok none := by
  have usable : ([7] : Bytes) ≠ [] := by decide
  have kept : ([7] : Bytes) ∈ (⟨[[], [9], [7]]⟩ : KeySet).keys := by decide
  have shown (username : String) (t : UInt64) := session_shown_to_another ⟨"app", "sid"⟩ ⟨"app", "other"⟩ ⟨[[7], []]⟩
    ⟨[[], [9], [7]]⟩ [7] [[]] rfl usable kept username 0xFFFFFFFFFFFFFFF6 t
  obtain ⟨cookie, issued, ends, early⟩ := shown "ann" 0xFFFFFFFFFFFFFFFE
  obtain ⟨_, again, _, late⟩ := shown "ann" 0xFFFFFFFFFFFFFFFF
  cases issued.symm.trans again
  obtain ⟨nobody, unnamed, finish, refused⟩ := shown "" 0xFFFFFFFFFFFFFFFE
  have cut : min ((0xFFFFFFFFFFFFFFF6 : UInt64).toNat + 7200) (Text.Decimal.wordLimit - 1) =
      (0xFFFFFFFFFFFFFFFF : UInt64).toNat := by decide
  have last := UInt64.toNat_inj.mp (ends.trans cut)
  have same := UInt64.toNat_inj.mp (finish.trans cut)
  rw [last, if_pos (by decide), if_neg (by decide)] at early
  rw [same, if_pos (by decide), if_pos rfl] at refused
  rw [last, if_neg (by decide)] at late
  exact ⟨cookie, nobody, issued, unnamed, last, early, refused, late⟩

-- What comes back was made safe before it was signed, so restricting it once more changes nothing.
theorem Logins.state_shown_to_another (a b : Logins) (set later : KeySet) (key : Bytes) (others : List Bytes)
    (first : set.keys = key :: others) (usable : key ≠ []) (kept : key ∈ later.keys) (target : String) (n t : UInt64) :
    ∃ state, a.issue set n target = .ok state ∧
      (b.validate later t state =
        if a.issuer = b.issuer ∧ n.toNat ≤ t.toNat ∧ t.toNat < min (n.toNat + 300) (Text.Decimal.wordLimit - 1) then
          .ok (ReturnUrl.derived target)
        else .error .badState) ∧
      ∀ returnUrl, b.validate later t state = .ok returnUrl → ReturnUrl.restricted returnUrl = returnUrl := by
  have signing := (KeySet.signing_key_iff set key).mpr ⟨usable, others, first⟩
  obtain ⟨state, signed⟩ := Token.sign_given set (Claims.issue a.issuer n lifetime (.login (ReturnUrl.derived target))) key
    signing
  have verified := Token.verify_signed_by set later _ state key signing kept signed
  have span : lifetime.toNat = 300 := rfl
  have current := Claims.issue_current_iff a.issuer n lifetime t (.login (ReturnUrl.derived target))
  rw [span] at current
  refine ⟨state, signed, ?_, ?_⟩
  · rw [b.validate_verified later t state _ _ verified rfl]
    exact if_congr (and_congr_right fun _ => current) rfl rfl
  · intro returnUrl valid
    obtain ⟨claims, again, purpose, _⟩ := (validate_ok_iff _ _ _ _ _).mp valid
    cases verified.symm.trans again
    cases purpose
    exact ReturnUrl.restricted_derived target

-- The target is an address on another site, with signs that are written as escapes; its path and query come back.
theorem Logins.state_shown_to_another_in_last_second :
    ∃ state, (⟨"app"⟩ : Logins).issue ⟨[[7], []]⟩ 100 "http://evil/a b?q=\"é\"#f" = .ok state ∧
      (⟨"app"⟩ : Logins).validate ⟨[[], [9], [7]]⟩ 399 state = .ok "/a%20b?q=%22%C3%A9%22" ∧
      (⟨"app"⟩ : Logins).validate ⟨[[], [9], [7]]⟩ 400 state = .error .badState ∧
      (⟨"other"⟩ : Logins).validate ⟨[[], [9], [7]]⟩ 399 state = .error .badState ∧
      ReturnUrl.restricted "/a%20b?q=%22%C3%A9%22" = "/a%20b?q=%22%C3%A9%22" := by
  have usable : ([7] : Bytes) ≠ [] := by decide
  have kept : ([7] : Bytes) ∈ (⟨[[], [9], [7]]⟩ : KeySet).keys := by decide
  have shown (issuer : String) (t : UInt64) := state_shown_to_another ⟨"app"⟩ ⟨issuer⟩ ⟨[[7], []]⟩ ⟨[[], [9], [7]]⟩ [7]
    [[]] rfl usable kept "http://evil/a b?q=\"é\"#f" 100 t
  have place : ReturnUrl.derived "http://evil/a b?q=\"é\"#f" = "/a%20b?q=%22%C3%A9%22" := by rfl
  obtain ⟨state, issued, valid, restricted⟩ := shown "app" 399
  obtain ⟨_, again, expired, _⟩ := shown "app" 400
  cases issued.symm.trans again
  obtain ⟨_, again, foreign, _⟩ := shown "other" 399
  cases issued.symm.trans again
  rw [if_pos (by decide), place] at valid
  rw [if_neg (by decide)] at expired foreign
  exact ⟨state, issued, valid, expired, foreign, restricted _ valid⟩

end LoginGateway
