import LoginGateway.Proofs.Token.Lifetime

/-!
A token says one thing. Whichever keys it verifies under, whoever reads it and whenever, it is read as
the same claims, so it is a session or a login but never both, and past its end it is neither.
-/
set_option autoImplicit false

namespace LoginGateway

namespace Token

theorem verified_same (set other : KeySet) (token : String) (claims found : Claims)
    (verified : verify set token = .ok claims) (verifiedToo : verify other token = .ok found) : found = claims := by
  have content := ((verify_ok_iff set token claims).mp verified).2
  have contentToo := ((verify_ok_iff other token found).mp verifiedToo).2
  exact Option.some.inj (contentToo.symm.trans content)

end Token

theorem Claims.not_current_of_expired (c : Claims) (now : UInt64) (expired : c.expires ≤ now) : ¬ c.isCurrent now := by
  have ended : ¬ now < c.expires := UInt64.not_lt.mpr expired
  simp [isCurrent, ended]

theorem Sessions.validate_none_of_content (s : Sessions) (set : KeySet) (now : UInt64) (token : String) (claims : Claims)
    (content : Token.content? token = some claims) (refused : s.username? now claims = none) :
    s.validate set now token = .ok none := by
  apply (validate_none_iff s set now token).mpr
  intro found verified
  cases content.symm.trans ((Token.verify_ok_iff set token found).mp verified).2
  exact refused

theorem Logins.validate_bad_of_content (l : Logins) (set : KeySet) (now : UInt64) (token : String) (claims : Claims)
    (content : Token.content? token = some claims) (refused : l.returnUrl? now claims = none) :
    l.validate set now token = .error .badState := by
  apply (validate_error_iff l set now token .badState).mpr
  refine ⟨rfl, fun found verified => ?_⟩
  cases content.symm.trans ((Token.verify_ok_iff set token found).mp verified).2
  exact refused

theorem Sessions.username_of_login (s : Sessions) (now : UInt64) (claims : Claims) (returnUrl : String)
    (purpose : claims.purpose = .login returnUrl) : s.username? now claims = none := by
  rw [username?, purpose]

theorem Logins.return_url_of_session (l : Logins) (now : UInt64) (claims : Claims) (username : String)
    (purpose : claims.purpose = .session username) : l.returnUrl? now claims = none := by
  rw [returnUrl?, purpose]

theorem Sessions.username_expired (s : Sessions) (now : UInt64) (claims : Claims) (expired : claims.expires ≤ now) :
    s.username? now claims = none := by
  rw [Option.eq_none_iff_forall_ne_some]
  intro username read
  exact claims.not_current_of_expired now expired ((username_iff s now claims username).mp read).2.2

theorem Logins.return_url_expired (l : Logins) (now : UInt64) (claims : Claims) (expired : claims.expires ≤ now) :
    l.returnUrl? now claims = none := by
  rw [Option.eq_none_iff_forall_ne_some]
  intro returnUrl read
  exact claims.not_current_of_expired now expired ((return_url_iff l now claims returnUrl).mp read).2.2

namespace Token

structure HasOneMeaning (token : String) : Prop where
  claims : ∀ set other claims found,
    verify set token = .ok claims → verify other token = .ok found → found = claims
  kind : ∀ (s : Sessions) (l : Logins) set other now later returnUrl,
    l.validate other later token = .ok returnUrl → s.validate set now token = .ok none
  username : ∀ (s t : Sessions) set other now later username name,
    s.validate set now token = .ok (some username) → t.validate other later token = .ok (some name) → name = username
  returnUrl : ∀ (l m : Logins) set other now later returnUrl place,
    l.validate set now token = .ok returnUrl → m.validate other later token = .ok place → place = returnUrl
  expiry : ∀ set claims, verify set token = .ok claims → ∀ now, claims.expires ≤ now → ∀ (s : Sessions) (l : Logins) other,
    s.validate other now token = .ok none ∧ l.validate other now token = .error .badState
  login : ∀ (l : Logins) set now target, l.issue set now target = .ok token → ∀ (s : Sessions) other later,
    s.validate other later token = .ok none
  session : ∀ (s : Sessions) set now username cookie, s.issue set now username = .ok cookie → cookie.value = token →
    ∀ (l : Logins) other later, l.validate other later token = .error .badState

theorem has_one_meaning (token : String) : HasOneMeaning token where
  claims set other claims found verified verifiedToo := verified_same set other token claims found verified verifiedToo
  kind s l set other now later returnUrl valid := by
    obtain ⟨claims, verified, purpose, _⟩ := (Logins.validate_ok_iff _ _ _ _ _).mp valid
    have content := ((verify_ok_iff other token claims).mp verified).2
    exact s.validate_none_of_content set now token claims content (s.username_of_login now claims returnUrl purpose)
  username s t set other now later username name valid validToo := by
    obtain ⟨_, claims, verified, purpose, _⟩ := (Sessions.validate_ok_iff _ _ _ _ _).mp valid
    obtain ⟨_, found, verifiedToo, purposeToo, _⟩ := (Sessions.validate_ok_iff _ _ _ _ _).mp validToo
    cases verified_same set other token claims found verified verifiedToo
    exact Purpose.session.inj (purposeToo.symm.trans purpose)
  returnUrl l m set other now later returnUrl place valid validToo := by
    obtain ⟨claims, verified, purpose, _⟩ := (Logins.validate_ok_iff _ _ _ _ _).mp valid
    obtain ⟨found, verifiedToo, purposeToo, _⟩ := (Logins.validate_ok_iff _ _ _ _ _).mp validToo
    cases verified_same set other token claims found verified verifiedToo
    exact Purpose.login.inj (purposeToo.symm.trans purpose)
  expiry set claims verified now expired s l other := by
    have content := ((verify_ok_iff set token claims).mp verified).2
    exact ⟨s.validate_none_of_content other now token claims content (s.username_expired now claims expired),
      l.validate_bad_of_content other now token claims content (l.return_url_expired now claims expired)⟩
  login l set now target issued s other later := by
    have content := content_signed set _ token issued
    exact s.validate_none_of_content other later token _ content (s.username_of_login later _ _ rfl)
  session s set now username cookie issued value l other later := by
    obtain ⟨text, signed, made⟩ := (Sessions.issue_ok_iff _ _ _ _ _).mp issued
    subst made
    cases value
    exact l.validate_bad_of_content other later text _ (content_signed set _ text signed)
      (l.return_url_of_session later _ username rfl)

def hostileName : String := "ann\",\"sub\":\"state:redir_cookie\",\"return_url\":\"/"

-- A name that reads like the members of a login is still the name of a session, up to its last second.
theorem has_one_meaning_of_hostile_name :
    ∃ cookie, Sessions.issue ⟨"app", "sid"⟩ ⟨[[7]]⟩ 100 hostileName = .ok cookie ∧
      Sessions.validate ⟨"app", "sid"⟩ ⟨[[8], [7]]⟩ 7299 cookie.value = .ok (some hostileName) ∧
      Logins.validate ⟨"app"⟩ ⟨[[8], [7]]⟩ 7299 cookie.value = .error .badState ∧
      Sessions.validate ⟨"app", "sid"⟩ ⟨[[7]]⟩ 7300 cookie.value = .ok none := by
  obtain ⟨token, signed⟩ := sign_given ⟨[[7]]⟩ (Claims.issue "app" 100 Sessions.lifetime (.session hostileName)) [7] rfl
  have issued := (Sessions.issue_ok_iff ⟨"app", "sid"⟩ ⟨[[7]]⟩ 100 hostileName _).mpr ⟨token, signed, rfl⟩
  have valid := Sessions.validate_issued ⟨"app", "sid"⟩ ⟨[[7]]⟩ ⟨[[8], [7]]⟩ 100 7299 hostileName _ issued (by decide)
    (by decide) (by decide) (by decide)
  have verified := verify_signed ⟨[[7]]⟩ ⟨[[7]]⟩ _ token signed fun _ kept => kept
  have meaning := has_one_meaning token
  exact ⟨_, issued, valid, meaning.session _ _ _ _ _ issued rfl _ _ _,
    (meaning.expiry _ _ verified 7300 (by decide) _ ⟨"app"⟩ _).1⟩

end Token

end LoginGateway
