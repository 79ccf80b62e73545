import LoginGateway.Session
import LoginGateway.Login
import LoginGateway.Proofs.Token.Verification

/-!
How long what is issued holds, and who is told what it says: sessions and logins are read from claims
of their own purpose and issuer, in the span of time that they were issued for.
-/
set_option autoImplicit false

namespace LoginGateway

theorem Claims.later_value (now seconds : UInt64) :
    (later now seconds).toNat = min (now.toNat + seconds.toNat) (Text.Decimal.wordLimit - 1) := by
  have limit : Text.Decimal.wordLimit = 2 ^ 64 := rfl
  rw [later]
  by_cases fits : now.toNat + seconds.toNat < Text.Decimal.wordLimit
  · rw [if_pos fits, UInt64.toNat_add]
    omega
  · have last : (0xFFFFFFFFFFFFFFFF : UInt64).toNat = 2 ^ 64 - 1 := rfl
    rw [if_neg fits]
    omega

theorem Claims.issue_current_until (issuer : String) (now lifetime t : UInt64) (purpose : Purpose) :
    (issue issuer now lifetime purpose).isCurrent t ↔ now ≤ t ∧ t < later now lifetime := by
  rw [isCurrent, Bool.and_eq_true, decide_eq_true_iff, decide_eq_true_iff]
  rfl

theorem Claims.issue_current_iff (issuer : String) (now lifetime t : UInt64) (purpose : Purpose) :
    (issue issuer now lifetime purpose).isCurrent t ↔
      now.toNat ≤ t.toNat ∧ t.toNat < min (now.toNat + lifetime.toNat) (Text.Decimal.wordLimit - 1) := by
  rw [issue_current_until, UInt64.le_iff_toNat_le, UInt64.lt_iff_toNat_lt, later_value]

theorem Token.verify_signed_by (set later : KeySet) (claims : Claims) (token : String) (key : Bytes)
    (signing : set.signingKey = .ok key) (kept : key ∈ later.keys) (signed : sign set claims = .ok token) :
    verify later token = .ok claims := by
  obtain ⟨first, signs, rfl⟩ := (sign_ok_iff set claims token).mp signed
  cases signing.symm.trans signs
  exact verify_sign_with later key claims ((KeySet.signing_key_iff set key).mp signing).1 kept

theorem Token.verify_signed (set later : KeySet) (claims : Claims) (token : String)
    (signed : sign set claims = .ok token) (kept : ∀ key ∈ set.keys, key ∈ later.keys) :
    verify later token = .ok claims := by
  obtain ⟨key, signs, _⟩ := (sign_ok_iff set claims token).mp signed
  obtain ⟨_, others, first⟩ := (KeySet.signing_key_iff set key).mp signs
  exact verify_signed_by set later claims token key signs (kept key (by simp [first])) signed

theorem Token.verified_bind {α : Type} (set : KeySet) (token : String) (use : Claims → Option α) (result : α) :
    (verify set token).toOption.bind use = some result ↔
      ∃ claims, verify set token = .ok claims ∧ use claims = some result := by
  cases verify set token with
  | error e => simp [Except.toOption]
  | ok claims => simp [Except.toOption]

theorem Sessions.username_iff (s : Sessions) (now : UInt64) (claims : Claims) (username : String) :
    s.username? now claims = some username ↔
      claims.purpose = .session username ∧ claims.issuer = s.issuer ∧ claims.isCurrent now := by
  rw [username?]
  cases purpose : claims.purpose with
  | login returnUrl => simp
  | session name =>
      by_cases holds : claims.issuer = s.issuer ∧ claims.isCurrent now
      · simp [holds]
      · have refused : ¬ (claims.issuer = s.issuer && claims.isCurrent now) := by simpa using holds
        simp only [refused]
        simp [holds]

theorem Sessions.validate_ok_iff (s : Sessions) (set : KeySet) (now : UInt64) (token username : String) :
    s.validate set now token = .ok (some username) ↔
      username ≠ "" ∧ ∃ claims, Token.verify set token = .ok claims ∧
        claims.purpose = .session username ∧ claims.issuer = s.issuer ∧ claims.isCurrent now := by
  have read (name : String) := Token.verified_bind set token (s.username? now) name
  simp only [username_iff] at read
  rw [validate]
  rw [← read]
  cases found : (Token.verify set token).toOption.bind (s.username? now) with
  | none => simp
  | some name =>
      by_cases empty : name.isEmpty
      · have blank : name = "" := by simpa using empty
        simp only [empty, if_true]
        constructor
        · intro same
          cases same
        · intro given
          exact absurd ((Option.some.inj given.2).symm.trans blank) given.1
      · have filled : name ≠ "" := by simpa using empty
        simp only [empty]
        constructor
        · intro same
          cases same
          exact ⟨filled, rfl⟩
        · intro given
          cases given.2
          rfl

theorem Sessions.validate_none_iff (s : Sessions) (set : KeySet) (now : UInt64) (token : String) :
    s.validate set now token = .ok none ↔
      ∀ claims, Token.verify set token = .ok claims → s.username? now claims = none := by
  rw [validate]
  cases Token.verify set token with
  | error e => simp [Except.toOption]
  | ok claims =>
      cases read : s.username? now claims with
      | none => simp [Except.toOption, read]
      | some name => by_cases empty : name.isEmpty <;> simp [Except.toOption, read, empty]

theorem Sessions.validate_error_iff (s : Sessions) (set : KeySet) (now : UInt64) (token : String) (e : Error) :
    s.validate set now token = .error e ↔
      e = .badSession ∧ ∃ claims, Token.verify set token = .ok claims ∧
        claims.purpose = .session "" ∧ claims.issuer = s.issuer ∧ claims.isCurrent now := by
  have read := Token.verified_bind set token (s.username? now) ""
  simp only [username_iff] at read
  rw [validate, ← read]
  cases (Token.verify set token).toOption.bind (s.username? now) with
  | none => simp
  | some name =>
      by_cases blank : name = ""
      · subst blank
        constructor
        · intro same
          exact ⟨(Except.error.inj same).symm, rfl⟩
        · rintro ⟨rfl, _⟩
          rfl
      · have filled : name.isEmpty = false := by simpa using blank
        simp [filled, blank]

theorem Sessions.issue_ok_iff (s : Sessions) (set : KeySet) (now : UInt64) (username : String) (cookie : SessionCookie) :
    s.issue set now username = .ok cookie ↔
      ∃ token, Token.sign set (Claims.issue s.issuer now lifetime (.session username)) = .ok token ∧
        cookie = ⟨s.cookieName, token, Claims.later now lifetime⟩ := by
  unfold issue
  dsimp only
  cases Token.sign set (Claims.issue s.issuer now lifetime (.session username)) with
  | error e => simp [Except.map]
  | ok token => simp [Except.map, Claims.issue, eq_comm]

theorem Sessions.issue_given (s : Sessions) (set : KeySet) (now : UInt64) (username : String) (key : Bytes)
    (signing : set.signingKey = .ok key) : ∃ cookie, s.issue set now username = .ok cookie := by
  obtain ⟨token, signed⟩ := Token.sign_given set (Claims.issue s.issuer now lifetime (.session username)) key signing
  exact ⟨_, (issue_ok_iff s set now username _).mpr ⟨token, signed, rfl⟩⟩

theorem Sessions.issued_parts (s : Sessions) (set : KeySet) (now : UInt64) (username : String) (cookie : SessionCookie)
    (issued : s.issue set now username = .ok cookie) :
    Token.sign set (Claims.issue s.issuer now lifetime (.session username)) = .ok cookie.value ∧
      cookie.name = s.cookieName ∧ cookie.expires = Claims.later now lifetime := by
  obtain ⟨token, signed, rfl⟩ := (issue_ok_iff s set now username cookie).mp issued
  simp only [signed, and_self]

theorem Sessions.validate_issued (s : Sessions) (set later : KeySet) (now t : UInt64) (username : String)
    (cookie : SessionCookie) (issued : s.issue set now username = .ok cookie) (named : username ≠ "")
    (kept : ∀ key ∈ set.keys, key ∈ later.keys) (since : now.toNat ≤ t.toNat)
    (soon : t.toNat < min (now.toNat + 7200) (Text.Decimal.wordLimit - 1)) :
    s.validate later t cookie.value = .ok (some username) := by
  obtain ⟨token, signed, rfl⟩ := (issue_ok_iff _ _ _ _ _).mp issued
  apply (validate_ok_iff _ _ _ _ _).mpr
  refine ⟨named, _, Token.verify_signed set later _ token signed kept, rfl, rfl, ?_⟩
  exact (Claims.issue_current_iff _ _ _ _ _).mpr ⟨since, soon⟩

theorem Logins.return_url_iff (l : Logins) (now : UInt64) (claims : Claims) (returnUrl : String) :
    l.returnUrl? now claims = some returnUrl ↔
      claims.purpose = .login returnUrl ∧ claims.issuer = l.issuer ∧ claims.isCurrent now := by
  rw [returnUrl?]
  cases purpose : claims.purpose with
  | session username => simp
  | login place =>
      by_cases holds : claims.issuer = l.issuer ∧ claims.isCurrent now
      · simp [holds]
      · have refused : ¬ (claims.issuer = l.issuer && claims.isCurrent now) := by simpa using holds
        simp only [refused]
        simp [holds]

theorem Logins.validate_ok_iff (l : Logins) (set : KeySet) (now : UInt64) (token returnUrl : String) :
    l.validate set now token = .ok returnUrl ↔
      ∃ claims, Token.verify set token = .ok claims ∧
        claims.purpose = .login returnUrl ∧ claims.issuer = l.issuer ∧ claims.isCurrent now := by
  have read := Token.verified_bind set token (l.returnUrl? now) returnUrl
  simp only [return_url_iff] at read
  rw [validate]
  rw [← read]
  cases (Token.verify set token).toOption.bind (l.returnUrl? now) <;> simp

theorem Logins.validate_error_iff (l : Logins) (set : KeySet) (now : UInt64) (token : String) (e : Error) :
    l.validate set now token = .error e ↔
      e = .badState ∧ ∀ claims, Token.verify set token = .ok claims → l.returnUrl? now claims = none := by
  rw [validate]
  cases Token.verify set token with
  | error e => simp [Except.toOption, eq_comm]
  | ok claims => cases read : l.returnUrl? now claims <;> simp [Except.toOption, read, eq_comm]

theorem Logins.issued_filled (l : Logins) (set : KeySet) (now : UInt64) (target state : String)
    (issued : l.issue set now target = .ok state) : state ≠ "" := by
  obtain ⟨key, _, rfl⟩ := (Token.sign_ok_iff _ _ _).mp issued
  intro blank
  have empty := congrArg String.toList blank
  simp [Token.signWith] at empty

theorem Logins.validate_issued (l : Logins) (set later : KeySet) (now t : UInt64) (target state : String)
    (issued : l.issue set now target = .ok state) (kept : ∀ key ∈ set.keys, key ∈ later.keys)
    (since : now.toNat ≤ t.toNat) (soon : t.toNat < min (now.toNat + 300) (Text.Decimal.wordLimit - 1)) :
    l.validate later t state = .ok (ReturnUrl.derived target) := by
  apply (validate_ok_iff _ _ _ _ _).mpr
  refine ⟨_, Token.verify_signed set later _ state issued kept, rfl, rfl, ?_⟩
  exact (Claims.issue_current_iff _ _ _ _ _).mpr ⟨since, soon⟩

end LoginGateway
