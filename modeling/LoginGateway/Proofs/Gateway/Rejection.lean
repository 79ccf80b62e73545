import LoginGateway.Proofs.Gateway.Verdict

/-!
What an answer tells about a token that is not accepted: nothing. Whether it is forged, out of date, from another
gateway or made for another purpose, its bearer is sent to the provider like a visitor without a cookie, and a callback
with it is refused like one without a state.
-/
set_option autoImplicit false

namespace LoginGateway

def Purpose.IsSession (p : Purpose) : Prop := ∃ username, p = .session username

def Purpose.IsLogin (p : Purpose) : Prop := ∃ returnUrl, p = .login returnUrl

namespace Token

-- Why a token is not accepted. What no key in use would have signed is forged, and so is what a dropped key has signed.
inductive Rejected (kind : Purpose → Prop) (issuer : String) (keys : KeySet) (now : UInt64) (token : String) : Prop
  | forged (unsigned : ∀ claims, ¬ Authentic keys token claims)
  | otherKind (claims : Claims) (genuine : Authentic keys token claims) (other : ¬ kind claims.purpose)
  | foreign (claims : Claims) (genuine : Authentic keys token claims) (other : claims.issuer ≠ issuer)
  | early (claims : Claims) (genuine : Authentic keys token claims) (before : now < claims.notBefore)
  | expired (claims : Claims) (genuine : Authentic keys token claims) (ended : claims.expires ≤ now)

theorem authentic_same (keys : KeySet) (token : String) (claims found : Claims) (genuine : Authentic keys token claims)
    (again : Authentic keys token found) : found = claims :=
  verified_same keys keys token claims found ((verify_ok_iff_authentic keys token claims).mpr genuine)
    ((verify_ok_iff_authentic keys token found).mpr again)

theorem rejected_not_accepted (kind : Purpose → Prop) (issuer : String) (keys : KeySet) (now : UInt64) (token : String)
    (rejected : Rejected kind issuer keys now token) (claims : Claims) (genuine : Authentic keys token claims)
    (fits : kind claims.purpose) (own : claims.issuer = issuer) : ¬ claims.isCurrent now := by
  simp only [Claims.isCurrent, Bool.and_eq_true, decide_eq_true_eq, not_and]
  intro since before
  cases rejected with
  | forged unsigned => exact unsigned claims genuine
  | otherKind found again other =>
      cases authentic_same keys token claims found genuine again
      exact other fits
  | foreign found again other =>
      cases authentic_same keys token claims found genuine again
      exact other own
  | early found again early =>
      cases authentic_same keys token claims found genuine again
      exact UInt64.not_lt.mpr since early
  | expired found again ended =>
      cases authentic_same keys token claims found genuine again
      exact UInt64.not_lt.mpr ended before

theorem rejected_iff (kind : Purpose → Prop) (issuer : String) (keys : KeySet) (now : UInt64) (token : String) :
    Rejected kind issuer keys now token ↔
      ∀ claims, verify keys token = .ok claims → kind claims.purpose → claims.issuer = issuer →
        ¬ claims.isCurrent now := by
  constructor
  · intro rejected claims verified
    exact rejected_not_accepted kind issuer keys now token rejected claims
      ((verify_ok_iff_authentic keys token claims).mp verified)
  · intro refused
    cases verified : verify keys token with
    | error e => exact .forged ((verify_error_iff keys token e).mp verified).2
    | ok claims =>
        have genuine := (verify_ok_iff_authentic keys token claims).mp verified
        by_cases fits : kind claims.purpose
        · by_cases own : claims.issuer = issuer
          · have outside := refused claims verified fits own
            simp only [Claims.isCurrent, Bool.and_eq_true, decide_eq_true_eq, not_and_or] at outside
            rcases outside with early | ended
            · exact .early claims genuine (UInt64.not_le.mp early)
            · exact .expired claims genuine (UInt64.not_lt.mp ended)
          · exact .foreign claims genuine own
        · exact .otherKind claims genuine fits

end Token

theorem Sessions.validate_none_iff_rejected (s : Sessions) (keys : KeySet) (now : UInt64) (token : String) :
    s.validate keys now token = .ok none ↔ Token.Rejected Purpose.IsSession s.issuer keys now token := by
  rw [validate_none_iff, Token.rejected_iff]
  apply forall_congr'
  intro claims
  apply imp_congr_right
  intro _
  rw [Option.eq_none_iff_forall_ne_some]
  constructor
  · intro unread kind own current
    obtain ⟨username, purpose⟩ := kind
    exact unread username ((s.username_iff now claims username).mpr ⟨purpose, own, current⟩)
  · intro refused username read
    obtain ⟨purpose, own, current⟩ := (s.username_iff now claims username).mp read
    exact refused ⟨username, purpose⟩ own current

theorem Logins.validate_bad_iff_rejected (l : Logins) (keys : KeySet) (now : UInt64) (token : String) :
    l.validate keys now token = .error .badState ↔ Token.Rejected Purpose.IsLogin l.issuer keys now token := by
  rw [validate_error_iff, Token.rejected_iff, and_iff_right rfl]
  apply forall_congr'
  intro claims
  apply imp_congr_right
  intro _
  rw [Option.eq_none_iff_forall_ne_some]
  constructor
  · intro unread kind own current
    obtain ⟨returnUrl, purpose⟩ := kind
    exact unread returnUrl ((l.return_url_iff now claims returnUrl).mpr ⟨purpose, own, current⟩)
  · intro refused returnUrl read
    obtain ⟨purpose, own, current⟩ := (l.return_url_iff now claims returnUrl).mp read
    exact refused ⟨returnUrl, purpose⟩ own current

namespace Gateway

variable (g : Gateway) (keys : KeySet) (now : UInt64)

def ShowsNoSession (r : Request) : Prop :=
  ∀ token, g.Shows r token → Token.Rejected Purpose.IsSession g.sessions.issuer keys now token

def BringsBadState (r : Request) : Prop :=
  ∀ state, Request.parameter? r.target "state" = some state →
    Token.Rejected Purpose.IsLogin g.logins.issuer keys now state

theorem shows_no_session_iff (r : Request) : g.ShowsNoSession keys now r ↔ g.sessionUser keys now r = .ok none := by
  rw [sessionUser]
  simp only [ShowsNoSession, Shows, ← Sessions.validate_none_iff_rejected]
  cases Cookie.find? r.cookies g.sessions.cookieName with
  | none => simp
  | some token => simp

theorem resolved_stranger (r : Request) (uncertified : ∀ name, ¬ g.Certifies r name)
    (sessionless : g.ShowsNoSession keys now r) : g.resolve keys now r = .respond (g.toProvider keys now r) := by
  rw [resolve, (certified_none_iff g r).mpr uncertified, (g.shows_no_session_iff keys now r).mp sessionless]

theorem to_provider_without_cookie (r : Request) (location : String) (cookie : Option String)
    (sent : g.toProvider keys now r = .redirect location cookie) : cookie = none :=
  ((to_provider_redirect_iff g keys now r location cookie).mp sent).2

theorem bad_state_brings_none (r : Request) (bad : g.BringsBadState keys now r) : ¬ g.BringsState keys now r := by
  intro stated
  obtain ⟨state, returnUrl, brought, valid⟩ := stated
  rw [(g.logins.validate_bad_iff_rejected keys now state).mpr (bad state brought)] at valid
  cases valid

theorem callback_bad_state (r : Request) (script : Script) (get : r.method = "GET") (coded : BringsCode r)
    (bad : g.BringsBadState keys now r) :
    g.callback keys now r script = ⟨.failure 401 "null or bad inboundState", []⟩ :=
  g.callback_refused keys now r script _
    (g.refused_state keys now r get coded (g.bad_state_brings_none keys now r bad))

theorem rejected_credentials_alike :
    (∀ token, g.sessions.validate keys now token = .ok none ↔
      Token.Rejected Purpose.IsSession g.sessions.issuer keys now token) ∧
    (∀ token, g.logins.validate keys now token = .error .badState ↔
      Token.Rejected Purpose.IsLogin g.logins.issuer keys now token) ∧
    (∀ (r : Request) (cookies : Option String), (∀ name, ¬ g.Certifies r name) → g.ShowsNoSession keys now r →
      g.ShowsNoSession keys now { r with cookies } →
      ∃ response, g.resolve keys now r = .respond response ∧
        g.resolve keys now { r with cookies } = .respond response ∧
        ∀ location cookie, response = .redirect location cookie → cookie = none) ∧
    ∀ (r other : Request) (script otherScript : Script), r.method = "GET" → other.method = "GET" →
      BringsCode r → BringsCode other → g.BringsBadState keys now r → g.BringsBadState keys now other →
      g.callback keys now r script = g.callback keys now other otherScript ∧
        (g.callback keys now r script).attempts = [] := by
  refine ⟨g.sessions.validate_none_iff_rejected keys now, g.logins.validate_bad_iff_rejected keys now, ?_, ?_⟩
  · intro r cookies uncertified sessionless sessionlessToo
    -- The cookies are not read on the way to the provider, so that it is the same way for both.
    exact ⟨_, g.resolved_stranger keys now r uncertified sessionless,
      g.resolved_stranger keys now { r with cookies } uncertified sessionlessToo,
      g.to_provider_without_cookie keys now r⟩
  · intro r other script otherScript get getToo coded codedToo bad badToo
    rw [g.callback_bad_state keys now r script get coded bad,
      g.callback_bad_state keys now other otherScript getToo codedToo badToo]
    exact ⟨rfl, rfl⟩

theorem rejected_credentials_alike_after_session :
    ∃ token response,
      sample.sessions.validate ⟨[[107]]⟩ 7299 token = .ok (some "ann") ∧
      sample.sessions.validate ⟨[[107]]⟩ 7300 token = .ok none ∧
      sample.resolve ⟨[[107]]⟩ 7300 ⟨"GET", "/page", some "h", none, none⟩ = .respond response ∧
      sample.resolve ⟨[[107]]⟩ 7300 ⟨"GET", "/page", some "h", some ("auth_cookie" ++ "=" ++ token), none⟩ =
        .respond response ∧
      (sample.callback ⟨[[107]]⟩ 7300 ⟨"GET", sample.callbackTarget "c" token, some "h", none, none⟩ sampleReplies) =
        sample.callback ⟨[[107]]⟩ 7300 ⟨"GET", "/auth/oauth2/callback?code=c", some "h", none, none⟩ ⟨[], .refused⟩ := by
  obtain ⟨token, signed⟩ :=
    Token.sign_given ⟨[[107]]⟩ (Claims.issue "app" 100 Sessions.lifetime (.session "ann")) [107] rfl
  have issued := (Sessions.issue_ok_iff sample.sessions ⟨[[107]]⟩ 100 "ann" _).mpr ⟨token, signed, rfl⟩
  have held := sample.sessions.validate_issued ⟨[[107]]⟩ ⟨[[107]]⟩ 100 7299 "ann" _ issued (by decide)
    (fun _ kept => kept) (by decide) (by decide)
  have carried := sample.sessions.issued_carried _ 100 "ann" _ issued (by decide) (by decide)
  have verified := Token.verify_signed ⟨[[107]]⟩ ⟨[[107]]⟩ _ token signed fun _ kept => kept
  have genuine := (Token.verify_ok_iff_authentic _ _ _).mp verified
  let visitor : Request := ⟨"GET", "/page", some "h", none, none⟩
  let bearer : Request := { visitor with cookies := some ("auth_cookie" ++ "=" ++ token) }
  let bare : Request := ⟨"GET", "/auth/oauth2/callback?code=c", some "h", none, none⟩
  have shown : sample.Shows bearer token := Cookie.find_carried _ _ token (by decide) carried
  have sessionless : sample.ShowsNoSession ⟨[[107]]⟩ 7300 visitor := by
    intro other shown
    cases shown
  have ended : sample.ShowsNoSession ⟨[[107]]⟩ 7300 bearer := by
    intro other shownToo
    cases Option.some.inj (shown.symm.trans shownToo)
    exact .expired _ genuine (by decide)
  obtain ⟨code, state⟩ := callback_parameters sample sample_plain (sampleReturn token) "c" token rfl
  have coded : BringsCode (sampleReturn token) := by
    rw [← not_not (a := BringsCode _), uncoded_iff, code]
    decide
  have codedToo : BringsCode bare := ⟨"c", by decide, by decide⟩
  have bad : sample.BringsBadState ⟨[[107]]⟩ 7300 (sampleReturn token) := by
    intro other brought
    rw [Request.parameter, brought, Option.getD_some] at state
    cases state
    exact .otherKind _ genuine (by rintro ⟨_, login⟩; cases login)
  have badToo : sample.BringsBadState ⟨[[107]]⟩ 7300 bare := by
    have stateless : Request.parameter? bare.target "state" = none := by decide
    intro other brought
    rw [stateless] at brought
    cases brought
  obtain ⟨sessions, _, resolved, called⟩ := rejected_credentials_alike sample ⟨[[107]]⟩ 7300
  obtain ⟨response, first, second, _⟩ := resolved visitor bearer.cookies
    ((certified_none_iff sample visitor).mp rfl) sessionless ended
  exact ⟨token, response, held, (sessions token).mpr (.expired _ genuine (by decide)), first, second,
    (called _ bare sampleReplies ⟨[], .refused⟩ rfl rfl coded codedToo bad badToo).1⟩

end Gateway

end LoginGateway
