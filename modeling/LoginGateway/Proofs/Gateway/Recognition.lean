import LoginGateway.Proofs.Cookie.Browser
import LoginGateway.Proofs.Gateway.Rejection

/-!
A session on its way through a browser. Every name that is not blank is accepted for its cookie, but not under every name
does the cookie come back: then its user is sent to the provider again and again.
-/
set_option autoImplicit false

namespace LoginGateway.Gateway

theorem cookie_name_filled (config : Config) (g : Gateway) (start : KeySet) (built : ofConfig config = .ok (g, start)) :
    Text.isBlankText g.sessions.cookieName = false := by
  rw [(of_config_parts config g start built).sessions]
  exact config.filled_is_filled.cookieName

theorem cookie_known (g : Gateway) (keys later : KeySet) (n t : UInt64) (username : String) (cookie : SessionCookie)
    (issued : g.sessions.issue keys n username = .ok cookie) (named : username ≠ "")
    (kept : ∀ key ∈ keys.keys, key ∈ later.keys) (since : n ≤ t) (before : t < cookie.expires) (r : Request)
    (uncertified : ∀ name, ¬ g.Certifies r name) (shown : g.Shows r cookie.value) :
    g.resolve later t r = .authenticated username .sessionCookie := by
  obtain ⟨signed, _, expires⟩ := g.sessions.issued_parts keys n username cookie issued
  have verified := Token.verify_signed keys later _ cookie.value signed kept
  rw [expires] at before
  have current := (Claims.issue_current_until g.sessions.issuer n Sessions.lifetime t (.session username)).mpr
    ⟨since, before⟩
  have valid := (Sessions.validate_ok_iff _ _ _ _ _).mpr ⟨named, _, verified, rfl, rfl, current⟩
  have user := (session_user_iff g later t r username).mpr ⟨cookie.value, shown, valid⟩
  exact (resolve_session_iff g later t r username).mpr ⟨(certified_none_iff g r).mpr uncertified, user⟩

theorem cookie_unknown (g : Gateway) (keys : KeySet) (now : UInt64) (r : Request)
    (uncertified : ∀ name, ¬ g.Certifies r name) (missing : Cookie.find? r.cookies g.sessions.cookieName = none) :
    g.resolve keys now r = .respond (g.toProvider keys now r) := by
  apply resolved_stranger g keys now r uncertified
  intro token shown
  cases missing.symm.trans shown

theorem issued_cookie_recognised_iff (config : Config) (g : Gateway) (start : KeySet)
    (built : ofConfig config = .ok (g, start)) (steps : List Step) (keys : KeySet)
    (reached : keys = (g.run start steps).1) (b : Cookie.Browser) (username : String) (named : username ≠ "") (n : UInt64) :
    ∃ cookie, g.sessions.issue keys n username = .ok cookie ∧ cookie.name = config.filled.cookieName ∧
      (Cookie.find? (b.sent? cookie.header) cookie.name = some cookie.value ↔ b.Returns cookie.name) ∧
      ∀ (later : KeySet) (t : UInt64) (r : Request), (∀ key ∈ keys.keys, key ∈ later.keys) → n ≤ t → t < cookie.expires →
        r.cookies = b.sent? cookie.header → (∀ name, ¬ g.Certifies r name) →
          (b.Returns cookie.name → g.resolve later t r = .authenticated username .sessionCookie) ∧
          (¬ b.Returns cookie.name → g.resolve later t r = .respond (g.toProvider later t r)) := by
  obtain ⟨key, signing⟩ := reached_signs config g start built steps keys reached
  obtain ⟨cookie, issued⟩ := g.sessions.issue_given keys n username key signing
  obtain ⟨_, name, _⟩ := g.sessions.issued_parts keys n username cookie issued
  have configured : g.sessions.cookieName = config.filled.cookieName := by
    rw [(of_config_parts config g start built).sessions]
  have filled := cookie_name_filled config g start built
  rw [← name] at filled
  have bare := g.sessions.issued_bare keys n username cookie issued
  have found := b.find_returned cookie filled bare
  have missing := b.find_lost cookie filled bare
  refine ⟨cookie, issued, name.trans configured, ⟨fun back => ?_, found⟩, ?_⟩
  · by_contra lost
    cases (missing lost).symm.trans back
  · intro later t r kept since before cookies uncertified
    constructor
    · intro returns
      apply cookie_known g keys later n t username cookie issued named kept since before r uncertified
      rw [Shows, cookies, ← name]
      exact found returns
    · intro lost
      apply cookie_unknown g later t r uncertified
      rw [cookies, ← name]
      exact missing lost

def sampleNamed (name : String) : Gateway := { sample with sessions := ⟨"app", name⟩ }

-- A blank inside and a no-break space at the end: a browser leaves both, and so does the gateway.
theorem issued_cookie_recognised_under_spaced_name :
    ofConfig { sampleConfig with cookieName := "my sid\u00a0" } = .ok (sampleNamed "my sid\u00a0", ⟨[[107]]⟩) ∧
      ∃ cookie, (sampleNamed "my sid\u00a0").sessions.issue ⟨[[107]]⟩ 100 "ann" = .ok cookie ∧
        (sampleNamed "my sid\u00a0").resolve ⟨[[109], [107]]⟩ 7299
            ⟨"GET", "/", some "h", Cookie.Browser.standard.sent? cookie.header, some [["", "ca"]]⟩ =
          .authenticated "ann" .sessionCookie := by
  have built : ofConfig { sampleConfig with cookieName := "my sid\u00a0" } =
      .ok (sampleNamed "my sid\u00a0", ⟨[[107]]⟩) := rfl
  obtain ⟨cookie, issued, _, _, recognised⟩ := issued_cookie_recognised_iff _ _ _ built [] ⟨[[107]]⟩ rfl
    Cookie.Browser.standard "ann" (by decide) 100
  obtain ⟨_, name, expires⟩ := Sessions.issued_parts _ _ _ _ _ issued
  have returns : Cookie.Browser.standard.Returns cookie.name := by
    rw [name]
    refine ⟨⟨by decide, by decide, fun c head => ?_⟩, fun c last => ?_⟩
    · rw [← Option.some.inj head]
      decide
    · rw [← Option.some.inj last]
      decide
  have before : (7299 : UInt64) < cookie.expires := by
    rw [expires]
    decide
  let visit : Request := ⟨"GET", "/", some "h", Cookie.Browser.standard.sent? cookie.header, some [["", "ca"]]⟩
  have uncertified : ∀ leaf, ¬ (sampleNamed "my sid\u00a0").Certifies visit leaf := (certified_none_iff _ visit).mp rfl
  obtain ⟨known, _⟩ := recognised ⟨[[109], [107]]⟩ 7299 visit (by decide) (by decide) before rfl uncertified
  exact ⟨built, cookie, issued, known returns⟩

-- A name with a blank at its end is accepted. The browser trims it, and the session, good as it is, is never found.
theorem issued_cookie_forgotten :
    ofConfig { sampleConfig with cookieName := "sid " } = .ok (sampleNamed "sid ", ⟨[[107]]⟩) ∧
      ∃ cookie location, (sampleNamed "sid ").sessions.issue ⟨[[107]]⟩ 100 "ann" = .ok cookie ∧
        Cookie.Browser.standard.sent? cookie.header = some ("sid=" ++ cookie.value) ∧
        (sampleNamed "sid ").sessions.validate ⟨[[107]]⟩ 101 cookie.value = .ok (some "ann") ∧
        Cookie.find? (some ("sid=" ++ cookie.value)) "sid " = none ∧
        (sampleNamed "sid ").resolve ⟨[[107]]⟩ 101 ⟨"GET", "/", some "h", some ("sid=" ++ cookie.value), none⟩ =
          .respond (.redirect location none) := by
  obtain ⟨cookie, issued⟩ := (sampleNamed "sid ").sessions.issue_given ⟨[[107]]⟩ 100 "ann" [107] rfl
  obtain ⟨_, name, _⟩ := Sessions.issued_parts _ _ _ _ _ issued
  have bare := Sessions.issued_bare _ _ _ _ _ issued
  have filled : Text.isBlankText cookie.name = false := by
    rw [name]
    decide
  have lost : ¬ Cookie.Browser.standard.Returns cookie.name := by
    rw [name]
    intro returns
    have trimmed := returns.last ' ' (by decide)
    cases trimmed
  have sent : Cookie.Browser.standard.sent? cookie.header = some ("sid=" ++ cookie.value) := by
    rw [Cookie.Browser.sent_pair _ cookie (by rw [name]; decide) (by rw [name]; decide) filled bare, name]
    have stripped : Text.strip Cookie.Browser.standard.trims "sid ".toList = "sid".toList := by decide
    change some (String.ofList (Text.strip _ "sid ".toList ++ '=' :: cookie.value.toList)) = _
    rw [stripped]
    simp [String.ext_iff]
  have missing := Cookie.Browser.find_lost _ cookie filled bare lost
  rw [sent, name] at missing
  have valid := Sessions.validate_issued _ ⟨[[107]]⟩ ⟨[[107]]⟩ 100 101 "ann" cookie issued (by decide) (fun _ kept => kept)
    (by decide) (by decide)
  let visit : Request := ⟨"GET", "/", some "h", some ("sid=" ++ cookie.value), none⟩
  have uncertified : ∀ leaf, ¬ (sampleNamed "sid ").Certifies visit leaf := (certified_none_iff _ visit).mp rfl
  have hosted : ¬ (sampleNamed "sid ").IsHostless visit := by
    rintro ⟨_, blank⟩
    have letter := blank "h" rfl 'h' (by decide)
    cases letter
  obtain ⟨uri, state, _, _, redirected⟩ := to_provider_sent (sampleNamed "sid ") ⟨[[107]]⟩ 101 visit ⟨[107], rfl⟩ hosted
  have resolved := cookie_unknown (sampleNamed "sid ") ⟨[[107]]⟩ 101 visit uncertified missing
  rw [redirected] at resolved
  exact ⟨rfl, cookie, _, issued, sent, valid, missing, resolved⟩

end LoginGateway.Gateway
