import LoginGateway.Proofs.Gateway.Traffic

/-!
The two ends of a login agree. The provider is told one address twice, in the way that the user is sent to it and in
the post that exchanges the code, and no character of what it is told is changed on the way.
-/
set_option autoImplicit false

namespace LoginGateway.Gateway

theorem redirect_uri_same (g : Gateway) (r back : Request)
    (same : schemeMark <:+: g.callbackPath.toList ∨ back.host.map Text.trimmed = r.host.map Text.trimmed) :
    g.redirectUri back = g.redirectUri r := by
  rw [redirectUri, redirectUri]
  rcases same with absolute | host
  · have found := (Text.contains_iff_infix _ _).mpr absolute
    rw [if_pos found, if_pos found]
  · rw [host]

theorem callback_first (g : Gateway) (keys : KeySet) (now : UInt64) (r : Request) (script : Script) (attempt : Attempt)
    (others : List Attempt) (called : (g.callback keys now r script).attempts = attempt :: others) :
    ∃ a, g.Arrives keys now r a ∧ attempt.post = g.provider.codePost a.code a.redirectUri := by
  cases arrived : g.arrival keys now r with
  | error response =>
      rw [callback, arrived] at called
      cases called
  | ok a =>
      rw [g.callback_attempts keys now r script a arrived] at called
      exact ⟨a, (g.arrival_arrives_iff keys now r a).mp arrived, g.provider.identify_first _ _ script _ _ called⟩

theorem callback_called (g : Gateway) (keys : KeySet) (now : UInt64) (r : Request) (script : Script) (a : Arrival)
    (arrives : g.Arrives keys now r a) (callable : g.provider.tokens.isCallable) :
    ∃ attempt others, (g.callback keys now r script).attempts = attempt :: others := by
  have posts := g.callback_posts keys now r script
  rw [g.asked_arrived keys now r script a arrives, Provider.asked] at posts
  cases called : (g.callback keys now r script).attempts with
  | cons attempt others => exact ⟨attempt, others, rfl⟩
  | nil =>
      rw [called] at posts
      simp [Provider.codePost, callable] at posts

theorem exchange_agrees_with_redirect (config : Config) (g : Gateway) (start : KeySet)
    (built : ofConfig config = .ok (g, start)) :
    (∀ (target : String) (path rest : List Char) (pairs : Form.Pairs), Url.Unmarked path →
      (∀ c ∈ rest.head?, c = '#') → target.toList = path ++ '?' :: Form.encode pairs ++ rest →
      Request.parameter? target "code" = pairs.lookup "code") ∧
    ∀ (keys : KeySet) (now : UInt64) (r : Request) (location : String) (cookie : Option String),
      g.resolve keys now r = .respond (.redirect location cookie) →
      ∃ uri state,
        Request.queryPairs location.toList = Form.decode (g.provider.authorization.query.getD []) ++
          [("response_type", "code"), ("client_id", config.clientId), ("scope", config.filled.scopes),
            ("redirect_uri", uri), ("state", state)] ∧
        ∀ (set : KeySet) (later : UInt64) (back : Request) (script : Script) (code : String) (attempt : Attempt)
          (others : List Attempt),
          (schemeMark <:+: g.callbackPath.toList ∨ back.host.map Text.trimmed = r.host.map Text.trimmed) →
          Request.parameter? back.target "code" = some code →
          (g.callback set later back script).attempts = attempt :: others →
          Url.ofString config.tokenUrl = .ok attempt.post.address ∧
          Form.decode attempt.post.body.toList =
            [("redirect_uri", uri), ("code", code), ("grant_type", "authorization_code"),
              ("client_id", config.clientId), ("client_secret", config.clientSecret)] := by
  have provider := of_config_provider config g start built
  refine ⟨fun target path rest pairs clear ends spelled =>
    Request.parameter_of_form target path rest pairs clear ends spelled "code", ?_⟩
  intro keys now r location cookie sent
  obtain ⟨_, _, located, _⟩ := (g.resolve_redirect_iff keys now r location cookie).mp sent
  obtain ⟨uri, state, reachable, issued, rfl⟩ := (g.authorization_url_ok_iff keys now r location).mp located
  refine ⟨uri, state, ?_, ?_⟩
  · rw [g.provider.authorization_url_pairs config.authUrl provider.authorization, Provider.authorizationPairs,
      if_neg (g.logins.issued_filled keys now r.target state issued), provider.clientId, provider.scopes]
    rfl
  · intro set later back script code attempt others same delivered called
    obtain ⟨a, arrives, posted⟩ := g.callback_first set later back script attempt others called
    have address : a.redirectUri = uri := by
      have again := arrives.redirect
      rw [g.redirect_uri_same r back same, reachable] at again
      exact (Except.ok.inj again).symm
    have carried : a.code = code := Option.some.inj (arrives.code.symm.trans delivered)
    rw [posted, Post.body_decodes, Provider.codePost, address, carried, provider.clientId, provider.clientSecret]
    exact ⟨provider.tokens, rfl⟩

theorem exchange_agrees_with_redirect_on_signs :
    ∃ location state uri attempt others,
      sample.resolve ⟨[[107]]⟩ 100 ⟨"GET", "/page", some " h\t", none, none⟩ = .respond (.redirect location none) ∧
      ("redirect_uri", uri) ∈ Request.queryPairs location.toList ∧
      (sample.callback ⟨[[107]]⟩ 399
        ⟨"GET", sample.callbackTarget "a&b=c+d%e#f é" state, some "h", none, none⟩ sampleReplies).attempts =
          attempt :: others ∧
      Form.decode attempt.post.body.toList =
        [("redirect_uri", uri), ("code", "a&b=c+d%e#f é"), ("grant_type", "authorization_code"), ("client_id", "c"),
          ("client_secret", "s")] := by
  obtain ⟨state, _, valid⟩ := sample_state "/"
  let visit : Request := ⟨"GET", "/page", some " h\t", none, none⟩
  let back : Request := ⟨"GET", sample.callbackTarget "a&b=c+d%e#f é" state, some "h", none, none⟩
  obtain ⟨location, _, begun, _⟩ := login_begins sample sample_plain "http://i/a"
    (of_config_reads sampleConfig sample _ sample_built) ⟨[[107]]⟩ ⟨[107], rfl⟩ 100 visit sampleReplies (by decide)
    ⟨" h\t", rfl, by decide⟩ ⟨rfl, rfl⟩
  have sent : sample.resolve ⟨[[107]]⟩ 100 visit = .respond (.redirect location none) := by
    rw [handled_visit _ _ _ _ _ (by decide)] at begun
    exact congrArg Handled.answer begun
  obtain ⟨again, arrived⟩ := callback_arrives sample sample_plain ⟨[[107]]⟩ 399 back "a&b=c+d%e#f é" state "/"
    (by decide) rfl rfl ⟨"h", rfl, by decide⟩ valid
  have arrives := (arrival_arrives_iff _ _ _ _ _).mp arrived
  obtain ⟨attempt, others, called⟩ := sample.callback_called ⟨[[107]]⟩ 399 back sampleReplies _ arrives (by decide)
  obtain ⟨_, agrees⟩ := exchange_agrees_with_redirect sampleConfig sample _ sample_built
  obtain ⟨uri, _, pairs, repeated⟩ := agrees ⟨[[107]]⟩ 100 visit location none sent
  have same : back.host.map Text.trimmed = visit.host.map Text.trimmed := by rfl
  obtain ⟨_, posted⟩ := repeated ⟨[[107]]⟩ 399 back sampleReplies "a&b=c+d%e#f é" attempt others (.inr same)
    arrives.code called
  exact ⟨location, state, uri, attempt, others, sent, by simp [pairs], called, posted⟩

end LoginGateway.Gateway
