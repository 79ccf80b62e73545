import Mathlib.Algebra.Group.Nat.Defs
import LoginGateway.Proofs.ReturnUrl
import LoginGateway.Proofs.Gateway.Answers
import LoginGateway.Proofs.Gateway.Keys
import LoginGateway.Proofs.Json.Fields
import LoginGateway.Proofs.Provider.Authorization

/-!
A whole login, over its three requests: a stranger is sent to the provider with a state, comes back
with it and a code, and is known from then on by the cookie that is set.
-/
set_option autoImplicit false

namespace LoginGateway.Gateway

-- What the names in a configuration leave out: the callback's path is a path and nothing else, a cookie
-- can bear its name, and the provider's own address gives no state.
structure IsPlain (g : Gateway) : Prop where
  path : Url.Unmarked g.callbackPath.toList
  relative : Text.contains schemeMark g.callbackPath.toList = false
  name : ';' ∉ g.sessions.cookieName.toList ∧ '=' ∉ g.sessions.cookieName.toList
  trimmed : Text.trim g.sessions.cookieName.toList = g.sessions.cookieName.toList
  free : ∀ value, ("state", value) ∉ Form.decode (g.provider.authorization.query.getD [])

def HasHost (r : Request) : Prop := ∃ host, r.host = some host ∧ Text.trimmed host ≠ ""

def IsStranger (g : Gateway) (keys : KeySet) (now : UInt64) (r : Request) : Prop :=
  g.certified? r = none ∧ g.sessionUser keys now r = .ok none

def callbackTarget (g : Gateway) (code state : String) : String :=
  g.callbackPath ++ "?" ++ String.ofList (Form.encode [("code", code), ("state", state)])

def Identifies (first second : Reply) (username : String) : Prop :=
  ∃ status body statusToo record token user,
    first = .complete status body ∧ second = .complete statusToo record ∧ status < 300 ∧ statusToo < 300 ∧
    readDocument AccessToken.ofJson? body = .ok token ∧ token.tokenType = "Bearer" ∧ token.token ≠ "" ∧
    readDocument UserInfo.ofJson? record = .ok user ∧ user.derived = username

theorem read_document_compact {α : Type} (decode : Json → Option α) (j : Json) (value : α) (plain : Json.isPlain j)
    (decoded : decode j = some value) : readDocument decode (Text.utf8 j.compact) = .ok value := by
  rw [readDocument, Json.read_compact j plain, Option.bind_some, decoded]

theorem identifies_reads (first second : Reply) (username : String) (identifies : Identifies first second username) :
    (∃ token, first.read AccessToken.ofJson? = .ok token ∧ token.isUsable) ∧
      ∃ user, second.read UserInfo.ofJson? = .ok user ∧ user.derived = username := by
  obtain ⟨status, body, statusToo, record, token, user, rfl, rfl, good, goodToo, read, bearer, filled, readToo, named⟩ :=
    identifies
  have first := (Reply.read_ok_iff _ _ token).mpr ⟨status, body, rfl, good, read⟩
  have second := (Reply.read_ok_iff _ _ user).mpr ⟨statusToo, record, rfl, goodToo, readToo⟩
  exact ⟨⟨token, first, (AccessToken.is_usable_iff token).mpr ⟨bearer, filled⟩⟩, user, second, named⟩

theorem callback_route (g : Gateway) (plain : g.IsPlain) : g.callbackRoute = g.callbackPath.toList := by
  have relative := plain.relative
  rw [Text.contains] at relative
  rw [callbackRoute]
  cases cut : Text.cutAt? schemeMark g.callbackPath.toList with
  | none => rfl
  | some parts => rw [cut] at relative; cases relative

theorem callback_target_text (g : Gateway) (code state : String) :
    (g.callbackTarget code state).toList =
      g.callbackPath.toList ++ '?' :: Form.encode [("code", code), ("state", state)] := by
  simp [callbackTarget]

theorem returns_to_callback (g : Gateway) (plain : g.IsPlain) (back : Request) (code state : String)
    (target : back.target = g.callbackTarget code state) : g.isCallback back = true := by
  have path := Request.path_of back _ _ plain.path (target ▸ callback_target_text g code state)
  exact decide_eq_true (path.trans (callback_route g plain).symm)

theorem callback_parameters (g : Gateway) (plain : g.IsPlain) (back : Request) (code state : String)
    (target : back.target = g.callbackTarget code state) :
    back.parameter "code" = code ∧ back.parameter "state" = state := by
  have sent := Request.parameter_of_form back.target g.callbackPath.toList [] [("code", code), ("state", state)]
    plain.path (by simp) (by rw [target, callback_target_text, List.append_nil])
  rw [Request.parameter, Request.parameter, sent, sent]
  exact ⟨rfl, rfl⟩

theorem host_kept (r : Request) (host : HasHost r) :
    ∃ name, r.host.map Text.trimmed = some name ∧ (r.host.map Text.trimmed).filter (· ≠ "") = some name := by
  obtain ⟨text, given, filled⟩ := host
  exact ⟨Text.trimmed text, by rw [given]; rfl, by simp [given, filled]⟩

theorem redirect_uri_given (g : Gateway) (r : Request) (host : HasHost r) : ∃ uri, g.redirectUri r = .ok uri := by
  obtain ⟨name, _, kept⟩ := host_kept r host
  rw [redirectUri, kept]
  by_cases absolute : Text.contains schemeMark g.callbackPath.toList
  · exact ⟨_, if_pos absolute⟩
  · exact ⟨_, if_neg absolute⟩

theorem login_begins (g : Gateway) (plain : g.IsPlain) (text : String)
    (read : Url.ofString text = .ok g.provider.authorization) (keys : KeySet) (signs : Signs keys) (now : UInt64)
    (r : Request) (script : Script) (visits : g.isCallback r = false) (host : HasHost r)
    (stranger : g.IsStranger keys now r) :
    ∃ location state, g.handle keys now r script = ⟨.respond (.redirect location none), []⟩ ∧
      Request.parameter? location "state" = some state ∧ g.logins.issue keys now r.target = .ok state := by
  obtain ⟨key, first⟩ := signs
  obtain ⟨uri, reachable⟩ := redirect_uri_given g r host
  obtain ⟨state, issued⟩ : ∃ state, g.logins.issue keys now r.target = .ok state := Token.sign_given keys _ key first
  have located := (authorization_url_ok_iff g keys now r _).mpr ⟨uri, state, reachable, issued, rfl⟩
  have resolved := (resolve_redirect_iff g keys now r _ none).mpr ⟨stranger.1, stranger.2, located, rfl⟩
  have found := Provider.authorization_state _ text read plain.free state uri
    (g.logins.issued_filled keys now r.target state issued)
  exact ⟨_, state, by simp [handle, visits, resolved], found, issued⟩

theorem callback_arrives (g : Gateway) (plain : g.IsPlain) (keys : KeySet) (now : UInt64) (back : Request)
    (code state returnUrl : String) (given : code ≠ "") (get : back.method = "GET")
    (target : back.target = g.callbackTarget code state) (host : HasHost back)
    (valid : g.logins.validate keys now state = .ok returnUrl) :
    ∃ uri, g.arrival keys now back = .ok ⟨code, returnUrl, uri⟩ := by
  obtain ⟨uri, reachable⟩ := redirect_uri_given g back host
  obtain ⟨codeSent, stateSent⟩ := callback_parameters g plain back code state target
  exact ⟨uri, (arrival_ok_iff _ _ _ _ _).mpr ⟨get, codeSent ▸ given, codeSent.symm, stateSent ▸ valid, reachable⟩⟩

theorem login_ends (g : Gateway) (plain : g.IsPlain) (keys : KeySet) (signs : Signs keys) (now : UInt64)
    (back : Request) (script : Script) (code state returnUrl username : String) (given : code ≠ "")
    (get : back.method = "GET") (target : back.target = g.callbackTarget code state) (host : HasHost back)
    (valid : g.logins.validate keys now state = .ok returnUrl) (first second : Reply)
    (identifies : Identifies first second username) (filled : username ≠ "") :
    (g.provider.tokens.isCallable → g.provider.userinfo.isCallable →
      (∃ rest, script.replies = first :: second :: rest) →
      (g.handle keys now back script).attempts.map Attempt.reply = [first, second]) ∧
    ((g.handle keys now back script).attempts.map Attempt.reply = [first, second] →
      ∃ session, g.sessions.issue keys now username = .ok session ∧
        (g.handle keys now back script).answer =
          .respond (.redirect (ReturnUrl.restricted returnUrl) (some session.header))) := by
  obtain ⟨uri, arrived⟩ := callback_arrives g plain keys now back code state returnUrl given get target host valid
  obtain ⟨⟨token, read, accepted⟩, user, readToo, rfl⟩ := identifies_reads first second username identifies
  rw [handled_callback g keys now back script (returns_to_callback g plain back code state target)]
  dsimp only
  rw [callback_attempts g keys now back script _ arrived]
  constructor
  · rintro tokens userinfo ⟨rest, replies⟩
    exact Provider.identify_attempts _ _ _ _ first second rest token tokens userinfo replies read accepted
  · intro replied
    obtain ⟨key, signing⟩ := signs
    have identified := Provider.identify_of_replies g.provider code uri script first second user replied readToo filled
    obtain ⟨session, issued⟩ := g.sessions.issue_given keys now user.derived key signing
    refine ⟨session, issued, congrArg Outcome.respond ?_⟩
    exact (callback_redirect_iff _ _ _ _ _ _ _).mpr ⟨_, _, session, arrived, identified, issued, rfl, rfl⟩

theorem session_shown (g : Gateway) (plain : g.IsPlain) (keys : KeySet) (now : UInt64) (visit : Request)
    (script : Script) (header value username : String) (visits : g.isCallback visit = false)
    (uncertified : g.certified? visit = none) (cookies : visit.cookies = some header)
    (carried : Cookie.Carries header g.sessions.cookieName value)
    (valid : g.sessions.validate keys now value = .ok (some username)) :
    g.handle keys now visit script = ⟨.authenticated username .sessionCookie, []⟩ := by
  have found : Cookie.find? visit.cookies g.sessions.cookieName = some value := by
    rw [cookies]
    exact Cookie.find_carried header _ value plain.name.2 carried
  have user := (session_user_iff g keys now visit username).mpr ⟨value, found, valid⟩
  have resolved := (resolve_session_iff g keys now visit username).mpr ⟨uncertified, user⟩
  simp [handle, visits, resolved]

theorem login_round_trip (config : Config) (g : Gateway) (start : KeySet) (built : ofConfig config = .ok (g, start))
    (plain : g.IsPlain) (before between later : List Step) (kept : NoRotation between) (keptToo : NoRotation later)
    (t0 t1 t2 : UInt64) (since : t0.toNat ≤ t1.toNat) (soon : t1.toNat < t0.toNat + 300)
    (fits : t0.toNat + 300 < 2 ^ 64) (sinceToo : t1.toNat ≤ t2.toNat) (soonToo : t2.toNat < t1.toNat + 7200)
    (fitsToo : t1.toNat + 7200 < 2 ^ 64) (r : Request) (idle : Script) (visits : g.isCallback r = false)
    (host : HasHost r) (stranger : g.IsStranger (g.run start before).1 t0 r) (code : String) (given : code ≠ "")
    (first second : Reply) (username : String) (identifies : Identifies first second username)
    (filled : username ≠ "") :
    ∃ location state,
      g.handle (g.run start before).1 t0 r idle = ⟨.respond (.redirect location none), []⟩ ∧
      Request.parameter? location "state" = some state ∧
      ∀ (back : Request) (script : Script),
        back.method = "GET" → back.target = g.callbackTarget code state → HasHost back →
        (g.provider.tokens.isCallable → g.provider.userinfo.isCallable →
          (∃ rest, script.replies = first :: second :: rest) →
          (g.handle (g.run start (before ++ between)).1 t1 back script).attempts.map Attempt.reply =
            [first, second]) ∧
        ((g.handle (g.run start (before ++ between)).1 t1 back script).attempts.map Attempt.reply =
            [first, second] →
          ∃ cookie value,
            (g.handle (g.run start (before ++ between)).1 t1 back script).answer =
              .respond (.redirect (ReturnUrl.derived r.target) (some cookie)) ∧
            Cookie.setValue? g.sessions.cookieName cookie = some value ∧
            Cookie.Carries (g.sessions.cookieName ++ "=" ++ value) g.sessions.cookieName value ∧
            ∀ (visit : Request) (script : Script) (header : String),
              g.isCallback visit = false → g.certified? visit = none → visit.cookies = some header →
              Cookie.Carries header g.sessions.cookieName value →
              g.handle (g.run start (before ++ between ++ later)).1 t2 visit script =
                ⟨.authenticated username .sessionCookie, []⟩) := by
  have limit : Text.Decimal.wordLimit = 2 ^ 64 := rfl
  have signs := of_config_signs config g start built
  have growing := run_keeps g (g.run start before).1 between kept
  rw [← run_append] at growing
  have growingToo := run_keeps g (g.run start (before ++ between)).1 later keptToo
  rw [← run_append] at growingToo
  obtain ⟨location, state, begun, found, issued⟩ := login_begins g plain config.authUrl
    (of_config_reads config g start built) (g.run start before).1 (run_signs g start before signs) t0 r idle visits host
    stranger
  refine ⟨location, state, begun, found, ?_⟩
  intro back script get target hostToo
  have valid := Logins.validate_issued g.logins _ (g.run start (before ++ between)).1 t0 t1 r.target state issued growing
    since (by omega)
  obtain ⟨called, ended⟩ := login_ends g plain _ (run_signs g start (before ++ between) signs) t1 back script code state
    _ username given get target hostToo valid first second identifies filled
  refine ⟨called, fun replied => ?_⟩
  obtain ⟨session, issuedToo, answered⟩ := ended replied
  rw [ReturnUrl.restricted_derived] at answered
  have set := g.sessions.issued_set _ t1 username session issuedToo
  have alone := g.sessions.issued_carried _ t1 username session issuedToo plain.name.1 plain.trimmed
  refine ⟨session.header, session.value, answered, set, alone, ?_⟩
  intro visit visitScript header other uncertified cookies carried
  have validToo := Sessions.validate_issued g.sessions _ (g.run start (before ++ between ++ later)).1 t1 t2 username
    session issuedToo filled growingToo sinceToo (by omega)
  exact session_shown g plain _ t2 visit visitScript header session.value username other uncertified cookies carried
    validToo

theorem sample_plain : sample.IsPlain where
  path := by decide
  relative := by decide
  name := by decide
  trimmed := by decide
  free := by
    have none : Form.decode (sample.provider.authorization.query.getD []) = [] := by rfl
    simp [none]

def tokenReply : Json := .fields [("access_token", .str "x"), ("token_type", .str "Bearer")]

def userReply : Json := .fields [("email", .str "ann")]

theorem sample_token :
    readDocument AccessToken.ofJson? (Text.utf8 tokenReply.compact) = .ok ⟨"x", "Bearer", none, none⟩ :=
  read_document_compact _ _ _ (Json.plain_fields _ (by simp [Json.str, Json.isPlain])) rfl

theorem sample_user :
    readDocument UserInfo.ofJson? (Text.utf8 userReply.compact) = .ok ⟨"", "", "", "", "", "ann"⟩ :=
  read_document_compact _ _ _ (Json.plain_fields _ (by simp [Json.str, Json.isPlain])) rfl

theorem sample_identifies :
    Identifies (.complete 200 (Text.utf8 tokenReply.compact)) (.complete 299 (Text.utf8 userReply.compact)) "ann" :=
  ⟨200, _, 299, _, _, _, rfl, rfl, by decide, by decide, sample_token, rfl, by decide, sample_user, by decide⟩

theorem sample_state (returnUrl : String) :
    ∃ state, Token.sign ⟨[[107]]⟩ (Claims.issue "app" 100 Logins.lifetime (.login returnUrl)) = .ok state ∧
      sample.logins.validate ⟨[[107]]⟩ 399 state = .ok returnUrl := by
  obtain ⟨state, signed⟩ :=
    Token.sign_given ⟨[[107]]⟩ (Claims.issue "app" 100 Logins.lifetime (.login returnUrl)) [107] rfl
  have verified := Token.verify_signed ⟨[[107]]⟩ ⟨[[107]]⟩ _ state signed fun _ kept => kept
  have current := (Claims.issue_current_iff "app" 100 Logins.lifetime 399 (.login returnUrl)).mpr ⟨by decide, by decide⟩
  exact ⟨state, signed, (Logins.validate_ok_iff _ _ _ _ _).mpr ⟨_, verified, rfl, rfl, current⟩⟩

def sampleReturn (state : String) : Request := ⟨"GET", sample.callbackTarget "c" state, some "h", none, none⟩

def sampleReplies : Script :=
  ⟨[.complete 200 (Text.utf8 tokenReply.compact), .complete 299 (Text.utf8 userReply.compact)], .refused⟩

-- Each request comes in the last second that it can, and a new secret before each but the first.
theorem login_round_trip_in_last_seconds :
    ∃ location state cookie value replies,
      sample.handle ⟨[[107]]⟩ 100 ⟨"GET", "/page?q=1", some "h", none, none⟩ ⟨[], .refused⟩ =
        ⟨.respond (.redirect location none), []⟩ ∧
      Request.parameter? location "state" = some state ∧
      (sample.handle ⟨[[109], [107]]⟩ 399 ⟨"GET", sample.callbackTarget "c" state, some "h", none, none⟩
        ⟨replies, .refused⟩).answer =
        .respond (.redirect "/page?q=1" (some cookie)) ∧
      Cookie.setValue? "auth_cookie" cookie = some value ∧
      sample.handle ⟨[[110], [109], [107]]⟩ 7598
          ⟨"GET", "/", none, some ("auth_cookie" ++ "=" ++ value), none⟩ ⟨[], .refused⟩ =
        ⟨.authenticated "ann" .sessionCookie, []⟩ := by
  have growing (secret : String) : NoRotation [⟨200, .prepend secret⟩] := by simp [NoRotation]
  have host (method target : String) : HasHost ⟨method, target, some "h", none, none⟩ := ⟨"h", rfl, by decide⟩
  obtain ⟨location, state, begun, found, ended⟩ := login_round_trip sampleConfig sample _ sample_built sample_plain
    [] [⟨200, .prepend "m"⟩] [⟨200, .prepend "n"⟩] (growing "m") (growing "n") 100 399 7598 (by decide) (by decide)
    (by decide) (by decide) (by decide) (by decide) ⟨"GET", "/page?q=1", some "h", none, none⟩ ⟨[], .refused⟩ (by decide)
    (host _ _) ⟨rfl, rfl⟩ "c" (by decide) _ _ "ann" sample_identifies (by decide)
  obtain ⟨called, landed⟩ := ended ⟨"GET", sample.callbackTarget "c" state, some "h", none, none⟩
    ⟨[.complete 200 (Text.utf8 tokenReply.compact), .complete 299 (Text.utf8 userReply.compact)], .refused⟩ rfl rfl
    (host _ _)
  obtain ⟨cookie, value, answered, set, alone, known⟩ := landed (called (by decide) (by decide) ⟨[], rfl⟩)
  have visits : sample.isCallback ⟨"GET", "/", none, none, none⟩ = false := by decide
  have place : ReturnUrl.derived "/page?q=1" = "/page?q=1" := by rfl
  rw [place] at answered
  exact ⟨location, state, cookie, value, _, begun, found, answered, set,
    known ⟨"GET", "/", none, some ("auth_cookie" ++ "=" ++ value), none⟩ ⟨[], .refused⟩ _ visits rfl rfl alone⟩

end LoginGateway.Gateway
