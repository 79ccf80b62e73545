import LoginGateway.Gateway
import LoginGateway.Proofs.Cookie
import LoginGateway.Proofs.Provider.Identification
import LoginGateway.Proofs.Token.Lifetime

/-!
When the gateway knows a user by a session, and when it sends one on: to the provider with a state, or
back from it with a session.
-/
set_option autoImplicit false

namespace LoginGateway

theorem Sessions.issued_bare (s : Sessions) (keys : KeySet) (now : UInt64) (username : String) (session : SessionCookie)
    (issued : s.issue keys now username = .ok session) : Cookie.IsBare session.value.toList :=
  Token.signed_symbols _ _ _ (s.issued_parts keys now username session issued).1

theorem Sessions.issued_set (s : Sessions) (keys : KeySet) (now : UInt64) (username : String) (session : SessionCookie)
    (issued : s.issue keys now username = .ok session) :
    Cookie.setValue? s.cookieName session.header = some session.value := by
  have bare := s.issued_bare keys now username session issued
  rw [← (s.issued_parts keys now username session issued).2.1]
  exact session.set_value_header fun member => (bare ';' member).1 rfl

theorem Sessions.issued_carried (s : Sessions) (keys : KeySet) (now : UInt64) (username : String)
    (session : SessionCookie) (issued : s.issue keys now username = .ok session) (clear : ';' ∉ s.cookieName.toList)
    (trimmed : Text.trim s.cookieName.toList = s.cookieName.toList) :
    Cookie.Carries (s.cookieName ++ "=" ++ session.value) s.cookieName session.value := by
  have bare := s.issued_bare keys now username session issued
  exact Cookie.carries_alone _ _ ((Text.strip_eq_self_iff _ _).mp trimmed).1 clear bare

namespace Gateway

theorem authorization_url_ok_iff (g : Gateway) (keys : KeySet) (now : UInt64) (r : Request) (location : String) :
    g.authorizationUrl keys now r = .ok location ↔
      ∃ uri state, g.redirectUri r = .ok uri ∧ g.logins.issue keys now r.target = .ok state ∧
        location = g.provider.authorizationUrl state uri := by
  rw [authorizationUrl]
  cases g.redirectUri r with
  | error e => simp [bind, Except.bind]
  | ok uri =>
      cases g.logins.issue keys now r.target with
      | error e => simp [bind, Except.bind]
      | ok state => simp [bind, Except.bind, pure, Except.pure, eq_comm]

theorem to_provider_redirect_iff (g : Gateway) (keys : KeySet) (now : UInt64) (r : Request) (location : String)
    (cookie : Option String) :
    g.toProvider keys now r = .redirect location cookie ↔
      g.authorizationUrl keys now r = .ok location ∧ cookie = none := by
  rw [toProvider]
  cases g.authorizationUrl keys now r with
  | ok found => simp [eq_comm]
  | error e => cases e <;> simp [missingHost]

theorem resolve_session_iff (g : Gateway) (keys : KeySet) (now : UInt64) (r : Request) (username : String) :
    g.resolve keys now r = .authenticated username .sessionCookie ↔
      g.certified? r = none ∧ g.sessionUser keys now r = .ok (some username) := by
  rw [resolve]
  cases g.certified? r with
  | some name => simp
  | none =>
      cases g.sessionUser keys now r with
      | error e => simp
      | ok found => cases found <;> simp

theorem resolve_redirect_iff (g : Gateway) (keys : KeySet) (now : UInt64) (r : Request) (location : String)
    (cookie : Option String) :
    g.resolve keys now r = .respond (.redirect location cookie) ↔
      g.certified? r = none ∧ g.sessionUser keys now r = .ok none ∧
        g.authorizationUrl keys now r = .ok location ∧ cookie = none := by
  rw [resolve]
  cases g.certified? r with
  | some name => simp
  | none =>
      cases g.sessionUser keys now r with
      | error e => simp
      | ok found =>
          cases found with
          | some name => simp
          | none => simp [to_provider_redirect_iff]

theorem session_user_iff (g : Gateway) (keys : KeySet) (now : UInt64) (r : Request) (username : String) :
    g.sessionUser keys now r = .ok (some username) ↔
      ∃ token, Cookie.find? r.cookies g.sessions.cookieName = some token ∧
        g.sessions.validate keys now token = .ok (some username) := by
  rw [sessionUser]
  cases Cookie.find? r.cookies g.sessions.cookieName with
  | none => simp
  | some token => simp

theorem arrival_ok_iff (g : Gateway) (keys : KeySet) (now : UInt64) (r : Request) (a : Arrival) :
    g.arrival keys now r = .ok a ↔
      r.method = "GET" ∧ r.parameter "code" ≠ "" ∧ a.code = r.parameter "code" ∧
        g.logins.validate keys now (r.parameter "state") = .ok a.returnUrl ∧ g.redirectUri r = .ok a.redirectUri := by
  obtain ⟨code, returnUrl, redirectUri⟩ := a
  rw [arrival]
  by_cases get : r.method = "GET"
  · by_cases blank : r.parameter "code" = ""
    · simp [get, blank]
    · rw [if_neg (not_not_intro get), if_neg blank]
      cases g.logins.validate keys now (r.parameter "state") with
      | error e => simp
      | ok place =>
          cases g.redirectUri r with
          | error e => simp
          | ok uri => simp [get, blank, eq_comm]
  · simp [get]

theorem arrival_refused (g : Gateway) (keys : KeySet) (now : UInt64) (r : Request) (response : Response)
    (refused : g.arrival keys now r = .error response) :
    ∃ status message, response = .failure status message ∧ status ∈ [400, 401, 405] := by
  rw [arrival] at refused
  by_cases other : r.method ≠ "GET"
  · rw [if_pos other] at refused
    cases refused
    exact ⟨_, _, rfl, by decide⟩
  · by_cases blank : r.parameter "code" = ""
    · rw [if_neg other, if_pos blank] at refused
      cases refused
      exact ⟨_, _, rfl, by decide⟩
    · rw [if_neg other, if_neg blank] at refused
      cases valid : g.logins.validate keys now (r.parameter "state") with
      | error e =>
          rw [valid] at refused
          cases refused
          exact ⟨_, _, rfl, by decide⟩
      | ok place =>
          cases reachable : g.redirectUri r with
          | error e =>
              rw [valid, reachable] at refused
              cases refused
              exact ⟨_, _, rfl, by decide⟩
          | ok uri => rw [valid, reachable] at refused; cases refused

theorem refused_no_redirect (g : Gateway) (keys : KeySet) (now : UInt64) (r : Request) (response : Response)
    (refused : g.arrival keys now r = .error response) (location : String) (cookie : Option String) :
    response ≠ .redirect location cookie := by
  obtain ⟨status, message, failed, _⟩ := arrival_refused g keys now r response refused
  rw [failed]
  exact nofun

theorem landing_redirect_iff (g : Gateway) (keys : KeySet) (now : UInt64) (returnUrl : String)
    (username : Except Error String) (location : String) (cookie : Option String) :
    g.landing keys now returnUrl username = .redirect location cookie ↔
      ∃ user session, username = .ok user ∧ g.sessions.issue keys now user = .ok session ∧
        location = ReturnUrl.restricted returnUrl ∧ cookie = some session.header := by
  rw [landing]
  cases username with
  | error e => simp [Except.bind]
  | ok user =>
      rw [Except.bind]
      cases issued : g.sessions.issue keys now user with
      | error e => simp [issued]
      | ok session => simp [issued, eq_comm]

theorem callback_redirect_iff (g : Gateway) (keys : KeySet) (now : UInt64) (r : Request) (script : Script)
    (location : String) (cookie : Option String) :
    (g.callback keys now r script).answer = .redirect location cookie ↔
      ∃ a user session, g.arrival keys now r = .ok a ∧
        (g.provider.identify a.code a.redirectUri script).result = .ok user ∧
        g.sessions.issue keys now user = .ok session ∧
        location = ReturnUrl.restricted a.returnUrl ∧ cookie = some session.header := by
  rw [callback]
  cases arrived : g.arrival keys now r with
  | error response =>
      simp only [reduceCtorEq, false_and, exists_false, iff_false]
      exact refused_no_redirect g keys now r response arrived location cookie
  | ok a => simp [landing_redirect_iff]

theorem handled_visit (g : Gateway) (keys : KeySet) (now : UInt64) (r : Request) (script : Script)
    (visits : g.isCallback r = false) : g.handle keys now r script = ⟨g.resolve keys now r, []⟩ := by
  simp [handle, visits]

theorem handled_callback (g : Gateway) (keys : KeySet) (now : UInt64) (r : Request) (script : Script)
    (returns : g.isCallback r = true) :
    g.handle keys now r script =
      ⟨.respond (g.callback keys now r script).answer, (g.callback keys now r script).attempts⟩ := by
  simp [handle, returns]

theorem callback_attempts (g : Gateway) (keys : KeySet) (now : UInt64) (r : Request) (script : Script) (a : Arrival)
    (arrived : g.arrival keys now r = .ok a) :
    (g.callback keys now r script).attempts = (g.provider.identify a.code a.redirectUri script).attempts := by
  rw [callback, arrived]

end Gateway

end LoginGateway
