import LoginGateway.Proofs.Gateway.Resolution
import LoginGateway.Proofs.Gateway.Traffic
import LoginGateway.Proofs.Provider.Outcome

/-!
What a callback is answered, whatever it brings and whatever the provider does. What is wrong with the request is told
in a fixed order and before the provider is asked; then the first call that fails decides, and a session is given to a
user who is named and to nobody else.
-/
set_option autoImplicit false

namespace LoginGateway

theorem UserInfo.derived_empty_iff (u : UserInfo) :
    u.derived = "" ↔ u.username = "" ∧ u.login = "" ∧ u.preferredUsername = "" ∧ u.email = "" := by
  rw [derived]
  cases found : [u.username, u.login, u.preferredUsername, u.email].find? (· ≠ "") with
  | none => simpa using found
  | some name =>
      have filled : name ≠ "" := by simpa using List.find?_some found
      have given := List.mem_of_find?_eq_some found
      simp only [List.mem_cons, List.not_mem_nil, or_false] at given
      refine iff_of_false filled ?_
      rintro ⟨username, login, preferred, email⟩
      rcases given with rfl | rfl | rfl | rfl <;> contradiction

namespace Gateway

def BringsCode (r : Request) : Prop := ∃ code, Request.parameter? r.target "code" = some code ∧ code ≠ ""

def BringsState (g : Gateway) (keys : KeySet) (now : UInt64) (r : Request) : Prop :=
  ∃ state returnUrl, Request.parameter? r.target "state" = some state ∧
    g.logins.validate keys now state = .ok returnUrl

-- The cases in their order, each without those before it.
inductive Verdict (g : Gateway) (keys : KeySet) (now : UInt64) (r : Request) (script : Script) : Response → Prop
  | method (other : r.method ≠ "GET") : Verdict g keys now r script (.failure 405 "Invalid method")
  | code (get : r.method = "GET") (uncoded : ¬ BringsCode r) : Verdict g keys now r script (.failure 401 "null code")
  | state (get : r.method = "GET") (coded : BringsCode r) (stateless : ¬ g.BringsState keys now r) :
      Verdict g keys now r script (.failure 401 "null or bad inboundState")
  | host (get : r.method = "GET") (coded : BringsCode r) (stated : g.BringsState keys now r)
      (missing : g.IsHostless r) : Verdict g keys now r script (.failure 400 "missing Host header")
  | session (a : Arrival) (token : AccessToken) (user : UserInfo) (session : SessionCookie)
      (arrives : g.Arrives keys now r a) (granted : g.provider.Grants script token)
      (told : g.provider.Tells script user) (filled : user.derived ≠ "")
      (issued : g.sessions.issue keys now user.derived = .ok session) :
      Verdict g keys now r script (.redirect (ReturnUrl.restricted a.returnUrl) (some session.header))
  | nameless (a : Arrival) (token : AccessToken) (user : UserInfo) (arrives : g.Arrives keys now r a)
      (granted : g.provider.Grants script token) (told : g.provider.Tells script user)
      (blank : user.username = "" ∧ user.login = "" ∧ user.preferredUsername = "" ∧ user.email = "") :
      Verdict g keys now r script (.failure 500 "cannot determine username")
  | unavailable (a : Arrival) (arrives : g.Arrives keys now r a) (late : g.provider.IsUnavailable script) :
      Verdict g keys now r script (.failure 503 "bad transaction with openid context")
  | fault (a : Arrival) (arrives : g.Arrives keys now r a)
      (untold : ∀ token user, g.provider.Grants script token → ¬ g.provider.Tells script user)
      (lasting : ¬ g.provider.IsUnavailable script) :
      Verdict g keys now r script (.failure 500 "bad transaction with openid context")

variable (g : Gateway) (keys : KeySet) (now : UInt64) (r : Request) (script : Script)

theorem parameter_blank_iff (name : String) :
    r.parameter name = "" ↔ ∀ value, Request.parameter? r.target name = some value → value = "" := by
  rw [Request.parameter]
  cases Request.parameter? r.target name with
  | none => simp
  | some value => simp

theorem uncoded_iff : ¬ BringsCode r ↔ r.parameter "code" = "" := by
  rw [parameter_blank_iff, BringsCode]
  simp only [not_exists, not_and, not_not]

theorem stateless_iff :
    ¬ g.BringsState keys now r ↔ g.logins.validate keys now (r.parameter "state") = .error .badState := by
  rw [BringsState, Request.parameter]
  constructor
  · intro stateless
    cases valid : g.logins.validate keys now ((Request.parameter? r.target "state").getD "") with
    | error e => rw [((Logins.validate_error_iff _ _ _ _ _).mp valid).1]
    | ok returnUrl =>
        cases brought : Request.parameter? r.target "state" with
        | none =>
            rw [brought] at valid
            exact absurd valid (g.logins.validate_blank keys now returnUrl)
        | some state =>
            rw [brought] at valid
            exact absurd ⟨state, returnUrl, brought, valid⟩ stateless
  · rintro refused ⟨state, returnUrl, brought, valid⟩
    rw [brought, Option.getD_some, valid] at refused
    cases refused

theorem refused_method (other : r.method ≠ "GET") : g.arrival keys now r = .error (.failure 405 "Invalid method") :=
  if_pos other

theorem refused_code (get : r.method = "GET") (uncoded : ¬ BringsCode r) :
    g.arrival keys now r = .error (.failure 401 "null code") := by
  rw [arrival, if_neg (not_not_intro get), if_pos ((uncoded_iff r).mp uncoded)]

theorem refused_state (get : r.method = "GET") (coded : BringsCode r) (stateless : ¬ g.BringsState keys now r) :
    g.arrival keys now r = .error (.failure 401 "null or bad inboundState") := by
  have filled : r.parameter "code" ≠ "" := fun blank => (uncoded_iff r).mpr blank coded
  rw [arrival, if_neg (not_not_intro get), if_neg filled, (g.stateless_iff keys now r).mp stateless]

theorem refused_host (get : r.method = "GET") (coded : BringsCode r) (stated : g.BringsState keys now r)
    (missing : g.IsHostless r) : g.arrival keys now r = .error (.failure 400 "missing Host header") := by
  have filled : r.parameter "code" ≠ "" := fun blank => (uncoded_iff r).mpr blank coded
  obtain ⟨state, returnUrl, brought, valid⟩ := stated
  have unreachable := (redirect_uri_error_iff g r .missingHost).mpr ⟨rfl, missing⟩
  rw [arrival, if_neg (not_not_intro get), if_neg filled, Request.parameter, brought, Option.getD_some, valid, unreachable]
  rfl

theorem arrives_otherwise (get : r.method = "GET") (coded : BringsCode r) (stated : g.BringsState keys now r)
    (hosted : ¬ g.IsHostless r) : ∃ a, g.Arrives keys now r a := by
  obtain ⟨code, given, filled⟩ := coded
  obtain ⟨state, returnUrl, brought, valid⟩ := stated
  cases reachable : g.redirectUri r with
  | error e => exact absurd ((redirect_uri_error_iff g r e).mp reachable).2 hosted
  | ok uri => exact ⟨⟨code, returnUrl, uri⟩, get, given, filled, ⟨state, brought, valid⟩, reachable⟩

theorem callback_refused (response : Response) (refused : g.arrival keys now r = .error response) :
    g.callback keys now r script = ⟨response, []⟩ := by
  rw [callback, refused]

theorem callback_arrived (a : Arrival) (arrives : g.Arrives keys now r a) :
    (g.callback keys now r script).answer =
      g.landing keys now a.returnUrl (g.provider.identify a.code a.redirectUri script).result := by
  rw [callback, (g.arrival_arrives_iff keys now r a).mpr arrives]

theorem landing_failed (returnUrl : String) (e : Error) :
    g.landing keys now returnUrl (.error e) = .failure e.status (failureMessage e) := rfl

theorem landing_named (returnUrl username : String) (session : SessionCookie)
    (issued : g.sessions.issue keys now username = .ok session) :
    g.landing keys now returnUrl (.ok username) = .redirect (ReturnUrl.restricted returnUrl) (some session.header) := by
  rw [landing, Except.bind, issued]

theorem failure_upstream (e : Error) (transient : Prop) (upstream : e.IsUpstream transient) :
    failureMessage e = "bad transaction with openid context" := by
  cases e with
  | missingUsername => exact absurd rfl upstream.named
  | _ => rfl

theorem callback_named (a : Arrival) (token : AccessToken) (user : UserInfo) (session : SessionCookie)
    (arrives : g.Arrives keys now r a) (granted : g.provider.Grants script token) (told : g.provider.Tells script user)
    (filled : user.derived ≠ "") (issued : g.sessions.issue keys now user.derived = .ok session) :
    (g.callback keys now r script).answer =
      .redirect (ReturnUrl.restricted a.returnUrl) (some session.header) := by
  rw [g.callback_arrived keys now r script a arrives, g.provider.identify_told _ _ script token user granted told,
    Provider.named, if_neg filled, g.landing_named keys now _ _ session issued]

theorem callback_nameless (a : Arrival) (token : AccessToken) (user : UserInfo)
    (arrives : g.Arrives keys now r a) (granted : g.provider.Grants script token) (told : g.provider.Tells script user)
    (blank : user.derived = "") :
    (g.callback keys now r script).answer = .failure 500 "cannot determine username" := by
  rw [g.callback_arrived keys now r script a arrives, g.provider.identify_told _ _ script token user granted told,
    Provider.named, if_pos blank]
  rfl

theorem callback_untold (a : Arrival) (arrives : g.Arrives keys now r a)
    (untold : ∀ token user, g.provider.Grants script token → ¬ g.provider.Tells script user) :
    (g.provider.IsUnavailable script → (g.callback keys now r script).answer =
      .failure 503 "bad transaction with openid context") ∧
    (¬ g.provider.IsUnavailable script → (g.callback keys now r script).answer =
      .failure 500 "bad transaction with openid context") := by
  obtain ⟨e, failed, upstream⟩ := g.provider.identify_untold a.code a.redirectUri script untold
  obtain ⟨late, lasting⟩ := e.upstream_status _ upstream
  rw [g.callback_arrived keys now r script a arrives, failed, landing_failed, failure_upstream e _ upstream]
  exact ⟨fun unavailable => by rw [late unavailable], fun available => by rw [lasting available]⟩

theorem verdict_of_arrival (signs : Signs keys) (a : Arrival) (arrives : g.Arrives keys now r a) :
    g.Verdict keys now r script (g.callback keys now r script).answer := by
  by_cases called : ∃ token user, g.provider.Grants script token ∧ g.provider.Tells script user
  · obtain ⟨token, user, granted, told⟩ := called
    by_cases blank : user.derived = ""
    · rw [g.callback_nameless keys now r script a token user arrives granted told blank]
      exact .nameless a token user arrives granted told (user.derived_empty_iff.mp blank)
    · obtain ⟨key, signing⟩ := signs
      obtain ⟨session, issued⟩ := g.sessions.issue_given keys now user.derived key signing
      rw [g.callback_named keys now r script a token user session arrives granted told blank issued]
      exact .session a token user session arrives granted told blank issued
  · have untold : ∀ token user, g.provider.Grants script token → ¬ g.provider.Tells script user :=
      fun token user granted told => called ⟨token, user, granted, told⟩
    obtain ⟨unavailable, fault⟩ := g.callback_untold keys now r script a arrives untold
    by_cases late : g.provider.IsUnavailable script
    · rw [unavailable late]
      exact .unavailable a arrives late
    · rw [fault late]
      exact .fault a arrives untold late

theorem verdict_of_callback (signs : Signs keys) :
    g.Verdict keys now r script (g.callback keys now r script).answer := by
  by_cases get : r.method = "GET"
  · by_cases coded : BringsCode r
    · by_cases stated : g.BringsState keys now r
      · by_cases missing : g.IsHostless r
        · rw [g.callback_refused keys now r script _ (g.refused_host keys now r get coded stated missing)]
          exact .host get coded stated missing
        · obtain ⟨a, arrives⟩ := g.arrives_otherwise keys now r get coded stated missing
          exact g.verdict_of_arrival keys now r script signs a arrives
      · rw [g.callback_refused keys now r script _ (g.refused_state keys now r get coded stated)]
        exact .state get coded stated
    · rw [g.callback_refused keys now r script _ (g.refused_code keys now r get coded)]
      exact .code get coded
  · rw [g.callback_refused keys now r script _ (g.refused_method keys now r get)]
    exact .method get

theorem callback_of_verdict (response : Response) (verdict : g.Verdict keys now r script response) :
    (g.callback keys now r script).answer = response := by
  cases verdict with
  | method other => rw [g.callback_refused keys now r script _ (g.refused_method keys now r other)]
  | code get uncoded => rw [g.callback_refused keys now r script _ (g.refused_code keys now r get uncoded)]
  | state get coded stateless =>
      rw [g.callback_refused keys now r script _ (g.refused_state keys now r get coded stateless)]
  | host get coded stated missing =>
      rw [g.callback_refused keys now r script _ (g.refused_host keys now r get coded stated missing)]
  | session a token user session arrives granted told filled issued =>
      exact g.callback_named keys now r script a token user session arrives granted told filled issued
  | nameless a token user arrives granted told blank =>
      exact g.callback_nameless keys now r script a token user arrives granted told (user.derived_empty_iff.mpr blank)
  | unavailable a arrives late =>
      exact (g.callback_untold keys now r script a arrives (g.provider.unavailable_untold script late)).1 late
  | fault a arrives untold lasting => exact (g.callback_untold keys now r script a arrives untold).2 lasting

theorem session_answer_iff (signs : Signs keys) :
    (∃ location cookie, (g.callback keys now r script).answer = .redirect location (some cookie)) ↔
      ∃ a token user, g.Arrives keys now r a ∧ g.provider.Grants script token ∧ g.provider.Tells script user ∧
        user.derived ≠ "" := by
  constructor
  · intro answered
    obtain ⟨location, cookie, answered⟩ := answered
    have verdict := g.verdict_of_callback keys now r script signs
    rw [answered] at verdict
    cases verdict with
    | session a token user _ arrives granted told filled _ => exact ⟨a, token, user, arrives, granted, told, filled⟩
  · intro called
    obtain ⟨a, token, user, arrives, granted, told, filled⟩ := called
    obtain ⟨key, signing⟩ := signs
    obtain ⟨session, issued⟩ := g.sessions.issue_given keys now user.derived key signing
    exact ⟨_, _, g.callback_named keys now r script a token user session arrives granted told filled issued⟩

theorem nameless_answer_iff (signs : Signs keys) :
    (∃ status, (g.callback keys now r script).answer = .failure status "cannot determine username") ↔
      ∃ a token user, g.Arrives keys now r a ∧ g.provider.Grants script token ∧ g.provider.Tells script user ∧
        user.username = "" ∧ user.login = "" ∧ user.preferredUsername = "" ∧ user.email = "" := by
  constructor
  · intro answered
    obtain ⟨status, answered⟩ := answered
    have verdict := g.verdict_of_callback keys now r script signs
    generalize (g.callback keys now r script).answer = answer at answered verdict
    cases verdict with
    | nameless a token user arrives granted told blank => exact ⟨a, token, user, arrives, granted, told, blank⟩
    | _ => simp at answered
  · intro called
    obtain ⟨a, token, user, arrives, granted, told, blank⟩ := called
    exact ⟨500, g.callback_of_verdict keys now r script _ (.nameless a token user arrives granted told blank)⟩

theorem unavailable_answer_iff (signs : Signs keys) :
    (g.callback keys now r script).answer.status = 503 ↔
      (∃ a, g.Arrives keys now r a) ∧ g.provider.IsUnavailable script := by
  constructor
  · intro answered
    have verdict := g.verdict_of_callback keys now r script signs
    generalize (g.callback keys now r script).answer = answer at answered verdict
    cases verdict with
    | unavailable a arrives late => exact ⟨⟨a, arrives⟩, late⟩
    | _ => simp [Response.status] at answered
  · intro unavailable
    obtain ⟨⟨a, arrives⟩, late⟩ := unavailable
    rw [g.callback_of_verdict keys now r script _ (.unavailable a arrives late), Response.status]

-- The session is one of the user at once, but for the last second of time, which begins no span.
theorem session_answer_holds (signs : Signs keys) (a : Arrival) (token : AccessToken) (user : UserInfo)
    (arrives : g.Arrives keys now r a) (granted : g.provider.Grants script token) (told : g.provider.Tells script user)
    (filled : user.derived ≠ "") :
    ∃ cookie value,
      (g.callback keys now r script).answer = .redirect (ReturnUrl.restricted a.returnUrl) (some cookie) ∧
      Cookie.setValue? g.sessions.cookieName cookie = some value ∧
      (now.toNat + 7200 < 2 ^ 64 → g.sessions.validate keys now value = .ok (some user.derived)) := by
  have limit : Text.Decimal.wordLimit = 2 ^ 64 := rfl
  obtain ⟨key, signing⟩ := signs
  obtain ⟨session, issued⟩ := g.sessions.issue_given keys now user.derived key signing
  refine ⟨session.header, session.value,
    g.callback_named keys now r script a token user session arrives granted told filled issued,
    g.sessions.issued_set keys now user.derived session issued, fun fits => ?_⟩
  exact g.sessions.validate_issued keys keys now now user.derived session issued filled (fun _ kept => kept)
    (Nat.le_refl _) (by omega)

theorem callback_verdict (config : Config) (start : KeySet) (built : ofConfig config = .ok (g, start))
    (steps : List Step) (reached : keys = (g.run start steps).1) :
    (∀ response, (g.callback keys now r script).answer = response ↔ g.Verdict keys now r script response) ∧
    ((∃ location cookie, (g.callback keys now r script).answer = .redirect location (some cookie)) ↔
      ∃ a token user, g.Arrives keys now r a ∧ g.provider.Grants script token ∧ g.provider.Tells script user ∧
        user.derived ≠ "") ∧
    (∀ a token user, g.Arrives keys now r a → g.provider.Grants script token → g.provider.Tells script user →
      user.derived ≠ "" → ∃ cookie value,
        (g.callback keys now r script).answer = .redirect (ReturnUrl.restricted a.returnUrl) (some cookie) ∧
        Cookie.setValue? g.sessions.cookieName cookie = some value ∧
        (now.toNat + 7200 < 2 ^ 64 → g.sessions.validate keys now value = .ok (some user.derived))) ∧
    ((g.callback keys now r script).answer.status = 503 ↔
      (∃ a, g.Arrives keys now r a) ∧ g.provider.IsUnavailable script) ∧
    ((∃ status, (g.callback keys now r script).answer = .failure status "cannot determine username") ↔
      ∃ a token user, g.Arrives keys now r a ∧ g.provider.Grants script token ∧ g.provider.Tells script user ∧
        user.username = "" ∧ user.login = "" ∧ user.preferredUsername = "" ∧ user.email = "") := by
  have signs := reached_signs config g start built steps keys reached
  refine ⟨fun response => ⟨fun answered => ?_, g.callback_of_verdict keys now r script response⟩,
    g.session_answer_iff keys now r script signs, g.session_answer_holds keys now r script signs,
    g.unavailable_answer_iff keys now r script signs, g.nameless_answer_iff keys now r script signs⟩
  rw [← answered]
  exact g.verdict_of_callback keys now r script signs

theorem callback_verdict_of_late_record :
    ∃ state cookie value,
      (sample.callback ⟨[[107]]⟩ 399 (sampleReturn state)
        ⟨[.complete 200 (Text.utf8 tokenReply.compact), .timedOut], .refused⟩).answer =
          .failure 503 "bad transaction with openid context" ∧
      (sample.callback ⟨[[107]]⟩ 399 (sampleReturn state) sampleReplies).answer = .redirect "/" (some cookie) ∧
      Cookie.setValue? "auth_cookie" cookie = some value ∧
      sample.sessions.validate ⟨[[107]]⟩ 399 value = .ok (some "ann") := by
  obtain ⟨state, uri, arrives⟩ := sample_arrives
  have granted (rest : List Reply) : sample.provider.Grants
      ⟨.complete 200 (Text.utf8 tokenReply.compact) :: rest, .refused⟩ ⟨"x", "Bearer", none, none⟩ :=
    ⟨by decide, 200, _, rfl, by decide, sample_token, rfl, by decide⟩
  have late : sample.provider.IsUnavailable ⟨[.complete 200 (Text.utf8 tokenReply.compact), .timedOut], .refused⟩ :=
    .inr ⟨⟨_, granted _⟩, by decide, .inl rfl⟩
  have told : sample.provider.Tells sampleReplies ⟨"", "", "", "", "", "ann"⟩ :=
    ⟨by decide, 299, _, rfl, by decide, sample_user⟩
  obtain ⟨verdict, _⟩ := callback_verdict sample ⟨[[107]]⟩ 399 (sampleReturn state)
    ⟨[.complete 200 (Text.utf8 tokenReply.compact), .timedOut], .refused⟩ sampleConfig _ sample_built [] rfl
  obtain ⟨_, _, holds, _⟩ := callback_verdict sample ⟨[[107]]⟩ 399 (sampleReturn state) sampleReplies sampleConfig _
    sample_built [] rfl
  obtain ⟨cookie, value, answered, set, valid⟩ := holds _ _ _ arrives (granted _) told (by decide)
  have place : ReturnUrl.restricted "/" = "/" := by rfl
  rw [place] at answered
  exact ⟨state, cookie, value, (verdict _).mpr (.unavailable _ arrives late), answered, set, valid (by decide)⟩

end Gateway

end LoginGateway
