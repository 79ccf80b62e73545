import LoginGateway.Proofs.Gateway.Answers
import LoginGateway.Proofs.Gateway.Keys
import LoginGateway.Proofs.Provider.Authorization

/-!
Where a user that is known by a session comes from. If nobody else can write what a key in use would
have signed, every such user was given the session a short time before, by name or at the end of a
login that the gateway had begun.
-/
set_option autoImplicit false

namespace LoginGateway.Gateway

structure Moment where
  keys : KeySet
  now : UInt64
  event : Event

def history (g : Gateway) : KeySet → List Step → List Moment
  | _, [] => []
  | keys, s :: rest => ⟨keys, s.now, s.event⟩ :: g.history (g.step keys s.now s.event).1 rest

def Moment.answer (g : Gateway) (m : Moment) : Answer := (g.step m.keys m.now m.event).2

theorem run_answers (g : Gateway) (keys : KeySet) (steps : List Step) :
    (g.run keys steps).2 = (g.history keys steps).map (Moment.answer g) := by
  induction steps generalizing keys with
  | nil => rfl
  | cons s rest ih =>
      rw [history, List.map_cons, ← ih]
      rfl

theorem history_append (g : Gateway) (keys : KeySet) (front back : List Step) :
    g.history keys (front ++ back) = g.history keys front ++ g.history (g.run keys front).1 back := by
  induction front generalizing keys with
  | nil => rfl
  | cons s rest ih => exact congrArg (List.cons _) (ih (g.step keys s.now s.event).1)

def Event.visit? (g : Gateway) : Event → Option Request
  | .handle r _ => if g.isCallback r then none else some r
  | .resolve r => some r
  | _ => none

def Event.callback? (g : Gateway) : Event → Option (Request × Script)
  | .handle r script => if g.isCallback r then some (r, script) else none
  | .callback r script => some (r, script)
  | _ => none

def Moment.cookie? (g : Gateway) (m : Moment) : Option String :=
  (m.event.visit? g).bind fun r => Cookie.find? r.cookies g.sessions.cookieName

def Moment.state? (g : Gateway) (m : Moment) : Option String :=
  (m.event.callback? g).map fun (r, _) => r.parameter "state"

def Moment.presented (g : Gateway) (m : Moment) : List String := (m.cookie? g).toList ++ (m.state? g).toList

def Response.redirect? : Response → Option (String × Option String)
  | .redirect location cookie => some (location, cookie)
  | .failure _ _ => none

def Answer.redirect? : Answer → Option (String × Option String)
  | .outcome ⟨.respond sent, _⟩ => sent.redirect?
  | .response handled => handled.answer.redirect?
  | _ => none

def Answer.attempts : Answer → List Attempt
  | .outcome handled => handled.attempts
  | .response handled => handled.attempts
  | _ => []

def Moment.GivesSession (g : Gateway) (m : Moment) (token : String) : Prop :=
  (∃ cookie, m.answer g = .session (.ok cookie) ∧ cookie.value = token) ∨
    ∃ location text, (m.answer g).redirect? = some (location, some text) ∧
      Cookie.setValue? g.sessions.cookieName text = some token

def Moment.GivesLogin (g : Gateway) (m : Moment) (token : String) : Prop :=
  (∃ target, m.event = .issueLogin target ∧ m.answer g = .text (.ok token)) ∨
    ∃ uri, (m.answer g).redirect? = some (g.provider.authorizationUrl token uri, none)

def Moment.LogsIn (g : Gateway) (m : Moment) (state username : String) : Prop :=
  m.state? g = some state ∧ (∃ location text, (m.answer g).redirect? = some (location, some text)) ∧
    ∃ attempt user, (m.answer g).attempts.getLast? = some attempt ∧
      attempt.reply.read UserInfo.ofJson? = .ok user ∧ user.derived = username

-- Every signed token that a step is shown was given out before.
def Unforged (g : Gateway) (moments : List Moment) : Prop :=
  ∀ before m after, moments = before ++ m :: after → ∀ token ∈ m.presented g, Token.IsTagged m.keys token →
    ∃ e ∈ before, e.GivesSession g token ∨ e.GivesLogin g token

theorem redirect_eq_some (response : Response) (location : String) (cookie : Option String) :
    response.redirect? = some (location, cookie) ↔ response = .redirect location cookie := by
  cases response <;> simp [Response.redirect?]

theorem answer_visit (g : Gateway) (m : Moment) (r : Request) (visits : m.event.visit? g = some r) :
    m.answer g = .outcome ⟨g.resolve m.keys m.now r, []⟩ := by
  obtain ⟨keys, now, event⟩ := m
  cases event with
  | handle asked script =>
      dsimp only [Event.visit?] at visits
      by_cases here : g.isCallback asked
      · rw [if_pos here] at visits
        cases visits
      · rw [if_neg here] at visits
        cases visits
        exact congrArg Answer.outcome (handled_visit g keys now r script (eq_false_of_ne_true here))
  | resolve asked =>
      cases visits
      rfl
  | _ => cases visits

theorem answer_callback (g : Gateway) (m : Moment) (r : Request) (script : Script)
    (returns : m.event.callback? g = some (r, script)) :
    (m.answer g).redirect? = (g.callback m.keys m.now r script).answer.redirect? ∧
      (m.answer g).attempts = (g.callback m.keys m.now r script).attempts ∧
      ∀ username source attempts, m.answer g ≠ .outcome ⟨.authenticated username source, attempts⟩ := by
  obtain ⟨keys, now, event⟩ := m
  cases event with
  | handle asked given =>
      dsimp only [Event.callback?] at returns
      by_cases here : g.isCallback asked
      · rw [if_pos here] at returns
        cases returns
        have answered : Moment.answer g ⟨keys, now, .handle r script⟩ = .outcome (g.handle keys now r script) := rfl
        rw [answered, handled_callback g keys now r script here]
        exact ⟨rfl, rfl, by simp⟩
      · rw [if_neg here] at returns
        cases returns
  | callback asked given =>
      cases returns
      exact ⟨rfl, rfl, fun _ _ _ same => by cases same⟩
  | _ => cases returns

theorem change_answer (keys : KeySet) (result : Except Error KeySet) :
    ∃ done, (change keys result).2 = .changed done := by
  cases result with
  | error e => exact ⟨.error e, rfl⟩
  | ok next => exact ⟨.ok (), rfl⟩

theorem answer_changed (g : Gateway) (keys : KeySet) (now : UInt64) (event : Event)
    (changes : (∃ secret, event = .prepend secret) ∨ ∃ set, event = .rotate set) :
    ∃ done, Moment.answer g ⟨keys, now, event⟩ = .changed done := by
  rcases changes with ⟨secret, same⟩ | ⟨set, same⟩
  · rw [same]
    exact change_answer keys (Gateway.prepend keys secret)
  · rw [same]
    exact change_answer keys (Gateway.rotate set)

theorem answer_cases (g : Gateway) (m : Moment) :
    (∃ r, m.event.visit? g = some r) ∨ (∃ r script, m.event.callback? g = some (r, script)) ∨
      ((m.answer g).redirect? = none ∧ ∀ handled, m.answer g ≠ .outcome handled) := by
  obtain ⟨keys, now, event⟩ := m
  have changed (changes : (∃ secret, event = .prepend secret) ∨ ∃ set, event = .rotate set) :
      (Moment.answer g ⟨keys, now, event⟩).redirect? = none ∧
        ∀ handled, Moment.answer g ⟨keys, now, event⟩ ≠ .outcome handled := by
    obtain ⟨done, answered⟩ := answer_changed g keys now event changes
    rw [answered]
    exact ⟨rfl, fun _ same => by cases same⟩
  cases event with
  | handle r script =>
      by_cases here : g.isCallback r
      · exact .inr (.inl ⟨r, script, by simp [Event.callback?, here]⟩)
      · exact .inl ⟨r, by simp [Event.visit?, here]⟩
  | resolve r => exact .inl ⟨r, rfl⟩
  | callback r script => exact .inr (.inl ⟨r, script, rfl⟩)
  | prepend secret => exact .inr (.inr (changed (.inl ⟨secret, rfl⟩)))
  | rotate set => exact .inr (.inr (changed (.inr ⟨set, rfl⟩)))
  | _ => exact .inr (.inr ⟨rfl, fun _ same => by cases same⟩)

theorem answer_session (g : Gateway) (m : Moment) (cookie : SessionCookie)
    (answered : m.answer g = .session (.ok cookie)) :
    ∃ username, m.event = .issueSession username ∧ g.sessions.issue m.keys m.now username = .ok cookie := by
  obtain ⟨keys, now, event⟩ := m
  have unchanged : ¬ ((∃ secret, event = .prepend secret) ∨ ∃ set, event = .rotate set) := by
    intro changes
    obtain ⟨done, changed⟩ := answer_changed g keys now event changes
    cases changed.symm.trans answered
  cases event with
  | issueSession username => exact ⟨username, rfl, Answer.session.inj answered⟩
  | prepend secret => exact absurd (.inl ⟨secret, rfl⟩) unchanged
  | rotate set => exact absurd (.inr ⟨set, rfl⟩) unchanged
  | _ => cases answered

theorem known_by_session (g : Gateway) (m : Moment) (username : String) (attempts : List Attempt)
    (known : m.answer g = .outcome ⟨.authenticated username .sessionCookie, attempts⟩) :
    ∃ token, m.cookie? g = some token ∧ g.sessions.validate m.keys m.now token = .ok (some username) := by
  rcases answer_cases g m with ⟨r, visits⟩ | ⟨r, script, returns⟩ | ⟨_, other⟩
  · rw [answer_visit g m r visits] at known
    simp only [Answer.outcome.injEq, Handled.mk.injEq] at known
    obtain ⟨_, named⟩ := (resolve_session_iff g m.keys m.now r username).mp known.1
    obtain ⟨token, found, valid⟩ := (session_user_iff g m.keys m.now r username).mp named
    exact ⟨token, by rw [Moment.cookie?, visits]; exact found, valid⟩
  · exact absurd known ((answer_callback g m r script returns).2.2 _ _ _)
  · exact absurd known (other _)

theorem redirected_cases (g : Gateway) (m : Moment) (location : String) (cookie : Option String)
    (redirected : (m.answer g).redirect? = some (location, cookie)) :
    (∃ r, cookie = none ∧ g.authorizationUrl m.keys m.now r = .ok location) ∨
      ∃ r script, m.event.callback? g = some (r, script) ∧
        (g.callback m.keys m.now r script).answer = .redirect location cookie := by
  rcases answer_cases g m with ⟨r, visits⟩ | ⟨r, script, returns⟩ | ⟨nowhere, _⟩
  · rw [answer_visit g m r visits] at redirected
    cases resolved : g.resolve m.keys m.now r with
    | authenticated username source => rw [resolved] at redirected; cases redirected
    | respond response =>
        rw [resolved] at redirected
        rw [(redirect_eq_some response location cookie).mp redirected] at resolved
        obtain ⟨_, _, located, plain⟩ := (resolve_redirect_iff g m.keys m.now r location cookie).mp resolved
        exact .inl ⟨r, plain, located⟩
  · obtain ⟨same, _, _⟩ := answer_callback g m r script returns
    exact .inr ⟨r, script, returns, (redirect_eq_some _ _ _).mp (same.symm.trans redirected)⟩
  · rw [nowhere] at redirected
    cases redirected

theorem session_signed (g : Gateway) (m : Moment) (token : String) (given : m.GivesSession g token) :
    ∃ username, Token.sign m.keys (Claims.issue g.sessions.issuer m.now Sessions.lifetime (.session username)) =
        .ok token ∧
      (m.event = .issueSession username ∨
        ∃ state returnUrl, m.LogsIn g state username ∧ g.logins.validate m.keys m.now state = .ok returnUrl) := by
  rcases given with ⟨cookie, answered, value⟩ | ⟨location, text, redirected, set⟩
  · obtain ⟨username, event, issued⟩ := answer_session g m cookie answered
    rw [← value]
    exact ⟨username, (g.sessions.issued_parts m.keys m.now username cookie issued).1, .inl event⟩
  · rcases redirected_cases g m location _ redirected with ⟨r, plain, _⟩ | ⟨r, script, returns, answered⟩
    · cases plain
    · obtain ⟨a, username, cookie, arrived, identified, issued, _, header⟩ :=
        (callback_redirect_iff g m.keys m.now r script location (some text)).mp answered
      obtain ⟨_, _, _, valid, _⟩ := (arrival_ok_iff g m.keys m.now r a).mp arrived
      obtain ⟨first, second, access, user, attempted, _, _, read, derived, _⟩ :=
        (Provider.identify_ok_iff _ _ _ _ _).mp identified
      have found := g.sessions.issued_set m.keys m.now username cookie issued
      rw [← Option.some.inj header, set] at found
      have value : token = cookie.value := Option.some.inj found
      obtain ⟨_, attempts, _⟩ := answer_callback g m r script returns
      have last : (m.answer g).attempts.getLast? = some ⟨g.provider.userinfoPost access, second⟩ := by
        rw [attempts, callback_attempts g m.keys m.now r script a arrived, attempted]
        rfl
      have logsIn : m.LogsIn g (r.parameter "state") username :=
        ⟨by rw [Moment.state?, returns]; rfl, ⟨location, text, redirected⟩, _, user, last, read, derived⟩
      rw [value]
      exact ⟨username, (g.sessions.issued_parts m.keys m.now username cookie issued).1,
        .inr ⟨_, a.returnUrl, logsIn, valid⟩⟩

theorem login_signed (g : Gateway) (m : Moment) (token : String) (given : m.GivesLogin g token) :
    ∃ place, Token.sign m.keys (Claims.issue g.logins.issuer m.now Logins.lifetime (.login place)) = .ok token := by
  rcases given with ⟨target, event, answered⟩ | ⟨uri, redirected⟩
  · obtain ⟨keys, now, _⟩ := m
    cases event
    exact ⟨ReturnUrl.derived target, Answer.text.inj answered⟩
  · rcases redirected_cases g m _ none redirected with ⟨r, _, located⟩ | ⟨r, script, _, answered⟩
    · obtain ⟨back, state, _, issued, same⟩ := (authorization_url_ok_iff g m.keys m.now r _).mp located
      cases Provider.authorization_url_inj _ _ _ _ _ same
      exact ⟨ReturnUrl.derived r.target, issued⟩
    · obtain ⟨_, _, _, _, _, _, _, plain⟩ := (callback_redirect_iff g m.keys m.now r script _ none).mp answered
      cases plain

theorem given_session (g : Gateway) (m : Moment) (token : String) (given : m.GivesSession g token) :
    ∃ username, Token.content? token =
        some (Claims.issue g.sessions.issuer m.now Sessions.lifetime (.session username)) ∧
      (m.event = .issueSession username ∨
        ∃ state returnUrl, m.LogsIn g state username ∧ g.logins.validate m.keys m.now state = .ok returnUrl) := by
  obtain ⟨username, signed, origin⟩ := session_signed g m token given
  exact ⟨username, Token.content_signed _ _ token signed, origin⟩

theorem given_login (g : Gateway) (m : Moment) (token : String) (given : m.GivesLogin g token) :
    ∃ place, Token.content? token = some (Claims.issue g.logins.issuer m.now Logins.lifetime (.login place)) := by
  obtain ⟨place, signed⟩ := login_signed g m token given
  exact ⟨place, Token.content_signed _ _ token signed⟩

theorem origin_of_verified (g : Gateway) (moments before after : List Moment) (m : Moment)
    (unforged : Unforged g moments) (split : moments = before ++ m :: after) (token : String)
    (shown : token ∈ m.presented g) (claims : Claims) (verified : Token.verify m.keys token = .ok claims) :
    ∃ earlier e later, before = earlier ++ e :: later ∧ Token.content? token = some claims ∧
      (e.GivesSession g token ∨ e.GivesLogin g token) := by
  obtain ⟨e, among, given⟩ := unforged before m after split token shown (Token.verified_tagged _ _ _ verified)
  obtain ⟨earlier, later, whole⟩ := List.append_of_mem among
  exact ⟨earlier, e, later, whole, ((Token.verify_ok_iff _ _ _).mp verified).2, given⟩

theorem login_origin (g : Gateway) (moments before after : List Moment) (m : Moment) (unforged : Unforged g moments)
    (split : moments = before ++ m :: after) (state returnUrl : String) (shown : m.state? g = some state)
    (valid : g.logins.validate m.keys m.now state = .ok returnUrl) :
    ∃ e ∈ before, e.GivesLogin g state ∧ e.now.toNat ≤ m.now.toNat ∧ m.now.toNat < e.now.toNat + 300 := by
  obtain ⟨claims, verified, purpose, _, current⟩ := (Logins.validate_ok_iff _ _ _ _ _).mp valid
  have presented : state ∈ m.presented g := by simp [Moment.presented, shown]
  obtain ⟨earlier, e, later, whole, content, given⟩ :=
    origin_of_verified g moments before after m unforged split state presented claims verified
  rcases given with session | login
  · obtain ⟨username, signed, _⟩ := given_session g e state session
    cases content.symm.trans signed
    cases purpose
  · obtain ⟨place, signed⟩ := given_login g e state login
    cases content.symm.trans signed
    have span := (Claims.issue_current_iff _ _ _ _ _).mp current
    have lifetime : Logins.lifetime.toNat = 300 := rfl
    refine ⟨e, by simp [whole], login, span.1, by omega⟩

theorem session_provenance (g : Gateway) (start : KeySet) (steps : List Step)
    (unforged : Unforged g (g.history start steps)) (before after : List Moment) (m : Moment)
    (split : g.history start steps = before ++ m :: after) (username : String) (attempts : List Attempt)
    (known : m.answer g = .outcome ⟨.authenticated username .sessionCookie, attempts⟩) :
    username ≠ "" ∧ ∃ earlier e later, before = earlier ++ e :: later ∧
      e.now.toNat ≤ m.now.toNat ∧ m.now.toNat < e.now.toNat + 7200 ∧
      (e.event = .issueSession username ∨
        ∃ state, e.LogsIn g state username ∧ ∃ s ∈ earlier, s.GivesLogin g state ∧
          s.now.toNat ≤ e.now.toNat ∧ e.now.toNat < s.now.toNat + 300) := by
  obtain ⟨token, shown, valid⟩ := known_by_session g m username attempts known
  obtain ⟨filled, claims, verified, purpose, _, current⟩ := (Sessions.validate_ok_iff _ _ _ _ _).mp valid
  have presented : token ∈ m.presented g := by simp [Moment.presented, shown]
  obtain ⟨earlier, e, later, whole, content, given⟩ :=
    origin_of_verified g _ before after m unforged split token presented claims verified
  refine ⟨filled, earlier, e, later, whole, ?_⟩
  rcases given with session | login
  · obtain ⟨name, signed, origin⟩ := given_session g e token session
    cases content.symm.trans signed
    cases purpose
    have span := (Claims.issue_current_iff _ _ _ _ _).mp current
    have lifetime : Sessions.lifetime.toNat = 7200 := rfl
    refine ⟨span.1, by omega, ?_⟩
    rcases origin with issued | ⟨state, returnUrl, logsIn, validState⟩
    · exact .inl issued
    · have position : g.history start steps = earlier ++ e :: (later ++ m :: after) := by
        rw [split, whole, List.append_assoc, List.cons_append]
      obtain ⟨s, among, begun, since, soon⟩ :=
        login_origin g _ earlier _ e unforged position state returnUrl logsIn.1 validState
      exact .inr ⟨state, logsIn, s, among, begun, since, soon⟩
  · obtain ⟨place, signed⟩ := given_login g e token login
    cases content.symm.trans signed
    cases purpose

theorem session_provenance_of_issue :
    ∃ (steps : List Step) (e m : Moment),
      Unforged sample (sample.history ⟨[[107]]⟩ steps) ∧ sample.history ⟨[[107]]⟩ steps = [e] ++ m :: [] ∧
      m.answer sample = .outcome ⟨.authenticated "ann" .sessionCookie, []⟩ ∧
      "ann" ≠ "" ∧ ∃ earlier o later, [e] = earlier ++ o :: later ∧
        o.now.toNat ≤ m.now.toNat ∧ m.now.toNat < o.now.toNat + 7200 ∧
        (o.event = .issueSession "ann" ∨
          ∃ state, o.LogsIn sample state "ann" ∧ ∃ s ∈ earlier, s.GivesLogin sample state ∧
            s.now.toNat ≤ o.now.toNat ∧ o.now.toNat < s.now.toNat + 300) := by
  obtain ⟨token, signed⟩ : ∃ token, Token.sign ⟨[[107]]⟩
      (Claims.issue sample.sessions.issuer 100 Sessions.lifetime (.session "ann")) = .ok token :=
    ⟨_, (Token.sign_ok_iff _ _ _).mpr ⟨[107], rfl, rfl⟩⟩
  have issued := (Sessions.issue_ok_iff sample.sessions ⟨[[107]]⟩ 100 "ann" _).mpr ⟨token, signed, rfl⟩
  have valid := Sessions.validate_issued sample.sessions ⟨[[107]]⟩ ⟨[[107]]⟩ 100 7299 "ann" _ issued (by decide)
    (fun _ kept => kept) (by decide) (by decide)
  have carried := sample.sessions.issued_carried _ 100 "ann" _ issued (by decide) (by decide)
  let r : Request := ⟨"GET", "/", none, some ("auth_cookie" ++ "=" ++ token), none⟩
  have found : Cookie.find? r.cookies sample.sessions.cookieName = some token :=
    Cookie.find_carried _ _ token (by decide) carried
  let e : Moment := ⟨⟨[[107]]⟩, 100, .issueSession "ann"⟩
  let m : Moment := ⟨⟨[[107]]⟩, 7299, .resolve r⟩
  have known : m.answer sample = .outcome ⟨.authenticated "ann" .sessionCookie, []⟩ := by
    have user := (session_user_iff sample ⟨[[107]]⟩ 7299 r "ann").mpr ⟨token, found, valid⟩
    exact congrArg (fun outcome => Answer.outcome ⟨outcome, []⟩)
      ((resolve_session_iff sample ⟨[[107]]⟩ 7299 r "ann").mpr ⟨rfl, user⟩)
  have met : sample.history ⟨[[107]]⟩ [⟨100, .issueSession "ann"⟩, ⟨7299, .resolve r⟩] = [e] ++ m :: [] := rfl
  have unforged : Unforged sample (sample.history ⟨[[107]]⟩ [⟨100, .issueSession "ann"⟩, ⟨7299, .resolve r⟩]) := by
    have given : e.GivesSession sample token := .inl ⟨_, congrArg Answer.session issued, rfl⟩
    have shownThen : m.presented sample = [token] := congrArg (fun cookie => Option.toList cookie ++ []) found
    intro before n after split shown presented _
    rw [met] at split
    cases before with
    | nil =>
        cases split
        cases presented
    | cons first rest =>
        obtain ⟨rfl, tail⟩ := List.cons.inj split
        cases rest with
        | nil =>
            cases tail
            rw [shownThen] at presented
            cases List.mem_singleton.mp presented
            exact ⟨e, List.mem_cons_self, .inl given⟩
        | cons second others => simp at tail
  exact ⟨_, e, m, unforged, met, known, session_provenance sample _ _ unforged [e] [] m met "ann" [] known⟩

end LoginGateway.Gateway
