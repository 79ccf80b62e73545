import LoginGateway.Proofs.Gateway.Recognition
import LoginGateway.Proofs.Http.Response
import LoginGateway.Proofs.Time.HttpDate

/-!
What the gateway decides on can be sent. Wherever a request wants to go, whatever the provider calls the user and
however the addresses are configured, an answer holds no character that a field refuses, and it goes out as it was
decided on.
-/
set_option autoImplicit false

namespace LoginGateway

theorem Url.extended_printed (u : Url) (form : List Char) (written : u.Written)
    (printed : ∀ c ∈ form, Text.isControl c = false) : ∀ c ∈ (u.extend form).text, Text.isControl c = false := by
  have front : ∀ c ∈ u.queryFront, Text.isControl c = false := by
    rw [queryFront]
    cases given : u.query with
    | none => simp
    | some own =>
        cases own with
        | nil => simp
        | cons first rest =>
            have own := fun c member => (written.query _ given c member).2
            exact List.forall_mem_append.mpr ⟨own, Text.printed_of_any _ (by decide)⟩
  have back : ∀ c ∈ marked '#' u.fragment, Text.isControl c = false := by
    cases given : u.fragment with
    | none => simp [marked]
    | some text => exact List.forall_mem_cons.mpr ⟨by decide, written.fragment text given⟩
  rw [u.extend_text form]
  simp only [List.forall_mem_append, List.forall_mem_cons]
  exact ⟨⟨fun c member => (written.base c member).2, by decide, front, printed⟩, back⟩

theorem Provider.authorization_url_printed (p : Provider) (text : String) (read : Url.ofString text = .ok p.authorization)
    (state redirectUri : String) : Http.IsFieldText (p.authorizationUrl state redirectUri) := by
  have written := Url.read_written _ _ read
  rw [authorizationUrl, Url.toString, Http.IsFieldText, String.toList_ofList]
  exact fun c member => .inr (Url.extended_printed _ _ written (Form.encode_printed _) c member)

theorem ReturnUrl.restricted_printed (returnUrl : String) : Http.IsFieldText (restricted returnUrl) :=
  fun c member => .inr ((restrict_on_site returnUrl.toList).clear c member).2.2.2

theorem Sessions.issued_printed (s : Sessions) (keys : KeySet) (now : UInt64) (username : String) (session : SessionCookie)
    (issued : s.issue keys now username = .ok session) (named : Http.IsFieldText s.cookieName) :
    Http.IsFieldText session.header := by
  obtain ⟨signed, name, _⟩ := s.issued_parts keys now username session issued
  have value : ∀ c ∈ session.value.toList, Text.isControl c = false :=
    Token.signed_all (fun c => Text.isControl c = false) (by decide) (by decide) _ _ _ signed
  have date : ∀ c ∈ (HttpDate.toString session.expires).toList, Text.isControl c = false := by
    have printed := Text.printed_of_any HttpDate.letters (by decide)
    rw [HttpDate.toString, String.toList_ofList]
    exact fun c member => printed c (HttpDate.text_letters session.expires member)
  rw [SessionCookie.header, name]
  refine .append (.append (.append (.append (.append named ?_) (.of_printed value)) ?_) (.of_printed date)) ?_
  · decide
  · decide
  · decide

namespace Gateway

def Response.location? : Response → Option String
  | .redirect location _ => some location
  | .failure _ _ => none

def Response.cookie? : Response → Option String
  | .redirect _ cookie => cookie
  | .failure _ _ => none

structure Response.IsSentAs (response : Response) (sent : Http.Response) : Prop where
  status : sent.status = response.status
  cacheControl : sent.values "cache-control" = ["no-store"]
  location : sent.values "location" = response.location?.toList
  cookie : sent.values "set-cookie" = response.cookie?.toList
  body : ∀ location ∈ response.location?, sent.body = ""

structure Response.IsSendable (response : Response) : Prop where
  location : ∀ location ∈ response.location?, Http.IsFieldText location
  cookie : ∀ cookie ∈ response.cookie?, Http.IsFieldText cookie
  status : 100 ≤ response.status ∧ response.status ≤ 999

theorem sendable_sent (response : Response) (sendable : response.IsSendable) :
    ∃ sent, response.toHttp = .ok sent ∧ response.IsSentAs sent := by
  obtain ⟨place, text, status⟩ := sendable
  cases response with
  | redirect location cookie =>
      have taken : Http.IsFieldText location ∧ ∀ text ∈ cookie, Http.IsFieldText text := ⟨place location rfl, text⟩
      refine ⟨Http.redirection location cookie, ?_, ?_⟩
      · rw [Response.toHttp, Http.redirect_eq, if_pos taken]
      · cases cookie with
        | none => exact ⟨rfl, rfl, rfl, rfl, fun _ _ => rfl⟩
        | some text => exact ⟨rfl, rfl, rfl, rfl, fun _ _ => rfl⟩
  | failure code message =>
      have known : 100 ≤ code ∧ code ≤ 999 := status
      refine ⟨Http.refusal code message, ?_, ?_⟩
      · rw [Response.toHttp, Http.failure_eq, if_pos known]
      · exact ⟨rfl, rfl, rfl, rfl, nofun⟩

theorem redirect_sendable (location : String) (cookie : Option String) (taken : Http.IsFieldText location)
    (cookieTaken : ∀ text ∈ cookie, Http.IsFieldText text) : (Response.redirect location cookie).IsSendable := by
  have known : 100 ≤ 302 ∧ 302 ≤ 999 := by decide
  exact ⟨fun _ same => Option.some.inj same ▸ taken, cookieTaken, known⟩

theorem failure_sendable (status : Nat) (message : String) (known : status ∈ [400, 401, 405, 500, 503]) :
    (Response.failure status message).IsSendable := by
  have bounds : ∀ code ∈ [400, 401, 405, 500, 503], 100 ≤ code ∧ code ≤ 999 := by decide
  exact ⟨nofun, nofun, bounds status known⟩

variable (g : Gateway) (keys : KeySet) (now : UInt64) (r : Request)

theorem to_provider_sendable (text : String) (read : Url.ofString text = .ok g.provider.authorization) :
    (g.toProvider keys now r).IsSendable := by
  rw [toProvider]
  cases sent : g.authorizationUrl keys now r with
  | ok location =>
      obtain ⟨uri, state, _, _, rfl⟩ := (authorization_url_ok_iff g keys now r location).mp sent
      exact redirect_sendable _ none (g.provider.authorization_url_printed text read state uri) (by simp)
  | error e =>
      cases e with
      | missingHost => exact failure_sendable 400 _ (by decide)
      | _ => exact failure_sendable 500 _ (by decide)

theorem resolve_sendable (text : String) (read : Url.ofString text = .ok g.provider.authorization) (response : Response)
    (answered : g.resolve keys now r = .respond response) : response.IsSendable := by
  rw [resolve] at answered
  cases certified : g.certified? r with
  | some username => rw [certified] at answered; cases answered
  | none =>
      rw [certified] at answered
      cases known : g.sessionUser keys now r with
      | error e =>
          rw [known] at answered
          cases answered
          exact failure_sendable 500 _ (by decide)
      | ok found =>
          cases found with
          | some username => rw [known] at answered; cases answered
          | none =>
              rw [known] at answered
              cases answered
              exact g.to_provider_sendable keys now r text read

theorem landing_sendable (named : Http.IsFieldText g.sessions.cookieName) (returnUrl : String)
    (username : Except Error String) : (g.landing keys now returnUrl username).IsSendable := by
  rw [landing]
  cases issued : username.bind (g.sessions.issue keys now) with
  | ok session =>
      obtain ⟨user, _, made⟩ := bind_ok _ _ _ issued
      have printed := g.sessions.issued_printed keys now user session made named
      exact redirect_sendable _ _ (ReturnUrl.restricted_printed returnUrl) fun _ same => Option.some.inj same ▸ printed
  | error e =>
      have among : [400, 500, 503] ⊆ [400, 401, 405, 500, 503] := by decide
      exact failure_sendable _ _ (among e.status_known)

theorem callback_sendable (named : Http.IsFieldText g.sessions.cookieName) (script : Script) :
    (g.callback keys now r script).answer.IsSendable := by
  rw [callback]
  cases arrived : g.arrival keys now r with
  | error response =>
      obtain ⟨status, message, rfl, refused⟩ := arrival_refused g keys now r response arrived
      have among : [400, 401, 405] ⊆ [400, 401, 405, 500, 503] := by decide
      exact failure_sendable status message (among refused)
  | ok a => exact g.landing_sendable keys now named a.returnUrl _

inductive Decides (script : Script) : Response → Prop
  | handled (response : Response) (answered : (g.handle keys now r script).answer = .respond response) :
      Decides script response
  | resolved (response : Response) (answered : g.resolve keys now r = .respond response) : Decides script response
  | returned : Decides script (g.callback keys now r script).answer

theorem decided_is_sent (config : Config) (start : KeySet) (built : ofConfig config = .ok (g, start))
    (named : ∀ c ∈ g.sessions.cookieName.toList, c = '\t' ∨ Text.isControl c = false) (script : Script)
    (response : Response) (decided : g.Decides keys now r script response) :
    ∃ sent, response.toHttp = .ok sent ∧ response.IsSentAs sent := by
  have read := of_config_reads config g start built
  apply sendable_sent
  cases decided with
  | handled _ answered =>
      by_cases returns : g.isCallback r
      · rw [handled_callback g keys now r script returns] at answered
        cases answered
        exact g.callback_sendable keys now r named script
      · rw [handled_visit g keys now r script (Bool.eq_false_iff.mpr returns)] at answered
        exact g.resolve_sendable keys now r _ read response answered
  | resolved _ answered => exact g.resolve_sendable keys now r _ read response answered
  | returned => exact g.callback_sendable keys now r named script

-- A name with a tab and a letter that is not ASCII, and a place that would end the line and set a cookie of its own.
theorem decided_is_sent_after_hostile_state :
    ofConfig { sampleConfig with cookieName := "s\té" } = .ok (sampleNamed "s\té", ⟨[[107]]⟩) ∧
      ∃ state session sent,
        (sampleNamed "s\té").logins.validate ⟨[[107]]⟩ 399 state = .ok "/\r\nSet-Cookie: a=b" ∧
        ((sampleNamed "s\té").handle ⟨[[107]]⟩ 399 (sampleReturn state) sampleReplies).answer =
          .respond (.redirect "/" (some (SessionCookie.header session))) ∧
        (Response.redirect "/" (some (SessionCookie.header session))).toHttp = .ok sent ∧
        sent.values "location" = ["/"] ∧ sent.values "set-cookie" = [SessionCookie.header session] := by
  have built : ofConfig { sampleConfig with cookieName := "s\té" } = .ok (sampleNamed "s\té", ⟨[[107]]⟩) := rfl
  have plain : (sampleNamed "s\té").IsPlain :=
    ⟨sample_plain.path, sample_plain.relative, by decide, by decide, sample_plain.free⟩
  obtain ⟨state, _, valid⟩ := sample_state "/\r\nSet-Cookie: a=b"
  obtain ⟨called, landed⟩ := login_ends _ plain ⟨[[107]]⟩ ⟨[107], rfl⟩ 399 (sampleReturn state) sampleReplies
    "c" state _ _ (by decide) rfl rfl ⟨"h", rfl, by decide⟩ valid _ _ sample_identifies (by decide)
  obtain ⟨session, _, answered⟩ := landed (called (by decide) (by decide) ⟨[], rfl⟩)
  have place : ReturnUrl.restricted "/\r\nSet-Cookie: a=b" = "/" := by rfl
  rw [place] at answered
  have named : Http.IsFieldText "s\té" := by decide
  obtain ⟨sent, made, isSent⟩ := decided_is_sent _ ⟨[[107]]⟩ 399 (sampleReturn state) _ _ built named sampleReplies _
    (.handled _ answered)
  exact ⟨built, state, session, sent, valid, answered, made, isSent.location, isSent.cookie⟩

end Gateway

end LoginGateway
