import LoginGateway.Proofs.Gateway.Verdict
import LoginGateway.Proofs.Provider.Records

/-!
What a login makes of the objects that the provider replies with: which of their members it goes by, and which it does
not go by and is refused for all the same.
-/
set_option autoImplicit false

namespace LoginGateway.Gateway

open Json

theorem callback_untidy (g : Gateway) (keys : KeySet) (now : UInt64) (r : Request) (script : Script) (a : Arrival)
    (arrives : g.Arrives keys now r a) (granted recorded : Members) (first : script.next.1.IsObject granted)
    (second : script.next.2.next.1.IsObject recorded)
    (untidy : ¬ (AccessToken.IsTidy granted ∧ UserInfo.IsTidy recorded)) :
    (g.callback keys now r script).answer = .failure 500 "bad transaction with openid context" := by
  have untold : ∀ token user, g.provider.Grants script token → ¬ g.provider.Tells script user :=
    fun token user grants tells => untidy
      ⟨g.provider.granted_tidy script granted first token grants, g.provider.told_tidy script recorded second user tells⟩
  have lasting : ¬ g.provider.IsUnavailable script := by
    intro late
    rcases late with ⟨_, passing⟩ | ⟨_, _, passing⟩
    · exact script.next.1.object_lasting granted first passing
    · exact script.next.2.next.1.object_lasting recorded second passing
  exact (g.callback_untold keys now r script a arrives untold).2 lasting

theorem callback_by_members (config : Config) (g : Gateway) (start : KeySet) (built : ofConfig config = .ok (g, start))
    (steps : List Step) (keys : KeySet) (reached : keys = (g.run start steps).1) (now : UInt64) (r : Request)
    (script : Script) (a : Arrival) (arrives : g.Arrives keys now r a) (callable : g.provider.tokens.isCallable)
    (callableToo : g.provider.userinfo.isCallable) (granted recorded : Members)
    (first : script.next.1.IsObject granted) (second : script.next.2.next.1.IsObject recorded) (text : String)
    (token : member? granted "access_token" = some (.str text)) (filled : text ≠ "")
    (bearer : member? granted "token_type" = some (.str "Bearer"))
    (names : ∀ name ∈ UserInfo.nameFields, TextOrMissing (member? recorded name)) :
    (AccessToken.IsTidy granted → UserInfo.IsTidy recorded →
      (UserInfo.firstFilled recorded ≠ "" → ∃ cookie value,
        (g.callback keys now r script).answer = .redirect (ReturnUrl.restricted a.returnUrl) (some cookie) ∧
        Cookie.setValue? g.sessions.cookieName cookie = some value ∧
        (now.toNat + 7200 < 2 ^ 64 →
          g.sessions.validate keys now value = .ok (some (UserInfo.firstFilled recorded)))) ∧
      (UserInfo.firstFilled recorded = "" →
        (g.callback keys now r script).answer = .failure 500 "cannot determine username")) ∧
    (¬ (AccessToken.IsTidy granted ∧ UserInfo.IsTidy recorded) →
      (g.callback keys now r script).answer = .failure 500 "bad transaction with openid context") := by
  have signs := reached_signs config g start built steps keys reached
  refine ⟨fun tidy tidyToo => ?_, g.callback_untidy keys now r script a arrives granted recorded first second⟩
  obtain ⟨token, grants⟩ := g.provider.tidy_granted script granted callable first tidy text token filled bearer
  obtain ⟨user, tells, named⟩ := g.provider.tidy_told script recorded callableToo second tidyToo names
  rw [← named]
  exact ⟨g.session_answer_holds keys now r script signs a token user arrives grants tells,
    g.callback_nameless keys now r script a token user arrives grants tells⟩

def sampleCalls (token record : List (String × Json)) : Script :=
  ⟨[.complete 200 (Text.utf8 (fields token).compact), .complete 200 (Text.utf8 (fields record).compact)], .refused⟩

def oddToken : List (String × Json) :=
  [("expires_in", .null), ("access_token", .str "x"), ("scope", .array [.str "a", .null]), ("token_type", .str "Bearer")]

def oddRecord (username : String) : List (String × Json) :=
  [("picture", .null), ("sub", .str "7"), ("username", .str ""), ("login", .str username), ("roles", .array [.null])]

theorem callback_by_members_with_odd_others :
    ∃ state cookie value,
      (sample.callback ⟨[[107]]⟩ 399 (sampleReturn state) (sampleCalls oddToken (oddRecord "ann"))).answer =
        .redirect "/" (some cookie) ∧
      Cookie.setValue? "auth_cookie" cookie = some value ∧
      sample.sessions.validate ⟨[[107]]⟩ 399 value = .ok (some "ann") ∧
      (sample.callback ⟨[[107]]⟩ 399 (sampleReturn state) (sampleCalls oddToken (oddRecord ""))).answer =
        .failure 500 "cannot determine username" := by
  obtain ⟨state, uri, arrives⟩ := sample_arrives
  have first := Reply.written_object 200 (by decide) oddToken (by simp [oddToken, str, isPlain, itemsPlain]) (by decide)
  have second (username : String) := Reply.written_object 200 (by decide) (oddRecord username)
    (by simp [oddRecord, str, isPlain, itemsPlain]) (by simp [oddRecord])
  have names (username : String) :
      ∀ name ∈ UserInfo.nameFields, TextOrMissing (member? (ofPairs (oddRecord username)) name) := by
    intro name among j found
    simp only [UserInfo.nameFields, List.mem_cons, List.not_mem_nil, or_false] at among
    rcases among with rfl | rfl | rfl | rfl <;> cases found <;> exact ⟨_, rfl⟩
  have decided (username : String) := callback_by_members sampleConfig sample _ sample_built [] ⟨[[107]]⟩ rfl 399
    (sampleReturn state) (sampleCalls oddToken (oddRecord username)) _ arrives (by decide) (by decide) _ _ first
    (second username) "x" rfl (by decide) rfl (names username)
  have tidy : AccessToken.IsTidy (ofPairs oddToken) := by
    refine ⟨pairs_named oddToken, ?_, ?_⟩ <;> intro j found <;> cases found
    exact .inl rfl
  have tidyToo (username : String) : UserInfo.IsTidy (ofPairs (oddRecord username)) := by
    refine ⟨pairs_named _, ?_, ?_⟩ <;> intro j found <;> cases found
    exact ⟨"7", rfl⟩
  have place : ReturnUrl.restricted "/" = "/" := by rfl
  obtain ⟨named, _⟩ := (decided "ann").1 tidy (tidyToo "ann")
  obtain ⟨_, nameless⟩ := (decided "").1 tidy (tidyToo "")
  obtain ⟨cookie, value, answered, set, valid⟩ := named (by decide)
  rw [place] at answered
  exact ⟨state, cookie, value, answered, set, valid (by decide), nameless rfl⟩

theorem callback_lost_to_null_name :
    ∃ state uri token record, sample.Arrives ⟨[[107]]⟩ 399 (sampleReturn state) ⟨"c", "/", uri⟩ ∧
      sample.provider.tokens.isCallable ∧ sample.provider.userinfo.isCallable ∧
      token = [("access_token", .str "x"), ("token_type", .str "Bearer")] ∧
      record = [("username", .str "ann"), ("name", .null)] ∧
      (sampleCalls token record).next.1.IsObject (ofPairs token) ∧
      (sampleCalls token record).next.2.next.1.IsObject (ofPairs record) ∧
      (∀ name ∈ UserInfo.nameFields, TextOrMissing (member? (ofPairs record) name)) ∧
      UserInfo.firstFilled (ofPairs record) = "ann" ∧
      (sample.callback ⟨[[107]]⟩ 399 (sampleReturn state) (sampleCalls token record)).answer =
        .failure 500 "bad transaction with openid context" := by
  obtain ⟨state, uri, arrives⟩ := sample_arrives
  have first := Reply.written_object 200 (by decide) [("access_token", .str "x"), ("token_type", .str "Bearer")]
    (by simp [str, isPlain]) (by simp)
  have second := Reply.written_object 200 (by decide) [("username", .str "ann"), ("name", .null)]
    (by simp [str, isPlain]) (by simp)
  have names : ∀ name ∈ UserInfo.nameFields,
      TextOrMissing (member? (ofPairs [("username", .str "ann"), ("name", .null)]) name) := by
    intro name among j found
    simp only [UserInfo.nameFields, List.mem_cons, List.not_mem_nil, or_false] at among
    rcases among with rfl | rfl | rfl | rfl <;> cases found
    exact ⟨"ann", rfl⟩
  have untidy : ¬ UserInfo.IsTidy (ofPairs [("username", .str "ann"), ("name", .null)]) := by
    intro tidy
    obtain ⟨_, spelled⟩ := tidy.name .null rfl
    cases spelled
  exact ⟨state, uri, _, _, arrives, by decide, by decide, rfl, rfl, first, second, names, by rfl,
    sample.callback_untidy _ _ _ _ _ arrives _ _ first second fun tidy => untidy tidy.2⟩

end LoginGateway.Gateway
