import LoginGateway.Provider.Basic

/-!
When the provider names a user: after two calls that were both answered, the first with a token that
can be used and the second with a record that names someone.
-/
set_option autoImplicit false

namespace LoginGateway

variable {α β : Type}

theorem Reply.read_ok_iff (decode : Json → Option α) (reply : Reply) (a : α) :
    reply.read decode = .ok a ↔
      ∃ status body, reply = .complete status body ∧ status < 300 ∧ readDocument decode body = .ok a := by
  constructor
  · intro answered
    cases reply with
    | complete status body =>
        rw [read] at answered
        by_cases good : status < 300
        · rw [if_pos good] at answered
          exact ⟨status, body, rfl, good, answered⟩
        · rw [if_neg good] at answered
          cases answered
    | timedOut => cases answered
    | refused => cases answered
    | brokenOff => cases answered
  · rintro ⟨status, body, rfl, good, decoded⟩
    rw [read, if_pos good, decoded]

theorem AccessToken.is_usable_iff (t : AccessToken) : t.isUsable ↔ t.tokenType = "Bearer" ∧ t.token ≠ "" := by
  rw [isUsable, Bool.and_eq_true, decide_eq_true_eq, decide_eq_true_eq]

namespace Call

theorem post_attempts (decode : Json → Option α) (p : Post) (script : Script) (a : α)
    (answered : (post decode p script).result = .ok a) :
    ∃ reply, (post decode p script).attempts = [⟨p, reply⟩] ∧ reply.read decode = .ok a := by
  rw [post] at answered ⊢
  by_cases callable : p.address.isCallable
  · rw [if_pos callable] at answered ⊢
    exact ⟨script.next.1, rfl, answered⟩
  · rw [if_neg callable] at answered
    cases answered

theorem post_result (decode : Json → Option α) (p : Post) (script : Script) (attempt : Attempt) (rest : List Attempt)
    (attempted : (post decode p script).attempts = attempt :: rest) :
    (post decode p script).result = attempt.reply.read decode ∧ attempt.post = p ∧ rest = [] := by
  rw [post] at attempted ⊢
  by_cases callable : p.address.isCallable
  · rw [if_pos callable] at attempted ⊢
    cases attempted
    exact ⟨rfl, rfl, rfl⟩
  · rw [if_neg callable] at attempted
    cases attempted

theorem check_ok_iff (c : Call α) (test : α → Except Error β) (b : β) :
    (c.check test).result = .ok b ↔ ∃ a, c.result = .ok a ∧ test a = .ok b := by
  rw [check]
  cases c.result with
  | error e => simp [Except.bind]
  | ok a => simp [Except.bind]

theorem and_then_ok_iff (c : Call α) (next : α → Script → Call β) (b : β) :
    (c.andThen next).result = .ok b ↔ ∃ a, c.result = .ok a ∧ (next a c.rest).result = .ok b := by
  rw [andThen]
  cases c.result with
  | error e => simp
  | ok a => simp

theorem and_then_attempts (c : Call α) (next : α → Script → Call β) (a : α) (done : c.result = .ok a) :
    (c.andThen next).attempts = c.attempts ++ (next a c.rest).attempts := by
  rw [andThen, done]

theorem and_then_stopped (c : Call α) (next : α → Script → Call β) (e : Error) (failed : c.result = .error e) :
    (c.andThen next).attempts = c.attempts := by
  rw [andThen, failed]

end Call

namespace Provider

theorem usable_ok_iff (token usable : AccessToken) :
    Provider.usable token = .ok usable ↔ token.isUsable ∧ token = usable := by
  by_cases test : token.isUsable
  · simp [Provider.usable, test]
  · simp [Provider.usable, test]

theorem named_ok_iff (user : UserInfo) (username : String) :
    named user = .ok username ↔ username ≠ "" ∧ user.derived = username := by
  by_cases nobody : user.derived = ""
  · simp [named, nobody, eq_comm]
  · have told : named user = .ok user.derived := if_neg nobody
    rw [told]
    constructor
    · intro same
      cases same
      exact ⟨nobody, rfl⟩
    · intro derived
      exact congrArg Except.ok derived.2

theorem exchange_ok_iff (p : Provider) (code redirectUri : String) (script : Script) (token : AccessToken) :
    (p.exchangeCode code redirectUri script).result = .ok token ↔
      ∃ reply, (p.exchangeCode code redirectUri script).attempts = [⟨p.codePost code redirectUri, reply⟩] ∧
        reply.read AccessToken.ofJson? = .ok token ∧ token.isUsable := by
  rw [exchangeCode]
  rw [Call.check_ok_iff]
  constructor
  · rintro ⟨found, answered, accepted⟩
    obtain ⟨usable, rfl⟩ := (usable_ok_iff _ _).mp accepted
    obtain ⟨reply, attempted, read⟩ := Call.post_attempts _ _ _ _ answered
    exact ⟨reply, attempted, read, usable⟩
  · rintro ⟨reply, attempted, read, usable⟩
    obtain ⟨answered, _, _⟩ := Call.post_result _ _ _ _ _ attempted
    exact ⟨token, answered.trans read, (usable_ok_iff _ _).mpr ⟨usable, rfl⟩⟩

theorem identify_of_replies (p : Provider) (code redirectUri : String) (script : Script) (first second : Reply)
    (user : UserInfo) (replied : (p.identify code redirectUri script).attempts.map Attempt.reply = [first, second])
    (read : second.read UserInfo.ofJson? = .ok user) (named : user.derived ≠ "") :
    (p.identify code redirectUri script).result = .ok user.derived := by
  have attempts : (p.identify code redirectUri script).attempts =
      ((p.exchangeCode code redirectUri script).andThen p.fetchUserinfo).attempts := rfl
  rw [attempts] at replied
  rw [identify, Call.check_ok_iff]
  refine ⟨user, ?_, (named_ok_iff user _).mpr ⟨named, rfl⟩⟩
  cases exchanged : (p.exchangeCode code redirectUri script).result with
  | error e =>
      rw [Call.and_then_stopped _ _ e exchanged] at replied
      cases once : (p.exchangeCode code redirectUri script).attempts with
      | nil => rw [once] at replied; cases replied
      | cons attempt rest =>
          obtain ⟨_, _, single⟩ := Call.post_result _ _ _ _ _ once
          rw [once, single] at replied
          cases replied
  | ok found =>
      obtain ⟨reply, once, _, _⟩ := (exchange_ok_iff _ _ _ _ _).mp exchanged
      rw [Call.and_then_attempts _ _ found exchanged, once] at replied
      have rest := (List.cons.inj replied).2
      cases fetched : (p.fetchUserinfo found (p.exchangeCode code redirectUri script).rest).attempts with
      | nil => rw [fetched] at rest; cases rest
      | cons attempt others =>
          obtain ⟨answered, _, single⟩ := Call.post_result _ _ _ _ _ fetched
          rw [fetched, single] at rest
          cases rest
          exact (Call.and_then_ok_iff _ _ _).mpr ⟨found, exchanged, answered.trans read⟩

theorem identify_attempts (p : Provider) (code redirectUri : String) (script : Script) (first second : Reply)
    (rest : List Reply) (token : AccessToken) (tokens : p.tokens.isCallable) (userinfo : p.userinfo.isCallable)
    (replies : script.replies = first :: second :: rest) (read : first.read AccessToken.ofJson? = .ok token)
    (accepted : token.isUsable) :
    (p.identify code redirectUri script).attempts.map Attempt.reply = [first, second] := by
  have next : script.next = (first, { script with replies := second :: rest }) := by rw [Script.next, replies]
  have posted : Call.post AccessToken.ofJson? (p.codePost code redirectUri) script =
      ⟨.ok token, [⟨p.codePost code redirectUri, first⟩], { script with replies := second :: rest }⟩ := by
    rw [Call.post, if_pos (show (p.codePost code redirectUri).address.isCallable from tokens), next, ← read]
  have exchanged : p.exchangeCode code redirectUri script =
      ⟨.ok token, [⟨p.codePost code redirectUri, first⟩], { script with replies := second :: rest }⟩ := by
    rw [exchangeCode, posted, Call.check, Except.bind, (usable_ok_iff token token).mpr ⟨accepted, rfl⟩]
  have fetched : (p.fetchUserinfo token { script with replies := second :: rest }).attempts =
      [⟨p.userinfoPost token, second⟩] := by
    rw [fetchUserinfo, Call.post, if_pos (show (p.userinfoPost token).address.isCallable from userinfo)]
    rfl
  rw [identify, Call.check, exchanged, Call.and_then_attempts _ _ token rfl, fetched]
  rfl

theorem identify_ok_iff (p : Provider) (code redirectUri : String) (script : Script) (username : String) :
    (p.identify code redirectUri script).result = .ok username ↔
      ∃ first second token user,
        (p.identify code redirectUri script).attempts =
          [⟨p.codePost code redirectUri, first⟩, ⟨p.userinfoPost token, second⟩] ∧
        first.read AccessToken.ofJson? = .ok token ∧ token.isUsable ∧
        second.read UserInfo.ofJson? = .ok user ∧ user.derived = username ∧ username ≠ "" := by
  constructor
  · intro identified
    obtain ⟨user, fetched, called⟩ := (Call.check_ok_iff _ _ _).mp identified
    obtain ⟨filled, derived⟩ := (named_ok_iff user username).mp called
    obtain ⟨token, exchanged, fetched⟩ := (Call.and_then_ok_iff _ _ _).mp fetched
    obtain ⟨first, attempted, read, usable⟩ := (exchange_ok_iff _ _ _ _ _).mp exchanged
    obtain ⟨second, attemptedToo, readToo⟩ := Call.post_attempts _ _ _ _ fetched
    have attempts : (p.identify code redirectUri script).attempts =
        ((p.exchangeCode code redirectUri script).andThen p.fetchUserinfo).attempts := rfl
    refine ⟨first, second, token, user, ?_, read, usable, readToo, derived, filled⟩
    rw [attempts, Call.and_then_attempts _ _ token exchanged, attempted, fetchUserinfo, attemptedToo]
    rfl
  · rintro ⟨first, second, token, user, attempted, _, _, read, rfl, filled⟩
    exact identify_of_replies p code redirectUri script first second user (by rw [attempted]; rfl) read filled

end Provider

end LoginGateway
