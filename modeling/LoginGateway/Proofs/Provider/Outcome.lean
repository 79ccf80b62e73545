import LoginGateway.Proofs.Provider.Traffic

/-!
What becomes of the calls for one user: a name, a record that names nobody, or the failure of the first call that
fails. Of the failures only those are worth another attempt in which the provider was late or could not be reached.
-/
set_option autoImplicit false

namespace LoginGateway

variable {α : Type}

def Reply.IsTransient (reply : Reply) : Prop := reply = .timedOut ∨ reply = .refused

structure Error.IsUpstream (e : Error) (transient : Prop) : Prop where
  named : e ≠ .missingUsername
  hosted : e ≠ .missingHost
  passing : e.isTransient ↔ transient

theorem Error.upstream_status (e : Error) (transient : Prop) (upstream : e.IsUpstream transient) :
    (transient → e.status = 503) ∧ (¬ transient → e.status = 500) := by
  have told : e.status = if e.isTransient then 503 else 500 := by
    cases e with
    | missingHost => exact absurd rfl upstream.hosted
    | _ => rfl
  rw [told, ← upstream.passing]
  exact ⟨fun passing => if_pos passing, fun lasting => if_neg lasting⟩

theorem Reply.read_complete_error (decode : Json → Option α) (status : Nat) (body : Bytes) (e : Error)
    (failed : (complete status body).read decode = .error e) : e = .providerStatus status ∨ e = .json := by
  rw [read] at failed
  by_cases good : status < 300
  · rw [if_pos good, readDocument] at failed
    cases decoded : (Json.read? body).bind decode with
    | some value => rw [decoded] at failed; cases failed
    | none =>
        rw [decoded] at failed
        exact .inr (Except.error.inj failed).symm
  · rw [if_neg good] at failed
    exact .inl (Except.error.inj failed).symm

theorem Reply.read_error (decode : Json → Option α) (reply : Reply) (e : Error) (failed : reply.read decode = .error e) :
    e.IsUpstream reply.IsTransient := by
  cases reply with
  | complete status body =>
      rcases read_complete_error decode status body e failed with rfl | rfl <;>
        exact ⟨by simp, by simp, by simp [Error.isTransient, IsTransient]⟩
  | timedOut | refused | brokenOff =>
      cases failed
      exact ⟨by simp, by simp, by simp [Error.isTransient, IsTransient]⟩

-- An address that HTTP cannot call will never do better.
theorem Call.post_error (decode : Json → Option α) (p : Post) (script : Script) (e : Error)
    (failed : (post decode p script).result = .error e) :
    e.IsUpstream (p.address.isCallable ∧ script.next.1.IsTransient) := by
  rw [post] at failed
  by_cases callable : p.address.isCallable
  · rw [if_pos callable] at failed
    simpa [callable] using Reply.read_error decode script.next.1 e failed
  · rw [if_neg callable] at failed
    cases failed
    exact ⟨by simp, by simp, by simp [Error.isTransient, callable]⟩

namespace Provider

def Tells (p : Provider) (script : Script) (user : UserInfo) : Prop :=
  p.userinfo.isCallable ∧ ∃ status body, script.next.2.next.1 = .complete status body ∧ status < 300 ∧
    readDocument UserInfo.ofJson? body = .ok user

def IsUnavailable (p : Provider) (script : Script) : Prop :=
  p.tokens.isCallable ∧ script.next.1.IsTransient ∨
    (∃ token, p.Grants script token) ∧ p.userinfo.isCallable ∧ script.next.2.next.1.IsTransient

theorem grants_lasting (p : Provider) (script : Script) (token : AccessToken) (granted : p.Grants script token) :
    ¬ script.next.1.IsTransient := by
  obtain ⟨_, status, body, replied, _⟩ := granted
  rw [replied]
  simp [Reply.IsTransient]

theorem tells_lasting (p : Provider) (script : Script) (user : UserInfo) (told : p.Tells script user) :
    ¬ script.next.2.next.1.IsTransient := by
  obtain ⟨_, status, body, replied, _⟩ := told
  rw [replied]
  simp [Reply.IsTransient]

theorem exchange_rest (p : Provider) (code redirectUri : String) (script : Script) (callable : p.tokens.isCallable) :
    (p.exchangeCode code redirectUri script).rest = script.next.2 := by
  rw [exchangeCode, Call.check, Call.post, if_pos (show (p.codePost code redirectUri).address.isCallable from callable)]

theorem exchange_error (p : Provider) (code redirectUri : String) (script : Script) (e : Error)
    (failed : (p.exchangeCode code redirectUri script).result = .error e) :
    e.IsUpstream (p.tokens.isCallable ∧ script.next.1.IsTransient) := by
  rw [exchangeCode, Call.check] at failed
  cases posted : (Call.post AccessToken.ofJson? (p.codePost code redirectUri) script).result with
  | error cause =>
      rw [posted] at failed
      cases failed
      exact Call.post_error _ _ script _ posted
  | ok token =>
      obtain ⟨_, read⟩ := (Call.post_ok_iff _ _ _ _).mp posted
      obtain ⟨status, body, replied, _⟩ := (Reply.read_ok_iff _ _ _).mp read
      rw [posted, Except.bind, usable] at failed
      by_cases good : token.isUsable
      · rw [if_pos good] at failed
        cases failed
      · rw [if_neg good] at failed
        cases failed
        exact ⟨by simp, by simp, by simp [Error.isTransient, Reply.IsTransient, replied]⟩

theorem fetch_tells_iff (p : Provider) (token : AccessToken) (script : Script) (user : UserInfo) :
    (p.fetchUserinfo token script.next.2).result = .ok user ↔ p.Tells script user := by
  rw [fetchUserinfo, Call.post_ok_iff, Reply.read_ok_iff]
  rfl

theorem identify_told (p : Provider) (code redirectUri : String) (script : Script) (token : AccessToken)
    (user : UserInfo) (granted : p.Grants script token) (told : p.Tells script user) :
    (p.identify code redirectUri script).result = named user := by
  rw [identify, Call.check, Call.andThen, (p.exchange_grants_iff code redirectUri script token).mpr granted]
  dsimp only
  rw [p.exchange_rest code redirectUri script granted.1, (p.fetch_tells_iff token script user).mpr told]
  rfl

theorem unavailable_untold (p : Provider) (script : Script) (late : p.IsUnavailable script) (token : AccessToken)
    (user : UserInfo) (granted : p.Grants script token) : ¬ p.Tells script user := by
  intro told
  rcases late with ⟨_, first⟩ | ⟨_, _, second⟩
  · exact p.grants_lasting script token granted first
  · exact p.tells_lasting script user told second

theorem identify_untold (p : Provider) (code redirectUri : String) (script : Script)
    (untold : ∀ token user, p.Grants script token → ¬ p.Tells script user) :
    ∃ e, (p.identify code redirectUri script).result = .error e ∧ e.IsUpstream (p.IsUnavailable script) := by
  rw [identify, Call.check, Call.andThen]
  cases exchanged : (p.exchangeCode code redirectUri script).result with
  | error e =>
      have refused : ∀ token, ¬ p.Grants script token := by
        intro token granted
        rw [(p.exchange_grants_iff code redirectUri script token).mpr granted] at exchanged
        cases exchanged
      have upstream := p.exchange_error code redirectUri script e exchanged
      refine ⟨e, rfl, upstream.named, upstream.hosted, ?_⟩
      rw [upstream.passing, IsUnavailable]
      simp [refused]
  | ok token =>
      have granted := (p.exchange_grants_iff code redirectUri script token).mp exchanged
      dsimp only
      rw [p.exchange_rest code redirectUri script granted.1]
      cases fetched : (p.fetchUserinfo token script.next.2).result with
      | ok user => exact absurd ((p.fetch_tells_iff token script user).mp fetched) (untold token user granted)
      | error e =>
          have upstream := Call.post_error UserInfo.ofJson? (p.userinfoPost token) script.next.2 e fetched
          have lasting := p.grants_lasting script token granted
          have reached : ∃ token, p.Grants script token := ⟨token, granted⟩
          refine ⟨e, rfl, upstream.named, upstream.hosted, ?_⟩
          rw [upstream.passing, IsUnavailable]
          simp [lasting, reached, userinfoPost]

end Provider

end LoginGateway
