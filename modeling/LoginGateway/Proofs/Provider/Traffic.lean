import LoginGateway.Proofs.Provider.Identification
import LoginGateway.Proofs.Web.Form

/-!
What a provider is asked for one user: a token, and with a good one a record. What is asked is handed to the
HTTP client, which refuses an address that is none of HTTP's; all else is attempted, in the same order, whatever
becomes of it.
-/
set_option autoImplicit false

namespace LoginGateway

variable {α : Type}

theorem Post.body_decodes (p : Post) : Form.decode p.body.toList = p.form := by
  rw [body, String.toList_ofList, Form.decode_encode]

theorem Call.post_ok_iff (decode : Json → Option α) (p : Post) (script : Script) (a : α) :
    (post decode p script).result = .ok a ↔ p.address.isCallable ∧ script.next.1.read decode = .ok a := by
  rw [post]
  by_cases callable : p.address.isCallable
  · simp [callable]
  · simp [callable, fail]

theorem Call.post_posts (decode : Json → Option α) (p : Post) (script : Script) :
    (post decode p script).attempts.map Attempt.post = [p].filter (fun q => q.address.isCallable) := by
  rw [post]
  by_cases callable : p.address.isCallable
  · simp [callable]
  · simp [callable, fail]

namespace Provider

def Grants (p : Provider) (script : Script) (token : AccessToken) : Prop :=
  p.tokens.isCallable ∧ ∃ status body, script.next.1 = .complete status body ∧ status < 300 ∧
    readDocument AccessToken.ofJson? body = .ok token ∧ token.tokenType = "Bearer" ∧ token.token ≠ ""

def asked (p : Provider) (code redirectUri : String) (script : Script) : List Post :=
  p.codePost code redirectUri ::
    match (p.exchangeCode code redirectUri script).result with
    | .ok token => [p.userinfoPost token]
    | .error _ => []

theorem exchange_grants_iff (p : Provider) (code redirectUri : String) (script : Script) (token : AccessToken) :
    (p.exchangeCode code redirectUri script).result = .ok token ↔ p.Grants script token := by
  rw [exchangeCode, Call.check_ok_iff, Grants]
  constructor
  · rintro ⟨found, answered, accepted⟩
    obtain ⟨usable, rfl⟩ := (usable_ok_iff found token).mp accepted
    obtain ⟨callable, read⟩ := (Call.post_ok_iff _ _ _ _).mp answered
    obtain ⟨status, body, replied, good, decoded⟩ := (Reply.read_ok_iff _ _ _).mp read
    exact ⟨callable, status, body, replied, good, decoded, (AccessToken.is_usable_iff found).mp usable⟩
  · rintro ⟨callable, status, body, replied, good, decoded, usable⟩
    have read := (Reply.read_ok_iff _ _ _).mpr ⟨status, body, replied, good, decoded⟩
    have accepted := (usable_ok_iff token token).mpr ⟨(AccessToken.is_usable_iff token).mpr usable, rfl⟩
    exact ⟨token, (Call.post_ok_iff _ _ _ _).mpr ⟨callable, read⟩, accepted⟩

theorem asked_refused (p : Provider) (code redirectUri : String) (script : Script)
    (refused : ∀ token, ¬ p.Grants script token) : p.asked code redirectUri script = [p.codePost code redirectUri] := by
  rw [asked]
  cases exchanged : (p.exchangeCode code redirectUri script).result with
  | ok token => exact absurd ((p.exchange_grants_iff code redirectUri script token).mp exchanged) (refused token)
  | error e => rfl

theorem identify_posts (p : Provider) (code redirectUri : String) (script : Script) :
    (p.identify code redirectUri script).attempts.map Attempt.post =
      (p.asked code redirectUri script).filter (fun post => post.address.isCallable) := by
  have first : (p.exchangeCode code redirectUri script).attempts.map Attempt.post = _ :=
    Call.post_posts AccessToken.ofJson? (p.codePost code redirectUri) script
  rw [identify, Call.check, asked]
  dsimp only
  cases exchanged : (p.exchangeCode code redirectUri script).result with
  | error e => rw [Call.and_then_stopped _ _ e exchanged, first]
  | ok token =>
      rw [Call.and_then_attempts _ _ token exchanged, List.map_append, first, fetchUserinfo, Call.post_posts,
        ← List.filter_append, List.singleton_append]

theorem identify_first (p : Provider) (code redirectUri : String) (script : Script) (attempt : Attempt)
    (others : List Attempt) (called : (p.identify code redirectUri script).attempts = attempt :: others) :
    attempt.post = p.codePost code redirectUri := by
  have posts := p.identify_posts code redirectUri script
  rw [called, List.map_cons] at posts
  by_cases callable : (p.codePost code redirectUri).address.isCallable
  · simp only [asked, List.filter_cons, callable, if_true] at posts
    exact (List.cons.inj posts).1
  · have refused : ∀ token, ¬ p.Grants script token := fun token granted => callable granted.1
    rw [p.asked_refused code redirectUri script refused] at posts
    simp [callable] at posts

end Provider

end LoginGateway
