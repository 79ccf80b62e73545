import LoginGateway.Proofs.Gateway.Answers
import LoginGateway.Proofs.Gateway.Keys
import LoginGateway.Proofs.Text.Blank
import LoginGateway.Proofs.Token.Authenticity

/-!
Who a request comes from. There are five answers, each given in its own case and in no other: the certificate's
subject, the session's user, a refusal of a session that names nobody, a refusal for want of a host, or the way to the
provider. No state of the keys that can be reached adds a sixth.
-/
set_option autoImplicit false

namespace LoginGateway.Gateway

def Certifies (g : Gateway) (r : Request) (name : String) : Prop :=
  g.clientCertificates = true ∧ name ≠ "" ∧ ∃ issuers others, r.chains = some ((name :: issuers) :: others)

def Shows (g : Gateway) (r : Request) (token : String) : Prop :=
  Cookie.find? r.cookies g.sessions.cookieName = some token

def IsHostless (g : Gateway) (r : Request) : Prop :=
  ¬ schemeMark <:+: g.callbackPath.toList ∧ ∀ host, r.host = some host → ∀ c ∈ host.toList, Text.isBlank c

theorem certified_iff (g : Gateway) (r : Request) (name : String) :
    g.certified? r = some name ↔ g.Certifies r name := by
  rw [certified?, Certifies]
  by_cases counts : g.clientCertificates = true
  · rw [if_pos counts, Option.filter_eq_some_iff, Option.bind_eq_some_iff]
    constructor
    · rintro ⟨⟨chains, given, leaf⟩, filled⟩
      obtain ⟨chain, first, head⟩ := Option.bind_eq_some_iff.mp leaf
      obtain ⟨others, rfl⟩ := List.head?_eq_some_iff.mp first
      obtain ⟨issuers, rfl⟩ := List.head?_eq_some_iff.mp head
      exact ⟨counts, of_decide_eq_true filled, issuers, others, given⟩
    · rintro ⟨_, filled, issuers, others, given⟩
      exact ⟨⟨_, given, rfl⟩, decide_eq_true filled⟩
  · rw [if_neg counts]
    simp [counts]

theorem certified_none_iff (g : Gateway) (r : Request) :
    g.certified? r = none ↔ ∀ name, ¬ g.Certifies r name := by
  simp only [Option.eq_none_iff_forall_ne_some, ← certified_iff, ne_eq]

theorem blank_trimmed_iff (text : String) : Text.trimmed text = "" ↔ ∀ c ∈ text.toList, Text.isBlank c := by
  rw [← Text.strip_eq_nil_iff, Text.trimmed, Text.trim]
  exact String.ofList_eq_empty_iff

theorem host_missing_iff (r : Request) :
    (r.host.map Text.trimmed).filter (· ≠ "") = none ↔
      ∀ host, r.host = some host → ∀ c ∈ host.toList, Text.isBlank c := by
  cases r.host with
  | none => simp
  | some host => simp [blank_trimmed_iff]

theorem redirect_uri_error_iff (g : Gateway) (r : Request) (e : Error) :
    g.redirectUri r = .error e ↔ e = .missingHost ∧ g.IsHostless r := by
  rw [redirectUri, IsHostless, ← Text.contains_iff_infix, ← host_missing_iff]
  by_cases absolute : Text.contains schemeMark g.callbackPath.toList = true
  · rw [if_pos absolute]
    simp [absolute]
  · rw [if_neg absolute]
    cases (r.host.map Text.trimmed).filter (· ≠ "") with
    | none =>
        constructor
        · rintro ⟨⟩
          exact ⟨rfl, absolute, rfl⟩
        · rintro ⟨rfl, _⟩
          rfl
    | some host => simp

-- A key that signs and an address of the provider that was read at the start leave nothing that can fail.
theorem to_provider_sent (g : Gateway) (keys : KeySet) (now : UInt64) (r : Request) (signs : Signs keys)
    (hosted : ¬ g.IsHostless r) :
    ∃ uri state, g.redirectUri r = .ok uri ∧ g.logins.issue keys now r.target = .ok state ∧
      g.toProvider keys now r = .redirect (g.provider.authorizationUrl state uri) none := by
  obtain ⟨key, signing⟩ := signs
  obtain ⟨state, issued⟩ : ∃ state, g.logins.issue keys now r.target = .ok state := Token.sign_given keys _ key signing
  cases reachable : g.redirectUri r with
  | error e => exact absurd ((redirect_uri_error_iff g r e).mp reachable).2 hosted
  | ok uri =>
      have located := (authorization_url_ok_iff g keys now r _).mpr ⟨uri, state, reachable, issued, rfl⟩
      exact ⟨uri, state, rfl, issued, (to_provider_redirect_iff g keys now r _ none).mpr ⟨located, rfl⟩⟩

end LoginGateway.Gateway
