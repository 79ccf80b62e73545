import LoginGateway.Proofs.Gateway.Login
import LoginGateway.Proofs.Provider.Traffic
import LoginGateway.Proofs.Token.Meaning

/-!
What a callback makes the gateway ask the provider: nothing for a user who does not arrive with a code and a state
of a login here, and for any other one or two posts, none of them twice.
-/
set_option autoImplicit false

namespace LoginGateway

theorem Logins.validate_blank (l : Logins) (set : KeySet) (now : UInt64) (returnUrl : String) :
    l.validate set now "" ≠ .ok returnUrl := by
  intro valid
  obtain ⟨claims, verified, _⟩ := (validate_ok_iff l set now "" returnUrl).mp valid
  obtain ⟨⟨p, found, _⟩, _⟩ := (Token.verify_ok_iff set "" claims).mp verified
  cases found

namespace Gateway

structure Arrives (g : Gateway) (keys : KeySet) (now : UInt64) (r : Request) (a : Arrival) : Prop where
  method : r.method = "GET"
  code : Request.parameter? r.target "code" = some a.code
  filled : a.code ≠ ""
  state : ∃ state, Request.parameter? r.target "state" = some state ∧ g.logins.validate keys now state = .ok a.returnUrl
  redirect : g.redirectUri r = .ok a.redirectUri

theorem arrival_arrives_iff (g : Gateway) (keys : KeySet) (now : UInt64) (r : Request) (a : Arrival) :
    g.arrival keys now r = .ok a ↔ g.Arrives keys now r a := by
  rw [arrival_ok_iff, Request.parameter, Request.parameter]
  constructor
  · rintro ⟨method, filled, code, valid, redirect⟩
    cases given : Request.parameter? r.target "code" with
    | none => exact absurd (congrArg (fun found => Option.getD found "") given) filled
    | some text =>
        cases brought : Request.parameter? r.target "state" with
        | none =>
            rw [brought] at valid
            exact absurd valid (g.logins.validate_blank keys now a.returnUrl)
        | some state =>
            rw [given] at filled code
            rw [brought] at valid
            exact ⟨method, by rw [given, code]; rfl, code ▸ filled, ⟨state, brought, valid⟩, redirect⟩
  · rintro ⟨method, code, filled, ⟨state, brought, valid⟩, redirect⟩
    rw [code, brought]
    exact ⟨method, filled, rfl, valid, redirect⟩

def asked (g : Gateway) (keys : KeySet) (now : UInt64) (r : Request) (script : Script) : List Post :=
  match g.arrival keys now r with
  | .ok a => g.provider.asked a.code a.redirectUri script
  | .error _ => []

theorem asked_arrived (g : Gateway) (keys : KeySet) (now : UInt64) (r : Request) (script : Script) (a : Arrival)
    (arrives : g.Arrives keys now r a) :
    g.asked keys now r script = g.provider.asked a.code a.redirectUri script := by
  rw [asked, (g.arrival_arrives_iff keys now r a).mpr arrives]

theorem callback_posts (g : Gateway) (keys : KeySet) (now : UInt64) (r : Request) (script : Script) :
    (g.callback keys now r script).attempts.map Attempt.post =
      (g.asked keys now r script).filter (fun post => post.address.isCallable) := by
  rw [callback, asked]
  cases g.arrival keys now r with
  | ok a => exact g.provider.identify_posts a.code a.redirectUri script
  | error response => rfl

theorem sample_arrives : ∃ state uri, sample.Arrives ⟨[[107]]⟩ 399 (sampleReturn state) ⟨"c", "/", uri⟩ := by
  obtain ⟨state, _, valid⟩ := sample_state "/"
  obtain ⟨uri, arrived⟩ := callback_arrives sample sample_plain ⟨[[107]]⟩ 399 (sampleReturn state) "c" state "/"
    (by decide) rfl rfl ⟨"h", rfl, by decide⟩ valid
  exact ⟨state, uri, (arrival_arrives_iff _ _ _ _ _).mp arrived⟩

end Gateway

end LoginGateway
