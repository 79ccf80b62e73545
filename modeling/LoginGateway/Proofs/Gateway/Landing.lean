import LoginGateway.Proofs.ReturnUrl
import LoginGateway.Proofs.Gateway.Login

/-!
Where a callback lets a user land. The place comes from a state, which anyone who holds a key may have
signed over any text; it is given up if it is not on the site, and followed as it is if it is.
-/
set_option autoImplicit false

namespace LoginGateway.Gateway

theorem callback_lands_on_site (g : Gateway) (keys : KeySet) (now : UInt64) (r : Request) (script : Script)
    (location : String) (cookie : Option String)
    (redirected : (g.callback keys now r script).answer = .redirect location cookie) :
    ReturnUrl.OnSite location ∧ ∃ returnUrl, g.logins.validate keys now (r.parameter "state") = .ok returnUrl ∧
      (location = returnUrl ↔ ReturnUrl.OnSite returnUrl) := by
  obtain ⟨a, _, _, arrived, _, _, rfl, _⟩ := (callback_redirect_iff g keys now r script location cookie).mp redirected
  obtain ⟨_, _, _, valid, _⟩ := (arrival_ok_iff g keys now r a).mp arrived
  exact ⟨ReturnUrl.restrict_on_site a.returnUrl.toList, a.returnUrl, valid, ReturnUrl.restricted_eq_self_iff a.returnUrl⟩

-- A browser would drop the tab and read the place as an address of another host.
theorem callback_lands_on_site_after_hostile_state :
    ∃ state cookie, sample.logins.validate ⟨[[107]]⟩ 399 state = .ok "/\t/evil.test" ∧
      (sample.callback ⟨[[107]]⟩ 399 (sampleReturn state) sampleReplies).answer = .redirect "/" (some cookie) ∧
      ReturnUrl.OnSite "/" := by
  obtain ⟨state, _, valid⟩ := sample_state "/\t/evil.test"
  obtain ⟨called, landed⟩ := login_ends sample sample_plain ⟨[[107]]⟩ ⟨[107], rfl⟩ 399 (sampleReturn state) sampleReplies
    "c" state _ _ (by decide) rfl rfl ⟨"h", rfl, by decide⟩ valid _ _ sample_identifies (by decide)
  obtain ⟨session, _, answered⟩ := landed (called (by decide) (by decide) ⟨[], rfl⟩)
  rw [handled_callback _ _ _ _ _ (returns_to_callback sample sample_plain _ "c" state rfl)] at answered
  have place : ReturnUrl.restricted "/\t/evil.test" = "/" := by rfl
  rw [place] at answered
  have redirected := Outcome.respond.inj answered
  exact ⟨state, session.header, valid, redirected, (callback_lands_on_site _ _ _ _ _ _ _ redirected).1⟩

end LoginGateway.Gateway
