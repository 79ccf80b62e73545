import LoginGateway.Proofs.Config.Normal
import LoginGateway.Proofs.Config.Variables
import LoginGateway.Proofs.Secret.KeySet

/-!
Secrets that are listed in a variable give the keys that they would give one by one: the first of them signs, and all of them
verify in their order.
-/
set_option autoImplicit false

namespace LoginGateway.Config

def requiredVariables : List String :=
  ["AUTHN_APP_NAME", "AUTHN_AUTH_URL", "AUTHN_TOKEN_URL", "AUTHN_USERINFO_URL", "AUTHN_CLIENT_ID", "AUTHN_CLIENT_SECRET"]

theorem given_ok {α : Type} (value : Option String) (read : String → Except Error α) (default : α)
    (formed : ∀ text, value = some text → ∃ a, read text = .ok a) : ∃ a, given value read default = .ok a := by
  cases value with
  | none => exact ⟨default, rfl⟩
  | some text => exact formed text rfl

theorem of_variables_parts (env : Environment) (c : Config) (read : ofVariables env = .ok c) :
    c.sharedSecrets = ((env "AUTHN_SHARED_SECRETS").map secretList).getD [] ∧
      c.required.map Prod.snd = requiredVariables.map fun name => (env name).getD "" := by
  obtain ⟨_, _, read⟩ := bind_ok _ _ _ read
  obtain ⟨_, _, same⟩ := bind_ok _ _ _ read
  cases same
  exact ⟨rfl, rfl⟩

section

variable (env : Environment)
variable (timed : ∀ text, env "AUTHN_PROVIDER_TIMEOUT_SECS" = some text → ∃ seconds, IsSeconds seconds text)
variable (told : ∀ text, env "AUTHN_CLIENT_CERTIFICATES" = some text → ∃ answer, IsFlag answer text)
include timed told

theorem of_variables_ok : ∃ c, ofVariables env = .ok c := by
  obtain ⟨seconds, secondsRead⟩ := given_ok (env "AUTHN_PROVIDER_TIMEOUT_SECS") timeout defaults.providerTimeout
    fun text set => (timed text set).imp fun n => (timeout_ok_iff text n).mpr
  obtain ⟨answer, answerRead⟩ := given_ok (env "AUTHN_CLIENT_CERTIFICATES") flag defaults.clientCertificates
    fun text set => (told text set).imp fun b => (flag_ok_iff text b).mpr
  cases read : ofVariables env with
  | ok c => exact ⟨c, rfl⟩
  | error e =>
      rw [ofVariables, secondsRead, answerRead] at read
      cases read

theorem of_environment_listed (text first : String) (others : List String)
    (required : ∀ name ∈ requiredVariables, ∃ value, env name = some value ∧ Text.isBlankText value = false)
    (set : env "AUTHN_SHARED_SECRETS" = some text) (listed : secretList text = first :: others)
    (filled : Text.isBlankText first = false) : ∃ d, ofEnvironment env = .ok d ∧ d.sharedSecrets = first :: others := by
  obtain ⟨c, read⟩ := of_variables_ok env timed told
  obtain ⟨secrets, texts⟩ := of_variables_parts env c read
  rw [set, Option.map_some, Option.getD_some, listed] at secrets
  have complete : c.IsComplete := by
    refine ⟨?_, first, others, secrets, filled⟩
    intro field among
    have value : field.2 ∈ c.required.map Prod.snd := List.mem_map_of_mem among
    rw [texts] at value
    obtain ⟨name, known, same⟩ := List.mem_map.mp value
    obtain ⟨given, said, nonblank⟩ := required name known
    rw [← same, said]
    exact nonblank
  refine ⟨c.filled, ?_, secrets⟩
  rw [ofEnvironment, read]
  exact (normalize_ok_iff c c.filled).mpr ⟨complete, rfl⟩

end

theorem of_secrets_trimmed (secrets : List String) :
    KeySet.ofSecrets (secrets.map Text.trimmed) = KeySet.ofSecrets secrets := by
  have same : Secret.decode ∘ Text.trimmed = Secret.decode := funext Secret.decode_trimmed
  rw [KeySet.ofSecrets, KeySet.ofSecrets, List.mapM_map, same]

theorem listed_secrets_kept (env : Environment) (secrets : List String) (nonempty : secrets ≠ [])
    (whole : ∀ s ∈ secrets, ',' ∉ s.toList) (spelled : ∀ s ∈ secrets, ∃ key, Secret.decode s = .ok key)
    (listed : ∃ text, env "AUTHN_SHARED_SECRETS" = some text ∧ Lists secrets text)
    (required : ∀ name ∈ requiredVariables, ∃ value, env name = some value ∧ Text.isBlankText value = false)
    (timed : ∀ text, env "AUTHN_PROVIDER_TIMEOUT_SECS" = some text → ∃ seconds, IsSeconds seconds text)
    (told : ∀ text, env "AUTHN_CLIENT_CERTIFICATES" = some text → ∃ answer, IsFlag answer text) :
    ∃ d keys, ofEnvironment env = .ok d ∧ KeySet.ofSecrets d.sharedSecrets = .ok keys ∧
      KeySet.ofSecrets secrets = .ok keys ∧ keys.signingKey = Secret.decode (secrets.head nonempty) ∧
      secrets.mapM Secret.decode = .ok keys.verificationKeys := by
  obtain ⟨text, set, listed⟩ := listed
  obtain ⟨first, others, rfl⟩ := List.exists_cons_of_ne_nil nonempty
  have filled : ∀ s ∈ first :: others, Text.isBlankText s = false := by
    intro s member
    obtain ⟨key, decoded⟩ := spelled s member
    exact Secret.decode_filled s key decoded
  have found := secret_list_listed (first :: others) text listed whole filled
  have entries := ((secret_list_iff text _).mp found).2
  obtain ⟨d, read, secrets⟩ := of_environment_listed env timed told text (Text.trimmed first) (others.map Text.trimmed)
    required set found (entries _ List.mem_cons_self).filled
  obtain ⟨keys, decoded, signs, verify⟩ := KeySet.of_secrets_given first others spelled
  refine ⟨d, keys, read, ?_, decoded, signs, verify⟩
  rw [secrets, ← List.map_cons, of_secrets_trimmed]
  exact decoded

-- A secret with a blank of its own in front, an entry of blanks, and a comma at the end.
theorem listed_secrets_kept_among_blanks :
    Lists [" new", "hex:00"] " new, ,hex:00 ," ∧ sampleEnvironment "AUTHN_SHARED_SECRETS" = some " new, ,hex:00 ," ∧
      ∃ d keys, ofEnvironment sampleEnvironment = .ok d ∧ KeySet.ofSecrets d.sharedSecrets = .ok keys ∧
        KeySet.ofSecrets [" new", "hex:00"] = .ok keys ∧ keys.signingKey = .ok [0x6E, 0x65, 0x77] ∧
        keys.verificationKeys = [[0x6E, 0x65, 0x77], [0]] := by
  have listed : Lists [" new", "hex:00"] " new, ,hex:00 ," := by
    refine ⟨[[' ', 'n', 'e', 'w'], [' '], ['h', 'e', 'x', ':', '0', '0', ' '], []], by decide, ?_⟩
    have last : Entries ["hex:00"] [['h', 'e', 'x', ':', '0', '0', ' '], []] :=
      .secret [] [' '] "hex:00" (by decide) (by decide) (.blank [] (by decide) .nil)
    exact .secret [] [] " new" (by decide) (by decide) (.blank [' '] (by decide) last)
  have set : sampleEnvironment "AUTHN_SHARED_SECRETS" = some " new, ,hex:00 ," := by rfl
  have spelled : ∀ s ∈ [" new", "hex:00"], ∃ key, Secret.decode s = .ok key := by
    simp only [List.forall_mem_cons]
    exact ⟨⟨[0x6E, 0x65, 0x77], by rfl⟩, ⟨[0], by rfl⟩, by simp⟩
  have required : ∀ name ∈ requiredVariables,
      ∃ value, sampleEnvironment name = some value ∧ Text.isBlankText value = false := by
    simp only [requiredVariables, List.forall_mem_cons]
    exact ⟨⟨"app", by rfl, by decide⟩, ⟨"http://i/a", by rfl, by decide⟩, ⟨"http://i/t", by rfl, by decide⟩,
      ⟨"http://i/u", by rfl, by decide⟩, ⟨"c", by rfl, by decide⟩, ⟨"s", by rfl, by decide⟩, by simp⟩
  have timed : ∀ text, sampleEnvironment "AUTHN_PROVIDER_TIMEOUT_SECS" = some text →
      ∃ seconds, IsSeconds seconds text := by
    intro text said
    cases said
    exact ⟨0, (timeout_ok_iff _ 0).mp (by rfl)⟩
  have told : ∀ text, sampleEnvironment "AUTHN_CLIENT_CERTIFICATES" = some text → ∃ answer, IsFlag answer text := by
    intro text said
    cases said
    exact ⟨false, (flag_ok_iff _ false).mp (by rfl)⟩
  obtain ⟨d, keys, read, kept, decoded, signs, verify⟩ := listed_secrets_kept sampleEnvironment [" new", "hex:00"] (by simp)
    (by decide) spelled ⟨_, set, listed⟩ required timed told
  exact ⟨listed, set, d, keys, read, kept, decoded, signs, (Except.ok.inj verify).symm⟩

end LoginGateway.Config
