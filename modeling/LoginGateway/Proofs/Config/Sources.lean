import LoginGateway.Gateway
import LoginGateway.Proofs.Config.Normal
import LoginGateway.Proofs.Config.Variables
import LoginGateway.Proofs.Json.Members

/-!
The two sources of a configuration give the same: what the variables say is read of the object that says it in JSON, in any
order of its members. What is made of either is the normal form, and a gateway is built of that alone.
-/
set_option autoImplicit false

namespace LoginGateway.Config

open Json

section

variable {env : Environment} {members : List (String × Json)} (mirrors : Mirrors env members)
include mirrors

theorem mirrored_missing (field : String) (unset : ∀ v ∈ Variable.all, v.field = field → env v.name = none) :
    member? (ofPairs members) field = none := by
  cases found : member? (ofPairs members) field with
  | none => rfl
  | some value =>
      have member := (member_of_pairs_iff members mirrors.distinct field value).mp found
      obtain ⟨v, known, named, text, set, _⟩ := (mirrors.told field value).mp member
      rw [unset v known named] at set
      cases set

theorem mirrored_read {α : Type} (v : Variable) (known : v ∈ Variable.all) (decode : Json → Option α) (default : α)
    (read : String → Except Error α)
    (agrees : ∀ text a, read text = .ok a → ∃ value, Means v.kind text value ∧ decode value = some a) (a : α)
    (said : given (env v.name) read default = .ok a) :
    (member? (ofPairs members)).read? v.field decode default = some a := by
  rw [Fields.read?]
  cases set : env v.name with
  | none =>
      rw [set] at said
      have unset : ∀ w ∈ Variable.all, w.field = v.field → env w.name = none := fun w other same =>
        fields_apart w other v known same ▸ set
      rw [mirrored_missing mirrors v.field unset]
      exact congrArg some (Except.ok.inj said)
  | some text =>
      rw [set] at said
      obtain ⟨value, means, decoded⟩ := agrees text a said
      have member := (mirrors.told v.field value).mpr ⟨v, known, rfl, text, set, means⟩
      rw [(member_of_pairs_iff members mirrors.distinct v.field value).mpr member]
      exact decoded

theorem mirrored_text (name field default : String) (known : ⟨name, field, .text⟩ ∈ Variable.all) :
    (member? (ofPairs members)).read? field Json.text? default = some ((env name).getD default) := by
  apply mirrored_read mirrors ⟨name, field, .text⟩ known Json.text? default .ok
  · intro text s same
    exact ⟨.str text, .text text, congrArg some (Except.ok.inj same)⟩
  · cases env name <;> rfl

theorem mirrored_secrets :
    (member? (ofPairs members)).read? "shared_secrets" (Json.list? Json.text?) defaults.sharedSecrets =
      some (((env "AUTHN_SHARED_SECRETS").map secretList).getD defaults.sharedSecrets) := by
  apply mirrored_read mirrors ⟨"AUTHN_SHARED_SECRETS", "shared_secrets", .secrets⟩ (by decide) _ _
    fun text => .ok (secretList text)
  · intro text secrets same
    obtain ⟨listed, entries⟩ := (secret_list_iff text secrets).mp (Except.ok.inj same)
    exact ⟨_, .secrets text secrets listed entries, list_texts secrets⟩
  · cases env "AUTHN_SHARED_SECRETS" <;> rfl

theorem mirrored_timeout (seconds : UInt64)
    (said : given (env "AUTHN_PROVIDER_TIMEOUT_SECS") timeout defaults.providerTimeout = .ok seconds) :
    (member? (ofPairs members)).read? "provider_timeout_secs" Json.word? defaults.providerTimeout = some seconds := by
  refine mirrored_read mirrors ⟨"AUTHN_PROVIDER_TIMEOUT_SECS", "provider_timeout_secs", .seconds⟩
    (by decide) _ _ timeout ?_ seconds said
  intro text n read
  exact ⟨.word n, .seconds text n ((timeout_ok_iff text n).mp read), word_of_word n⟩

theorem mirrored_flag (answer : Bool)
    (said : given (env "AUTHN_CLIENT_CERTIFICATES") flag defaults.clientCertificates = .ok answer) :
    (member? (ofPairs members)).read? "client_certificates" Json.bool? defaults.clientCertificates = some answer := by
  refine mirrored_read mirrors ⟨"AUTHN_CLIENT_CERTIFICATES", "client_certificates", .flag⟩
    (by decide) _ _ flag ?_ answer said
  intro text b read
  exact ⟨.bool b, .flag text b ((flag_ok_iff text b).mp read), rfl⟩

-- No variable speaks of this one.
theorem mirrored_connect_timeout :
    (member? (ofPairs members)).read? "connect_timeout_secs" Json.word? defaults.connectTimeout =
      some defaults.connectTimeout := by
  have unknown : ∀ v ∈ Variable.all, v.field ≠ "connect_timeout_secs" := by decide
  rw [Fields.read?, mirrored_missing mirrors _ fun v known same => absurd same (unknown v known)]

theorem of_json_mirrored (c : Config) (read : ofVariables env = .ok c) : ofJson (.fields members) = .ok c := by
  obtain ⟨seconds, timeoutSaid, read⟩ := bind_ok _ _ _ read
  obtain ⟨answer, flagSaid, same⟩ := bind_ok _ _ _ read
  cases same
  have text := mirrored_text mirrors
  have secrets := mirrored_secrets mirrors
  have providerTimeout := mirrored_timeout mirrors seconds timeoutSaid
  have connectTimeout := mirrored_connect_timeout mirrors
  have clientCertificates := mirrored_flag mirrors answer flagSaid
  rw [ofJson, ofJson?, fields_of_pairs fieldNames members mirrors.distinct, Option.bind_some]
  simp only [ofFields?, secrets, providerTimeout, connectTimeout, clientCertificates,
    text "AUTHN_APP_NAME" "app_name" _ (by decide), text "AUTHN_AUTH_URL" "auth_url" _ (by decide),
    text "AUTHN_TOKEN_URL" "token_url" _ (by decide), text "AUTHN_USERINFO_URL" "userinfo_url" _ (by decide),
    text "AUTHN_CLIENT_ID" "client_id" _ (by decide), text "AUTHN_CLIENT_SECRET" "client_secret" _ (by decide),
    text "AUTHN_SCOPES" "scopes" _ (by decide), text "AUTHN_CALLBACK_PATH" "callback_path" _ (by decide),
    text "AUTHN_COOKIE_NAME" "cookie_name" _ (by decide), Option.bind_eq_bind, Option.bind_some, Option.pure_def]

theorem mirrored_plain : isPlain (.fields members) := by
  apply plain_fields
  intro member among
  obtain ⟨v, _, _, text, _, means⟩ := (mirrors.told member.1 member.2).mp among
  generalize v.kind = kind, member.2 = value at means
  cases means with
  | text s => rfl
  | secrets s secrets _ _ => exact plain_texts secrets
  | seconds s seconds _ => exact plain_word seconds
  | flag s answer _ => trivial

end

theorem of_config_normal (c d : Config) (normal : c.normalize = .ok d) : Gateway.ofConfig d = Gateway.ofConfig c := by
  rw [Gateway.ofConfig, Gateway.ofConfig, normal, normalize_normal c d normal]

theorem sources_agree_on_normal_form :
    (∀ env d, ofEnvironment env = .ok d →
      (∃ members, Mirrors env members) ∧
      ∀ members, Mirrors env members →
        Json.read? (Text.utf8 (Json.fields members).compact) = some (.fields members) ∧
        (ofJson (.fields members) >>= normalize) = .ok d) ∧
    ∀ c d, c.normalize = .ok d →
      d.normalize = .ok d ∧ DiffersInBlanks c d ∧ Gateway.ofConfig d = Gateway.ofConfig c := by
  constructor
  · intro env d read
    obtain ⟨c, said, normal⟩ := bind_ok _ _ _ read
    refine ⟨⟨membersOf env, members_of_mirrors env⟩, ?_⟩
    intro members mirrors
    refine ⟨read_compact _ (mirrored_plain mirrors), ?_⟩
    rw [of_json_mirrored mirrors c said]
    exact normal
  · intro c d normal
    refine ⟨normalize_normal c d normal, ?_, of_config_normal c d normal⟩
    rw [((normalize_ok_iff c d).mp normal).2]
    exact filled_differs c

def sampleMembers : List (String × Json) :=
  [("cookie_name", .str ""), ("client_certificates", .bool false), ("provider_timeout_secs", .word 0), ("scopes", .str "\t"),
    ("client_secret", .str "s"), ("client_id", .str "c"), ("userinfo_url", .str "http://i/u"),
    ("token_url", .str "http://i/t"), ("auth_url", .str "http://i/a"),
    ("shared_secrets", .array [.str "new", .str "hex:00"]), ("app_name", .str "app")]

def sampleNormal : Config :=
  { appName := "app", sharedSecrets := ["new", "hex:00"], authUrl := "http://i/a", tokenUrl := "http://i/t",
    userinfoUrl := "http://i/u", clientId := "c", clientSecret := "s", clientCertificates := false }

def sampleBlank : Config := { sampleNormal with scopes := "\t", providerTimeout := 0, cookieName := "" }

theorem sources_agree_on_normal_form_of_blanks :
    ofEnvironment sampleEnvironment = .ok sampleNormal ∧ Mirrors sampleEnvironment sampleMembers ∧
      (ofJson (.fields sampleMembers) >>= normalize) = .ok sampleNormal ∧
      sampleBlank.normalize = .ok sampleNormal ∧ sampleNormal.normalize = .ok sampleNormal := by
  have read : ofEnvironment sampleEnvironment = .ok sampleNormal := by rfl
  have listed : membersOf sampleEnvironment = sampleMembers.reverse := by rfl
  have mirrors : Mirrors sampleEnvironment sampleMembers :=
    (members_of_mirrors sampleEnvironment).perm (listed ▸ (List.reverse_perm sampleMembers).symm)
  have normal : sampleBlank.normalize = .ok sampleNormal := by rfl
  exact ⟨read, mirrors, ((sources_agree_on_normal_form.1 _ _ read).2 sampleMembers mirrors).2, normal,
    (sources_agree_on_normal_form.2 _ _ normal).1⟩

end LoginGateway.Config
