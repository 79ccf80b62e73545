import LoginGateway.Proofs.Config.SecretList
import LoginGateway.Proofs.Error
import LoginGateway.Proofs.Text.Decimal

/-!
What the texts of variables mean: a text stands for itself, a list of secrets for what is listed, a timeout for the number
that it spells, and a flag for one of two answers. A text that means nothing is refused.
-/
set_option autoImplicit false

namespace LoginGateway.Config

def IsSeconds (seconds : UInt64) (text : String) : Prop :=
  ∃ sign ∈ [[], ['+']], ∃ digits, Text.trim text.toList = sign ++ digits ∧ Text.Decimal.Spelled seconds.toNat digits

def flagWords : Bool → List String
  | true => ["1", "true", "yes", "on"]
  | false => ["0", "false", "no", "off"]

def IsFlag (answer : Bool) (text : String) : Prop := Text.trimmed text ∈ flagWords answer

theorem timeout_ok_iff (text : String) (seconds : UInt64) : timeout text = .ok seconds ↔ IsSeconds seconds text := by
  have spelled : IsSeconds seconds text ↔ Text.Decimal.readWord? (Text.trim text.toList) = some seconds := by
    simp [IsSeconds, Text.Decimal.read_word_iff]
  rw [spelled, timeout]
  cases Text.Decimal.readWord? (Text.trim text.toList) <;> simp

theorem flag_words_apart : ∀ word ∈ flagWords true, word ∉ flagWords false := by decide

theorem flag_ok_iff (text : String) (answer : Bool) : flag text = .ok answer ↔ IsFlag answer text := by
  have read : flag text =
      if Text.trimmed text ∈ flagWords true then .ok true
      else if Text.trimmed text ∈ flagWords false then .ok false
      else .error (.config (.certificates (Text.trimmed text))) := by
    simp only [← List.contains_iff_mem]
    rfl
  have apart := flag_words_apart (Text.trimmed text)
  rw [read, IsFlag]
  by_cases yes : Text.trimmed text ∈ flagWords true
  · cases answer <;> simp [yes, apart yes]
  · by_cases no : Text.trimmed text ∈ flagWords false
    · cases answer <;> simp [yes, no]
    · cases answer <;> simp [yes, no]

inductive Kind where
  | text
  | secrets
  | seconds
  | flag
deriving DecidableEq

inductive Means : Kind → String → Json → Prop where
  | text (s : String) : Means .text s (.str s)
  | secrets (s : String) (secrets : List String) (listed : Lists secrets s) (entries : ∀ secret ∈ secrets, IsEntry secret) :
      Means .secrets s (.array (secrets.map Json.str))
  | seconds (s : String) (seconds : UInt64) (spelled : IsSeconds seconds s) : Means .seconds s (.word seconds)
  | flag (s : String) (answer : Bool) (told : IsFlag answer s) : Means .flag s (.bool answer)

structure Variable where
  name : String
  field : String
  kind : Kind
deriving DecidableEq

def Variable.all : List Variable :=
  [⟨"AUTHN_APP_NAME", "app_name", .text⟩,
    ⟨"AUTHN_SHARED_SECRETS", "shared_secrets", .secrets⟩,
    ⟨"AUTHN_AUTH_URL", "auth_url", .text⟩,
    ⟨"AUTHN_TOKEN_URL", "token_url", .text⟩,
    ⟨"AUTHN_USERINFO_URL", "userinfo_url", .text⟩,
    ⟨"AUTHN_CLIENT_ID", "client_id", .text⟩,
    ⟨"AUTHN_CLIENT_SECRET", "client_secret", .text⟩,
    ⟨"AUTHN_SCOPES", "scopes", .text⟩,
    ⟨"AUTHN_CALLBACK_PATH", "callback_path", .text⟩,
    ⟨"AUTHN_PROVIDER_TIMEOUT_SECS", "provider_timeout_secs", .seconds⟩,
    ⟨"AUTHN_CLIENT_CERTIFICATES", "client_certificates", .flag⟩,
    ⟨"AUTHN_COOKIE_NAME", "cookie_name", .text⟩]

theorem fields_apart : ∀ v ∈ Variable.all, ∀ w ∈ Variable.all, v.field = w.field → v = w := by decide

-- An object with a member for each variable that is set, and with no others.
structure Mirrors (env : Environment) (members : List (String × Json)) : Prop where
  distinct : (members.map Prod.fst).Nodup
  told : ∀ field value, (field, value) ∈ members ↔
    ∃ v ∈ Variable.all, v.field = field ∧ ∃ text, env v.name = some text ∧ Means v.kind text value

theorem Mirrors.perm {env : Environment} {members others : List (String × Json)} (mirrors : Mirrors env members)
    (same : others.Perm members) : Mirrors env others where
  distinct := ((same.map Prod.fst).nodup_iff).mpr mirrors.distinct
  told field value := same.mem_iff.trans (mirrors.told field value)

def value? : Kind → String → Option Json
  | .text, s => some (.str s)
  | .secrets, s => some (.array ((secretList s).map Json.str))
  | .seconds, s => (timeout s).toOption.map Json.word
  | .flag, s => (flag s).toOption.map Json.bool

theorem value_iff (kind : Kind) (text : String) (value : Json) : value? kind text = some value ↔ Means kind text value := by
  cases kind with
  | text =>
      constructor
      · rintro ⟨⟩
        exact .text text
      · rintro ⟨⟩
        rfl
  | secrets =>
      constructor
      · rintro ⟨⟩
        obtain ⟨listed, entries⟩ := (secret_list_iff text _).mp rfl
        exact .secrets text _ listed entries
      · rintro ⟨⟩
        rename_i secrets entries listed
        rw [value?, (secret_list_iff text secrets).mpr ⟨listed, entries⟩]
  | seconds =>
      simp only [value?, Option.map_eq_some_iff, to_option_eq_some_iff, timeout_ok_iff]
      constructor
      · rintro ⟨seconds, spelled, rfl⟩
        exact .seconds text seconds spelled
      · rintro ⟨⟩
        rename_i seconds spelled
        exact ⟨seconds, spelled, rfl⟩
  | flag =>
      simp only [value?, Option.map_eq_some_iff, to_option_eq_some_iff, flag_ok_iff]
      constructor
      · rintro ⟨answer, told, rfl⟩
        exact .flag text answer told
      · rintro ⟨⟩
        rename_i answer told
        exact ⟨answer, told, rfl⟩

def Variable.member? (env : Environment) (v : Variable) : Option (String × Json) :=
  ((env v.name).bind (value? v.kind)).map fun value => (v.field, value)

def membersOf (env : Environment) : List (String × Json) := Variable.all.filterMap (Variable.member? env)

theorem members_among_fields (env : Environment) (vs : List Variable) :
    ((vs.filterMap (Variable.member? env)).map Prod.fst).Sublist (vs.map Variable.field) := by
  induction vs with
  | nil => exact List.Sublist.refl []
  | cons v vs ih =>
      cases given : v.member? env with
      | none =>
          rw [List.filterMap_cons_none given]
          exact ih.cons v.field
      | some member =>
          obtain ⟨value, _, rfl⟩ := Option.map_eq_some_iff.mp given
          rw [List.filterMap_cons_some given]
          exact ih.cons_cons v.field

theorem members_of_mirrors (env : Environment) : Mirrors env (membersOf env) where
  distinct := (members_among_fields env Variable.all).nodup (by decide)
  told field value := by
    simp only [membersOf, List.mem_filterMap, Variable.member?, Option.map_eq_some_iff, Option.bind_eq_some_iff, value_iff,
      Prod.mk.injEq]
    constructor
    · rintro ⟨v, known, value, ⟨text, set, means⟩, rfl, rfl⟩
      exact ⟨v, known, rfl, text, set, means⟩
    · rintro ⟨v, known, rfl, text, set, means⟩
      exact ⟨v, known, value, ⟨text, set, means⟩, rfl, rfl⟩

def sampleEnvironment : Environment := fun name =>
  [("AUTHN_APP_NAME", "app"), ("AUTHN_SHARED_SECRETS", " new, ,hex:00 ,"), ("AUTHN_AUTH_URL", "http://i/a"),
    ("AUTHN_TOKEN_URL", "http://i/t"), ("AUTHN_USERINFO_URL", "http://i/u"), ("AUTHN_CLIENT_ID", "c"),
    ("AUTHN_CLIENT_SECRET", "s"), ("AUTHN_SCOPES", "\t"), ("AUTHN_PROVIDER_TIMEOUT_SECS", " +00 "),
    ("AUTHN_CLIENT_CERTIFICATES", "off\n"), ("AUTHN_COOKIE_NAME", "")].lookup name

end LoginGateway.Config
