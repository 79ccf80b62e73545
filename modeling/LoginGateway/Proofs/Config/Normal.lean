import LoginGateway.Config

/-!
The normal form of a configuration: what has to be given is there, and what may be left out is no blank. It differs from
what was given only in what was blank, and is its own normal form.
-/
set_option autoImplicit false

namespace LoginGateway.Config

theorem or_default_filled (text default : String) (given : Text.isBlankText default = false) :
    Text.isBlankText (orDefault text default) = false := by
  rw [orDefault]
  by_cases blank : Text.isBlankText text
  · rw [if_pos blank]
    exact given
  · rw [if_neg blank]
    exact eq_false_of_ne_true blank

theorem or_default_kept (text default : String) (filled : Text.isBlankText text = false) : orDefault text default = text :=
  if_neg (ne_true_of_eq_false filled)

theorem or_default_changed (text default : String) (changed : orDefault text default ≠ text) : Text.isBlankText text :=
  eq_true_of_ne_false fun filled => changed (or_default_kept text default filled)

theorem or_seconds_given (seconds default : UInt64) (given : default ≠ 0) : orSeconds seconds default ≠ 0 := by
  rw [orSeconds]
  by_cases none : seconds = 0
  · rw [if_pos none]
    exact given
  · rw [if_neg none]
    exact none

theorem or_seconds_kept (seconds default : UInt64) (given : seconds ≠ 0) : orSeconds seconds default = seconds :=
  if_neg given

theorem or_seconds_changed (seconds default : UInt64) (changed : orSeconds seconds default ≠ seconds) : seconds = 0 :=
  Decidable.of_not_not fun given => changed (or_seconds_kept seconds default given)

structure IsComplete (c : Config) : Prop where
  texts : ∀ field ∈ c.required, Text.isBlankText field.2 = false
  secret : ∃ first others, c.sharedSecrets = first :: others ∧ Text.isBlankText first = false

theorem missing_eq_none_iff (c : Config) : c.missing? = none ↔ ∀ field ∈ c.required, Text.isBlankText field.2 = false := by
  simp [missing?]

theorem has_secret_iff (c : Config) :
    c.hasSecret ↔ ∃ first others, c.sharedSecrets = first :: others ∧ Text.isBlankText first = false := by
  rw [hasSecret]
  cases c.sharedSecrets with
  | nil => simp
  | cons first others => simp

theorem normalize_ok_iff (c d : Config) : c.normalize = .ok d ↔ c.IsComplete ∧ d = c.filled := by
  constructor
  · intro done
    rw [normalize] at done
    cases missing : c.missing? with
    | some field => rw [missing] at done; cases done
    | none =>
        rw [missing] at done
        dsimp only at done
        by_cases signs : c.hasSecret
        · rw [if_pos signs] at done
          exact ⟨⟨(missing_eq_none_iff c).mp missing, (has_secret_iff c).mp signs⟩, (Except.ok.inj done).symm⟩
        · rw [if_neg signs] at done
          cases done
  · rintro ⟨complete, rfl⟩
    rw [normalize, (missing_eq_none_iff c).mpr complete.texts]
    exact if_pos ((has_secret_iff c).mpr complete.secret)

structure IsFilled (c : Config) : Prop where
  scopes : Text.isBlankText c.scopes = false
  callbackPath : Text.isBlankText c.callbackPath = false
  cookieName : Text.isBlankText c.cookieName = false
  providerTimeout : c.providerTimeout ≠ 0
  connectTimeout : c.connectTimeout ≠ 0

theorem filled_is_filled (c : Config) : c.filled.IsFilled where
  scopes := or_default_filled _ _ (by decide)
  callbackPath := or_default_filled _ _ (by decide)
  cookieName := or_default_filled _ _ (by decide)
  providerTimeout := or_seconds_given _ _ (by decide)
  connectTimeout := or_seconds_given _ _ (by decide)

theorem filled_eq_self (c : Config) (filled : c.IsFilled) : c.filled = c := by
  rw [Config.filled, or_default_kept _ _ filled.scopes, or_default_kept _ _ filled.callbackPath,
    or_default_kept _ _ filled.cookieName, or_seconds_kept _ _ filled.providerTimeout,
    or_seconds_kept _ _ filled.connectTimeout]

theorem filled_complete (c : Config) (complete : c.IsComplete) : c.filled.IsComplete := ⟨complete.texts, complete.secret⟩

theorem normalize_normal (c d : Config) (normal : c.normalize = .ok d) : d.normalize = .ok d := by
  obtain ⟨complete, rfl⟩ := (normalize_ok_iff c d).mp normal
  exact (normalize_ok_iff _ _).mpr ⟨filled_complete c complete, (filled_eq_self _ (filled_is_filled c)).symm⟩

structure DiffersInBlanks (c d : Config) : Prop where
  others : { d with
    scopes := c.scopes
    callbackPath := c.callbackPath
    providerTimeout := c.providerTimeout
    connectTimeout := c.connectTimeout
    cookieName := c.cookieName } = c
  scopes : d.scopes ≠ c.scopes → Text.isBlankText c.scopes
  callbackPath : d.callbackPath ≠ c.callbackPath → Text.isBlankText c.callbackPath
  cookieName : d.cookieName ≠ c.cookieName → Text.isBlankText c.cookieName
  providerTimeout : d.providerTimeout ≠ c.providerTimeout → c.providerTimeout = 0
  connectTimeout : d.connectTimeout ≠ c.connectTimeout → c.connectTimeout = 0

theorem filled_differs (c : Config) : DiffersInBlanks c c.filled where
  others := rfl
  scopes := or_default_changed _ _
  callbackPath := or_default_changed _ _
  cookieName := or_default_changed _ _
  providerTimeout := or_seconds_changed _ _
  connectTimeout := or_seconds_changed _ _

end LoginGateway.Config
