import LoginGateway.Run
import LoginGateway.Proofs.Config.Normal
import LoginGateway.Proofs.Error
import LoginGateway.Proofs.Secret.KeySet

/-!
What the two changes of the keys make of them, and when they are made.
-/
set_option autoImplicit false

namespace LoginGateway

namespace Gateway

theorem rotate_ok_iff (set next : KeySet) :
    rotate set = .ok next ↔ next = set ∧ ∃ key, set.signingKey = .ok key := by
  rw [rotate]
  cases set.signingKey with
  | error e => simp [Except.map]
  | ok key => simp [Except.map, eq_comm]

-- A decoded key is never empty, so a set that it stands in front of can always sign.
theorem prepend_ok_iff (keys next : KeySet) (secret : String) :
    prepend keys secret = .ok next ↔ ∃ key, Secret.decode secret = .ok key ∧ next = keys.prepend key := by
  rw [prepend]
  cases decoded : Secret.decode secret with
  | error e => simp [bind, Except.bind]
  | ok key =>
      have usable := Secret.decode_nonempty secret key decoded
      have signs : (keys.prepend key).signingKey = .ok key :=
        (KeySet.signing_key_iff _ _).mpr ⟨usable, keys.keys, rfl⟩
      change rotate (keys.prepend key) = .ok next ↔ _
      rw [rotate_ok_iff]
      simp [signs]

def sampleConfig : Config :=
  { appName := "app", sharedSecrets := ["k"], authUrl := "http://i/a", tokenUrl := "http://i/t",
    userinfoUrl := "http://i/u", clientId := "c", clientSecret := "s" }

def sampleUrl (name : Char) : Url :=
  ⟨"http".toList, some ⟨[], [], .name ['i'], none⟩, .segments [[name]], none, none⟩

def sample : Gateway where
  sessions := ⟨"app", "auth_cookie"⟩
  logins := ⟨"app"⟩
  provider := ⟨sampleUrl 'a', sampleUrl 't', sampleUrl 'u', "c", "s", "openid"⟩
  callbackPath := "/auth/oauth2/callback"
  clientCertificates := true

theorem sample_built : ofConfig sampleConfig = .ok (sample, ⟨[[107]]⟩) := by rfl

def Signs (keys : KeySet) : Prop := ∃ key, keys.signingKey = .ok key

theorem prepended (g : Gateway) (keys : KeySet) (now : UInt64) (secret : String) (key : Bytes)
    (decoded : Secret.decode secret = .ok key) :
    g.step keys now (.prepend secret) = (keys.prepend key, .changed (.ok ())) := by
  have changed := (prepend_ok_iff keys (keys.prepend key) secret).mpr ⟨key, decoded, rfl⟩
  rw [step, changed]
  rfl

theorem prepend_refused (g : Gateway) (keys : KeySet) (now : UInt64) (secret : String) (e : Error)
    (undecoded : Secret.decode secret = .error e) :
    g.step keys now (.prepend secret) = (keys, .changed (.error e)) := by
  rw [step, prepend, undecoded]
  rfl

theorem rotated (g : Gateway) (keys : KeySet) (now : UInt64) (set : KeySet) (signs : Signs set) :
    g.step keys now (.rotate set) = (set, .changed (.ok ())) := by
  have changed := (rotate_ok_iff set set).mpr ⟨rfl, signs⟩
  rw [step, changed]
  rfl

theorem rotation_refused (g : Gateway) (keys : KeySet) (now : UInt64) (set : KeySet) (mute : ¬ Signs set) :
    g.step keys now (.rotate set) = (keys, .changed (.error .noSigningKey)) := by
  have missing := set.signing_key_missing fun key signing => mute ⟨key, signing⟩
  rw [step, rotate, missing]
  rfl

theorem step_keys (g : Gateway) (keys : KeySet) (now : UInt64) (event : Event) :
    (g.step keys now event).1 = keys ∨
      (∃ secret key, event = .prepend secret ∧ Secret.decode secret = .ok key ∧
        (g.step keys now event).1 = keys.prepend key) ∨
      ∃ set key, event = .rotate set ∧ set.signingKey = .ok key ∧ (g.step keys now event).1 = set := by
  cases event with
  | prepend secret =>
      cases decoded : Secret.decode secret with
      | error e => exact .inl (by rw [prepend_refused g keys now secret e decoded])
      | ok key => exact .inr (.inl ⟨secret, key, rfl, decoded, by rw [prepended g keys now secret key decoded]⟩)
  | rotate set =>
      by_cases signs : Signs set
      · obtain ⟨key, signing⟩ := signs
        exact .inr (.inr ⟨set, key, rfl, signing, by rw [rotated g keys now set ⟨key, signing⟩]⟩)
      · exact .inl (by rw [rotation_refused g keys now set signs])
  | _ => exact .inl rfl

theorem run_append (g : Gateway) (keys : KeySet) (front back : List Step) :
    (g.run keys (front ++ back)).1 = (g.run (g.run keys front).1 back).1 := by
  induction front generalizing keys with
  | nil => rfl
  | cons s rest ih => exact ih (g.step keys s.now s.event).1

theorem step_signs (g : Gateway) (keys : KeySet) (now : UInt64) (event : Event) (signs : Signs keys) :
    Signs (g.step keys now event).1 := by
  rcases step_keys g keys now event with same | ⟨secret, key, _, decoded, made⟩ | ⟨set, key, _, first, made⟩
  · rw [same]
    exact signs
  · rw [made]
    exact ⟨key, (KeySet.signing_key_iff _ _).mpr ⟨Secret.decode_nonempty secret key decoded, keys.keys, rfl⟩⟩
  · rw [made]
    exact ⟨key, first⟩

theorem run_signs (g : Gateway) (keys : KeySet) (steps : List Step) (signs : Signs keys) :
    Signs (g.run keys steps).1 := by
  induction steps generalizing keys with
  | nil => exact signs
  | cons s rest ih => exact ih _ (step_signs g keys s.now s.event signs)

structure BuiltFrom (config : Config) (g : Gateway) (start : KeySet) : Prop where
  secrets : KeySet.ofSecrets config.sharedSecrets = .ok start
  addresses : Provider.ofConfig config.filled = .ok g.provider
  sessions : g.sessions = ⟨config.appName, config.filled.cookieName⟩
  logins : g.logins = ⟨config.appName⟩
  callbackPath : g.callbackPath = config.filled.callbackPath
  clientCertificates : g.clientCertificates = config.clientCertificates

theorem of_config_parts (config : Config) (g : Gateway) (start : KeySet) (built : ofConfig config = .ok (g, start)) :
    BuiltFrom config g start := by
  obtain ⟨c, normal, built⟩ := bind_ok _ _ _ built
  obtain ⟨keys, secrets, built⟩ := bind_ok _ _ _ built
  obtain ⟨provider, addresses, built⟩ := bind_ok _ _ _ built
  obtain ⟨_, rfl⟩ := (config.normalize_ok_iff c).mp normal
  cases built
  exact ⟨secrets, addresses, rfl, rfl, rfl, rfl⟩

theorem of_secrets_ok (secrets : List String) (set : KeySet) (decoded : KeySet.ofSecrets secrets = .ok set) :
    secrets.mapM Secret.decode = .ok set.keys ∧ Signs set := by
  obtain ⟨keys, spelled, decoded⟩ := bind_ok _ _ _ decoded
  obtain ⟨key, signs, made⟩ := bind_ok _ _ _ decoded
  cases made
  exact ⟨spelled, key, signs⟩

theorem of_config_signs (config : Config) (g : Gateway) (start : KeySet) (built : ofConfig config = .ok (g, start)) :
    Signs start :=
  (of_secrets_ok _ _ (of_config_parts config g start built).secrets).2

theorem reached_signs (config : Config) (g : Gateway) (start : KeySet) (built : ofConfig config = .ok (g, start))
    (steps : List Step) (keys : KeySet) (reached : keys = (g.run start steps).1) : Signs keys := by
  rw [reached]
  exact run_signs g start steps (of_config_signs config g start built)

structure ProviderFrom (config : Config) (p : Provider) : Prop where
  authorization : Url.ofString config.authUrl = .ok p.authorization
  tokens : Url.ofString config.tokenUrl = .ok p.tokens
  userinfo : Url.ofString config.userinfoUrl = .ok p.userinfo
  clientId : p.clientId = config.clientId
  clientSecret : p.clientSecret = config.clientSecret
  scopes : p.scopes = config.filled.scopes

theorem of_config_provider (config : Config) (g : Gateway) (start : KeySet) (built : ofConfig config = .ok (g, start)) :
    ProviderFrom config g.provider := by
  have addresses := (of_config_parts config g start built).addresses
  obtain ⟨authorization, read, addresses⟩ := bind_ok _ _ _ addresses
  obtain ⟨tokens, readToo, addresses⟩ := bind_ok _ _ _ addresses
  obtain ⟨userinfo, readLast, addresses⟩ := bind_ok _ _ _ addresses
  rw [← Except.ok.inj addresses]
  exact ⟨map_error_ok _ _ _ read, map_error_ok _ _ _ readToo, map_error_ok _ _ _ readLast, rfl, rfl, rfl⟩

theorem of_config_reads (config : Config) (g : Gateway) (start : KeySet) (built : ofConfig config = .ok (g, start)) :
    Url.ofString config.authUrl = .ok g.provider.authorization := (of_config_provider config g start built).authorization

-- Only a rotation takes a key away.
def NoRotation (steps : List Step) : Prop := ∀ s ∈ steps, ∀ set, s.event ≠ .rotate set

theorem step_keeps (g : Gateway) (keys : KeySet) (now : UInt64) (event : Event) (growing : ∀ set, event ≠ .rotate set) :
    ∀ key ∈ keys.keys, key ∈ (g.step keys now event).1.keys := by
  intro key kept
  rcases step_keys g keys now event with same | ⟨secret, fresh, _, _, made⟩ | ⟨set, _, rotates, _, _⟩
  · rw [same]
    exact kept
  · rw [made]
    exact List.mem_cons_of_mem fresh kept
  · exact absurd rotates (growing set)

theorem run_keeps (g : Gateway) (keys : KeySet) (steps : List Step) (growing : NoRotation steps) :
    ∀ key ∈ keys.keys, key ∈ (g.run keys steps).1.keys := by
  induction steps generalizing keys with
  | nil => exact fun _ kept => kept
  | cons s rest ih =>
      intro key kept
      have first := step_keeps g keys s.now s.event (growing s List.mem_cons_self) key kept
      exact ih _ (fun other member => growing other (List.mem_cons_of_mem s member)) key first

end Gateway

end LoginGateway
