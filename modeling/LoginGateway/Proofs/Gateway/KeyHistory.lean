import Mathlib.Data.List.Induction
import LoginGateway.Proofs.Gateway.Provenance
import LoginGateway.Proofs.Token.Authenticity

/-!
Which keys are in use after a run: those of the last rotation, or those that were configured, and in front of
them the keys that were prepended since, the newest first. A change that fails is no change.
-/
set_option autoImplicit false

namespace LoginGateway.Gateway

def Moment.added? (g : Gateway) (m : Moment) : Option Bytes :=
  match m.event, m.answer g with
  | .prepend secret, .changed (.ok ()) => (Secret.decode secret).toOption
  | _, _ => none

def Moment.replaced? (g : Gateway) (m : Moment) : Option KeySet :=
  match m.event, m.answer g with
  | .rotate set, .changed (.ok ()) => some set
  | _, _ => none

-- The moments after the last rotation that succeeded, the newest first.
def sinceRotation (g : Gateway) (moments : List Moment) : List Moment :=
  moments.reverse.takeWhile fun m => (m.replaced? g).isNone

def lastRotation? (g : Gateway) (moments : List Moment) : Option KeySet :=
  moments.reverse.findSome? (Moment.replaced? g)

def keysAfter (g : Gateway) (configured : List Bytes) (moments : List Moment) : List Bytes :=
  (g.sinceRotation moments).filterMap (Moment.added? g) ++
    (g.lastRotation? moments).elim configured KeySet.keys

structure ChangesKeys (g : Gateway) (keys : KeySet) : Prop where
  added : ∀ now secret key, Secret.decode secret = .ok key →
    g.step keys now (.prepend secret) = (keys.prepend key, .changed (.ok ()))
  undecoded : ∀ now secret e, Secret.decode secret = .error e →
    g.step keys now (.prepend secret) = (keys, .changed (.error e))
  replaced : ∀ now (set : KeySet) key others, set.keys = key :: others → key ≠ [] →
    g.step keys now (.rotate set) = (set, .changed (.ok ()))
  unusable : ∀ now (set : KeySet), (∀ key others, set.keys = key :: others → key = []) →
    g.step keys now (.rotate set) = (keys, .changed (.error .noSigningKey))
  others : ∀ now event, (∀ secret, event ≠ .prepend secret) → (∀ set, event ≠ .rotate set) →
    (g.step keys now event).1 = keys
  verified : ∀ now secret token claims, Token.verify keys token = .ok claims →
    Token.verify (g.step keys now (.prepend secret)).1 token = .ok claims

theorem changes_keys (g : Gateway) (keys : KeySet) : ChangesKeys g keys where
  added := prepended g keys
  undecoded := prepend_refused g keys
  replaced now set key others first usable :=
    rotated g keys now set ⟨key, (KeySet.signing_key_iff set key).mpr ⟨usable, others, first⟩⟩
  unusable now set empty := by
    apply rotation_refused
    rintro ⟨key, signing⟩
    obtain ⟨usable, others, first⟩ := (KeySet.signing_key_iff set key).mp signing
    exact usable (empty key others first)
  others now event adds replaces := by
    rcases step_keys g keys now event with same | ⟨secret, _, adding, _⟩ | ⟨set, _, replacing, _⟩
    · exact same
    · exact absurd adding (adds secret)
    · exact absurd replacing (replaces set)
  verified now secret token claims verified := by
    rw [Token.verify_ok_iff_authentic] at verified ⊢
    apply Token.authentic_more keys _ _ token claims verified
    intro key kept _
    exact step_keeps g keys now (.prepend secret) (fun _ same => by cases same) key kept

theorem moment_next (g : Gateway) (m : Moment) :
    (g.step m.keys m.now m.event).1 = (m.replaced? g).getD ⟨(m.added? g).toList ++ m.keys.keys⟩ := by
  obtain ⟨keys, now, event⟩ := m
  cases event with
  | prepend secret =>
      cases decoded : Secret.decode secret with
      | ok key => simp [Moment.replaced?, Moment.added?, Moment.answer, prepended g keys now secret key decoded,
          decoded, Except.toOption, KeySet.prepend]
      | error e => simp [Moment.replaced?, Moment.added?, Moment.answer, prepend_refused g keys now secret e decoded]
  | rotate set =>
      by_cases signs : Signs set
      · simp [Moment.replaced?, Moment.answer, rotated g keys now set signs]
      · simp [Moment.replaced?, Moment.added?, Moment.answer, rotation_refused g keys now set signs]
  | _ => rfl

theorem keys_after_snoc (g : Gateway) (configured : List Bytes) (moments : List Moment) (m : Moment) :
    g.keysAfter configured (moments ++ [m]) =
      ((m.replaced? g).map KeySet.keys).getD ((m.added? g).toList ++ g.keysAfter configured moments) := by
  cases replaced : m.replaced? g with
  | some set => simp [keysAfter, sinceRotation, lastRotation?, replaced]
  | none => cases added : m.added? g <;> simp [keysAfter, sinceRotation, lastRotation?, replaced, added]

theorem run_keys_after (g : Gateway) (start : KeySet) (steps : List Step) :
    (g.run start steps).1.keys = g.keysAfter start.keys (g.history start steps) := by
  induction steps using List.reverseRecOn with
  | nil => rfl
  | append_singleton front s ih =>
      let m : Moment := ⟨(g.run start front).1, s.now, s.event⟩
      have met : g.history start (front ++ [s]) = g.history start front ++ [m] := history_append g start front [s]
      have made : (g.run start (front ++ [s])).1 = (g.step m.keys m.now m.event).1 := run_append g start front [s]
      rw [met, made, keys_after_snoc, moment_next, ← ih]
      cases m.replaced? g <;> rfl

theorem keys_follow_changes (config : Config) (g : Gateway) (start : KeySet) (built : ofConfig config = .ok (g, start))
    (steps : List Step) :
    (∃ configured, config.sharedSecrets.mapM Secret.decode = .ok configured ∧
      (g.run start steps).1.keys = g.keysAfter configured (g.history start steps)) ∧
    ChangesKeys g (g.run start steps).1 := by
  obtain ⟨decoded, _⟩ := of_secrets_ok _ _ (of_config_parts config g start built).secrets
  exact ⟨⟨start.keys, decoded, run_keys_after g start steps⟩, changes_keys g _⟩

theorem keys_follow_changes_past_failures :
    ∃ steps : List Step,
      steps.map Step.event = [.prepend "a", .prepend " ", .rotate ⟨[[9], []]⟩, .rotate ⟨[[], [1]]⟩, .prepend "b",
        .issueSession "ann", .prepend "hex:0", .prepend "hex:00"] ∧
      sample.keysAfter [[107]] (sample.history ⟨[[107]]⟩ steps) = [[0], [98], [9], []] ∧
      (sample.run ⟨[[107]]⟩ steps).1.keys = [[0], [98], [9], []] := by
  let steps : List Step := [⟨1, .prepend "a"⟩, ⟨2, .prepend " "⟩, ⟨3, .rotate ⟨[[9], []]⟩⟩, ⟨4, .rotate ⟨[[], [1]]⟩⟩,
    ⟨5, .prepend "b"⟩, ⟨6, .issueSession "ann"⟩, ⟨7, .prepend "hex:0"⟩, ⟨8, .prepend "hex:00"⟩]
  obtain ⟨⟨configured, decoded, listed⟩, _⟩ := keys_follow_changes sampleConfig sample _ sample_built steps
  cases decoded
  have after : sample.keysAfter [[107]] (sample.history ⟨[[107]]⟩ steps) = [[0], [98], [9], []] := by rfl
  exact ⟨steps, rfl, after, listed.trans after⟩

end LoginGateway.Gateway
