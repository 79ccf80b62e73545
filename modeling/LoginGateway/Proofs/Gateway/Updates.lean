import LoginGateway.Proofs.Gateway.Keys

/-!
Changes of the keys by several administrators at once. The keys are read and replaced atomically, but
putting a secret in front takes both steps, and another change may come between them. Runs in which
none does are the runs that one change after another could have made.
-/
set_option autoImplicit false

namespace LoginGateway.Gateway

inductive Update where
  | prepend (secret : String)
  | rotate (set : KeySet)
deriving DecidableEq

def Update.apply (keys : KeySet) : Update → Except Error KeySet
  | .prepend secret => Gateway.prepend keys secret
  | .rotate set => Gateway.rotate set

def Update.brings (key : Bytes) : Update → Prop
  | .prepend secret => Secret.decode secret = .ok key
  | .rotate set => key ∈ set.keys

def Update.drops (key : Bytes) : Update → Prop
  | .prepend _ => False
  | .rotate set => key ∉ set.keys

def oneByOne : KeySet → List Update → Except Error KeySet
  | keys, [] => .ok keys
  | keys, update :: rest =>
      match update.apply keys with
      | .ok next => oneByOne next rest
      | .error e => .error e

theorem one_by_one_cons (keys last : KeySet) (update : Update) (rest : List Update)
    (done : oneByOne keys (update :: rest) = .ok last) :
    ∃ next, update.apply keys = .ok next ∧ oneByOne next rest = .ok last := by
  rw [oneByOne] at done
  cases applied : update.apply keys with
  | error e => rw [applied] at done; cases done
  | ok next => rw [applied] at done; exact ⟨next, rfl, done⟩

theorem one_by_one_single (keys : KeySet) (update : Update) : oneByOne keys [update] = update.apply keys := by
  rw [oneByOne]
  cases update.apply keys <;> rfl

theorem apply_brings (keys next : KeySet) (update : Update) (applied : update.apply keys = .ok next)
    (key : Bytes) (here : key ∈ next.keys) : key ∈ keys.keys ∨ update.brings key := by
  cases update with
  | prepend secret =>
      obtain ⟨fresh, decoded, rfl⟩ := (prepend_ok_iff _ _ _).mp applied
      rcases List.mem_cons.mp here with rfl | old
      · exact .inr decoded
      · exact .inl old
  | rotate set =>
      obtain ⟨rfl, _⟩ := (rotate_ok_iff _ _).mp applied
      exact .inr here

theorem apply_keeps (keys next : KeySet) (update : Update) (applied : update.apply keys = .ok next)
    (key : Bytes) (here : key ∈ keys.keys) : key ∈ next.keys ∨ update.drops key := by
  cases update with
  | prepend secret =>
      obtain ⟨fresh, _, rfl⟩ := (prepend_ok_iff _ _ _).mp applied
      exact .inl (List.mem_cons_of_mem fresh here)
  | rotate set =>
      obtain ⟨rfl, _⟩ := (rotate_ok_iff _ _).mp applied
      exact Decidable.em (key ∈ next.keys)

theorem one_by_one_brings (keys last : KeySet) (updates : List Update)
    (done : oneByOne keys updates = .ok last) (key : Bytes) (here : key ∈ last.keys) :
    key ∈ keys.keys ∨ ∃ update ∈ updates, update.brings key := by
  induction updates generalizing keys with
  | nil => cases done; exact .inl here
  | cons update rest ih =>
      obtain ⟨next, applied, done⟩ := one_by_one_cons keys last update rest done
      rcases ih next done with first | ⟨later, member, brought⟩
      · rcases apply_brings keys next update applied key first with old | brought
        · exact .inl old
        · exact .inr ⟨update, List.mem_cons_self, brought⟩
      · exact .inr ⟨later, List.mem_cons_of_mem update member, brought⟩

theorem one_by_one_keeps (keys last : KeySet) (updates : List Update)
    (done : oneByOne keys updates = .ok last) (key : Bytes) (here : key ∈ keys.keys) :
    key ∈ last.keys ∨ ∃ update ∈ updates, update.drops key := by
  induction updates generalizing keys with
  | nil => cases done; exact .inl here
  | cons update rest ih =>
      obtain ⟨next, applied, done⟩ := one_by_one_cons keys last update rest done
      rcases apply_keeps keys next update applied key here with kept | dropped
      · rcases ih next done kept with last | ⟨later, member, dropped⟩
        · exact .inl last
        · exact .inr ⟨later, List.mem_cons_of_mem update member, dropped⟩
      · exact .inr ⟨update, List.mem_cons_self, dropped⟩

theorem one_by_one_size (keys last : KeySet) (updates : List Update)
    (done : oneByOne keys updates = .ok last) (growing : ∀ set, .rotate set ∉ updates) :
    last.size = keys.size + updates.length := by
  induction updates generalizing keys with
  | nil => cases done; rfl
  | cons update rest ih =>
      obtain ⟨next, applied, done⟩ := one_by_one_cons keys last update rest done
      have later := ih next done fun set member => growing set (List.mem_cons_of_mem update member)
      cases update with
      | prepend secret =>
          obtain ⟨key, _, rfl⟩ := (prepend_ok_iff _ _ _).mp applied
          rw [later]
          simp only [KeySet.size, KeySet.prepend, List.length_cons]
          omega
      | rotate set => exact absurd List.mem_cons_self (growing set)

inductive Action where
  | read (id : Nat)
  | publish (id : Nat) (secret : String)
  | rotate (set : KeySet)
deriving DecidableEq

-- The keys, and the set that each secret still on its way has been read against.
structure Shared where
  keys : KeySet
  seen : List (Nat × KeySet)
deriving DecidableEq

namespace Shared

def act (s : Shared) : Action → Option Shared
  | .read id => if (s.seen.lookup id).isSome then none else some ⟨s.keys, (id, s.keys) :: s.seen⟩
  | .publish id secret => do
      let snapshot ← s.seen.lookup id
      let next ← (prepend snapshot secret).toOption
      return ⟨next, s.seen.filter (·.1 ≠ id)⟩
  | .rotate set => (rotate set).toOption.map fun next => ⟨next, s.seen⟩

def run : Shared → List Action → Option Shared
  | s, [] => some s
  | s, action :: rest => (s.act action).bind fun next => run next rest

end Shared

def Action.update? : Action → Option Update
  | .read _ => none
  | .publish _ secret => some (.prepend secret)
  | .rotate set => some (.rotate set)

def updates (actions : List Action) : List Update := actions.filterMap Action.update?

theorem updates_cons (action : Action) (rest : List Action) :
    updates (action :: rest) = updates [action] ++ updates rest := by
  cases action <;> rfl

theorem one_by_one_append (keys : KeySet) (front back : List Update) :
    oneByOne keys (front ++ back) = (oneByOne keys front).bind fun next => oneByOne next back := by
  induction front generalizing keys with
  | nil => rfl
  | cons update rest ih =>
      rw [List.cons_append, oneByOne, oneByOne]
      cases update.apply keys with
      | error e => rfl
      | ok next => exact ih next

namespace Shared

theorem act_publish (s next : Shared) (id : Nat) (secret : String) (acted : s.act (.publish id secret) = some next) :
    ∃ snapshot, s.seen.lookup id = some snapshot ∧ prepend snapshot secret = .ok next.keys ∧
      next.seen = s.seen.filter (·.1 ≠ id) := by
  obtain ⟨snapshot, found, acted⟩ := Option.bind_eq_some_iff.mp acted
  obtain ⟨keys, published, made⟩ := Option.bind_eq_some_iff.mp acted
  cases made
  exact ⟨snapshot, found, (to_option_eq_some_iff _ _).mp published, rfl⟩

theorem act_rotate (s next : Shared) (set : KeySet) (acted : s.act (.rotate set) = some next) :
    Gateway.rotate set = .ok next.keys ∧ next.seen = s.seen := by
  obtain ⟨keys, published, made⟩ := Option.map_eq_some_iff.mp acted
  cases made
  exact ⟨(to_option_eq_some_iff _ _).mp published, rfl⟩

theorem act_read (s next : Shared) (id : Nat) (acted : s.act (.read id) = some next) :
    next = ⟨s.keys, (id, s.keys) :: s.seen⟩ := by
  rw [act] at acted
  by_cases begun : (s.seen.lookup id).isSome
  · rw [if_pos begun] at acted
    cases acted
  · rw [if_neg begun] at acted
    exact (Option.some.inj acted).symm

-- With nothing in between, the two steps are the change that a single caller makes.
theorem run_read_publish (s : Shared) (id : Nat) (secret : String) (free : s.seen.lookup id = none) :
    (s.run [.read id, .publish id secret]).map Shared.keys = (prepend s.keys secret).toOption := by
  have begun : s.act (.read id) = some ⟨s.keys, (id, s.keys) :: s.seen⟩ := by rw [act, free]; rfl
  rw [run, begun, Option.bind_some, run, act, List.lookup_cons_self, Option.bind_eq_bind, Option.bind_some]
  cases prepend s.keys secret <;> rfl

theorem run_cons (s last : Shared) (action : Action) (rest : List Action) (ran : s.run (action :: rest) = some last) :
    ∃ next, s.act action = some next ∧ next.run rest = some last :=
  Option.bind_eq_some_iff.mp ran

theorem run_append (s last : Shared) (front back : List Action) (ran : s.run (front ++ back) = some last) :
    ∃ middle, s.run front = some middle ∧ middle.run back = some last := by
  induction front generalizing s with
  | nil => exact ⟨s, rfl, ran⟩
  | cons action rest ih =>
      obtain ⟨next, acted, ran⟩ := run_cons s last action (rest ++ back) ran
      obtain ⟨middle, first, second⟩ := ih next ran
      exact ⟨middle, by rw [run, acted]; exact first, second⟩

def Fresh (s : Shared) : Action → Prop
  | .publish id _ => s.seen.lookup id = some s.keys
  | _ => True

def Undisturbed : Shared → List Action → Prop
  | _, [] => True
  | s, action :: rest => s.Fresh action ∧ ∀ next, s.act action = some next → Undisturbed next rest

theorem fresh_iff (s next : Shared) (action : Action) (acted : s.act action = some next) :
    s.Fresh action ↔ oneByOne s.keys (updates [action]) = .ok next.keys := by
  cases action with
  | read id =>
      rw [act_read s next id acted]
      exact ⟨fun _ => rfl, fun _ => trivial⟩
  | rotate set =>
      obtain ⟨published, _⟩ := act_rotate s next set acted
      refine ⟨fun _ => ?_, fun _ => trivial⟩
      exact (one_by_one_single s.keys (.rotate set)).trans published
  | publish id secret =>
      obtain ⟨snapshot, found, published, _⟩ := act_publish s next id secret acted
      obtain ⟨key, decoded, made⟩ := (prepend_ok_iff _ _ _).mp published
      have single : oneByOne s.keys (updates [.publish id secret]) = prepend s.keys secret :=
        one_by_one_single s.keys (.prepend secret)
      rw [Fresh, found, single, prepend_ok_iff]
      constructor
      · intro same
        exact ⟨key, decoded, by rw [made, Option.some.inj same]⟩
      · rintro ⟨again, decodedAgain, madeAgain⟩
        have keys : snapshot.keys = s.keys.keys := by
          rw [made] at madeAgain
          exact (List.cons.inj (KeySet.mk.inj madeAgain)).2
        exact congrArg some (congrArg KeySet.mk keys)

theorem undisturbed_append (s middle : Shared) (front back : List Action) (ran : s.run front = some middle)
    (undisturbed : s.Undisturbed (front ++ back)) : middle.Undisturbed back := by
  induction front generalizing s with
  | nil => cases ran; exact undisturbed
  | cons action rest ih =>
      obtain ⟨next, acted, ran⟩ := run_cons s middle action rest ran
      exact ih next ran (undisturbed.2 next acted)

theorem undisturbed_one_by_one (s last : Shared) (actions : List Action) (ran : s.run actions = some last)
    (undisturbed : s.Undisturbed actions) : oneByOne s.keys (updates actions) = .ok last.keys := by
  induction actions generalizing s with
  | nil => cases ran; rfl
  | cons action rest ih =>
      obtain ⟨next, acted, ran⟩ := run_cons s last action rest ran
      have first := (fresh_iff s next action acted).mp undisturbed.1
      rw [updates_cons, one_by_one_append, first]
      exact ih next ran (undisturbed.2 next acted)

theorem undisturbed_after (s last : Shared) (before : List Action) (action : Action) (after : List Action)
    (ran : s.run (before ++ action :: after) = some last) (undisturbed : s.Undisturbed (before ++ action :: after)) :
    ∃ middle next : Shared, middle.act action = some next ∧ oneByOne next.keys (updates after) = .ok last.keys := by
  obtain ⟨middle, reached, ran⟩ := run_append s last before (action :: after) ran
  obtain ⟨next, acted, ran⟩ := run_cons middle last action after ran
  have rest := undisturbed_append s middle before (action :: after) reached undisturbed
  exact ⟨middle, next, acted, undisturbed_one_by_one next last after ran (rest.2 next acted)⟩

theorem undisturbed_front (s : Shared) (front back : List Action) (undisturbed : s.Undisturbed (front ++ back)) :
    s.Undisturbed front := by
  induction front generalizing s with
  | nil => trivial
  | cons action rest ih => exact ⟨undisturbed.1, fun next acted => ih next (undisturbed.2 next acted)⟩

def InOrder (start : Shared) (actions : List Action) : Prop :=
  ∀ before after s, actions = before ++ after → start.run before = some s →
    oneByOne start.keys (updates before) = .ok s.keys

theorem undisturbed_of_in_order (s last : Shared) (actions : List Action) (ran : s.run actions = some last)
    (ordered : s.InOrder actions) : s.Undisturbed actions := by
  induction actions generalizing s with
  | nil => trivial
  | cons action rest ih =>
      obtain ⟨next, acted, ran⟩ := run_cons s last action rest ran
      have first : oneByOne s.keys (updates [action]) = .ok next.keys :=
        ordered [action] rest next rfl (by rw [run, acted]; rfl)
      refine ⟨(fresh_iff s next action acted).mpr first, ?_⟩
      intro other actedAgain
      cases acted.symm.trans actedAgain
      apply ih next ran
      intro before after t split reached
      have whole := ordered (action :: before) after t (by rw [split]; rfl) (by rw [run, acted]; exact reached)
      rw [updates_cons, one_by_one_append, first] at whole
      exact whole

theorem in_order_iff (s last : Shared) (actions : List Action) (ran : s.run actions = some last) :
    s.InOrder actions ↔ s.Undisturbed actions := by
  constructor
  · exact undisturbed_of_in_order s last actions ran
  · intro undisturbed before after t split reached
    subst split
    exact undisturbed_one_by_one s t before reached (undisturbed_front s before after undisturbed)

-- Every change so far has added a key, and what is read but no longer in use is smaller.
structure Full (bound : Nat) (s : Shared) : Prop where
  keys : s.keys.size = bound
  seen : ∀ entry ∈ s.seen, entry.2 = s.keys ∨ entry.2.size < bound

-- Some change has been lost, and nothing on its way can bring it back.
structure Short (bound : Nat) (s : Shared) : Prop where
  keys : s.keys.size < bound
  seen : ∀ entry ∈ s.seen, entry.2.size < bound

theorem mem_of_lookup (seen : List (Nat × KeySet)) (id : Nat) (snapshot : KeySet)
    (found : seen.lookup id = some snapshot) : (id, snapshot) ∈ seen := by
  obtain ⟨front, back, split, _⟩ := List.lookup_eq_some_iff.mp found
  rw [split]
  exact List.mem_append_right front List.mem_cons_self

theorem short_act (bound : Nat) (s next : Shared) (action : Action) (short : Short bound s)
    (acted : s.act action = some next) (growing : ∀ set, action ≠ .rotate set) :
    Short (bound + (updates [action]).length) next := by
  cases action with
  | rotate set => exact absurd rfl (growing set)
  | read id =>
      rw [act_read s next id acted]
      refine ⟨short.keys, fun entry among => ?_⟩
      rcases List.mem_cons.mp among with rfl | old
      · exact short.keys
      · exact short.seen entry old
  | publish id secret =>
      obtain ⟨snapshot, found, published, left⟩ := act_publish s next id secret acted
      obtain ⟨key, _, made⟩ := (prepend_ok_iff _ _ _).mp published
      have smaller := short.seen _ (mem_of_lookup s.seen id snapshot found)
      constructor
      · rw [made]
        exact Nat.succ_lt_succ smaller
      · intro entry among
        rw [left] at among
        exact Nat.lt_succ_of_lt (short.seen entry (List.mem_filter.mp among).1)

theorem full_act (bound : Nat) (s next : Shared) (action : Action) (full : Full bound s)
    (acted : s.act action = some next) (growing : ∀ set, action ≠ .rotate set) :
    (s.Fresh action → Full (bound + (updates [action]).length) next) ∧
      (¬ s.Fresh action → Short (bound + (updates [action]).length) next) := by
  cases action with
  | rotate set => exact absurd rfl (growing set)
  | read id =>
      rw [act_read s next id acted]
      refine ⟨fun _ => ⟨full.keys, fun entry among => ?_⟩, fun stale => absurd trivial stale⟩
      rcases List.mem_cons.mp among with rfl | old
      · exact .inl rfl
      · exact full.seen entry old
  | publish id secret =>
      obtain ⟨snapshot, found, published, left⟩ := act_publish s next id secret acted
      obtain ⟨key, _, made⟩ := (prepend_ok_iff _ _ _).mp published
      have grown : next.keys.size = snapshot.size + 1 := by rw [made]; rfl
      have bounded (entry : Nat × KeySet) (among : entry ∈ s.seen) : entry.2.size ≤ bound := by
        rcases full.seen entry among with same | smaller
        · exact Nat.le_of_eq ((congrArg KeySet.size same).trans full.keys)
        · exact Nat.le_of_lt smaller
      have others (entry : Nat × KeySet) (among : entry ∈ next.seen) : entry.2.size < bound + 1 := by
        rw [left] at among
        exact Nat.lt_succ_of_le (bounded entry (List.mem_filter.mp among).1)
      constructor
      · intro fresh
        rw [Fresh, found] at fresh
        cases fresh
        exact ⟨by rw [grown, full.keys]; rfl, fun entry among => .inr (others entry among)⟩
      · intro stale
        refine ⟨?_, others⟩
        rcases full.seen _ (mem_of_lookup s.seen id snapshot found) with same | smaller
        · exact absurd (found.trans (congrArg some same)) stale
        · rw [grown]
          exact Nat.succ_lt_succ smaller

theorem short_run (bound : Nat) (s last : Shared) (actions : List Action) (short : Short bound s)
    (ran : s.run actions = some last) (growing : ∀ set, .rotate set ∉ actions) :
    Short (bound + (updates actions).length) last := by
  induction actions generalizing s bound with
  | nil => cases ran; exact short
  | cons action rest ih =>
      obtain ⟨next, acted, ran⟩ := run_cons s last action rest ran
      have first := short_act bound s next action short acted
        fun set same => growing set (same ▸ List.mem_cons_self)
      rw [updates_cons, List.length_append, ← Nat.add_assoc]
      exact ih _ next first ran fun set member => growing set (List.mem_cons_of_mem action member)

theorem full_run (bound : Nat) (s last : Shared) (actions : List Action) (full : Full bound s)
    (ran : s.run actions = some last) (growing : ∀ set, .rotate set ∉ actions)
    (disturbed : ¬ s.Undisturbed actions) : Short (bound + (updates actions).length) last := by
  induction actions generalizing s bound with
  | nil => exact absurd trivial disturbed
  | cons action rest ih =>
      obtain ⟨next, acted, ran⟩ := run_cons s last action rest ran
      have effect := full_act bound s next action full acted
        fun set same => growing set (same ▸ List.mem_cons_self)
      have later : ∀ set, .rotate set ∉ rest := fun set member => growing set (List.mem_cons_of_mem action member)
      rw [updates_cons, List.length_append, ← Nat.add_assoc]
      by_cases fresh : s.Fresh action
      · apply ih _ next (effect.1 fresh) ran later
        intro undisturbed
        refine disturbed ⟨fresh, fun other actedAgain => ?_⟩
        cases acted.symm.trans actedAgain
        exact undisturbed
      · exact short_run _ next last rest (effect.2 fresh) ran later

theorem undisturbed_of_some_order (start last : Shared) (actions : List Action) (idle : start.seen = [])
    (ran : start.run actions = some last) (growing : ∀ set, .rotate set ∉ actions) (order : List Update)
    (same : order.Perm (updates actions)) (done : oneByOne start.keys order = .ok last.keys) :
    start.Undisturbed actions := by
  by_cases undisturbed : start.Undisturbed actions
  · exact undisturbed
  · have full : Full start.keys.size start := ⟨rfl, by simp [idle]⟩
    have short := full_run _ start last actions full ran growing undisturbed
    have noRotation : ∀ set, .rotate set ∉ order := by
      intro set member
      obtain ⟨action, among, made⟩ := List.mem_filterMap.mp (same.mem_iff.mp member)
      cases action with
      | read id => cases made
      | publish id secret => cases made
      | rotate other => exact growing other among
    have exact := one_by_one_size start.keys last.keys order done noRotation
    have few := short.keys
    rw [exact, same.length_eq] at few
    exact absurd few (Nat.lt_irrefl _)

end Shared

theorem rotate_of_drops (actions : List Action) (update : Update) (member : update ∈ updates actions) (key : Bytes)
    (dropped : update.drops key) : ∃ set, .rotate set ∈ actions ∧ key ∉ set.keys := by
  obtain ⟨action, among, made⟩ := List.mem_filterMap.mp member
  cases action with
  | read id => cases made
  | publish id secret => cases made; exact dropped.elim
  | rotate set => cases made; exact ⟨set, among, dropped⟩

-- Where nothing comes between the two steps of a change, the order of publication is an order in which
-- the changes could have been made one after another, and no other runs have one at every moment.
theorem updates_linearizable_iff (start : KeySet) (actions : List Action) (last : Shared)
    (ran : Shared.run ⟨start, []⟩ actions = some last) :
    (Shared.InOrder ⟨start, []⟩ actions ↔ Shared.Undisturbed ⟨start, []⟩ actions) ∧
      (Shared.Undisturbed ⟨start, []⟩ actions →
        oneByOne start (updates actions) = .ok last.keys ∧
          (∀ before id secret after key, actions = before ++ .publish id secret :: after →
            Secret.decode secret = .ok key → key ∈ last.keys.keys ∨ ∃ set, .rotate set ∈ after ∧ key ∉ set.keys) ∧
          (∀ before set after key, actions = before ++ .rotate set :: after → key ∉ set.keys →
            key ∈ last.keys.keys → ∃ update ∈ updates after, update.brings key)) ∧
      ((∀ set, .rotate set ∉ actions) →
        ((∃ order, order.Perm (updates actions) ∧ oneByOne start order = .ok last.keys) ↔
          Shared.Undisturbed ⟨start, []⟩ actions)) := by
  refine ⟨Shared.in_order_iff _ last actions ran, ?_, ?_⟩
  · intro undisturbed
    have ordered := Shared.undisturbed_one_by_one _ last actions ran undisturbed
    refine ⟨ordered, ?_, ?_⟩
    · intro before id secret after key split decoded
      subst split
      obtain ⟨middle, next, acted, done⟩ := Shared.undisturbed_after _ last before _ after ran undisturbed
      obtain ⟨snapshot, _, published, _⟩ := Shared.act_publish middle next id secret acted
      obtain ⟨fresh, decodedAgain, made⟩ := (prepend_ok_iff _ _ _).mp published
      cases decoded.symm.trans decodedAgain
      have here : key ∈ next.keys.keys := by
        rw [made]
        exact List.mem_cons_self
      rcases one_by_one_keeps next.keys last.keys (updates after) done key here with kept | ⟨update, member, dropped⟩
      · exact .inl kept
      · exact .inr (rotate_of_drops after update member key dropped)
    · intro before set after key split absent here
      subst split
      obtain ⟨middle, next, acted, done⟩ := Shared.undisturbed_after _ last before _ after ran undisturbed
      obtain ⟨made, _⟩ := (rotate_ok_iff _ _).mp (Shared.act_rotate middle next set acted).1
      rw [made] at done
      rcases one_by_one_brings set last.keys (updates after) done key here with old | brought
      · exact absurd old absent
      · exact brought
  · intro growing
    constructor
    · rintro ⟨order, same, done⟩
      exact Shared.undisturbed_of_some_order _ last actions rfl ran growing order same done
    · intro undisturbed
      exact ⟨updates actions, .refl _, Shared.undisturbed_one_by_one _ last actions ran undisturbed⟩

theorem updates_linearizable_one_at_a_time :
    Shared.run ⟨⟨[[7]]⟩, []⟩ [.read 0, .publish 0 "a", .read 0, .publish 0 "b"] = some ⟨⟨[[98], [97], [7]]⟩, []⟩ ∧
      Shared.InOrder ⟨⟨[[7]]⟩, []⟩ [.read 0, .publish 0 "a", .read 0, .publish 0 "b"] := by
  have ran : Shared.run ⟨⟨[[7]]⟩, []⟩ [.read 0, .publish 0 "a", .read 0, .publish 0 "b"] =
      some ⟨⟨[[98], [97], [7]]⟩, []⟩ := by decide
  have done : oneByOne ⟨[[7]]⟩ [.prepend "a", .prepend "b"] = .ok ⟨[[98], [97], [7]]⟩ := by rfl
  obtain ⟨ordered, _, growing⟩ := updates_linearizable_iff _ _ _ ran
  have undisturbed := (growing (by simp)).mp ⟨_, .refl _, done⟩
  exact ⟨ran, ordered.mpr undisturbed⟩

-- Two secrets that are read at once: the first one is lost, though no rotation has dropped it, and no order
-- of the two explains it. A rotation between the two steps is undone.
theorem updates_lost_at_once :
    (∃ last, Shared.run ⟨⟨[[7]]⟩, []⟩ [.read 0, .read 1, .publish 0 "a", .publish 1 "b"] = some last ∧
      last.seen = [] ∧ [97] ∉ last.keys.keys ∧
      ¬ ∃ order, order.Perm [.prepend "a", .prepend "b"] ∧ oneByOne ⟨[[7]]⟩ order = .ok last.keys) ∧
    ∃ last, Shared.run ⟨⟨[[7]]⟩, []⟩ [.read 0, .rotate ⟨[[9]]⟩, .publish 0 "a"] = some last ∧
      last.seen = [] ∧ [7] ∈ last.keys.keys := by
  constructor
  · refine ⟨⟨⟨[[98], [7]]⟩, []⟩, by decide, rfl, by decide, ?_⟩
    rintro ⟨order, same, done⟩
    have growing : ∀ set, .rotate set ∉ order := by
      intro set member
      have among := same.mem_iff.mp member
      simp at among
    have size := one_by_one_size _ _ order done growing
    rw [same.length_eq] at size
    exact absurd size (by decide)
  · exact ⟨⟨⟨[[97], [7]]⟩, []⟩, by decide, rfl, by decide⟩

end LoginGateway.Gateway
