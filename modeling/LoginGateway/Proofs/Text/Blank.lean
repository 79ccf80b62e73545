import Mathlib.Data.List.DropRight
import LoginGateway.Text.Blank

/-!
What stripping leaves: the text between the characters that do not count. Controls are ASCII, so it is settled
there which tests refuse them.
-/
set_option autoImplicit false

namespace LoginGateway.Text

variable {α : Type}

theorem strip_eq (drop : α → Bool) (xs : List α) : strip drop xs = (xs.dropWhile drop).rdropWhile drop := rfl

theorem drop_while_self_iff (drop : α → Bool) (xs : List α) : xs.dropWhile drop = xs ↔ ∀ x ∈ xs.head?, drop x = false := by
  rw [List.dropWhile_eq_self_iff]
  cases xs <;> simp

theorem rdrop_while_self_iff (drop : α → Bool) (xs : List α) :
    xs.rdropWhile drop = xs ↔ ∀ x ∈ xs.getLast?, drop x = false := by
  rw [List.rdropWhile_eq_self_iff]
  cases xs using List.reverseRecOn <;> simp

theorem rdrop_while_append (drop : α → Bool) (xs ys : List α) (dropped : ∀ y ∈ ys, drop y) :
    (xs ++ ys).rdropWhile drop = xs.rdropWhile drop := by
  have reversed : ∀ y ∈ ys.reverse, drop y := fun y member => dropped y (List.mem_reverse.mp member)
  rw [List.rdropWhile, List.reverse_append, List.dropWhile_append_of_pos reversed, List.rdropWhile]

theorem drop_while_first (drop : α → Bool) (xs : List α) : ∀ x ∈ (xs.dropWhile drop).head?, drop x = false :=
  (drop_while_self_iff drop _).mp (List.dropWhile_idempotent drop xs)

theorem strip_first (drop : α → Bool) (xs : List α) : ∀ x ∈ (strip drop xs).head?, drop x = false := by
  intro x head
  obtain ⟨trail, whole⟩ := List.rdropWhile_prefix drop (xs.dropWhile drop)
  apply drop_while_first drop xs
  rw [← whole, List.head?_append, ← strip_eq, Option.mem_def.mp head]
  rfl

theorem strip_last (drop : α → Bool) (xs : List α) : ∀ x ∈ (strip drop xs).getLast?, drop x = false :=
  (rdrop_while_self_iff drop _).mp (List.rdropWhile_idempotent drop _)

theorem strip_eq_self_iff (drop : α → Bool) (xs : List α) :
    strip drop xs = xs ↔ (∀ x ∈ xs.head?, drop x = false) ∧ ∀ x ∈ xs.getLast?, drop x = false := by
  constructor
  · intro same
    rw [← same]
    exact ⟨strip_first drop xs, strip_last drop xs⟩
  · rintro ⟨first, last⟩
    rw [strip_eq, (drop_while_self_iff drop xs).mpr first, (rdrop_while_self_iff drop xs).mpr last]

theorem strip_strip (drop : α → Bool) (xs : List α) : strip drop (strip drop xs) = strip drop xs :=
  (strip_eq_self_iff drop _).mpr ⟨strip_first drop xs, strip_last drop xs⟩

theorem strip_kept (drop : α → Bool) (xs : List α) (kept : ∀ x ∈ xs, drop x = false) : strip drop xs = xs :=
  (strip_eq_self_iff drop xs).mpr
    ⟨fun x head => kept x (List.mem_of_head? head), fun x last => kept x (List.mem_of_getLast? last)⟩

theorem strip_around (drop : α → Bool) (lead core trail : List α) (before : ∀ x ∈ lead, drop x)
    (after : ∀ x ∈ trail, drop x) : strip drop (lead ++ core ++ trail) = strip drop core := by
  have trailing : trail.dropWhile drop = [] := List.dropWhile_eq_nil_iff.mpr after
  rw [strip_eq, strip_eq, List.append_assoc, List.dropWhile_append_of_pos before, List.dropWhile_append]
  by_cases blank : (core.dropWhile drop).isEmpty
  · rw [if_pos blank, trailing, List.isEmpty_iff.mp blank]
  · rw [if_neg blank, rdrop_while_append drop _ trail after]

theorem strip_padded (drop : α → Bool) (lead core trail : List α) (before : ∀ x ∈ lead, drop x)
    (after : ∀ x ∈ trail, drop x) (first : ∀ x ∈ core.head?, drop x = false)
    (last : ∀ x ∈ core.getLast?, drop x = false) : strip drop (lead ++ core ++ trail) = core := by
  rw [strip_around drop lead core trail before after, (strip_eq_self_iff drop core).mpr ⟨first, last⟩]

theorem strip_parts (drop : α → Bool) (xs : List α) :
    ∃ lead trail, xs = lead ++ strip drop xs ++ trail ∧ (∀ x ∈ lead, drop x) ∧ ∀ x ∈ trail, drop x := by
  refine ⟨xs.takeWhile drop, (xs.dropWhile drop).rtakeWhile drop, ?_, ?_, ?_⟩
  · rw [strip_eq, List.append_assoc, List.rdropWhile_append_rtakeWhile, List.takeWhile_append_dropWhile]
  · exact fun x member => List.mem_takeWhile_imp member
  · exact fun x member => List.mem_rtakeWhile_imp member

theorem strip_sublist (drop : α → Bool) (xs : List α) : (strip drop xs).Sublist xs :=
  (List.rdropWhile_prefix drop (xs.dropWhile drop)).sublist.trans (List.dropWhile_sublist drop)

theorem strip_subset (drop : α → Bool) (xs : List α) : ∀ x ∈ strip drop xs, x ∈ xs :=
  fun _ member => (strip_sublist drop xs).subset member

theorem strip_eq_nil_iff (drop : α → Bool) (xs : List α) : strip drop xs = [] ↔ ∀ x ∈ xs, drop x := by
  constructor
  · intro empty x member
    obtain ⟨lead, trail, whole, before, after⟩ := strip_parts drop xs
    rw [whole, empty, List.append_nil] at member
    exact (List.mem_append.mp member).elim (before x) (after x)
  · intro all
    rw [strip_eq, List.dropWhile_eq_nil_iff.mpr all, List.rdropWhile_nil]

theorem strip_cons (drop : α → Bool) (x : α) (rest : List α) (kept : drop x = false) :
    ∃ others, strip drop (x :: rest) = x :: others := by
  rw [strip_eq, List.dropWhile_cons_of_neg (by simp [kept])]
  have front := List.rdropWhile_prefix drop (x :: rest)
  cases left : (x :: rest).rdropWhile drop with
  | nil =>
      have dropped := List.rdropWhile_eq_nil_iff.mp left x List.mem_cons_self
      rw [kept] at dropped
      cases dropped
  | cons y others =>
      rw [left] at front
      exact ⟨others, by rw [(List.cons_prefix_cons.mp front).1]⟩

theorem strip_map {β : Type} (f : α → β) (drop : β → Bool) (xs : List α) :
    strip drop (xs.map f) = (strip (drop ∘ f) xs).map f := by
  simp only [strip, List.dropWhile_map, ← List.map_reverse]

theorem drop_while_congr (drop other : α → Bool) (xs : List α) (same : ∀ x ∈ xs, drop x = other x) :
    xs.dropWhile drop = xs.dropWhile other := by
  induction xs with
  | nil => rfl
  | cons x xs ih =>
      rw [List.dropWhile_cons, List.dropWhile_cons, same x List.mem_cons_self,
        ih fun y member => same y (List.mem_cons_of_mem x member)]

theorem strip_congr (drop other : α → Bool) (xs : List α) (same : ∀ x ∈ xs, drop x = other x) :
    strip drop xs = strip other xs := by
  have inner : ∀ x ∈ (xs.dropWhile other).reverse, drop x = other x := fun x member =>
    same x ((List.dropWhile_sublist other).subset (List.mem_reverse.mp member))
  rw [strip, strip, drop_while_congr drop other xs same, drop_while_congr drop other _ inner]

theorem ascii_all (P : Char → Prop) (holds : ∀ n, n < 0x80 → P (Char.ofNat n)) (c : Char) (ascii : c.toNat < 0x80) : P c := by
  have here := holds c.toNat ascii
  rwa [Char.ofNat_toNat] at here

theorem control_ascii (c : Char) (control : isControl c) : c.toNat < 0x80 := by
  simp only [isControl, Bool.or_eq_true, decide_eq_true_eq, beq_iff_eq] at control
  omega

-- Controls are ASCII, so a test that refuses them there refuses them all.
theorem printed_of_test (test : Char → Bool) (refused : ∀ n, n < 0x80 → isControl (Char.ofNat n) → test (Char.ofNat n) = false)
    (c : Char) (passed : test c) : isControl c = false := by
  apply Bool.eq_false_iff.mpr
  intro control
  have outside := ascii_all (fun c => isControl c → test c = false) refused c (control_ascii c control) control
  rw [passed] at outside
  cases outside

theorem printed_of_any (cs : List Char) (printed : cs.any isControl = false) : ∀ c ∈ cs, isControl c = false := by
  simpa using printed

end LoginGateway.Text
