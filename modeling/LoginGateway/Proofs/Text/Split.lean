import Mathlib.Data.List.Infix
import LoginGateway.Text.Split

/-!
Cuts find the mark that was put between two lists.
-/
set_option autoImplicit false

namespace LoginGateway.Text

variable {α : Type}

theorem cut_append (mark : α → Bool) (front : List α) (x : α) (rest : List α)
    (unmarked : ∀ y ∈ front, mark y = false) (marked : mark x) :
    cut? mark (front ++ x :: rest) = some (front, rest) := by
  induction front with
  | nil => simp [cut?, marked]
  | cons y front ih =>
      simp [cut?, unmarked y (by simp), ih fun z member => unmarked z (by simp [member])]

theorem cut_eq_some (mark : α → Bool) (xs front rest : List α) (found : cut? mark xs = some (front, rest)) :
    ∃ x, mark x ∧ xs = front ++ x :: rest ∧ ∀ y ∈ front, mark y = false := by
  induction xs generalizing front with
  | nil => cases found
  | cons x xs ih =>
      rw [cut?] at found
      by_cases here : mark x
      · rw [if_pos here] at found
        cases found
        exact ⟨x, here, rfl, by simp⟩
      · rw [if_neg here] at found
        obtain ⟨⟨before, after⟩, inner, joined⟩ := Option.map_eq_some_iff.mp found
        cases joined
        obtain ⟨y, marked, split, clear⟩ := ih before inner
        refine ⟨y, marked, by rw [split, List.cons_append], ?_⟩
        intro z member
        rcases List.mem_cons.mp member with rfl | later
        · exact eq_false_of_ne_true here
        · exact clear z later

theorem before_clear (mark : α → Bool) (front rest : List α) (clear : ∀ y ∈ front, mark y = false)
    (stops : ∀ x ∈ rest.head?, mark x) : before mark (front ++ rest) = front := by
  have kept : ∀ y ∈ front, (!mark y) = true := by
    intro y member
    simp [clear y member]
  rw [before, List.takeWhile_append_of_pos kept]
  cases rest with
  | nil => simp
  | cons x rest =>
      have marked := stops x rfl
      rw [List.takeWhile_cons_of_neg (by simp [marked]), List.append_nil]

theorem before_mark [DecidableEq α] (mark : α) (front rest : List α) (clear : mark ∉ front)
    (stops : ∀ x ∈ rest.head?, x = mark) : before (· = mark) (front ++ rest) = front := by
  apply before_clear
  · intro x member
    exact decide_eq_false fun same => clear (same ▸ member)
  · intro x head
    exact decide_eq_true (stops x head)

theorem cut_mark [DecidableEq α] (mark : α) (front rest : List α) (clear : mark ∉ front) :
    cut? (· = mark) (front ++ mark :: rest) = some (front, rest) := by
  apply cut_append
  · intro x member
    exact decide_eq_false fun same => clear (same ▸ member)
  · exact decide_eq_true rfl

theorem cut_eq_none (mark : α → Bool) (xs : List α) (missing : cut? mark xs = none) : ∀ y ∈ xs, mark y = false := by
  induction xs with
  | nil => simp
  | cons x xs ih =>
      rw [cut?] at missing
      by_cases here : mark x
      · rw [if_pos here] at missing
        cases missing
      · rw [if_neg here] at missing
        intro y member
        rcases List.mem_cons.mp member with rfl | later
        · exact eq_false_of_ne_true here
        · exact ih (Option.map_eq_none_iff.mp missing) y later

theorem cut_last_eq_some (mark : α → Bool) (xs front rest : List α) (found : cutLast? mark xs = some (front, rest)) :
    ∃ x, mark x ∧ xs = front ++ x :: rest ∧ ∀ y ∈ rest, mark y = false := by
  obtain ⟨⟨back, ahead⟩, inner, joined⟩ := Option.map_eq_some_iff.mp found
  cases joined
  obtain ⟨x, marked, split, clear⟩ := cut_eq_some mark xs.reverse back ahead inner
  refine ⟨x, marked, ?_, ?_⟩
  · rw [← List.reverse_reverse xs, split]
    simp
  · intro y member
    exact clear y (List.mem_reverse.mp member)

theorem cut_last_append (mark : α → Bool) (front : List α) (x : α) (rest : List α)
    (unmarked : ∀ y ∈ rest, mark y = false) (marked : mark x) :
    cutLast? mark (front ++ x :: rest) = some (front, rest) := by
  have reversed : (front ++ x :: rest).reverse = rest.reverse ++ x :: front.reverse := by simp
  have found := cut_append mark rest.reverse x front.reverse (by simpa using unmarked) marked
  simp [cutLast?, reversed, found]

theorem contains_iff_infix [DecidableEq α] (pattern xs : List α) : contains pattern xs ↔ pattern <:+: xs := by
  rw [contains]
  induction xs with
  | nil =>
      by_cases empty : pattern = []
      · simp [cutAt?, empty]
      · simp [cutAt?, empty]
  | cons x xs ih =>
      rw [cutAt?, List.infix_cons_iff]
      cases front : pattern.isPrefixOf? (x :: xs) with
      | some rest =>
          have here : pattern <+: x :: xs := ⟨rest, List.append_eq_of_isPrefixOf?_eq_some front⟩
          simp [here]
      | none =>
          have elsewhere : ¬ pattern <+: x :: xs := by
            rw [← List.isPrefixOf_iff_prefix, ← List.isSome_isPrefixOf?_eq_isPrefixOf, front]
            exact Bool.false_ne_true
          simp [elsewhere, ← ih]

theorem drop_prefix_eq [DecidableEq α] (pattern xs : List α) : xs.dropPrefix? pattern = pattern.isPrefixOf? xs := by
  apply Option.ext
  intro rest
  simp only [List.dropPrefix?_eq_some_iff, List.isPrefixOf?_eq_some_iff_append_eq, beq_iff_eq, exists_eq_right]
  exact eq_comm

-- What has been passed on the way to the pattern stands in reverse.
theorem drop_infix_go_eq [DecidableEq α] (pattern xs passed : List α) : List.dropInfix?.go pattern xs passed =
    (cutAt? pattern xs).map fun parts => (passed.reverse ++ parts.1, parts.2) := by
  induction xs generalizing passed with
  | nil => by_cases empty : pattern = [] <;> simp [List.dropInfix?.go, cutAt?, empty]
  | cons x xs ih =>
      rw [List.dropInfix?.go, cutAt?, drop_prefix_eq]
      cases pattern.isPrefixOf? (x :: xs) with
      | some after => simp
      | none => simp [ih, Function.comp_def]

theorem cut_at_eq_drop_infix [DecidableEq α] (pattern xs : List α) : cutAt? pattern xs = xs.dropInfix? pattern := by
  rw [List.dropInfix?, drop_infix_go_eq]
  simp

theorem split_members (mark : α → Bool) (xs : List α) :
    ∀ piece ∈ xs.splitOnP mark, ∀ x ∈ piece, x ∈ xs ∧ mark x = false := by
  induction xs with
  | nil => simp
  | cons x xs ih =>
      have later : ∀ piece ∈ xs.splitOnP mark, ∀ y ∈ piece, y ∈ x :: xs ∧ mark y = false := fun piece member y inside =>
        ⟨List.mem_cons_of_mem x (ih piece member y inside).1, (ih piece member y inside).2⟩
      rw [List.splitOnP_cons_eq_if_modifyHead]
      by_cases here : mark x
      · simpa [here] using later
      · rw [if_neg here]
        obtain ⟨first, rest, split⟩ := List.exists_cons_of_ne_nil (List.splitOnP_ne_nil mark xs)
        rw [split] at later ⊢
        intro piece member
        rcases List.mem_cons.mp member with rfl | behind
        · intro y inside
          rcases List.mem_cons.mp inside with rfl | further
          · exact ⟨List.mem_cons_self, eq_false_of_ne_true here⟩
          · exact later first List.mem_cons_self y further
        · exact later piece (List.mem_cons_of_mem first behind)

-- Two lists that differ in one element and are cut as far from their ends: either the element stands in front of both cuts
-- and what follows them is the same, or all that stands in front of them is.
theorem replaced_cut (front back head tail newHead newTail : List α) (x y : α) (whole : front ++ x :: back = head ++ tail)
    (changed : front ++ y :: back = newHead ++ newTail) (same : tail.length = newTail.length) :
    (∃ rest, head = front ++ x :: rest ∧ newHead = front ++ y :: rest ∧ back = rest ++ tail ∧ newTail = tail) ∨
      newHead = head := by
  rcases List.append_eq_append_iff.mp whole with ⟨ahead, inside, split⟩ | ⟨ahead, inside, split⟩
  · cases ahead with
    | nil =>
        rw [List.nil_append] at split
        have lengths : (y :: back).length = newTail.length := by simpa [← split] using same
        obtain ⟨first, _⟩ := List.append_inj' changed lengths
        exact .inr (by simp [inside, first])
    | cons z rest =>
        rw [List.cons_append] at split
        obtain ⟨rfl, rfl⟩ := List.cons.inj split
        have joined : (front ++ y :: rest) ++ tail = newHead ++ newTail := by
          rw [← changed, List.append_assoc, List.cons_append]
        obtain ⟨first, second⟩ := List.append_inj' joined same
        exact .inl ⟨rest, inside, first.symm, rfl, second.symm⟩
  · have joined : head ++ (ahead ++ y :: back) = newHead ++ newTail := by
      rw [← changed, inside, List.append_assoc]
    have lengths : (ahead ++ y :: back).length = newTail.length := by
      rw [← same, split]
      simp
    exact .inr (List.append_inj' joined lengths).1.symm

end LoginGateway.Text
