import LoginGateway.Json.Reader
import LoginGateway.Proofs.Json.Tokens

/-!
A written document is read back as it was: the reader goes through the tokens of a value and puts
the value where it began.
-/
set_option autoImplicit false

namespace LoginGateway.Json.Reader

theorem fold_step (r next : Reader) (t : Token) (rest : List Token) (taken : step r t = some next) :
    (t :: rest).foldlM step r = rest.foldlM step next := by
  simp [List.foldlM_cons, taken]

def AtValue (r : Reader) : Prop := r.expect = .value ∨ r.expect = .valueOrClose

def AtName (r : Reader) : Prop := r.expect = .name ∨ r.expect = .nameOrClose

theorem step_value (r next : Reader) (t : Token) (ready : AtValue r)
    (begins : beginValue r.stack t = some next) : step r t = some next := by
  rcases ready with value | open_ <;> simp [step, *]

theorem step_name (r : Reader) (done : Members) (old name : Option String) (outer : List Frame)
    (ready : AtName r) (stack : r.stack = .members done old :: outer) :
    step r (.text name) = some ⟨.colon, .members done name :: outer, .null⟩ := by
  rcases ready with expect | expect <;> simp [step, expect, stack, readName]

-- The invariant of a run: what is open around a value stays open, and the value joins it. The items
-- and members already read stand in reverse, as the stack keeps them.
mutual
theorem fold_value (j : Json) (r : Reader) (ready : AtValue r) (rest : List Token) :
    (tokens j ++ rest).foldlM step r = rest.foldlM step (put j r.stack) := by
  match j with
  | .null => exact fold_step _ _ _ _ (step_value r _ _ ready rfl)
  | .bool b => exact fold_step _ _ _ _ (step_value r _ _ ready rfl)
  | .number n => exact fold_step _ _ _ _ (step_value r _ _ ready rfl)
  | .text s => exact fold_step _ _ _ _ (step_value r _ _ ready rfl)
  | .array [] =>
      rw [tokens, List.cons_append, fold_step _ _ _ _ (step_value r _ _ ready rfl), itemsTokens,
        List.nil_append, List.singleton_append]
      exact fold_step _ _ _ _ rfl
  | .array (first :: more) =>
      rw [tokens, List.cons_append, fold_step _ _ _ _ (step_value r _ _ ready rfl), List.append_assoc,
        fold_items (first :: more) (by simp) _ [] r.stack (.inr rfl) rfl, List.singleton_append]
      apply fold_step
      simp [step, separate, close]
  | .object [] =>
      rw [tokens, List.cons_append, fold_step _ _ _ _ (step_value r _ _ ready rfl), membersTokens,
        List.nil_append, List.singleton_append]
      exact fold_step _ _ _ _ rfl
  | .object (first :: more) =>
      rw [tokens, List.cons_append, fold_step _ _ _ _ (step_value r _ _ ready rfl), List.append_assoc,
        fold_members (first :: more) (by simp) _ [] none r.stack (.inr rfl) rfl, List.singleton_append]
      apply fold_step
      simp [step, separate, close]
theorem fold_items (items : List Json) (given : items ≠ []) (r : Reader) (done : List Json)
    (outer : List Frame) (ready : AtValue r) (stack : r.stack = .items done :: outer) (rest : List Token) :
    (itemsTokens items ++ rest).foldlM step r =
      rest.foldlM step ⟨.separator, .items (items.reverse ++ done) :: outer, .null⟩ := by
  match items with
  | [] => exact absurd rfl given
  | [item] =>
      rw [itemsTokens, fold_value item r ready rest, stack]
      rfl
  | item :: next :: more =>
      rw [itemsTokens, List.append_assoc, fold_value item r ready, stack, List.cons_append,
        fold_step _ ⟨.value, .items (item :: done) :: outer, .null⟩ _ _ rfl,
        fold_items (next :: more) (by simp) _ (item :: done) outer (.inl rfl) rfl]
      · simp
      · simp
theorem fold_members (members : List (Option String × Json)) (given : members ≠ []) (r : Reader)
    (done : Members) (old : Option String) (outer : List Frame) (ready : AtName r)
    (stack : r.stack = .members done old :: outer) (rest : List Token) :
    (membersTokens members ++ rest).foldlM step r =
      rest.foldlM step ⟨.separator, .members (members.reverse ++ done) none :: outer, .null⟩ := by
  match members with
  | [] => exact absurd rfl given
  | [(name, value)] =>
      rw [membersTokens, List.cons_append, List.cons_append,
        fold_step _ _ _ _ (step_name r done old name outer ready stack),
        fold_step _ ⟨.value, .members done name :: outer, .null⟩ _ _ rfl,
        fold_value value _ (.inl rfl) rest]
      rfl
  | (name, value) :: next :: more =>
      rw [membersTokens, List.cons_append, List.cons_append,
        fold_step _ _ _ _ (step_name r done old name outer ready stack),
        fold_step _ ⟨.value, .members done name :: outer, .null⟩ _ _ rfl, List.append_assoc,
        fold_value value _ (.inl rfl), List.cons_append,
        fold_step _ ⟨.name, .members ((name, value) :: done) none :: outer, .null⟩ _ _ rfl,
        fold_members (next :: more) (by simp) _ ((name, value) :: done) none outer (.inl rfl) rfl]
      · simp
      · simp
end

end Reader

theorem of_tokens (j : Json) : ofTokens? (tokens j) = some j := by
  have run := Reader.fold_value j Reader.start (.inl rfl) []
  rw [List.append_nil] at run
  rw [ofTokens?, run]
  rfl

theorem read_compact (j : Json) (plain : isPlain j) : read? (Text.utf8 j.compact) = some j := by
  have written := all_write j plain [] (by simp [Token.Ends])
  have bytes : Text.utf8 j.compact = Text.Utf8.encode (write j) := by simp [Text.utf8, compact]
  rw [List.append_nil] at written
  simp [read?, bytes, written, Token.all?, of_tokens]

end LoginGateway.Json
