import LoginGateway.Url.Reader
import LoginGateway.Proofs.Text.Split
import LoginGateway.Proofs.Url.Marks

/-!
A written address is cut again at its marks: what stands in front of the query, the query, and the
fragment are the parts that it was written from.
-/
set_option autoImplicit false

namespace LoginGateway.Url

structure Cut where
  base : List Char
  query : Option (List Char)
  fragment : Option (List Char)
deriving DecidableEq

-- A fragment may hold both marks and a query that of a query, so the first of each is where the text is cut.
def cut (text : List Char) : Cut :=
  let (front, fragment) := cutOff '#' text
  let (base, query) := cutOff '?' front
  ⟨base, query, fragment⟩

theorem cut_off_marked (mark : Char) (front : List Char) (rest : Option (List Char)) (clear : mark ∉ front) :
    cutOff mark (front ++ marked mark rest) = (front, rest) := by
  cases rest with
  | some text => rw [marked, cutOff, Text.cut_mark mark front text clear]
  | none =>
      rw [marked, List.append_nil, cutOff]
      cases found : Text.cut? (· = mark) front with
      | none => rfl
      | some parts =>
          obtain ⟨x, here, whole, _⟩ := Text.cut_eq_some _ _ _ _ found
          have same : x = mark := by simpa using here
          refine absurd ?_ clear
          rw [whole, same]
          exact List.mem_append_right _ List.mem_cons_self

theorem cut_text (u : Url) (base : Unmarked u.base) (query : ∀ query, u.query = some query → '#' ∉ query) :
    cut u.text = ⟨u.base, u.query, u.fragment⟩ := by
  have plain : '?' ∉ u.base := fun member => (base '?' member).1 rfl
  have whole : '#' ∉ u.base ++ marked '?' u.query := by
    rw [List.mem_append, not_or]
    refine ⟨fun member => (base '#' member).2 rfl, ?_⟩
    cases given : u.query with
    | none => exact List.not_mem_nil
    | some text =>
        rw [marked, List.mem_cons, not_or]
        exact ⟨by decide, query text given⟩
  rw [cut, text, cut_off_marked '#' _ _ whole]
  dsimp only
  rw [cut_off_marked '?' _ _ plain]

end LoginGateway.Url
