import Mathlib.Data.List.TakeWhile
import LoginGateway.Request
import LoginGateway.Proofs.Text.Split
import LoginGateway.Proofs.Url.Marks
import LoginGateway.Proofs.Web.Form

/-!
The path and the query of a target that was put together from them. What a form's pairs say of a name is read again, and
where several of them have the name it is the first that counts.
-/
set_option autoImplicit false

namespace LoginGateway.Request

open Url

theorem query_pairs_of (path query rest : List Char) (clear : Unmarked path) (whole : '#' ∉ query)
    (ends : ∀ c ∈ rest.head?, c = '#') : queryPairs (path ++ '?' :: query ++ rest) = Form.decode query := by
  have inside : '#' ∉ path ++ '?' :: query := by
    simp only [List.mem_append, List.mem_cons, not_or]
    exact ⟨fun member => (clear '#' member).2 rfl, by decide, whole⟩
  have kept := Text.before_mark '#' (path ++ '?' :: query) rest inside ends
  have cut := Text.cut_mark '?' path query fun member => (clear '?' member).1 rfl
  rw [queryPairs, kept, cut]

theorem parameter_of_form (target : String) (path rest : List Char) (pairs : Form.Pairs) (clear : Unmarked path)
    (ends : ∀ c ∈ rest.head?, c = '#') (spelled : target.toList = path ++ '?' :: Form.encode pairs ++ rest)
    (name : String) : parameter? target name = pairs.lookup name := by
  rw [parameter?, spelled, query_pairs_of path _ rest clear (Form.encode_without_fragment pairs) ends, Form.decode_encode,
    Form.value?]

def targetOf (path : String) (pairs : Form.Pairs) (fragment : Option String) : String :=
  path ++ "?" ++ String.ofList (Form.encode pairs) ++ (fragment.map ("#" ++ ·)).getD ""

def IsFirst (pairs : Form.Pairs) (name value : String) : Prop :=
  ∃ front rest, pairs = front ++ (name, value) :: rest ∧ ∀ pair ∈ front, pair.1 ≠ name

theorem first_iff (pairs : Form.Pairs) (name value : String) :
    pairs.lookup name = some value ↔ IsFirst pairs name value := by
  simp only [List.lookup_eq_some_iff, IsFirst, bne_iff_ne, ne_comm]

theorem target_text (path : String) (pairs : Form.Pairs) (fragment : Option String) :
    ∃ rest, (targetOf path pairs fragment).toList = path.toList ++ '?' :: Form.encode pairs ++ rest ∧
      ∀ c ∈ rest.head?, c = '#' := by
  cases fragment with
  | none => exact ⟨[], by simp [targetOf], by simp⟩
  | some text => exact ⟨'#' :: text.toList, by simp [targetOf], by simp⟩

theorem parameter_inverts_form (path : String) (clear : Unmarked path.toList) (pairs : Form.Pairs)
    (fragment : Option String) (name : String) :
    (∀ value, parameter? (targetOf path pairs fragment) name = some value ↔ IsFirst pairs name value) ∧
      (parameter? (targetOf path pairs fragment) name = none ↔ ∀ pair ∈ pairs, pair.1 ≠ name) := by
  obtain ⟨rest, spelled, ends⟩ := target_text path pairs fragment
  have read := parameter_of_form (targetOf path pairs fragment) path.toList rest pairs clear ends spelled name
  rw [read]
  refine ⟨first_iff pairs name, ?_⟩
  simp only [List.lookup_eq_none_iff, bne_iff_ne, ne_comm]

-- A pair without a name, a value that holds every mark, a second value, and a fragment that looks like a query.
theorem parameter_inverts_form_of_marks :
    Unmarked "/cb".toList ∧
      targetOf "/cb" [("", ""), ("é b", "&=+%#?"), ("é b", "x")] (some "?é+b=y") =
        "/cb?=&%C3%A9+b=%26%3D%2B%25%23%3F&%C3%A9+b=x#?é+b=y" ∧
      parameter? (targetOf "/cb" [("", ""), ("é b", "&=+%#?"), ("é b", "x")] (some "?é+b=y")) "é b" = some "&=+%#?" := by
  have clear : Unmarked "/cb".toList := by decide
  have first : IsFirst [("", ""), ("é b", "&=+%#?"), ("é b", "x")] "é b" "&=+%#?" :=
    ⟨[("", "")], [("é b", "x")], rfl, by decide⟩
  exact ⟨clear, by decide, ((parameter_inverts_form "/cb" clear _ (some "?é+b=y") "é b").1 _).mpr first⟩

def pathOf (target : List Char) : List Char := Text.before (fun c => c = '?' || c = '#') target

theorem path_unmarked_iff (cs : List Char) : pathOf cs = cs ↔ Unmarked cs := by
  rw [pathOf, Text.before, List.takeWhile_eq_self_iff]
  simp [Unmarked, IsPart]

theorem path_append_of_unmarked (front back : List Char) (clear : Unmarked front) :
    pathOf (front ++ back) = front ++ pathOf back := by
  apply List.takeWhile_append_of_pos
  intro c member
  simp [(clear c member).1, (clear c member).2]

theorem path_cons (c : Char) (cs : List Char) (part : IsPart c) : pathOf (c :: cs) = c :: pathOf cs :=
  path_append_of_unmarked [c] cs (unmarked_cons c [] part unmarked_nil)

theorem path_cons_of_mark (c : Char) (cs : List Char) (mark : ¬ IsPart c) : pathOf (c :: cs) = [] := by
  have either : c = '?' ∨ c = '#' := by simpa [IsPart, or_iff_not_imp_left] using mark
  rcases either with rfl | rfl <;> rfl

theorem path_append_of_marked (front back : List Char) (marked : ¬ Unmarked front) :
    pathOf (front ++ back) = pathOf front := by
  induction front with
  | nil => exact absurd unmarked_nil marked
  | cons c front ih =>
      rw [List.cons_append]
      by_cases part : IsPart c
      · have later : ¬ Unmarked front := fun clear => marked (unmarked_cons c front part clear)
        rw [path_cons c _ part, path_cons c front part, ih later]
      · rw [path_cons_of_mark c _ part, path_cons_of_mark c front part]

theorem path_unmarked (cs : List Char) : Unmarked (pathOf cs) := by
  intro c member
  simpa [IsPart] using List.mem_takeWhile_imp member

theorem path_without_fragment (cs : List Char) : pathOf (Text.before (· = '#') cs) = pathOf cs := by
  rw [pathOf, Text.before, Text.before, List.takeWhile_takeWhile]
  congr 1
  funext c
  by_cases query : c = '?' <;> simp [query]

theorem path_of (r : Request) (path query : List Char) (clear : Unmarked path)
    (target : r.target.toList = path ++ '?' :: query) : r.path = path := by
  have cut := path_append_of_unmarked path ('?' :: query) clear
  rw [← target] at cut
  exact cut.trans (List.append_nil path)

end LoginGateway.Request
