import LoginGateway.Bytes.Hex
import LoginGateway.Text.Blank
import LoginGateway.Proofs.Text.Decimal
import LoginGateway.Proofs.Web.Percent

/-!
Text in which an address can be cut: it holds neither the mark of a query nor that of a fragment. What an
address is written with in front of its query is such text, and holds no control either.
-/
set_option autoImplicit false

namespace LoginGateway.Url

def IsPart (c : Char) : Prop := c ≠ '?' ∧ c ≠ '#'

instance : DecidablePred IsPart := fun c => inferInstanceAs (Decidable (c ≠ '?' ∧ c ≠ '#'))

def Unmarked (cs : List Char) : Prop := ∀ c ∈ cs, IsPart c

instance : DecidablePred Unmarked := fun cs =>
  decidable_of_iff (cs.all fun c => decide (IsPart c)) (by simp [Unmarked])

theorem unmarked_nil : Unmarked [] := by simp [Unmarked]

theorem unmarked_append_iff (front back : List Char) :
    Unmarked (front ++ back) ↔ Unmarked front ∧ Unmarked back := by
  simp only [Unmarked, List.mem_append, or_imp, forall_and]

theorem unmarked_append (front back : List Char) (first : Unmarked front) (second : Unmarked back) :
    Unmarked (front ++ back) :=
  (unmarked_append_iff front back).mpr ⟨first, second⟩

theorem unmarked_cons (c : Char) (cs : List Char) (first : IsPart c) (rest : Unmarked cs) : Unmarked (c :: cs) :=
  unmarked_append [c] cs (by simpa [Unmarked] using first) rest

theorem part_of_test (test : Char → Bool) (query : test '?' = false) (fragment : test '#' = false) (c : Char)
    (passed : test c) : IsPart c := by
  constructor
  · intro same
    rw [same, query] at passed
    cases passed
  · intro same
    rw [same, fragment] at passed
    cases passed

def IsClean (c : Char) : Prop := IsPart c ∧ Text.isControl c = false

instance : DecidablePred IsClean := fun c => inferInstanceAs (Decidable (IsPart c ∧ Text.isControl c = false))

def Clean (cs : List Char) : Prop := ∀ c ∈ cs, IsClean c

theorem clean_nil : Clean [] := by simp [Clean]

theorem clean_append (front back : List Char) (first : Clean front) (second : Clean back) : Clean (front ++ back) :=
  List.forall_mem_append.mpr ⟨first, second⟩

theorem clean_cons (c : Char) (cs : List Char) (first : IsClean c) (rest : Clean cs) : Clean (c :: cs) :=
  List.forall_mem_cons.mpr ⟨first, rest⟩

theorem flatten_clean (parts : List (List Char)) (clear : ∀ part ∈ parts, Clean part) : Clean parts.flatten := by
  intro c member
  obtain ⟨part, among, inside⟩ := List.mem_flatten.mp member
  exact clear part among c inside

theorem visible_printed (c : Char) (visible : Percent.isVisible c) : Text.isControl c = false := by
  simp only [Percent.isVisible, Bool.and_eq_true, decide_eq_true_eq] at visible
  have low : ¬ c.toNat < 0x20 := by omega
  have delete : c.toNat ≠ 0x7F := by omega
  simp [Text.isControl, low, delete]

theorem escaped_clean (isKept : Char → Bool) (cs : List Char) (kept : ∀ c ∈ cs, isKept c → IsClean c) :
    Clean (Percent.encode isKept cs) :=
  Percent.encode_all isKept IsClean (by decide) (by decide) cs kept

theorem hex_text_clean (n : Nat) : Clean (Hex.text n) := by
  have digit : ∀ k, k < 16 → IsClean (Hex.digitChar k) := by decide
  fun_induction Hex.text n with
  | case1 n small => exact clean_cons _ _ (digit n small) clean_nil
  | case2 n _ ih => exact clean_append _ _ ih (clean_cons _ _ (digit (n % 16) (by omega)) clean_nil)

theorem decimal_text_clean (n : Nat) : Clean (Text.Decimal.text n) :=
  Text.Decimal.text_all IsClean (by decide) n

end LoginGateway.Url
