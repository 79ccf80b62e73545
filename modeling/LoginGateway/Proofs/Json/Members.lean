import Mathlib.Algebra.Group.Nat.Defs
import Mathlib.Data.List.Count
import LoginGateway.Proofs.Json.Fields

/-!
The members of an object as the fields of a record: a name that is given once has one value, wherever it stands, and what
a field may hold is told by its type.
-/
set_option autoImplicit false

namespace LoginGateway

namespace Json

structure Numeral.IsWord (n : Numeral) : Prop where
  unsigned : n.negative = false
  integral : n.fraction = []
  plain : n.exponent = none
  fits : Text.Decimal.value n.whole < 2 ^ 64

def TextOrMissing (value : Option Json) : Prop := ∀ j, value = some j → ∃ s, j = .str s

def TextOrNull (value : Option Json) : Prop := ∀ j, value = some j → j = .null ∨ ∃ s, j = .str s

def WordOrNull (value : Option Json) : Prop := ∀ j, value = some j → j = .null ∨ ∃ n, j = .number n ∧ n.IsWord

def ofPairs (pairs : List (String × Json)) : Members := pairs.map fun (name, value) => (some name, value)

-- Every name is text, which an escape of half a character is not.
def AllNamed (members : Members) : Prop := ∀ member ∈ members, member.1 ≠ none

def DistinctNames (members : Members) : Prop := (members.filterMap Prod.fst).Nodup

def GivenOnce (members : Members) (name : String) : Prop := (members.map Prod.fst).count (some name) ≤ 1

def member? (members : Members) : Fields := fun name => members.lookup (some name)

theorem text_iff (j : Json) (s : String) : j.text? = some s ↔ j = .str s := by
  cases j <;> simp [text?, str]

theorem word_iff (j : Json) : (∃ n, j.word? = some n) ↔ ∃ n, j = .number n ∧ n.IsWord := by
  cases j with
  | number n =>
      simp only [word?, Option.bind_eq_some_iff, Numeral.natural_iff]
      constructor
      · intro read
        obtain ⟨word, _, ⟨unsigned, integral, plain, rfl⟩, fits⟩ := read
        exact ⟨n, rfl, unsigned, integral, plain, (Text.Decimal.word_given_iff _).mp ⟨word, fits⟩⟩
      · intro spelled
        obtain ⟨_, same, unsigned, integral, plain, fits⟩ := spelled
        cases same
        obtain ⟨word, given⟩ := (Text.Decimal.word_given_iff _).mpr fits
        exact ⟨word, _, ⟨unsigned, integral, plain, rfl⟩, given⟩
  | _ => simp [word?]

theorem nullable_iff {α : Type} (decode : Json → Option α) (j : Json) :
    (∃ value, nullable? decode j = some value) ↔ j = .null ∨ ∃ a, decode j = some a := by
  by_cases missing : j = .null
  · simp [missing, nullable?]
  · have given : nullable? decode j = (decode j).map some := by
      rw [nullable?]
      exact missing
    rw [given]
    cases decode j <;> simp [missing]

theorem Fields.read_iff {α : Type} (fields : Fields) (name : String) (decode : Json → Option α) (default : α) :
    (∃ value, fields.read? name decode default = some value) ↔
      ∀ j, fields name = some j → ∃ value, decode j = some value := by
  rw [read?]
  cases fields name with
  | none => simp
  | some j => simp

theorem Fields.text_field_iff (fields : Fields) (name : String) :
    (∃ s, fields.text? name = some s) ↔ TextOrMissing (fields name) := by
  simp only [Fields.text?, read_iff, TextOrMissing, text_iff]

theorem Fields.text_given (fields : Fields) (name s : String) (given : fields name = some (.str s)) :
    fields.text? name = some s := by
  rw [Fields.text?, read?, given]
  rfl

theorem Fields.nullable_text_iff (fields : Fields) (name : String) :
    (∃ s, fields.nullable? name Json.text? = some s) ↔ TextOrNull (fields name) := by
  simp only [Fields.nullable?, read_iff, TextOrNull, nullable_iff, text_iff]

theorem Fields.nullable_word_iff (fields : Fields) (name : String) :
    (∃ n, fields.nullable? name Json.word? = some n) ↔ WordOrNull (fields name) := by
  simp only [Fields.nullable?, read_iff, WordOrNull, nullable_iff, word_iff]

theorem named_pairs (members : Members) (named : AllNamed members) : ∃ pairs, members = ofPairs pairs := by
  induction members with
  | nil => exact ⟨[], rfl⟩
  | cons member members ih =>
      obtain ⟨pairs, rfl⟩ := ih fun other among => named other (by simp [among])
      obtain ⟨name, value⟩ := member
      cases name with
      | none => exact absurd rfl (named (none, value) (by simp))
      | some name => exact ⟨(name, value) :: pairs, rfl⟩

theorem pairs_named (pairs : List (String × Json)) : AllNamed (ofPairs pairs) := by
  intro member among
  obtain ⟨pair, _, rfl⟩ := List.mem_map.mp among
  simp

theorem named_of_some (members : Members) (pairs : List (String × Json)) (read : named? members = some pairs) :
    AllNamed members := by
  induction members generalizing pairs with
  | nil => simp [AllNamed]
  | cons member members ih =>
      obtain ⟨name, value⟩ := member
      cases name with
      | none => simp [named?] at read
      | some name =>
          simp only [named?, List.mapM_cons, Option.map_some, Option.bind_eq_bind, Option.bind_some] at read
          obtain ⟨others, rest, _⟩ := Option.bind_eq_some_iff.mp read
          intro other among
          rcases List.mem_cons.mp among with rfl | later
          · simp
          · exact ih others rest other later

theorem member_of_pairs (pairs : List (String × Json)) (name : String) :
    member? (ofPairs pairs) name = pairs.lookup name := by
  simp only [member?, ofPairs]
  induction pairs with
  | nil => rfl
  | cons pair pairs ih =>
      simp only [List.map_cons, List.lookup_cons, ih]
      rfl

theorem names_of_pairs (pairs : List (String × Json)) : (ofPairs pairs).filterMap Prod.fst = pairs.map Prod.fst := by
  rw [ofPairs, List.filterMap_map, ← List.filterMap_eq_map]
  rfl

theorem member_iff (members : Members) (name : String) (value : Json) (once : GivenOnce members name) :
    member? members name = some value ↔ (some name, value) ∈ members := by
  rw [member?]
  induction members with
  | nil => simp
  | cons member members ih =>
      obtain ⟨other, inner⟩ := member
      rw [GivenOnce, List.map_cons, List.count_cons] at once
      by_cases same : some name = other
      · subst same
        have absent : (some name, value) ∉ members := by
          intro later
          have further : 0 < (members.map Prod.fst).count (some name) :=
            List.count_pos_iff.mpr (List.mem_map.mpr ⟨_, later, rfl⟩)
          simp only [beq_self_eq_true, if_true] at once
          omega
        simp [absent, eq_comm]
      · rw [List.lookup_cons, beq_false_of_ne same, ih (Nat.le_trans (Nat.le_add_right _ _) once), List.mem_cons]
        exact ⟨Or.inr, fun among => among.resolve_left fun first => same (congrArg Prod.fst first)⟩

theorem given_once_iff (pairs : List (String × Json)) (name : String) :
    isGivenOnce pairs name ↔ GivenOnce (ofPairs pairs) name := by
  have same := List.count_map_of_injective (pairs.map Prod.fst) some (fun _ _ => Option.some.inj) name
  have names : (ofPairs pairs).map Prod.fst = (pairs.map Prod.fst).map some := by simp [ofPairs]
  rw [isGivenOnce, GivenOnce, decide_eq_true_iff, names, same]

theorem members_of_pairs_iff (names : List String) (pairs : List (String × Json)) (fields : Fields) :
    membersOf? names (ofPairs pairs) = some fields ↔
      (∀ name ∈ names, GivenOnce (ofPairs pairs) name) ∧ fields = member? (ofPairs pairs) := by
  have looked : (fun name => pairs.lookup name) = member? (ofPairs pairs) :=
    funext fun name => (member_of_pairs pairs name).symm
  rw [membersOf?, ofPairs, named_fields, Option.bind_eq_bind, Option.bind_some, Option.ite_none_right_eq_some,
    Option.some.injEq, List.all_eq_true, looked, eq_comm (a := fields)]
  simp only [given_once_iff]
  rfl

theorem members_of_iff (names : List String) (members : Members) (fields : Fields) :
    membersOf? names members = some fields ↔
      AllNamed members ∧ (∀ name ∈ names, GivenOnce members name) ∧ fields = member? members := by
  constructor
  · intro read
    obtain ⟨spelled, written, _⟩ := Option.bind_eq_some_iff.mp read
    have named := named_of_some members spelled written
    obtain ⟨pairs, rfl⟩ := named_pairs members named
    exact ⟨named, (members_of_pairs_iff names pairs fields).mp read⟩
  · intro assumed
    obtain ⟨named, given⟩ := assumed
    obtain ⟨pairs, rfl⟩ := named_pairs members named
    exact (members_of_pairs_iff names pairs fields).mpr given

theorem distinct_given_once (members : Members) (named : AllNamed members) (distinct : DistinctNames members)
    (name : String) : GivenOnce members name := by
  obtain ⟨pairs, rfl⟩ := named_pairs members named
  rw [DistinctNames, names_of_pairs] at distinct
  exact (given_once_iff pairs name).mp (decide_eq_true (List.nodup_iff_count.mp distinct name))

theorem fields_of_object_iff (names : List String) (members : Members) (fields : Fields)
    (distinct : DistinctNames members) :
    fieldsOf? names (.object members) = some fields ↔ AllNamed members ∧ fields = member? members := by
  rw [fieldsOf?, members_of_iff]
  constructor
  · intro read
    exact ⟨read.1, read.2.2⟩
  · intro read
    exact ⟨read.1, fun name _ => distinct_given_once members read.1 distinct name, read.2⟩

theorem distinct_pairs_iff (pairs : List (String × Json)) : DistinctNames (ofPairs pairs) ↔ (pairs.map Prod.fst).Nodup := by
  rw [DistinctNames, names_of_pairs]

theorem fields_of_pairs (names : List String) (pairs : List (String × Json)) (distinct : (pairs.map Prod.fst).Nodup) :
    fieldsOf? names (.fields pairs) = some (member? (ofPairs pairs)) :=
  (fields_of_object_iff names (ofPairs pairs) _ ((distinct_pairs_iff pairs).mpr distinct)).mpr ⟨pairs_named pairs, rfl⟩

theorem member_of_pairs_iff (pairs : List (String × Json)) (distinct : (pairs.map Prod.fst).Nodup) (name : String)
    (value : Json) : member? (ofPairs pairs) name = some value ↔ (name, value) ∈ pairs := by
  have once := distinct_given_once _ (pairs_named pairs) ((distinct_pairs_iff pairs).mpr distinct) name
  rw [member_iff _ name value once]
  simp [ofPairs]

end Json

end LoginGateway
