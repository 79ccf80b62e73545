import LoginGateway.Cookie
import LoginGateway.Proofs.Text.Blank
import LoginGateway.Proofs.Text.Split

/-!
Cookies on their way: the value that a text sets is the value that is found again in every header that
carries the pair.
-/
set_option autoImplicit false

namespace LoginGateway.Cookie

def setValue? (name text : String) : Option String :=
  ((name.toList ++ ['=']).isPrefixOf? text.toList).map fun rest => String.ofList (Text.before (· = ';') rest)

def Carries (header name value : String) : Prop :=
  ∃ front piece back, header.toList.splitOn ';' = front ++ piece :: back ∧
    Text.trim piece = name.toList ++ '=' :: value.toList ∧
    ∀ other ∈ front, ∀ given, Text.trim other ≠ name.toList ++ '=' :: given

-- Neither blanks nor semicolons: such a value comes through every cut as it is.
def IsBare (value : List Char) : Prop := ∀ c ∈ value, c ≠ ';' ∧ Text.isBlank c = false

theorem given_iff (name piece value : List Char) (plain : '=' ∉ name) :
    (name ++ ['=']).isPrefixOf? piece = some value ↔ Text.cut? (· = '=') piece = some (name, value) := by
  rw [List.isPrefixOf?_eq_some_iff_append_eq, List.append_assoc, List.singleton_append]
  constructor
  · rintro rfl
    exact Text.cut_mark '=' name value plain
  · intro cut
    obtain ⟨mark, marked, whole, _⟩ := Text.cut_eq_some _ _ _ _ cut
    have equals : mark = '=' := by simpa using marked
    rw [whole, equals]

theorem lookup_given (name : List Char) (plain : '=' ∉ name) (pieces : List (List Char)) :
    (pieces.filterMap (Text.cut? (· = '='))).lookup name = pieces.findSome? (name ++ ['=']).isPrefixOf? := by
  induction pieces with
  | nil => rfl
  | cons piece pieces ih =>
      have given := given_iff name piece
      rw [List.filterMap_cons, List.findSome?_cons]
      cases cut : Text.cut? (· = '=') piece with
      | none =>
          have missing : (name ++ ['=']).isPrefixOf? piece = none :=
            Option.eq_none_iff_forall_ne_some.mpr fun value found => by
              rw [given value plain, cut] at found
              cases found
          rw [missing]
          exact ih
      | some pair =>
          obtain ⟨key, value⟩ := pair
          by_cases same : name = key
          · have found := (given value plain).mpr (by rw [cut, same])
            rw [found, same]
            exact List.lookup_cons_self
          · have missing : (name ++ ['=']).isPrefixOf? piece = none :=
              Option.eq_none_iff_forall_ne_some.mpr fun other found => by
                rw [given other plain, cut] at found
                exact same (Prod.mk.inj (Option.some.inj found)).1.symm
            rw [missing]
            dsimp only
            rw [List.lookup_cons, beq_false_of_ne same]
            exact ih

def pieces (header : List Char) : List (List Char) := (header.splitOn ';').map Text.trim

theorem pieces_spaced (cs : List Char) : pieces (' ' :: cs) = pieces cs := by
  obtain ⟨first, rest, split⟩ := List.exists_cons_of_ne_nil (List.splitOnP_ne_nil (· == ';') cs)
  rw [pieces, pieces, List.splitOn, List.splitOn, List.splitOnP_cons_eq_if_modifyHead, if_neg (by decide), split]
  rfl

theorem pieces_append (front back : List Char) : pieces (front ++ ';' :: back) = pieces front ++ pieces back := by
  rw [pieces, List.splitOn_append_cons_self, List.map_append]
  rfl

theorem pieces_single (cs : List Char) (single : ';' ∉ cs) : pieces cs = [Text.trim cs] := by
  rw [pieces, List.splitOn_eq_singleton single, List.map_singleton]

theorem value_of_pieces (header name : List Char) (plain : '=' ∉ name) :
    value? header name = (pieces header).findSome? (name ++ ['=']).isPrefixOf? := by
  rw [← lookup_given name plain, pieces, List.filterMap_map]
  rfl

theorem find_carried (header name value : String) (clear : '=' ∉ name.toList) (carried : Carries header name value) :
    find? (some header) name = some value := by
  obtain ⟨front, piece, back, split, pair, first⟩ := carried
  have found : (name.toList ++ ['=']).isPrefixOf? (Text.trim piece) = some value.toList :=
    List.isPrefixOf?_eq_some_iff_append_eq.mpr (by simp [pair])
  have missing : (front.map Text.trim).findSome? (name.toList ++ ['=']).isPrefixOf? = none := by
    rw [List.findSome?_eq_none_iff]
    intro other member
    obtain ⟨given, among, rfl⟩ := List.mem_map.mp member
    apply Option.eq_none_iff_forall_ne_some.mpr
    intro rest prefixed
    exact first given among rest (by simpa using (List.append_eq_of_isPrefixOf?_eq_some prefixed).symm)
  rw [find?, Option.bind_some, value_of_pieces _ _ clear, pieces, split, List.map_append, List.map_cons,
    List.findSome?_append, missing, Option.none_or, List.findSome?_cons, found, Option.map_some, String.ofList_toList]

theorem trim_pair (name value : List Char) (bare : IsBare value) :
    Text.trim (name ++ '=' :: value) = name.dropWhile Text.isBlank ++ '=' :: value := by
  have before : ∀ c ∈ name.takeWhile Text.isBlank, Text.isBlank c := fun c member => List.mem_takeWhile_imp member
  have first : ∀ c ∈ (name.dropWhile Text.isBlank ++ '=' :: value).head?, Text.isBlank c = false := by
    have kept := Text.drop_while_first Text.isBlank name
    cases rest : name.dropWhile Text.isBlank with
    | nil =>
        intro c head
        cases head
        decide
    | cons d back =>
        rw [rest] at kept
        exact kept
  have last : ∀ c ∈ (name.dropWhile Text.isBlank ++ '=' :: value).getLast?, Text.isBlank c = false := by
    rw [List.getLast?_append, List.getLast?_cons, Option.some_or, ← List.getLast?_cons]
    intro c ends
    rcases List.mem_cons.mp (List.mem_of_getLast? ends) with rfl | member
    · decide
    · exact (bare c member).2
  have whole : name ++ '=' :: value =
      name.takeWhile Text.isBlank ++ (name.dropWhile Text.isBlank ++ '=' :: value) ++ [] := by
    rw [List.append_nil, ← List.append_assoc, List.takeWhile_append_dropWhile]
  rw [whole]
  exact Text.strip_padded Text.isBlank _ _ [] before (by simp) first last

theorem pair_single (name value : List Char) (single : ';' ∉ name) (bare : IsBare value) :
    ';' ∉ name ++ '=' :: value := by
  simp only [List.mem_append, List.mem_cons, not_or]
  exact ⟨single, by decide, fun member => (bare ';' member).1 rfl⟩

theorem split_pair (name value : List Char) (single : ';' ∉ name) (bare : IsBare value) :
    (name ++ '=' :: value).splitOn ';' = [name ++ '=' :: value] :=
  List.splitOn_eq_singleton (pair_single name value single bare)

theorem carries_alone (name value : String) (first : ∀ c ∈ name.toList.head?, Text.isBlank c = false)
    (single : ';' ∉ name.toList) (bare : IsBare value.toList) : Carries (name ++ "=" ++ value) name value := by
  have text : (name ++ "=" ++ value).toList = name.toList ++ '=' :: value.toList := by simp
  refine ⟨[], name.toList ++ '=' :: value.toList, [], ?_, ?_, by simp⟩
  · rw [text, split_pair _ _ single bare]
    rfl
  · rw [trim_pair _ _ bare, (Text.drop_while_self_iff Text.isBlank _).mpr first]

end LoginGateway.Cookie

namespace LoginGateway

theorem SessionCookie.header_text (c : SessionCookie) :
    ∃ attributes, c.header.toList = (c.name.toList ++ '=' :: c.value.toList) ++ ';' :: attributes := by
  refine ⟨" Path=/; Expires=".toList ++ (HttpDate.toString c.expires).toList ++
    "; HttpOnly; Secure; SameSite=Lax".toList, ?_⟩
  simp [header]

theorem SessionCookie.set_value_header (c : SessionCookie) (whole : ';' ∉ c.value.toList) :
    Cookie.setValue? c.name c.header = some c.value := by
  obtain ⟨attributes, text⟩ := c.header_text
  have found : (c.name.toList ++ ['=']).isPrefixOf? c.header.toList = some (c.value.toList ++ ';' :: attributes) :=
    List.isPrefixOf?_eq_some_iff_append_eq.mpr (by simp [text])
  rw [Cookie.setValue?, found, Option.map_some, Text.before_mark _ _ _ whole (by simp), String.ofList_toList]

end LoginGateway
