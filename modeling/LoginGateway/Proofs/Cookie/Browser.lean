import LoginGateway.Proofs.Cookie

/-!
A cookie and a browser. What a text sets is cut and trimmed by the browser, and what the browser sends is cut and trimmed
again; the name is found if it comes through both as it is.
-/
set_option autoImplicit false

namespace LoginGateway.Cookie

-- Browsers differ in the blanks that they trim.
structure Browser where
  trims : Char → Bool
  blank : ∀ c, trims c → Text.isBlank c

namespace Browser

def standard : Browser where
  trims c := c = ' ' || c = '\t'
  blank c trimmed := by
    rcases (Bool.or_eq_true _ _).mp trimmed with space | tab
    · rw [of_decide_eq_true space]
      decide
    · rw [of_decide_eq_true tab]
      decide

-- What stands in front of the attributes is cut at its first equals sign. A cookie without one or without a name is dropped.
def kept? (b : Browser) (text : List Char) : Option (List Char × List Char) :=
  match Text.cut? (· = '=') (Text.before (· = ';') text) with
  | some (name, value) =>
    if Text.strip b.trims name = [] then none else some (Text.strip b.trims name, Text.strip b.trims value)
  | none => none

-- The header of a browser that has no other cookie.
def sent? (b : Browser) (header : String) : Option String :=
  (b.kept? header.toList).map fun (name, value) => String.ofList (name ++ '=' :: value)

end Browser

structure IsName (name : List Char) : Prop where
  single : ';' ∉ name
  plain : '=' ∉ name
  first : ∀ c ∈ name.head?, Text.isBlank c = false

structure Browser.Returns (b : Browser) (name : String) : Prop where
  carried : IsName name.toList
  last : ∀ c ∈ name.toList.getLast?, b.trims c = false

theorem name_of_pair (header name value : List Char) (member : (name, value) ∈ pairs header) : IsName name := by
  obtain ⟨piece, among, cut⟩ := List.mem_filterMap.mp member
  obtain ⟨mark, _, whole, unmarked⟩ := Text.cut_eq_some _ _ _ _ cut
  have inside (c : Char) (here : c ∈ name) : c ∈ piece := by
    apply Text.strip_subset Text.isBlank piece c
    rw [← Text.trim, whole]
    exact List.mem_append_left _ here
  refine ⟨fun here => ?_, fun here => ?_, ?_⟩
  · have clear := (Text.split_members (· == ';') header piece among ';' (inside ';' here)).2
    cases clear
  · have clear := unmarked '=' here
    cases clear
  · intro c head
    apply Text.strip_first Text.isBlank piece c
    rw [← Text.trim, whole, List.head?_append, Option.mem_def.mp head]
    rfl

theorem found_name (header : Option String) (name value : String) (found : find? header name = some value) :
    IsName name.toList := by
  obtain ⟨cs, inner, _⟩ := Option.map_eq_some_iff.mp found
  obtain ⟨text, _, looked⟩ := Option.bind_eq_some_iff.mp inner
  obtain ⟨front, back, split, _⟩ := List.lookup_eq_some_iff.mp looked
  apply name_of_pair text.toList name.toList cs
  rw [split]
  exact List.mem_append_right front List.mem_cons_self

theorem find_alone (name given value : List Char) (single : ';' ∉ given) (plain : '=' ∉ given) (bare : IsBare value) :
    value? (given ++ '=' :: value) name = if name = given.dropWhile Text.isBlank then some value else none := by
  have clear : '=' ∉ given.dropWhile Text.isBlank := fun member => plain ((List.dropWhile_sublist _).subset member)
  rw [value?, pairs, split_pair given value single bare, List.filterMap_cons, trim_pair given value bare,
    Text.cut_mark '=' _ value clear]
  by_cases same : name = given.dropWhile Text.isBlank
  · rw [if_pos same, same]
    exact List.lookup_cons_self
  · rw [if_neg same]
    dsimp only
    rw [List.filterMap_nil, List.lookup_cons, beq_false_of_ne same, List.lookup_nil]

theorem Browser.trims_false (b : Browser) (c : Char) (filled : Text.isBlank c = false) : b.trims c = false := by
  apply Bool.eq_false_iff.mpr
  intro trimmed
  exact Bool.false_ne_true (filled.symm.trans (b.blank c trimmed))

-- Neither cut makes a name longer, so a name that comes out as it went in has been left alone by both.
theorem Browser.strip_twice_iff (b : Browser) (name : List Char) :
    name = (Text.strip b.trims name).dropWhile Text.isBlank ↔
      (∀ c ∈ name.head?, Text.isBlank c = false) ∧ ∀ c ∈ name.getLast?, b.trims c = false := by
  constructor
  · intro same
    have shorter := (List.dropWhile_sublist (l := Text.strip b.trims name) Text.isBlank).length_le
    rw [← same] at shorter
    have stripped := (Text.strip_sublist b.trims name).eq_of_length_le shorter
    rw [stripped] at same
    refine ⟨?_, ((Text.strip_eq_self_iff _ _).mp stripped).2⟩
    rw [same]
    exact Text.drop_while_first Text.isBlank name
  · rintro ⟨first, last⟩
    have kept : ∀ c ∈ name.head?, b.trims c = false := fun c head => b.trims_false c (first c head)
    rw [(Text.strip_eq_self_iff _ _).mpr ⟨kept, last⟩, (Text.drop_while_self_iff Text.isBlank name).mpr first]

theorem Browser.returns_iff (b : Browser) (name : String) :
    b.Returns name ↔ ';' ∉ name.toList ∧ '=' ∉ name.toList ∧
      name.toList = (Text.strip b.trims name.toList).dropWhile Text.isBlank := by
  rw [strip_twice_iff]
  constructor
  · rintro ⟨⟨single, plain, first⟩, last⟩
    exact ⟨single, plain, first, last⟩
  · rintro ⟨single, plain, first, last⟩
    exact ⟨⟨single, plain, first⟩, last⟩

theorem Browser.sent_pair (b : Browser) (c : SessionCookie) (single : ';' ∉ c.name.toList) (plain : '=' ∉ c.name.toList)
    (filled : Text.isBlankText c.name = false) (bare : IsBare c.value.toList) :
    b.sent? c.header = some (String.ofList (Text.strip b.trims c.name.toList ++ '=' :: c.value.toList)) := by
  obtain ⟨attributes, text⟩ := c.header_text
  have named : Text.strip b.trims c.name.toList ≠ [] := by
    intro empty
    have blank : Text.isBlankText c.name = true :=
      List.all_eq_true.mpr fun d member => b.blank d ((Text.strip_eq_nil_iff _ _).mp empty d member)
    cases filled.symm.trans blank
  have value : Text.strip b.trims c.value.toList = c.value.toList :=
    Text.strip_kept _ _ fun d member => b.trims_false d (bare d member).2
  rw [sent?, kept?, text, Text.before_mark _ _ _ (pair_single _ _ single bare) (by simp), Text.cut_mark '=' _ _ plain]
  dsimp only
  rw [if_neg named, value]
  rfl

theorem Browser.find_sent (b : Browser) (c : SessionCookie) (single : ';' ∉ c.name.toList) (plain : '=' ∉ c.name.toList)
    (filled : Text.isBlankText c.name = false) (bare : IsBare c.value.toList) :
    find? (b.sent? c.header) c.name =
      if c.name.toList = (Text.strip b.trims c.name.toList).dropWhile Text.isBlank then some c.value else none := by
  have inside := Text.strip_subset b.trims c.name.toList
  have found := find_alone c.name.toList (Text.strip b.trims c.name.toList) c.value.toList
    (fun member => single (inside ';' member)) (fun member => plain (inside '=' member)) bare
  rw [b.sent_pair c single plain filled bare, find?, Option.bind_some, String.toList_ofList, found]
  split
  · rw [Option.map_some, String.ofList_toList]
  · rfl

theorem Browser.find_returned (b : Browser) (c : SessionCookie) (filled : Text.isBlankText c.name = false)
    (bare : IsBare c.value.toList) (returns : b.Returns c.name) : find? (b.sent? c.header) c.name = some c.value := by
  obtain ⟨single, plain, same⟩ := (b.returns_iff c.name).mp returns
  rw [b.find_sent c single plain filled bare, if_pos same]

theorem Browser.find_lost (b : Browser) (c : SessionCookie) (filled : Text.isBlankText c.name = false)
    (bare : IsBare c.value.toList) (lost : ¬ b.Returns c.name) : find? (b.sent? c.header) c.name = none := by
  by_cases carried : IsName c.name.toList
  · rw [b.find_sent c carried.single carried.plain filled bare, if_neg]
    exact fun same => lost ((b.returns_iff c.name).mpr ⟨carried.single, carried.plain, same⟩)
  · apply Option.eq_none_iff_forall_ne_some.mpr
    exact fun value found => carried (found_name _ _ value found)

end LoginGateway.Cookie
