import Mathlib.Data.List.DropRight
import LoginGateway.Proofs.ReturnUrl
import LoginGateway.Proofs.Url.Reader

/-!
Which paths are returned to as they were asked for. A target that is a path gives its place, unless there is harm
in it; and whatever a target is, the place that it gives is settled, so that to restrict or to derive it once more
changes nothing.
-/
set_option autoImplicit false

namespace LoginGateway.ReturnUrl

-- What a target says of where to return to: all in front of its first '#', less the blanks at the end.
def place (target : String) : String :=
  String.ofList ((target.toList.takeWhile (· ≠ '#')).rdropWhile Text.isBlank)

-- A path that cannot be taken for the address of another host, for another text or for too long a one.
structure IsHarmless (path : String) : Prop where
  apart : ¬ ['/', '/'] <+: path.toList
  short : path.utf8ByteSize ≤ 2048
  relative : ¬ [':', '/', '/'] <:+: path.toList
  clear : ∀ c ∈ path.toList, c ≠ '\\' ∧ Text.isControl c = false ∧ Text.isBlank c = false

theorem harmless_iff (rest : List Char) : IsHarmless (String.ofList ('/' :: rest)) ↔ isLocal ('/' :: rest) := by
  have ahead : (∃ others, '/' :: rest = '/' :: others ∧ ∀ c ∈ others.head?, c ≠ '/') ↔ ¬ ['/', '/'] <+: '/' :: rest := by
    rw [List.cons_prefix_cons]
    cases rest with
    | nil => simp
    | cons c others => simp [List.cons_prefix_cons, eq_comm]
  rw [is_local_iff, ahead, Text.Utf8.byte_length_of_list]
  constructor
  · intro harmless
    obtain ⟨apart, short, relative, clear⟩ := harmless
    rw [String.toList_ofList] at apart relative clear
    exact ⟨apart, short, relative, clear⟩
  · intro safe
    obtain ⟨apart, short, relative, clear⟩ := safe
    exact ⟨by rwa [String.toList_ofList], short, by rwa [String.toList_ofList], by rwa [String.toList_ofList]⟩

theorem without_fragment_rooted (rest : List Char) : withoutFragment ('/' :: rest) = '/' :: withoutFragment rest := rfl

theorem restrict_without_fragment (cs : List Char) : restrict (withoutFragment cs) = restrict cs := by
  have whole : withoutFragment (withoutFragment cs) = withoutFragment cs := by
    have kept := Text.before_mark '#' (withoutFragment cs) [] (without_fragment_clear cs) (by simp)
    simpa [withoutFragment] using kept
  rw [restrict, restrict, whole]

theorem of_target_rooted (rest : List Char) : ofTarget ('/' :: rest) = restrict ('/' :: rest) := by
  rw [ofTarget, without_fragment_rooted, Url.read_rooted, ← without_fragment_rooted]
  exact restrict_without_fragment _

-- The slash stays, so that blanks are taken off the end alone.
theorem trimmed_rooted (rest : List Char) :
    ∃ others, Text.trim (withoutFragment ('/' :: rest)) = '/' :: others ∧
      place (String.ofList ('/' :: rest)) = String.ofList ('/' :: others) := by
  obtain ⟨others, stripped⟩ := Text.strip_cons Text.isBlank '/' (withoutFragment rest) (by decide)
  have ended : ('/' :: withoutFragment rest).rdropWhile Text.isBlank = '/' :: others := by
    rw [← stripped, Text.strip_eq, List.dropWhile_cons_of_neg (by decide)]
  refine ⟨others, by rw [without_fragment_rooted, Text.trim, stripped], ?_⟩
  rw [place, String.toList_ofList, ← ended, ← without_fragment_rooted]
  simp [withoutFragment, Text.before]

theorem derived_rooted (target : String) (rest : List Char) (rooted : target.toList = '/' :: rest) :
    (IsHarmless (place target) → derived target = place target) ∧
      (¬ IsHarmless (place target) → derived target = "/") := by
  obtain ⟨others, trimmed, placed⟩ := trimmed_rooted rest
  have same : target = String.ofList ('/' :: rest) := by rw [← rooted, String.ofList_toList]
  rw [derived, rooted, of_target_rooted, same, placed, harmless_iff, restrict, trimmed]
  constructor
  · intro safe
    rw [if_pos safe]
  · intro harmful
    rw [if_neg harmful]
    rfl

theorem derived_on_site (target : String) : OnSite (derived target) := by
  rw [← restricted_derived target]
  exact restrict_on_site _

theorem derived_of_on_site (path : String) (safe : OnSite path) : derived path = path := by
  obtain ⟨rest, rooted, _⟩ := safe.rooted
  have kept := (restricted_eq_self_iff path).mpr safe
  rw [restricted, rooted] at kept
  rw [derived, rooted, of_target_rooted, kept]

theorem place_settled (x : String) :
    (∀ rest, x.toList = '/' :: rest →
      (IsHarmless (place x) → derived x = place x) ∧ (¬ IsHarmless (place x) → derived x = "/")) ∧
    restricted (restricted x) = restricted x ∧
    derived (derived x) = derived x ∧
    restricted (derived x) = derived x := by
  have once : OnSite (restricted x) := restrict_on_site x.toList
  refine ⟨derived_rooted x, ?_, ?_, ?_⟩
  · exact (restricted_eq_self_iff _).mpr once
  · exact derived_of_on_site _ (derived_on_site x)
  · exact restricted_derived x

theorem place_settled_past_blanks :
    "/é?q=1\u3000#x".toList = '/' :: "é?q=1\u3000#x".toList ∧ IsHarmless (place "/é?q=1\u3000#x") ∧
      derived "/é?q=1\u3000#x" = "/é?q=1" := by
  have rooted : "/é?q=1\u3000#x".toList = '/' :: "é?q=1\u3000#x".toList := rfl
  have kept : place "/é?q=1\u3000#x" = "/é?q=1" := by cbv
  have harmless : IsHarmless (place "/é?q=1\u3000#x") := by
    rw [kept]
    have colonless : ':' ∉ "/é?q=1".toList := by simp
    exact ⟨by decide, by decide, fun inside => colonless (inside.subset (by simp)),
      by simp [Text.isControl, Text.isBlank]⟩
  refine ⟨rooted, harmless, ?_⟩
  rw [((place_settled "/é?q=1\u3000#x").1 _ rooted).1 harmless, kept]

end LoginGateway.ReturnUrl
