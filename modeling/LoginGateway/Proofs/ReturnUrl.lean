import LoginGateway.ReturnUrl
import LoginGateway.Proofs.Text.Blank
import LoginGateway.Proofs.Text.Split
import LoginGateway.Proofs.Text.Utf8

/-!
A place to return to is restricted once: what has been found safe is left as it is. What is safe is
told by `OnSite`, in terms of what a browser makes of the text; nothing else is left as it is.
-/
set_option autoImplicit false

namespace LoginGateway.ReturnUrl

theorem without_fragment_clear (cs : List Char) : '#' ∉ withoutFragment cs := by
  intro member
  have kept := List.all_takeWhile (p := fun c => !decide (c = '#')) (l := cs)
  rw [List.all_eq_true] at kept
  simpa using kept '#' member

theorem restrict_local (cs : List Char) (safe : isLocal cs) (clear : '#' ∉ cs) : restrict cs = cs := by
  have whole : withoutFragment cs = cs := by
    have kept := Text.before_mark '#' cs [] clear (by simp)
    simpa [withoutFragment] using kept
  have filled : ∀ c ∈ cs, Text.isBlank c = false := by
    rw [isLocal] at safe
    simp only [Bool.and_eq_true, Bool.not_eq_true', List.any_eq_false, isUnsafe, Bool.or_eq_true, not_or] at safe
    intro c member
    simpa using (safe.2 c member).2
  have trimmed : Text.trim cs = cs := Text.strip_kept Text.isBlank cs filled
  rw [restrict, whole, trimmed, if_pos safe]

theorem restrict_restrict (cs : List Char) : restrict (restrict cs) = restrict cs := by
  by_cases safe : isLocal (Text.trim (withoutFragment cs))
  · have once : restrict cs = Text.trim (withoutFragment cs) := if_pos safe
    have clear : '#' ∉ Text.trim (withoutFragment cs) := fun member =>
      without_fragment_clear cs (Text.strip_subset _ _ '#' member)
    rw [once]
    exact restrict_local _ safe clear
  · have once : restrict cs = root := if_neg safe
    rw [once]
    rfl

theorem restricted_derived (target : String) : restricted (derived target) = derived target := by
  have again : restrict (ofTarget target.toList) = ofTarget target.toList := by
    rw [ofTarget]
    cases Url.read (withoutFragment target.toList) with
    | error e => exact restrict_restrict _
    | ok address => exact restrict_restrict _
  rw [restricted, derived, String.toList_ofList, again]

-- An address as a browser reads it: without blanks and controls around it, and without line breaks.
def seen (cs : List Char) : List Char := Url.joinLines (Text.strip Url.isSpaceOrControl cs)

-- A path of the site that stands in its address as it is: a browser takes it neither for another text
-- nor for the address of another host.
structure OnSite (location : String) : Prop where
  whole : seen location.toList = location.toList
  rooted : ∃ rest, location.toList = '/' :: rest ∧ ∀ c ∈ rest.head?, c ≠ '/' ∧ c ≠ '\\'
  clear : ∀ c ∈ location.toList, c ≠ '\\' ∧ c ≠ '#' ∧ Text.isBlank c = false ∧ Text.isControl c = false
  relative : ¬ [':', '/', '/'] <:+: location.toList
  short : location.utf8ByteSize ≤ 2048

theorem seen_clear (cs : List Char) (clear : ∀ c ∈ cs, Text.isBlank c = false ∧ Text.isControl c = false) : seen cs = cs := by
  have visible : ∀ c ∈ cs, Url.isSpaceOrControl c = false ∧ Url.isLineBreak c = false := by
    intro c member
    obtain ⟨filled, printed⟩ := clear c member
    have space : c.toNat ≠ 0x20 := by
      intro same
      simp [Text.isBlank, same] at filled
    have control : ¬ c.toNat < 0x20 := by
      intro low
      simp [Text.isControl, low] at printed
    have differs (d : Char) (low : d.toNat < 0x20) : c ≠ d := by
      rintro rfl
      exact control low
    have high : ¬ c.toNat ≤ 0x20 := by omega
    simp [Url.isSpaceOrControl, Url.isLineBreak, high, differs '\t' (by decide), differs '\n' (by decide),
      differs '\r' (by decide)]
  have stripped := Text.strip_kept Url.isSpaceOrControl cs fun c member => (visible c member).1
  rw [seen, stripped, Url.joinLines, List.filter_eq_self]
  intro c member
  simp [(visible c member).2]

theorem is_local_iff (cs : List Char) :
    isLocal cs ↔ (∃ rest, cs = '/' :: rest ∧ ∀ c ∈ rest.head?, c ≠ '/') ∧ Text.Utf8.byteLength cs ≤ maxLength ∧
      ¬ [':', '/', '/'] <:+: cs ∧ ∀ c ∈ cs, c ≠ '\\' ∧ Text.isControl c = false ∧ Text.isBlank c = false := by
  have relative : Text.contains [':', '/', '/'] cs = false ↔ ¬ [':', '/', '/'] <:+: cs := by
    rw [← Text.contains_iff_infix, Bool.not_eq_true]
  have rooted : cs.head? = some '/' ∧ ['/', '/'].isPrefixOf cs = false ↔
      ∃ rest, cs = '/' :: rest ∧ ∀ c ∈ rest.head?, c ≠ '/' := by
    constructor
    · rintro ⟨first, apart⟩
      obtain ⟨rest, rfl⟩ := List.head?_eq_some_iff.mp first
      refine ⟨rest, rfl, fun c head same => ?_⟩
      obtain ⟨others, rfl⟩ := List.head?_eq_some_iff.mp head
      simp [List.isPrefixOf, same] at apart
    · rintro ⟨rest, rfl, ahead⟩
      refine ⟨rfl, ?_⟩
      cases rest with
      | nil => rfl
      | cons c others => simp [List.isPrefixOf, Ne.symm (ahead c rfl)]
  rw [← rooted]
  simp only [isLocal, Bool.and_eq_true, decide_eq_true_eq, Bool.not_eq_true', List.any_eq_false, isUnsafe,
    Bool.or_eq_true, not_or, Bool.not_eq_true, relative, and_assoc, ne_eq]

theorem on_site_iff (cs : List Char) : OnSite (String.ofList cs) ↔ isLocal cs ∧ '#' ∉ cs := by
  rw [is_local_iff, Text.Utf8.byte_length_of_list]
  constructor
  · rintro ⟨_, ⟨rest, rooted, ahead⟩, clear, relative, short⟩
    rw [String.toList_ofList] at rooted clear relative
    refine ⟨⟨⟨rest, rooted, fun c head => (ahead c head).1⟩, short, relative, fun c member => ?_⟩, fun mark => ?_⟩
    · obtain ⟨slash, _, filled, printed⟩ := clear c member
      exact ⟨slash, printed, filled⟩
    · exact (clear '#' mark).2.1 rfl
  · rintro ⟨⟨⟨rest, rooted, ahead⟩, short, relative, clear⟩, mark⟩
    have filled : ∀ c ∈ cs, Text.isBlank c = false ∧ Text.isControl c = false :=
      fun c member => ⟨(clear c member).2.2, (clear c member).2.1⟩
    refine ⟨?_, ⟨rest, ?_, fun c head => ⟨ahead c head, ?_⟩⟩, fun c member => ?_, ?_, short⟩
    · rw [String.toList_ofList, seen_clear cs filled]
    · rw [String.toList_ofList, rooted]
    · exact (clear c (rooted ▸ List.mem_cons_of_mem _ (List.mem_of_head? head))).1
    · rw [String.toList_ofList] at member
      exact ⟨(clear c member).1, fun same => mark (same ▸ member), filled c member⟩
    · rw [String.toList_ofList]
      exact relative

theorem restrict_on_site (cs : List Char) : OnSite (String.ofList (restrict cs)) := by
  apply (on_site_iff _).mpr
  by_cases safe : isLocal (Text.trim (withoutFragment cs))
  · have kept : restrict cs = Text.trim (withoutFragment cs) := if_pos safe
    rw [kept]
    exact ⟨safe, fun member => without_fragment_clear cs (Text.strip_subset _ _ '#' member)⟩
  · have dropped : restrict cs = root := if_neg safe
    rw [dropped]
    exact ⟨by decide, by decide⟩

theorem restricted_eq_self_iff (returnUrl : String) : restricted returnUrl = returnUrl ↔ OnSite returnUrl := by
  constructor
  · intro kept
    rw [← kept]
    exact restrict_on_site returnUrl.toList
  · intro onSite
    rw [← String.ofList_toList (s := returnUrl), on_site_iff] at onSite
    rw [restricted, restrict_local _ onSite.1 onSite.2, String.ofList_toList]

end LoginGateway.ReturnUrl
