import LoginGateway.Config
import LoginGateway.Proofs.Text.Blank
import LoginGateway.Proofs.Text.Split

/-!
Lists of secrets in one text: what stands between the commas, without the blanks around it, and without what is blank
altogether. Reading finds the secrets that were listed, in their order.
-/
set_option autoImplicit false

namespace LoginGateway.Config

def AllBlank (cs : List Char) : Prop := ∀ c ∈ cs, Text.isBlank c

instance : DecidablePred AllBlank := fun cs => decidable_of_iff (cs.all Text.isBlank) List.all_eq_true

-- The entries between the commas: each secret in its place with blanks around it, and entries of blanks anywhere.
inductive Entries : List String → List (List Char) → Prop where
  | nil : Entries [] []
  | blank {secrets entries} (entry : List Char) (blank : AllBlank entry) (later : Entries secrets entries) :
      Entries secrets (entry :: entries)
  | secret {secrets entries} (lead trail : List Char) (secret : String) (before : AllBlank lead) (after : AllBlank trail)
      (later : Entries secrets entries) : Entries (secret :: secrets) ((lead ++ secret.toList ++ trail) :: entries)

def Lists (secrets : List String) (text : String) : Prop :=
  ∃ entries, text.toList = [','].intercalate entries ∧ Entries secrets entries

structure IsEntry (secret : String) : Prop where
  given : secret.toList ≠ []
  bare : Text.trim secret.toList = secret.toList
  whole : ',' ∉ secret.toList

def kept? (entry : List Char) : Option String :=
  if (Text.trim entry).isEmpty then none else some (String.ofList (Text.trim entry))

theorem secret_list_entries (text : String) : secretList text = (text.toList.splitOn ',').filterMap kept? :=
  List.filterMap_map

theorem kept_blank (entry : List Char) (blank : AllBlank entry) : kept? entry = none :=
  if_pos (List.isEmpty_iff.mpr ((Text.strip_eq_nil_iff _ entry).mpr blank))

theorem kept_secret (lead trail : List Char) (secret : String) (before : AllBlank lead) (after : AllBlank trail)
    (filled : Text.isBlankText secret = false) : kept? (lead ++ secret.toList ++ trail) = some (Text.trimmed secret) := by
  have same : Text.trim (lead ++ secret.toList ++ trail) = Text.trim secret.toList :=
    Text.strip_around Text.isBlank lead secret.toList trail before after
  have nonempty : Text.trim secret.toList ≠ [] := by
    intro empty
    rw [Text.isBlankText, List.all_eq_true.mpr ((Text.strip_eq_nil_iff _ _).mp empty)] at filled
    cases filled
  rw [kept?, same, if_neg (by simpa using nonempty)]
  rfl

theorem kept_of_entries (secrets : List String) (entries : List (List Char)) (listed : Entries secrets entries)
    (filled : ∀ s ∈ secrets, Text.isBlankText s = false) : entries.filterMap kept? = secrets.map Text.trimmed := by
  induction listed with
  | nil => rfl
  | blank entry blank _ ih => rw [List.filterMap_cons_none (kept_blank entry blank), ih filled]
  | secret lead trail secret before after _ ih =>
      obtain ⟨first, others⟩ := List.forall_mem_cons.mp filled
      rw [List.filterMap_cons_some (kept_secret lead trail secret before after first), ih others, List.map_cons]

theorem entries_of_kept (entries : List (List Char)) : Entries (entries.filterMap kept?) entries := by
  induction entries with
  | nil => exact .nil
  | cons entry entries ih =>
      by_cases empty : (Text.trim entry).isEmpty
      · have blank : AllBlank entry := (Text.strip_eq_nil_iff _ entry).mp (List.isEmpty_iff.mp empty)
        rw [List.filterMap_cons_none (kept_blank entry blank)]
        exact .blank entry blank ih
      · have kept : kept? entry = some (String.ofList (Text.trim entry)) := if_neg empty
        obtain ⟨lead, trail, whole, before, after⟩ := Text.strip_parts Text.isBlank entry
        rw [← Text.trim] at whole
        have listed := Entries.secret lead trail (String.ofList (Text.trim entry)) before after ih
        rw [String.toList_ofList, ← whole] at listed
        rwa [List.filterMap_cons_some kept]

theorem comma_filled : Text.isBlank ',' = false := by decide

theorem entries_without_comma (secrets : List String) (entries : List (List Char)) (listed : Entries secrets entries)
    (whole : ∀ s ∈ secrets, ',' ∉ s.toList) : ∀ entry ∈ entries, ',' ∉ entry := by
  have outside (cs : List Char) (blank : AllBlank cs) : ',' ∉ cs := by
    intro member
    have blankComma := blank ',' member
    rw [comma_filled] at blankComma
    cases blankComma
  induction listed with
  | nil => simp
  | blank entry blank _ ih => exact List.forall_mem_cons.mpr ⟨outside entry blank, ih whole⟩
  | secret lead trail secret before after _ ih =>
      obtain ⟨first, others⟩ := List.forall_mem_cons.mp whole
      refine List.forall_mem_cons.mpr ⟨?_, ih others⟩
      simp only [List.mem_append, not_or]
      exact ⟨⟨outside lead before, first⟩, outside trail after⟩

theorem secret_list_listed (secrets : List String) (text : String) (listed : Lists secrets text)
    (whole : ∀ s ∈ secrets, ',' ∉ s.toList) (filled : ∀ s ∈ secrets, Text.isBlankText s = false) :
    secretList text = secrets.map Text.trimmed := by
  obtain ⟨entries, joined, listed⟩ := listed
  rw [secret_list_entries, joined]
  cases entries with
  | nil => cases listed; rfl
  | cons entry entries =>
      rw [List.splitOn_intercalate _ (entries_without_comma _ _ listed whole) (by simp)]
      exact kept_of_entries _ _ listed filled

theorem IsEntry.filled {secret : String} (entry : IsEntry secret) : Text.isBlankText secret = false := by
  apply eq_false_of_ne_true
  intro blank
  have empty := (Text.strip_eq_nil_iff Text.isBlank secret.toList).mpr (List.all_eq_true.mp blank)
  exact entry.given (entry.bare.symm.trans empty)

theorem IsEntry.trimmed {secret : String} (entry : IsEntry secret) : Text.trimmed secret = secret := by
  rw [Text.trimmed, entry.bare, String.ofList_toList]

theorem kept_entry (entry : List Char) (secret : String) (whole : ',' ∉ entry) (kept : kept? entry = some secret) :
    IsEntry secret := by
  obtain ⟨filled, same⟩ := Option.ite_none_left_eq_some.mp kept
  cases same
  refine ⟨?_, ?_, ?_⟩
  · simpa using filled
  · rw [String.toList_ofList]
    exact Text.strip_strip _ entry
  · rw [String.toList_ofList]
    exact fun member => whole (Text.strip_subset _ entry _ member)

theorem secret_list_iff (text : String) (secrets : List String) :
    secretList text = secrets ↔ Lists secrets text ∧ ∀ s ∈ secrets, IsEntry s := by
  constructor
  · rintro rfl
    rw [secret_list_entries]
    refine ⟨⟨text.toList.splitOn ',', (List.intercalate_splitOn ',').symm, entries_of_kept _⟩, ?_⟩
    intro secret member
    obtain ⟨entry, among, kept⟩ := List.mem_filterMap.mp member
    refine kept_entry entry secret (fun inside => ?_) kept
    have marked := (Text.split_members (· == ',') text.toList entry among ',' inside).2
    cases marked
  · rintro ⟨listed, entries⟩
    have same : secrets.map Text.trimmed = secrets.map id :=
      List.map_congr_left fun s member => (entries s member).trimmed
    rw [secret_list_listed secrets text listed (fun s member => (entries s member).whole)
      (fun s member => (entries s member).filled), same, List.map_id]

end LoginGateway.Config
