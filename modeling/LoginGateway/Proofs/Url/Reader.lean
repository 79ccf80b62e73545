import LoginGateway.Url.Reader
import LoginGateway.Proofs.Error
import LoginGateway.Proofs.Text.Blank
import LoginGateway.Proofs.Text.Split
import LoginGateway.Proofs.Url.Host
import LoginGateway.Proofs.Url.Path

/-!
What an address is written with. Nothing in front of the query holds the mark of a query or of a fragment,
and no query holds the mark of a fragment, so the written address is cut again where it was put together;
and no part of it holds a control, whatever the text was that it was read from. A path alone is not read.
-/
set_option autoImplicit false

namespace LoginGateway.Url

theorem plain_path_visible (c : Char) (plain : isPlainPath c) : Percent.isVisible c := by
  simp only [isPlainPath, isPlainFragment, Bool.and_eq_true] at plain
  exact plain.1.1

theorem plain_user_visible (c : Char) (plain : isPlainUser c) : Percent.isVisible c := by
  rw [isPlainUser, Bool.and_eq_true] at plain
  exact plain_path_visible c plain.1

theorem authority_clean (scheme cs left : List Char) (followed : Bool) (a : Authority)
    (read : readAuthority scheme cs followed = .ok (a, left)) : Clean a.text := by
  have user (text : List Char) : Clean (Percent.encode isPlainUser text) :=
    escaped_clean isPlainUser text fun c _ kept =>
      ⟨part_of_test isPlainUser (by decide) (by decide) c kept, visible_printed c (plain_user_visible c kept)⟩
  rw [readAuthority] at read
  obtain ⟨_, _, read⟩ := bind_ok _ _ _ read
  obtain ⟨_, _, read⟩ := bind_ok _ _ _ read
  dsimp only at read
  split at read
  all_goals
    obtain ⟨host, hostRead, read⟩ := bind_ok _ _ _ read
    obtain ⟨_, _, read⟩ := bind_ok _ _ _ read
    obtain ⟨⟨port, rest⟩, _, read⟩ := bind_ok _ _ _ read
    obtain ⟨_, _, read⟩ := bind_ok _ _ _ read
    cases read
  · exact authority_text_clean _ (user _) (user _) (special_clean _ host hostRead)
  · exact authority_text_clean _ (user _) (user _) (other_clean _ host hostRead)

theorem take_path_clean (k : Kind) (pieces : List (List Char)) :
    ∀ segment ∈ (takePath k pieces).segments, Clean segment := by
  apply Path.take_clean _ _ _ (by simp [Path.nothing])
  intro lines among line inside
  obtain ⟨cs, _, rfl⟩ := List.mem_map.mp among
  obtain ⟨text, _, rfl⟩ := List.mem_map.mp inside
  exact escaped_clean isPlainPath text fun c _ kept =>
    ⟨part_of_test isPlainPath (by decide) (by decide) c kept, visible_printed c (plain_path_visible c kept)⟩

theorem segments_clean (k : Kind) (cs : List Char) : Clean (Path.segments (segments k cs)).toText :=
  Path.segments_text_clean _ fun part member => take_path_clean k _ part (List.mem_reverse.mp member)

theorem path_after_clean (k : Kind) (cs : List Char) : Clean (pathAfter k cs).toText := by
  rw [pathAfter]
  by_cases absent : k = .other && cs.isEmpty
  · rw [if_pos absent]
    exact clean_nil
  · rw [if_neg absent]
    exact segments_clean k _

def AreClean (read : Option Authority × Path) : Prop :=
  (∀ a, read.1 = some a → Clean a.text) ∧ Clean read.2.toText

theorem hosted_parts_clean (scheme cs : List Char) (followed : Bool) (parts : Option Authority × Path)
    (read : readHosted scheme cs followed = .ok parts) : AreClean parts := by
  obtain ⟨⟨a, left⟩, authority, read⟩ := bind_ok _ _ _ read
  cases read
  refine ⟨?_, path_after_clean _ _⟩
  intro found given
  cases given
  exact authority_clean _ _ _ _ _ authority

theorem file_host_clean (cs : List Char) (h : Host) (read : readFileHost cs = .ok h) : Clean h.text := by
  rw [readFileHost] at read
  by_cases absent : cs.isEmpty
  · rw [if_pos absent] at read
    cases read
    exact clean_nil
  · rw [if_neg absent] at read
    obtain ⟨host, special, made⟩ := map_ok _ _ _ read
    subst made
    by_cases here : host = .name "localhost".toList
    · rw [if_pos here]
      exact clean_nil
    · rw [if_neg here]
      exact special_clean cs host special

theorem file_authority_clean (cs : List Char) (pieces rest : List (List Char)) (h : Host)
    (read : readFileAuthority cs pieces = .ok (h, rest)) : Clean h.text := by
  rw [readFileAuthority] at read
  by_cases drive : Path.isDrive (joinLines cs)
  · rw [if_pos drive] at read
    cases read
    exact clean_nil
  · rw [if_neg drive] at read
    obtain ⟨host, found, made⟩ := map_ok _ _ _ read
    cases made
    exact file_host_clean _ _ found

theorem split_file_clean (pieces rest : List (List Char)) (h : Host) (read : splitFile pieces = .ok (h, rest)) :
    Clean h.text := by
  unfold splitFile at read
  split at read
  · rename_i first second third others
    by_cases filled : !isBlankLine first
    · rw [if_pos filled] at read
      cases read
      exact clean_nil
    · rw [if_neg filled] at read
      by_cases slashes : isBlankLine second
      · rw [if_pos slashes] at read
        exact file_authority_clean third others rest h read
      · rw [if_neg slashes] at read
        cases read
        exact clean_nil
  · cases read
    exact clean_nil
  · cases read
    exact clean_nil

theorem file_parts_clean (cs : List Char) (parts : Option Authority × Path) (read : readFile cs = .ok parts) :
    AreClean parts := by
  obtain ⟨⟨host, pieces⟩, split, read⟩ := bind_ok _ _ _ read
  cases read
  constructor
  · intro a given
    cases given
    have kept : Clean (if (takePath .file pieces).isLocal then noHost else host).text := by
      by_cases here : (takePath .file pieces).isLocal
      · rw [if_pos here]
        exact clean_nil
      · rw [if_neg here]
        exact split_file_clean _ _ _ split
    exact authority_text_clean _ clean_nil clean_nil kept
  · apply Path.segments_text_clean
    apply Path.collapse_clean
    intro part member
    exact take_path_clean _ _ part (List.mem_reverse.mp member)

theorem other_parts_clean (scheme cs : List Char) (followed : Bool) (clear : Unmarked cs) (parts : Option Authority × Path)
    (read : readOther scheme cs followed = .ok parts) : AreClean parts := by
  unfold readOther at read
  split at read
  · exact hosted_parts_clean _ _ _ parts read
  · cases read
    exact ⟨by simp, segments_clean _ _⟩
  · cases read
    exact ⟨by simp, escaped_clean _ cs fun c member visible => ⟨clear c member, visible_printed c visible⟩⟩

theorem base_parts_clean (scheme body : List Char) (followed : Bool) (clear : Unmarked body) (parts : Option Authority × Path)
    (read : readBase scheme body followed = .ok parts) : AreClean parts := by
  have joined : Unmarked (joinLines body) := fun c member => clear c (List.mem_filter.mp member).1
  rw [readBase] at read
  cases family : kind scheme with
  | web => rw [family] at read; exact hosted_parts_clean _ _ _ parts read
  | file => rw [family] at read; exact file_parts_clean _ parts read
  | other => rw [family] at read; exact other_parts_clean _ _ _ joined parts read

theorem base_clean (u : Url) (scheme : Clean u.scheme) (clear : AreClean (u.authority, u.path)) :
    Clean u.base := by
  rw [base]
  apply clean_append _ _ scheme
  apply clean_cons ':' _ (by decide)
  cases given : u.authority with
  | some a =>
      have slash : IsClean '/' := by decide
      exact clean_cons '/' _ slash (clean_cons '/' _ slash (clean_append _ _ (clear.1 a given) clear.2))
  | none =>
      dsimp only
      unfold guarded
      split
      · exact clean_cons '/' _ (by decide) (clean_cons '.' _ (by decide) clear.2)
      · exact clear.2

theorem lower_cases (c : Char) : c.toLower = c ∨ 97 ≤ c.toLower.toNat ∧ c.toLower.toNat ≤ 122 := by
  delta Char.toLower
  split
  · rename_i upper
    have least : 65 ≤ c.val.toNat := UInt32.le_iff_toNat_le.mp upper.1
    have most : c.val.toNat ≤ 90 := UInt32.le_iff_toNat_le.mp upper.2
    have shift : ('a'.val - 'A'.val).toNat = 32 := rfl
    right
    change 97 ≤ (c.val + ('a'.val - 'A'.val)).toNat ∧ (c.val + ('a'.val - 'A'.val)).toNat ≤ 122
    rw [UInt32.toNat_add]
    omega
  · exact .inl rfl

theorem letter_clean (c : Char) (least : 97 ≤ c.toNat) (most : c.toNat ≤ 122) : IsClean c := by
  refine ⟨⟨?_, ?_⟩, visible_printed c ?_⟩
  · rintro rfl
    exact absurd least (by decide)
  · rintro rfl
    exact absurd least (by decide)
  · simp only [Percent.isVisible, Bool.and_eq_true, decide_eq_true_eq]
    omega

theorem lower_scheme_clean (c : Char) (inScheme : isSchemeChar c) : IsClean c.toLower := by
  rcases lower_cases c with same | ⟨least, most⟩
  · rw [same]
    exact ⟨part_of_test isSchemeChar (by decide) (by decide) c inScheme, Text.printed_of_test isSchemeChar (by decide) c inScheme⟩
  · exact letter_clean _ least most

theorem scheme_clean (cs scheme rest : List Char) (found : scheme? cs = some (scheme, rest)) : Clean scheme := by
  rw [scheme?] at found
  cases cut : Text.cut? (· = ':') cs with
  | none => rw [cut] at found; cases found
  | some parts =>
      rw [cut] at found
      dsimp only at found
      by_cases test : (joinLines parts.1).all isSchemeChar && (joinLines parts.1).head?.any Char.isAlpha
      · rw [if_pos test] at found
        cases found
        intro c member
        obtain ⟨d, inside, rfl⟩ := List.mem_map.mp member
        rw [Bool.and_eq_true, List.all_eq_true] at test
        exact lower_scheme_clean d (test.1 d inside)
      · rw [if_neg test] at found
        cases found

theorem cut_off_clear (mark : Char) (cs : List Char) :
    mark ∉ (cutOff mark cs).1 ∧ ∀ c ∈ (cutOff mark cs).1, c ∈ cs := by
  rw [cutOff]
  cases found : Text.cut? (· = mark) cs with
  | none =>
      refine ⟨fun member => ?_, fun _ member => member⟩
      simpa using Text.cut_eq_none _ _ found mark member
  | some parts =>
      obtain ⟨front, rest⟩ := parts
      obtain ⟨x, _, whole, clear⟩ := Text.cut_eq_some _ _ _ _ found
      refine ⟨fun member => ?_, fun c member => by rw [whole]; exact List.mem_append_left _ member⟩
      simpa using clear mark member

theorem query_printed (k : Kind) (cs : List Char) :
    ∀ c ∈ Percent.encode (isPlainQuery k) cs, c ≠ '#' ∧ Text.isControl c = false := by
  have escaped : isPlainQuery k '#' = false := by cases k <;> decide
  apply Percent.encode_all _ (fun c => c ≠ '#' ∧ Text.isControl c = false) (by decide) (by decide)
  intro c _ kept
  constructor
  · rintro rfl
    cases escaped.symm.trans kept
  · simp only [isPlainQuery, Bool.and_eq_true] at kept
    exact visible_printed c kept.1.1

theorem fragment_printed (cs : List Char) : ∀ c ∈ Percent.encode isPlainFragment cs, Text.isControl c = false := by
  apply Percent.encode_all _ (fun c => Text.isControl c = false) (by decide) (by decide)
  intro c _ kept
  exact visible_printed c ((Bool.and_eq_true _ _).mp kept).1

structure Written (u : Url) : Prop where
  base : Clean u.base
  query : ∀ query, u.query = some query → ∀ c ∈ query, c ≠ '#' ∧ Text.isControl c = false
  fragment : ∀ fragment, u.fragment = some fragment → ∀ c ∈ fragment, Text.isControl c = false

theorem read_written (cs : List Char) (u : Url) (found : read cs = .ok u) : Written u := by
  rw [read] at found
  split at found
  · cases found
  · rename_i scheme rest start
    obtain ⟨⟨authority, path⟩, body, found⟩ := bind_ok _ _ _ found
    cases found
    obtain ⟨noHash, inFront⟩ := cut_off_clear '#' rest
    obtain ⟨noQuery, inBody⟩ := cut_off_clear '?' (cutOff '#' rest).1
    have clear : Unmarked (cutOff '?' (cutOff '#' rest).1).1 := fun c member =>
      ⟨fun same => noQuery (same ▸ member), fun same => noHash (same ▸ inBody c member)⟩
    refine ⟨base_clean _ (scheme_clean _ _ _ start) (base_parts_clean _ _ _ clear _ body), ?_, ?_⟩
    · intro query given
      obtain ⟨text, _, rfl⟩ := Option.map_eq_some_iff.mp given
      exact query_printed _ _
    · intro fragment given
      obtain ⟨text, _, rfl⟩ := Option.map_eq_some_iff.mp given
      exact fragment_printed _

theorem read_unmarked (cs : List Char) (u : Url) (found : read cs = .ok u) :
    Unmarked u.base ∧ ∀ query, u.query = some query → '#' ∉ query := by
  obtain ⟨base, query, _⟩ := read_written cs u found
  exact ⟨fun c member => (base c member).1, fun own given member => (query own given '#' member).1 rfl⟩

theorem scheme_rooted (cs : List Char) : scheme? ('/' :: cs) = none := by
  cases cut : Text.cut? (· = ':') ('/' :: cs) with
  | none => rw [scheme?, cut]
  | some parts =>
      obtain ⟨front, rest⟩ := parts
      obtain ⟨mark, marked, whole, _⟩ := Text.cut_eq_some _ _ front rest cut
      have slash : (joinLines front).head?.any Char.isAlpha = false := by
        cases front with
        | nil =>
            rw [← (List.cons.inj whole).1] at marked
            cases marked
        | cons c front =>
            rw [← (List.cons.inj whole).1]
            rfl
      rw [scheme?, cut]
      simp only [slash, Bool.and_false, Bool.false_eq_true, if_false]

theorem read_rooted (cs : List Char) : read ('/' :: cs) = .error .relative := by
  obtain ⟨others, stripped⟩ := Text.strip_cons isSpaceOrControl '/' cs (by decide)
  rw [read, stripped, scheme_rooted]

end LoginGateway.Url
