import Mathlib.Data.List.Basic
import LoginGateway.Proofs.Json.Exactness
import LoginGateway.Proofs.Json.Locality

/-!
The text of an object is cut at its commas: between them stand the texts of its members, each of which is read as it
would be read alone.
-/
set_option autoImplicit false

namespace LoginGateway.Json

namespace Token

theorem all_space (b : UInt8) (rest : Bytes) (space : isSpace b) : all? (b :: rest) = all? rest := by
  rw [all?, if_pos space]

def IsBlank (bytes : Bytes) : Prop := ∀ b ∈ bytes, isSpace b

theorem blank_nil : IsBlank [] := List.forall_mem_nil _

theorem all_blank (blank rest : Bytes) (spaces : IsBlank blank) : all? (blank ++ rest) = all? rest := by
  induction blank with
  | nil => rfl
  | cons b blank ih =>
      rw [List.cons_append, all_space b _ (spaces b (by simp)), ih fun x among => spaces x (by simp [among])]

theorem none_of_blank (blank : Bytes) (spaces : IsBlank blank) : all? blank = some [] := by
  have whole := all_blank blank [] spaces
  rwa [List.append_nil, all?] at whole

theorem blank_of_none (bytes : Bytes) (nothing : all? bytes = some []) : IsBlank bytes := by
  fun_induction all? bytes with
  | case1 => exact blank_nil
  | case2 b rest space ih => exact List.forall_mem_cons.mpr ⟨space, ih nothing⟩
  | case3 => cases nothing
  | case4 b rest solid t left found ih => simp at nothing

theorem all_apart (xs rest : Bytes) (ts : List Token) (apart : Apart rest) (read : all? xs = some ts) :
    all? (xs ++ rest) = (all? rest).map (ts ++ ·) := by
  fun_induction all? xs generalizing ts with
  | case1 =>
      cases read
      simp
  | case2 b tail space ih => rw [List.cons_append, all_space b _ space, ih ts read]
  | case3 => cases read
  | case4 b tail solid t left found ih =>
      obtain ⟨others, further, rfl⟩ := Option.map_eq_some_iff.mp read
      have first := (first_local rest apart _ t left).mpr ⟨b :: tail, rfl, found⟩
      rw [List.cons_append, all_cons t b (tail ++ rest) (left ++ rest) (by simpa using solid) first, ih others further]
      simp [Function.comp_def]

theorem word_unmarked (token t : Token) (letters : String) (bytes rest : Bytes) (m : UInt8)
    (unmarked : (m, token) ∉ marks) (read : word? token letters bytes = some (t, rest)) : (m, t) ∉ marks := by
  obtain ⟨same, _⟩ := (word_eq_some_iff token t letters bytes rest).mp read
  rwa [← same]

theorem long_unmarked (b m : UInt8) (bytes rest : Bytes) (t : Token) (read : long? b bytes = some (t, rest)) :
    (m, t) ∉ marks := by
  unfold long? at read
  split at read
  · obtain ⟨_, _, whole⟩ := Option.map_eq_some_iff.mp read
    cases whole
    simp [marks]
  · exact word_unmarked _ t _ bytes rest m (by simp [marks]) read
  · exact word_unmarked _ t _ bytes rest m (by simp [marks]) read
  · exact word_unmarked _ t _ bytes rest m (by simp [marks]) read
  · obtain ⟨_, _, whole⟩ := Option.map_eq_some_iff.mp read
    cases whole
    simp [marks]

-- A mark among the tokens stands in the text, since no other token is read from one.
theorem first_mark (b m : UInt8) (rest left : Bytes) (t : Token) (mark : (m, t) ∈ marks)
    (read : first? (b :: rest) = some (t, left)) : b = m ∧ left = rest := by
  rw [first?] at read
  cases marked : mark? (Char.ofUInt8 b) with
  | none =>
      rw [marked] at read
      exact absurd mark (long_unmarked b m rest left t read)
  | some other =>
      rw [marked] at read
      cases read
      exact ⟨mark_inj b m t ((mark_iff b t).mp marked) mark, rfl⟩

theorem all_cut (bytes : Bytes) (m : UInt8) (t : Token) (front back : List Token) (mark : (m, t) ∈ marks)
    (read : all? bytes = some (front ++ t :: back)) :
    ∃ xs ys, bytes = xs ++ m :: ys ∧ all? xs = some front ∧ all? ys = some back := by
  fun_induction all? bytes generalizing front with
  | case1 => cases front <;> cases read
  | case2 b rest space ih =>
      obtain ⟨xs, ys, rfl, before, behind⟩ := ih front read
      exact ⟨b :: xs, ys, rfl, (all_space b xs space).trans before, behind⟩
  | case3 => cases read
  | case4 b rest solid first left found ih =>
      obtain ⟨others, further, whole⟩ := Option.map_eq_some_iff.mp read
      cases front with
      | nil =>
          obtain ⟨rfl, rfl⟩ := List.cons.inj whole
          obtain ⟨rfl, rfl⟩ := first_mark b m rest left first mark found
          exact ⟨[], left, rfl, by rw [all?], further⟩
      | cons head front =>
          obtain ⟨rfl, rfl⟩ := List.cons.inj whole
          obtain ⟨xs, ys, rfl, before, behind⟩ := ih front further
          obtain ⟨zs, whole, inner⟩ := (first_local _ (mark_apart m t ys mark) _ _ xs).mp found
          cases zs with
          | nil => cases inner
          | cons z zs =>
              obtain ⟨rfl, rfl⟩ := List.cons.inj whole
              refine ⟨b :: zs, ys, rfl, ?_, behind⟩
              rw [all_cons _ b zs xs (by simpa using solid) inner, before]
              rfl

theorem all_marked (m : UInt8) (t : Token) (rest : Bytes) (mark : (m, t) ∈ marks) :
    all? (m :: rest) = (all? rest).map (t :: ·) :=
  all_mark t m rest (mark_plain (m, t) mark).1 ((mark_iff m t).mpr mark)

theorem all_joined (xs ys : Bytes) (m : UInt8) (t : Token) (front back : List Token) (mark : (m, t) ∈ marks)
    (before : all? xs = some front) (behind : all? ys = some back) :
    all? (xs ++ m :: ys) = some (front ++ t :: back) := by
  rw [all_apart xs _ front (mark_apart m t ys mark) before, all_marked m t ys mark, behind]
  rfl

end Token

open Token

theorem read_iff (bytes : Bytes) (j : Json) : read? bytes = some j ↔ all? bytes = some (tokens j) := by
  simp only [read?, Option.bind_eq_some_iff, of_tokens_iff, exists_eq_right]

def readMember? (text : Bytes) : Option (Option String × Json) :=
  match read? (0x7B :: (text ++ [0x7D])) with
  | some (.object [member]) => some member
  | _ => none

theorem braced_iff (text : Bytes) (ts : List Token) :
    all? (0x7B :: (text ++ [0x7D])) = some (.openObject :: (ts ++ [.closeObject])) ↔ all? text = some ts := by
  constructor
  · intro read
    rw [all_marked 0x7B .openObject _ (by decide)] at read
    obtain ⟨_, inner, whole⟩ := Option.map_eq_some_iff.mp read
    rw [(List.cons.inj whole).2] at inner
    obtain ⟨xs, ys, braced, before, behind⟩ := all_cut _ 0x7D .closeObject ts [] (by decide) inner
    -- What stands behind the closing brace is blank, and the text ends with the brace.
    rcases List.eq_nil_or_concat' ys with rfl | ⟨between, last, rfl⟩
    · rwa [List.append_cancel_right braced]
    · have ends : text ++ [0x7D] = (xs ++ 0x7D :: between) ++ [last] := by rw [braced]; simp
      have brace := (List.append_inj' ends rfl).2
      have space := blank_of_none _ behind last (by simp)
      rw [← List.singleton_inj.mp brace] at space
      exact absurd space (by decide)
  · intro read
    have closed := all_joined text [] 0x7D .closeObject ts [] (by decide) read (by rw [all?])
    rw [all_marked 0x7B .openObject _ (by decide), closed]
    rfl

theorem read_member_iff (text : Bytes) (name : Option String) (value : Json) :
    readMember? text = some (name, value) ↔ all? text = some (memberTokens name value) := by
  have single := read_iff (0x7B :: (text ++ [0x7D])) (.object [(name, value)])
  rw [tokens, membersTokens, braced_iff] at single
  rw [memberTokens, ← single, readMember?]
  split
  · next member read => simp [read]
  · next other =>
    constructor
    · intro absent
      cases absent
    · intro read
      exact absurd read (other _)

def memberText (name : String) (value : Json) : Bytes := Text.Utf8.encode (writeMembers [(some name, value)])

theorem read_member_text (name : String) (value : Json) (plain : isPlain value) :
    readMember? (memberText name value) = some (some name, value) := by
  have whole := all_members [(some name, value)] ⟨rfl, plain, trivial⟩ [] (by simp [Ends])
  rw [List.append_nil, all?] at whole
  rw [read_member_iff, memberText, whole]
  simp [membersTokens, memberTokens]

theorem members_tokens_cons (member next : Option String × Json) (members : Members) :
    membersTokens (member :: next :: members) =
      memberTokens member.1 member.2 ++ .comma :: membersTokens (next :: members) := by
  rw [membersTokens]
  · simp [memberTokens]
  · simp

theorem members_cut (member : Option String × Json) (members : Members) (bytes : Bytes)
    (read : all? bytes = some (membersTokens (member :: members))) :
    ∃ text texts, bytes = [0x2C].intercalate (text :: texts) ∧
      ∀ among ∈ text :: texts, (readMember? among).isSome := by
  induction members generalizing member bytes with
  | nil =>
      have whole := (read_member_iff bytes member.1 member.2).mpr read
      exact ⟨bytes, [], List.intercalate_singleton.symm, by simp [whole]⟩
  | cons next members ih =>
      rw [members_tokens_cons] at read
      obtain ⟨text, others, rfl, first, behind⟩ := all_cut bytes 0x2C .comma _ _ (by decide) read
      obtain ⟨second, texts, rfl, given⟩ := ih next others behind
      have whole := (read_member_iff text member.1 member.2).mpr first
      exact ⟨text, second :: texts, by simp, List.forall_mem_cons.mpr ⟨by simp [whole], given⟩⟩

theorem members_joined (text : Bytes) (texts : List Bytes)
    (given : ∀ among ∈ text :: texts, (readMember? among).isSome) :
    all? ([0x2C].intercalate (text :: texts)) = some (membersTokens ((text :: texts).filterMap readMember?)) := by
  induction texts generalizing text with
  | nil =>
      obtain ⟨member, whole⟩ := Option.isSome_iff_exists.mp (given text (by simp))
      rw [List.intercalate_singleton, List.filterMap_cons_some whole]
      exact (read_member_iff text member.1 member.2).mp whole
  | cons second texts ih =>
      obtain ⟨member, whole⟩ := Option.isSome_iff_exists.mp (given text (by simp))
      obtain ⟨next, following⟩ := Option.isSome_iff_exists.mp (given second (by simp))
      have first := (read_member_iff text member.1 member.2).mp whole
      have others := ih second fun among member => given among (by simp [member])
      rw [List.filterMap_cons_some following] at others
      rw [List.filterMap_cons_some whole, List.filterMap_cons_some following, members_tokens_cons,
        List.intercalate_cons_cons, List.append_assoc]
      exact all_joined text _ 0x2C .comma _ _ (by decide) first others

structure IsObjectOf (texts : List Bytes) (bytes : Bytes) : Prop where
  given : ∀ text ∈ texts, (readMember? text).isSome
  written : ∃ lead gap trail, IsBlank lead ∧ IsBlank gap ∧ IsBlank trail ∧
    bytes = lead ++ 0x7B :: (gap ++ [0x2C].intercalate texts ++ 0x7D :: trail)

def packed (texts : List Bytes) : Bytes := 0x7B :: ([0x2C].intercalate texts ++ [0x7D])

theorem packed_object (texts : List Bytes) (given : ∀ text ∈ texts, (readMember? text).isSome) :
    IsObjectOf texts (packed texts) :=
  ⟨given, [], [], [], blank_nil, blank_nil, blank_nil, rfl⟩

theorem object_texts (bytes : Bytes) (members : Members) (read : read? bytes = some (.object members)) :
    ∃ texts, IsObjectOf texts bytes := by
  have whole := (read_iff bytes _).mp read
  rw [tokens] at whole
  obtain ⟨lead, inner, rfl, before, within⟩ := all_cut bytes 0x7B .openObject [] _ (by decide) whole
  obtain ⟨body, trail, rfl, listed, behind⟩ := all_cut inner 0x7D .closeObject _ [] (by decide) within
  have leads := blank_of_none lead before
  have trails := blank_of_none trail behind
  cases members with
  | nil => exact ⟨[], by simp, lead, body, trail, leads, blank_of_none body listed, trails, by simp⟩
  | cons member members =>
      obtain ⟨text, texts, rfl, given⟩ := members_cut member members body listed
      exact ⟨text :: texts, given, lead, [], trail, leads, blank_nil, trails, by simp⟩

theorem object_read (texts : List Bytes) (bytes : Bytes) (object : IsObjectOf texts bytes) :
    read? bytes = some (.object (texts.filterMap readMember?)) := by
  obtain ⟨given, lead, gap, trail, leads, gaps, trails, rfl⟩ := object
  have listed : all? (gap ++ [0x2C].intercalate texts) = some (membersTokens (texts.filterMap readMember?)) := by
    rw [all_blank gap _ gaps]
    cases texts with
    | nil => exact none_of_blank [] blank_nil
    | cons text texts => exact members_joined text texts given
  have braced := all_joined _ trail 0x7D .closeObject _ [] (by decide) listed (none_of_blank trail trails)
  rw [read_iff, tokens]
  exact all_joined lead _ 0x7B .openObject [] _ (by decide) (none_of_blank lead leads) braced

end LoginGateway.Json
