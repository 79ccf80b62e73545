import LoginGateway.Proofs.Json.ObjectText
import LoginGateway.Proofs.Provider.Records
import LoginGateway.Proofs.Token.Claims

/-!
Records are read from the fields that they have, wherever these stand in an object and whatever else is in it. The order
and the foreign members are those of the text, so that two texts are compared.
-/
set_option autoImplicit false

namespace LoginGateway

namespace Json

section

variable {α β : Type} {counts : α → Prop} {all kept : List α}

def Rearranged (counts : α → Prop) (all kept : List α) : Prop :=
  ∃ dropped, all.Perm (dropped ++ kept) ∧ ∀ a ∈ dropped, ¬ counts a

theorem Rearranged.subset (rearranged : Rearranged counts all kept) : kept ⊆ all := by
  obtain ⟨dropped, same, _⟩ := rearranged
  intro a among
  exact same.mem_iff.mpr (List.mem_append_right dropped among)

theorem Rearranged.mem_iff (rearranged : Rearranged counts all kept) (a : α) (own : counts a) : a ∈ kept ↔ a ∈ all := by
  obtain ⟨dropped, same, foreign⟩ := rearranged
  rw [same.mem_iff, List.mem_append]
  exact ⟨Or.inr, fun among => among.resolve_left fun gone => foreign a gone own⟩

theorem Rearranged.filter_map (rearranged : Rearranged counts all kept) (f : α → Option β) (counts' : β → Prop)
    (back : ∀ a b, f a = some b → counts' b → counts a) :
    Rearranged counts' (all.filterMap f) (kept.filterMap f) := by
  obtain ⟨dropped, same, foreign⟩ := rearranged
  refine ⟨dropped.filterMap f, ?_, ?_⟩
  · rw [← List.filterMap_append]
    exact same.filterMap f
  · intro b among own
    obtain ⟨a, gone, given⟩ := List.mem_filterMap.mp among
    exact foreign a gone (back a b given own)

end

def IsNamed (names : List String) (member : Option String × Json) : Prop := ∃ name ∈ names, member.1 = some name

theorem members_rearranged (own names : List String) (members kept : Members) (fields : Fields) (among : names ⊆ own)
    (rearranged : Rearranged (IsNamed own) members kept) (read : membersOf? names members = some fields) :
    ∃ others, membersOf? names kept = some others ∧ ∀ name ∈ names, others name = fields name := by
  obtain ⟨named, once, rfl⟩ := (members_of_iff names members fields).mp read
  have onceKept : ∀ name ∈ names, GivenOnce kept name := by
    intro name member
    obtain ⟨dropped, same, _⟩ := rearranged
    have fewer : (kept.map Prod.fst).count (some name) ≤ (members.map Prod.fst).count (some name) := by
      rw [(same.map Prod.fst).count_eq, List.map_append, List.count_append]
      exact Nat.le_add_left _ _
    exact Nat.le_trans fewer (once name member)
  refine ⟨member? kept, (members_of_iff names kept _).mpr ⟨?_, onceKept, rfl⟩, ?_⟩
  · exact fun member given => named member (rearranged.subset given)
  · intro name member
    apply Option.ext
    intro value
    rw [member_iff kept name value (onceKept name member), member_iff members name value (once name member)]
    exact rearranged.mem_iff _ ⟨name, among member, rfl⟩

theorem Fields.read_alike {α : Type} (fields others : Fields) (name : String) (decode : Json → Option α) (default : α)
    (alike : others name = fields name) : others.read? name decode default = fields.read? name decode default := by
  rw [read?, read?, alike]

theorem members_sound_iff (members : Members) :
    membersSound members ↔ ∀ member ∈ members, member.1.isSome ∧ isSound member.2 := by
  induction members with
  | nil => simp [membersSound]
  | cons member members ih => simp [membersSound, ih]

theorem members_depth_iff (members : Members) (limit : Nat) :
    membersDepth members ≤ limit ↔ ∀ member ∈ members, depth member.2 ≤ limit := by
  induction members with
  | nil => simp [membersDepth]
  | cons member members ih => rw [membersDepth, Nat.max_le, ih, List.forall_mem_cons]

theorem readable_fewer (outer : Nat) (members kept : Members) (fewer : kept ⊆ members)
    (readable : isReadable outer (.object members)) : isReadable outer (.object kept) := by
  obtain ⟨sound, shallow⟩ := Bool.and_eq_true_iff.mp readable
  have deep := of_decide_eq_true shallow
  rw [depth] at deep
  have depths := (members_depth_iff members _).mp (Nat.le_refl _)
  have keptDepth := (members_depth_iff kept _).mpr fun member among => depths member (fewer among)
  have sounds := (members_sound_iff members).mp sound
  refine Bool.and_eq_true_iff.mpr ⟨(members_sound_iff kept).mpr fun member among => sounds member (fewer among), ?_⟩
  apply decide_eq_true
  rw [depth]
  omega

end Json

open Json

theorem UserInfo.rearranged (members kept : Members) (user : UserInfo)
    (others : Rearranged (IsNamed fieldNames) members kept) (read : ofJson? (.object members) = some user) :
    ofJson? (.object kept) = some user := by
  obtain ⟨fields, object, values⟩ := Option.bind_eq_some_iff.mp read
  obtain ⟨same, given, alike⟩ :=
    members_rearranged fieldNames fieldNames members kept fields (List.Subset.refl _) others object
  rw [ofJson?, fieldsOf?, given]
  simp only [fieldNames, List.forall_mem_cons] at alike
  obtain ⟨subject, name, login, username, preferred, email, _⟩ := alike
  simp only [Fields.text?, Fields.read?] at values ⊢
  simp only [Option.bind_eq_bind, Option.bind_some, subject, name, login, username, preferred, email]
  exact values

theorem AccessToken.rearranged (members kept : Members) (token : AccessToken)
    (others : Rearranged (IsNamed fieldNames) members kept) (read : ofJson? (.object members) = some token) :
    ofJson? (.object kept) = some token := by
  obtain ⟨fields, object, values⟩ := Option.bind_eq_some_iff.mp read
  obtain ⟨same, given, alike⟩ :=
    members_rearranged fieldNames fieldNames members kept fields (List.Subset.refl _) others object
  rw [ofJson?, fieldsOf?, given]
  simp only [fieldNames, List.forall_mem_cons] at alike
  obtain ⟨token, kind, expires, identity, _⟩ := alike
  simp only [Fields.text?, Fields.nullable?, Fields.read?] at values ⊢
  simp only [Option.bind_eq_bind, Option.bind_some, token, kind, expires, identity]
  exact values

namespace Claims

def ownFields (c : Claims) : List String := commonFields ++ [(valueMember c.purpose).1]

theorem purpose_rearranged (members kept : Members) (purpose : Purpose) (own : List String)
    (subject : "sub" ∈ own) (field : (valueMember purpose).1 ∈ own) (others : Rearranged (IsNamed own) members kept)
    (read : purpose? members = some purpose) : purpose? kept = some purpose := by
  obtain ⟨tagged, tag, read⟩ := Option.bind_eq_some_iff.mp read
  obtain ⟨kind, told, read⟩ := Option.bind_eq_some_iff.mp read
  obtain ⟨fields, values, read⟩ := Option.bind_eq_some_iff.mp read
  obtain ⟨text, given, same⟩ := Option.bind_eq_some_iff.mp read
  cases same
  have ownField : kind.field ∈ own := by cases kind <;> exact field
  obtain ⟨tagged', tag', alikeTag⟩ :=
    members_rearranged own ["sub"] members kept tagged (by simpa using subject) others tag
  obtain ⟨fields', values', alike⟩ :=
    members_rearranged own [kind.field] members kept fields (by simpa using ownField) others values
  have given' := (Fields.read_alike _ _ _ text? "" (alike kind.field (by simp))).trans given
  simp only [purpose?, Option.bind_eq_bind, tag', Option.bind_some, alikeTag "sub" (by simp), told, values',
    Fields.text?, given', Option.pure_def]

theorem of_members_rearranged (members kept : Members) (c : Claims)
    (others : Rearranged (IsNamed c.ownFields) members kept) (read : ofMembers? members = some c) :
    ofMembers? kept = some c := by
  obtain ⟨fields, values, read⟩ := Option.bind_eq_some_iff.mp read
  obtain ⟨issuer, issuerRead, read⟩ := Option.bind_eq_some_iff.mp read
  obtain ⟨audience, audienceRead, read⟩ := Option.bind_eq_some_iff.mp read
  obtain ⟨expires, expiresRead, read⟩ := Option.bind_eq_some_iff.mp read
  obtain ⟨notBefore, notBeforeRead, read⟩ := Option.bind_eq_some_iff.mp read
  obtain ⟨issuedAt, issuedAtRead, read⟩ := Option.bind_eq_some_iff.mp read
  obtain ⟨purpose, purposeRead, same⟩ := Option.bind_eq_some_iff.mp read
  cases same
  have kind := purpose_rearranged members kept purpose _ (by simp [ownFields, commonFields]) (by simp [ownFields])
    others purposeRead
  obtain ⟨fields', values', alike⟩ :=
    members_rearranged _ commonFields members kept fields (List.subset_append_left _ _) others values
  simp only [commonFields, List.forall_mem_cons] at alike
  obtain ⟨iss, aud, exp, nbf, iat, _⟩ := alike
  have issuer' := (Fields.read_alike _ _ _ _ _ iss).trans issuerRead
  have audience' := (Fields.read_alike _ _ _ _ _ aud).trans audienceRead
  have expires' := (Fields.read_alike _ _ _ _ _ exp).trans expiresRead
  have notBefore' := (Fields.read_alike _ _ _ _ _ nbf).trans notBeforeRead
  have issuedAt' := (Fields.read_alike _ _ _ _ _ iat).trans issuedAtRead
  simp only [ofMembers?, Option.bind_eq_bind, values', Option.bind_some, Fields.text?, Fields.word?, issuer', audience',
    expires', notBefore', issuedAt', kind, Option.pure_def]

theorem rearranged (members kept : Members) (c : Claims) (others : Rearranged (IsNamed c.ownFields) members kept)
    (read : ofJson? (.object members) = some c) : ofJson? (.object kept) = some c := by
  obtain ⟨readable, values⟩ := Option.ite_none_right_eq_some.mp read
  exact Option.ite_none_right_eq_some.mpr
    ⟨readable_fewer 0 members kept others.subset readable, of_members_rearranged members kept c others values⟩

end Claims

namespace Json

def Names (own : List String) (text : Bytes) : Prop := ∃ name ∈ own, ∃ value, readMember? text = some (some name, value)

-- What is read of an object stays the same when its members change places, and when some go that do not have a name of
-- the reader's own.
def IgnoresOrder {α : Type} (Reads : Bytes → α → Prop) (own : α → List String) : Prop :=
  ∀ texts bytes a, IsObjectOf texts bytes → Reads bytes a →
    ∀ kept other, Rearranged (Names (own a)) texts kept → IsObjectOf kept other → Reads other a

theorem order_ignored {α : Type} (Reads : Bytes → α → Prop) (own : α → List String) (decode : Json → Option α)
    (reads_iff : ∀ bytes a, Reads bytes a ↔ (read? bytes).bind decode = some a)
    (rearranged : ∀ members kept a, Rearranged (IsNamed (own a)) members kept → decode (.object members) = some a →
      decode (.object kept) = some a) : IgnoresOrder Reads own := by
  intro texts bytes a object read kept other others another
  rw [reads_iff, object_read texts bytes object, Option.bind_some] at read
  rw [reads_iff, object_read kept other another, Option.bind_some]
  apply rearranged _ _ a _ read
  apply others.filter_map
  rintro text ⟨name, value⟩ member ⟨own, among, rfl⟩
  exact ⟨own, among, value, member⟩

end Json

theorem read_document_iff {α : Type} (decode : Json → Option α) (body : Bytes) (a : α) :
    readDocument decode body = .ok a ↔ (Json.read? body).bind decode = some a := by
  rw [readDocument]
  cases (Json.read? body).bind decode <;> simp

theorem records_ignore_order :
    (∀ bytes, (∃ texts, IsObjectOf texts bytes) ↔ ∃ members, Json.read? bytes = some (.object members)) ∧
    IgnoresOrder (fun bytes c => Claims.read? bytes = some c) Claims.ownFields ∧
    IgnoresOrder (fun body user => readDocument UserInfo.ofJson? body = .ok user) (fun _ => UserInfo.fieldNames) ∧
    IgnoresOrder (fun body token => readDocument AccessToken.ofJson? body = .ok token)
      (fun _ => AccessToken.fieldNames) := by
  refine ⟨fun bytes => ⟨?_, ?_⟩, ?_, ?_, ?_⟩
  · intro given
    obtain ⟨texts, object⟩ := given
    exact ⟨_, object_read texts bytes object⟩
  · intro given
    obtain ⟨members, read⟩ := given
    exact object_texts bytes members read
  · exact order_ignored _ _ Claims.ofJson? (fun _ _ => Iff.rfl) Claims.rearranged
  · exact order_ignored _ _ UserInfo.ofJson? (read_document_iff _) fun members kept => UserInfo.rearranged members kept
  · exact order_ignored _ _ AccessToken.ofJson? (read_document_iff _) fun members kept =>
      AccessToken.rearranged members kept

-- A session's document with a member of the other kind, which it loses while the others are turned around.
theorem records_ignore_order_in_session :
    Claims.read? (packed [memberText "iss" (.str "me"), memberText "return_url" .null,
      memberText "sub" (.str "state:auth_cookie"), memberText "username" (.str "ada")]) =
        some ⟨"me", [], 0, 0, 0, .session "ada"⟩ ∧
    Claims.read? (packed [memberText "username" (.str "ada"), memberText "sub" (.str "state:auth_cookie"),
      memberText "iss" (.str "me")]) = some ⟨"me", [], 0, 0, 0, .session "ada"⟩ := by
  have issuer := read_member_text "iss" (.str "me") rfl
  have foreign := read_member_text "return_url" .null trivial
  have subject := read_member_text "sub" (.str "state:auth_cookie") rfl
  have user := read_member_text "username" (.str "ada") rfl
  generalize memberText "iss" (.str "me") = first at *
  generalize memberText "return_url" .null = second at *
  generalize memberText "sub" (.str "state:auth_cookie") = third at *
  generalize memberText "username" (.str "ada") = last at *
  have object := packed_object [first, second, third, last] (by simp [issuer, foreign, subject, user])
  have other := packed_object [last, third, first] (by simp [issuer, subject, user])
  have read : Claims.read? (packed [first, second, third, last]) = some ⟨"me", [], 0, 0, 0, .session "ada"⟩ := by
    rw [Claims.read?, object_read _ _ object]
    simp only [List.filterMap_cons, issuer, foreign, subject, user]
    rfl
  have rearranged : Rearranged (Names (Claims.ownFields ⟨"me", [], 0, 0, 0, .session "ada"⟩))
      [first, second, third, last] [last, third, first] := by
    refine ⟨[second], ?_, ?_⟩
    · exact (List.Perm.swap second first [third, last]).trans
        ((List.reverse_perm [first, third, last]).symm.cons second)
    · rintro text gone ⟨name, own, value, given⟩
      rw [List.mem_singleton.mp gone, foreign] at given
      cases given
      exact absurd own (by decide)
  exact ⟨read, records_ignore_order.2.1 _ _ _ object read _ _ rearranged other⟩

end LoginGateway
