import LoginGateway.Proofs.Json.Members
import LoginGateway.Proofs.Provider.Outcome

/-!
Which objects of a provider are read. A member of another name may hold anything, but all the fields of a record are
read with their types, also those that no login goes by.
-/
set_option autoImplicit false

namespace LoginGateway

def Reply.IsObject (reply : Reply) (members : Json.Members) : Prop :=
  ∃ status body, reply = .complete status body ∧ status < 300 ∧ Json.read? body = some (.object members) ∧
    Json.DistinctNames members

theorem read_document_object {α : Type} (decode : Json → Option α) (body : Bytes) (members : Json.Members)
    (written : Json.read? body = some (.object members)) (value : α) :
    readDocument decode body = .ok value ↔ decode (.object members) = some value := by
  rw [readDocument, written, Option.bind_some]
  cases decode (.object members) <;> simp

theorem Reply.written_object (status : Nat) (good : status < 300) (pairs : List (String × Json))
    (plain : ∀ pair ∈ pairs, pair.2.isPlain) (distinct : (pairs.map Prod.fst).Nodup) :
    (complete status (Text.utf8 (Json.fields pairs).compact)).IsObject (Json.ofPairs pairs) := by
  exact ⟨status, _, rfl, good, Json.read_compact _ (Json.plain_fields pairs plain), (Json.distinct_pairs_iff pairs).mpr distinct⟩

theorem Reply.object_lasting (reply : Reply) (members : Json.Members) (object : reply.IsObject members) :
    ¬ reply.IsTransient := by
  obtain ⟨status, body, rfl, _⟩ := object
  simp [IsTransient]

namespace AccessToken

open Json

structure IsTidy (members : Members) : Prop where
  named : AllNamed members
  lifetime : WordOrNull (member? members "expires_in")
  identity : TextOrNull (member? members "id_token")

variable (members : Members) (distinct : DistinctNames members)
include distinct

theorem tidy_of_object (token : AccessToken) (read : ofJson? (.object members) = some token) : IsTidy members := by
  obtain ⟨fields, object, read⟩ := Option.bind_eq_some_iff.mp read
  obtain ⟨named, rfl⟩ := (fields_of_object_iff fieldNames members fields distinct).mp object
  obtain ⟨_, _, read⟩ := Option.bind_eq_some_iff.mp read
  obtain ⟨_, _, read⟩ := Option.bind_eq_some_iff.mp read
  obtain ⟨expires, lifetime, read⟩ := Option.bind_eq_some_iff.mp read
  obtain ⟨id, identity, _⟩ := Option.bind_eq_some_iff.mp read
  exact ⟨named, (Fields.nullable_word_iff _ _).mp ⟨expires, lifetime⟩,
    (Fields.nullable_text_iff _ _).mp ⟨id, identity⟩⟩

theorem of_tidy_object (tidy : IsTidy members) (text : String)
    (token : member? members "access_token" = some (.str text))
    (bearer : member? members "token_type" = some (.str "Bearer")) :
    ∃ expires id, ofJson? (.object members) = some ⟨text, "Bearer", expires, id⟩ := by
  have object := (fields_of_object_iff fieldNames members _ distinct).mpr ⟨tidy.named, rfl⟩
  obtain ⟨expires, lifetime⟩ := (Fields.nullable_word_iff _ _).mpr tidy.lifetime
  obtain ⟨id, identity⟩ := (Fields.nullable_text_iff _ _).mpr tidy.identity
  refine ⟨expires, id, ?_⟩
  simp only [ofJson?, object, Fields.text_given _ _ _ token, Fields.text_given _ _ _ bearer, lifetime, identity,
    Option.bind_eq_bind, Option.bind_some, Option.pure_def]

end AccessToken

namespace UserInfo

open Json

def nameFields : List String := ["username", "login", "preferred_username", "email"]

structure IsTidy (members : Members) : Prop where
  named : AllNamed members
  subject : TextOrMissing (member? members "sub")
  name : TextOrMissing (member? members "name")

def textOf (members : Members) (name : String) : String := ((member? members name).bind Json.text?).getD ""

def firstFilled (members : Members) : String := ((nameFields.map (textOf members)).find? (· ≠ "")).getD ""

theorem text_of_field (members : Members) (name s : String) (read : (member? members).text? name = some s) :
    s = textOf members name := by
  rw [Fields.text?, Fields.read?] at read
  rw [textOf]
  cases found : member? members name with
  | none =>
      rw [found] at read
      exact (Option.some.inj read).symm
  | some j =>
      rw [found] at read
      dsimp only at read
      rw [Option.bind_some, read, Option.getD_some]

variable (members : Members) (distinct : DistinctNames members)
include distinct

theorem tidy_of_object (user : UserInfo) (read : ofJson? (.object members) = some user) :
    IsTidy members ∧ user.derived = firstFilled members := by
  obtain ⟨fields, object, read⟩ := Option.bind_eq_some_iff.mp read
  obtain ⟨named, rfl⟩ := (fields_of_object_iff fieldNames members fields distinct).mp object
  obtain ⟨subject, subjectRead, read⟩ := Option.bind_eq_some_iff.mp read
  obtain ⟨name, nameRead, read⟩ := Option.bind_eq_some_iff.mp read
  obtain ⟨login, loginRead, read⟩ := Option.bind_eq_some_iff.mp read
  obtain ⟨username, usernameRead, read⟩ := Option.bind_eq_some_iff.mp read
  obtain ⟨preferred, preferredRead, read⟩ := Option.bind_eq_some_iff.mp read
  obtain ⟨email, emailRead, read⟩ := Option.bind_eq_some_iff.mp read
  cases read
  constructor
  · exact ⟨named, (Fields.text_field_iff _ _).mp ⟨_, subjectRead⟩, (Fields.text_field_iff _ _).mp ⟨_, nameRead⟩⟩
  · rw [derived, firstFilled, text_of_field members _ _ usernameRead, text_of_field members _ _ loginRead,
      text_of_field members _ _ preferredRead, text_of_field members _ _ emailRead]
    rfl

theorem of_tidy_object (tidy : IsTidy members) (names : ∀ name ∈ nameFields, TextOrMissing (member? members name)) :
    ∃ user, ofJson? (.object members) = some user := by
  have object := (fields_of_object_iff fieldNames members _ distinct).mpr ⟨tidy.named, rfl⟩
  simp only [nameFields, List.forall_mem_cons, ← Fields.text_field_iff] at names
  obtain ⟨⟨username, usernameRead⟩, ⟨login, loginRead⟩, ⟨preferred, preferredRead⟩, ⟨email, emailRead⟩, _⟩ := names
  obtain ⟨subject, subjectRead⟩ := (Fields.text_field_iff _ _).mpr tidy.subject
  obtain ⟨name, nameRead⟩ := (Fields.text_field_iff _ _).mpr tidy.name
  refine ⟨⟨subject, name, login, username, preferred, email⟩, ?_⟩
  simp only [ofJson?, object, subjectRead, nameRead, loginRead, usernameRead, preferredRead, emailRead,
    Option.bind_eq_bind, Option.bind_some, Option.pure_def]

end UserInfo

namespace Provider

variable (p : Provider) (script : Script) (members : Json.Members)

theorem granted_tidy (object : script.next.1.IsObject members) (token : AccessToken)
    (granted : p.Grants script token) : AccessToken.IsTidy members := by
  obtain ⟨_, body, replied, _, written, distinct⟩ := object
  obtain ⟨_, _, found, same, _, read, _⟩ := granted
  cases replied.symm.trans same
  exact AccessToken.tidy_of_object members distinct token ((read_document_object _ body members written token).mp read)

theorem tidy_granted (callable : p.tokens.isCallable) (object : script.next.1.IsObject members)
    (tidy : AccessToken.IsTidy members) (text : String)
    (token : Json.member? members "access_token" = some (.str text)) (filled : text ≠ "")
    (bearer : Json.member? members "token_type" = some (.str "Bearer")) : ∃ token, p.Grants script token := by
  obtain ⟨status, body, replied, good, written, distinct⟩ := object
  obtain ⟨expires, id, read⟩ := AccessToken.of_tidy_object members distinct tidy text token bearer
  exact ⟨⟨text, "Bearer", expires, id⟩, callable, status, body, replied, good,
    (read_document_object _ body members written _).mpr read, rfl, filled⟩

theorem told_tidy (object : script.next.2.next.1.IsObject members) (user : UserInfo) (told : p.Tells script user) :
    UserInfo.IsTidy members := by
  obtain ⟨_, body, replied, _, written, distinct⟩ := object
  obtain ⟨_, _, found, same, _, read⟩ := told
  cases replied.symm.trans same
  exact (UserInfo.tidy_of_object members distinct user ((read_document_object _ body members written user).mp read)).1

theorem tidy_told (callable : p.userinfo.isCallable) (object : script.next.2.next.1.IsObject members)
    (tidy : UserInfo.IsTidy members)
    (names : ∀ name ∈ UserInfo.nameFields, Json.TextOrMissing (Json.member? members name)) :
    ∃ user, p.Tells script user ∧ user.derived = UserInfo.firstFilled members := by
  obtain ⟨status, body, replied, good, written, distinct⟩ := object
  obtain ⟨user, read⟩ := UserInfo.of_tidy_object members distinct tidy names
  exact ⟨user, ⟨callable, status, body, replied, good, (read_document_object _ body members written user).mpr read⟩,
    (UserInfo.tidy_of_object members distinct user read).2⟩

end Provider

end LoginGateway
