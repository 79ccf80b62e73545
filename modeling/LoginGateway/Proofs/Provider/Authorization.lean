import LoginGateway.Provider.Basic
import LoginGateway.Proofs.Request
import LoginGateway.Proofs.Url.Cut
import LoginGateway.Proofs.Url.Reader
import LoginGateway.Proofs.Web.Form

/-!
The address that a login is sent to: the provider's own address, with the form that asks for an
authorization joined to the end of its query.
-/
set_option autoImplicit false

namespace LoginGateway

def Url.queryFront (u : Url) : List Char :=
  match u.query with
  | some (c :: query) => c :: query ++ ['&']
  | _ => []

theorem Url.extend_parts (u : Url) (form : List Char) :
    (u.extend form).base = u.base ∧ (u.extend form).fragment = u.fragment ∧
      (u.extend form).query = some (u.queryFront ++ form) := by
  obtain ⟨scheme, authority, path, query, fragment⟩ := u
  cases query with
  | none => exact ⟨rfl, rfl, rfl⟩
  | some query =>
      cases query with
      | nil => exact ⟨rfl, rfl, rfl⟩
      | cons c query => exact ⟨rfl, rfl, by simp [extend, queryFront]⟩

theorem Url.extend_text (u : Url) (form : List Char) :
    (u.extend form).text = u.base ++ '?' :: (u.queryFront ++ form) ++ marked '#' u.fragment := by
  obtain ⟨base, fragment, query⟩ := u.extend_parts form
  rw [text, base, fragment, query, marked]

theorem Url.query_front_clear (u : Url) (query : ∀ query, u.query = some query → '#' ∉ query) : '#' ∉ u.queryFront := by
  rw [queryFront]
  cases given : u.query with
  | none => exact List.not_mem_nil
  | some own =>
      cases own with
      | nil => exact List.not_mem_nil
      | cons c rest => simpa using query _ given

theorem Url.query_front_pairs (u : Url) (form : List Char) :
    Form.decode (u.queryFront ++ form) = Form.decode (u.query.getD []) ++ Form.decode form := by
  rw [queryFront]
  cases u.query with
  | none => rfl
  | some own =>
      cases own with
      | nil => rfl
      | cons c rest =>
          rw [Option.getD_some, List.append_assoc, List.singleton_append]
          exact Form.decode_append (c :: rest) form

theorem Url.extend_pairs (u : Url) (form : List Char) (base : Unmarked u.base)
    (query : ∀ query, u.query = some query → '#' ∉ query) (clear : '#' ∉ form) :
    Request.queryPairs (u.extend form).text = Form.decode (u.query.getD []) ++ Form.decode form := by
  have whole : '#' ∉ u.queryFront ++ form := by
    rw [List.mem_append, not_or]
    exact ⟨u.query_front_clear query, clear⟩
  have ends : ∀ c ∈ (marked '#' u.fragment).head?, c = '#' := by
    cases u.fragment <;> simp [marked]
  rw [extend_text, Request.query_pairs_of _ _ _ base whole ends, query_front_pairs]

theorem Url.cut_extended (u : Url) (form : List Char) (base : Unmarked u.base)
    (query : ∀ query, u.query = some query → '#' ∉ query) (clear : '#' ∉ form) :
    cut (u.extend form).text = ⟨u.base, some (u.queryFront ++ form), u.fragment⟩ := by
  obtain ⟨sameBase, sameFragment, joined⟩ := u.extend_parts form
  have clean : ∀ query, (u.extend form).query = some query → '#' ∉ query := by
    intro query given
    rw [joined] at given
    cases given
    rw [List.mem_append, not_or]
    exact ⟨u.query_front_clear ‹_›, clear⟩
  rw [cut_text _ (by rwa [sameBase]) clean, sameBase, sameFragment, joined]

namespace Provider

theorem authorization_pairs_inj (p : Provider) (state other redirectUri elsewhere : String)
    (same : p.authorizationPairs state redirectUri = p.authorizationPairs other elsewhere) : state = other := by
  unfold authorizationPairs at same
  by_cases first : state = ""
  · by_cases second : other = ""
    · rw [first, second]
    · simp [first, second] at same
  · by_cases second : other = ""
    · simp [first, second] at same
    · simp only [first, second, if_false, List.cons_append, List.nil_append, List.cons.injEq, Prod.mk.injEq] at same
      exact same.2.2.2.2.1.2

theorem authorization_url_inj (p : Provider) (state other redirectUri elsewhere : String)
    (same : p.authorizationUrl state redirectUri = p.authorizationUrl other elsewhere) : state = other := by
  have texts := congrArg String.toList same
  simp only [authorizationUrl, Url.toString, String.toList_ofList, Url.extend_text] at texts
  have forms := List.append_cancel_left (List.cons.inj (List.append_cancel_left (List.append_cancel_right texts))).2
  have pairs := congrArg Form.decode forms
  rw [Form.decode_encode, Form.decode_encode] at pairs
  exact authorization_pairs_inj p state other redirectUri elsewhere pairs

theorem authorization_url_pairs (p : Provider) (text : String) (read : Url.ofString text = .ok p.authorization)
    (state redirectUri : String) :
    Request.queryPairs (p.authorizationUrl state redirectUri).toList =
      Form.decode (p.authorization.query.getD []) ++ p.authorizationPairs state redirectUri := by
  obtain ⟨base, query⟩ := Url.read_unmarked _ _ read
  rw [authorizationUrl, Url.toString, String.toList_ofList,
    Url.extend_pairs _ _ base query (Form.encode_without_fragment _), Form.decode_encode]

theorem authorization_state (p : Provider) (text : String) (read : Url.ofString text = .ok p.authorization)
    (free : ∀ value, ("state", value) ∉ Form.decode (p.authorization.query.getD [])) (state redirectUri : String)
    (filled : state ≠ "") : Request.parameter? (p.authorizationUrl state redirectUri) "state" = some state := by
  have missing : (Form.decode (p.authorization.query.getD [])).lookup "state" = none := by
    rw [List.lookup_eq_none_iff]
    intro pair member
    obtain ⟨name, value⟩ := pair
    apply bne_iff_ne.mpr
    intro same
    subst same
    exact free value member
  rw [Request.parameter?, p.authorization_url_pairs text read, Form.value?, List.lookup_append, missing, Option.none_or,
    authorizationPairs, if_neg filled]
  rfl

theorem authorization_url_extends (p : Provider) (text : String) (read : Url.ofString text = .ok p.authorization)
    (state redirectUri : String) :
    Url.cut p.authorization.toString.toList =
        ⟨p.authorization.base, p.authorization.query, p.authorization.fragment⟩ ∧
      ∃ query,
        Url.cut (p.authorizationUrl state redirectUri).toList =
            ⟨p.authorization.base, some query, p.authorization.fragment⟩ ∧
          Form.decode query =
            Form.decode (p.authorization.query.getD []) ++
              [("response_type", "code"), ("client_id", p.clientId), ("scope", p.scopes),
                ("redirect_uri", redirectUri)] ++
              if state = "" then [] else [("state", state)] := by
  obtain ⟨base, query⟩ := Url.read_unmarked _ _ read
  refine ⟨?_, p.authorization.queryFront ++ Form.encode (p.authorizationPairs state redirectUri), ?_, ?_⟩
  · rw [Url.toString, String.toList_ofList]
    exact Url.cut_text _ base query
  · rw [authorizationUrl, Url.toString, String.toList_ofList]
    exact Url.cut_extended _ _ base query (Form.encode_without_fragment _)
  · rw [Url.query_front_pairs, Form.decode_encode, authorizationPairs, List.append_assoc]

-- A provider whose address has a query of its own, open at its end, and a fragment with both marks in it.
def sampleMarked : Provider where
  authorization := ⟨"http".toList, some ⟨[], [], .name ['i'], none⟩, .segments [['a']], some "state=x&".toList,
    some "f?#".toList⟩
  tokens := ⟨"http".toList, some ⟨[], [], .name ['i'], none⟩, .segments [['t']], none, none⟩
  userinfo := ⟨"http".toList, some ⟨[], [], .name ['i'], none⟩, .segments [['u']], none, none⟩
  clientId := "c&state=y#"
  clientSecret := "s"
  scopes := "a+b %26é"

theorem authorization_url_extends_marked :
    Url.ofString "http://i/a?state=x&#f?#" = .ok sampleMarked.authorization ∧
      ∃ query,
        Url.cut (sampleMarked.authorizationUrl "=&?#" "https://h&state=z/cb").toList =
            ⟨"http://i/a".toList, some query, some "f?#".toList⟩ ∧
          Form.decode query =
            [("state", "x"), ("response_type", "code"), ("client_id", "c&state=y#"), ("scope", "a+b %26é"),
              ("redirect_uri", "https://h&state=z/cb"), ("state", "=&?#")] := by
  have read : Url.ofString "http://i/a?state=x&#f?#" = .ok sampleMarked.authorization := by rfl
  obtain ⟨_, query, cut, pairs⟩ := authorization_url_extends sampleMarked _ read "=&?#" "https://h&state=z/cb"
  have own : Form.decode (sampleMarked.authorization.query.getD []) = [("state", "x")] := by decide
  rw [own] at pairs
  exact ⟨read, query, cut, pairs⟩

end Provider

end LoginGateway
