import LoginGateway.Token.Basic
import LoginGateway.Proofs.Bytes.Base64
import LoginGateway.Proofs.Secret.KeySet
import LoginGateway.Proofs.Text.Split
import LoginGateway.Proofs.Token.Claims

/-!
What a token says does not depend on the key that it is tried under: keys decide whether a token is
accepted, and its own text decides what it is accepted as. So a token that was signed verifies under
every set that still holds its key, as the claims that were signed.
-/
set_option autoImplicit false

namespace LoginGateway.Token

theorem parts_eq_some_iff (cs : List Char) (p : Parts) :
    parts? cs = some p ↔ cs = p.message ++ '.' :: p.signature ∧ '.' ∉ p.payload ∧ '.' ∉ p.signature := by
  constructor
  · intro found
    obtain ⟨⟨message, signature⟩, outer, found⟩ := Option.bind_eq_some_iff.mp found
    obtain ⟨⟨header, payload⟩, inner, found⟩ := Option.bind_eq_some_iff.mp found
    cases found
    obtain ⟨x, point, whole, clear⟩ := Text.cut_last_eq_some _ _ _ _ outer
    obtain ⟨y, pointToo, front, clearToo⟩ := Text.cut_last_eq_some _ _ _ _ inner
    have outerPoint : x = '.' := by simpa using point
    have innerPoint : y = '.' := by simpa using pointToo
    subst outerPoint innerPoint
    refine ⟨by rw [whole, front]; rfl, fun member => ?_, fun member => ?_⟩
    · simpa using clearToo '.' member
    · simpa using clear '.' member
  · rintro ⟨whole, payload, signature⟩
    have clear (part : List Char) (free : '.' ∉ part) : ∀ c ∈ part, (c = '.' : Bool) = false :=
      fun c member => decide_eq_false fun same => free (same ▸ member)
    have outer : Text.cutLast? (· = '.') cs = some (p.message, p.signature) :=
      whole ▸ Text.cut_last_append _ _ '.' _ (clear _ signature) rfl
    have inner : Text.cutLast? (· = '.') p.message = some (p.header, p.payload) :=
      Text.cut_last_append _ _ '.' _ (clear _ payload) rfl
    simp only [parts?, outer, inner, Option.bind_eq_bind, Option.bind_some, Option.pure_def]

theorem encode_without_point (bytes : Bytes) : '.' ∉ encode bytes := fun member =>
  Base64.encode_symbols .urlSafe (fun c => c ≠ '.') (by decide) bytes '.' member rfl

theorem decode_encode (bytes : Bytes) : decode? (encode bytes) = some bytes :=
  Base64.decode_encode .urlSafe Base64.url_safe_sound bytes

theorem encode_inj (bytes other : Bytes) (same : encode bytes = encode other) : bytes = other := by
  have decoded := congrArg decode? same
  rw [decode_encode, decode_encode] at decoded
  exact Option.some.inj decoded

def signedParts (key : Bytes) (claims : Claims) : Parts :=
  ⟨encode (Text.utf8 Header.text), encode (Text.utf8 claims.text), signature key (message claims)⟩

theorem parts_sign_with (key : Bytes) (claims : Claims) :
    parts? (signWith key claims) = some (signedParts key claims) := by
  have whole : signWith key claims = (signedParts key claims).message ++ '.' :: (signedParts key claims).signature := by
    simp only [signWith, Parts.message, signedParts, message]
  refine (parts_eq_some_iff _ _).mpr ⟨whole, ?_, ?_⟩
  · dsimp only [signedParts]
    exact encode_without_point _
  · dsimp only [signedParts, signature]
    exact encode_without_point _

theorem header_accepted : Header.accepts (.fields [("typ", .str "JWT"), ("alg", .str "HS256")]) := by
  decide

theorem signed_content (key : Bytes) (claims : Claims) : (signedParts key claims).content? = some claims := by
  have plain : Json.isPlain (.fields [("typ", .str "JWT"), ("alg", .str "HS256")]) := by
    apply Json.plain_fields
    simp [Json.str, Json.isPlain]
  have header : (signedParts key claims).hasHeader = true := by
    simp only [Parts.hasHeader, signedParts, decode_encode, Option.bind_some]
    rw [Header.text, Json.read_compact _ plain]
    exact header_accepted
  rw [Parts.content?, header, if_pos rfl, Parts.claims?, signedParts, decode_encode, Option.bind_some,
    Claims.read_text]

theorem signed_by_key (key : Bytes) (claims : Claims) : (signedParts key claims).isSignedBy key := by
  simp only [Parts.isSignedBy, Parts.message, signedParts, message, decide_true]

-- The keys are tried in turn, but the first that fits and every later one give the same claims.
theorem find_content (keys : List Bytes) (p : Parts) (claims : Claims) :
    keys.findSome? (verifyWith? · p) = some claims ↔
      (∃ key ∈ keys, p.isSignedBy key) ∧ p.content? = some claims := by
  induction keys with
  | nil => simp
  | cons key keys ih =>
      by_cases fits : p.isSignedBy key
      · have here : verifyWith? key p = p.content? := if_pos fits
        rw [List.findSome?_cons, here]
        cases content : p.content? with
        | none =>
            rw [content] at ih
            simpa using ih
        | some found => simp [fits]
      · have here : verifyWith? key p = none := if_neg fits
        rw [List.findSome?_cons, here]
        simpa [fits] using ih

def IsSigned (set : KeySet) (token : String) : Prop :=
  ∃ p, parts? token.toList = some p ∧ ∃ key ∈ set.verificationKeys, p.isSignedBy key

def content? (token : String) : Option Claims := (parts? token.toList).bind Parts.content?

theorem verify_ok_iff (set : KeySet) (token : String) (claims : Claims) :
    verify set token = .ok claims ↔ IsSigned set token ∧ content? token = some claims := by
  rw [verify, IsSigned, content?]
  cases parts? token.toList with
  | none => simp
  | some p =>
      rw [Option.bind_some, Option.bind_some]
      constructor
      · intro verified
        cases search : set.verificationKeys.findSome? (verifyWith? · p) with
        | none => rw [search] at verified; cases verified
        | some found =>
            rw [search] at verified
            cases verified
            obtain ⟨signed, content⟩ := (find_content _ _ _).mp search
            exact ⟨⟨p, rfl, signed⟩, content⟩
      · intro found
        obtain ⟨⟨q, same, signed⟩, content⟩ := found
        cases same
        rw [(find_content _ _ _).mpr ⟨signed, content⟩]

theorem decoded_without_point (cs : List Char) (bytes : Bytes) (decoded : decode? cs = some bytes) : '.' ∉ cs :=
  fun member => absurd (Base64.decode_symbols _ cs bytes decoded '.' member) (by decide)

def IsTagged (set : KeySet) (token : String) : Prop :=
  ∃ header payload, '.' ∉ header ∧ '.' ∉ payload ∧ ∃ key ∈ set.keys, key ≠ [] ∧
    token.toList = header ++ '.' :: payload ++ '.' :: signature key (header ++ '.' :: payload)

theorem verified_tagged (set : KeySet) (token : String) (claims : Claims) (verified : verify set token = .ok claims) :
    IsTagged set token := by
  obtain ⟨⟨p, found, key, kept, signed⟩, content⟩ := (verify_ok_iff set token claims).mp verified
  obtain ⟨whole, payload, _⟩ := (parts_eq_some_iff token.toList p).mp found
  have member := (KeySet.mem_verification_keys set key).mp kept
  have header : '.' ∉ p.header := by
    rw [content?, found, Option.bind_some, Parts.content?] at content
    by_cases accepted : p.hasHeader
    · rw [Parts.hasHeader] at accepted
      cases decoded : decode? p.header with
      | none => rw [decoded] at accepted; cases accepted
      | some bytes => exact decoded_without_point p.header bytes decoded
    · rw [if_neg accepted] at content
      cases content
  refine ⟨p.header, p.payload, header, payload, key, member.1, member.2, ?_⟩
  have tag : p.signature = signature key p.message := of_decide_eq_true signed
  rw [whole, tag]
  rfl

theorem content_sign_with (key : Bytes) (claims : Claims) :
    content? (String.ofList (signWith key claims)) = some claims := by
  rw [content?, String.toList_ofList, parts_sign_with, Option.bind_some, signed_content]

theorem sign_ok_iff (set : KeySet) (claims : Claims) (token : String) :
    sign set claims = .ok token ↔
      ∃ key, set.signingKey = .ok key ∧ token = String.ofList (signWith key claims) := by
  rw [sign]
  cases set.signingKey with
  | error e => simp [Except.map]
  | ok key => simp [Except.map, eq_comm]

theorem sign_given (set : KeySet) (claims : Claims) (key : Bytes) (signing : set.signingKey = .ok key) :
    ∃ token, sign set claims = .ok token :=
  ⟨String.ofList (signWith key claims), (sign_ok_iff set claims _).mpr ⟨key, signing, rfl⟩⟩

theorem content_signed (set : KeySet) (claims : Claims) (token : String) (signed : sign set claims = .ok token) :
    content? token = some claims := by
  obtain ⟨key, _, rfl⟩ := (sign_ok_iff set claims token).mp signed
  exact content_sign_with key claims

theorem signed_all (P : Char → Prop) (symbol : ∀ n, n < 64 → P (Base64.Alphabet.urlSafe.symbol n)) (point : P '.')
    (set : KeySet) (claims : Claims) (token : String) (signed : sign set claims = .ok token) : ∀ c ∈ token.toList, P c := by
  obtain ⟨key, _, rfl⟩ := (sign_ok_iff set claims token).mp signed
  have symbols (bytes : Bytes) : ∀ c ∈ encode bytes, P c := Base64.encode_symbols .urlSafe P symbol bytes
  rw [String.toList_ofList]
  intro c member
  simp only [signWith, message, List.append_assoc, List.cons_append, List.mem_append, List.mem_cons] at member
  rcases member with header | rfl | payload | rfl | tag
  · exact symbols _ c header
  · exact point
  · exact symbols _ c payload
  · exact point
  · exact symbols _ c tag

theorem signed_symbols (set : KeySet) (claims : Claims) (token : String) (signed : sign set claims = .ok token) :
    ∀ c ∈ token.toList, c ≠ ';' ∧ Text.isBlank c = false :=
  signed_all (fun c => c ≠ ';' ∧ Text.isBlank c = false) (by decide) (by decide) set claims token signed

theorem verify_sign_with (set : KeySet) (key : Bytes) (claims : Claims) (usable : key ≠ [])
    (kept : key ∈ set.keys) : verify set (String.ofList (signWith key claims)) = .ok claims := by
  apply (verify_ok_iff _ _ _).mpr
  have verifies := (KeySet.mem_verification_keys set key).mpr ⟨kept, usable⟩
  refine ⟨⟨signedParts key claims, ?_, key, verifies, signed_by_key key claims⟩, content_sign_with key claims⟩
  rw [String.toList_ofList, parts_sign_with]

theorem verify_after_rotation (claims : Claims) (set later : KeySet) (key : Bytes) (others : List Bytes)
    (first : set.keys = key :: others) (usable : key ≠ []) (kept : key ∈ later.keys) :
    ∃ token, sign set claims = .ok token ∧ verify later token = .ok claims := by
  refine ⟨String.ofList (signWith key claims), ?_, verify_sign_with later key claims usable kept⟩
  rw [sign, (KeySet.signing_key_iff set key).mpr ⟨usable, others, first⟩]
  rfl

theorem verify_after_rotation_past_other_keys :
    (⟨[[1, 2], []]⟩ : KeySet).keys = [1, 2] :: [[]] ∧ ([1, 2] : Bytes) ≠ [] ∧
      [1, 2] ∈ (⟨[[], [7], [1, 2], [1, 2]]⟩ : KeySet).keys ∧
      ∃ token, sign ⟨[[1, 2], []]⟩ ⟨"\"\\\n", [], 0xFFFFFFFFFFFFFFFF, 0, 9, .session "a\",\"sub\":\"é😀"⟩ = .ok token ∧
        verify ⟨[[], [7], [1, 2], [1, 2]]⟩ token =
          .ok ⟨"\"\\\n", [], 0xFFFFFFFFFFFFFFFF, 0, 9, .session "a\",\"sub\":\"é😀"⟩ :=
  ⟨rfl, by decide, by decide, verify_after_rotation _ _ _ _ _ rfl (by decide) (by decide)⟩

def IsUrlSafe (c : Char) : Prop := c.isAlphanum ∨ c = '-' ∨ c = '_'

instance : DecidablePred IsUrlSafe := fun c => inferInstanceAs (Decidable (c.isAlphanum ∨ c = '-' ∨ c = '_'))

theorem encode_filled (bytes : Bytes) (filled : bytes ≠ []) : encode bytes ≠ [] := by
  intro blank
  have length := Base64.encode_length .urlSafe bytes
  have least := List.length_pos_iff.mpr filled
  rw [encode] at blank
  rw [blank, List.length_nil] at length
  omega

theorem header_filled : Text.utf8 Header.text ≠ [] := by decide

theorem signed_segments (set : KeySet) (claims : Claims) (token : String) (signed : sign set claims = .ok token) :
    (token.toList.splitOn '.').length = 3 ∧
      ∀ segment ∈ token.toList.splitOn '.', segment ≠ [] ∧ ∀ c ∈ segment, IsUrlSafe c := by
  obtain ⟨key, _, rfl⟩ := (sign_ok_iff set claims token).mp signed
  have symbols (bytes : Bytes) : ∀ c ∈ encode bytes, IsUrlSafe c := Base64.encode_symbols .urlSafe IsUrlSafe (by decide) bytes
  have tagged : Hmac.sha256 key (Text.Utf8.encode (message claims)) ≠ [] :=
    List.ne_nil_of_length_pos (Hmac.sha256_length key _ ▸ (by decide : 0 < 32))
  have single (bytes : Bytes) : (encode bytes).splitOn '.' = [encode bytes] :=
    List.splitOn_eq_singleton (encode_without_point bytes)
  have split : (signWith key claims).splitOn '.' =
      [encode (Text.utf8 Header.text), encode (Text.utf8 claims.text), signature key (message claims)] := by
    rw [signWith, List.splitOn_append_cons_self, message, List.splitOn_append_cons_self, signature, single, single, single]
    rfl
  rw [String.toList_ofList, split]
  refine ⟨rfl, ?_⟩
  simp only [List.forall_mem_cons]
  exact ⟨⟨encode_filled _ header_filled, symbols _⟩, ⟨encode_filled _ claims.text_filled, symbols _⟩,
    ⟨encode_filled _ tagged, symbols _⟩, by simp⟩

end LoginGateway.Token
