import LoginGateway.Proofs.Token.Authenticity

/-!
Tokens in which one character has been replaced. A tag is as long as any other, so nothing is left to chance but a message
of the same length that has the same tag: a change of the tag or of a point is noticed whatever the digest does.
-/
set_option autoImplicit false

namespace LoginGateway.Token

theorem signature_length (key : Bytes) (message : List Char) : (signature key message).length = 43 := by
  rw [signature, encode, Base64.encode_length, Hmac.sha256_length]

theorem signature_eq_iff (key : Bytes) (message other : List Char) :
    signature key other = signature key message ↔
      Hmac.sha256 key (Text.Utf8.encode other) = Hmac.sha256 key (Text.Utf8.encode message) := by
  constructor
  · exact encode_inj _ _
  · intro same
    rw [signature, signature, same]

def spelled (header payload : Bytes) : List Char := encode header ++ '.' :: encode payload

theorem spelled_points (header payload : Bytes) : (spelled header payload).count '.' = 1 := by
  simp [spelled, List.count_eq_zero.mpr (encode_without_point _)]

theorem spelled_symbols (header payload : Bytes) (c : Char) (member : c ∈ spelled header payload) :
    c = '.' ∨ (Base64.Alphabet.urlSafe.sextet? c).isSome := by
  have symbols (bytes : Bytes) : c ∈ encode bytes → (Base64.Alphabet.urlSafe.sextet? c).isSome :=
    Base64.decode_symbols .urlSafe (encode bytes) bytes (decode_encode bytes) c
  rw [spelled, List.mem_append, List.mem_cons] at member
  rcases member with header | point | payload
  · exact .inr (symbols _ header)
  · exact .inl point
  · exact .inr (symbols _ payload)

theorem message_spelled (claims : Claims) : message claims = spelled (Text.utf8 Header.text) (Text.utf8 claims.text) := rfl

theorem verified_spelled (key : Bytes) (token : String) (claims : Claims)
    (verified : verify ⟨[key]⟩ token = .ok claims) :
    ∃ header payload, token.toList = spelled header payload ++ '.' :: signature key (spelled header payload) := by
  obtain ⟨header, payload, tag, whole, _, _, ⟨other, member, _, signed⟩, ⟨bytes, _, rfl, _⟩, record, _, rfl, _⟩ :=
    (verify_ok_iff_authentic _ _ _).mp verified
  cases List.mem_singleton.mp member
  exact ⟨bytes, record, by rw [whole, signed]; rfl⟩

def Collides (key : Bytes) (message changed : List Char) : Prop :=
  changed ≠ message ∧ Hmac.sha256 key (Text.Utf8.encode changed) = Hmac.sha256 key (Text.Utf8.encode message)

-- A tag is as long as any other, so the changed token is cut where the first one was, and the change is in front of
-- the cut.
theorem change_unnoticed (key : Bytes) (claims found : Claims) (front back : List Char) (x y : Char)
    (whole : signWith key claims = front ++ x :: back) (different : y ≠ x)
    (verified : verify ⟨[key]⟩ (String.ofList (front ++ y :: back)) = .ok found) :
    ∃ header payload rest, message claims = front ++ x :: rest ∧ spelled header payload = front ++ y :: rest ∧
      back = rest ++ '.' :: signature key (message claims) ∧ Collides key (message claims) (front ++ y :: rest) := by
  obtain ⟨header, payload, changed⟩ := verified_spelled key _ found verified
  rw [String.toList_ofList] at changed
  have same : ('.' :: signature key (message claims)).length = ('.' :: signature key (spelled header payload)).length := by
    rw [List.length_cons, List.length_cons, signature_length, signature_length]
  rcases Text.replaced_cut front back _ _ _ _ x y whole.symm changed same with ⟨rest, first, second, tail, tags⟩ | heads
  · refine ⟨header, payload, rest, first, second, tail, ?_, ?_⟩
    · rw [first]
      intro equal
      exact different (List.cons.inj (List.append_cancel_left equal)).1
    · rw [← second]
      exact (signature_eq_iff key _ _).mp (List.cons.inj tags).2
  · rw [heads] at changed
    have equal : front ++ y :: back = front ++ x :: back := changed.trans whole
    exact absurd (List.cons.inj (List.append_cancel_left equal)).1 different

theorem change_between_symbols (key : Bytes) (claims found : Claims) (front back : List Char) (x y : Char)
    (whole : signWith key claims = front ++ x :: back) (different : y ≠ x)
    (verified : verify ⟨[key]⟩ (String.ofList (front ++ y :: back)) = .ok found) :
    x ≠ '.' ∧ '.' ∈ back ∧ (Base64.Alphabet.urlSafe.sextet? y).isSome := by
  obtain ⟨header, payload, rest, first, second, tail, _⟩ :=
    change_unnoticed key claims found front back x y whole different verified
  have points : (front ++ x :: rest).count '.' = (front ++ y :: rest).count '.' := by
    rw [← first, ← second, message_spelled, spelled_points, spelled_points]
  have level : (if x = '.' then 1 else 0) = if y = '.' then 1 else 0 := by
    simpa [List.count_append, List.count_cons] using points
  have kept : x ≠ '.' ∧ y ≠ '.' := by
    by_cases point : x = '.'
    · rw [if_pos point, if_neg (point ▸ different)] at level
      cases level
    · by_cases made : y = '.'
      · rw [if_neg point, if_pos made] at level
        cases level
      · exact ⟨point, made⟩
  refine ⟨kept.1, by simp [tail], ?_⟩
  exact (spelled_symbols header payload y (by simp [second])).resolve_left kept.2

-- In the last clause the change is of a point, in the tag, or to what is none of the symbols.
theorem tampering_is_noticed (claims : Claims) (key : Bytes) (usable : key ≠ []) :
    ∃ header payload tag,
      sign ⟨[key]⟩ claims = .ok (String.ofList (header ++ '.' :: payload ++ '.' :: tag)) ∧
      '.' ∉ header ∧ '.' ∉ payload ∧ '.' ∉ tag ∧
      ∀ front x back, header ++ '.' :: payload ++ '.' :: tag = front ++ x :: back → ∀ y, y ≠ x →
        (verify ⟨[key]⟩ (String.ofList (front ++ y :: back)) = .error .noValidKey ∨
          ∃ changed, front ++ y :: back = changed ++ '.' :: tag ∧ Collides key (header ++ '.' :: payload) changed) ∧
        (x = '.' ∨ '.' ∉ back ∨ Base64.Alphabet.urlSafe.sextet? y = none →
          verify ⟨[key]⟩ (String.ofList (front ++ y :: back)) = .error .noValidKey) := by
  have signing : (⟨[key]⟩ : KeySet).signingKey = .ok key := (KeySet.signing_key_iff _ _).mpr ⟨usable, [], rfl⟩
  have signed : sign ⟨[key]⟩ claims = .ok (String.ofList (signWith key claims)) :=
    (sign_ok_iff _ _ _).mpr ⟨key, signing, rfl⟩
  refine ⟨encode (Text.utf8 Header.text), encode (Text.utf8 claims.text), signature key (message claims), signed,
    encode_without_point _, encode_without_point _, encode_without_point _, ?_⟩
  intro front x back whole y different
  cases answer : verify ⟨[key]⟩ (String.ofList (front ++ y :: back)) with
  | error e =>
      obtain ⟨rfl, _⟩ := (verify_error_iff _ _ _).mp answer
      exact ⟨.inl rfl, fun _ => rfl⟩
  | ok found =>
      obtain ⟨_, _, rest, _, _, tail, collides⟩ :=
        change_unnoticed key claims found front back x y whole different answer
      obtain ⟨symbol, later, replaced⟩ :=
        change_between_symbols key claims found front back x y whole different answer
      constructor
      · exact .inr ⟨front ++ y :: rest, by rw [tail, List.append_assoc, List.cons_append], collides⟩
      · rintro (point | last | other)
        · exact absurd point symbol
        · exact absurd later last
        · rw [other] at replaced
          cases replaced

theorem tampering_is_noticed_at_points :
    ([7] : Bytes) ≠ [] ∧ ∃ header payload tag,
      sign ⟨[[7]]⟩ ⟨"app", [], 9, 0, 0, .session "é"⟩ =
        .ok (String.ofList ('e' :: header ++ '.' :: payload ++ '.' :: tag)) ∧
      verify ⟨[[7]]⟩ (String.ofList ('e' :: header ++ 'A' :: (payload ++ '.' :: tag))) = .error .noValidKey ∧
      verify ⟨[[7]]⟩ (String.ofList ('e' :: header ++ '.' :: payload ++ 'A' :: tag)) = .error .noValidKey ∧
      verify ⟨[[7]]⟩ (String.ofList ('.' :: (header ++ '.' :: payload ++ '.' :: tag))) = .error .noValidKey := by
  have usable : ([7] : Bytes) ≠ [] := by decide
  obtain ⟨header, payload, tag, signed, _, _, _, noticed⟩ :=
    tampering_is_noticed ⟨"app", [], 9, 0, 0, .session "é"⟩ [7] usable
  obtain ⟨key, _, made⟩ := (sign_ok_iff ⟨[[7]]⟩ _ _).mp signed
  obtain ⟨rest, first⟩ : ∃ rest, signWith key ⟨"app", [], 9, 0, 0, .session "é"⟩ = 'e' :: rest := ⟨_, rfl⟩
  have whole := (String.ofList_injective made).trans first
  cases header with
  | nil => cases whole
  | cons c header =>
      cases (List.cons.inj whole).1
      refine ⟨usable, header, payload, tag, signed, ?_, ?_, ?_⟩
      · exact (noticed ('e' :: header) '.' (payload ++ '.' :: tag) (by simp) 'A' (by decide)).2 (.inl rfl)
      · exact (noticed ('e' :: header ++ '.' :: payload) '.' tag rfl 'A' (by decide)).2 (.inl rfl)
      · exact (noticed [] 'e' (header ++ '.' :: payload ++ '.' :: tag) rfl '.' (by decide)).2 (.inr (.inr rfl))

end LoginGateway.Token
