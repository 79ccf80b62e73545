import LoginGateway.Session
import LoginGateway.Proofs.Cookie
import LoginGateway.Proofs.Time.HttpDate
import LoginGateway.Proofs.Token.Lifetime

/-!
What a session cookie is set with. The user's name goes into the token and nowhere else, and a token is spelled in letters
that mean nothing to a browser, so no name, however it is chosen, adds an attribute to the cookie or takes one away.
-/
set_option autoImplicit false

namespace LoginGateway

def Cookie.attributes (header : String) : List String := (pieces header.toList).map String.ofList

theorem Cookie.pieces_next (front back : List Char) (single : ';' ∉ front) (trimmed : Text.trim front = front) :
    pieces (front ++ ';' :: ' ' :: back) = front :: pieces back := by
  rw [pieces_append, pieces_spaced, pieces_single front single, trimmed, List.singleton_append]

def SessionCookie.expiry (c : SessionCookie) : List Char := "Expires=".toList ++ HttpDate.text c.expires

theorem SessionCookie.expiry_single (c : SessionCookie) : ';' ∉ c.expiry := by
  unfold expiry
  rw [List.mem_append, not_or]
  exact ⟨by decide, fun member => absurd (HttpDate.text_letters c.expires member) (by decide)⟩

-- A date ends with its zone, so nothing is stripped off it.
theorem SessionCookie.expiry_trimmed (c : SessionCookie) : Text.trim c.expiry = c.expiry := by
  have zone : (HttpDate.text c.expires).getLast? = some 'T' := by
    rw [HttpDate.text, List.getLast?_append]
    rfl
  unfold expiry
  refine (Text.strip_eq_self_iff _ _).mpr ⟨by simp [Text.isBlank], fun last ends => ?_⟩
  rw [List.getLast?_append, zone] at ends
  cases ends
  decide

theorem SessionCookie.header_attributes (c : SessionCookie) (single : ';' ∉ c.name.toList)
    (trimmed : Text.trim c.name.toList = c.name.toList) (bare : Cookie.IsBare c.value.toList) :
    Cookie.attributes c.header =
      [c.name ++ "=" ++ c.value, "Path=/", "Expires=" ++ HttpDate.toString c.expires, "HttpOnly", "Secure",
        "SameSite=Lax"] := by
  obtain ⟨first, _⟩ := (Text.strip_eq_self_iff _ _).mp trimmed
  have text : c.header.toList = (c.name.toList ++ '=' :: c.value.toList) ++ ';' :: ' ' :: ("Path=/".toList ++ ';' :: ' ' ::
      (c.expiry ++ ';' :: ' ' :: ("HttpOnly".toList ++ ';' :: ' ' ::
        ("Secure".toList ++ ';' :: ' ' :: "SameSite=Lax".toList)))) := by
    unfold expiry
    simp [header, HttpDate.toString]
  have pair : Text.trim (c.name.toList ++ '=' :: c.value.toList) = c.name.toList ++ '=' :: c.value.toList := by
    rw [Cookie.trim_pair _ _ bare, (Text.drop_while_self_iff Text.isBlank _).mpr first]
  have last : Text.trim "SameSite=Lax".toList = "SameSite=Lax".toList := by decide
  rw [Cookie.attributes, text, Cookie.pieces_next _ _ (Cookie.pair_single _ _ single bare) pair,
    Cookie.pieces_next _ _ (by decide) (by decide), Cookie.pieces_next _ _ c.expiry_single c.expiry_trimmed,
    Cookie.pieces_next _ _ (by decide) (by decide), Cookie.pieces_next _ _ (by decide) (by decide),
    Cookie.pieces_single _ (by decide), last]
  unfold expiry
  simp [HttpDate.toString, String.ext_iff]

namespace Sessions

theorem issued_attributes (s : Sessions) (set : KeySet) (key : Bytes) (others : List Bytes)
    (first : set.keys = key :: others) (usable : key ≠ []) (single : ';' ∉ s.cookieName.toList)
    (trimmed : Text.trim s.cookieName.toList = s.cookieName.toList) (username : String) (now : UInt64)
    (early : now.toNat + 7200 < (HttpDate.newYear 10000).seconds) :
    ∃ cookie ends, s.issue set now username = .ok cookie ∧
      (cookie.value.toList.splitOn '.').length = 3 ∧
      (∀ segment ∈ cookie.value.toList.splitOn '.', segment ≠ [] ∧ ∀ c ∈ segment, Token.IsUrlSafe c) ∧
      (∀ t : HttpDate.Stamp, t.IsReal ∧ t.seconds = now.toNat + 7200 ↔ t = ends) ∧
      Cookie.attributes cookie.header =
        [s.cookieName ++ "=" ++ cookie.value, "Path=/", "Expires=" ++ String.ofList ends.text, "HttpOnly", "Secure",
          "SameSite=Lax"] := by
  obtain ⟨cookie, issued⟩ := s.issue_given set now username key ((KeySet.signing_key_iff set key).mpr ⟨usable, others, first⟩)
  obtain ⟨signed, name, expires⟩ := s.issued_parts set now username cookie issued
  obtain ⟨three, segments⟩ := Token.signed_segments set _ _ signed
  obtain ⟨ends, made⟩ : ∃ t, t = HttpDate.stampOf (now.toNat + 7200) := ⟨_, rfl⟩
  have only : ∀ t : HttpDate.Stamp, t.IsReal ∧ t.seconds = now.toNat + 7200 ↔ t = ends :=
    fun t => made ▸ HttpDate.stamp_of_iff (now.toNat + 7200) t
  obtain ⟨real, told⟩ := (only ends).mpr rfl
  have lasts : cookie.expires.toNat = now.toNat + 7200 := by
    have span : lifetime.toNat = 7200 := rfl
    have limit : 253402300800 < Text.Decimal.wordLimit := by decide
    rw [HttpDate.new_year_seconds] at early
    rw [expires, Claims.later_value, span]
    omega
  have year : ends.date.year ≤ 9999 := by
    rw [← HttpDate.before_new_year_iff ends real, told]
    exact early
  have date := HttpDate.text_spelled ends real year cookie.expires (told.trans lasts.symm)
  have bare := Token.signed_symbols set _ _ signed
  have listed := cookie.header_attributes (by rw [name]; exact single) (by rw [name]; exact trimmed) bare
  rw [name, HttpDate.toString, date] at listed
  exact ⟨cookie, ends, issued, three, segments, only, listed⟩

-- A name that would end the value, the line and the quotes, and add an attribute.
theorem issued_attributes_of_hostile_name :
    ∃ cookie, issue ⟨"app", "sid"⟩ ⟨[[7]]⟩ 784104577 "ann; Domain=evil.test\r\n\"=,é" = .ok cookie ∧
      (cookie.value.toList.splitOn '.').length = 3 ∧
      Cookie.attributes cookie.header =
        ["sid=" ++ cookie.value, "Path=/", "Expires=Sun, 06 Nov 1994 08:49:37 GMT", "HttpOnly", "Secure",
          "SameSite=Lax"] := by
  have early : (784104577 : UInt64).toNat + 7200 < (HttpDate.newYear 10000).seconds := by
    rw [HttpDate.new_year_seconds]
    decide
  obtain ⟨cookie, ends, issued, three, _, only, listed⟩ := issued_attributes ⟨"app", "sid"⟩ ⟨[[7]]⟩ [7] [] rfl (by decide)
    (by decide) (by decide) "ann; Domain=evil.test\r\n\"=,é" 784104577 early
  have day : (⟨1994, 10, 6⟩ : Calendar.Date).number = 728237 := by
    rw [Calendar.Date.number, Calendar.days_of_eq]
    rfl
  have made : ends = ⟨⟨1994, 10, 6⟩, 8, 49, 37⟩ := by
    rw [← (only _).mp (HttpDate.stamp_of_real _)]
    decide
  have spelled : ends.text = "Sun, 06 Nov 1994 08:49:37 GMT".toList := by
    rw [made, HttpDate.Stamp.text, day]
    rfl
  rw [spelled] at listed
  exact ⟨cookie, issued, three, listed⟩

end Sessions

end LoginGateway
