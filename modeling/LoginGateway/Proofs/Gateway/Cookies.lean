import LoginGateway.Proofs.Gateway.Keys
import LoginGateway.Proofs.Cookie.Fields

/-!
The session cookie among others. The gateway sees the first cookie with its name in the fields that are
ASCII as a whole, and nothing else that the cookie fields hold; a field with any other byte is not seen at
all, whichever cookie the byte belongs to.
-/
set_option autoImplicit false

namespace LoginGateway

namespace Http

theorem cookie_filtered (name : String) (fields : List Field) (keep : Field → Bool) (missing : cookie? name fields = none) :
    cookie? name (fields.filter keep) = none := by
  rw [cookie?, List.findSome?_eq_none_iff] at missing ⊢
  intro piece member
  obtain ⟨f, kept, inside⟩ := List.mem_flatMap.mp member
  exact missing piece (List.mem_flatMap.mpr ⟨f, (List.mem_filter.mp kept).1, inside⟩)

theorem cookie_ascii (name : String) (front back : List Field) (f : Field) (value : Bytes)
    (before : cookie? name front = none) (here : cookie? name [f] = some value) :
    cookie? name ((front ++ f :: back).filter Field.isAscii) =
      if f.isAscii then some value else cookie? name (back.filter Field.isAscii) := by
  rw [List.filter_append, cookie_append, cookie_filtered name front _ before, Option.none_or]
  by_cases ascii : f.isAscii
  · rw [List.filter_cons_of_pos ascii, if_pos ascii, ← List.singleton_append, cookie_append, here, Option.some_or]
  · rw [List.filter_cons_of_neg ascii, if_neg ascii]

theorem find_first_iff (m : Message) (name : String) (plain : '=' ∉ name.toList) (front back : List Field) (f : Field)
    (value : Bytes) (split : m.cookieFields = front ++ f :: back) (before : cookie? name front = none)
    (here : cookie? name [f] = some value) :
    (Cookie.find? m.cookies? name).map Text.utf8 = some value ↔
      f.isAscii ∨ cookie? name (back.filter Field.isAscii) = some value := by
  rw [find_cookie m name plain, split, cookie_ascii name front back f value before here]
  by_cases ascii : f.isAscii <;> simp [ascii]

theorem find_same (m other : Message) (name : String) (plain : '=' ∉ name.toList)
    (same : cookie? name (other.cookieFields.filter Field.isAscii) = cookie? name (m.cookieFields.filter Field.isAscii)) :
    Cookie.find? other.cookies? name = Cookie.find? m.cookies? name := by
  rw [← find_cookie other name plain, ← find_cookie m name plain] at same
  refine Option.map_injective (fun s t spelled => ?_) same
  exact Option.some.inj (by rw [← Text.Utf8.read_encode s, spelled, Text.Utf8.read_encode t])

end Http

namespace Gateway

theorem handle_same_cookie (g : Gateway) (keys : KeySet) (now : UInt64) (r : Request) (cookies : Option String)
    (script : Script) (same : Cookie.find? cookies g.sessions.cookieName = Cookie.find? r.cookies g.sessions.cookieName) :
    g.handle keys now { r with cookies } script = g.handle keys now r script := by
  have user : g.sessionUser keys now { r with cookies } = g.sessionUser keys now r := by
    rw [sessionUser, sessionUser, same]
  have resolved : g.resolve keys now { r with cookies } = g.resolve keys now r := by
    rw [resolve, resolve, user]
    rfl
  rw [handle, handle, resolved]
  rfl

theorem first_cookie_found_iff (m : Http.Message) (name : String) (plain : '=' ∉ name.toList) :
    (Http.cookie? name m.cookieFields = none → Cookie.find? m.cookies? name = none) ∧
      (∀ front f back value, m.cookieFields = front ++ f :: back → Http.cookie? name front = none →
        Http.cookie? name [f] = some value →
          ((Cookie.find? m.cookies? name).map Text.utf8 = some value ↔
            f.isAscii ∨ Http.cookie? name (back.filter Http.Field.isAscii) = some value)) ∧
      ∀ (g : Gateway) (keys : KeySet) (now : UInt64) (script : Script) (other : Http.Message),
        g.sessions.cookieName = name → other.method = m.method → other.target = m.target → other.host? = m.host? →
          other.chains = m.chains →
          Http.cookie? name (other.cookieFields.filter Http.Field.isAscii) =
            Http.cookie? name (m.cookieFields.filter Http.Field.isAscii) →
          g.handle keys now (.ofMessage other) script = g.handle keys now (.ofMessage m) script := by
  refine ⟨fun missing => ?_, fun front f back value => Http.find_first_iff m name plain front back f value, ?_⟩
  · have unseen := Http.cookie_filtered name _ Http.Field.isAscii missing
    rw [← Http.find_cookie m name plain] at unseen
    exact Option.map_eq_none_iff.mp unseen
  · intro g keys now script other named method target host chains same
    have found := Http.find_same m other name plain same
    have request : Request.ofMessage other = { Request.ofMessage m with cookies := other.cookies? } := by
      rw [Request.ofMessage, Request.ofMessage, method, target, host, chains]
    rw [request]
    apply handle_same_cookie
    rw [named]
    exact found

def sampleMessage (cookies : List String) : Http.Message :=
  ⟨"GET", ⟨[], ['/']⟩, cookies.map fun text => ⟨"cookie", Text.utf8 text⟩, none⟩

theorem first_cookie_found_behind_others :
    '=' ∉ "auth_cookie".toList ∧
      (Cookie.find? (sampleMessage ["auth_cookie; a=b;\tauth_cookie=v=w", "theme=é; auth_cookie=x"]).cookies?
          "auth_cookie").map Text.utf8 = some (Text.utf8 "v=w") ∧
      ∀ keys now script,
        sample.handle keys now (.ofMessage (sampleMessage ["c=d", "auth_cookie=v=w"])) script =
          sample.handle keys now
            (.ofMessage (sampleMessage ["auth_cookie; a=b;\tauth_cookie=v=w", "theme=é; auth_cookie=x"])) script := by
  obtain ⟨_, found, same⟩ := first_cookie_found_iff
    (sampleMessage ["auth_cookie; a=b;\tauth_cookie=v=w", "theme=é; auth_cookie=x"]) "auth_cookie" (by decide)
  refine ⟨by decide, (found [] _ _ (Text.utf8 "v=w") rfl rfl (by decide)).mpr (.inl (by decide)), ?_⟩
  intro keys now script
  exact same sample keys now script (sampleMessage ["c=d", "auth_cookie=v=w"]) rfl rfl rfl rfl rfl (by decide)

-- One cookie with a letter that is not ASCII hides the session cookie behind it; in a field of its own it does not.
theorem first_cookie_hidden_by_another :
    Http.Message.read "GET" "/" [("Cookie", Text.utf8 "theme=é; auth_cookie=v")] none =
        .ok (sampleMessage ["theme=é; auth_cookie=v"]) ∧
      Http.cookie? "auth_cookie" (sampleMessage ["theme=é; auth_cookie=v"]).cookieFields = some (Text.utf8 "v") ∧
      Cookie.find? (sampleMessage ["theme=é; auth_cookie=v"]).cookies? "auth_cookie" = none ∧
      Http.cookie? "auth_cookie" (sampleMessage ["theme=é", "auth_cookie=v"]).cookieFields = some (Text.utf8 "v") ∧
      Cookie.find? (sampleMessage ["theme=é", "auth_cookie=v"]).cookies? "auth_cookie" = some "v" := by
  decide

end Gateway

end LoginGateway
