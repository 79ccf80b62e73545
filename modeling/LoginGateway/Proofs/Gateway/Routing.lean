import LoginGateway.Proofs.Gateway.Login
import LoginGateway.Proofs.Gateway.Resolution

/-!
The way back from the provider. The gateway reads its callback path twice: as the address that the provider is told,
and as the path by which it knows a callback. The two agree where the path is rooted and bears no query of its own.
-/
set_option autoImplicit false

namespace LoginGateway.Gateway

open Http.Target (endsAuthority)
open Request (pathOf)

def dropAuthority (cs : List Char) : List Char := cs.dropWhile fun c => !endsAuthority c

-- A scheme mark that stands in a path or in a query starts no authority.
def afterAuthority (uri : List Char) : List Char :=
  match uri.dropInfix? schemeMark with
  | some (scheme, rest) => if scheme.any endsAuthority then uri else dropAuthority rest
  | none => uri

def orRoot (place : List Char) : List Char := if place = [] then ['/'] else place

-- The target of the request that a browser makes when it is sent to `uri` with a code and a state.
def returnTarget (uri code state : String) : String :=
  let place := ReturnUrl.withoutFragment (orRoot (afterAuthority uri.toList))
  String.ofList (place ++ (if '?' ∈ place then '&' else '?') :: Form.encode [("code", code), ("state", state)])

def IsAuthority (cs : List Char) : Prop := ∀ c ∈ cs, endsAuthority c = false

-- The last two cases are accidents: the path of the address happens to be the text that the gateway compares with.
inductive LeadsBack (g : Gateway) (r : Request) : Prop
  | absolute (scheme rest : List Char) (address : g.callbackPath.toList.dropInfix? schemeMark = some (scheme, rest))
      (plain : IsAuthority scheme) (unmarked : Url.Unmarked rest)
  | relative (host : String) (path : g.callbackPath.toList.dropInfix? schemeMark = none)
      (given : r.host.map Text.trimmed = some host) (plain : IsAuthority host.toList)
      (rooted : g.callbackPath.toList.head? = some '/') (unmarked : Url.Unmarked g.callbackPath.toList)
  | embedded (front rest : List Char) (address : g.callbackPath.toList.dropInfix? schemeMark = some (front, rest))
      (odd : ¬ IsAuthority front) (same : pathOf g.callbackPath.toList = fromSlash rest)
  | borrowed (host : String) (path : g.callbackPath.toList.dropInfix? schemeMark = none)
      (given : r.host.map Text.trimmed = some host) (marked : ¬ Url.Unmarked host.toList)
      (same : pathOf (dropAuthority host.toList) = g.callbackPath.toList)

theorem ends_authority_iff (c : Char) : endsAuthority c ↔ c = '/' ∨ ¬ Url.IsPart c := by
  simp only [endsAuthority, Url.IsPart, Bool.or_eq_true, decide_eq_true_eq, not_and_or, not_not, or_assoc]

theorem is_authority_iff (cs : List Char) : IsAuthority cs ↔ '/' ∉ cs ∧ Url.Unmarked cs := by
  simp only [IsAuthority, ← Bool.not_eq_true, ends_authority_iff, not_or, not_not]
  constructor
  · exact fun plain => ⟨fun member => (plain '/' member).1 rfl, fun c member => (plain c member).2⟩
  · rintro ⟨rootless, unmarked⟩ c member
    exact ⟨fun same => rootless (same ▸ member), unmarked c member⟩

theorem drop_authority_append (front back : List Char) (plain : IsAuthority front) :
    dropAuthority (front ++ back) = dropAuthority back := by
  apply List.dropWhile_append_of_pos
  intro c member
  simp [plain c member]

theorem authority_cut (cs : List Char) :
    ∃ authority place, cs = authority ++ place ∧ IsAuthority authority ∧ dropAuthority cs = place ∧
      ∀ c ∈ place.head?, endsAuthority c := by
  refine ⟨cs.takeWhile fun c => !endsAuthority c, dropAuthority cs, List.takeWhile_append_dropWhile.symm, ?_, rfl, ?_⟩
  · intro c member
    simpa using List.mem_takeWhile_imp member
  · intro c head
    have stopped := List.head?_dropWhile_not (fun c => !endsAuthority c) cs
    rw [← dropAuthority, Option.mem_def.mp head] at stopped
    simpa using stopped

theorem from_slash_append (authority : List Char) (back : List Char) (plain : IsAuthority authority) :
    fromSlash (authority ++ back) = fromSlash back := by
  have rootless := ((is_authority_iff authority).mp plain).1
  have dropped : (authority ++ back).dropWhile (· ≠ '/') = back.dropWhile (· ≠ '/') := by
    apply List.dropWhile_append_of_pos
    intro c member
    exact decide_eq_true fun same => rootless (same ▸ member)
  rw [fromSlash, dropped]
  rfl

theorem from_slash_nonempty (cs : List Char) : fromSlash cs ≠ [] := by
  rw [fromSlash]
  cases cs.dropWhile (· ≠ '/') with
  | nil => simp
  | cons c rest => simp

theorem place_path_head (place : List Char) (ends : ∀ c ∈ place.head?, endsAuthority c) :
    ∀ c ∈ (pathOf (orRoot place)).head?, c = '/' := by
  cases place with
  | nil =>
      rintro c ⟨⟩
      rfl
  | cons d rest =>
      rcases (ends_authority_iff d).mp (ends d rfl) with rfl | mark
      · rintro c ⟨⟩
        rfl
      · intro c head
        rw [orRoot, if_neg (List.cons_ne_nil d rest), Request.path_cons_of_mark d rest mark] at head
        cases head

theorem address_path_iff (rest : List Char) :
    pathOf (orRoot (dropAuthority rest)) = fromSlash rest ↔ Url.Unmarked rest := by
  obtain ⟨authority, place, rfl, plain, dropped, ends⟩ := authority_cut rest
  have clear := ((is_authority_iff authority).mp plain).2
  rw [dropped, from_slash_append _ _ plain, Url.unmarked_append_iff, and_iff_right clear]
  cases place with
  | nil => exact iff_of_true rfl Url.unmarked_nil
  | cons c rest =>
      rcases (ends_authority_iff c).mp (ends c rfl) with rfl | mark
      · exact Request.path_unmarked_iff ('/' :: rest)
      · rw [orRoot, if_neg (List.cons_ne_nil c rest), Request.path_cons_of_mark c rest mark]
        exact iff_of_false (from_slash_nonempty _).symm fun unmarked => mark (unmarked c List.mem_cons_self)

theorem relative_path_iff (path : List Char) (filled : path ≠ []) :
    pathOf (orRoot (dropAuthority path)) = path ↔ path.head? = some '/' ∧ Url.Unmarked path := by
  obtain ⟨c, rest, rfl⟩ := List.exists_cons_of_ne_nil filled
  obtain ⟨_, _, _, _, rfl, ends⟩ := authority_cut (c :: rest)
  have rooted (slash : c = '/') : orRoot (dropAuthority (c :: rest)) = c :: rest := by
    rw [slash]
    rfl
  constructor
  · intro same
    have head := place_path_head _ ends c (by rw [same]; rfl)
    rw [rooted head] at same
    exact ⟨congrArg some head, (Request.path_unmarked_iff _).mp same⟩
  · rintro ⟨head, unmarked⟩
    rw [rooted (Option.some.inj head)]
    exact (Request.path_unmarked_iff _).mpr unmarked

-- A host that ends early brings a path of its own, in front of which nothing of the callback path fits.
theorem borrowed_path_iff (host path : List Char) (odd : ¬ IsAuthority host) :
    pathOf (orRoot (dropAuthority (host ++ path))) = path ↔
      ¬ Url.Unmarked host ∧ pathOf (dropAuthority host) = path := by
  obtain ⟨authority, place, rfl, plain, dropped, _⟩ := authority_cut host
  have clear := ((is_authority_iff authority).mp plain).2
  have own : place ≠ [] := by
    rintro rfl
    exact odd (by rwa [List.append_nil])
  have joined : dropAuthority (authority ++ place ++ path) = place ++ path := by
    rw [dropAuthority, List.dropWhile_append, ← dropAuthority, dropped, if_neg (by simpa using own)]
  rw [joined, dropped, orRoot, if_neg (by simp [own]), Url.unmarked_append_iff, and_iff_right clear]
  by_cases unmarked : Url.Unmarked place
  · rw [Request.path_append_of_unmarked _ _ unmarked]
    refine iff_of_false (fun same => own ?_) fun borrowed => borrowed.1 unmarked
    have whole : Url.Unmarked path := by
      rw [← same]
      exact Url.unmarked_append _ _ unmarked (Request.path_unmarked path)
    rw [(Request.path_unmarked_iff path).mpr whole] at same
    exact List.append_cancel_right (same.trans (List.nil_append path).symm)
  · rw [Request.path_append_of_marked _ _ unmarked, and_iff_right unmarked]

theorem return_path (uri code state : String) (back : Request) (target : back.target = returnTarget uri code state) :
    back.path = pathOf (orRoot (afterAuthority uri.toList)) := by
  generalize placed : ReturnUrl.withoutFragment (orRoot (afterAuthority uri.toList)) = place
  have path : back.path =
      pathOf (place ++ (if '?' ∈ place then '&' else '?') :: Form.encode [("code", code), ("state", state)]) := by
    rw [Request.path, target, returnTarget, placed, String.toList_ofList]
    rfl
  have same : pathOf place = pathOf (orRoot (afterAuthority uri.toList)) := by
    rw [← placed]
    exact Request.path_without_fragment _
  rw [path, ← same]
  by_cases clear : Url.Unmarked place
  · have bare : '?' ∉ place := fun member => (clear '?' member).1 rfl
    rw [if_neg bare, Request.path_append_of_unmarked _ _ clear]
    exact (List.append_nil _).trans ((Request.path_unmarked_iff _).mpr clear).symm
  · exact Request.path_append_of_marked _ _ clear

theorem callback_path_filled (config : Config) (g : Gateway) (start : KeySet)
    (built : ofConfig config = .ok (g, start)) : g.callbackPath.toList ≠ [] := by
  rw [(of_config_parts config g start built).callbackPath]
  have filled : Text.isBlankText config.filled.callbackPath = false := config.filled_is_filled.callbackPath
  intro empty
  rw [Text.isBlankText, empty] at filled
  cases filled

theorem leads_back_address_iff (g : Gateway) (r : Request) (scheme rest : List Char)
    (address : g.callbackPath.toList.dropInfix? schemeMark = some (scheme, rest)) :
    g.LeadsBack r ↔ IsAuthority scheme ∧ Url.Unmarked rest ∨
      ¬ IsAuthority scheme ∧ pathOf g.callbackPath.toList = fromSlash rest := by
  constructor
  · intro back
    cases back with
    | absolute _ _ cut plain unmarked =>
        cases address.symm.trans cut
        exact .inl ⟨plain, unmarked⟩
    | embedded _ _ cut odd same =>
        cases address.symm.trans cut
        exact .inr ⟨odd, same⟩
    | relative _ path => cases address.symm.trans path
    | borrowed _ path => cases address.symm.trans path
  · rintro (⟨plain, unmarked⟩ | ⟨odd, same⟩)
    · exact .absolute scheme rest address plain unmarked
    · exact .embedded scheme rest address odd same

theorem leads_back_path_iff (g : Gateway) (r : Request) (host : String)
    (path : g.callbackPath.toList.dropInfix? schemeMark = none) (given : r.host.map Text.trimmed = some host) :
    g.LeadsBack r ↔
      IsAuthority host.toList ∧ g.callbackPath.toList.head? = some '/' ∧ Url.Unmarked g.callbackPath.toList ∨
      ¬ Url.Unmarked host.toList ∧ pathOf (dropAuthority host.toList) = g.callbackPath.toList := by
  constructor
  · intro back
    cases back with
    | absolute _ _ cut => cases path.symm.trans cut
    | embedded _ _ cut => cases path.symm.trans cut
    | relative _ _ named plain rooted unmarked =>
        cases given.symm.trans named
        exact .inl ⟨plain, rooted, unmarked⟩
    | borrowed _ _ named marked same =>
        cases given.symm.trans named
        exact .inr ⟨marked, same⟩
  · rintro (⟨plain, rooted, unmarked⟩ | ⟨marked, same⟩)
    · exact .relative host path given plain rooted unmarked
    · exact .borrowed host path given marked same

theorem address_leads_back_iff (g : Gateway) (r : Request) (scheme rest : List Char)
    (address : g.callbackPath.toList.dropInfix? schemeMark = some (scheme, rest))
    (filled : g.callbackPath.toList ≠ []) :
    pathOf (orRoot (afterAuthority g.callbackPath.toList)) = g.callbackRoute ↔ g.LeadsBack r := by
  have route : g.callbackRoute = fromSlash rest := by
    rw [callbackRoute, Text.cut_at_eq_drop_infix, address]
  rw [leads_back_address_iff g r scheme rest address, route, afterAuthority, address]
  dsimp only
  by_cases plain : IsAuthority scheme
  · have none : ¬ scheme.any endsAuthority := by simpa [IsAuthority] using plain
    rw [if_neg none, address_path_iff]
    simp [plain]
  · have some : scheme.any endsAuthority := by simpa [IsAuthority] using plain
    rw [if_pos some, orRoot, if_neg filled]
    simp [plain]

theorem path_leads_back_iff (g : Gateway) (r : Request) (host : String)
    (path : g.callbackPath.toList.dropInfix? schemeMark = none) (given : r.host.map Text.trimmed = some host)
    (filled : g.callbackPath.toList ≠ []) :
    pathOf (orRoot (afterAuthority ("https://" ++ host ++ g.callbackPath).toList)) = g.callbackRoute ↔
      g.LeadsBack r := by
  have placed : afterAuthority ("https://" ++ host ++ g.callbackPath).toList =
      dropAuthority (host.toList ++ g.callbackPath.toList) := by
    rw [String.toList_append, String.toList_append, List.append_assoc, afterAuthority, ← Text.cut_at_eq_drop_infix]
    rfl
  have route : g.callbackRoute = g.callbackPath.toList := by
    rw [callbackRoute, Text.cut_at_eq_drop_infix, path]
  rw [leads_back_path_iff g r host path given, placed, route]
  by_cases plain : IsAuthority host.toList
  · have clear := ((is_authority_iff host.toList).mp plain).2
    rw [drop_authority_append _ _ plain, relative_path_iff _ filled]
    simp [plain, clear]
  · rw [borrowed_path_iff _ _ plain]
    simp [plain]

theorem redirect_uri_path_iff (g : Gateway) (r : Request) (host : HasHost r) (uri : String)
    (reachable : g.redirectUri r = .ok uri) (filled : g.callbackPath.toList ≠ []) :
    pathOf (orRoot (afterAuthority uri.toList)) = g.callbackRoute ↔ g.LeadsBack r := by
  obtain ⟨name, trimmed, kept⟩ := host_kept r host
  rw [redirectUri, Text.contains, Text.cut_at_eq_drop_infix, kept] at reachable
  cases address : g.callbackPath.toList.dropInfix? schemeMark with
  | some parts =>
      rw [address, if_pos Option.isSome_some] at reachable
      cases reachable
      exact address_leads_back_iff g r parts.1 parts.2 address filled
  | none =>
      rw [address, if_neg (by simp)] at reachable
      cases reachable
      exact path_leads_back_iff g r name address trimmed filled

theorem provider_returns_iff (config : Config) (g : Gateway) (start : KeySet)
    (built : ofConfig config = .ok (g, start)) (r : Request) (host : HasHost r) :
    ∃ uri, g.redirectUri r = .ok uri ∧
      (∀ steps keys now, keys = (g.run start steps).1 →
        ∃ state, g.logins.issue keys now r.target = .ok state ∧
          g.toProvider keys now r = .redirect (g.provider.authorizationUrl state uri) none) ∧
      ∀ (code state : String) (back : Request), back.target = returnTarget uri code state →
        (g.isCallback back = true ↔ g.LeadsBack r) ∧
        ∀ (keys : KeySet) (now : UInt64) (script : Script),
          (g.LeadsBack r → g.handle keys now back script =
            ⟨.respond (g.callback keys now back script).answer, (g.callback keys now back script).attempts⟩) ∧
          (¬ g.LeadsBack r → g.handle keys now back script = ⟨g.resolve keys now back, []⟩) := by
  obtain ⟨uri, reachable⟩ := redirect_uri_given g r host
  refine ⟨uri, reachable, ?_, ?_⟩
  · rintro steps _ now rfl
    have hosted : ¬ g.IsHostless r := by
      intro missing
      cases reachable.symm.trans ((redirect_uri_error_iff g r .missingHost).mpr ⟨rfl, missing⟩)
    have signs := run_signs g start steps (of_config_signs config g start built)
    obtain ⟨same, state, reached, issued, sent⟩ := to_provider_sent g _ now r signs hosted
    cases reachable.symm.trans reached
    exact ⟨state, issued, sent⟩
  · intro code state back target
    have filled := callback_path_filled config g start built
    have known : g.isCallback back = true ↔ g.LeadsBack r := by
      rw [isCallback, decide_eq_true_iff, return_path uri code state back target]
      exact redirect_uri_path_iff g r host uri reachable filled
    refine ⟨known, fun keys now script => ⟨fun leads => ?_, fun lost => ?_⟩⟩
    · exact handled_callback g keys now back script (known.mpr leads)
    · exact handled_visit g keys now back script (eq_false_of_ne_true fun found => lost (known.mp found))

theorem provider_returns_to_plain_path :
    ∃ uri, sample.redirectUri ⟨"GET", "/page", some " h ", none, none⟩ = .ok uri ∧
      ∀ keys now state script,
        sample.handle keys now ⟨"GET", returnTarget uri "c" state, some "h", none, none⟩ script =
          ⟨.respond (sample.callback keys now ⟨"GET", returnTarget uri "c" state, some "h", none, none⟩ script).answer,
            (sample.callback keys now ⟨"GET", returnTarget uri "c" state, some "h", none, none⟩ script).attempts⟩ := by
  obtain ⟨uri, reachable, _, returns⟩ := provider_returns_iff sampleConfig sample _ sample_built
    ⟨"GET", "/page", some " h ", none, none⟩ ⟨" h ", rfl, by decide⟩
  have leads : sample.LeadsBack ⟨"GET", "/page", some " h ", none, none⟩ := by
    refine .relative "h" rfl rfl ?_ rfl sample_plain.path
    rw [is_authority_iff]
    decide
  refine ⟨uri, reachable, fun keys now state script => ?_⟩
  exact ((returns "c" state ⟨"GET", returnTarget uri "c" state, some "h", none, none⟩ rfl).2 keys now script).1 leads

-- An address with a query of its own: the provider keeps the query, and the gateway compares with it as a path.
def queried : Gateway := { sample with callbackPath := "https://login.example/cb?tenant=a" }

theorem provider_return_missed :
    ofConfig { sampleConfig with callbackPath := "https://login.example/cb?tenant=a" } = .ok (queried, ⟨[[107]]⟩) ∧
      HasHost ⟨"GET", "/page", some "app.example", none, none⟩ ∧
      queried.redirectUri ⟨"GET", "/page", some "app.example", none, none⟩ =
        .ok "https://login.example/cb?tenant=a" ∧
      returnTarget "https://login.example/cb?tenant=a" "c" "s" = "/cb?tenant=a&code=c&state=s" ∧
      queried.isCallback ⟨"GET", "/cb?tenant=a&code=c&state=s", some "login.example", none, none⟩ = false := by
  refine ⟨rfl, ⟨"app.example", rfl, ?_⟩, rfl, ?_, ?_⟩ <;> decide

end LoginGateway.Gateway
