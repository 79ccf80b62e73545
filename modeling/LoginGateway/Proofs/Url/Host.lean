import LoginGateway.Url.Host
import LoginGateway.Proofs.Url.Marks

/-!
Hosts are written without marks and controls, whichever way they were read, and so are the authorities
around them.
-/
set_option autoImplicit false

namespace LoginGateway.Url

theorem ipv4_text_clean (address : Nat) : Clean (Ipv4.text address) := by
  have byte (i : Nat) := decimal_text_clean (address / Nat.pow 256 i % 256)
  have point : IsClean '.' := by decide
  have last (i : Nat) (rest : List Char) (clear : Clean rest) :=
    clean_append _ _ (byte i) (clean_cons '.' rest point clear)
  simpa [Ipv4.text] using last 3 _ (last 2 _ (last 1 _ (byte 0)))

theorem joined_clean (groups : Ipv6.Groups) : Clean (Ipv6.joined groups) := by
  fun_induction Ipv6.joined groups with
  | case1 => exact clean_nil
  | case2 g => exact hex_text_clean g
  | case3 g rest _ ih => exact clean_append _ _ (hex_text_clean g) (clean_cons ':' _ (by decide) ih)

theorem ipv6_text_clean (groups : Ipv6.Groups) : Clean (Ipv6.text groups) := by
  have colon : IsClean ':' := by decide
  rw [Ipv6.text]
  split
  split
  · exact joined_clean groups
  · exact clean_append _ _ (joined_clean _)
      (clean_cons ':' _ colon (clean_cons ':' _ colon (joined_clean _)))

theorem bracketed_clean (cs : List Char) (h : Host) (read : Host.bracketed cs = .ok h) : Clean h.text := by
  rw [Host.bracketed] at read
  split at read
  · rename_i groups _ _
    cases read
    exact clean_cons '[' _ (by decide)
      (clean_append _ _ (ipv6_text_clean groups) (clean_cons ']' _ (by decide) clean_nil))
  · cases read

theorem ascii_clean (bytes : Bytes) (domain : List Char) (spelled : Domain.ascii? bytes = some domain) :
    Clean domain := by
  obtain ⟨prepared, _, spelled⟩ := Option.bind_eq_some_iff.mp spelled
  obtain ⟨labels, _, spelled⟩ := Option.bind_eq_some_iff.mp spelled
  split at spelled
  · obtain ⟨parts, _, spelled⟩ := Option.bind_eq_some_iff.mp spelled
    dsimp only at spelled
    by_cases forbidden : (Domain.joined parts).any Domain.isForbidden
    · rw [if_pos forbidden] at spelled
      cases spelled
    · rw [if_neg forbidden] at spelled
      cases spelled
      intro c member
      simp only [List.any_eq_true, not_exists, not_and] at forbidden
      have allowed : Domain.isForbidden c = false := by simpa using forbidden c member
      refine ⟨part_of_test (fun c => !Domain.isForbidden c) (by decide) (by decide) c (by simp [allowed]), ?_⟩
      exact (Bool.or_eq_false_iff.mp allowed).1
  · cases spelled

theorem domain_clean (cs : List Char) (h : Host) (read : Host.readDomain cs = .ok h) : Clean h.text := by
  rw [Host.readDomain] at read
  split at read
  · cases read
  · cases read
  · rename_i domain _ spelled
    by_cases number : Ipv4.endsInNumber domain
    · rw [if_pos number] at read
      cases address : Ipv4.read? domain with
      | none => rw [address] at read; cases read
      | some found =>
          rw [address] at read
          cases read
          exact ipv4_text_clean found
    · rw [if_neg number] at read
      cases read
      exact ascii_clean _ domain spelled

theorem special_clean (cs : List Char) (h : Host) (read : Host.readSpecial cs = .ok h) : Clean h.text := by
  unfold Host.readSpecial at read
  split at read
  · exact bracketed_clean _ h read
  · exact domain_clean _ h read

theorem other_clean (cs : List Char) (h : Host) (read : Host.readOther cs = .ok h) : Clean h.text := by
  unfold Host.readOther at read
  split at read
  · exact bracketed_clean _ h read
  · by_cases forbidden : cs.any Host.isForbidden
    · rw [if_pos forbidden] at read
      cases read
    · rw [if_neg forbidden] at read
      cases read
      apply escaped_clean
      intro c member visible
      refine ⟨?_, visible_printed c visible⟩
      apply part_of_test (fun c => !Host.isForbidden c) (by decide) (by decide)
      simp only [List.any_eq_true, not_exists, not_and] at forbidden
      simpa using forbidden c member

theorem userinfo_clean (a : Authority) (user : Clean a.user) (password : Clean a.password) :
    Clean a.userinfo := by
  rw [Authority.userinfo]
  by_cases nobody : a.user.isEmpty && a.password.isEmpty
  · rw [if_pos nobody]
    exact clean_nil
  · rw [if_neg nobody]
    apply clean_append _ _ _ (clean_cons '@' _ (by decide) clean_nil)
    apply clean_append _ _ user
    by_cases open_ : a.password.isEmpty
    · rw [if_pos open_]
      exact clean_nil
    · rw [if_neg open_]
      exact clean_cons ':' _ (by decide) password

theorem port_text_clean (a : Authority) : Clean a.portText := by
  rw [Authority.portText]
  cases a.port with
  | none => exact clean_nil
  | some port => exact clean_cons ':' _ (by decide) (decimal_text_clean port)

theorem authority_text_clean (a : Authority) (user : Clean a.user) (password : Clean a.password)
    (host : Clean a.host.text) : Clean a.text :=
  clean_append _ _ (clean_append _ _ (userinfo_clean a user password) host) (port_text_clean a)

end LoginGateway.Url
