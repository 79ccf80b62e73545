import LoginGateway.Text.Utf8
import LoginGateway.Proofs.Text.Split

/-!
UTF-8 reads back what it writes, also at the front of other bytes and when the reading is lossy.
-/
set_option autoImplicit false

namespace LoginGateway.Text.Utf8

theorem encode_nil : encode [] = [] := rfl

theorem encode_cons (c : Char) (cs : List Char) : encode (c :: cs) = String.utf8EncodeChar c ++ encode cs := by
  simp [encode]

theorem encode_append (xs ys : List Char) : encode (xs ++ ys) = encode xs ++ encode ys := by
  simp [encode]

theorem scalar_bounds (c : Char) : c.toNat < 0xD800 ∨ 0xDFFF < c.toNat ∧ c.toNat < 0x110000 := by
  have valid := c.valid
  simp only [UInt32.isValidChar, Nat.isValidChar] at valid
  exact valid

-- The library's bound is `UInt8.size`, which arithmetic does not open.
theorem byte_value (n : Nat) (small : n < 256) : (UInt8.ofNat n).toNat = n := UInt8.toNat_ofNat_of_lt' small

-- A continuation byte completes the character that owes one byte. The range of the byte stays a
-- parameter, since the first bytes E0, ED, F0 and F4 narrow it.
theorem scan_last (low high bits n : Nat) (rest : Bytes)
    (least : low ≤ 0x80 + n % 0x40) (most : 0x80 + n % 0x40 ≤ high) :
    scan (some ⟨1, low, high, bits⟩) (UInt8.ofNat (0x80 + n % 0x40) :: rest) =
      some (Char.ofNat (bits * 0x40 + n % 0x40)) :: scan none rest := by
  have value := byte_value (0x80 + n % 0x40) (by omega)
  simp only [scan, value, Pending.accepts, Pending.next]
  simp [least, most, show (0x80 + n % 0x40) % 0x40 = n % 0x40 by omega]

theorem scan_more (owed low high bits n : Nat) (rest : Bytes)
    (least : low ≤ 0x80 + n % 0x40) (most : 0x80 + n % 0x40 ≤ high) :
    scan (some ⟨owed + 2, low, high, bits⟩) (UInt8.ofNat (0x80 + n % 0x40) :: rest) =
      scan (some ⟨owed + 1, 0x80, 0xBF, bits * 0x40 + n % 0x40⟩) rest := by
  have value := byte_value (0x80 + n % 0x40) (by omega)
  simp only [scan, value, Pending.accepts, Pending.next]
  simp [least, most, show (0x80 + n % 0x40) % 0x40 = n % 0x40 by omega]

theorem scan_two (n : Nat) (rest : Bytes) (least : 0x80 ≤ n) (most : n < 0x800) :
    scan none (UInt8.ofNat (0xC0 + n / 0x40) :: UInt8.ofNat (0x80 + n % 0x40) :: rest) =
      some (Char.ofNat n) :: scan none rest := by
  have value := byte_value (0xC0 + n / 0x40) (by omega)
  have opens : lead (0xC0 + n / 0x40) = .opens ⟨1, 0x80, 0xBF, n / 0x40⟩ := by
    rw [lead]
    rw [if_neg (by omega), if_neg (by omega), if_pos (by omega)]
    simp
  rw [scan, value, opens]
  dsimp only
  rw [scan_last _ _ _ _ _ (by omega) (by omega), show n / 0x40 * 0x40 + n % 0x40 = n by omega]

theorem lead_three (k : Nat) (least : k < 0x10) :
    ∃ low high, lead (0xE0 + k) = .opens ⟨2, low, high, k⟩ ∧
      low = (if k = 0 then 0xA0 else 0x80) ∧ high = (if k = 0xD then 0x9F else 0xBF) := by
  rw [lead]
  by_cases zero : k = 0
  · exact ⟨0xA0, 0xBF, by simp [zero], by simp [zero], by simp [zero]⟩
  · by_cases surrogates : k = 0xD
    · exact ⟨0x80, 0x9F, by simp [surrogates], by simp [surrogates], by simp [surrogates]⟩
    · refine ⟨0x80, 0xBF, ?_, by simp [zero], by simp [surrogates]⟩
      rw [if_neg (by omega), if_neg (by omega), if_neg (by omega), if_neg (by omega),
        if_neg (by omega), if_pos (by omega)]
      simp

theorem scan_three (n : Nat) (rest : Bytes) (least : 0x800 ≤ n) (most : n < 0x10000)
    (scalar : n < 0xD800 ∨ 0xDFFF < n) :
    scan none (UInt8.ofNat (0xE0 + n / 0x1000) :: UInt8.ofNat (0x80 + n / 0x40 % 0x40) ::
        UInt8.ofNat (0x80 + n % 0x40) :: rest) = some (Char.ofNat n) :: scan none rest := by
  have value := byte_value (0xE0 + n / 0x1000) (by omega)
  obtain ⟨low, high, opens, lowEq, highEq⟩ := lead_three (n / 0x1000) (by omega)
  rw [scan, value, opens]
  dsimp only
  rw [scan_more 0 _ _ _ _ _ (by split at lowEq <;> omega) (by split at highEq <;> omega),
    scan_last _ _ _ _ _ (by omega) (by omega),
    show (n / 0x1000 * 0x40 + n / 0x40 % 0x40) * 0x40 + n % 0x40 = n by omega]

theorem lead_four (k : Nat) (most : k < 5) :
    ∃ low high, lead (0xF0 + k) = .opens ⟨3, low, high, k⟩ ∧
      low = (if k = 0 then 0x90 else 0x80) ∧ high = (if k = 4 then 0x8F else 0xBF) := by
  rw [lead]
  by_cases zero : k = 0
  · exact ⟨0x90, 0xBF, by simp [zero], by simp [zero], by simp [zero]⟩
  · by_cases last : k = 4
    · exact ⟨0x80, 0x8F, by simp [last], by simp [last], by simp [last]⟩
    · refine ⟨0x80, 0xBF, ?_, by simp [zero], by simp [last]⟩
      rw [if_neg (by omega), if_neg (by omega), if_neg (by omega), if_neg (by omega),
        if_neg (by omega), if_neg (by omega), if_neg (by omega), if_pos (by omega)]
      simp

theorem scan_four (n : Nat) (rest : Bytes) (least : 0x10000 ≤ n) (most : n < 0x110000) :
    scan none (UInt8.ofNat (0xF0 + n / 0x40000) :: UInt8.ofNat (0x80 + n / 0x1000 % 0x40) ::
        UInt8.ofNat (0x80 + n / 0x40 % 0x40) :: UInt8.ofNat (0x80 + n % 0x40) :: rest) =
      some (Char.ofNat n) :: scan none rest := by
  have value := byte_value (0xF0 + n / 0x40000) (by omega)
  obtain ⟨low, high, opens, lowEq, highEq⟩ := lead_four (n / 0x40000) (by omega)
  rw [scan, value, opens]
  dsimp only
  rw [scan_more 1 _ _ _ _ _ (by split at lowEq <;> omega) (by split at highEq <;> omega),
    scan_more 0 _ _ _ _ _ (by omega) (by omega), scan_last _ _ _ _ _ (by omega) (by omega),
    show ((n / 0x40000 * 0x40 + n / 0x1000 % 0x40) * 0x40 + n / 0x40 % 0x40) * 0x40 + n % 0x40 = n by
      omega]

theorem char_bytes (c : Char) :
    (c.toNat < 0x80 ∧ String.utf8EncodeChar c = [UInt8.ofNat c.toNat]) ∨
    (0x80 ≤ c.toNat ∧ c.toNat < 0x800 ∧
      String.utf8EncodeChar c = [UInt8.ofNat (0xC0 + c.toNat / 0x40), UInt8.ofNat (0x80 + c.toNat % 0x40)]) ∨
    (0x800 ≤ c.toNat ∧ c.toNat < 0x10000 ∧
      String.utf8EncodeChar c = [UInt8.ofNat (0xE0 + c.toNat / 0x1000), UInt8.ofNat (0x80 + c.toNat / 0x40 % 0x40),
        UInt8.ofNat (0x80 + c.toNat % 0x40)]) ∨
    (0x10000 ≤ c.toNat ∧
      String.utf8EncodeChar c = [UInt8.ofNat (0xF0 + c.toNat / 0x40000), UInt8.ofNat (0x80 + c.toNat / 0x1000 % 0x40),
        UInt8.ofNat (0x80 + c.toNat / 0x40 % 0x40), UInt8.ofNat (0x80 + c.toNat % 0x40)]) := by
  have bounds := scalar_bounds c
  have value : c.val.toNat = c.toNat := rfl
  rw [String.utf8EncodeChar, value]
  by_cases one : c.toNat ≤ 0x7F
  · exact .inl ⟨by omega, if_pos one⟩
  · by_cases two : c.toNat ≤ 0x7FF
    · refine .inr (.inl ⟨by omega, by omega, ?_⟩)
      rw [if_neg one, if_pos two, Nat.mod_eq_of_lt (by omega : c.toNat / 0x40 < 0x20), Nat.add_comm, Nat.add_comm (_ % _)]
    · by_cases three : c.toNat ≤ 0xFFFF
      · refine .inr (.inr (.inl ⟨by omega, by omega, ?_⟩))
        rw [if_neg one, if_neg two, if_pos three, Nat.mod_eq_of_lt (by omega : c.toNat / 0x1000 < 0x10)]
        simp only [Nat.add_comm]
      · refine .inr (.inr (.inr ⟨by omega, ?_⟩))
        rw [if_neg one, if_neg two, if_neg three, Nat.mod_eq_of_lt (by omega : c.toNat / 0x40000 < 0x08)]
        simp only [Nat.add_comm]

theorem scan_encode_char (c : Char) (rest : Bytes) :
    scan none (String.utf8EncodeChar c ++ rest) = some c :: scan none rest := by
  have bounds := scalar_bounds c
  have same : Char.ofNat c.toNat = c := Char.ofNat_toNat c
  rcases char_bytes c with ⟨one, bytes⟩ | ⟨least, most, bytes⟩ | ⟨least, most, bytes⟩ | ⟨least, bytes⟩
  · have value := byte_value c.toNat (by omega)
    have ascii : lead c.toNat = .ascii c := by rw [lead, if_pos one, same]
    rw [bytes, List.singleton_append, scan, value, ascii]
  · simpa [bytes, same] using scan_two c.toNat rest least most
  · simpa [bytes, same] using scan_three c.toNat rest least most (by omega)
  · simpa [bytes, same] using scan_four c.toNat rest least (by omega)

theorem scan_encode (cs : List Char) (rest : Bytes) :
    scan none (encode cs ++ rest) = cs.map some ++ scan none rest := by
  induction cs with
  | nil => rfl
  | cons c cs ih => rw [encode_cons, List.append_assoc, scan_encode_char, ih]; rfl

theorem scan_encode_all (cs : List Char) : scan none (encode cs) = cs.map some := by
  simpa [scan] using scan_encode cs []

theorem decode_encode (cs : List Char) : decode? (encode cs) = some cs := by
  rw [decode?, scan_encode_all]
  induction cs with
  | nil => rfl
  | cons c cs ih => simp_all

theorem decode_lossy_encode (cs : List Char) : decodeLossy (encode cs) = cs := by
  simp [decodeLossy, scan_encode_all, Function.comp_def]

theorem read_encode (s : String) : read? (Text.utf8 s) = some s := by
  simp [read?, Text.utf8, decode_encode]

theorem encode_char_ascii (c : Char) (ascii : c.toNat < 0x80) : String.utf8EncodeChar c = [UInt8.ofNat c.toNat] := by
  rcases char_bytes c with ⟨_, bytes⟩ | ⟨least, _⟩ | ⟨least, _⟩ | ⟨least, _⟩
  · exact bytes
  all_goals omega

theorem encode_ascii (cs : List Char) (ascii : ∀ c ∈ cs, c.toNat < 0x80) :
    encode cs = cs.map fun c => UInt8.ofNat c.toNat := by
  induction cs with
  | nil => rfl
  | cons c cs ih =>
      rw [encode_cons, encode_char_ascii c (ascii c (by simp)), ih fun d member => ascii d (by simp [member])]
      rfl

-- Past ASCII no byte is an ASCII one, so no mark is ever part of a character.
theorem encode_char_above (c : Char) (above : 0x80 ≤ c.toNat) (b : UInt8) (member : b ∈ String.utf8EncodeChar c) :
    0x80 ≤ b.toNat := by
  have bounds := scalar_bounds c
  have high (n : Nat) (least : 0x80 ≤ n) (most : n < 256) : 0x80 ≤ (UInt8.ofNat n).toNat := by
    rw [byte_value n most]
    exact least
  rcases char_bytes c with ⟨one, _⟩ | ⟨_, most, bytes⟩ | ⟨_, most, bytes⟩ | ⟨_, bytes⟩
  · omega
  · simp only [bytes, List.mem_cons, List.not_mem_nil, or_false] at member
    rcases member with rfl | rfl <;> exact high _ (by omega) (by omega)
  · simp only [bytes, List.mem_cons, List.not_mem_nil, or_false] at member
    rcases member with rfl | rfl | rfl <;> exact high _ (by omega) (by omega)
  · simp only [bytes, List.mem_cons, List.not_mem_nil, or_false] at member
    rcases member with rfl | rfl | rfl | rfl <;> exact high _ (by omega) (by omega)

theorem encode_without (mark : Char) (ascii : mark.toNat < 0x80) (cs : List Char) (clear : mark ∉ cs) :
    UInt8.ofNat mark.toNat ∉ encode cs := by
  have value := byte_value mark.toNat (by omega)
  intro member
  obtain ⟨c, among, byte⟩ := List.mem_flatMap.mp member
  by_cases above : 0x80 ≤ c.toNat
  · have high := encode_char_above c above _ byte
    omega
  · rw [encode_char_ascii c (by omega), List.mem_singleton] at byte
    have same : mark.toNat = c.toNat := by
      rw [← value, ← byte_value c.toNat (by omega), byte]
    have equal : mark = c := by rw [← Char.ofNat_toNat mark, same, Char.ofNat_toNat]
    exact clear (equal ▸ among)

-- No character is written as the front of another, so what comes after a text is found by bytes as by characters.
theorem front_encode (pattern cs : List Char) :
    (encode pattern).isPrefixOf? (encode cs) = (pattern.isPrefixOf? cs).map encode := by
  cases found : pattern.isPrefixOf? cs with
  | some rest =>
      have whole := List.append_eq_of_isPrefixOf?_eq_some found
      rw [Option.map_some, List.isPrefixOf?_eq_some_iff_append_eq, ← whole, encode_append]
  | none =>
      apply Option.eq_none_iff_forall_ne_some.mpr
      intro rest front
      have whole := List.append_eq_of_isPrefixOf?_eq_some front
      have scanned := congrArg (scan none) whole.symm
      rw [scan_encode_all, scan_encode] at scanned
      obtain ⟨first, back, split, spelled, _⟩ := List.map_eq_append_iff.mp scanned
      have same : first = pattern := by
        exact (List.map_inj_right fun _ _ => Option.some.inj).mp spelled
      rw [List.isPrefixOf?_eq_some_iff_append_eq.mpr (same ▸ split.symm)] at found
      cases found

theorem encode_intercalate (mark : Char) (pieces : List (List Char)) :
    encode ([mark].intercalate pieces) = (String.utf8EncodeChar mark).intercalate (pieces.map encode) := by
  induction pieces with
  | nil => rfl
  | cons piece pieces ih =>
      cases pieces with
      | nil => simp
      | cons next others =>
          rw [List.intercalate_cons_cons, encode_append, encode_append, ih, encode_cons, encode_nil, List.append_nil]
          exact List.intercalate_cons_cons.symm

theorem split_encode (mark : Char) (ascii : mark.toNat < 0x80) (cs : List Char) :
    (encode cs).splitOn (UInt8.ofNat mark.toNat) = (cs.splitOn mark).map encode := by
  have joined : encode cs = [UInt8.ofNat mark.toNat].intercalate ((cs.splitOn mark).map encode) := by
    rw [← encode_char_ascii mark ascii, ← encode_intercalate, List.intercalate_splitOn]
  rw [joined]
  apply List.splitOn_intercalate
  · intro bytes member
    obtain ⟨piece, among, rfl⟩ := List.mem_map.mp member
    apply encode_without mark ascii piece
    intro inside
    have clear := (split_members (· == mark) cs piece among mark inside).2
    simp at clear
  · simp

theorem byte_length_of_list (cs : List Char) : byteLength cs = (String.ofList cs).utf8ByteSize := by
  induction cs with
  | nil => rfl
  | cons c cs ih =>
      have split : String.ofList (c :: cs) = String.singleton c ++ String.ofList cs := by
        rw [String.singleton_eq_ofList, ← String.ofList_append, List.singleton_append]
      rw [byteLength] at ih ⊢
      rw [encode_cons, List.length_append, String.length_utf8EncodeChar, ih, split, String.utf8ByteSize_append,
        String.utf8ByteSize_singleton]

end LoginGateway.Text.Utf8
