import LoginGateway.Web.Form
import LoginGateway.Proofs.Text.Blank
import LoginGateway.Proofs.Text.Split
import LoginGateway.Proofs.Web.Percent

/-!
Forms give back the pairs that they were written from, whatever their names and values are, also
behind pairs that someone else has written.
-/
set_option autoImplicit false

namespace LoginGateway.Form

def IsWritten (c : Char) : Prop := c.toNat < 0x80 ∧ c ≠ '&' ∧ c ≠ '=' ∧ c ≠ '#'

instance : DecidablePred IsWritten := fun c =>
  inferInstanceAs (Decidable (c.toNat < 0x80 ∧ c ≠ '&' ∧ c ≠ '=' ∧ c ≠ '#'))

theorem safe_written (c : Char) (safe : isSafe c) : IsWritten c ∧ c ≠ '%' ∧ c ≠ '+' := by
  have clear (mark : Char) (marks : isSafe mark = false) : c ≠ mark := by
    rintro rfl
    rw [marks] at safe
    cases safe
  refine ⟨⟨?_, clear '&' (by decide), clear '=' (by decide), clear '#' (by decide)⟩, clear '%' (by decide),
    clear '+' (by decide)⟩
  simp only [isSafe, Char.isAlphanum, Char.isDigit] at safe
  delta Char.isAlpha Char.isUpper Char.isLower at safe
  simp only [Bool.or_eq_true, Bool.and_eq_true, decide_eq_true_eq, beq_iff_eq, UInt32.le_iff_toNat_le, ge_iff_le] at safe
  rw [Char.toNat]
  rcases safe with (((((⟨_, upper⟩ | ⟨_, upper⟩) | ⟨_, upper⟩) | rfl) | rfl) | rfl) | rfl
  · exact Nat.lt_of_le_of_lt upper (by decide)
  · exact Nat.lt_of_le_of_lt upper (by decide)
  · exact Nat.lt_of_le_of_lt upper (by decide)
  · decide
  · decide
  · decide
  · decide

theorem encode_char_all (P : Char → Prop) (plus : P '+') (percent : P '%') (digit : ∀ n, n < 16 → P (Hex.upperDigit n))
    (safe : ∀ c, isSafe c → P c) (c : Char) : ∀ d ∈ encodeChar c, P d := by
  intro d member
  rw [encodeChar] at member
  by_cases space : c = ' '
  · rw [if_pos space] at member
    cases List.mem_singleton.mp member
    exact plus
  · by_cases kept : isSafe c
    · rw [if_neg space, if_pos kept] at member
      cases List.mem_singleton.mp member
      exact safe c kept
    · rw [if_neg space, if_neg kept] at member
      exact Percent.escape_all P percent digit c d member

theorem encode_text_all (P : Char → Prop) (plus : P '+') (percent : P '%') (digit : ∀ n, n < 16 → P (Hex.upperDigit n))
    (safe : ∀ c, isSafe c → P c) (s : String) : ∀ d ∈ encodeText s, P d := by
  intro d member
  obtain ⟨c, _, among⟩ := List.mem_flatMap.mp member
  exact encode_char_all P plus percent digit safe c d among

theorem encode_text_written (s : String) : ∀ d ∈ encodeText s, IsWritten d :=
  encode_text_all IsWritten (by decide) (by decide) (by decide) (fun c safe => (safe_written c safe).1) s

theorem plus_to_space_clear (bytes : Bytes) (clear : 0x2B ∉ bytes) : bytes.map plusToSpace = bytes := by
  induction bytes with
  | nil => rfl
  | cons b bytes ih =>
      have first : b ≠ 0x2B := fun same => clear (same ▸ List.mem_cons_self)
      rw [List.map_cons, ih fun member => clear (List.mem_cons_of_mem b member), plusToSpace, if_neg first]

theorem decode_encode_char (c : Char) (rest : Bytes) :
    Percent.decode ((Text.Utf8.encode (encodeChar c)).map plusToSpace ++ rest) =
      String.utf8EncodeChar c ++ Percent.decode rest := by
  rw [encodeChar]
  by_cases space : c = ' '
  · rw [if_pos space, space]
    exact Percent.decode_plain 0x20 rest (by decide)
  · rw [if_neg space]
    by_cases safe : isSafe c
    · obtain ⟨⟨ascii, _⟩, percent, plus⟩ := safe_written c safe
      have noPlus : 0x2B ∉ Text.Utf8.encode [c] :=
        Text.Utf8.encode_without '+' (by decide) [c] fun member => plus (List.mem_singleton.mp member).symm
      have noPercent : 0x25 ∉ Text.Utf8.encode [c] :=
        Text.Utf8.encode_without '%' (by decide) [c] fun member => percent (List.mem_singleton.mp member).symm
      have single : Text.Utf8.encode [c] = [UInt8.ofNat c.toNat] := by
        rw [Text.Utf8.encode_cons, Text.Utf8.encode_nil, List.append_nil, Text.Utf8.encode_char_ascii c ascii]
      rw [if_pos safe, plus_to_space_clear _ noPlus]
      rw [single] at noPercent ⊢
      rw [Text.Utf8.encode_char_ascii c ascii]
      exact Percent.decode_plain _ rest fun same => noPercent (same ▸ List.mem_cons_self)
    · have noPlus : '+' ∉ Percent.escape c := fun member =>
        Percent.escape_all (fun d => d ≠ '+') (by decide) (by decide) c '+' member rfl
      rw [if_neg safe, plus_to_space_clear _ (Text.Utf8.encode_without '+' (by decide) _ noPlus),
        Percent.decode_escape]

theorem decode_encode_chars (cs : List Char) :
    Percent.decode ((Text.Utf8.encode (cs.flatMap encodeChar)).map plusToSpace) = Text.Utf8.encode cs := by
  induction cs with
  | nil => rfl
  | cons c cs ih =>
      rw [List.flatMap_cons, Text.Utf8.encode_append, List.map_append, decode_encode_char, ih, Text.Utf8.encode_cons]

theorem decode_encode_text (s : String) : decodeText (Text.Utf8.encode (encodeText s)) = s := by
  rw [decodeText, encodeText, decode_encode_chars, Text.Utf8.decode_lossy_encode, String.ofList_toList]

theorem encode_text_without (mark : Char) (ascii : mark.toNat < 0x80) (marks : ¬ IsWritten mark) (s : String) :
    UInt8.ofNat mark.toNat ∉ Text.Utf8.encode (encodeText s) :=
  Text.Utf8.encode_without mark ascii _ fun member => marks (encode_text_written s mark member)

theorem decode_encode_pair (pair : String × String) : decodePair (Text.Utf8.encode (encodePair pair)) = pair := by
  have name : 0x3D ∉ Text.Utf8.encode (encodeText pair.1) := encode_text_without '=' (by decide) (by decide) pair.1
  have bytes : Text.Utf8.encode (encodePair pair) =
      Text.Utf8.encode (encodeText pair.1) ++ 0x3D :: Text.Utf8.encode (encodeText pair.2) := by
    rw [encodePair, Text.Utf8.encode_append, Text.Utf8.encode_cons]
    rfl
  have cut : Text.cut? (· = 0x3D) (Text.Utf8.encode (encodePair pair)) =
      some (Text.Utf8.encode (encodeText pair.1), Text.Utf8.encode (encodeText pair.2)) := by
    rw [bytes]
    exact Text.cut_mark 0x3D _ _ name
  rw [decodePair, cut]
  simp only [decode_encode_text]

theorem encode_pair_all (P : Char → Prop) (equals : P '=') (texts : ∀ s, ∀ d ∈ encodeText s, P d) (pair : String × String) :
    ∀ d ∈ encodePair pair, P d := by
  intro d member
  rcases List.mem_append.mp member with name | value
  · exact texts pair.1 d name
  · rcases List.mem_cons.mp value with rfl | value
    · exact equals
    · exact texts pair.2 d value

theorem encode_pair_without_join (pair : String × String) : 0x26 ∉ Text.Utf8.encode (encodePair pair) := by
  refine Text.Utf8.encode_without '&' (by decide) _ fun member => ?_
  have other := encode_pair_all (· ≠ '&') (by decide) (fun s d inside => (encode_text_written s d inside).2.1) pair
  exact other '&' member rfl

theorem decode_append (front back : List Char) : decode (front ++ '&' :: back) = decode front ++ decode back := by
  have bytes : Text.Utf8.encode (front ++ '&' :: back) = Text.Utf8.encode front ++ 0x26 :: Text.Utf8.encode back := by
    rw [Text.Utf8.encode_append, Text.Utf8.encode_cons]
    rfl
  rw [decode, bytes, List.splitOn_append_cons_self, List.filter_append, List.map_append]
  rfl

theorem decode_pair (pair : String × String) : decode (encodePair pair) = [pair] := by
  have single := List.splitOn_eq_singleton (encode_pair_without_join pair)
  have filled : Text.Utf8.encode (encodePair pair) ≠ [] := by
    rw [encodePair, Text.Utf8.encode_append, Text.Utf8.encode_cons]
    simp [String.utf8EncodeChar]
  rw [decode, single]
  simp [filled, decode_encode_pair]

theorem decode_encode (pairs : Pairs) : decode (encode pairs) = pairs := by
  induction pairs with
  | nil => rfl
  | cons pair rest ih =>
      cases rest with
      | nil => exact decode_pair pair
      | cons next others =>
          rw [encode, decode_append, decode_pair, ih]
          · rfl
          · simp

theorem encode_all (P : Char → Prop) (equals : P '=') (join : P '&') (texts : ∀ s, ∀ d ∈ encodeText s, P d) (pairs : Pairs) :
    ∀ d ∈ encode pairs, P d := by
  have single := encode_pair_all P equals texts
  induction pairs with
  | nil => simp [encode]
  | cons pair rest ih =>
      cases rest with
      | nil => exact single pair
      | cons next others =>
          intro d member
          rcases List.mem_append.mp member with first | later
          · exact single pair d first
          · rcases List.mem_cons.mp later with rfl | later
            · exact join
            · exact ih d later

theorem encode_without_fragment (pairs : Pairs) : '#' ∉ encode pairs := fun member =>
  encode_all (· ≠ '#') (by decide) (by decide) (fun s d inside => (encode_text_written s d inside).2.2.2) pairs '#' member rfl

theorem encode_printed (pairs : Pairs) : ∀ c ∈ encode pairs, Text.isControl c = false := by
  have safe (c : Char) (kept : isSafe c) : Text.isControl c = false := Text.printed_of_test isSafe (by decide) c kept
  have texts := encode_text_all (fun c => Text.isControl c = false) (by decide) (by decide) (by decide) safe
  exact encode_all _ (by decide) (by decide) texts pairs

end LoginGateway.Form
