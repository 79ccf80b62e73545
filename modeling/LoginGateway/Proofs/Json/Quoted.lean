import LoginGateway.Json.Token
import LoginGateway.Json.Writer
import LoginGateway.Proofs.Text.Utf8

/-!
A quoted text is read back, whatever characters it holds: each character is spelled by pieces that
stand for its UTF-8 bytes.
-/
set_option autoImplicit false

namespace LoginGateway.Json.Token

open Text

def Fronted (front : List Piece) (bytes : Bytes) : Prop :=
  ∀ tail, pieces? (bytes ++ tail) = (pieces? tail).map fun run => (front ++ run.1, run.2)

def Spells (front : List Piece) (bytes : Bytes) : Prop :=
  ∀ rest, bytes? (front ++ rest) = (bytes? rest).map (bytes ++ ·)

theorem fronted_append (f g : List Piece) (xs ys : Bytes) (first : Fronted f xs) (second : Fronted g ys) :
    Fronted (f ++ g) (xs ++ ys) := by
  intro tail
  rw [List.append_assoc, first, second]
  simp [Function.comp_def]

theorem spells_append (f g : List Piece) (xs ys : Bytes) (first : Spells f xs) (second : Spells g ys) :
    Spells (f ++ g) (xs ++ ys) := by
  intro rest
  rw [List.append_assoc, first, second]
  simp [Function.comp_def]

theorem fronted_byte (b : UInt8) (visible : 0x20 ≤ b.toNat) (quote : b ≠ 0x22) (slash : b ≠ 0x5C) :
    Fronted [.byte b] [b] := by
  intro tail
  have shown : ¬ b < 0x20 := by
    rw [UInt8.lt_iff_toNat_lt]
    exact Nat.not_lt.mpr visible
  rw [List.singleton_append, pieces?]
  · simp [shown, slash, bind, Option.bind, Option.map]
    cases pieces? tail <;> rfl
  · exact quote
  · intros
    simp_all
  · intros
    simp_all

theorem fronted_bytes (bytes : Bytes) (plain : ∀ b ∈ bytes, 0x20 ≤ b.toNat ∧ b ≠ 0x22 ∧ b ≠ 0x5C) :
    Fronted (bytes.map .byte) bytes := by
  induction bytes with
  | nil =>
      intro tail
      cases found : pieces? tail <;> simp [found]
  | cons b bytes ih =>
      obtain ⟨visible, quote, slash⟩ := plain b (by simp)
      exact fronted_append [.byte b] _ [b] bytes (fronted_byte b visible quote slash)
        (ih fun x member => plain x (by simp [member]))

theorem spells_bytes (bytes : Bytes) : Spells (bytes.map .byte) bytes := by
  intro rest
  induction bytes with
  | nil => cases found : bytes? rest <;> simp [found]
  | cons b bytes ih =>
      simp only [List.map_cons, List.cons_append, bytes?]
      rw [ih]
      simp [Function.comp_def]

theorem fronted_escape (e b : UInt8) (plain : e ≠ 0x75) (escape : escape? (Char.ofUInt8 e) = some b) :
    Fronted [.byte b] [0x5C, e] := by
  intro tail
  rw [List.cons_append, List.singleton_append, pieces?]
  · simp [escape, bind, Option.bind, Option.map]
    cases pieces? tail <;> rfl
  · intros
    simp_all

theorem spells_unit (n : Nat) (small : n < 0x20) : Spells [.unit n] (String.utf8EncodeChar (Char.ofNat n)) := by
  intro rest
  have high : isHigh n = false := by simp [isHigh]; omega
  have low : isLow n = false := by simp [isLow]; omega
  cases rest with
  | nil => simp [bytes?, high, low]
  | cons piece rest => cases piece <;> simp [bytes?, high, low]

theorem fronted_control (n : Nat) (small : n < 0x20) :
    Fronted [.unit n] (Utf8.encode ['\\', 'u', '0', '0', Hex.digitChar (n / 16), Hex.digitChar (n % 16)]) := by
  have spelled : ∀ k, k < 0x20 →
      Utf8.encode ['\\', 'u', '0', '0', Hex.digitChar (k / 16), Hex.digitChar (k % 16)] =
        [0x5C, 0x75, 0x30, 0x30, UInt8.ofNat (Hex.digitChar (k / 16)).toNat,
          UInt8.ofNat (Hex.digitChar (k % 16)).toNat] := by decide
  have unit : ∀ k, k < 0x20 → unit? 0x30 0x30 (UInt8.ofNat (Hex.digitChar (k / 16)).toNat)
      (UInt8.ofNat (Hex.digitChar (k % 16)).toNat) = some k := by decide
  intro tail
  rw [spelled n small]
  simp only [List.cons_append, List.nil_append]
  rw [pieces?]
  simp [unit n small, bind, Option.bind, Option.map]
  cases pieces? tail <;> rfl

theorem escape_char_cases (c : Char) :
    (∃ e b, e ≠ 0x75 ∧ escape? (Char.ofUInt8 e) = some b ∧ Utf8.encode (escapeChar c) = [0x5C, e] ∧
      String.utf8EncodeChar c = [b]) ∨
    (c.toNat < 0x20 ∧
      escapeChar c = ['\\', 'u', '0', '0', Hex.digitChar (c.toNat / 16), Hex.digitChar (c.toNat % 16)]) ∨
    (0x20 ≤ c.toNat ∧ c ≠ '"' ∧ c ≠ '\\' ∧ escapeChar c = [c]) := by
  unfold escapeChar
  split
  · exact .inl ⟨0x22, 0x22, by decide, by decide, by decide, by decide⟩
  · exact .inl ⟨0x5C, 0x5C, by decide, by decide, by decide, by decide⟩
  · exact .inl ⟨0x62, 0x08, by decide, by decide, by decide, by decide⟩
  · exact .inl ⟨0x74, 0x09, by decide, by decide, by decide, by decide⟩
  · exact .inl ⟨0x6E, 0x0A, by decide, by decide, by decide, by decide⟩
  · exact .inl ⟨0x66, 0x0C, by decide, by decide, by decide, by decide⟩
  · exact .inl ⟨0x72, 0x0D, by decide, by decide, by decide, by decide⟩
  · rename_i quote slash _ _ _ _ _
    by_cases control : c.toNat < 0x20
    · exact .inr (.inl ⟨control, by rw [if_pos control]⟩)
    · exact .inr (.inr ⟨Nat.not_lt.mp control, quote, slash, by rw [if_neg control]⟩)

theorem plain_char_bytes (c : Char) (visible : 0x20 ≤ c.toNat) (quote : c ≠ '"') (slash : c ≠ '\\') :
    ∀ b ∈ String.utf8EncodeChar c, 0x20 ≤ b.toNat ∧ b ≠ 0x22 ∧ b ≠ 0x5C := by
  intro b member
  by_cases ascii : c.toNat < 0x80
  · have value := Utf8.byte_value c.toNat (by omega)
    rw [Utf8.encode_char_ascii c ascii, List.mem_singleton] at member
    subst member
    refine ⟨by omega, ?_, ?_⟩
    · intro same
      exact quote (Char.ext (UInt32.toNat_inj.mp (value.symm.trans (congrArg UInt8.toNat same))))
    · intro same
      exact slash (Char.ext (UInt32.toNat_inj.mp (value.symm.trans (congrArg UInt8.toNat same))))
  · have above := Utf8.encode_char_above c (Nat.not_lt.mp ascii) b member
    refine ⟨by omega, ?_, ?_⟩ <;> rintro rfl <;> exact absurd above (by decide)

theorem char_fronted (c : Char) :
    ∃ front, Fronted front (Utf8.encode (escapeChar c)) ∧ Spells front (String.utf8EncodeChar c) := by
  rcases escape_char_cases c with ⟨e, b, plain, escape, spelled, char⟩ | ⟨control, spelled⟩ |
    ⟨visible, quote, slash, spelled⟩
  · rw [spelled, char]
    exact ⟨[.byte b], fronted_escape e b plain escape, spells_bytes [b]⟩
  · rw [spelled]
    refine ⟨[.unit c.toNat], fronted_control c.toNat control, ?_⟩
    simpa [Char.ofNat_toNat] using spells_unit c.toNat control
  · rw [spelled, Utf8.encode_cons, Utf8.encode_nil, List.append_nil]
    exact ⟨_, fronted_bytes _ (plain_char_bytes c visible quote slash), spells_bytes _⟩

theorem chars_fronted (cs : List Char) :
    ∃ front, Fronted front (Utf8.encode (cs.flatMap escapeChar)) ∧ Spells front (Utf8.encode cs) := by
  induction cs with
  | nil => exact ⟨[], fronted_bytes [] (by simp), spells_bytes []⟩
  | cons c cs ih =>
      obtain ⟨first, firstRead, firstSpells⟩ := char_fronted c
      obtain ⟨others, othersRead, othersSpell⟩ := ih
      refine ⟨first ++ others, ?_, spells_append _ _ _ _ firstSpells othersSpell⟩
      rw [List.flatMap_cons, Utf8.encode_append]
      exact fronted_append _ _ _ _ firstRead othersRead

theorem pieces_quoted (s : String) (rest : Bytes) :
    ∃ front, pieces? (Utf8.encode (s.toList.flatMap escapeChar) ++ 0x22 :: rest) = some (front, rest) ∧
      textOf front = some s := by
  obtain ⟨front, read, spells⟩ := chars_fronted s.toList
  refine ⟨front, by rw [read]; simp [pieces?], ?_⟩
  have bytes : bytes? front = some (Utf8.encode s.toList) := by simpa [bytes?] using spells []
  simpa [textOf, bytes, Text.utf8] using Utf8.read_encode s

end LoginGateway.Json.Token
