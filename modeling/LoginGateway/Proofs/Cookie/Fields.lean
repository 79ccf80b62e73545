import LoginGateway.Request
import LoginGateway.Proofs.Cookie
import LoginGateway.Proofs.Text.Utf8

/-!
Cookies in the fields of a message. Told by bytes, the first piece of all fields that starts with a name
gives its value; the gateway reads characters, and only from the fields that are ASCII as a whole.
-/
set_option autoImplicit false

namespace LoginGateway

namespace Cookie

theorem pieces_joined (text : String) (texts : List String) :
    pieces ("; ".intercalate (text :: texts)).toList = (text :: texts).flatMap fun text => pieces text.toList := by
  induction texts generalizing text with
  | nil => simp
  | cons next texts ih =>
      have joined : ("; ".intercalate (text :: next :: texts)).toList =
          text.toList ++ ';' :: ' ' :: ("; ".intercalate (next :: texts)).toList := by
        rw [String.intercalate_cons_cons]
        simp
      rw [joined, pieces_append, pieces_spaced, ih]
      rfl

end Cookie

namespace Http

def isBlankByte (b : UInt8) : Bool := b == 0x20 || (0x09 ≤ b && b ≤ 0x0D)

theorem blank_byte (c : Char) (ascii : c.toNat < 0x80) : isBlankByte (UInt8.ofNat c.toNat) = Text.isBlank c :=
  Text.ascii_all (fun c => isBlankByte (UInt8.ofNat c.toNat) = Text.isBlank c) (by decide) c ascii

def Field.pieces (f : Field) : List Bytes := (f.value.splitOn 0x3B).map (Text.strip isBlankByte)

def Field.isAscii (f : Field) : Bool := f.value.all (· < 0x80)

def cookie? (name : String) (fields : List Field) : Option Bytes :=
  (fields.flatMap Field.pieces).findSome? (Text.utf8 name ++ [0x3D]).isPrefixOf?

theorem strip_encode (cs : List Char) (ascii : ∀ c ∈ cs, c.toNat < 0x80) :
    Text.strip isBlankByte (Text.Utf8.encode cs) = Text.Utf8.encode (Text.trim cs) := by
  have inner : ∀ c ∈ Text.trim cs, c.toNat < 0x80 := fun c member => ascii c (Text.strip_subset _ _ c member)
  rw [Text.Utf8.encode_ascii cs ascii, Text.Utf8.encode_ascii _ inner, Text.strip_map, Text.trim]
  congr 1
  exact Text.strip_congr _ _ cs fun c member => blank_byte c (ascii c member)

theorem Field.text_spelled (f : Field) (text : String) (given : f.text? = some text) :
    f.value = Text.utf8 text ∧ ∀ c ∈ text.toList, c.toNat < 0x80 := by
  rw [Field.text?] at given
  by_cases ascii : f.value.all (· < 0x80)
  · rw [if_pos ascii] at given
    cases given
    rw [List.all_eq_true] at ascii
    have small : ∀ b ∈ f.value, b.toNat < 0x80 := fun b member => by simpa [UInt8.lt_iff_toNat_lt] using ascii b member
    have low : ∀ c ∈ f.value.map Char.ofUInt8, c.toNat < 0x80 := by
      intro c member
      obtain ⟨b, among, rfl⟩ := List.mem_map.mp member
      exact small b among
    refine ⟨?_, by simpa using low⟩
    rw [Text.utf8, String.toList_ofList, Text.Utf8.encode_ascii _ low, List.map_map]
    refine (List.map_id _).symm.trans (List.map_congr_left fun b _ => ?_)
    exact UInt8.ofNat_toNat.symm
  · rw [if_neg ascii] at given
    cases given

theorem Field.pieces_text (f : Field) (text : String) (given : f.text? = some text) :
    f.pieces = (Cookie.pieces text.toList).map Text.Utf8.encode := by
  obtain ⟨spelled, ascii⟩ := f.text_spelled text given
  have split := Text.Utf8.split_encode ';' (by decide) text.toList
  rw [pieces, spelled, Text.utf8]
  change List.map _ (List.splitOn (UInt8.ofNat ';'.toNat) _) = _
  rw [split, Cookie.pieces, List.map_map, List.map_map]
  apply List.map_congr_left
  intro piece member
  exact strip_encode piece fun c inside => ascii c (Text.split_members _ _ piece member c inside).1

theorem ascii_pieces (fields : List Field) :
    (fields.filter Field.isAscii).flatMap Field.pieces =
      ((fields.filterMap Field.text?).flatMap fun text => Cookie.pieces text.toList).map Text.Utf8.encode := by
  induction fields with
  | nil => rfl
  | cons f fields ih =>
      by_cases ascii : f.isAscii
      · have given : f.text? = some (String.ofList (f.value.map Char.ofUInt8)) := if_pos ascii
        rw [List.filter_cons_of_pos ascii, List.flatMap_cons, f.pieces_text _ given, ih, List.filterMap_cons, given,
          List.flatMap_cons, List.map_append]
      · have missing : f.text? = none := if_neg ascii
        rw [List.filter_cons_of_neg ascii, ih, List.filterMap_cons, missing]

def Message.cookieFields (m : Message) : List Field := valuesOf "cookie" m.fields

theorem find_cookie (m : Message) (name : String) (plain : '=' ∉ name.toList) :
    (Cookie.find? m.cookies? name).map Text.utf8 = cookie? name (m.cookieFields.filter Field.isAscii) := by
  have pattern : Text.utf8 name ++ [0x3D] = Text.Utf8.encode (name.toList ++ ['=']) := by
    rw [Text.Utf8.encode_append]
    rfl
  have read : (Text.Utf8.encode (name.toList ++ ['='])).isPrefixOf? ∘ Text.Utf8.encode =
      Option.map Text.Utf8.encode ∘ (name.toList ++ ['=']).isPrefixOf? :=
    funext fun piece => Text.Utf8.front_encode _ piece
  rw [cookie?, ascii_pieces, pattern, List.findSome?_map, read, ← List.map_findSome?, Message.cookies?, Message.cookieFields]
  cases (valuesOf "cookie" m.fields).filterMap Field.text? with
  | nil => rfl
  | cons text texts =>
      rw [Cookie.find?, Option.bind_some, Cookie.value_of_pieces _ _ plain, Cookie.pieces_joined, Option.map_map]
      congr 1
      funext value
      exact congrArg Text.Utf8.encode String.toList_ofList

theorem cookie_append (name : String) (front back : List Field) :
    cookie? name (front ++ back) = (cookie? name front).or (cookie? name back) := by
  rw [cookie?, List.flatMap_append, List.findSome?_append]
  rfl

end Http

end LoginGateway
