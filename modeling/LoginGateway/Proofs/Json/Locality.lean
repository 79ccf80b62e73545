import Mathlib.Data.List.TakeWhile
import LoginGateway.Proofs.Json.Tokens

/-!
A token ends where it ends, whatever stands behind it: in front of a bracket, a brace, a comma or a colon each reader of
a token reads what it reads without the rest.
-/
set_option autoImplicit false

namespace LoginGateway.Json.Token

variable {α β : Type}

def marks : List (UInt8 × Token) :=
  [(0x5B, .openArray), (0x5D, .closeArray), (0x7B, .openObject), (0x7D, .closeObject), (0x2C, .comma),
    (0x3A, .colon)]

theorem mark_char (c : Char) (t : Token) (marked : mark? c = some t) :
    ∃ b, (b, t) ∈ marks ∧ Char.ofUInt8 b = c := by
  unfold mark? at marked
  split at marked
  · cases marked; exact ⟨0x5B, by decide, by decide⟩
  · cases marked; exact ⟨0x5D, by decide, by decide⟩
  · cases marked; exact ⟨0x7B, by decide, by decide⟩
  · cases marked; exact ⟨0x7D, by decide, by decide⟩
  · cases marked; exact ⟨0x2C, by decide, by decide⟩
  · cases marked; exact ⟨0x3A, by decide, by decide⟩
  · cases marked

theorem mark_iff (b : UInt8) (t : Token) : mark? (Char.ofUInt8 b) = some t ↔ (b, t) ∈ marks := by
  constructor
  · intro marked
    obtain ⟨other, member, same⟩ := mark_char _ t marked
    have equal : other = b := UInt8.toNat_inj.mp (congrArg Char.toNat same)
    exact equal ▸ member
  · intro member
    have every : ∀ pair ∈ marks, mark? (Char.ofUInt8 pair.1) = some pair.2 := by decide
    exact every (b, t) member

theorem mark_inj (b c : UInt8) (t : Token) (first : (b, t) ∈ marks) (second : (c, t) ∈ marks) : b = c := by
  have every : ∀ p ∈ marks, ∀ q ∈ marks, p.2 = q.2 → p.1 = q.1 := by decide
  exact every (b, t) first (c, t) second rfl

theorem mark_plain : ∀ pair ∈ marks, isSpace pair.1 = false ∧ isDigit pair.1 = false := by decide

-- What may follow a token and leaves it as it is: nothing, or a mark.
def Apart (rest : Bytes) : Prop := ∀ b ∈ rest.head?, ∃ t, (b, t) ∈ marks

theorem mark_apart (m : UInt8) (t : Token) (rest : Bytes) (mark : (m, t) ∈ marks) : Apart (m :: rest) := by
  intro b first
  cases first
  exact ⟨t, mark⟩

-- What is taken in front of a mark is taken in the same way where nothing follows.
def IsLocal (read : Bytes → Option (α × Bytes)) : Prop :=
  ∀ ys, Apart ys → ∀ bytes a zs, read bytes = some (a, zs ++ ys) ↔ ∃ xs, bytes = xs ++ ys ∧ read xs = some (a, zs)

theorem local_map (read : Bytes → Option (α × Bytes)) (f : α → β) (isLocal : IsLocal read) :
    IsLocal fun bytes => (read bytes).map fun run => (f run.1, run.2) := by
  intro ys apart bytes b zs
  simp only [Option.map_eq_some_iff, Prod.exists, Prod.mk.injEq]
  constructor
  · intro given
    obtain ⟨a, rest, found, rfl, rfl⟩ := given
    obtain ⟨xs, whole, inner⟩ := (isLocal ys apart bytes a zs).mp found
    exact ⟨xs, whole, a, zs, inner, rfl, rfl⟩
  · intro given
    obtain ⟨xs, whole, a, rest, inner, rfl, rfl⟩ := given
    exact ⟨a, rest ++ ys, (isLocal ys apart bytes a rest).mpr ⟨xs, whole, inner⟩, rfl, rfl⟩

theorem local_bind (first : Bytes → Option (α × Bytes)) (next : α → Bytes → Option (β × Bytes))
    (firstLocal : IsLocal first) (nextLocal : ∀ a, IsLocal (next a)) :
    IsLocal fun bytes => (first bytes).bind fun run => next run.1 run.2 := by
  intro ys apart bytes b zs
  simp only [Option.bind_eq_some_iff, Prod.exists]
  constructor
  · intro given
    obtain ⟨a, rest, found, further⟩ := given
    obtain ⟨mid, rfl, inner⟩ := (nextLocal a ys apart rest b zs).mp further
    obtain ⟨xs, whole, outer⟩ := (firstLocal ys apart bytes a mid).mp found
    exact ⟨xs, whole, a, mid, outer, inner⟩
  · intro given
    obtain ⟨xs, whole, a, mid, outer, inner⟩ := given
    exact ⟨a, mid ++ ys, (firstLocal ys apart bytes a mid).mpr ⟨xs, whole, outer⟩,
      (nextLocal a ys apart _ b zs).mpr ⟨mid, rfl, inner⟩⟩

theorem local_filter (read : Bytes → Option (α × Bytes)) (keep : α → Bool) (isLocal : IsLocal read) :
    IsLocal fun bytes => (read bytes).filter fun run => keep run.1 := by
  intro ys apart bytes a zs
  simp only [Option.filter_eq_some_iff, isLocal ys apart bytes a zs]
  constructor
  · intro given
    obtain ⟨⟨xs, whole, inner⟩, kept⟩ := given
    exact ⟨xs, whole, inner, kept⟩
  · intro given
    obtain ⟨xs, whole, inner, kept⟩ := given
    exact ⟨⟨xs, whole, inner⟩, kept⟩

theorem local_nothing (a : α) : IsLocal fun bytes => some (a, bytes) := by
  intro ys _ bytes b zs
  simp only [Option.some.injEq, Prod.mk.injEq]
  constructor
  · intro given
    obtain ⟨same, whole⟩ := given
    exact ⟨zs, whole, same, rfl⟩
  · intro given
    obtain ⟨xs, whole, same, rfl⟩ := given
    exact ⟨same, whole⟩

def choose (sign : UInt8) (signed plain : Bytes → Option (α × Bytes)) (bytes : Bytes) : Option (α × Bytes) :=
  if bytes.head? = some sign then signed bytes.tail else plain bytes

theorem local_choose (sign : UInt8) (signed plain : Bytes → Option (α × Bytes))
    (unmarked : sign ∉ marks.map Prod.fst) (signedLocal : IsLocal signed) (plainLocal : IsLocal plain) :
    IsLocal (choose sign signed plain) := by
  intro ys apart bytes a zs
  have unlike : ys.head? ≠ some sign := by
    intro first
    obtain ⟨t, marked⟩ := apart sign first
    exact unmarked (List.mem_map.mpr ⟨(sign, t), marked, rfl⟩)
  have heads (xs : Bytes) : (xs ++ ys).head? = some sign ↔ xs.head? = some sign := by
    cases xs with
    | nil => simpa using unlike
    | cons x xs => rfl
  constructor
  · intro read
    by_cases first : bytes.head? = some sign
    · obtain ⟨rest, rfl⟩ := List.head?_eq_some_iff.mp first
      rw [choose, if_pos first] at read
      obtain ⟨xs, whole, inner⟩ := (signedLocal ys apart rest a zs).mp read
      exact ⟨sign :: xs, by rw [whole, List.cons_append], (if_pos rfl).trans inner⟩
    · rw [choose, if_neg first] at read
      obtain ⟨xs, whole, inner⟩ := (plainLocal ys apart bytes a zs).mp read
      rw [whole, heads] at first
      exact ⟨xs, whole, (if_neg first).trans inner⟩
  · intro given
    obtain ⟨xs, rfl, read⟩ := given
    by_cases first : xs.head? = some sign
    · obtain ⟨rest, rfl⟩ := List.head?_eq_some_iff.mp first
      rw [choose, if_pos first] at read
      rw [choose, if_pos ((heads _).mpr first)]
      exact (signedLocal ys apart _ a zs).mpr ⟨rest, rfl, read⟩
    · rw [choose, if_neg first] at read
      rw [choose, if_neg (mt (heads xs).mp first)]
      exact (plainLocal ys apart _ a zs).mpr ⟨xs, rfl, read⟩

theorem cut_while (p : α → Bool) (xs front rest : List α) :
    (xs.takeWhile p = front ∧ xs.dropWhile p = rest) ↔
      xs = front ++ rest ∧ (∀ x ∈ front, p x) ∧ ∀ x ∈ rest.head?, p x = false := by
  constructor
  · intro given
    obtain ⟨rfl, rfl⟩ := given
    refine ⟨List.takeWhile_append_dropWhile.symm, fun x member => List.mem_takeWhile_imp member, ?_⟩
    intro x head
    have kept := List.head?_dropWhile_not p xs
    rw [Option.mem_def.mp head] at kept
    exact kept
  · intro given
    obtain ⟨rfl, all, stops⟩ := given
    rw [List.takeWhile_append_of_pos all, List.dropWhile_append_of_pos all]
    cases rest with
    | nil => simp
    | cons x rest => simp [stops x rfl]

theorem local_digits : IsLocal fun bytes => some (digits bytes) := by
  intro ys apart bytes ds zs
  have ends : (∀ b ∈ (zs ++ ys).head?, isDigit b = false) ↔ ∀ b ∈ zs.head?, isDigit b = false := by
    cases zs with
    | nil =>
        simp only [List.nil_append, List.head?_nil, Option.mem_def, reduceCtorEq, false_implies, implies_true, iff_true]
        intro b head
        obtain ⟨t, marked⟩ := apart b head
        exact (mark_plain (b, t) marked).2
    | cons z zs => rfl
  have cut (xs rest : Bytes) : digits xs = (ds, rest) ↔
      ∃ front, front.filterMap digit? = ds ∧ xs = front ++ rest ∧ (∀ b ∈ front, isDigit b) ∧
        ∀ b ∈ rest.head?, isDigit b = false := by
    simp only [← cut_while, digits, Prod.mk.injEq]
    constructor
    · intro given
      obtain ⟨values, left⟩ := given
      exact ⟨_, values, rfl, left⟩
    · intro given
      obtain ⟨front, values, rfl, left⟩ := given
      exact ⟨values, left⟩
  simp only [Option.some.injEq, cut, ends]
  constructor
  · intro given
    obtain ⟨front, values, whole, all, stops⟩ := given
    exact ⟨front ++ zs, by rw [whole, List.append_assoc], front, values, rfl, all, stops⟩
  · intro given
    obtain ⟨xs, whole, front, values, rfl, all, stops⟩ := given
    exact ⟨front, values, by rw [whole, List.append_assoc], all, stops⟩

def digitsThat (keep : List Nat → Bool) (bytes : Bytes) : Option (List Nat × Bytes) :=
  if keep (digits bytes).1 then some (digits bytes) else none

theorem local_digits_that (keep : List Nat → Bool) : IsLocal (digitsThat keep) := by
  have filtered := local_filter _ keep local_digits
  have same : digitsThat keep = fun bytes => (some (digits bytes)).filter fun run => keep run.1 := by
    funext bytes
    rw [digitsThat, Option.filter_some]
  rw [same]
  exact filtered

theorem choose_behind (sign : UInt8) (signed plain : Bytes → Option (α × Bytes)) (rest : Bytes) :
    choose sign signed plain (sign :: rest) = signed rest :=
  if_pos rfl

theorem choose_other (sign : UInt8) (signed plain : Bytes → Option (α × Bytes)) (bytes : Bytes)
    (other : ∀ rest, bytes ≠ sign :: rest) : choose sign signed plain bytes = plain bytes := by
  apply if_neg
  intro first
  obtain ⟨rest, whole⟩ := List.head?_eq_some_iff.mp first
  exact other rest whole

theorem fraction_local : IsLocal fraction? := by
  have parts : fraction? = choose 0x2E (digitsThat fun ds => !ds.isEmpty) fun bytes => some ([], bytes) := by
    funext bytes
    unfold fraction?
    split
    · next rest =>
      rw [choose_behind, digitsThat]
      by_cases nothing : (digits rest).1.isEmpty <;> simp [nothing]
    · next other => rw [choose_other 0x2E _ _ _ other]
  rw [parts]
  exact local_choose 0x2E _ _ (by decide) (local_digits_that _) (local_nothing [])

theorem unsigned_exponent_local (negative : Bool) : IsLocal (unsignedExponent? negative) := by
  let signed (ds : List Nat) : Option Int :=
    some (if negative then -(Text.Decimal.value ds : Int) else Text.Decimal.value ds)
  have parts : unsignedExponent? negative = fun bytes =>
      (digitsThat (fun ds => !ds.isEmpty) bytes).map fun run => (signed run.1, run.2) := by
    funext bytes
    rw [unsignedExponent?, digitsThat]
    by_cases nothing : (digits bytes).1.isEmpty <;> simp [nothing, signed]
  rw [parts]
  exact local_map _ signed (local_digits_that _)

theorem signed_exponent_local : IsLocal signedExponent? := by
  have parts : signedExponent? =
      choose 0x2D (unsignedExponent? true) (choose 0x2B (unsignedExponent? false) (unsignedExponent? false)) := by
    funext bytes
    unfold signedExponent?
    split
    · rw [choose_behind]
    · rw [choose_other, choose_behind]
      simp
    · next minus plus => rw [choose_other 0x2D _ _ _ minus, choose_other 0x2B _ _ _ plus]
  rw [parts]
  exact local_choose 0x2D _ _ (by decide) (unsigned_exponent_local true)
    (local_choose 0x2B _ _ (by decide) (unsigned_exponent_local false) (unsigned_exponent_local false))

theorem exponent_local : IsLocal exponent? := by
  have parts : exponent? = choose 0x65 signedExponent? (choose 0x45 signedExponent? fun bytes => some (none, bytes)) := by
    funext bytes
    unfold exponent?
    split
    · rw [choose_behind]
    · rw [choose_other, choose_behind]
      simp
    · next small large => rw [choose_other 0x65 _ _ _ small, choose_other 0x45 _ _ _ large]
  rw [parts]
  exact local_choose 0x65 _ _ (by decide) signed_exponent_local
    (local_choose 0x45 _ _ (by decide) signed_exponent_local (local_nothing none))

theorem unsigned_local (negative : Bool) : IsLocal (unsigned? negative) := by
  have parts : unsigned? negative = fun bytes => (digitsThat isWhole bytes).bind fun whole =>
      (fraction? whole.2).bind fun fraction =>
        (exponent? fraction.2).map fun exponent => (⟨negative, whole.1, fraction.1, exponent.1⟩, exponent.2) := by
    funext bytes
    simp only [unsigned?, digitsThat]
    by_cases whole : isWhole (digits bytes).1
    · rw [if_pos whole, if_pos whole]
      simp only [Option.bind_eq_bind, Option.bind_some, Option.pure_def, Option.map_eq_bind]
      rfl
    · rw [if_neg whole, if_neg whole]
      rfl
  rw [parts]
  exact local_bind _ _ (local_digits_that isWhole) fun whole =>
    local_bind _ _ fraction_local fun fraction => local_map _ _ exponent_local

theorem number_local : IsLocal number? := by
  have parts : number? = choose 0x2D (unsigned? true) (unsigned? false) := by
    funext bytes
    unfold number?
    split
    · rw [choose_behind]
    · next minus => rw [choose_other 0x2D _ _ _ minus]
  rw [parts]
  exact local_choose 0x2D _ _ (by decide) (unsigned_local true) (unsigned_local false)

theorem fronted_unit (a b c d : UInt8) (u : Nat) (value : unit? a b c d = some u) :
    Fronted [.unit u] [0x5C, 0x75, a, b, c, d] := by
  intro tail
  simp only [List.cons_append, List.nil_append]
  rw [pieces?]
  simp [value, bind, Option.bind, Option.map]
  cases pieces? tail <;> rfl

theorem pieces_fronted (bytes rest : Bytes) (ps : List Piece) (read : pieces? bytes = some (ps, rest)) :
    ∃ body, bytes = body ++ 0x22 :: rest ∧ Fronted ps body := by
  fun_induction pieces? bytes generalizing ps rest with
  | case1 => cases read
  | case2 => cases read; exact ⟨[], rfl, fronted_bytes [] (by simp)⟩
  | case3 a b c d tail ih =>
      simp only [bind, Option.bind_eq_some_iff, pure, Prod.exists] at read
      obtain ⟨u, value, others, left, found, whole⟩ := read
      cases whole
      obtain ⟨body, rfl, fronted⟩ := ih _ _ found
      have unit := fronted_unit a b c d u value
      exact ⟨_, rfl, fronted_append [.unit u] _ [0x5C, 0x75, a, b, c, d] body unit fronted⟩
  | case4 e tail long ih =>
      simp only [bind, Option.bind_eq_some_iff, pure, Prod.exists] at read
      obtain ⟨b, value, others, left, found, whole⟩ := read
      cases whole
      obtain ⟨body, rfl, fronted⟩ := ih _ _ found
      have absent : escape? (Char.ofUInt8 0x75) = none := by decide
      have plain : e ≠ 0x75 := by
        rintro rfl
        cases absent.symm.trans value
      have escape := fronted_escape e b plain value
      exact ⟨_, rfl, fronted_append [.byte b] _ [0x5C, e] body escape fronted⟩
  | case5 => cases read
  | case6 b tail quote long short shown ih =>
      simp only [bind, Option.bind_eq_some_iff, pure, Prod.exists] at read
      obtain ⟨others, left, found, whole⟩ := read
      cases whole
      obtain ⟨body, rfl, fronted⟩ := ih _ _ found
      have visible : ¬ b < 0x20 ∧ b ≠ 0x5C := by simpa using shown
      have byte := fronted_byte b (Nat.not_lt.mp visible.1) quote visible.2
      exact ⟨_, rfl, fronted_append [.byte b] _ [b] body byte fronted⟩

theorem pieces_local : IsLocal pieces? := by
  intro ys _ bytes ps zs
  constructor
  · intro read
    obtain ⟨body, rfl, fronted⟩ := pieces_fronted _ _ _ read
    refine ⟨body ++ 0x22 :: zs, by simp, ?_⟩
    rw [fronted]
    simp [pieces?]
  · intro given
    obtain ⟨xs, rfl, read⟩ := given
    obtain ⟨body, rfl, fronted⟩ := pieces_fronted _ _ _ read
    rw [List.append_assoc, fronted]
    simp [pieces?]

theorem word_local (t : Token) (letters : String) : IsLocal (word? t letters) := by
  intro ys _ bytes a zs
  simp only [word_eq_some_iff]
  constructor
  · intro given
    obtain ⟨same, rfl⟩ := given
    exact ⟨Text.utf8 letters ++ zs, by rw [List.append_assoc], same, rfl⟩
  · intro given
    obtain ⟨xs, rfl, same, rfl⟩ := given
    exact ⟨same, by rw [List.append_assoc]⟩

-- A reader that needs a byte keeps to what stands in front of the mark, also when its first byte is read already.
theorem local_behind (b : UInt8) (read : Bytes → Option (α × Bytes)) (isLocal : IsLocal read) (needs : read [] = none) :
    IsLocal fun rest => read (b :: rest) := by
  intro ys apart bytes a zs
  dsimp only
  rw [isLocal ys apart]
  constructor
  · intro given
    obtain ⟨xs, whole, inner⟩ := given
    cases xs with
    | nil => cases needs.symm.trans inner
    | cons x xs =>
        obtain ⟨rfl, rfl⟩ := List.cons.inj whole
        exact ⟨xs, rfl, inner⟩
  · intro given
    obtain ⟨xs, rfl, inner⟩ := given
    exact ⟨b :: xs, rfl, inner⟩

theorem long_shape (b : UInt8) :
    (long? b = fun rest => (pieces? rest).map fun run => (.text (textOf run.1), run.2)) ∨
    (∃ t letters, long? b = word? t letters) ∨
    long? b = fun rest => (number? (b :: rest)).map fun run => (.number run.1, run.2) := by
  by_cases quote : Char.ofUInt8 b = '"'
  · exact .inl (funext fun rest => by simp [long?, quote])
  by_cases null : Char.ofUInt8 b = 'n'
  · exact .inr (.inl ⟨.null, "ull", funext fun rest => by simp [long?, null]⟩)
  by_cases yes : Char.ofUInt8 b = 't'
  · exact .inr (.inl ⟨.bool true, "rue", funext fun rest => by simp [long?, yes]⟩)
  by_cases no : Char.ofUInt8 b = 'f'
  · exact .inr (.inl ⟨.bool false, "alse", funext fun rest => by simp [long?, no]⟩)
  refine .inr (.inr (funext fun rest => ?_))
  rw [long?]
  split
  · contradiction
  · contradiction
  · contradiction
  · contradiction
  · rfl

theorem long_local (b : UInt8) : IsLocal (long? b) := by
  rcases long_shape b with string | ⟨t, letters, word⟩ | numeral
  · rw [string]
    exact local_map _ (fun ps => Token.text (textOf ps)) pieces_local
  · rw [word]
    exact word_local t letters
  · rw [numeral]
    exact local_behind b _ (local_map _ Token.number number_local) rfl

theorem first_local : IsLocal first? := by
  intro ys apart bytes t zs
  have front (b : UInt8) (rest : Bytes) : first? (b :: rest) = some (t, zs ++ ys) ↔
      ∃ xs, rest = xs ++ ys ∧ first? (b :: xs) = some (t, zs) := by
    simp only [first?]
    cases mark? (Char.ofUInt8 b) with
    | none => exact long_local b ys apart rest t zs
    | some mark => exact local_nothing mark ys apart rest t zs
  constructor
  · intro read
    cases bytes with
    | nil => cases read
    | cons b rest =>
        obtain ⟨xs, rfl, inner⟩ := (front b rest).mp read
        exact ⟨b :: xs, rfl, inner⟩
  · intro given
    obtain ⟨xs, rfl, inner⟩ := given
    cases xs with
    | nil => cases inner
    | cons b xs => exact (front b _).mpr ⟨xs, rfl, inner⟩

end LoginGateway.Json.Token
