import LoginGateway.Http.Response
import LoginGateway.Proofs.Text.Blank
import LoginGateway.Proofs.Text.Utf8

/-!
Which responses can be sent. A field takes every text without controls but tabs, in whatever script, and a response is
sent exactly if its fields take their texts and its status has three digits.
-/
set_option autoImplicit false

namespace LoginGateway.Http

def IsFieldText (s : String) : Prop := ∀ c ∈ s.toList, c = '\t' ∨ Text.isControl c = false

instance : DecidablePred IsFieldText := fun s =>
  decidable_of_iff (s.toList.all fun c => c = '\t' || !Text.isControl c) (by simp [IsFieldText])

theorem IsFieldText.append {front back : String} (first : IsFieldText front) (second : IsFieldText back) :
    IsFieldText (front ++ back) := by
  rw [IsFieldText, String.toList_append]
  exact List.forall_mem_append.mpr ⟨first, second⟩

theorem IsFieldText.of_printed {s : String} (printed : ∀ c ∈ s.toList, Text.isControl c = false) : IsFieldText s :=
  fun c member => .inr (printed c member)

theorem value_bytes (c : Char) :
    (String.utf8EncodeChar c).all isValueByte ↔ c = '\t' ∨ Text.isControl c = false := by
  by_cases ascii : c.toNat < 0x80
  · have here : isValueByte (UInt8.ofNat c.toNat) ↔ c = '\t' ∨ Text.isControl c = false :=
      Text.ascii_all (fun c => isValueByte (UInt8.ofNat c.toNat) ↔ c = '\t' ∨ Text.isControl c = false) (by decide) c ascii
    rw [Text.Utf8.encode_char_ascii c ascii, List.all_cons, List.all_nil, Bool.and_true, here]
  · have printed : Text.isControl c = false := Bool.eq_false_iff.mpr fun control => ascii (Text.control_ascii c control)
    refine iff_of_true (List.all_eq_true.mpr fun b member => ?_) (.inr printed)
    have above := Text.Utf8.encode_char_above c (Nat.le_of_not_lt ascii) b member
    have least : 0x20 ≤ b := UInt8.le_iff_toNat_le.mpr (Nat.le_trans (by decide) above)
    have delete : b ≠ 0x7F := by
      rintro rfl
      exact absurd above (by decide)
    simp [isValueByte, least, delete]

theorem field_value_iff (s : String) : isFieldValue (Text.utf8 s) ↔ IsFieldText s := by
  rw [isFieldValue, Text.utf8, Text.Utf8.encode, List.all_flatMap, List.all_eq_true]
  exact forall₂_congr fun c _ => value_bytes c

theorem check_value_eq (text : String) :
    checkValue text = if IsFieldText text then .ok text else .error .fieldValue := by
  rw [checkValue]
  by_cases taken : IsFieldText text
  · rw [if_pos taken, if_pos ((field_value_iff text).mpr taken)]
  · rw [if_neg taken, if_neg (mt (field_value_iff text).mp taken)]

def redirection (location : String) (cookie : Option String) : Response :=
  ⟨302, noStore :: ("location", location) :: (cookie.toList).map fun text => ("set-cookie", text), ""⟩

theorem redirect_eq (location : String) (cookie : Option String) :
    redirect location cookie =
      if IsFieldText location ∧ ∀ text ∈ cookie, IsFieldText text then .ok (redirection location cookie)
      else .error .fieldValue := by
  rw [redirect, check_value_eq]
  by_cases taken : IsFieldText location
  · rw [if_pos taken]
    cases cookie with
    | none => simp [taken, redirection, bind, Except.bind, pure, Except.pure]
    | some text =>
        by_cases cookieTaken : IsFieldText text
        · simp [taken, cookieTaken, check_value_eq, redirection, bind, Except.bind, pure, Except.pure]
        · simp [cookieTaken, check_value_eq, bind, Except.bind]
  · rw [if_neg taken, if_neg fun both => taken both.1]
    rfl

def refusal (status : Nat) (message : String) : Response :=
  ⟨status, [noStore, ("content-type", "text/plain; charset=utf-8")], message ++ "\n"⟩

theorem failure_eq (status : Nat) (message : String) :
    failure status message = if 100 ≤ status ∧ status ≤ 999 then .ok (refusal status message) else .error .status := by
  rw [failure, checkStatus]
  by_cases known : 100 ≤ status ∧ status ≤ 999
  · simp [known, refusal, bind, Except.bind, pure, Except.pure]
  · have refused : (decide (100 ≤ status) && decide (status ≤ 999)) = false := by simpa using known
    simp [known, refused, bind, Except.bind]

def Response.values (r : Response) (name : String) : List String := (r.fields.filter (·.1 = name)).map Prod.snd

end LoginGateway.Http
