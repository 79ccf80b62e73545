import LoginGateway.Proofs.Json.RoundTrip

/-!
A document is read from its own tokens and from no others: what the reader has taken so far is told by what it has on
its stack.
-/
set_option autoImplicit false

namespace LoginGateway.Json

def itemsFront (items : List Json) : List Token := items.flatMap fun item => tokens item ++ [.comma]

def memberTokens (name : Option String) (value : Json) : List Token := .text name :: .colon :: tokens value

def membersFront (members : Members) : List Token :=
  members.flatMap fun (name, value) => memberTokens name value ++ [.comma]

theorem items_tokens_snoc (items : List Json) (last : Json) :
    itemsTokens (items ++ [last]) = itemsFront items ++ tokens last := by
  induction items with
  | nil => rfl
  | cons item items ih =>
      have more : items ++ [last] ≠ [] := by simp
      rw [List.cons_append, itemsTokens, ih, itemsFront, itemsFront, List.flatMap_cons]
      · simp
      · exact more

theorem members_tokens_snoc (members : Members) (name : Option String) (value : Json) :
    membersTokens (members ++ [(name, value)]) = membersFront members ++ memberTokens name value := by
  induction members with
  | nil => rfl
  | cons member members ih =>
      obtain ⟨first, inner⟩ := member
      have more : members ++ [(name, value)] ≠ [] := by simp
      rw [List.cons_append, membersTokens, ih, membersFront, membersFront, List.flatMap_cons, memberTokens]
      · simp [memberTokens]
      · exact more

namespace Reader

-- The tokens in front of a value, by what is open around it.
def opened : List Frame → List Token
  | [] => []
  | .items done :: outer => opened outer ++ .openArray :: itemsFront done.reverse
  | .members done name :: outer =>
    opened outer ++ .openObject :: membersFront done.reverse ++ [.text name, .colon]

inductive HasRead : List Token → Reader → Prop where
  | value (stack : List Frame) (document : Json) : HasRead (opened stack) ⟨.value, stack, document⟩
  | array (outer : List Frame) (document : Json) :
      HasRead (opened outer ++ [.openArray]) ⟨.valueOrClose, .items [] :: outer, document⟩
  | object (outer : List Frame) (name : Option String) (document : Json) :
      HasRead (opened outer ++ [.openObject]) ⟨.nameOrClose, .members [] name :: outer, document⟩
  | name (done : Members) (outer : List Frame) (name : Option String) (document : Json) :
      HasRead (opened outer ++ .openObject :: membersFront done.reverse)
        ⟨.name, .members done name :: outer, document⟩
  | colon (done : Members) (outer : List Frame) (name : Option String) (document : Json) :
      HasRead (opened outer ++ .openObject :: membersFront done.reverse ++ [.text name])
        ⟨.colon, .members done name :: outer, document⟩
  | put (value : Json) (stack : List Frame) : HasRead (opened stack ++ tokens value) (put value stack)

theorem begin_read (stack : List Frame) (t : Token) (next : Reader) (begins : beginValue stack t = some next) :
    HasRead (opened stack ++ [t]) next := by
  cases t with
  | null => cases begins; exact .put .null stack
  | bool b => cases begins; exact .put (.bool b) stack
  | number n => cases begins; exact .put (.number n) stack
  | text s => cases begins; exact .put (.text s) stack
  | openArray => cases begins; exact .array stack .null
  | openObject => cases begins; exact .object stack none .null
  | closeArray => cases begins
  | closeObject => cases begins
  | comma => cases begins
  | colon => cases begins

theorem name_read (done : Members) (outer : List Frame) (old : Option String) (t : Token) (next : Reader)
    (named : readName (.members done old :: outer) t = some next) :
    HasRead (opened outer ++ .openObject :: membersFront done.reverse ++ [t]) next := by
  cases t with
  | text s => cases named; exact .colon done outer s .null
  | _ => cases named

theorem separated_read (value : Json) (stack : List Frame) (t : Token) (next : Reader)
    (separated : step (put value stack) t = some next) : HasRead (opened stack ++ tokens value ++ [t]) next := by
  cases stack with
  | nil => cases t <;> cases separated
  | cons frame outer =>
      cases frame with
      | items done =>
          cases t with
          | comma =>
              cases separated
              have whole : opened (.items done :: outer) ++ tokens value ++ [.comma] =
                  opened (.items (value :: done) :: outer) := by
                simp [opened, itemsFront]
              rw [whole]
              exact .value _ _
          | closeArray =>
              cases separated
              have whole : opened (.items done :: outer) ++ tokens value ++ [.closeArray] =
                  opened outer ++ tokens (.array (value :: done).reverse) := by
                rw [List.reverse_cons, tokens, items_tokens_snoc]
                simp [opened]
              rw [whole]
              exact .put _ outer
          | _ => cases separated
      | members done name =>
          cases t with
          | comma =>
              cases separated
              have whole : opened (.members done name :: outer) ++ tokens value ++ [.comma] =
                  opened outer ++ .openObject :: membersFront ((name, value) :: done).reverse := by
                simp [opened, membersFront, memberTokens]
              rw [whole]
              exact .name _ outer none _
          | closeObject =>
              cases separated
              have whole : opened (.members done name :: outer) ++ tokens value ++ [.closeObject] =
                  opened outer ++ tokens (.object ((name, value) :: done).reverse) := by
                rw [List.reverse_cons, tokens, members_tokens_snoc]
                simp [opened, memberTokens]
              rw [whole]
              exact .put _ outer
          | _ => cases separated

theorem array_begun_read (outer : List Frame) (t : Token) (next : Reader)
    (taken : (beginValue (.items [] :: outer) t).or (close (.items [] :: outer) t) = some next) :
    HasRead (opened outer ++ [.openArray] ++ [t]) next := by
  rcases Option.or_eq_some_iff.mp taken with begins | ⟨_, closes⟩
  · exact begin_read (.items [] :: outer) t next begins
  · cases t with
    | closeArray =>
        cases closes
        rw [List.append_assoc]
        exact .put (.array []) outer
    | _ => cases closes

theorem object_begun_read (outer : List Frame) (name : Option String) (t : Token) (next : Reader)
    (taken : (readName (.members [] name :: outer) t).or (close (.members [] name :: outer) t) = some next) :
    HasRead (opened outer ++ [.openObject] ++ [t]) next := by
  rcases Option.or_eq_some_iff.mp taken with named | ⟨_, closes⟩
  · exact name_read [] outer name t next named
  · cases t with
    | closeObject =>
        cases closes
        rw [List.append_assoc]
        exact .put (.object []) outer
    | _ => cases closes

theorem step_read (read : List Token) (r next : Reader) (t : Token) (has : HasRead read r)
    (taken : step r t = some next) : HasRead (read ++ [t]) next := by
  cases has with
  | value stack document => exact begin_read stack t next taken
  | array outer document => exact array_begun_read outer t next taken
  | object outer name document => exact object_begun_read outer name t next taken
  | name done outer old document => exact name_read done outer old t next taken
  | colon done outer name document =>
      by_cases colon : t = .colon
      · have value : next = ⟨.value, .members done name :: outer, .null⟩ := by
          simpa [step, colon, eq_comm] using taken
        have whole : opened outer ++ .openObject :: membersFront done.reverse ++ [.text name] ++ [t] =
            opened (.members done name :: outer) := by
          simp [opened, colon]
        rw [whole, value]
        exact .value _ _
      · simp [step, colon] at taken
  | put value stack => exact separated_read value stack t next taken

theorem run_read (ts read : List Token) (r last : Reader) (has : HasRead read r)
    (run : ts.foldlM step r = some last) : HasRead (read ++ ts) last := by
  induction ts generalizing read r with
  | nil =>
      cases run
      rwa [List.append_nil]
  | cons t ts ih =>
      rw [List.foldlM_cons] at run
      obtain ⟨next, taken, rest⟩ := Option.bind_eq_some_iff.mp run
      have further := ih (read ++ [t]) next (step_read read r next t has taken) rest
      rwa [List.append_assoc, List.singleton_append] at further

theorem done_read (read : List Token) (r : Reader) (j : Json) (has : HasRead read r) (done : done? r = some j) :
    read = tokens j := by
  cases has with
  | put value stack =>
      cases stack with
      | nil => cases done; rfl
      | cons frame outer => cases frame <;> cases done
  | _ => cases done

end Reader

theorem of_tokens_iff (ts : List Token) (j : Json) : ofTokens? ts = some j ↔ ts = tokens j := by
  constructor
  · intro read
    obtain ⟨last, run, done⟩ := Option.bind_eq_some_iff.mp read
    exact Reader.done_read ts last j (Reader.run_read ts [] .start last (.value [] .null) run) done
  · rintro rfl
    exact of_tokens j

end LoginGateway.Json
