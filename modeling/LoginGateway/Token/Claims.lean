import LoginGateway.Json.Fields
import LoginGateway.Json.Reader
import LoginGateway.Json.Writer

/-!
What a token says: who issued it, for whom, when it holds, and for which purpose. Each purpose has
its own subject and carries one text under its own name.
-/
set_option autoImplicit false

namespace LoginGateway

inductive Purpose where
  | login (returnUrl : String)
  | session (username : String)
deriving DecidableEq

structure Claims where
  issuer : String
  audience : List String
  expires : UInt64
  notBefore : UInt64
  issuedAt : UInt64
  purpose : Purpose
deriving DecidableEq

def Purpose.loginSubject : String := "state:redir_cookie"
def Purpose.sessionSubject : String := "state:auth_cookie"

def Purpose.subject : Purpose → String
  | .login _ => loginSubject
  | .session _ => sessionSubject

def Purpose.value : Purpose → String
  | .login returnUrl => returnUrl
  | .session username => username

namespace Claims

def later (now seconds : UInt64) : UInt64 :=
  if now.toNat + seconds.toNat < Text.Decimal.wordLimit then now + seconds else 0xFFFFFFFFFFFFFFFF

def issue (issuer : String) (now lifetime : UInt64) (purpose : Purpose) : Claims :=
  ⟨issuer, [issuer], later now lifetime, now, now, purpose⟩

def isCurrent (c : Claims) (now : UInt64) : Bool := c.notBefore ≤ now && now < c.expires

def loginField : String := "return_url"
def sessionField : String := "username"

def valueMember : Purpose → String × Json
  | .login returnUrl => (loginField, .str returnUrl)
  | .session username => (sessionField, .str username)

def audienceMembers (audience : List String) : List (String × Json) :=
  if audience.isEmpty then [] else [("aud", .array (audience.map Json.str))]

def members (c : Claims) : List (String × Json) :=
  [("iss", .str c.issuer)] ++ audienceMembers c.audience ++
    [("exp", .word c.expires), ("nbf", .word c.notBefore), ("iat", .word c.issuedAt),
      ("sub", .str c.purpose.subject), valueMember c.purpose]

def toJson (c : Claims) : Json := .fields c.members

def text (c : Claims) : String := c.toJson.compact

inductive Subject where
  | login
  | session
deriving DecidableEq

def subject? : Json → Option Subject
  | .text (some s) =>
    if s = Purpose.loginSubject then some .login
    else if s = Purpose.sessionSubject then some .session
    else none
  | .number n =>
    match n.natural? with
    | some 0 => some .login
    | some 1 => some .session
    | _ => none
  | _ => none

def Subject.field : Subject → String
  | .login => loginField
  | .session => sessionField

def Subject.purpose : Subject → String → Purpose
  | .login => .login
  | .session => .session

def commonFields : List String := ["iss", "aud", "exp", "nbf", "iat", "sub"]

-- The purpose, read from the fields of its subject alone.
def purpose? (members : Json.Members) : Option Purpose := do
  let common ← Json.membersOf? ["sub"] members
  let subject ← (common "sub").bind subject?
  let own ← Json.membersOf? [subject.field] members
  return subject.purpose (← own.text? subject.field)

def ofMembers? (members : Json.Members) : Option Claims := do
  let fields ← Json.membersOf? commonFields members
  return {
    issuer := ← fields.text? "iss"
    audience := ← fields.read? "aud" (Json.list? Json.text?) []
    expires := ← fields.word? "exp"
    notBefore := ← fields.word? "nbf"
    issuedAt := ← fields.word? "iat"
    purpose := ← purpose? members }

def ofJson? (j : Json) : Option Claims :=
  match j with
  | .object members => if j.isReadable 0 then ofMembers? members else none
  | _ => none

def read? (bytes : Bytes) : Option Claims := (Json.read? bytes).bind ofJson?

end Claims

end LoginGateway
