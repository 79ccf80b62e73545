import LoginGateway.Json.Fields
import LoginGateway.Json.Writer

/-!
The header of a token, and which headers are accepted: an object, or an array of all its fields in
order, that names the one signature algorithm. The other fields decide nothing, but they have to
be of their types, an embedded key included.
-/
set_option autoImplicit false

namespace LoginGateway.Token.Header

def text : String := Json.compact <| .fields [("typ", .str "JWT"), ("alg", .str "HS256")]

def choice? : Json → Option String
  | .text s => s
  | .object [(some name, .null)] => some name
  | _ => none

-- An empty object stands for null beside a choice.
def looseChoice? : Json → Option String
  | .object [(some name, .object [])] => some name
  | j => choice? j

def holds {α : Type} (fields : Json.Fields) (name : String) (decode : Json → Option α) : Bool :=
  (fields.nullable? name decode).isSome

def isGiven {α : Type} (fields : Json.Fields) (name : String) (decode : Json → Option α) : Bool :=
  ((fields name).bind decode).isSome

def isChoice (fields : Json.Fields) (name : String) (choices : List String) : Bool :=
  match (fields name).bind choice? with
  | some choice => choices.contains choice
  | none => false

def keyAlgorithms : List String :=
  ["HS256", "HS384", "HS512", "ES256", "ES384", "RS256", "RS384", "RS512", "PS256", "PS384",
    "PS512", "EdDSA", "RSA1_5", "RSA-OAEP", "RSA-OAEP-256"]

def keyAlgorithm? (j : Json) : Option String := (looseChoice? j).filter keyAlgorithms.contains

def sharedKeyFields : List String :=
  ["use", "key_ops", "alg", "kid", "x5u", "x5c", "x5t", "x5t#S256"]

def hasSharedKeyFields (members : Json.Members) : Bool :=
  match Json.membersOf? sharedKeyFields members with
  | some fields =>
    holds fields "alg" keyAlgorithm? &&
      ["use", "kid", "x5u", "x5t", "x5t#S256"].all (holds fields · Json.text?) &&
      ["key_ops", "x5c"].all (holds fields · (Json.list? Json.text?))
  | none => false

structure KeyType where
  name : String
  curves : List String
  texts : List String

def curves : List String := ["P-256", "P-384", "P-521", "Ed25519"]

def keyTypes : List KeyType :=
  [⟨"EC", curves, ["x", "y"]⟩, ⟨"RSA", [], ["n", "e"]⟩, ⟨"oct", [], ["k"]⟩,
    ⟨"OKP", curves, ["x"]⟩]

def KeyType.curveField (t : KeyType) : List String := if t.curves.isEmpty then [] else ["crv"]

def KeyType.isMet (t : KeyType) (members : Json.Members) : Bool :=
  match Json.membersOf? ("kty" :: t.curveField ++ t.texts) members with
  | some fields =>
    isChoice fields "kty" [t.name] && t.curveField.all (isChoice fields · t.curves) &&
      t.texts.all (isGiven fields · Json.text?)
  | none => false

def key? (j : Json) : Option Unit :=
  match j with
  | .object members =>
    if j.isReadable 1 && hasSharedKeyFields members && keyTypes.any (KeyType.isMet · members) then
      some ()
    else none
  | _ => none

def names : List String :=
  ["typ", "alg", "cty", "jku", "jwk", "kid", "x5u", "x5c", "x5t", "x5t#S256"]

def isWhole : Json → Bool
  | .array items => items.length = names.length
  | _ => true

def accepts (j : Json) : Bool :=
  match Json.fieldsOf? names j with
  | some fields =>
    isWhole j && isChoice fields "alg" ["HS256"] && holds fields "jwk" key? &&
      ["typ", "cty", "jku", "kid", "x5u", "x5t", "x5t#S256"].all (holds fields · Json.text?) &&
      holds fields "x5c" (Json.list? Json.text?)
  | none => false

end LoginGateway.Token.Header
