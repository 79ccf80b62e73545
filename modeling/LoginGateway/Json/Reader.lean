import LoginGateway.Json.Token

/-!
Reading a document. The tokens are taken one at a time; what has been read of the arrays and
objects that are still open is kept on a stack, so a document may be nested to any depth.
-/
set_option autoImplicit false

namespace LoginGateway.Json

-- An open array with its items, or an open object with its members and the name whose value comes next;
-- both with the last one first.
inductive Frame where
  | items (done : List Json)
  | members (done : Members) (name : Option String)

inductive Expect where
  | value
  | valueOrClose
  | nameOrClose
  | name
  | colon
  | separator

structure Reader where
  expect : Expect
  stack : List Frame
  document : Json

namespace Reader

def start : Reader := ⟨.value, [], .null⟩

def put (value : Json) : List Frame → Reader
  | [] => ⟨.separator, [], value⟩
  | .items done :: outer => ⟨.separator, .items (value :: done) :: outer, .null⟩
  | .members done name :: outer =>
    ⟨.separator, .members ((name, value) :: done) none :: outer, .null⟩

def beginValue (stack : List Frame) : Token → Option Reader
  | .null => some (put .null stack)
  | .bool b => some (put (.bool b) stack)
  | .number n => some (put (.number n) stack)
  | .text s => some (put (.text s) stack)
  | .openArray => some ⟨.valueOrClose, .items [] :: stack, .null⟩
  | .openObject => some ⟨.nameOrClose, .members [] none :: stack, .null⟩
  | _ => none

def readName (stack : List Frame) : Token → Option Reader
  | .text s =>
    match stack with
    | .members done _ :: outer => some ⟨.colon, .members done s :: outer, .null⟩
    | _ => none
  | _ => none

def close (stack : List Frame) : Token → Option Reader
  | .closeArray =>
    match stack with
    | .items done :: outer => some (put (.array done.reverse) outer)
    | _ => none
  | .closeObject =>
    match stack with
    | .members done _ :: outer => some (put (.object done.reverse) outer)
    | _ => none
  | _ => none

def separate (stack : List Frame) : Token → Option Reader
  | .comma =>
    match stack with
    | .items _ :: _ => some ⟨.value, stack, .null⟩
    | .members _ _ :: _ => some ⟨.name, stack, .null⟩
    | [] => none
  | token => close stack token

def step (r : Reader) (token : Token) : Option Reader :=
  match r.expect with
  | .value => beginValue r.stack token
  | .valueOrClose => (beginValue r.stack token).or (close r.stack token)
  | .nameOrClose => (readName r.stack token).or (close r.stack token)
  | .name => readName r.stack token
  | .colon => if token = .colon then some ⟨.value, r.stack, .null⟩ else none
  | .separator => separate r.stack token

def done? (r : Reader) : Option Json :=
  match r.expect, r.stack with
  | .separator, [] => some r.document
  | _, _ => none

end Reader

def ofTokens? (tokens : List Token) : Option Json :=
  (tokens.foldlM Reader.step Reader.start).bind Reader.done?

def read? (bytes : Bytes) : Option Json := (Token.all? bytes).bind ofTokens?

end LoginGateway.Json
