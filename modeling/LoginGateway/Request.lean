import LoginGateway.Http.Target
import LoginGateway.Web.Form

/-!
A request as the gateway sees it: what is asked for, of which host, with which cookies, and with
which verified certificates.
-/
set_option autoImplicit false

namespace LoginGateway

-- Verified chains of certificates, each given by its subjects' names from the leaf on.
abbrev Chains := List (List String)

def Chains.leaf? (chains : Chains) : Option String := chains.head?.bind List.head?

structure Request where
  method : String
  target : String
  host : Option String
  cookies : Option String
  chains : Option Chains
deriving DecidableEq

structure Http.Message where
  method : String
  target : Http.Target
  fields : List Http.Field
  chains : Option Chains
deriving DecidableEq

def Http.Message.read (method target : String) (fields : List (String × Bytes))
    (chains : Option Chains) : Except Http.Error Http.Message := do
  if isToken method then .ok () else .error .method
  let target ← Target.read target.toList
  let fields ← fields.mapM fun (name, value) => Field.read name value
  return ⟨method, target, fields, chains⟩

def Http.Message.host? (m : Http.Message) : Option String :=
  ((valuesOf "host" m.fields).head?.bind Field.text?).or m.target.authority?

def Http.Message.cookies? (m : Http.Message) : Option String :=
  match (valuesOf "cookie" m.fields).filterMap Field.text? with
  | [] => none
  | texts => some ("; ".intercalate texts)

namespace Request

def ofMessage (m : Http.Message) : Request :=
  ⟨m.method, m.target.text, m.host?, m.cookies?, m.chains⟩

def path (r : Request) : List Char := Text.before (fun c => c = '?' || c = '#') r.target.toList

def queryPairs (target : List Char) : Form.Pairs :=
  match Text.cut? (· = '?') (Text.before (· = '#') target) with
  | some (_, query) => Form.decode query
  | none => []

def parameter? (target name : String) : Option String :=
  Form.value? (queryPairs target.toList) name

def parameter (r : Request) (name : String) : String := (parameter? r.target name).getD ""

end Request

end LoginGateway
