import LoginGateway.Provider.Reply
import LoginGateway.Http.Target
import LoginGateway.Url.Reader
import LoginGateway.Web.Form

/-!
Calls to the provider: forms posted one after another, each answered by the next reply. A reply is
what the HTTP client hands back in the end, so the redirects that the client follows on its own are
inside it: one call is one attempt, and its status is that of the last response. What was attempted
is kept beside the result, a refused connection included. An endpoint that HTTP cannot address is
never called.
-/
set_option autoImplicit false

namespace LoginGateway

structure Post where
  address : Url
  form : Form.Pairs
deriving DecidableEq

def Post.body (p : Post) : String := String.ofList (Form.encode p.form)

def Post.target (p : Post) : String := String.ofList p.address.target

structure Attempt where
  post : Post
  reply : Reply
deriving DecidableEq

def Attempt.arrived (a : Attempt) : Bool := a.reply ≠ .refused

-- The end of one or more calls: the result, what was attempted, and the replies that are left.
structure Call (α : Type) where
  result : Except Error α
  attempts : List Attempt
  rest : Script

def Url.anonymous (u : Url) : Url :=
  { u with authority := u.authority.map fun a => { a with user := [], password := [] } }

def Url.isCallable (u : Url) : Bool :=
  (u.scheme = "http".toList || u.scheme = "https".toList) &&
    (Http.Target.read u.anonymous.text).toOption.isSome

variable {α β : Type}

namespace Call

def fail (e : Error) (script : Script) : Call α := ⟨.error e, [], script⟩

def post (decode : Json → Option α) (p : Post) (script : Script) : Call α :=
  if p.address.isCallable then
    let (reply, rest) := script.next
    ⟨reply.read decode, [⟨p, reply⟩], rest⟩
  else fail (.http .badEndpoint) script

def andThen (c : Call α) (next : α → Script → Call β) : Call β :=
  match c.result with
  | .error e => ⟨.error e, c.attempts, c.rest⟩
  | .ok a =>
    let d := next a c.rest
    ⟨d.result, c.attempts ++ d.attempts, d.rest⟩

def check (c : Call α) (test : α → Except Error β) : Call β :=
  ⟨c.result.bind test, c.attempts, c.rest⟩

end Call

end LoginGateway
