import LoginGateway.Gateway

/-!
Runs of a gateway: what is asked of it over time, each request with its own time and, where the
provider may be called, with the replies it will give. A step is made at one time and with one set
of keys: the state that a callback brings is checked at the very second in which its session is
issued, however long the provider takes, and no change of the keys comes between the two. Only the
keys pass from one step to the next, and a failed change leaves them as they were.
-/
set_option autoImplicit false

namespace LoginGateway.Gateway

inductive Event where
  | handle (r : Request) (script : Script)
  | resolve (r : Request)
  | callback (r : Request) (script : Script)
  | isCallback (r : Request)
  | prepend (secret : String)
  | rotate (set : KeySet)
  | issueSession (username : String)
  | validateSession (token : String)
  | issueLogin (target : String)
  | validateLogin (token : String)
deriving DecidableEq

inductive Answer where
  | outcome (handled : Handled Outcome)
  | response (handled : Handled Response)
  | isCallback (yes : Bool)
  | changed (result : Except Error Unit)
  | session (result : Except Error SessionCookie)
  | user (result : Except Error (Option String))
  | text (result : Except Error String)

def change (keys : KeySet) (result : Except Error KeySet) : KeySet × Answer :=
  match result with
  | .ok changed => (changed, .changed (.ok ()))
  | .error e => (keys, .changed (.error e))

def step (g : Gateway) (keys : KeySet) (now : UInt64) : Event → KeySet × Answer
  | .handle r script => (keys, .outcome (g.handle keys now r script))
  | .resolve r => (keys, .outcome ⟨g.resolve keys now r, []⟩)
  | .callback r script => (keys, .response (g.callback keys now r script))
  | .isCallback r => (keys, .isCallback (g.isCallback r))
  | .prepend secret => change keys (prepend keys secret)
  | .rotate set => change keys (rotate set)
  | .issueSession username => (keys, .session (g.sessions.issue keys now username))
  | .validateSession token => (keys, .user (g.sessions.validate keys now token))
  | .issueLogin target => (keys, .text (g.logins.issue keys now target))
  | .validateLogin token => (keys, .text (g.logins.validate keys now token))

structure Step where
  now : UInt64
  event : Event
deriving DecidableEq

def run (g : Gateway) : KeySet → List Step → KeySet × List Answer
  | keys, [] => (keys, [])
  | keys, s :: rest =>
    let (next, answer) := g.step keys s.now s.event
    let (last, answers) := g.run next rest
    (last, answer :: answers)

end LoginGateway.Gateway
