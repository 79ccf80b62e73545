import LoginGateway.Url.Ipv4
import LoginGateway.Url.Ipv6

/-!
Absolute addresses, held in parts whose text is already escaped, and how they are written.
-/
set_option autoImplicit false

namespace LoginGateway

inductive Url.Error where
  | relative
  | emptyHost
  | domain
  | hostCharacter
  | ipv4
  | ipv6
  | port
deriving DecidableEq

def Url.Error.message : Url.Error → String
  | .relative => "relative URL without a base"
  | .emptyHost => "empty host"
  | .domain => "invalid international domain name"
  | .hostCharacter => "invalid domain character"
  | .ipv4 => "invalid IPv4 address"
  | .ipv6 => "invalid IPv6 address"
  | .port => "invalid port number"

inductive Url.Host where
  | name (domain : List Char)
  | ipv4 (address : Nat)
  | ipv6 (groups : Url.Ipv6.Groups)
deriving DecidableEq

structure Url.Authority where
  user : List Char
  password : List Char
  host : Url.Host
  port : Option Nat
deriving DecidableEq

inductive Url.Path where
  | segments (parts : List (List Char))
  | plain (text : List Char)
deriving DecidableEq

structure Url where
  scheme : List Char
  authority : Option Url.Authority
  path : Url.Path
  query : Option (List Char)
  fragment : Option (List Char)
deriving DecidableEq

namespace Url

def Host.text : Host → List Char
  | .name domain => domain
  | .ipv4 address => Ipv4.text address
  | .ipv6 groups => '[' :: Ipv6.text groups ++ [']']

def Authority.userinfo (a : Authority) : List Char :=
  let password := if a.password.isEmpty then [] else ':' :: a.password
  if a.user.isEmpty && a.password.isEmpty then [] else a.user ++ password ++ ['@']

def Authority.portText (a : Authority) : List Char :=
  match a.port with
  | some port => ':' :: Text.Decimal.text port
  | none => []

def Authority.text (a : Authority) : List Char := a.userinfo ++ a.host.text ++ a.portText

def Path.toText : Path → List Char
  | .segments parts => parts.flatMap fun part => '/' :: part
  | .plain text => text

def marked (mark : Char) : Option (List Char) → List Char
  | some text => mark :: text
  | none => []

-- Slashes at the front of a path do not open an authority.
def guarded (path : List Char) : List Char :=
  match path with
  | '/' :: '/' :: _ => '/' :: '.' :: path
  | _ => path

def base (u : Url) : List Char :=
  u.scheme ++ ':' ::
    match u.authority with
    | some a => '/' :: '/' :: a.text ++ u.path.toText
    | none => guarded u.path.toText

def target (u : Url) : List Char := u.path.toText ++ marked '?' u.query

def text (u : Url) : List Char := u.base ++ marked '?' u.query ++ marked '#' u.fragment

def toString (u : Url) : String := String.ofList u.text

def extend (u : Url) (form : List Char) : Url :=
  match u.query with
  | some (c :: query) => { u with query := some (c :: query ++ '&' :: form) }
  | _ => { u with query := some form }

end Url

end LoginGateway
