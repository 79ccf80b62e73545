/-!
Cutting lists at marks and patterns. A cut loses nothing but the mark.
-/
set_option autoImplicit false

namespace LoginGateway.Text

variable {α : Type}

def cut? (mark : α → Bool) : List α → Option (List α × List α)
  | [] => none
  | x :: rest =>
    if mark x then some ([], rest)
    else (cut? mark rest).map fun (before, after) => (x :: before, after)

def before (mark : α → Bool) (xs : List α) : List α := xs.takeWhile fun x => !mark x

-- The cut of `List.dropInfix?`, for a program that is built on the core library alone.
def cutAt? [DecidableEq α] (pattern : List α) : List α → Option (List α × List α)
  | [] => if pattern = [] then some ([], []) else none
  | x :: rest =>
    match pattern.isPrefixOf? (x :: rest) with
    | some after => some ([], after)
    | none => (cutAt? pattern rest).map fun (before, after) => (x :: before, after)

def contains [DecidableEq α] (pattern xs : List α) : Bool := (cutAt? pattern xs).isSome

def cutLast? (mark : α → Bool) (xs : List α) : Option (List α × List α) :=
  (cut? mark xs.reverse).map fun (after, before) => (before.reverse, after.reverse)

end LoginGateway.Text
