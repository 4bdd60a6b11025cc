import Standardize.Error

/-!
Contract: collecting the errors of several checks.

Owns:
- `Status`, the errors recorded so far, oldest first;
- the one error that a finished status stands for: none, the only error as it
  is, or all of them together.

Does not own: the checks themselves.
-/

set_option autoImplicit false

namespace Standardize

/-- Errors recorded so far, oldest first. -/
structure Status where
  errors : List Error := []
deriving Repr

namespace Status

def empty : Status :=
  ⟨[]⟩

def push (status : Status) (error : Error) : Status :=
  ⟨status.errors ++ [error]⟩

def check (status : Status) : Except Error Unit → Status
  | .ok _ => status
  | .error error => status.push error

def isOk (status : Status) : Bool :=
  status.errors.isEmpty

/-- The error that the recorded ones amount to. -/
def error? (status : Status) : Option Error :=
  match status.errors with
  | [] => none
  | [error] => some error
  | errors => some (.composite errors)

/-- Success when nothing was recorded. -/
def result (status : Status) : Except Error Unit :=
  match status.error? with
  | some error => .error error
  | none => .ok ()

end Status

end Standardize
