/-!
# What a supervised link can refuse

The errors that reach the caller of a supervisor or a transport. Loss of the link is not among
them: it is an event, and the supervisor deals with it.
-/

namespace LinkWarden

/-- Why an operation on a link was refused. -/
inductive LinkError
  | /-- Credentials or an address that cannot work. -/
    config (message : String)
  | /-- The link named has been initialised before. -/
    alreadyInitialized (id : String)
  | /-- The transport rejected a call. -/
    transport (message : String)
  | /-- A worker could not be started. -/
    spawn (worker cause : String)
  deriving DecidableEq, Repr

namespace LinkError

/-- The wording of an error. -/
def message : LinkError → String
  | .config m => "invalid configuration: " ++ m
  | .alreadyInitialized id => id ++ " is already initialized"
  | .transport m => "transport error: " ++ m
  | .spawn worker cause => "failed to spawn " ++ worker ++ " thread: " ++ cause

/-- Whether starting must be given up: trying again helps only against a rejected call. -/
def isFatal : LinkError → Bool
  | .transport _ => false
  | _ => true

/-- The error of the system underneath, where there is one. -/
def cause? : LinkError → Option String
  | .spawn _ cause => some cause
  | _ => none

end LinkError

end LinkWarden
