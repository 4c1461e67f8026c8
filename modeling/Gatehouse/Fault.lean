import Gatehouse.Group
import Gatehouse.Text.Duration

/-!
# What can go wrong

`ConfigFault` holds the causes met while configuration is read, `Fault` those met while a request
is handled. Both are causes only; their wording is in `message`.
-/

namespace Gatehouse

/-- Why configuration cannot be used. -/
inductive ConfigFault where
  | notFound
  | unparsable (message : String)
  | io (message : String)
  | provider (name message : String)
  | malformed (group : Group) (id message : String)
  | other (message : String)
deriving DecidableEq, Repr, Inhabited

def ConfigFault.message : ConfigFault → String
  | .notFound => "configuration key not found"
  | .unparsable m => "failed to parse configuration: " ++ m
  | .io m => "IO error: " ++ m
  | .provider name m => "provider error: " ++ name ++ ": " ++ m
  | .malformed group id m => "malformed " ++ group.label ++ " entry '" ++ id ++ "': " ++ m
  | .other m => m

/-- Why a request cannot be answered as intended. -/
inductive Fault where
  /-- The configuration in use is wrong. -/
  | config (message : String)
  /-- No selector of the stage matches. -/
  | noSelector (stage : String)
  /-- A selector matches but none of its rules does. -/
  | noRule (stage selector : String)
  /-- The selector has no healthy backend. -/
  | noBackend (selector : String)
  /-- Every attempt failed while connecting. -/
  | transient (attempts : Nat) (message : String)
  /-- The answer took too long, in nanoseconds. -/
  | timeout (ns : Nat)
  /-- A stage failed. -/
  | stage (name message : String)
  /-- The outgoing call could not be made. -/
  | client (message : String)
  | io (message : String)
  | other (message : String)
deriving DecidableEq, Repr, Inhabited

namespace Fault

def message : Fault → String
  | config m => "configuration error: " ++ m
  | noSelector s => "no selector matched for plugin '" ++ s ++ "'"
  | noRule s selector =>
    "no rule matched for plugin '" ++ s ++ "' in selector '" ++ selector ++ "'"
  | noBackend selector => "no available upstream for selector '" ++ selector ++ "'"
  | transient attempts m =>
    "transient upstream failure after " ++ toString attempts ++ " attempt(s): " ++ m
  | timeout ns => "request timed out after " ++ Text.duration ns
  | .stage name m => "plugin '" ++ name ++ "' failed: " ++ m
  | client m => "HTTP client error: " ++ m
  | io m => "IO error: " ++ m
  | other m => m

def status : Fault → Nat
  | noSelector _ | noRule _ _ => 404
  | noBackend _ => 503
  | transient _ _ | timeout _ => 504
  | client _ => 502
  | config _ | .stage _ _ | io _ | other _ => 500

/-- Whether the fault only says that nothing is configured for the request. -/
def isRoutable : Fault → Bool
  | noSelector _ | noRule _ _ | noBackend _ => true
  | _ => false

/-- Whether the cause stays inside: the client is told no more than that something failed. -/
def isInternal : Fault → Bool
  | .stage _ _ | .io _ | .other _ => true
  | _ => false

end Fault

def ConfigFault.toFault (f : ConfigFault) : Fault := .config f.message

end Gatehouse
