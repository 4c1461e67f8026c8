import Gatehouse.Settings.Environment
import Gatehouse.Settings.File

/-!
# Where settings come from

A gateway may be given a finished list of providers. Otherwise its settings come from a file, from
the environment, and from further providers, and each of these overrides the ones before it.
-/

namespace Gatehouse.Settings

/-- A file of settings: its path, and its text if it is there. -/
structure SettingsFile where
  path : String
  text : Option String
deriving DecidableEq, Repr, Inhabited

/-- Variables of the environment, and how the names of settings among them begin. -/
structure EnvironmentSource where
  lead : String
  vars : List (String × String)
deriving DecidableEq, Repr, Inhabited

structure Sources where
  /-- A finished list. Nothing else counts if it is given. -/
  whole : Option (List Provider)
  file : Option SettingsFile
  environment : Option EnvironmentSource
  others : List Provider

namespace Sources

def empty : Sources := ⟨none, none, none, []⟩

def fileProviders : Option SettingsFile → Except ConfigFault (List Provider)
  | none => .ok []
  | some f => (Provider.ofFile f.path f.text).map fun p => [p]

/-- The providers in the order of their precedence, the lowest first. -/
def providers (s : Sources) : Except ConfigFault (List Provider) :=
  match s.whole with
  | some ps => .ok ps
  | none =>
    (fileProviders s.file).map fun fromFile =>
      fromFile ++ (s.environment.map fun e => Environment.provider e.lead e.vars).toList ++
        s.others

end Sources

end Gatehouse.Settings
