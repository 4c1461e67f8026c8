import Gatehouse.Json.Reader
import Gatehouse.Settings.Provider
import Gatehouse.Toml.Document
import Gatehouse.Unicode.Lower
import Gatehouse.Yaml.Value

/-!
# Settings in files

A file holds a tree of settings in one of three formats, told by the end of its name. The root of
the tree has to be an object.
-/

namespace Gatehouse.Settings

inductive FileFormat where
  | json
  | toml
  | yaml
deriving DecidableEq, Repr, Inhabited

namespace FileFormat

def ofExtension? (extension : String) : Option FileFormat :=
  match Unicode.lower extension with
  | "json" => some .json
  | "toml" => some .toml
  | "yaml" | "yml" => some .yaml
  | _ => none

/-- The name of the file that a path leads to. -/
def fileName? (path : String) : Option String :=
  let parts := Text.splitString '/' path
  (parts.reverse.find? fun p => !p.isEmpty && p != ".").filter (· != "..")

/-- What follows the last point in a name. A point at the start does not count. -/
def extension? (name : String) : Option String :=
  let after := (name.toList.reverse.takeWhile (· != '.')).reverse
  if after.length + 1 < name.length then some (String.ofList after) else none

def ofPath? (path : String) : Option FileFormat :=
  ((fileName? path).bind extension?).bind ofExtension?

end FileFormat

def fileProviderName : String := "file"

private def fileFault (message : String) : ConfigFault := .provider fileProviderName message

def readTree (format : FileFormat) (text : String) : Except ConfigFault Json :=
  match format with
  | .json =>
    match Json.parse? text with
    | some tree => .ok tree
    | none => .error (fileFault "invalid JSON")
  | .toml =>
    match Toml.parse? text with
    | some tree => .ok tree
    | none => .error (fileFault "invalid TOML")
  | .yaml =>
    match Yaml.Value.parse? text with
    | some v => v.toJson.mapError fun f => fileFault ("failed to convert YAML: " ++ f.message)
    | none => .error (fileFault "invalid YAML")

def Provider.ofText (format : FileFormat) (text : String) : Except ConfigFault Provider := do
  match ← readTree format text with
  | .obj fields => .ok (.ofTree fileProviderName (.obj fields))
  | _ => .error (fileFault "root configuration must be an object")

/-- The settings in the file that a path leads to, given its text if there is such a file. -/
def Provider.ofFile (path : String) (text : Option String) : Except ConfigFault Provider :=
  match FileFormat.ofPath? path with
  | none => .error (fileFault "unsupported file format")
  | some format =>
    match text with
    | none =>
      .error (fileFault ("failed to read " ++ path ++ ": No such file or directory (os error 2)"))
    | some text => Provider.ofText format text

end Gatehouse.Settings
