import Gatehouse.Json.Reader
import Gatehouse.Settings.Provider
import Gatehouse.Unicode.Lower

/-!
# Settings in the environment

Variables with a certain beginning are settings. The rest of the name, in lower case, is the key:
underscores separate its segments, or double underscores if there are any, and then single ones
belong to the segments. The text of a variable is JSON where it can be.
-/

namespace Gatehouse.Settings.Environment

/-- The usual beginning. -/
def defaultLead : String := "VIREO_"

/-- The parts between double underscores, from the left. -/
def splitDouble : List Char → List (List Char)
  | '_' :: '_' :: r => [] :: splitDouble r
  | c :: r =>
    match splitDouble r with
    | part :: parts => (c :: part) :: parts
    | [] => [[c]]
  | [] => [[]]

/-- The dotted key for the rest of a name in lower case. -/
def dotted (name : List Char) : List Char :=
  if Text.occursIn ['_', '_'] name then ['.'].intercalate (splitDouble name)
  else name.map fun c => if c = '_' then '.' else c

def keyOf (rest : String) : String := String.ofList (dotted (Unicode.lower rest).toList)

/-- The key of a variable, if it is a setting. -/
def key? (lead name : String) : Option String :=
  (Text.after? lead.toList name.toList).map fun rest => keyOf (String.ofList rest)

/-- What the text of a variable means. -/
def valueOf (text : String) : Json :=
  match Json.parse? text with
  | some v => v
  | none =>
    if Text.eqIgnoringCase text "true" then .bool true
    else if Text.eqIgnoringCase text "false" then .bool false
    else .str text

/-- The texts of the settings among some variables; of several for one key the last counts. -/
def texts (lead : String) (vars : List (String × String)) : Table String :=
  .ofList (vars.filterMap fun (name, text) => (key? lead name).map fun key => (key, text))

def provider (lead : String) (vars : List (String × String)) : Provider :=
  let texts := texts lead vars
  ⟨"env", fun key => (texts.get? key).map fun text => .ok (valueOf text)⟩

end Gatehouse.Settings.Environment
