import Gatehouse.Fault
import Gatehouse.Item.Basic
import Gatehouse.Json.Decode
import Gatehouse.Json.Reader
import Gatehouse.Json.Writer
import Gatehouse.Outcome

/-!
# The delivered form of items

Entries arrive as JSON objects. Absent fields have defaults, unknown fields are passed over, and a
handle may be given as text or as the value itself, which is then held as its compact text.
`Item.parse` reads an entry of a group and `Item.encode` writes it back.
-/

namespace Gatehouse

open Json Json.Decoder

/-- A handle: nothing for null and for a blank text, a text as it is, the compact text of any other
value. -/
def decodeHandle : Decoder (Option String)
  | .null => .ok none
  | .str s => .ok (if Text.isBlankText s then none else some s)
  | v => .ok (some v.toText)

/-- The delivered form of something that may be absent. -/
def encodeOption (f : α → Json) : Option α → Json
  | none => .null
  | some x => f x

namespace Descriptor

/-- Descriptors as they are delivered; `order` is another name of `sort`. -/
def decode : Decoder Descriptor :=
  record "PluginData" <|
    Descriptor.mk <$> optional "id" string "" []
      <*> required "name" string []
      <*> optional "sort" (signed 32) 0 ["order"]
      <*> optional "enabled" bool false []
      <*> optional "config" (nullable any) none []

def encode (d : Descriptor) : Json :=
  .obj [("config", d.config.getD .null), ("enabled", .bool d.enabled), ("id", .str d.id),
    ("name", .str d.name), ("sort", .int d.sort)]

end Descriptor

namespace Selector

def Scope.label : Scope → String
  | .fullFlow => "full_flow"
  | .custom => "custom"

def decode : Decoder Selector :=
  record "SelectorData" <|
    Selector.mk <$> required "id" string []
      <*> required "pluginName" string []
      <*> optional "name" string "" []
      <*> optional "matchMode" Match.Mode.decode .all []
      <*> optional "type" (variant ([Scope.fullFlow, .custom].map fun s => (s.label, s))) .custom []
      <*> optional "sort" (signed 32) 0 []
      <*> optional "enabled" bool false []
      <*> optional "continued" bool false []
      <*> optional "conditions" (list Match.Condition.decode) [] []
      <*> optional "handle" decodeHandle none []

def encode (s : Selector) : Json :=
  .obj [("conditions", .arr (s.conditions.map Match.Condition.encode)),
    ("continued", .bool s.continued), ("enabled", .bool s.enabled),
    ("handle", encodeOption .str s.handle), ("id", .str s.id), ("matchMode", .str s.mode.label),
    ("name", .str s.name), ("pluginName", .str s.stage), ("sort", .int s.sort),
    ("type", .str s.scope.label)]

end Selector

namespace Rule

def decode : Decoder Rule :=
  record "RuleData" <|
    Rule.mk <$> required "id" string []
      <*> required "selectorId" string []
      <*> optional "pluginName" string "" []
      <*> optional "name" string "" []
      <*> optional "matchMode" Match.Mode.decode .all []
      <*> optional "sort" (signed 32) 0 []
      <*> optional "enabled" bool false []
      <*> optional "conditions" (list Match.Condition.decode) [] []
      <*> optional "handle" decodeHandle none []

def encode (r : Rule) : Json :=
  .obj [("conditions", .arr (r.conditions.map Match.Condition.encode)),
    ("enabled", .bool r.enabled), ("handle", encodeOption .str r.handle), ("id", .str r.id),
    ("matchMode", .str r.mode.label), ("name", .str r.name), ("pluginName", .str r.stage),
    ("selectorId", .str r.selectorId), ("sort", .int r.sort)]

end Rule

namespace Service

def decode : Decoder Service :=
  record "MetaData" <|
    Service.mk <$> optional "id" string "" []
      <*> optional "appName" string "" []
      <*> optional "contextPath" (nullable string) none []
      <*> required "path" string []
      <*> required "rpcType" string []
      <*> optional "serviceName" string "" []
      <*> optional "methodName" string "" []
      <*> optional "enabled" bool false []

def encode (s : Service) : Json :=
  .obj [("appName", .str s.appName), ("contextPath", encodeOption .str s.contextPath),
    ("enabled", .bool s.enabled), ("id", .str s.id), ("methodName", .str s.methodName),
    ("path", .str s.path), ("rpcType", .str s.rpcType), ("serviceName", .str s.serviceName)]

end Service

namespace Credential

def decode : Decoder Credential :=
  record "AppAuthData" <|
    Credential.mk <$> required "appKey" string []
      <*> optional "appSecret" string "" []
      <*> optional "enabled" bool false []
      <*> optional "open" bool false []
      <*> optional "paths" (list string) [] []

def encode (c : Credential) : Json :=
  .obj [("appKey", .str c.key), ("appSecret", .str c.secret), ("enabled", .bool c.enabled),
    ("open", .bool c.restricted), ("paths", .arr (c.paths.map .str))]

end Credential

/-- A handle of a stage as the stage understands it; an absent one is the default. -/
def parseHandle (d : Decoder α) (default : α) : Option String → Except ConfigFault α
  | none => .ok default
  | some text =>
    match (readDocument? text).map d with
    | some (.ok x) => .ok x
    | some (.error e) => .error (.unparsable ("invalid handle '" ++ text ++ "': " ++ e.message))
    | none => .error (.unparsable ("invalid handle '" ++ text ++ "'"))

/-- A handle that is there has to be JSON. -/
def checkHandle (handle : Option String) : Except ConfigFault Unit :=
  match handle with
  | none => .ok ()
  | some text =>
    match readDocument? text with
    | some _ => .ok ()
    | none => .error (.unparsable "unparseable handle JSON")

namespace Item

/-- The entry that a malformed value seems to be: its id, else its name, else its key, whichever
it has first, if that is a string. -/
def hint (raw : Json) : String :=
  (((raw.get? "id").or ((raw.get? "name").or (raw.get? "appKey"))).bind asString?).getD "<unknown>"

def parse (group : Group) (raw : Json) : Except ConfigFault Item :=
  let malformed (e : DecodeError) : ConfigFault := .malformed group (hint raw) e.message
  let checked (id : String) (handle : Option String) (item : Item) : Except ConfigFault Item :=
    match checkHandle handle with
    | .ok () => .ok item
    | .error e => .error (.malformed group id e.message)
  match group with
  | .plugin => ((Descriptor.decode raw).mapError malformed).map .descriptor
  | .selector =>
    ((Selector.decode raw).mapError malformed).bind fun s => checked s.id s.handle (.selector s)
  | .rule => ((Rule.decode raw).mapError malformed).bind fun r => checked r.id r.handle (.rule r)
  | .metaData => ((Service.decode raw).mapError malformed).map .service
  | .appAuth => ((Credential.decode raw).mapError malformed).map .credential

/-- The well-formed entries of a list; the others are passed over. -/
def parseAll (group : Group) (raws : List Json) : List Item :=
  raws.filterMap fun raw => (parse group raw).toOption

theorem parseAll_cons (group : Group) (raw : Json) (raws : List Json) :
    parseAll group (raw :: raws) = (parse group raw).toOption.toList ++ parseAll group raws := by
  rw [parseAll, List.filterMap_cons]
  cases (parse group raw).toOption <;> rfl

/-- What is read for a group belongs to it. -/
theorem group_of_parse {group : Group} {raw : Json} {item : Item}
    (h : parse group raw = .ok item) : item.group = group := by
  cases group <;> simp only [parse] at h
  case plugin | metaData | appAuth =>
    obtain ⟨x, -, rfl⟩ := exists_of_map h
    rfl
  case selector | rule =>
    obtain ⟨x, -, h⟩ := exists_of_bind h
    split at h <;> cases h
    rfl

theorem mem_parseAll {group : Group} {raws : List Json} {item : Item} :
    item ∈ parseAll group raws ↔ ∃ raw ∈ raws, parse group raw = .ok item := by
  rw [parseAll, List.mem_filterMap]
  refine exists_congr fun raw => and_congr_right fun _ => ?_
  cases parse group raw <;> simp [Except.toOption]

theorem group_of_mem_parseAll {group : Group} {raws : List Json} {item : Item}
    (h : item ∈ parseAll group raws) : item.group = group := by
  obtain ⟨raw, -, hraw⟩ := mem_parseAll.1 h
  exact group_of_parse hraw

def encode : Item → Json
  | .descriptor d => d.encode
  | .selector s => s.encode
  | .rule r => r.encode
  | .service s => s.encode
  | .credential c => c.encode

end Item

end Gatehouse
