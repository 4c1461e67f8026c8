import Gatehouse.Number.Decimal
import Gatehouse.Yaml.Node

/-!
# YAML values

What nodes mean. A plain scalar without a tag is a null, a truth value, a number or a text by its
looks; a tag of the language may ask for one of them, and a tag of one's own stays with the value.
In JSON a value with a tag is an object with one field, named by the tag, and the keys of an
object are texts, numbers or truth values.
-/

namespace Gatehouse.Yaml

open Number (Binary64)

inductive Value where
  | null
  | bool (b : Bool)
  | int (i : Int)
  | float (x : Binary64)
  /-- An infinite number. -/
  | infinite (negative : Bool)
  | notANumber
  | str (s : String)
  | seq (items : List Value)
  | map (fields : List (Value × Value))
  | tagged (tag : String) (v : Value)
deriving Repr, Inhabited

namespace Value

/-! ### Equality of keys -/

mutual

/-- Whether two values are the same key. The order of fields does not count, nor does the sign of
zero. -/
def same : Value → Value → Bool
  | null, null => true
  | bool a, bool b => a == b
  | int a, int b => a == b
  | float x, float y => x == y || (x.significand == 0 && y.significand == 0)
  | infinite a, infinite b => a == b
  | notANumber, notANumber => true
  | str s, str t => s == t
  | seq xs, seq ys => sameItems xs ys
  | map fs, map gs => fs.length == gs.length && sameFields fs gs
  | tagged t v, tagged u w => t == u && same v w
  | _, _ => false

private def sameItems : List Value → List Value → Bool
  | [], [] => true
  | x :: xs, y :: ys => same x y && sameItems xs ys
  | _, _ => false

private def sameFields : List (Value × Value) → List (Value × Value) → Bool
  | [], _ => true
  | (k, v) :: r, gs => gs.any (fun g => same k g.1 && same v g.2) && sameFields r gs

end

/-! ### Plain scalars -/

/-- The number that digits of a base stand for, if there are any and nothing else. -/
def inBase? (base : Nat) (s : List Char) : Option Nat :=
  if s.isEmpty then none
  else
    (s.mapM fun c => (Json.hexDigit? c).filter (· < base)).map fun ds =>
      ds.foldl (fun n d => n * base + d) 0

/-- The base that the start of a number names, and the text after it. -/
def cutBase : List Char → Option (Nat × List Char)
  | '0' :: 'x' :: r => some (16, r)
  | '0' :: 'o' :: r => some (8, r)
  | '0' :: 'b' :: r => some (2, r)
  | _ => none

/-- Whether a text is digits that start with a zero they do not need. Such a text is no number. -/
def hasIdleZero (s : List Char) : Bool :=
  let digits := match s with
    | '-' :: r | '+' :: r => r
    | r => r
  1 < digits.length && digits.head? == some '0' && digits.all Char.isDigit

/-- A whole number: perhaps a sign, perhaps the mark of a base, and digits. -/
def whole? (s : List Char) : Option Int :=
  let (negative, digits) := Number.Decimal.cutSign s
  let n := match cutBase digits with
    | some (base, r) => inBase? base r
    -- the sign does not hide a leading zero
    | none => if hasIdleZero s then none else inBase? 10 digits
  n.map fun n => if negative then -(n : Int) else n

/-- A number with a point or an exponent, or one that is not finite. -/
def float? (s : List Char) : Option Value :=
  let unsigned := match s with
    | '+' :: r => r
    | r => r
  if s.take 2 = ['+', '+'] || s.take 2 = ['+', '-'] then none
  else
    match String.ofList unsigned with
    | ".inf" | ".Inf" | ".INF" => some (infinite false)
    | _ =>
      match String.ofList s with
      | "-.inf" | "-.Inf" | "-.INF" => some (infinite true)
      | ".nan" | ".NaN" | ".NAN" => some notANumber
      | _ => ((Number.Decimal.read? unsigned).bind Number.Decimal.toBinary64?).map float

/-- A whole number as a value. It has to fit 64 bits. -/
def ofWhole? (i : Int) : Option Value :=
  if -0x8000000000000000 ≤ i && i ≤ 0xFFFFFFFFFFFFFFFF then some (int i) else none

/-- Whether a whole number is taken for one: it fits 128 bits. A larger one is taken for another
kind of value, and one that fits 128 bits but not 64 has no value. -/
def isTaken (i : Int) : Bool :=
  -0x80000000000000000000000000000000 ≤ i && i ≤ 0xFFFFFFFFFFFFFFFFFFFFFFFFFFFFFFFF

def isNull (s : String) : Bool := ["null", "Null", "NULL", "~"].contains s

def truth? (s : String) : Option Bool :=
  if ["true", "True", "TRUE"].contains s then some true
  else if ["false", "False", "FALSE"].contains s then some false
  else none

/-- A number by its looks; `none` within for a whole number that does not fit. -/
def number? (s : List Char) : Option (Option Value) :=
  match (whole? s).filter isTaken with
  | some i => some (ofWhole? i)
  | none => if hasIdleZero s then none else (float? s).map some

/-- What a plain scalar without a tag means. -/
def ofPlain? (s : String) : Option Value :=
  if s.isEmpty || isNull s then some null
  else
    match truth? s with
    | some b => some (bool b)
    | none => (number? s.toList).getD (some (str s))

/-! ### Tags -/

/-- The tag of the language with a name. -/
def standard (name : String) : String := "tag:yaml.org,2002:" ++ name

/-- What a scalar means whose tag is not one's own. -/
def ofScalar? (tag : Option String) (isPlain : Bool) (s : String) : Option Value :=
  match tag with
  | none => if isPlain then ofPlain? s else some (str s)
  | some t =>
    if t = standard "bool" then (truth? s).map bool
    else if t = standard "int" then ((whole? s.toList).filter isTaken).bind ofWhole?
    else if t = standard "float" then float? s.toList
    else if t = standard "null" then if isNull s then some null else none
    else some (str s)

/-- A text without the exclamation mark in front of it, if anything is left then. -/
def dropMark : List Char → List Char
  | '!' :: c :: r => c :: r
  | s => s

/-- The name of a tag of one's own: at most two marks in front of it are dropped. -/
def ownTag? (tag : Option String) : Option String :=
  tag.bind fun t =>
    let s := t.toList
    if s.head? = some '!' then some (String.ofList (dropMark (dropMark s))) else none

/-! ### Nodes -/

def maxDepth : Nat := 128

/-- How often aliases may be followed, for each mark of the text. -/
def aliasesPerMark : Nat := 100

/-- The meaning of nodes; the state is how many more aliases may be followed. -/
abbrev Meaning (α : Type) := StateT Nat Option α

/-- The node itself, or the one that an alias stands for. -/
def follow (targets : List (Nat × Node)) : Node → Meaning Node
  | .alias n => do
    let left ← get
    if left = 0 then failure
    else
      set (left - 1)
      match targets.lookup n with
      | some node => return node
      | none => failure
  | node => return node

/-- Fields in order, if no key is given twice. -/
def distinct? :
    (before : List (Value × Value)) → List (Value × Value) → Option (List (Value × Value))
  | before, [] => some before.reverse
  | before, (k, v) :: r =>
    if before.any fun f => same f.1 k then none else distinct? ((k, v) :: before) r

/-- Put the tag of a node around its value, if it is one's own. -/
def wrap (tag : Option String) (v : Value) : Value :=
  match ownTag? tag with
  | some t => tagged t v
  | none => v

/-- What a node means, nested in no more than `depth` collections. -/
def ofNode (targets : List (Nat × Node)) : (depth : Nat) → Node → Meaning Value
  | depth, node => do
    match ← follow targets node with
    | .alias _ => failure
    | .scalar _ tag isPlain s =>
      -- a tag of one's own leaves a plain scalar to its looks
      match ownTag? tag with
      | some t => return tagged t (← liftM (ofScalar? none isPlain s))
      | none => liftM (ofScalar? tag isPlain s)
    | .seq _ tag items =>
      match depth with
      | 0 => failure
      | depth + 1 => return wrap tag (seq (← items.mapM (ofNode targets depth)))
    | .map _ tag fields =>
      match depth with
      | 0 => failure
      | depth + 1 =>
        let fields ← fields.mapM fun (k, v) => do
          return (← ofNode targets depth k, ← ofNode targets depth v)
        return wrap tag (map (← liftM (distinct? [] fields)))

/-- What a whole text means; a text that holds nothing is null. -/
def ofDocument? : Option Node → Option Value
  | none => some null
  | some node =>
    ((ofNode node.anchored.reverse maxDepth node).run (node.weight * aliasesPerMark)).map Prod.fst

def parse? (text : String) : Option Value :=
  (Token.ofText? text).bind fun tokens => (Node.ofTokens? tokens).bind ofDocument?

/-! ### JSON -/

/-- Why a value has no JSON form. -/
inductive KeyFault where
  | notAString
  | notFinite
deriving DecidableEq, Repr, Inhabited

def KeyFault.message : KeyFault → String
  | notAString => "key must be a string"
  | notFinite => "float key must be finite"

/-- A value as a key of an object. -/
def keyText : Value → Except KeyFault String
  | str s => .ok s
  | bool true => .ok "true"
  | bool false => .ok "false"
  | int i => .ok (toString i)
  | float x => .ok x.toText
  | infinite _ | notANumber => .error .notFinite
  | null | seq _ | map _ | tagged _ _ => .error .notAString

/-- The key that a tag is in an object. -/
def tagKey (tag : String) : String := "!" ++ tag

mutual

/-- The JSON form of a value. Of several fields with one key the last counts, and numbers that are
not finite are null. -/
def toJson : Value → Except KeyFault Json
  | null => .ok .null
  | bool b => .ok (.bool b)
  | int i => .ok (.int i)
  | float x => .ok (.float x)
  | infinite _ => .ok .null
  | notANumber => .ok .null
  | str s => .ok (.str s)
  | seq items => (itemsJson items).map .arr
  | map fields => (fieldsJson fields).map .ofFields
  | tagged tag v => (toJson v).map fun j => .obj [(tagKey tag, j)]

private def itemsJson : List Value → Except KeyFault (List Json)
  | [] => .ok []
  | v :: r => do
    let j ← toJson v
    let js ← itemsJson r
    pure (j :: js)

private def fieldsJson : List (Value × Value) → Except KeyFault (List (String × Json))
  | [] => .ok []
  | (k, v) :: r => do
    let name ← keyText k
    let j ← toJson v
    let rest ← fieldsJson r
    pure ((name, j) :: rest)

end

end Value

end Gatehouse.Yaml
