import Gatehouse.Balance.Strategy
import Gatehouse.Fault

/-!
# The pool

The backends of each selector. A selector with no backends is not listed, and when it leaves the
pool the strategies forget it. Only healthy backends are candidates.
-/

namespace Gatehouse.Balance

/-- The backends of selectors with what the strategies remember. -/
structure Pool where
  lists : Table (List Backend)
  memory : Memory
  /-- The strategies that can be asked for. -/
  strategies : List Strategy
deriving Inhabited

namespace Pool

def empty (strategies : List Strategy) : Pool := ⟨.empty, .empty, strategies⟩

def of (p : Pool) (selector : String) : List Backend := (p.lists.get? selector).getD []

def remove (p : Pool) (selector : String) : Pool :=
  { p with lists := p.lists.erase selector, memory := p.memory.forget selector }

/-- Give a selector its backends; without any it is taken out. -/
def put (p : Pool) (selector : String) (backends : List Backend) : Pool :=
  if backends.isEmpty then p.remove selector
  else { p with lists := p.lists.insert selector backends }

/-! ### Health -/

/-- Whether a report says something else about a backend than its mark. -/
def differs (url : String) (healthy : Bool) (b : Backend) : Bool :=
  b.url == url && b.healthy != healthy

/-- Mark the backends of a list that differ, and go on counting them. -/
def markList (url : String) (healthy : Bool) : Nat → List Backend → Nat × List Backend
  | n, [] => (n, [])
  | n, b :: l =>
    if differs url healthy b then
      let (n, l) := markList url healthy (n + 1) l
      (n, { b with healthy := healthy } :: l)
    else
      let (n, l) := markList url healthy n l
      (n, b :: l)

/-- Go on with the list of a selector. It is not written again if no backend in it differs. -/
def markNext (url : String) (healthy : Bool) :
    Nat × Table (List Backend) → String × List Backend → Nat × Table (List Backend)
  | (n, lists), (selector, l) =>
    if l.any (differs url healthy) then
      let (n, l) := markList url healthy n l
      (n, lists.insert selector l)
    else (n, lists)

/-- Mark all backends of an address. Counts those whose mark changes. -/
def mark (p : Pool) (url : String) (healthy : Bool) : Nat × Pool :=
  let (n, lists) := p.lists.entries.foldl (markNext url healthy) (0, p.lists)
  (n, { p with lists := lists })

def report (p : Pool) (url : String) (healthy : Bool) : Pool := (p.mark url healthy).2

def changes (p : Pool) (url : String) (healthy : Bool) : Nat := (p.mark url healthy).1

/-- One backend for each address, in the order of addresses. -/
def distinct (p : Pool) : List Backend :=
  (p.lists.values.flatten.foldr (fun b t => t.insert b.url b) (Table.empty : Table Backend)).values

/-- Where a backend can be connected to: host and number, which may follow from the scheme. -/
def address? (b : Backend) : Option String :=
  let (scheme, rest) := match splitScheme b.domain.toList with
    | some (s, r) => (String.ofList s, r)
    | none => ("http", b.domain.toList)
  let authority := rest.takeWhile fun c => c != '/' && c != '?'
  if authority.isEmpty then none
  else
    let afterColon := (authority.reverse.takeWhile (· != ':')).reverse
    let numbered := authority.contains ':' && !afterColon.isEmpty &&
      authority.getLast? != some ']'
    let text := String.ofList authority
    if numbered then some text
    else some (text ++ if Text.eqIgnoringCase scheme "https" then ":443" else ":80")
where
  /-- Cut at the first mark between scheme and address. -/
  splitScheme : List Char → Option (List Char × List Char)
    | [] => none
    | c :: r =>
      match Text.after? Backend.schemeMark (c :: r) with
      | some rest => some ([], rest)
      | none => (splitScheme r).map fun (s, rest) => (c :: s, rest)

/-- Probe every address once. Counts the backends whose mark changes. -/
def checkAll (probe : String → Bool) (p : Pool) : Nat × Pool :=
  p.distinct.foldl (fun (n, p) b =>
    let (changed, p) := p.mark b.url (((address? b).map probe).getD false)
    (n + changed, p)) (0, p)

/-! ### Choosing -/

/-- The healthy backends of a selector. -/
def candidates (p : Pool) (selector : String) : List Backend :=
  (p.of selector).filter Backend.healthy

def choose (scatter : Scatter) (p : Pool) (moment : Moment) (selector : String) (key : Key) :
    Except Fault Backend × Pool :=
  let candidates := p.candidates selector
  if candidates.isEmpty then (.error (.noBackend selector), p)
  else
    match Strategy.find? p.strategies key.strategy with
    | none => (.error (.noBackend selector), p)
    | some s =>
      let (chosen, memory) := pick scatter s moment p.memory key candidates
      let p := { p with memory := memory }
      match chosen with
      | some b => (.ok b, p)
      | none => (.error (.noBackend selector), p)

end Pool

end Gatehouse.Balance
