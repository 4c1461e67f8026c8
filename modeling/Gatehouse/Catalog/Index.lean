import Gatehouse.Table

/-!
# Indexes of owned entries

Entries with an id that belong to an owner, found both ways: by id, and as the list of an owner's
entries in the order of their sort numbers. Among equal sort numbers the entry that was written
last comes last. A batch (`ofList`) is sorted at the end; a single entry (`insert`) is put where it
belongs.
-/

namespace Gatehouse

/-- What an index has to know of its entries. -/
class Owned (α : Type) where
  id : α → String
  owner : α → String
  sort : α → Int

structure Index (α : Type) where
  byId : Table α
  byOwner : Table (List α)
deriving Inhabited

namespace Index

def empty : Index α := ⟨.empty, .empty⟩

def get? (ix : Index α) (id : String) : Option α := ix.byId.get? id

/-- The entries of an owner, in order. -/
def under (ix : Index α) (owner : String) : List α := (ix.byOwner.get? owner).getD []

def size (ix : Index α) : Nat := ix.byId.size

/-- Set the list of an owner; an owner of nothing is not listed. -/
def setUnder (lists : Table (List α)) (owner : String) (list : List α) : Table (List α) :=
  if list.isEmpty then lists.erase owner else lists.insert owner list

theorem under_setUnder (lists : Table (List α)) (owner p : String) (list : List α) :
    ((setUnder lists owner list).get? p).getD [] =
      if p = owner then list else (lists.get? p).getD [] := by
  rw [setUnder]
  split
  · next h =>
      rw [Table.get?_erase, List.isEmpty_iff.1 h]
      split <;> rfl
  · rw [Table.get?_insert]
    split <;> rfl

variable [Owned α]

/-- Put an entry behind all those that sort before it or alike. -/
def place (x : α) : List α → List α
  | [] => [x]
  | y :: r => if Owned.sort y ≤ Owned.sort x then y :: place x r else x :: y :: r

/-- Order entries by their sort numbers, and leave the order of equal ones. -/
def inOrder (l : List α) : List α := l.mergeSort fun x y => Owned.sort x ≤ Owned.sort y

def erase (ix : Index α) (id : String) : Index α :=
  match ix.get? id with
  | none => ix
  | some old =>
    { byId := ix.byId.erase id
      byOwner := setUnder ix.byOwner (Owned.owner old)
        ((ix.under (Owned.owner old)).filter fun e => Owned.id e != id) }

/-- Write an entry, in place of the one with its id. -/
def insert (ix : Index α) (x : α) : Index α :=
  let rest := ix.erase (Owned.id x)
  { byId := rest.byId.insert (Owned.id x) x
    byOwner := rest.byOwner.insert (Owned.owner x) (place x (rest.under (Owned.owner x))) }

/-- Take an entry of a batch in, behind everything its owner has. -/
def gather (ix : Index α) (x : α) : Index α :=
  let rest := ix.erase (Owned.id x)
  { byId := rest.byId.insert (Owned.id x) x
    byOwner := rest.byOwner.insert (Owned.owner x) (rest.under (Owned.owner x) ++ [x]) }

/-- The index of a batch; of several entries with one id the last one counts. -/
def ofList (items : List α) : Index α :=
  let gathered := items.foldl gather empty
  { gathered with byOwner := gathered.byOwner.map inOrder }

def eraseOwner (ix : Index α) (owner : String) : Index α :=
  { byId := (ix.under owner).foldl (fun t e => t.erase (Owned.id e)) ix.byId
    byOwner := ix.byOwner.erase owner }

/-! ### Looking up by id -/

theorem get?_erase (ix : Index α) (id k : String) :
    (ix.erase id).get? k = if k = id then none else ix.get? k := by
  rw [erase]
  split
  · next h =>
      split
      · next hk => rw [hk, h]
      · rfl
  · exact Table.get?_erase ix.byId id k

theorem get?_insert (ix : Index α) (x : α) (k : String) :
    (ix.insert x).get? k = if k = Owned.id x then some x else ix.get? k := by
  have h := Table.get?_insert (ix.erase (Owned.id x)).byId (Owned.id x) k x
  rw [insert, get?, h]
  split
  · rfl
  · next hk => rw [← get?, get?_erase, if_neg hk]

theorem get?_gather (ix : Index α) (x : α) (k : String) :
    (ix.gather x).get? k = if k = Owned.id x then some x else ix.get? k := get?_insert ix x k

private theorem get?_foldl_gather (items : List α) (ix : Index α) (k : String) :
    (items.foldl gather ix).get? k =
      ((items.filter fun x => Owned.id x == k).getLast?).or (ix.get? k) := by
  induction items generalizing ix with
  | nil => rfl
  | cons x items ih =>
      rw [List.foldl_cons, ih, get?_gather]
      by_cases hx : Owned.id x = k
      · rw [if_pos hx.symm, List.filter_cons_of_pos (by simpa using hx), List.getLast?_cons]
        cases (items.filter fun x => Owned.id x == k).getLast? <;> rfl
      · rw [if_neg (Ne.symm hx), List.filter_cons_of_neg (by simpa using hx)]

/-- Of several entries of a batch with one id the last one is found. -/
theorem get?_ofList (items : List α) (k : String) :
    (ofList items).get? k = (items.filter fun x => Owned.id x == k).getLast? := by
  have h := get?_foldl_gather items empty k
  rwa [show (empty : Index α).get? k = none from rfl, Option.or_none] at h

end Index

end Gatehouse
