import Gatehouse.Throttle.Basic
import Mathlib.Tactic.SplitIfs

/-!
# Buckets by name

The buckets of all rules are in one table. Those of a rule have its id for a name, or its id, a
colon and a client, and when the rule is written or gone all buckets with such names are dropped:

    rule        api             api:v1
    buckets     api             api:v1
                api:10.0.0.1    api:v1:10.0.0.1
                api:v1 ◀─────── the same name

**A name belongs to two rules only if one id is the other with a colon and more behind it**
(`extends_of_belongsTo`). Nothing else can mix up rules: what is taken out of a bucket is put back
under its own name, and what is dropped goes by name. This holds for any numbers that tokens are
counted in.
-/

namespace Gatehouse.Throttle

open Number (Counting)

variable {α : Type} [Counting α]

/-- A token is taken out of a bucket as it is. -/
def Bucket.draw (b : Bucket α) : Bool × Bucket α :=
  if 1 ≤ b.tokens then (true, { b with tokens := Counting.pred b.tokens }) else (false, b)

theorem Bucket.draw_keeps (b : Bucket α) : b.draw.2.seen = b.seen ∧ b.draw.2.rate = b.rate := by
  unfold draw
  split_ifs <;> exact ⟨rfl, rfl⟩

namespace Buckets

variable {bs bs' : Buckets α} {name : String}

/-! ## What is under a name -/

/-- What a request sees of the bucket of a name. -/
def view (bs : Buckets α) (name : String) (l : Limit) (now : Nat) : Bucket α :=
  (bs.bucketFor name l now).refill now

/-- A request sees nothing but what is under the name. -/
theorem view_congr (h : bs.table.get? name = bs'.table.get? name) (l : Limit) (now : Nat) :
    bs.view name l now = bs'.view name l now := by
  simp only [view, bucketFor, h]

/-- A sweep refills all buckets and keeps those that are not full. -/
theorem get?_sweep (bs : Buckets α) (t : Nat) (name : String) : (bs.sweep t).table.get? name =
    ((bs.table.get? name).map fun b => b.refill t).filter fun b => !b.isFull := by
  rw [sweep, Table.get?_filter, Table.get?_map]

/-- A token is taken out of what is seen. -/
theorem fst_take (bs : Buckets α) (name : String) (l : Limit) (now : Nat) :
    (bs.take name l now).1 = ((bs.sweepIfDue now).view name l now).draw.1 := by
  rw [take]
  rfl

/-- What is left is put in its place. -/
theorem get?_take (bs : Buckets α) (name : String) (l : Limit) (now : Nat) (other : String) :
    (bs.take name l now).2.table.get? other =
      if other = name then some ((bs.sweepIfDue now).view name l now).draw.2
      else (bs.sweepIfDue now).table.get? other := by
  rw [take]
  exact Table.get?_insert _ name other _

/-- A token taken out of a bucket of one rule leaves the buckets elsewhere as they are swept. -/
theorem get?_take_of_belongsTo {rule other : String} (hname : belongsTo name rule = true)
    (hother : belongsTo other rule = false) (l : Limit) (now : Nat) :
    (bs.take name l now).2.table.get? other = (bs.sweepIfDue now).table.get? other := by
  have hne : other ≠ name := by
    rintro rfl
    rw [hname] at hother
    cases hother
  rw [get?_take, if_neg hne]

omit [Counting α] in
theorem get?_drop (bs : Buckets α) (rule name : String) : (bs.drop rule).table.get? name =
    if belongsTo name rule then none else bs.table.get? name := by
  rw [drop, Table.get?_filter]
  cases bs.table.get? name <;> cases belongsTo name rule <;> rfl

omit [Counting α] in
theorem get?_drop_of_not {rule : String} (h : belongsTo name rule = false) :
    (bs.drop rule).table.get? name = bs.table.get? name := by
  rw [get?_drop, h]
  rfl

/-! ## Whose a name is -/

/-- An id is another one followed by a colon and whatever else. -/
def Extends (id lead : String) : Prop := ∃ rest, id = lead ++ ":" ++ rest

/-- A bucket belongs to a rule if its name is the id of the rule or extends it. -/
theorem belongsTo_iff {rule : String} : belongsTo name rule = true ↔
    name = rule ∨ Extends name rule := by
  have hafter : (Text.after? (rule ++ ":").toList name.toList).isSome = true ↔
      Extends name rule := by
    rw [Option.isSome_iff_exists]
    constructor
    · rintro ⟨rest, hrest⟩
      refine ⟨String.ofList rest, String.toList_inj.1 ?_⟩
      simp [Text.after?_eq_some_iff.1 hrest, String.toList_append]
    · rintro ⟨rest, rfl⟩
      exact ⟨rest.toList, Text.after?_eq_some_iff.2 (String.toList_append ..)⟩
  rw [belongsTo, Bool.or_eq_true, beq_iff_eq, hafter]

theorem not_extends_of_belongsTo {rule : String} (h : belongsTo name rule = false) :
    ¬ Extends name rule := by
  intro hextends
  rw [belongsTo_iff.2 (Or.inr hextends)] at h
  cases h

theorem belongsTo_bucketName (l : Limit) (rule client : String) :
    belongsTo (l.bucketName rule client) rule = true := by
  rw [belongsTo_iff, Limit.bucketName]
  split
  · exact Or.inl rfl
  · exact Or.inr ⟨client, rfl⟩

/-- A name belongs to two rules only if the id of one continues that of the other. -/
theorem extends_of_belongsTo {r q : String} (hr : belongsTo name r = true)
    (hq : belongsTo name q = true) : r = q ∨ Extends q r ∨ Extends r q := by
  rcases belongsTo_iff.1 hr with rfl | ⟨a, rfl⟩
  · exact (belongsTo_iff.1 hq).imp_right Or.inr
  · rcases belongsTo_iff.1 hq with rfl | ⟨b, hb⟩
    · exact Or.inr (Or.inl ⟨a, rfl⟩)
    · -- both are cut at a colon, and one of the cuts is not behind the other
      have hlists : r.toList ++ (':' :: a.toList) = q.toList ++ (':' :: b.toList) := by
        have htext := congrArg String.toList hb
        simpa [String.toList_append] using htext
      rcases List.append_eq_append_iff.1 hlists with ⟨mid, hmid, hrest⟩ | ⟨mid, hmid, hrest⟩
      · cases mid with
        | nil => exact Or.inl (String.toList_inj.1 (by simpa using hmid.symm))
        | cons c mid =>
            obtain ⟨rfl, -⟩ := List.cons.inj hrest
            refine Or.inr (Or.inl ⟨String.ofList mid, String.toList_inj.1 ?_⟩)
            simp [hmid, String.toList_append]
      · cases mid with
        | nil => exact Or.inl (String.toList_inj.1 (by simpa using hmid))
        | cons c mid =>
            obtain ⟨rfl, -⟩ := List.cons.inj hrest
            refine Or.inr (Or.inr ⟨String.ofList mid, String.toList_inj.1 ?_⟩)
            simp [hmid, String.toList_append]

/-- The buckets of a rule do not belong to another one, if neither id continues the other. -/
theorem belongsTo_bucketName_eq_false {r q : String} (hne : r ≠ q) (hq : ¬ Extends q r)
    (hr : ¬ Extends r q) (l : Limit) (client : String) :
    belongsTo (l.bucketName q client) r = false := by
  rw [Bool.eq_false_iff]
  intro hbelongs
  rcases extends_of_belongsTo hbelongs (belongsTo_bucketName l q client) with h | h | h
  · exact hne h
  · exact hq h
  · exact hr h

end Buckets

end Gatehouse.Throttle
