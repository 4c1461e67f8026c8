import Gatehouse.Balance.Pool
import Mathlib.Tactic.ByContra
import Mathlib.Tactic.SplitIfs

/-!
# What a report does to the lists

A report is carried out list by list. A list without a backend that differs is passed over, the
others are written again, and one counter goes through all of them:

    a is down     s   a up   a down   b up     t   b up           u   a up
    counter       0 ───────────────────────▶ 1 ─(passed over)─▶ 1 ─────────▶ 2

In the end **every backend at the address has the mark** (`report_eq`), also in the lists that were
passed over, for there it had it before. And **the counter says how many differed**
(`changes_eq`), each of them counted once.
-/

namespace Gatehouse.Balance.Pool

/-- A backend after a report about an address. -/
def reported (url : String) (healthy : Bool) (b : Backend) : Backend :=
  if b.url = url then { b with healthy := healthy } else b

section Lists

variable {url : String} {healthy : Bool}

theorem differs_iff {b : Backend} :
    differs url healthy b = true ↔ b.url = url ∧ b.healthy ≠ healthy := by
  simp [differs]

/-- A backend that differs takes the mark of the report. -/
theorem reported_of_differs {b : Backend} (h : differs url healthy b = true) :
    reported url healthy b = { b with healthy := healthy } := if_pos (differs_iff.1 h).1

/-- A backend that has the mark already is as it was. -/
theorem reported_of_not_differs {b : Backend} (h : differs url healthy b = false) :
    reported url healthy b = b := by
  rw [reported]
  split_ifs with hurl
  · have hmark : b.healthy = healthy := by
      by_contra hne
      rw [differs_iff.2 ⟨hurl, hne⟩] at h
      cases h
    subst hmark
    rfl
  · rfl

/-- What the counter gains in a list, and what becomes of the list. -/
theorem markList_eq (n : Nat) (l : List Backend) : markList url healthy n l =
    (n + (l.filter (differs url healthy)).length, l.map (reported url healthy)) := by
  induction l generalizing n with
  | nil => rfl
  | cons b l ih =>
      cases h : differs url healthy b with
      | true =>
          rw [markList, if_pos h, ih, List.filter_cons_of_pos h, List.map_cons,
            reported_of_differs h, List.length_cons, Nat.add_assoc, Nat.add_comm 1]
      | false =>
          have hne : ¬ differs url healthy b = true := by simp [h]
          rw [markList, if_neg hne, ih, List.filter_cons_of_neg hne, List.map_cons,
            reported_of_not_differs h]

/-- In a list that is passed over there was nothing to do. -/
theorem eq_self_of_passed {l : List Backend} (h : l.any (differs url healthy) = false) :
    l.filter (differs url healthy) = [] ∧ l.map (reported url healthy) = l := by
  have hnone : ∀ b ∈ l, differs url healthy b = false := by simpa using h
  constructor
  · exact List.filter_eq_nil_iff.2 fun b hb => by simp [hnone b hb]
  · exact (List.map_congr_left fun b hb => reported_of_not_differs (hnone b hb)).trans l.map_id

/-- **One list**: whether it is passed over or not, it is counted and marked. -/
theorem markNext_eq {n : Nat} {lists : Table (List Backend)} {selector : String}
    {l : List Backend} (hget : lists.get? selector = some l) :
    markNext url healthy (n, lists) (selector, l) =
      (n + (l.filter (differs url healthy)).length,
        lists.insert selector (l.map (reported url healthy))) := by
  rw [markNext]
  cases h : l.any (differs url healthy) with
  | true => rw [if_pos rfl, markList_eq]
  | false =>
      obtain ⟨hfilter, hmap⟩ := eq_self_of_passed h
      have hsame : lists.insert selector l = lists := by
        apply Table.ext
        intro k
        rw [Table.get?_insert]
        split_ifs with hk
        · rw [hk, hget]
        · rfl
      rw [if_neg (by simp), hfilter, hmap, hsame]
      rfl

/-- **All lists**, each of which comes once. -/
theorem foldl_markNext (url : String) (healthy : Bool) (entries : List (String × List Backend)) :
    ∀ (n : Nat) {lists : Table (List Backend)}, (entries.map Prod.fst).Nodup →
      (∀ e ∈ entries, lists.get? e.1 = some e.2) →
      (entries.foldl (markNext url healthy) (n, lists)).1 =
          n + ((entries.map Prod.snd).flatten.filter (differs url healthy)).length ∧
        ∀ k, (entries.foldl (markNext url healthy) (n, lists)).2.get? k =
          if k ∈ entries.map Prod.fst then (lists.get? k).map (List.map (reported url healthy))
          else lists.get? k := by
  induction entries with
  | nil =>
      intro n lists _ _
      simp
  | cons e entries ih =>
      obtain ⟨selector, l⟩ := e
      intro n lists hnodup hget
      obtain ⟨hfresh, hnodup⟩ := List.nodup_cons.1 hnodup
      have hhere : lists.get? selector = some l := hget _ List.mem_cons_self
      have hne : ∀ e ∈ entries, e.1 ≠ selector := by
        rintro e he rfl
        exact hfresh (List.mem_map.2 ⟨e, he, rfl⟩)
      -- the lists that are still to come are as they were
      have hrest : ∀ e ∈ entries,
          (lists.insert selector (l.map (reported url healthy))).get? e.1 = some e.2 := by
        intro e he
        rw [Table.get?_insert, if_neg (hne e he)]
        exact hget e (List.mem_cons_of_mem _ he)
      rw [List.foldl_cons, markNext_eq hhere]
      obtain ⟨hcount, hlists⟩ := ih _ hnodup hrest
      constructor
      · rw [hcount, List.map_cons, List.flatten_cons, List.filter_append, List.length_append,
          Nat.add_assoc]
      · intro k
        rw [hlists, List.map_cons, Table.get?_insert]
        by_cases hk : k = selector
        · subst hk
          rw [if_neg hfresh, if_pos rfl, if_pos List.mem_cons_self, hhere, Option.map_some]
        · simp only [List.mem_cons, hk, if_false, false_or]

end Lists

variable (p : Pool) (url : String) (healthy : Bool)

/-- **The answer to a report** is how many backends differed before it. -/
theorem changes_eq : p.changes url healthy =
    (p.lists.values.flatten.filter fun b => b.url == url && b.healthy != healthy).length := by
  have hentries := foldl_markNext url healthy p.lists.entries 0 p.lists.nodup_keys
    fun e he => Table.get?_eq_some_iff.2 he
  exact hentries.1.trans (Nat.zero_add _)

/-- **After a report** all backends at the address have the mark, whatever list they are in. -/
theorem report_eq : p.report url healthy =
    { p with lists := p.lists.map fun l => l.map (reported url healthy) } := by
  have hentries := foldl_markNext url healthy p.lists.entries 0 p.lists.nodup_keys
    fun e he => Table.get?_eq_some_iff.2 he
  have hlists : (p.lists.entries.foldl (markNext url healthy) (0, p.lists)).2 =
      p.lists.map fun l => l.map (reported url healthy) := by
    apply Table.ext
    intro k
    rw [hentries.2, Table.get?_map]
    split_ifs with hk
    · rfl
    · -- a selector that is not listed has no list
      cases hget : p.lists.get? k with
      | none => rfl
      | some l => exact absurd (Table.mem_keys_iff.2 ⟨l, hget⟩) hk
  rw [report, mark, ← hlists]

/-- The lists are the old ones with each backend as reported, skipped lists included. -/
theorem get?_lists_report (selector : String) : (p.report url healthy).lists.get? selector =
    (p.lists.get? selector).map fun l => l.map (reported url healthy) := by
  rw [report_eq, Table.get?_map]

end Gatehouse.Balance.Pool
