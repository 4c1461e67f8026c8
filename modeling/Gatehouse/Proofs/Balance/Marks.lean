import Gatehouse.Proofs.Balance.Runs
import Mathlib.Data.Set.Card

/-!
# Reports and marks

A report says of an address that it is up or down. Every backend at that address takes the mark,
wherever it is listed and however often, and the report is answered by a number: how many backends
had another mark before.

    s   a up   a down   b up         ──a is down──▶   s   a down   a down   b up
    t   a up                              2           t   a down

A backend is known by its `Place`, a selector and a position in the selector's list. Place by place
one sees what a report does, and what it leaves alone (`Marks`). The number comes from a counter that
goes through the lists, so there is something to show: the places that differ can be listed, each
of them once, and the list is as long as the counter says (`encard_places`).

**The laws of reports** (`report_laws`) follow: a report that is repeated changes nothing and answers
zero, reports about different addresses can be exchanged, and after any reports the last one about
an address decides.
-/

namespace Gatehouse.Balance

/-- Where a backend is listed: under a selector, at a position of its list. -/
structure Place where
  selector : String
  position : Nat
deriving DecidableEq

namespace Pool

/-- The backend at a place. -/
def at? (p : Pool) (place : Place) : Option Backend := (p.of place.selector)[place.position]?

/-! ## Counting places -/

/-- The places in the list of a selector whose backends have a property. -/
def placesIn (q : Backend → Bool) (selector : String) (l : List Backend) : List Place :=
  (l.zipIdx.filter fun e => q e.1).map fun e => ⟨selector, e.2⟩

/-- The places of a pool whose backends have a property. -/
def places (p : Pool) (q : Backend → Bool) : List Place :=
  p.lists.entries.flatMap fun e => placesIn q e.1 e.2

variable {q : Backend → Bool} {selector : String} {l : List Backend} {place : Place}

theorem mem_placesIn : place ∈ placesIn q selector l ↔
    place.selector = selector ∧ ∃ b, l[place.position]? = some b ∧ q b = true := by
  obtain ⟨s, i⟩ := place
  constructor
  · intro h
    obtain ⟨⟨b, j⟩, he, hplace⟩ := List.mem_map.1 h
    obtain ⟨hmem, hq⟩ := List.mem_filter.1 he
    cases hplace
    exact ⟨rfl, b, List.mem_zipIdx_iff_getElem?.1 hmem, hq⟩
  · intro h
    obtain ⟨hs, b, hb, hq⟩ := h
    cases hs
    apply List.mem_map.2
    exact ⟨(b, i), List.mem_filter.2 ⟨List.mem_zipIdx_iff_getElem?.2 hb, hq⟩, rfl⟩

theorem length_placesIn (q : Backend → Bool) (selector : String) (l : List Backend) :
    (placesIn q selector l).length = (l.filter q).length := by
  have hfst : l.zipIdx.map Prod.fst = l := List.zipIdx_map_fst 0 l
  rw [placesIn, List.length_map]
  conv_rhs => rw [← hfst, List.filter_map, List.length_map]
  rfl

/-- No position comes twice. -/
theorem nodup_placesIn (q : Backend → Bool) (selector : String) (l : List Backend) :
    (placesIn q selector l).Nodup := by
  have hpositions : ((placesIn q selector l).map Place.position).Nodup := by
    rw [placesIn, List.map_map]
    have hsub : ((l.zipIdx.filter fun e => q e.1).map Prod.snd).Sublist (l.zipIdx.map Prod.snd) :=
      List.filter_sublist.map Prod.snd
    apply hsub.nodup
    rw [List.zipIdx_map_snd]
    exact List.nodup_range' 1
  exact List.Nodup.of_map Place.position hpositions

theorem mem_places {p : Pool} : place ∈ p.places q ↔ ∃ b, p.at? place = some b ∧ q b = true := by
  constructor
  · intro h
    obtain ⟨⟨selector, l⟩, he, hplace⟩ := List.mem_flatMap.1 h
    obtain ⟨hs, b, hb, hq⟩ := mem_placesIn.1 hplace
    refine ⟨b, ?_, hq⟩
    rw [at?, of, hs, Table.get?_eq_some_iff.2 he]
    exact hb
  · intro h
    obtain ⟨b, hb, hq⟩ := h
    rw [at?, of] at hb
    cases hget : p.lists.get? place.selector with
    | none =>
        rw [hget] at hb
        simp at hb
    | some l =>
        rw [hget] at hb
        apply List.mem_flatMap.2
        exact ⟨(place.selector, l), Table.get?_eq_some_iff.1 hget, mem_placesIn.2 ⟨rfl, b, hb, hq⟩⟩

/-- A backend that is listed twice has two places, so to count places is to count entries. -/
theorem length_places (p : Pool) (q : Backend → Bool) :
    (p.places q).length = (p.lists.values.flatten.filter q).length := by
  rw [places, Table.values]
  induction p.lists.entries with
  | nil => rfl
  | cons e entries ih =>
      rw [List.flatMap_cons, List.length_append, length_placesIn, ih, List.map_cons,
        List.flatten_cons, List.filter_append, List.length_append]

/-- A selector is listed once, so places of different lists are different. -/
theorem nodup_places (p : Pool) (q : Backend → Bool) : (p.places q).Nodup := by
  apply List.nodup_flatMap.2
  constructor
  · intro e _
    exact nodup_placesIn q e.1 e.2
  · apply p.lists.ordered.imp
    intro e f hlt place he hf
    have hsame : e.1 = f.1 := (mem_placesIn.1 he).1.symm.trans (mem_placesIn.1 hf).1
    exact String.lt_irrefl _ (hsame ▸ hlt)

/-- **Counting** backends is counting their places. -/
theorem encard_places (p : Pool) (q : Backend → Bool) :
    {place | ∃ b, p.at? place = some b ∧ q b = true}.encard =
      (p.lists.values.flatten.filter q).length := by
  have hset : {place | ∃ b, p.at? place = some b ∧ q b = true} = ↑(p.places q).toFinset := by
    ext place
    simp [mem_places]
  rw [hset, Set.encard_coe_eq_coe_finsetCard, List.toFinset_card_of_nodup (p.nodup_places q),
    length_places]

/-! ## One report -/

/-- A report is taken in place by place. -/
theorem at?_report (p : Pool) (url : String) (healthy : Bool) (place : Place) :
    (p.report url healthy).at? place = (p.at? place).map (reported url healthy) := by
  rw [at?, of_report, List.getElem?_map, at?]

/-- What a report does: backends at the address have the mark, all others are as they were, no place
is taken or given up, and `changed` of the backends at the address had the other mark. -/
structure Marks (p : Pool) (url : String) (healthy : Bool) (after : Pool) (changed : Nat) :
    Prop where
  marked : ∀ place b, p.at? place = some b → b.url = url →
    after.at? place = some { b with healthy := healthy }
  spared : ∀ place b, p.at? place = some b → b.url ≠ url → after.at? place = some b
  free : ∀ place, p.at? place = none → after.at? place = none
  selectors : after.lists.keys = p.lists.keys
  memory : after.memory = p.memory
  strategies : after.strategies = p.strategies
  changed : {place | ∃ b, p.at? place = some b ∧ b.url = url ∧ b.healthy ≠ healthy}.encard = changed

theorem keys_report (p : Pool) (url : String) (healthy : Bool) :
    (p.report url healthy).lists.keys = p.lists.keys := by
  rw [report_eq]
  show (p.lists.entries.map _).map Prod.fst = p.lists.entries.map Prod.fst
  rw [List.map_map]
  rfl

/-- The count of a report is the number of places whose mark it turns. -/
theorem encard_changed (p : Pool) (url : String) (healthy : Bool) :
    {place | ∃ b, p.at? place = some b ∧ b.url = url ∧ b.healthy ≠ healthy}.encard =
      p.changes url healthy := by
  rw [changes_eq, ← encard_places]
  simp

/-- All that is said of the marks after a report holds of the pool that the report leaves. -/
theorem marks_report (p : Pool) (url : String) (healthy : Bool) :
    Marks p url healthy (p.report url healthy) (p.changes url healthy) where
  marked place b hb hurl := by
    rw [at?_report, hb, Option.map_some, reported, if_pos hurl]
  spared place b hb hurl := by
    rw [at?_report, hb, Option.map_some, reported, if_neg hurl]
  free place hnone := by
    rw [at?_report, hnone, Option.map_none]
  selectors := keys_report p url healthy
  memory := rfl
  strategies := rfl
  changed := encard_changed p url healthy

/-! ## Two reports -/

theorem reported_self (url : String) (healthy : Bool) (b : Backend) :
    reported url healthy (reported url healthy b) = reported url healthy b := by
  simp only [reported]
  split <;> simp_all

/-- Reports about different addresses do not see each other. -/
theorem reported_comm {url url' : String} (h : url ≠ url') (healthy healthy' : Bool) (b : Backend) :
    reported url' healthy' (reported url healthy b) =
      reported url healthy (reported url' healthy' b) := by
  simp only [reported]
  by_cases hurl : b.url = url
  · simp [hurl, h]
  · by_cases hurl' : b.url = url'
    · simp [hurl', Ne.symm h]
    · simp [hurl, hurl']

/-- Two reports in a row, list by list. -/
theorem report_report (p : Pool) (url url' : String) (healthy healthy' : Bool) :
    (p.report url healthy).report url' healthy' =
      { p with lists := p.lists.map fun l =>
          l.map fun b => reported url' healthy' (reported url healthy b) } := by
  have hlists : (p.lists.map fun l => l.map (reported url healthy)).map
      (fun l => l.map (reported url' healthy')) =
      p.lists.map fun l => l.map fun b => reported url' healthy' (reported url healthy b) := by
    apply Table.ext
    intro selector
    simp only [Table.get?_map, Option.map_map, Function.comp_def, List.map_map]
  rw [report_eq, report_eq, hlists]

/-- A report that says the same once more changes nothing. -/
theorem report_again (p : Pool) (url : String) (healthy : Bool) :
    (p.report url healthy).report url healthy = p.report url healthy := by
  simp only [report_report, reported_self]
  exact (report_eq p url healthy).symm

/-- Reports about different addresses may come in either order. -/
theorem report_comm (p : Pool) {url url' : String} (h : url ≠ url') (healthy healthy' : Bool) :
    (p.report url healthy).report url' healthy' =
      (p.report url' healthy').report url healthy := by
  simp only [report_report, reported_comm h]

/-- What a report changes after another one, in terms of the pool before both. -/
theorem changes_report (p : Pool) (url url' : String) (healthy healthy' : Bool) :
    (p.report url healthy).changes url' healthy' = (p.lists.values.flatten.filter fun b =>
      b.url == url' && (reported url healthy b).healthy != healthy').length := by
  have hvalues : (p.report url healthy).lists.values =
      p.lists.values.map fun l => l.map (reported url healthy) := by
    simp only [report_eq, Table.values, Table.map, List.map_map, Function.comp_def]
  have hurl : ∀ b, (reported url healthy b).url = b.url := by
    intro b
    rw [reported]
    split <;> rfl
  rw [changes_eq, hvalues, ← List.map_flatten, List.filter_map, List.length_map]
  simp only [Function.comp_def, hurl]

/-- A report that says nothing new counts nothing. -/
theorem changes_report_self (p : Pool) (url : String) (healthy : Bool) :
    (p.report url healthy).changes url healthy = 0 := by
  rw [changes_report, List.length_eq_zero_iff, List.filter_eq_nil_iff]
  intro b _
  by_cases hurl : b.url = url
  · simp [reported, hurl]
  · simp [hurl]

theorem changes_report_of_ne (p : Pool) {url url' : String} (h : url ≠ url')
    (healthy healthy' : Bool) :
    (p.report url healthy).changes url' healthy' = p.changes url' healthy' := by
  rw [changes_report, changes_eq]
  congr 1
  apply List.filter_congr
  intro b _
  by_cases hurl : b.url = url'
  · simp [reported, hurl, Ne.symm h]
  · have hbeq : (b.url == url') = false := beq_false_of_ne hurl
    rw [hbeq, Bool.false_and, Bool.false_and]

/-! ## Reports in a row -/

def reportAll (p : Pool) (reports : List (String × Bool)) : Pool :=
  reports.foldl (fun p r => p.report r.1 r.2) p

/-- What the last report about an address says. -/
def lastSaid (reports : List (String × Bool)) (url : String) : Option Bool :=
  reports.reverse.lookup url

/-- A backend with what the last report about its address says. -/
def asLastSaid (reports : List (String × Bool)) (b : Backend) : Backend :=
  { b with healthy := (lastSaid reports b.url).getD b.healthy }

theorem asLastSaid_cons (url : String) (healthy : Bool) (reports : List (String × Bool))
    (b : Backend) :
    asLastSaid ((url, healthy) :: reports) b = asLastSaid reports (reported url healthy b) := by
  simp only [asLastSaid, lastSaid, List.reverse_cons, List.lookup_append, List.lookup_cons,
    List.lookup_nil, reported]
  by_cases hurl : b.url = url
  · cases hlast : reports.reverse.lookup url <;> simp [hurl, hlast]
  · have hbeq : (b.url == url) = false := beq_false_of_ne hurl
    simp [hurl, hbeq]

/-- After some reports each place shows what was said of its address last. -/
theorem at?_reportAll (p : Pool) (reports : List (String × Bool)) (place : Place) :
    (p.reportAll reports).at? place = (p.at? place).map (asLastSaid reports) := by
  induction reports generalizing p with
  | nil =>
      have hnone : asLastSaid [] = id := rfl
      rw [hnone, Option.map_id]
      rfl
  | cons r reports ih =>
      have hcons : asLastSaid (r :: reports) = asLastSaid reports ∘ reported r.1 r.2 :=
        funext (asLastSaid_cons r.1 r.2 reports)
      rw [reportAll, List.foldl_cons, ← reportAll, ih, at?_report, Option.map_map, hcons]

theorem keys_reportAll (p : Pool) (reports : List (String × Bool)) :
    (p.reportAll reports).lists.keys = p.lists.keys := by
  induction reports generalizing p with
  | nil => rfl
  | cons r reports ih => exact (ih _).trans (keys_report p r.1 r.2)

/-! ## The laws -/

/-- What reports do to a pool, one at a time and in a row. -/
structure ReportLaws (p : Pool) : Prop where
  marks : ∀ url healthy, Marks p url healthy (p.report url healthy) (p.changes url healthy)
  again : ∀ url healthy, (p.report url healthy).report url healthy = p.report url healthy ∧
    (p.report url healthy).changes url healthy = 0
  /-- The numbers are the same in either order. -/
  exchange : ∀ url url', url ≠ url' → ∀ healthy healthy',
    (p.report url healthy).report url' healthy' = (p.report url' healthy').report url healthy ∧
      (p.report url healthy).changes url' healthy' = p.changes url' healthy' ∧
      (p.report url' healthy').changes url healthy = p.changes url healthy
  /-- The mark is that of the last report about the address, or else the one that was there. -/
  last : ∀ reports place, (p.reportAll reports).at? place =
    (p.at? place).map fun b => { b with healthy := (lastSaid reports b.url).getD b.healthy }
  selectors : ∀ reports, (p.reportAll reports).lists.keys = p.lists.keys

/-- **The laws of reports**, for any pool whatever. -/
theorem report_laws (p : Pool) : ReportLaws p where
  marks := p.marks_report
  again url healthy := ⟨p.report_again url healthy, p.changes_report_self url healthy⟩
  exchange _ _ h healthy healthy' :=
    ⟨p.report_comm h healthy healthy', p.changes_report_of_ne h healthy healthy',
      p.changes_report_of_ne (Ne.symm h) healthy' healthy⟩
  last := p.at?_reportAll
  selectors := p.keys_reportAll

/-- An address that is listed three times, once with the mark that is reported. -/
example :
    (((empty []).put "s" [backendAt "a", { backendAt "a" with healthy := false }, backendAt "b"]).put
      "t" [backendAt "a"]).changes "a" false = 2 := by decide

end Pool

end Gatehouse.Balance
