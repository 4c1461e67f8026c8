import Gatehouse.Proofs.Catalog.Edits
import Gatehouse.Stages.Classify
import Mathlib.Data.List.Induction

/-!
# Services and the paths they are at

Services are found by path but belong to their id. A service that is written alone leaves the path
that its id had before; a batch of services is taken in as it is, and if it repeats an id, each of
its paths keeps a service of that id:

    put m1 at /a ──put m1 at /b──▶ /b m1
    batch [m1 at /a, m1 at /b] ──▶ /a m1   /b m1 ──put m1 at /c──▶ /c m1
                                                 ──delete /b─────▶ /a m1

An id is `Placed` if it is found nowhere but at the path of the service last written with it, so
that requests for other paths are not classified as calls of that service. The one thing that
stands against it is a path where the id `Lingers`: a batch had the id there and behind that at
another path, and no edit since has touched the path or the id.

**An id is placed exactly if it lingers nowhere** (`placed_iff`). What one edit does to a path is
said once (`get?_services_edit`), and by induction on the edits an id that is found at a path was
last written there or lingers there (`latest_or_lingers`), and where it lingers it is found
(`Lingers.found`).
-/

namespace Gatehouse

def servicesAmong (items : List Item) : List Service :=
  items.filterMap fun
    | .service s => some s
    | _ => none

namespace Catalog

/-! ## What the edits say -/

namespace Edit

def services : Edit → List Service
  | .replaceAll .metaData items => servicesAmong items
  | .put (.service s) => [s]
  | _ => []

/-- An edit touches neither an id nor a path. -/
def Spares (id path : String) : Edit → Prop
  | .replaceAll group _ => group ≠ .metaData
  | .put (.service s) => s.id ≠ id ∧ s.path ≠ path
  | .put _ => True
  | .delete .metaData key => key ≠ id ∧ key ≠ path
  | .delete _ _ => True

end Edit

/-- The service that was last written with an id. -/
def latest? (edits : List Edit) (id : String) : Option Service :=
  (edits.flatMap Edit.services).reverse.find? fun s => s.id == id

/-- A batch has an id at a path, with no other service for the path behind it, and behind that the
same id once more. -/
def Repeats (batch : List Service) (id path : String) : Prop :=
  ∃ front s back, batch = front ++ s :: back ∧ s.id = id ∧ s.path = path ∧
    (∀ t ∈ back, t.path ≠ path) ∧ ∃ t ∈ back, t.id = id

/-- An id lingers at a path: the batch that came last repeated it, and nothing since has touched the
path or the id. -/
def Lingers (edits : List Edit) (id path : String) : Prop :=
  ∃ before items since, edits = before ++ .replaceAll .metaData items :: since ∧
    Repeats (servicesAmong items) id path ∧ ∀ e ∈ since, e.Spares id path

/-- What is written last under an id hides what was written before. -/
theorem latest?_concat (edits : List Edit) (e : Edit) (id : String) :
    latest? (edits ++ [e]) id =
      (e.services.reverse.find? fun s => s.id == id).or (latest? edits id) := by
  rw [latest?, List.flatMap_append, List.flatMap_singleton, List.reverse_append, List.find?_append,
    latest?]

theorem latest?_of_spares {e : Edit} {id path : String} (h : e.Spares id path)
    (edits : List Edit) : latest? (edits ++ [e]) id = latest? edits id := by
  have hnone : (e.services.reverse.find? fun s => s.id == id) = none := by
    rw [List.find?_eq_none]
    intro s hs
    cases e with
    | replaceAll group items => cases group <;> simp_all [Edit.services, Edit.Spares]
    | put item => cases item <;> simp_all [Edit.services, Edit.Spares]
    | delete group key => simp [Edit.services] at hs
  rw [latest?_concat, hnone, Option.none_or]

/-- The last edit is the batch, or it is one of those since. -/
theorem lingers_concat {edits : List Edit} {e : Edit} {id path : String} :
    Lingers (edits ++ [e]) id path ↔
      (∃ items, e = .replaceAll .metaData items ∧ Repeats (servicesAmong items) id path) ∨
        (e.Spares id path ∧ Lingers edits id path) := by
  constructor
  · intro h
    obtain ⟨before, items, since, heq, hrepeats, hsince⟩ := h
    rcases List.eq_nil_or_concat since with hnil | ⟨since', e', hconcat⟩
    · subst hnil
      obtain ⟨-, hlast⟩ := List.append_inj' heq rfl
      exact Or.inl ⟨items, List.cons.inj hlast |>.1, hrepeats⟩
    · subst hconcat
      have hassoc : edits ++ [e] =
          (before ++ Edit.replaceAll .metaData items :: since') ++ [e'] := by simpa using heq
      obtain ⟨hedits, hlast⟩ := List.append_inj' hassoc rfl
      obtain rfl := (List.cons.inj hlast).1
      refine Or.inr ⟨hsince e (by simp), before, items, since', hedits, hrepeats, ?_⟩
      intro e' he'
      exact hsince e' (by simp [he'])
  · intro h
    rcases h with ⟨items, rfl, hrepeats⟩ | ⟨hspares, before, items, since, rfl, hrepeats, hsince⟩
    · exact ⟨edits, items, [], rfl, hrepeats, by simp⟩
    · refine ⟨before, items, since ++ [e], by simp, hrepeats, ?_⟩
      intro e' he'
      rcases List.mem_append.1 he' with he' | he'
      · exact hsince e' he'
      · rw [List.mem_singleton.1 he']
        exact hspares

/-! ## What an edit does to a path -/

variable {c : Catalog} {path : String} {s : Service}

theorem get?_services_replaceAll (c : Catalog) (items : List Item) (path : String) :
    (c.replaceAll .metaData items).services.get? path =
      (servicesAmong items).reverse.find? fun s => s.path == path := by
  have hbatch : (c.replaceAll .metaData items).services =
      .ofList ((servicesAmong items).map fun s => (s.path, s)) := by
    rw [servicesAmong, List.map_filterMap]
    show Table.ofList _ = Table.ofList _
    congr 2
    funext item
    cases item <;> rfl
  rw [hbatch, Table.get?_ofList_map Service.path]

/-- A service takes its path, and it leaves the path where its id was before. -/
theorem get?_services_put (c : Catalog) (t : Service) (path : String) :
    (c.put (.service t)).services.get? path =
      if path = t.path then some t
      else (c.services.get? path).filter fun old => t.id.isEmpty || old.id != t.id := by
  rw [put, putService, Table.get?_insert, Table.get?_filter]

theorem get?_services_delete (c : Catalog) (key path : String) :
    (c.delete .metaData key).services.get? path =
      (c.services.get? path).filter fun s => !namesService key path s :=
  Table.get?_filter c.services _ path

/-- **One edit.** A service with an id that is found at a path afterwards was put there by the edit,
or it was there before and the edit touches neither its path nor its id. -/
theorem get?_services_edit {e : Edit} (hid : s.id ≠ "") :
    (c.edit e).services.get? path = some s ↔
      (∃ items, e = .replaceAll .metaData items ∧
        ((servicesAmong items).reverse.find? fun t => t.path == path) = some s) ∨
      (e = .put (.service s) ∧ s.path = path) ∨
      (e.Spares s.id path ∧ c.services.get? path = some s) := by
  cases e with
  | replaceAll group items =>
      cases group with
      | metaData =>
          rw [edit, get?_services_replaceAll]
          simp [Edit.Spares]
      | plugin | selector | rule | appAuth => simp [edit, replaceAll, Edit.Spares]
  | put item =>
      cases item with
      | service t =>
          rw [edit, get?_services_put]
          by_cases hpath : path = t.path
          · subst hpath
            simp [Edit.Spares]
            grind
          · rw [if_neg hpath, Option.filter_eq_some_iff]
            simp [Edit.Spares]
            grind
      | descriptor _ | selector _ | rule _ | credential _ => simp [edit, put, Edit.Spares]
  | delete group key =>
      cases group with
      | metaData =>
          rw [edit, get?_services_delete, Option.filter_eq_some_iff]
          simp [Edit.Spares, namesService]
          grind
      | plugin | selector | rule | appAuth => simp [edit, delete, Edit.Spares]

/-! ## All edits -/

variable {edits : List Edit} {id : String}

theorem editAll_concat (c : Catalog) (edits : List Edit) (e : Edit) :
    c.editAll (edits ++ [e]) = (c.editAll edits).edit e := List.foldl_append

/-- An id that is found at a path was last written there, or it lingers there. -/
theorem latest_or_lingers (hs : (empty.editAll edits).services.get? path = some s)
    (hid : s.id ≠ "") :
    s.path = path ∧ (latest? edits s.id = some s ∨ Lingers edits s.id path) := by
  induction edits using List.reverseRecOn with
  | nil => cases hs
  | append_singleton edits e ih =>
      rw [editAll_concat, get?_services_edit hid] at hs
      rcases hs with ⟨items, rfl, hfind⟩ | ⟨rfl, hpath⟩ | ⟨hspares, hbefore⟩
      · -- of the services for the path `s` is the last one in the batch, of its id perhaps not
        obtain ⟨hpath, behind, front, hbatch, hbehind⟩ := List.find?_eq_some_iff_append.1 hfind
        refine ⟨by simpa using hpath, ?_⟩
        by_cases hagain : ∃ t ∈ behind, t.id = s.id
        · right
          apply lingers_concat.2
          refine Or.inl ⟨items, rfl, front.reverse, s, behind.reverse, ?_, rfl, ?_, ?_, ?_⟩
          · rw [← List.reverse_reverse (servicesAmong items), hbatch]
            simp
          · simpa using hpath
          · intro t ht
            simpa using hbehind t (List.mem_reverse.1 ht)
          · obtain ⟨t, ht, hsame⟩ := hagain
            exact ⟨t, List.mem_reverse.2 ht, hsame⟩
        · left
          have hnone : (behind.find? fun t => t.id == s.id) = none := by
            rw [List.find?_eq_none]
            intro t ht hsame
            exact hagain ⟨t, ht, by simpa using hsame⟩
          rw [latest?_concat, Edit.services, hbatch, List.find?_append, hnone]
          simp
      · refine ⟨hpath, Or.inl ?_⟩
        rw [latest?_concat, Edit.services]
        simp
      · obtain ⟨hpath, hlast⟩ := ih hbefore
        rw [latest?_of_spares hspares, lingers_concat]
        exact ⟨hpath, hlast.imp_right fun hlingers => Or.inr ⟨hspares, hlingers⟩⟩

/-- Where an id lingers it is found, though it was last written for another path. -/
theorem Lingers.found (h : Lingers edits id path) (hid : id ≠ "") :
    (∃ s, (empty.editAll edits).services.get? path = some s ∧ s.id = id) ∧
      ∃ t, latest? edits id = some t ∧ t.path ≠ path := by
  induction edits using List.reverseRecOn with
  | nil =>
      obtain ⟨before, items, since, hnil, -⟩ := h
      simp at hnil
  | append_singleton edits e ih =>
      rw [editAll_concat]
      rcases lingers_concat.1 h with ⟨items, rfl, hrepeats⟩ | ⟨hspares, hbefore⟩
      · obtain ⟨front, s, back, hbatch, rfl, hpath, hback, t, ht, hsame⟩ := hrepeats
        have hreverse : (servicesAmong items).reverse = back.reverse ++ s :: front.reverse := by
          rw [hbatch]
          simp
        constructor
        · refine ⟨s, (get?_services_edit hid).2 (Or.inl ⟨items, rfl, ?_⟩), rfl⟩
          apply List.find?_eq_some_iff_append.2
          refine ⟨by simpa using hpath, back.reverse, front.reverse, hreverse, ?_⟩
          intro u hu
          simpa using hback u (List.mem_reverse.1 hu)
        · -- the last service of the id in the batch is one of those behind `s`
          have hsome : (back.reverse.find? fun u => u.id == s.id).isSome := by
            rw [List.find?_isSome]
            exact ⟨t, List.mem_reverse.2 ht, by simpa using hsame⟩
          obtain ⟨u, hu⟩ := Option.isSome_iff_exists.1 hsome
          refine ⟨u, ?_, hback u (List.mem_reverse.1 (List.mem_of_find?_eq_some hu))⟩
          rw [latest?_concat, Edit.services, hreverse, List.find?_append, hu]
          rfl
      · obtain ⟨⟨s, hs, rfl⟩, hlatest⟩ := ih hbefore
        refine ⟨⟨s, (get?_services_edit hid).2 (Or.inr (Or.inr ⟨hspares, hs⟩)), rfl⟩, ?_⟩
        rw [latest?_of_spares hspares]
        exact hlatest

/-! ## Where ids are -/

open Stages

/-- The service that decides the kind of a request is found at the path of the request. -/
theorem get?_of_kindOf {services : Table Service} {r : Http.Request}
    (h : (Classify.kindOf services r).2 = some s) : services.get? r.path = some s := by
  rw [Classify.kindOf] at h
  split at h
  · next kind t ht =>
      obtain rfl := Option.some.inj h
      obtain ⟨u, hu, hkind⟩ := Option.bind_eq_some_iff.1 ht
      obtain ⟨kind', -, hpair⟩ := Option.map_eq_some_iff.1 hkind
      obtain ⟨-, rfl⟩ := Prod.mk.inj hpair
      exact (Option.filter_eq_some_iff.1 hu).1
  · cases h

/-- An id is found at one path at most, and this is the path of the service that was last written
with it. Requests for any other path, be it one that the id was at before, are not classified as
calls of a service with the id. -/
structure Placed (edits : List Edit) (id : String) : Prop where
  found : ∀ path s, (empty.editAll edits).services.get? path = some s → s.id = id →
    latest? edits id = some s ∧ s.path = path
  classified : ∀ r : Http.Request, (∀ t, latest? edits id = some t → t.path ≠ r.path) →
    ∀ s, (Classify.kindOf (empty.editAll edits).services r).2 = some s → s.id ≠ id

/-- **Where ids are**: an id is where it was last written, and nowhere else, exactly if it lingers
nowhere. -/
theorem placed_iff (edits : List Edit) {id : String} (hid : id ≠ "") :
    Placed edits id ↔ ∀ path, ¬ Lingers edits id path := by
  constructor
  · intro hplaced path hlingers
    obtain ⟨⟨s, hs, hsame⟩, t, ht, hpath⟩ := hlingers.found hid
    obtain ⟨hlatest, rfl⟩ := hplaced.found path s hs hsame
    obtain rfl := Option.some.inj (hlatest.symm.trans ht)
    exact hpath rfl
  · intro hnowhere
    have hfound : ∀ path s, (empty.editAll edits).services.get? path = some s → s.id = id →
        latest? edits id = some s ∧ s.path = path := by
      intro path s hs hsame
      subst hsame
      obtain ⟨hpath, hlatest⟩ := latest_or_lingers hs hid
      exact ⟨hlatest.resolve_right (hnowhere path), hpath⟩
    refine ⟨hfound, ?_⟩
    intro r helsewhere s hs hsame
    obtain ⟨hlatest, hpath⟩ := hfound r.path s (get?_of_kindOf hs) hsame
    exact helsewhere s hlatest hpath

def serviceAt (id path : String) : Service := ⟨id, "", none, path, "dubbo", "", "", true⟩

/-- A batch that repeats an id. -/
def repeatedId : List Edit :=
  [.replaceAll .metaData [.service (serviceAt "m1" "/a"), .service (serviceAt "m1" "/b")]]

/-- Writing the id once more puts it in its place. -/
theorem placed_iff_written :
    "m1" ≠ "" ∧ Placed (repeatedId ++ [.put (.service (serviceAt "m1" "/c"))]) "m1" := by
  refine ⟨by decide, (placed_iff _ (by decide)).2 ?_⟩
  intro path hlingers
  rcases lingers_concat.1 hlingers with ⟨items, hput, -⟩ | ⟨hspares, -⟩
  · cases hput
  · exact hspares.1 rfl

/-- The batch leaves the id at both of its paths. -/
theorem not_placed : ¬ ∀ (edits : List Edit) (id : String), id ≠ "" → Placed edits id := by
  intro hall
  have hfound : (empty.editAll repeatedId).services.get? "/a" = some (serviceAt "m1" "/a") := by
    decide
  have hlatest := ((hall repeatedId "m1" (by decide)).found "/a" _ hfound rfl).1
  exact absurd hlatest (by decide)

end Catalog

end Gatehouse
