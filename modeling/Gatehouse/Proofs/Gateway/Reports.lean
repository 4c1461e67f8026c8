import Gatehouse.Proofs.Gateway.Projection

/-!
# Backends and the reports about them

A selector of the catalogue names its backends in a text. The pool has them ready, and marks them
as reports about their addresses come in:

    ──write s──▶ backendsOf s ──report──▶ marked ──report──▶ marked ──write s'──▶ backendsOf s'

**The pool agrees with the catalogue** (`lists_follow`): what it lists for a selector are the
backends which the selector names, in their order, each with the mark of the last report about its
address that came in after the selector was written. Nothing that happened before counts, neither
reports nor backends of an earlier selector with the same id. The invariant is `UpToDate`; one
change keeps it (`upToDate_change`), and the rest is induction on the changes.
-/

namespace Gatehouse.Gateway

open Feed Entry

/-! ## Writes -/

def Change.written : Change → List Selector
  | .event (.replaceAll group raw) => selectorsAmong (Item.parseAll group raw)
  | .event (.put group raw) => selectorsAmong (Item.parseAll group [raw])
  | _ => []

/-- Whether a change writes a selector with an id. -/
def Change.writes (id : String) (c : Change) : Bool := c.written.any fun s => s.id == id

/-- The changes after the last one that writes a selector with an id. -/
def since (id : String) (cs : List Change) : List Change :=
  (cs.reverse.takeWhile fun c => !c.writes id).reverse

/-- A writing starts the changes anew. -/
theorem since_concat (id : String) (cs : List Change) (c : Change) :
    since id (cs ++ [c]) = if c.writes id then [] else since id cs ++ [c] := by
  rw [since, Balance.reverse_takeWhile_concat]
  cases c.writes id <;> rfl

/-- Other groups have no selectors. -/
theorem selectorsAmong_eq_nil {group : Group} (h : group ≠ .selector) (raw : List Json) :
    selectorsAmong (Item.parseAll group raw) = [] := by
  rw [selectorsAmong, List.filterMap_eq_nil_iff]
  intro item hitem
  have hgroup := Item.group_of_mem_parseAll hitem
  cases item with
  | selector s => exact absurd hgroup.symm h
  | descriptor _ | rule _ | service _ | credential _ => rfl

/-- The selectors with an id that a change writes, in order. -/
def Change.writtenAs (id : String) (c : Change) : List Selector :=
  c.written.filter fun s => s.id == id

theorem writes_iff {id : String} {c : Change} : c.writes id = true ↔ c.writtenAs id ≠ [] := by
  rw [Change.writes, Change.writtenAs, List.any_eq_true, ne_eq, List.filter_eq_nil_iff]
  simp

/-- An event says of an id that it is written, or if it is not, that it is gone or nothing. -/
theorem notes_event (id : String) (e : Event) :
    Change.notes id (.event e) = ((Change.event e).writtenAs id).map .wrote ∨
      (Change.event e).writtenAs id = [] ∧ Change.notes id (.event e) = [.gone] := by
  cases e with
  | replaceAll group raw =>
      by_cases hgroup : group = .selector
      · subst hgroup
        rw [Change.notes, Note.ofBatch, Change.writtenAs, Change.written]
        -- a batch without the id says that it is gone
        cases (selectorsAmong (Item.parseAll .selector raw)).filter fun s => s.id == id with
        | nil => exact Or.inr ⟨rfl, rfl⟩
        | cons s ss => exact Or.inl rfl
      · left
        rw [Change.writtenAs, Change.written, selectorsAmong_eq_nil hgroup]
        cases group <;> first | exact absurd rfl hgroup | rfl
  | put group raw =>
      left
      rw [Change.writtenAs, Change.written, Item.parseAll, List.filterMap_cons,
        List.filterMap_nil, Change.notes]
      cases Item.parse group raw with
      | error f => rfl
      | ok item =>
          cases item with
          | selector s =>
              by_cases hid : s.id = id <;> simp [Except.toOption, selectorsAmong, hid]
          | descriptor _ | rule _ | service _ | credential _ => rfl
  | delete group key =>
      cases group with
      | selector =>
          by_cases hid : key = id
          · exact Or.inr ⟨rfl, if_pos hid⟩
          · exact Or.inl (if_neg hid)
      | plugin | rule | metaData | appAuth => exact Or.inl rfl

/-- A change that writes an id says nothing else about it. -/
theorem notes_of_writes {id : String} {c : Change} (h : c.writes id = true) :
    ∃ ss s, c.notes id = (ss ++ [s]).map .wrote := by
  have hsome := writes_iff.1 h
  cases c with
  | report url healthy => exact absurd rfl hsome
  | event e =>
      rcases notes_event id e with hnotes | ⟨hnil, -⟩
      · exact ⟨_, _, hnotes.trans (congrArg _ (List.dropLast_concat_getLast hsome).symm)⟩
      · exact absurd hnil hsome

/-- An event that does not write an id can only take it away. -/
theorem notes_of_not_writes {id : String} {e : Event} (h : (Change.event e).writes id = false) :
    Change.notes id (.event e) = [] ∨ Change.notes id (.event e) = [.gone] := by
  rcases notes_event id e with hnotes | ⟨-, hgone⟩
  · by_cases hnil : (Change.event e).writtenAs id = []
    · left
      rw [hnotes, hnil]
      rfl
    · rw [writes_iff.2 hnil] at h
      cases h
  · exact Or.inr hgone

/-! ## Reports -/

/-- What a change reports about an address. -/
def Change.reported? (url : String) : Change → Option Bool
  | .report u healthy => if u = url then some healthy else none
  | .event _ => none

/-- What some changes last report about an address. -/
def lastReport? (url : String) (cs : List Change) : Option Bool :=
  cs.reverse.findSome? (Change.reported? url)

/-- A backend with the mark that it has after some changes. -/
def asReported (cs : List Change) (b : Backend) : Backend :=
  { b with healthy := (lastReport? b.url cs).getD b.healthy }

theorem lastReport?_concat (url : String) (cs : List Change) (c : Change) :
    lastReport? url (cs ++ [c]) = (c.reported? url).or (lastReport? url cs) :=
  Balance.findSome?_reverse_concat ..

theorem asReported_nil : asReported [] = id := rfl

/-- Only reports mark backends. -/
theorem asReported_event (cs : List Change) (e : Event) :
    asReported (cs ++ [.event e]) = asReported cs := by
  funext b
  rw [asReported, lastReport?_concat]
  rfl

/-- A report overrides the earlier ones about its address. -/
theorem asReported_report (cs : List Change) (url : String) (healthy : Bool) (b : Backend) :
    asReported (cs ++ [.report url healthy]) b =
      Balance.Pool.reported url healthy (asReported cs b) := by
  rw [asReported, lastReport?_concat, Balance.Pool.reported]
  by_cases hurl : b.url = url
  · rw [if_pos (show (asReported cs b).url = url from hurl)]
    simp [Change.reported?, hurl, asReported]
  · rw [if_neg (show ¬ (asReported cs b).url = url from hurl)]
    simp [Change.reported?, Ne.symm hurl, asReported]

/-! ## The invariant -/

/-- If there is a selector that names backends, the pool lists them with their marks. -/
def Entry.UpToDate (v : Entry) (marks : List Change) : Prop :=
  ∀ s bs, v.selector = some s → s.stage = balanceStage → backendsOf s = .ok bs →
    v.backends = if bs = [] then none else some (bs.map (asReported marks))

theorem upToDate_of_none {v : Entry} (h : v.selector = none) (marks : List Change) :
    v.UpToDate marks := by
  intro s bs hs
  rw [h] at hs
  cases hs

/-- The last selector written decides, whatever was there before. -/
theorem upToDate_wrote (v : Entry) (ss : List Selector) (s : Selector) :
    (v.noteAll ((ss ++ [s]).map .wrote)).UpToDate [] := by
  intro t bs ht hstage hbs
  rw [noteAll_wrote, List.getLast?_concat] at ht
  obtain rfl : s = t := Option.some.inj ht
  rw [noteAll_wrote, List.foldl_append, List.foldl_cons,
    List.foldl_nil, heardWritten, if_pos hstage, listed, hbs, asReported_nil]
  cases bs with
  | nil => rfl
  | cons b bs => simp

/-- A report marks the backends of an entry and joins the changes since its writing. -/
theorem Entry.UpToDate.marked {v : Entry} {marks : List Change} (h : v.UpToDate marks)
    (url : String) (healthy : Bool) :
    (v.note (.marked url healthy)).UpToDate (marks ++ [.report url healthy]) := by
  intro s bs hs hstage hbs
  show v.backends.map _ = _
  rw [h s bs hs hstage hbs]
  split
  · rfl
  · rw [Option.map_some, List.map_map]
    congr 2
    funext b
    exact (asReported_report marks url healthy b).symm

/-- An event marks nothing, so the marks since the writing stay as they are. -/
theorem Entry.UpToDate.event {v : Entry} {marks : List Change} (h : v.UpToDate marks) (e : Event) :
    v.UpToDate (marks ++ [.event e]) := by
  intro s bs hs hstage hbs
  rw [asReported_event]
  exact h s bs hs hstage hbs

/-- **One change** keeps the entry up to date. -/
theorem upToDate_change {s : State} (hs : s.catalog.Kept) {id : String} {before : List Change}
    (h : (s.entry id).UpToDate (since id before)) (c : Change) :
    ((s.change c).entry id).UpToDate (since id (before ++ [c])) := by
  rw [entry_change hs, since_concat]
  cases hwrites : c.writes id with
  | true =>
      -- the last selector written starts anew, and no report has come in since
      obtain ⟨ss, t, hnotes⟩ := notes_of_writes hwrites
      rw [hnotes, if_pos rfl]
      exact upToDate_wrote _ ss t
  | false =>
      rw [if_neg Bool.false_ne_true]
      cases c with
      | report url healthy => exact h.marked url healthy
      | event e =>
          -- without a selector there is nothing to be up to date with
          rcases notes_of_not_writes hwrites with hnotes | hnotes
          · rw [hnotes]
            exact h.event e
          · rw [hnotes]
            exact upToDate_of_none rfl _

/-- By induction on the changes. -/
theorem upToDate_changeAll {s : State} (hs : s.catalog.Kept) {id : String} {before : List Change}
    (h : (s.entry id).UpToDate (since id before)) (cs : List Change) :
    ((s.changeAll cs).entry id).UpToDate (since id (before ++ cs)) := by
  induction cs generalizing s before with
  | nil => rwa [List.append_nil]
  | cons c cs ih =>
      rw [← List.singleton_append, ← List.append_assoc]
      exact ih (State.kept_change hs c) (upToDate_change hs h c)

/-- **The pool agrees with the catalogue**: for each selector that names backends, it lists them in
their order, with the marks of the last reports since the selector was written. -/
theorem lists_follow {b : Blueprint} {g : Gateway} (h : build b = .ok g) (cs : List Change)
    {id : String} {s : Selector} {bs : List Backend}
    (hs : (g.follow cs).state.catalog.selectors.get? id = some s)
    (hstage : s.stage = balanceStage) (hbs : backendsOf s = .ok bs) :
    (g.follow cs).state.pool.lists.get? s.id =
      if bs = [] then none else some (bs.map (asReported (since s.id (g.history cs)))) := by
  obtain ⟨s₀, hblank, hg⟩ := state_follow h cs
  have hkept₀ : s₀.catalog.Kept := hblank.catalog ▸ Catalog.kept_empty
  have hkept : (g.follow cs).state.catalog.Kept := hg ▸ State.kept_changeAll hkept₀ _
  obtain rfl : s.id = id := hkept.id_of_get? hs
  have hstart : (s₀.entry s.id).UpToDate (since s.id []) :=
    upToDate_of_none (by rw [hblank.entry_eq]; rfl) _
  have hend := upToDate_changeAll hkept₀ hstart (g.history cs)
  rw [← hg] at hend
  exact hend s bs hs hstage hbs

/-- A selector with two backends, as it is delivered. -/
def rawPair : Json :=
  .obj [("handle", .arr [.obj [("url", .str "a")], .obj [("url", .str "b")]]), ("id", .str "s"),
    ("pluginName", .str balanceStage)]

/-- The selector with two backends. -/
def pair : Selector where
  id := "s"
  stage := balanceStage
  name := ""
  mode := .all
  scope := .custom
  sort := 0
  enabled := false
  continued := false
  conditions := []
  handle := some "[\x7b\"url\":\"a\"\x7d,\x7b\"url\":\"b\"\x7d]"

/-- Reports about both backends, of which the first comes too early to count. -/
def pairRun : List Change :=
  [.report "a" false, .event (.put .selector rawPair), .report "b" true, .report "b" false]

theorem backendsOf_pair : backendsOf pair =
    .ok [⟨"a", "http://", 50, true, 0, 0⟩, ⟨"b", "http://", 50, true, 0, 0⟩] := by
  exact ok_of_toOption (by decide +kernel)

theorem lists_follow_pairRun : ∃ g, build .bare = .ok g ∧
    (g.follow pairRun).state.catalog.selectors.get? "s" = some pair ∧
    (g.follow pairRun).state.pool.lists.get? "s" =
      some [⟨"a", "http://", 50, true, 0, 0⟩, ⟨"b", "http://", 50, false, 0, 0⟩] := by
  obtain ⟨g, hg, hhistory⟩ := exists_build_bare
  have hs : (g.follow pairRun).state.catalog.selectors.get? "s" = some pair := by
    rw [get?_selectors_follow hg, hhistory]
    decide +kernel
  have hlists := lists_follow hg pairRun hs rfl backendsOf_pair
  rw [hhistory] at hlists
  refine ⟨g, hg, hs, hlists.trans ?_⟩
  decide +kernel

end Gatehouse.Gateway
