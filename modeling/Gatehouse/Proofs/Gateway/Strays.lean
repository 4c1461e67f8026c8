import Gatehouse.Proofs.Gateway.Projection

/-!
# Lists that stay behind

The pool hears of a selector through the stage that the selector is written for, and of its end
through the stage that it has at its end. A selector that is written again for another stage is
never reported gone to the pool, and its list stays:

    ──write s for the pool──▶ listed ──write s for another stage──▶ listed ──delete s──▶ listed

`Stray` says of the notes about an id when this is so. **The pool lists none but the selectors that
name backends, exactly if no id is stray** (`lists_balanced_iff`), and an id becomes stray only
where its selector is moved to another stage (`Stray.moved`).
-/

namespace Gatehouse.Gateway

open Entry

/-! ## What the notes say -/

/-- The backends that a note tells the pool about. It is not told of other stages, and it cannot
read some backends. -/
def Note.tells : Note → Option (List Backend)
  | .wrote s => if s.stage = balanceStage then (backendsOf s).toOption else none
  | .gone | .marked _ _ => none

/-- The selector that has an id after a note. -/
def Note.holder (before : Option Selector) : Note → Option Selector
  | .wrote s => some s
  | .gone => none
  | .marked _ _ => before

def holder (ns : List Note) : Option Selector := ns.foldl Note.holder none

/-- Whether the id is that of a selector that names backends. -/
def Held (ns : List Note) : Prop := ∃ s, holder ns = some s ∧ s.stage = balanceStage

/-- An id has a list: a write told of backends, no later one told of any, and if the id was gone
since then, it was not for the pool. -/
def Listed (ns : List Note) : Prop :=
  ∃ before n after bs, ns = before ++ n :: after ∧ n.tells = some bs ∧ bs ≠ [] ∧
    (∀ m ∈ after, m.tells = none) ∧
    ∀ mid rest, after = mid ++ .gone :: rest → ¬ Held (before ++ n :: mid)

/-- An id has a list, but not a selector that names backends. -/
def Stray (ns : List Note) : Prop := Listed ns ∧ ¬ Held ns

/-- Who holds the list after a note depends on who held it before. -/
theorem holder_concat (ns : List Note) (n : Note) : holder (ns ++ [n]) = n.holder (holder ns) := by
  rw [holder, List.foldl_append]
  rfl

theorem not_listed_nil : ¬ Listed [] := by
  rintro ⟨before, n, after, bs, h, -⟩
  simp at h

/-- Where a list with one more element is cut, the cut is at that element or before it. -/
private theorem concat_eq_append_cons {ns before after : List α} {n m : α}
    (h : ns ++ [n] = before ++ m :: after) :
    (ns = before ∧ n = m ∧ after = []) ∨ ∃ mid, after = mid ++ [n] ∧ ns = before ++ m :: mid := by
  rcases List.append_eq_append_iff.1 h with ⟨as, rfl, has⟩ | ⟨bs, rfl, hbs⟩
  · cases as with
    | nil =>
        obtain ⟨hn, hafter⟩ := List.cons.inj has
        exact Or.inl ⟨(List.append_nil ns).symm, hn, hafter.symm⟩
    | cons a as => simp at has
  · cases bs with
    | nil =>
        obtain ⟨hn, hafter⟩ := List.cons.inj hbs
        exact Or.inl ⟨List.append_nil before, hn.symm, hafter⟩
    | cons b mid =>
        obtain ⟨rfl, hafter⟩ := List.cons.inj hbs
        exact Or.inr ⟨mid, hafter, rfl⟩

/-- A list is there if the last note tells of one, or if it leaves alone what was there. -/
theorem listed_concat {ns : List Note} {n : Note} :
    Listed (ns ++ [n]) ↔ (∃ bs, n.tells = some bs ∧ bs ≠ []) ∨
      (n.tells = none ∧ (n = .gone → ¬ Held ns) ∧ Listed ns) := by
  constructor
  · rintro ⟨before, m, after, bs, heq, htells, hbs, hlater, hgone⟩
    -- the last note either tells of the list itself or comes after the one that does
    rcases concat_eq_append_cons heq with ⟨rfl, rfl, rfl⟩ | ⟨mid, rfl, rfl⟩
    · exact Or.inl ⟨bs, htells, hbs⟩
    · refine Or.inr ⟨hlater n (by simp), ?_, before, m, mid, bs, rfl, htells, hbs, ?_, ?_⟩
      · rintro rfl
        exact hgone mid [] rfl
      · exact fun m' hm' => hlater m' (List.mem_append_left _ hm')
      · intro mid' rest hmid
        exact hgone mid' (rest ++ [n]) (by rw [hmid]; simp)
  · rintro (⟨bs, htells, hbs⟩ | ⟨htells, hlast, hlisted⟩)
    · exact ⟨ns, n, [], bs, rfl, htells, hbs, by simp, by simp⟩
    · obtain ⟨before, m, after, bs, rfl, htold, hbs, hlater, hgone⟩ := hlisted
      refine ⟨before, m, after ++ [n], bs, by simp, htold, hbs, ?_, ?_⟩
      · intro m' hm'
        rcases List.mem_append.1 hm' with hm' | hm'
        · exact hlater m' hm'
        · rw [List.mem_singleton.1 hm']
          exact htells
      · intro mid rest heq
        rcases concat_eq_append_cons heq with ⟨rfl, rfl, -⟩ | ⟨rest', -, hafter⟩
        · exact hlast rfl
        · exact hgone mid rest' hafter

/-! ## Entries follow the notes -/

/-- An entry is as some notes say. -/
structure Entry.Follows (v : Entry) (ns : List Note) : Prop where
  selector : v.selector = holder ns
  listed : v.backends ≠ none ↔ Listed ns

theorem follows_blank : Entry.blank.Follows [] :=
  ⟨rfl, iff_of_false (fun h => h rfl) not_listed_nil⟩

/-- After a writing there is a list if the pool was told of backends, or not told at all and had
one. -/
theorem heardWritten_ne_none {s : Selector} {before : Option (List Backend)} :
    heardWritten s before ≠ none ↔ (∃ bs, (Note.wrote s).tells = some bs ∧ bs ≠ []) ∨
      ((Note.wrote s).tells = none ∧ before ≠ none) := by
  rw [heardWritten, Note.tells]
  by_cases hstage : s.stage = balanceStage
  · rw [if_pos hstage, if_pos hstage, listed]
    cases backendsOf s with
    | error f => simp [Except.toOption]
    | ok bs => cases bs <;> simp [Except.toOption]
  · rw [if_neg hstage, if_neg hstage]
    simp

/-- Only the stage that balances drops the list when a selector goes. -/
theorem heardGone_ne_none {old : Option Selector} {before : Option (List Backend)} :
    heardGone old before ≠ none ↔
      ¬ (∃ s, old = some s ∧ s.stage = balanceStage) ∧ before ≠ none := by
  cases old with
  | none => simp [heardGone]
  | some s => by_cases hstage : s.stage = balanceStage <;> simp [heardGone, hstage]

/-- **One note**: an entry that is as the notes say stays so. -/
theorem Entry.Follows.note {v : Entry} {ns : List Note} (h : v.Follows ns) (n : Note) :
    (v.note n).Follows (ns ++ [n]) := by
  obtain ⟨hselector, hlisted⟩ := h
  cases n with
  | wrote s =>
      refine ⟨by rw [holder_concat]; rfl, ?_⟩
      show heardWritten s v.backends ≠ none ↔ _
      rw [heardWritten_ne_none, listed_concat, hlisted]
      simp
  | gone =>
      refine ⟨by rw [holder_concat]; rfl, ?_⟩
      show heardGone v.selector v.backends ≠ none ↔ _
      rw [heardGone_ne_none, listed_concat, hlisted, hselector]
      simp [Note.tells, Held]
  | marked url healthy =>
      refine ⟨by rw [holder_concat]; exact hselector, ?_⟩
      show v.backends.map _ ≠ none ↔ _
      rw [listed_concat, ← hlisted]
      simp [Note.tells]

/-- By induction on the notes. -/
theorem Entry.Follows.noteAll {v : Entry} {ns : List Note} (h : v.Follows ns) (ms : List Note) :
    (v.noteAll ms).Follows (ns ++ ms) := by
  induction ms generalizing v ns with
  | nil => rwa [List.append_nil]
  | cons m ms ih =>
      rw [← List.singleton_append, ← List.append_assoc]
      exact ih (h.note m)

/-- **All notes**: what a gateway has for an id is as the notes in its history say. -/
theorem follows_follow {b : Blueprint} {g : Gateway} (h : build b = .ok g) (cs : List Change)
    (id : String) : ((g.follow cs).state.entry id).Follows (notes id (g.history cs)) := by
  rw [entry_follow h]
  exact follows_blank.noteAll _

/-- **Strays**: the pool lists none but the selectors that name backends, exactly if no id is
stray. -/
theorem lists_balanced_iff {b : Blueprint} {g : Gateway} (h : build b = .ok g)
    (cs : List Change) :
    (∀ id bs, (g.follow cs).state.pool.lists.get? id = some bs →
      ∃ s, (g.follow cs).state.catalog.selectors.get? id = some s ∧ s.stage = balanceStage) ↔
    ∀ id, ¬ Stray (notes id (g.history cs)) := by
  refine forall_congr' fun id => ?_
  obtain ⟨hselector, hlisted⟩ := follows_follow h cs id
  have hheld : (∃ s, (g.follow cs).state.catalog.selectors.get? id = some s ∧
      s.stage = balanceStage) ↔ Held (notes id (g.history cs)) := by
    rw [Held, ← hselector]
    rfl
  rw [hheld, Stray, not_and, Classical.not_not, ← hlisted, Option.ne_none_iff_exists']
  exact ⟨fun hall ⟨bs, hbs⟩ => hall bs hbs, fun hall bs hbs => hall ⟨bs, hbs⟩⟩

/-- A selector with a backend is moved to another stage. -/
def moveRun : List Change :=
  [.event (.put .selector (.obj [("handle", .arr [.obj [("url", .str "a")]]), ("id", .str "s"),
      ("pluginName", .str "divide")])),
    .event (.put .selector (.obj [("id", .str "s"), ("pluginName", .str "rewrite")]))]

theorem stray_moveRun : Stray (notes "s" (deliveries .empty ++ moveRun)) := by
  have hfollows := follows_blank.noteAll (notes "s" (deliveries .empty ++ moveRun))
  refine ⟨hfollows.listed.1 (by decide +kernel), ?_⟩
  rintro ⟨s, hs, hstage⟩
  have hother : (holder (notes "s" (deliveries .empty ++ moveRun))).map Selector.stage =
      some "rewrite" := by decide +kernel
  rw [hs, Option.map_some, hstage] at hother
  exact absurd hother (by decide)

theorem lists_balanced_iff_moveRun : ∃ g, build .bare = .ok g ∧
    ¬ ∀ id bs, (g.follow moveRun).state.pool.lists.get? id = some bs →
      ∃ s, (g.follow moveRun).state.catalog.selectors.get? id = some s ∧
        s.stage = balanceStage := by
  obtain ⟨g, hg, hhistory⟩ := exists_build_bare
  refine ⟨g, hg, fun hall => (lists_balanced_iff hg moveRun).1 hall "s" ?_⟩
  rw [hhistory]
  exact stray_moveRun

/-- The pool keeps the list of the selector that is moved. -/
theorem not_lists_balanced :
    ¬ ∀ (b : Blueprint) (g : Gateway) (cs : List Change), build b = .ok g →
      ∀ id bs, (g.follow cs).state.pool.lists.get? id = some bs →
        ∃ s, (g.follow cs).state.catalog.selectors.get? id = some s ∧ s.stage = balanceStage := by
  intro hall
  obtain ⟨g, hg, hhistory⟩ := exists_build_bare
  have hlist : (g.follow moveRun).state.pool.lists.get? "s" =
      some [⟨"a", "http://", 50, true, 0, 0⟩] := by
    rw [get?_lists_follow hg, hhistory]
    decide +kernel
  obtain ⟨s, hs, hstage⟩ := hall .bare g moveRun hg "s" _ hlist
  rw [get?_selectors_follow hg, hhistory, (follows_blank.noteAll _).selector] at hs
  exact stray_moveRun.2 ⟨s, hs, hstage⟩

/-! ## Moves -/

/-- The selector of an id is moved from the pool to another stage. -/
def Moved (ns : List Note) : Prop :=
  ∃ before s after, ns = before ++ .wrote s :: after ∧ Held before ∧ s.stage ≠ balanceStage

/-- A mark moves nothing: the stage that holds the list keeps it. -/
theorem held_marked {ns : List Note} {url : String} {healthy : Bool} :
    Held (ns ++ [.marked url healthy]) ↔ Held ns := by
  rw [Held, holder_concat]
  rfl

/-- After a writing the list is held by the stage that balances, or by none. -/
theorem held_wrote {ns : List Note} {s : Selector} :
    Held (ns ++ [.wrote s]) ↔ s.stage = balanceStage := by
  rw [Held, holder_concat]
  simp [Note.holder]

/-- Where an id ceases to be held without being gone, it is moved. -/
theorem moved_of_not_held {before : List Note} (after : List Note) (hheld : Held before)
    (hend : ¬ Held (before ++ after))
    (hgone : ∀ mid rest, after = mid ++ .gone :: rest → ¬ Held (before ++ mid)) :
    Moved (before ++ after) := by
  -- the first note after which the id is not held is the move
  induction after generalizing before with
  | nil =>
      rw [List.append_nil] at hend
      exact absurd hheld hend
  | cons n after ih =>
      have hassoc : before ++ n :: after = (before ++ [n]) ++ after := by simp
      by_cases hstays : Held (before ++ [n])
      · rw [hassoc] at hend ⊢
        refine ih hstays hend fun mid rest hafter => ?_
        have := hgone (n :: mid) rest (by rw [hafter]; rfl)
        rwa [← List.singleton_append, ← List.append_assoc] at this
      · cases n with
        | wrote s => exact ⟨before, s, after, rfl, hheld, fun hs => hstays (held_wrote.2 hs)⟩
        | gone =>
            have := hgone [] after rfl
            rw [List.append_nil] at this
            exact absurd hheld this
        | marked url healthy => exact absurd (held_marked.2 hheld) hstays

/-- **Moves**: an id becomes stray only where its selector is moved to another stage. -/
theorem Stray.moved {ns : List Note} (h : Stray ns) : Moved ns := by
  obtain ⟨⟨before, n, after, bs, rfl, htells, -, -, hgone⟩, hend⟩ := h
  have hassoc : before ++ n :: after = (before ++ [n]) ++ after := by simp
  have hheld : Held (before ++ [n]) := by
    cases n with
    | wrote s =>
        rw [Note.tells] at htells
        split at htells
        · next hstage => exact held_wrote.2 hstage
        · cases htells
    | gone | marked _ _ => cases htells
  rw [hassoc] at hend ⊢
  refine moved_of_not_held after hheld hend fun mid rest hafter => ?_
  have := hgone mid rest hafter
  rwa [← List.singleton_append, ← List.append_assoc] at this

end Gatehouse.Gateway
