import Gatehouse.Proofs.Catalog.Determined
import Gatehouse.Proofs.Gateway.Changes

/-!
# Rules that are taken back

A stage that is told of a rule keeps something for it, and waits to be told that it is gone. Which
stage is told is looked up anew each time, so it may be another one that hears of the end:

    event                        told
    ──write s, of stage a──▶     a: s is written
    ──write r, of stage b──▶     b: r is written
    ──delete s, and r too──▶     a: r is gone, s is gone

Notes say what happens to a rule and which stage is told, if any. `Orphaned` says of the notes that
the stage told last of a writing was not told of any end since. **A rule that is gone was taken
back exactly if it is not orphaned** (`dismissed_iff`). This never happens to a rule that has one
and the same stage by itself and by its selector as long as it is there (`dismissed_of_steady`).
-/

namespace Gatehouse

open Ledger

/-- Of entries with different ids no two have one and the same id. -/
theorem Ledger.filter_id_eq [Owned α] {l : List α} (hnodup : (l.map Owned.id).Nodup) {id : String}
    {found : Option α} (hfound : ∀ x, found = some x ↔ x ∈ l ∧ Owned.id x = id) :
    (l.filter fun x => Owned.id x == id) = found.toList := by
  have hmem : ∀ x, (x ∈ l.filter fun x => Owned.id x == id) ↔ x ∈ found.toList := by
    intro x
    rw [Option.mem_toList, hfound, List.mem_filter, beq_iff_eq]
  have hl : l.Nodup := List.Pairwise.of_map Owned.id (fun _ _ hne he => hne (he ▸ rfl)) hnodup
  have hperm : (l.filter fun x => Owned.id x == id).Perm found.toList := by
    refine (List.perm_ext_iff_of_nodup (hl.filter _) ?_).2 hmem
    cases found <;> simp
  cases found with
  | none => exact hperm.eq_nil
  | some x => exact List.perm_singleton.1 hperm

namespace Catalog

variable {c : Catalog}

theorem Kept.id_of_get?_rules (h : c.Kept) {id : String} {r : Rule}
    (hr : c.rules.get? id = some r) : r.id = id := by
  obtain ⟨L, hL⟩ := h
  exact hL.rules.id_of_get? hr

/-- Among all rules there is one of an id, or none. -/
theorem Kept.filter_values (h : c.Kept) (id : String) :
    (c.rules.byId.values.filter fun r => r.id == id) = (c.rules.get? id).toList := by
  have hids : c.rules.byId.values.map Rule.id = c.rules.byId.keys := by
    rw [Table.values, Table.keys, List.map_map]
    refine List.map_congr_left fun e he => ?_
    exact h.id_of_get?_rules (Table.get?_eq_some_iff.2 he)
  refine Ledger.filter_id_eq (hids ▸ Table.nodup_keys _) fun r => ?_
  rw [Table.mem_values_iff]
  constructor
  · intro hr
    exact ⟨⟨id, hr⟩, h.id_of_get?_rules hr⟩
  · rintro ⟨⟨key, hr⟩, hid⟩
    have hkey : key = id := (h.id_of_get?_rules hr).symm.trans hid
    exact hkey ▸ hr

/-- Among the rules of a selector there is one of an id, or none. -/
theorem Kept.filter_under (h : c.Kept) (selectorId id : String) :
    ((c.rules.under selectorId).filter fun r => r.id == id) =
      ((c.rules.get? id).filter fun r => r.selectorId == selectorId).toList := by
  obtain ⟨L, hL⟩ := h
  have hunder := hL.rules.under_eq selectorId
  have hperm : (Index.inOrder (ownedBy selectorId L.rules)).Perm (ownedBy selectorId L.rules) :=
    List.mergeSort_perm _ _
  have hnodup : ((ownedBy selectorId L.rules).map Rule.id).Nodup :=
    hL.rules.nodup.sublist ((List.filter_sublist).map _)
  rw [hunder]
  refine Ledger.filter_id_eq ((hperm.map Rule.id).nodup_iff.2 hnodup) fun r => ?_
  rw [Option.filter_eq_some_iff, hL.rules.get?_iff, hperm.mem_iff, mem_ownedBy, beq_iff_eq]
  exact and_right_comm

end Catalog

namespace Feed

open Catalog

/-! ## Notes about a rule -/

/-- What happens to a rule, with the stage that is told of it. -/
inductive RuleNote where
  | written (stage : Option String)
  | gone (stage : Option String)
deriving DecidableEq

namespace RuleNote

def stage : RuleNote → Option String
  | written stage => stage
  | gone stage => stage

def isWritten : RuleNote → Bool
  | written _ => true
  | gone _ => false

/-- Whether one of some stages is told. -/
def heardBy (listening : List String) (n : RuleNote) : Bool := n.stage.any listening.contains

end RuleNote

def Message.ruleNote? (id : String) (m : Message) : Option RuleNote :=
  match m.notice with
  | .rulePut r => if r.id = id then some (.written (some m.stage)) else none
  | .ruleGone r => if r.id = id then some (.gone (some m.stage)) else none
  | _ => none

/-- The rule goes by itself: its stage is told. -/
def leaving (id : String) (c : Catalog) : List RuleNote :=
  (c.rules.get? id).toList.map fun r => .gone (stageOfRule? c r)

/-- The rule goes with its selector: the stage of the selector is told. -/
def leavingWith (key id : String) (c : Catalog) : List RuleNote :=
  (c.selectors.get? key).toList.flatMap fun s =>
    ((c.rules.get? id).filter fun r => r.selectorId == key).toList.map fun _ => .gone (some s.stage)

/-- What happens to a rule with an event. -/
def ruleNotes (id : String) (c : Catalog) : Event → List RuleNote
  | .replaceAll .rule raw =>
    let items := Item.parseAll .rule raw
    let batch := (rulesAmong items).filter fun r => r.id == id
    (if batch.isEmpty then leaving id c else []) ++
      batch.map fun r => .written (stageOfRule? (c.replaceAll .rule items) r)
  | .replaceAll _ _ => []
  | .put group raw =>
    match Item.parse group raw with
    | .ok (.rule r) =>
      if r.id = id then [.written (stageOfRule? (c.put (.rule r)) r)] else []
    | _ => []
  | .delete .rule key => if key = id then leaving id c else []
  | .delete .selector key => leavingWith key id c
  | .delete _ _ => []

/-! ## What is told of an event -/

variable {c : Catalog} {id : String}

/-- What is told of a rule goes to the stage of its selector, if it has one. -/
theorem notes_aboutRule {notice : Rule → Notice} {note : Option String → RuleNote}
    (hnote : ∀ stage r, Message.ruleNote? id ⟨stage, notice r⟩ =
      if r.id = id then some (note (some stage)) else none)
    (hstage : ∀ stage, (note stage).stage = stage) (c : Catalog) (rs : List Rule) :
    (rs.flatMap fun r => aboutRule c r notice).filterMap (Message.ruleNote? id) =
      ((rs.filter fun r => r.id == id).map fun r => note (stageOfRule? c r)).filter
        fun n => n.stage.isSome := by
  induction rs with
  | nil => rfl
  | cons r rs ih =>
      rw [List.flatMap_cons, List.filterMap_append, ih]
      by_cases hid : r.id = id
      · rw [List.filter_cons_of_pos (by simpa using hid), List.map_cons, List.filter_cons, hstage]
        cases hs : stageOfRule? c r <;> simp [aboutRule, hs, hnote, hid]
      · rw [List.filter_cons_of_neg (by simpa using hid)]
        cases hs : stageOfRule? c r <;> simp [aboutRule, hs, hnote, hid]

theorem notes_rulePut (c : Catalog) (rs : List Rule) :
    (rs.flatMap fun r => aboutRule c r .rulePut).filterMap (Message.ruleNote? id) =
      ((rs.filter fun r => r.id == id).map fun r => .written (stageOfRule? c r)).filter
        fun n => n.stage.isSome :=
  notes_aboutRule (fun _ _ => rfl) (fun _ => rfl) c rs

theorem notes_ruleGone (c : Catalog) (rs : List Rule) :
    (rs.flatMap fun r => aboutRule c r .ruleGone).filterMap (Message.ruleNote? id) =
      ((rs.filter fun r => r.id == id).map fun r => .gone (stageOfRule? c r)).filter
        fun n => n.stage.isSome :=
  notes_aboutRule (fun _ _ => rfl) (fun _ => rfl) c rs

theorem notes_written_of_ne {item : Item} (h : item.group ≠ .rule) :
    (written c item).filterMap (Message.ruleNote? id) = [] := by
  cases item with
  | rule r => exact absurd rfl h
  | descriptor _ | selector _ | service _ | credential _ => rfl

/-- A batch of rules is nothing but rules. -/
theorem eq_map_rulesAmong {items : List Item} (h : ∀ i ∈ items, i.group = .rule) :
    items = (rulesAmong items).map .rule := by
  induction items with
  | nil => rfl
  | cons item items ih =>
      have hitem := h item List.mem_cons_self
      cases item with
      | rule r => exact congrArg _ (ih fun i hi => h i (List.mem_cons_of_mem _ hi))
      | descriptor _ | selector _ | service _ | credential _ => cases hitem

/-- Of all rules that do not come again one has the id, or none. -/
theorem filter_dropped (hc : c.Kept) (rs : List Rule) :
    ((c.rules.byId.values.filter fun r => !rs.any fun q => q.id == r.id).filter
      fun r => r.id == id) =
      if (rs.filter fun q => q.id == id).isEmpty then (c.rules.get? id).toList else [] := by
  have hempty : (rs.filter fun q => q.id == id).isEmpty = !rs.any fun q => q.id == id := by
    rw [Bool.eq_iff_iff]
    simp
  have hcongr : ((c.rules.byId.values.filter fun r => !rs.any fun q => q.id == r.id).filter
      fun r => r.id == id) = (c.rules.byId.values.filter fun r => r.id == id).filter
        fun _ => (rs.filter fun q => q.id == id).isEmpty := by
    -- of a rule with the id it is no more asked than whether the id comes again
    rw [List.filter_filter, List.filter_filter]
    refine List.filter_congr fun r _ => ?_
    by_cases hid : r.id = id
    · rw [hid, hempty, Bool.and_comm]
    · rw [beq_eq_false_iff_ne.2 hid, Bool.false_and, Bool.and_false]
  rw [hcongr, hc.filter_values]
  cases (rs.filter fun q => q.id == id).isEmpty <;> simp

/-- A full synchronisation ends the rules that are not in it and tells of those that are. -/
theorem notes_replaceRules (hc : c.Kept) (raw : List Json) :
    (apply c (.replaceAll .rule raw)).messages.filterMap (Message.ruleNote? id) =
      (ruleNotes id c (.replaceAll .rule raw)).filter fun n => n.stage.isSome := by
  have hitems : Item.parseAll .rule raw = (rulesAmong (Item.parseAll .rule raw)).map .rule :=
    eq_map_rulesAmong fun i hi => Item.group_of_mem_parseAll hi
  generalize hrs : rulesAmong (Item.parseAll .rule raw) = rs at hitems
  show (dropped c .rule (Item.parseAll .rule raw) ++ (Item.parseAll .rule raw).flatMap
    (written (c.replaceAll .rule (Item.parseAll .rule raw)))).filterMap _ = _
  rw [ruleNotes, hrs, hitems]
  generalize c.replaceAll .rule (rs.map .rule) = after
  have hwritten : (rs.map Item.rule).flatMap (written after) =
      rs.flatMap fun r => aboutRule after r .rulePut := List.flatMap_map ..
  have hstays : ∀ r : Rule, ((rs.map Item.rule).any fun i => i.key == r.id) =
      rs.any fun q => q.id == r.id := fun r => List.any_map
  rw [List.filterMap_append, hwritten, notes_rulePut, dropped, List.filter_append]
  congr 1
  simp only [hstays]
  rw [notes_ruleGone, filter_dropped hc]
  split <;> rfl

theorem notes_replaceOthers {group : Group} (hgroup : group ≠ .rule) (raw : List Json) :
    (apply c (.replaceAll group raw)).messages.filterMap (Message.ruleNote? id) = [] := by
  have hdropped : (dropped c group (Item.parseAll group raw)).filterMap (Message.ruleNote? id) =
      [] := by
    cases group with
    | rule => exact absurd rfl hgroup
    | plugin | selector => simp [dropped, Message.ruleNote?]
    | metaData | appAuth => rfl
  have hwritten : ∀ after, ((Item.parseAll group raw).flatMap (written after)).filterMap
      (Message.ruleNote? id) = [] := by
    intro after
    rw [List.filterMap_flatMap, List.flatMap_eq_nil_iff]
    intro item hitem
    refine notes_written_of_ne ?_
    rw [Item.group_of_mem_parseAll hitem]
    exact hgroup
  rw [messages_replaceAll, List.filterMap_append, hdropped, hwritten]
  rfl

/-- An upsert tells of the rule only if it is an upsert of the rule. -/
theorem notes_put (group : Group) (raw : Json) :
    (apply c (.put group raw)).messages.filterMap (Message.ruleNote? id) =
      (ruleNotes id c (.put group raw)).filter fun n => n.stage.isSome := by
  rw [apply, ruleNotes]
  cases Item.parse group raw with
  | error f => rfl
  | ok item =>
      cases item with
      | rule r =>
          have hone : ([r].flatMap fun q => aboutRule (c.put (.rule r)) q .rulePut).filterMap
              (Message.ruleNote? id) = _ := notes_rulePut (c.put (.rule r)) [r]
          rw [List.flatMap_singleton] at hone
          refine hone.trans ?_
          by_cases hid : r.id = id <;> simp [hid]
      | descriptor _ | selector _ | service _ | credential _ => rfl

theorem notes_deleteRule (hc : c.Kept) (key : String) :
    (deleted c .rule key).filterMap (Message.ruleNote? id) =
      (if key = id then leaving id c else []).filter fun n => n.stage.isSome := by
  rw [deleted, notes_ruleGone, leaving]
  cases hget : c.rules.get? key with
  | none =>
      split
      · next hkey =>
          rw [← hkey, hget]
          rfl
      · rfl
  | some r =>
      have hid := hc.id_of_get?_rules hget
      split
      · next hkey =>
          rw [← hkey, hget]
          simp [hid]
      · next hkey => simp [hid, hkey]

/-- With a selector its rules end, and it is the stage of the selector that is told. -/
theorem notes_deleteSelector (hc : c.Kept) (key : String) :
    (deleted c .selector key).filterMap (Message.ruleNote? id) =
      (leavingWith key id c).filter fun n => n.stage.isSome := by
  rw [deleted, leavingWith]
  cases hget : c.selectors.get? key with
  | none => rfl
  | some s =>
      have hid := hc.id_of_get? hget
      have hgone : ∀ rs : List Rule, (rs.map fun r => (⟨s.stage, .ruleGone r⟩ : Message)).filterMap
          (Message.ruleNote? id) =
            (rs.filter fun r => r.id == id).map fun _ => .gone (some s.stage) := by
        intro rs
        induction rs with
        | nil => rfl
        | cons r rs ih =>
            by_cases hr : r.id = id <;> simp [Message.ruleNote?, hr, ih]
      show ((c.rulesOf s).map _ ++ [_]).filterMap _ = _
      rw [List.filterMap_append, hgone, rulesOf, hid, hc.filter_under]
      cases (c.rules.get? id).filter fun r => r.selectorId == key <;> rfl

/-- **One event**: what is told of it about a rule are the notes that anyone is told. -/
theorem notes_apply (hc : c.Kept) (e : Event) :
    (apply c e).messages.filterMap (Message.ruleNote? id) =
      (ruleNotes id c e).filter fun n => n.stage.isSome := by
  cases e with
  | replaceAll group raw =>
      by_cases hgroup : group = .rule
      · subst hgroup
        exact notes_replaceRules hc raw
      · rw [notes_replaceOthers hgroup]
        cases group <;> first | exact absurd rfl hgroup | rfl
  | put group raw => exact notes_put group raw
  | delete group key =>
      cases group with
      | rule => exact notes_deleteRule hc key
      | selector => exact notes_deleteSelector hc key
      | plugin =>
          rw [apply, deleted]
          cases c.descriptors.get? key <;> rfl
      | metaData | appAuth => rfl

/-! ## Whether the rule is there -/

/-- Whether a rule is there after some notes. -/
def present (before : Bool) (ns : List RuleNote) : Bool :=
  (ns.getLast?.map RuleNote.isWritten).getD before

theorem present_append (before : Bool) (ns ms : List RuleNote) :
    present before (ns ++ ms) = present (present before ns) ms := by
  rw [present, present, present, List.getLast?_append]
  cases ms.getLast? <;> rfl

/-- Whether it goes by itself or with its selector, it is not there afterwards. -/
theorem present_leaving (c : Catalog) (id : String) :
    present (c.rules.get? id).isSome (leaving id c) = false := by
  rw [leaving]
  cases c.rules.get? id <;> rfl

/-- A deletion of a selector ends the rule if it is one of the rules of the selector. -/
theorem present_leavingWith (c : Catalog) (key id : String) :
    present (c.rules.get? id).isSome (leavingWith key id c) =
      if c.holds .selector key then
        ((c.rules.get? id).filter fun r => r.selectorId != key).isSome
      else (c.rules.get? id).isSome := by
  rw [leavingWith, holds]
  cases c.selectors.get? key with
  | none => rfl
  | some s =>
      cases c.rules.get? id with
      | none => rfl
      | some r => by_cases hr : r.selectorId = key <;> simp [present, Option.filter, RuleNote.isWritten, hr]

/-- Whether the rule is held is what the last of its notes says. -/
theorem isSome_replaceRules (c : Catalog) (raw : List Json) (id : String) :
    ((apply c (.replaceAll .rule raw)).catalog.rules.get? id).isSome =
      present (c.rules.get? id).isSome (ruleNotes id c (.replaceAll .rule raw)) := by
  have hget := Index.get?_ofList (rulesAmong (Item.parseAll .rule raw)) id
  show ((Index.ofList (rulesAmong (Item.parseAll .rule raw))).get? id).isSome = _
  rw [hget, ruleNotes, present_append]
  show ((rulesAmong (Item.parseAll .rule raw)).filter fun r => r.id == id).getLast?.isSome = _
  cases (rulesAmong (Item.parseAll .rule raw)).filter fun r => r.id == id with
  | nil => exact (present_leaving c id).symm
  | cons r rs =>
      rw [present, List.getLast?_map, List.getLast?_cons]
      rfl

/-- **One event**: the rule is there afterwards if the notes say so. -/
theorem isSome_apply (hc : c.Kept) (e : Event) (id : String) :
    ((apply c e).catalog.rules.get? id).isSome =
      present (c.rules.get? id).isSome (ruleNotes id c e) := by
  cases e with
  | replaceAll group raw =>
      cases group with
      | rule => exact isSome_replaceRules c raw id
      | plugin | selector | metaData | appAuth => rfl
  | put group raw =>
      rw [apply, ruleNotes]
      cases Item.parse group raw with
      | error f => rfl
      | ok item =>
          cases item with
          | rule r =>
              have hget := Index.get?_insert c.rules r id
              simp only [Catalog.put, hget]
              by_cases hid : r.id = id
              · rw [if_pos hid, if_pos (show id = Owned.id r from hid.symm)]
                rfl
              · rw [if_neg hid, if_neg (show ¬ id = Owned.id r from Ne.symm hid)]
                rfl
          | descriptor _ | selector _ | service _ | credential _ => rfl
  | delete group key =>
      cases group with
      | rule =>
          show ((c.rules.erase key).get? id).isSome = present _ (if key = id then _ else _)
          rw [Index.get?_erase]
          by_cases hkey : key = id
          · rw [if_pos hkey, if_pos hkey.symm, present_leaving]
            rfl
          · rw [if_neg hkey, if_neg (Ne.symm hkey)]
            rfl
      -- the rule is gone if its selector was there and was the owner
      | selector =>
          obtain ⟨L, hL⟩ := hc
          rw [ruleNotes, present_leavingWith, apply, Catalog.delete]
          split
          · rw [hL.rules.get?_eraseOwner]
            rfl
          · rfl
      | plugin | metaData | appAuth => rfl

/-! ## Runs -/

def follow (c : Catalog) (es : List Event) : Catalog := es.foldl (fun c e => (apply c e).catalog) c

def told (c : Catalog) : List Event → List Message
  | [] => []
  | e :: es => (apply c e).messages ++ told (apply c e).catalog es

def ruleHistory (id : String) (c : Catalog) : List Event → List RuleNote
  | [] => []
  | e :: es => ruleNotes id c e ++ ruleHistory id (apply c e).catalog es

/-- By induction on the events: the messages of a run, looked at for one rule, are its history. -/
theorem notes_told (hc : c.Kept) (es : List Event) :
    (told c es).filterMap (Message.ruleNote? id) =
      (ruleHistory id c es).filter fun n => n.stage.isSome := by
  induction es generalizing c with
  | nil => rfl
  | cons e es ih =>
      rw [told, ruleHistory, List.filterMap_append, List.filter_append, notes_apply hc,
        ih (hc.apply e)]

/-- By induction on the events: a rule is held after a run exactly if the last note was a writing.
-/
theorem isSome_follow (hc : c.Kept) (es : List Event) (id : String) :
    ((follow c es).rules.get? id).isSome =
      present (c.rules.get? id).isSome (ruleHistory id c es) := by
  induction es generalizing c with
  | nil => rfl
  | cons e es ih =>
      rw [ruleHistory, present_append, ← isSome_apply hc]
      exact ih (hc.apply e)

/-- What the stages that listen are told of a rule in a run. -/
def deliveries (listening : List String) (id : String) (es : List Event) : List RuleNote :=
  ((told .empty es).filter fun m => listening.contains m.stage).filterMap (Message.ruleNote? id)

theorem stage_of_ruleNote? {m : Message} {n : RuleNote} (h : m.ruleNote? id = some n) :
    n.stage = some m.stage := by
  rw [Message.ruleNote?] at h
  split at h
  · split at h
    · rw [← Option.some.inj h]
      rfl
    · cases h
  · split at h
    · rw [← Option.some.inj h]
      rfl
    · cases h
  · cases h

/-- To leave out what nobody hears and to look at one rule may be exchanged. -/
theorem filterMap_filter_heard (listening : List String) (ms : List Message) :
    (ms.filter fun m => listening.contains m.stage).filterMap (Message.ruleNote? id) =
      (ms.filterMap (Message.ruleNote? id)).filter (RuleNote.heardBy listening) := by
  induction ms with
  | nil => rfl
  | cons m ms ih =>
      cases hnote : m.ruleNote? id with
      | none =>
          rw [List.filterMap_cons_none hnote, ← ih, List.filter_cons]
          split
          · exact List.filterMap_cons_none hnote
          · rfl
      | some n =>
          have hheard : n.heardBy listening = listening.contains m.stage := by
            rw [RuleNote.heardBy, stage_of_ruleNote? hnote]
            rfl
          rw [List.filterMap_cons_some hnote, List.filter_cons, List.filter_cons, hheard, ← ih]
          split
          · exact List.filterMap_cons_some hnote
          · rfl

/-- **Projection**: they are told what happens to the rule as far as it is for them. -/
theorem deliveries_eq (listening : List String) (id : String) (es : List Event) :
    deliveries listening id es =
      (ruleHistory id .empty es).filter (RuleNote.heardBy listening) := by
  rw [deliveries, filterMap_filter_heard, notes_told kept_empty, List.filter_filter]
  refine List.filter_congr fun n _ => ?_
  cases hstage : n.stage <;> simp [RuleNote.heardBy, hstage]

/-! ## Dismissals -/

/-- If a stage is the last that was told of a writing, it was told of an end since. -/
def Dismissed (ds : List RuleNote) : Prop :=
  ∀ before stage after, ds = before ++ .written (some stage) :: after →
    (∀ other, .written (some other) ∉ after) → .gone (some stage) ∈ after

/-- A stage waits for the end of a rule: it was told of a writing, no stage that listens was told
of a later one, and whenever the rule was gone since then, it was another stage that was told. -/
def Waits (listening : List String) (stage : String) (ns : List RuleNote) : Prop :=
  ∃ before after, ns = before ++ .written (some stage) :: after ∧
    (∀ other ∈ listening, .written (some other) ∉ after) ∧ .gone (some stage) ∉ after

/-- A stage that listens waits for the end of a rule that has come to its end. -/
def Orphaned (listening : List String) (ns : List RuleNote) : Prop :=
  (∃ stage ∈ listening, Waits listening stage ns) ∧ ∃ told, ns.getLast? = some (.gone told)

theorem heardBy_iff {listening : List String} {n : RuleNote} :
    n.heardBy listening = true ↔ ∃ stage ∈ listening, n.stage = some stage := by
  rw [RuleNote.heardBy, Option.any_eq_true]
  simp [and_comm]

/-- A rule is dismissed exactly if no stage that listens waits for its end. -/
theorem dismissed_filter_iff {listening : List String} {ns : List RuleNote} :
    Dismissed (ns.filter (RuleNote.heardBy listening)) ↔
      ∀ stage ∈ listening, ¬ Waits listening stage ns := by
  constructor
  · rintro h stage hstage ⟨before, after, rfl, hlater, hgone⟩
    have hheard : (RuleNote.written (some stage)).heardBy listening = true :=
      heardBy_iff.2 ⟨stage, hstage, rfl⟩
    rw [List.filter_append, List.filter_cons_of_pos hheard] at h
    refine hgone (List.mem_filter.1 (h _ stage _ rfl fun other hother => ?_)).1
    obtain ⟨hmem, hother⟩ := List.mem_filter.1 hother
    obtain ⟨stage', hstage', heq⟩ := heardBy_iff.1 hother
    exact hlater stage' hstage' (Option.some.inj heq ▸ hmem)
  · intro h before stage after hsplit hlater
    -- where the notes that are heard are cut, all notes can be cut
    obtain ⟨front, rest, rfl, -, hrest⟩ := List.filter_eq_append_iff.1 hsplit
    obtain ⟨mid, later, rfl, -, hheard, rfl⟩ := List.filter_eq_cons_iff.1 hrest
    obtain ⟨stage', hstage, heq⟩ := heardBy_iff.1 hheard
    obtain rfl := Option.some.inj heq
    have hkeep : ∀ {n : RuleNote} {other}, other ∈ listening → n.stage = some other → n ∈ later →
        n ∈ later.filter (RuleNote.heardBy listening) := fun hother hn hmem =>
      List.mem_filter.2 ⟨hmem, heardBy_iff.2 ⟨_, hother, hn⟩⟩
    apply Classical.byContradiction
    intro hgone
    refine h stage hstage ⟨front ++ mid, later, by simp, ?_, ?_⟩
    · intro other hother hmem
      exact hlater other (hkeep hother rfl hmem)
    · intro hmem
      exact hgone (hkeep hstage rfl hmem)

/-- A rule that is waited for is not there if the last note is of an end. -/
theorem Waits.gone_iff {listening : List String} {stage : String} {es : List Event}
    (h : Waits listening stage (ruleHistory id .empty es)) :
    (follow .empty es).rules.get? id = none ↔
      ∃ told, (ruleHistory id .empty es).getLast? = some (.gone told) := by
  have hpresent := isSome_follow kept_empty es id
  obtain ⟨before, after, hsplit, -⟩ := h
  have hnotes : (ruleHistory id .empty es).getLast? ≠ none := by
    rw [hsplit]
    simp
  obtain ⟨last, hlast⟩ := Option.ne_none_iff_exists'.1 hnotes
  rw [present, hlast] at hpresent
  rw [← Option.not_isSome_iff_eq_none, hpresent, hlast]
  cases last <;> simp [RuleNote.isWritten]

theorem dismissed_of_not_orphaned {listening : List String} {es : List Event}
    (h : ¬ Orphaned listening (ruleHistory id .empty es))
    (hgone : (follow .empty es).rules.get? id = none) : Dismissed (deliveries listening id es) := by
  rw [deliveries_eq, dismissed_filter_iff]
  intro stage hstage hwaits
  exact h ⟨⟨stage, hstage, hwaits⟩, hwaits.gone_iff.1 hgone⟩

/-- **Dismissals**: a rule that is gone was taken back from the stage that was told of it last,
exactly if it is not orphaned. -/
theorem dismissed_iff (listening : List String) (id : String) (es : List Event) :
    ((follow .empty es).rules.get? id = none → Dismissed (deliveries listening id es)) ↔
      ¬ Orphaned listening (ruleHistory id .empty es) := by
  constructor
  · rintro h ⟨⟨stage, hstage, hwaits⟩, hlast⟩
    have hdismissed := h (hwaits.gone_iff.2 hlast)
    rw [deliveries_eq, dismissed_filter_iff] at hdismissed
    exact hdismissed stage hstage hwaits
  · intro h hgone
    exact dismissed_of_not_orphaned h hgone

/-- A rule that names its stage goes with a selector of another stage. -/
def lostRun : List Event :=
  [.put .selector (.obj [("id", .str "s"), ("pluginName", .str "divide")]),
    .put .rule (.obj [("id", .str "r"), ("pluginName", .str "rate_limiter"),
      ("selectorId", .str "s")]),
    .delete .selector "s"]

theorem not_dismissed : ¬ ∀ listening id es, (follow .empty es).rules.get? id = none →
    Dismissed (deliveries listening id es) := by
  intro h
  have hgone : (follow .empty lostRun).rules.get? "r" = none := by decide +kernel
  have hlost : deliveries ["divide", "rate_limiter"] "r" lostRun =
      [.written (some "rate_limiter"), .gone (some "divide")] := by decide +kernel
  have hdismissed := h ["divide", "rate_limiter"] "r" lostRun hgone
  rw [hlost] at hdismissed
  have hmem := hdismissed [] "rate_limiter" [.gone (some "divide")] rfl (by simp)
  simp at hmem

/-! ## Rules that keep their stage -/

/-- If the rule is there, it is a rule of the stage, by itself and by its selector. -/
def Belongs (stage id : String) (c : Catalog) : Prop :=
  ∀ r, c.rules.get? id = some r → stageOfRule? c r = some stage ∧
    ∀ s, c.selectors.get? r.selectorId = some s → s.stage = stage

/-- Each end is told to the stage, and each writing is, or else one that comes after it. -/
def Faithful (stage : String) : List RuleNote → Prop
  | [] => True
  | .written told :: ns => (told = some stage ∨ .written (some stage) ∈ ns) ∧ Faithful stage ns
  | .gone told :: ns => told = some stage ∧ Faithful stage ns

variable {stage : String}

theorem Faithful.append {ns ms : List RuleNote} (h : Faithful stage ns) (h' : Faithful stage ms) :
    Faithful stage (ns ++ ms) := by
  induction ns with
  | nil => exact h'
  | cons n ns ih =>
      cases n with
      | written told => exact ⟨h.1.imp_right (List.mem_append_left ms), ih h.2⟩
      | gone told => exact ⟨h.1, ih h.2⟩

theorem Faithful.of_append {ns ms : List RuleNote} (h : Faithful stage (ns ++ ms)) :
    Faithful stage ms := by
  induction ns with
  | nil => exact h
  | cons n ns ih =>
      cases n with
      | written told => exact ih h.2
      | gone told => exact ih h.2

/-- Of several writings at once only the last one has to be told to the stage. -/
theorem faithful_map_written {f : Rule → Option String} {rs : List Rule}
    (h : ∀ r, rs.getLast? = some r → f r = some stage) :
    Faithful stage (rs.map fun r => .written (f r)) := by
  induction rs with
  | nil => exact trivial
  | cons r rs ih =>
      cases rs with
      | nil => exact ⟨Or.inl (h r rfl), trivial⟩
      | cons q rs =>
          have hlast : (r :: q :: rs).getLast? = (q :: rs).getLast? := List.getLast?_cons_cons
          refine ⟨Or.inr ?_, ih fun p hp => h p (hlast.trans hp)⟩
          have hmem := List.getLast_mem (List.cons_ne_nil q rs)
          have hf := h _ (hlast.trans (List.getLast?_eq_some_getLast (List.cons_ne_nil q rs)))
          exact List.mem_map.2 ⟨_, hmem, by rw [hf]⟩

/-- As long as a rule belongs to a stage, its end is told to that stage. -/
theorem Belongs.leaving (h : Belongs stage id c) : Faithful stage (leaving id c) := by
  rw [Feed.leaving]
  cases hget : c.rules.get? id with
  | none => exact trivial
  | some r => exact ⟨(h r hget).1, trivial⟩

/-- The end that comes with the selector is told to the stage of the selector, which is the same
one. -/
theorem Belongs.leavingWith (h : Belongs stage id c) (key : String) :
    Faithful stage (leavingWith key id c) := by
  rw [Feed.leavingWith]
  cases hs : c.selectors.get? key with
  | none => exact trivial
  | some s =>
      cases hr : (c.rules.get? id).filter fun r => r.selectorId == key with
      | none => exact trivial
      | some r =>
          obtain ⟨hget, hkey⟩ := Option.filter_eq_some_iff.1 hr
          obtain rfl := beq_iff_eq.1 hkey
          exact ⟨congrArg some ((h r hget).2 s hs), trivial⟩

/-- **One event** that does not take the rule away from its stage. -/
theorem faithful_ruleNotes {e : Event} (hbefore : Belongs stage id c)
    (hafter : Belongs stage id (apply c e).catalog) : Faithful stage (ruleNotes id c e) := by
  cases e with
  | replaceAll group raw =>
      cases group with
      | rule =>
          rw [ruleNotes]
          -- an end is told before the event counts, a writing after it
          refine Faithful.append ?_ (faithful_map_written fun r hr => ?_)
          · split
            · exact hbefore.leaving
            · exact trivial
          · have hget := Index.get?_ofList (rulesAmong (Item.parseAll .rule raw)) id
            exact (hafter r (hget.trans hr)).1
      | plugin | selector | metaData | appAuth => exact trivial
  | put group raw =>
      rw [apply] at hafter
      rw [ruleNotes]
      cases hparse : Item.parse group raw with
      | error f => exact trivial
      | ok item =>
          rw [hparse] at hafter
          cases item with
          | rule r =>
              show Faithful stage (if r.id = id then _ else _)
              split
              · next hid =>
                  have hget := Index.get?_insert c.rules r id
                  rw [if_pos (show id = Owned.id r from hid.symm)] at hget
                  exact ⟨Or.inl (hafter r hget).1, trivial⟩
              · exact trivial
          | descriptor _ | selector _ | service _ | credential _ => exact trivial
  | delete group key =>
      cases group with
      | rule =>
          rw [ruleNotes]
          split
          · exact hbefore.leaving
          · exact trivial
      | selector => exact hbefore.leavingWith key
      | plugin | metaData | appAuth => exact trivial

theorem faithful_ruleHistory {es : List Event}
    (h : ∀ before after, es = before ++ after → Belongs stage id (follow c before)) :
    Faithful stage (ruleHistory id c es) := by
  induction es generalizing c with
  | nil => exact trivial
  | cons e es ih =>
      refine (faithful_ruleNotes (h [] _ rfl) (h [e] es rfl)).append (ih fun before after heq => ?_)
      exact h (e :: before) after (congrArg _ heq)

/-- Where everything is told to one stage, that stage does not wait. -/
theorem Faithful.not_orphaned {listening : List String} {ns : List RuleNote}
    (h : Faithful stage ns) (hstage : stage ∈ listening) : ¬ Orphaned listening ns := by
  rintro ⟨⟨other, -, before, after, rfl, hlater, hgone⟩, told, hlast⟩
  obtain ⟨hwritten, hafter⟩ := h.of_append
  obtain rfl : other = stage := Option.some.inj (hwritten.resolve_right (hlater stage hstage))
  -- what comes last is an end, and it comes after the writing
  obtain ⟨front, heq⟩ := List.getLast?_eq_some_iff.1 hlast
  obtain rfl : told = some other := by
    rw [heq] at h
    exact h.of_append.1
  cases after with
  | nil => simp at hlast
  | cons n after =>
      rw [List.getLast?_append, List.getLast?_cons_cons] at hlast
      refine hgone (List.mem_of_getLast? ?_)
      simpa using hlast

/-- A rule that is of one stage as long as it is there is taken back from that stage. -/
theorem dismissed_of_steady {listening : List String} {es : List Event}
    (hstage : stage ∈ listening)
    (h : ∀ before after, es = before ++ after → Belongs stage id (follow .empty before))
    (hgone : (follow .empty es).rules.get? id = none) : Dismissed (deliveries listening id es) :=
  dismissed_of_not_orphaned ((faithful_ruleHistory h).not_orphaned hstage) hgone

end Feed

end Gatehouse
