import Gatehouse.Proofs.Catalog.Edits

/-!
# Deletions

A deletion names a group and a key, and it is answered by whether there was anything to delete
(`Catalog.holds`). In four of the groups a key names one entry at most:

    held      one entry is gone, the group is smaller by one
    not held  the catalogue is as it was

A selector takes its rules along. A service is named by its path and by its id, so in that group a
key may be `Ambiguous`: services at two paths have it for an id, or one has it for its path and
another one for its id. All of them are gone then.

**Deletions take one entry, exactly if the key is not an ambiguous name of services**
(`takes_one_iff`), in any catalogue that edits have made. The sizes are counted in tables, where an
entry that is taken away is one less (`Table.size_erase`).
-/

namespace Gatehouse

/-! ## Tables with an entry less -/

namespace Table

variable {t : Table α} {k q : String} {v w : α}

theorem size_erase (h : t.get? k = some v) : (t.erase k).size + 1 = t.size := by
  have hkeys : t.size = (k :: (t.erase k).keys).length := by
    apply size_eq_length
    · apply List.nodup_cons.2
      refine ⟨?_, (t.erase k).nodup_keys⟩
      intro hmem
      obtain ⟨w, hw⟩ := mem_keys_iff.1 hmem
      simp [get?_erase] at hw
    · intro r
      rw [List.mem_cons, mem_keys_iff, get?_erase]
      by_cases hr : r = k
      · simp [hr, h]
      · simp [hr]
  rw [hkeys, List.length_cons, keys, List.length_map, size]

theorem contains_eq_true_iff : t.contains k = true ↔ ∃ v, t.get? k = some v :=
  Option.isSome_iff_exists

theorem contains_eq_false_iff : t.contains k = false ↔ t.get? k = none := by
  rw [contains, Option.isSome_eq_false_iff, Option.isNone_iff_eq_none]

theorem erase_of_get?_eq_none (h : t.get? k = none) : t.erase k = t := by
  apply ext
  intro r
  rw [get?_erase]
  split
  · next hr => rw [hr, h]
  · rfl

/-- A filter that only one entry does not pass takes that one away. -/
theorem filter_eq_erase {p : String → α → Bool} (h : t.get? k = some v) (hv : p k v = false)
    (hothers : ∀ r w, t.get? r = some w → p r w = false → r = k) : t.filter p = t.erase k := by
  apply ext
  intro r
  rw [get?_filter, get?_erase]
  by_cases hr : r = k
  · subst hr
    simp [h, hv]
  · rw [if_neg hr]
    cases hget : t.get? r with
    | none => rfl
    | some w =>
        cases hp : p r w with
        | true => exact Option.filter_some_pos hp
        | false => exact absurd (hothers r w hget hp) hr

/-- A filter that all entries pass changes nothing. -/
theorem filter_eq_self {p : String → α → Bool} (h : ∀ r w, t.get? r = some w → p r w = true) :
    t.filter p = t := by
  apply ext
  intro r
  rw [get?_filter]
  cases hget : t.get? r with
  | none => rfl
  | some w => exact Option.filter_some_pos (h r w hget)

/-- A filter that two entries do not pass leaves two less, or fewer still. -/
theorem size_filter_add_two_le {p : String → α → Bool} (h : t.get? k = some v)
    (h' : t.get? q = some w) (hne : k ≠ q) (hv : p k v = false) (hw : p q w = false) :
    (t.filter p).size + 2 ≤ t.size := by
  have hfilter : t.filter p = ((t.erase k).erase q).filter p := by
    apply ext
    intro r
    simp only [get?_filter, get?_erase]
    by_cases hq : r = q
    · simp [hq, h', hw]
    · by_cases hk : r = k
      · simp [hk, h, hv]
      · simp [hq, hk]
  have hk : (t.erase k).size + 1 = t.size := size_erase h
  have hq : ((t.erase k).erase q).size + 1 = (t.erase k).size := by
    apply size_erase (v := w)
    rw [get?_erase, if_neg (Ne.symm hne), h']
  have hle : (((t.erase k).erase q).filter p).size ≤ ((t.erase k).erase q).size :=
    List.length_filter_le _ _
  rw [hfilter]
  omega

end Table

namespace Catalog

/-! ## What a deletion should do -/

/-- Two catalogues have the same of a group. -/
def SameIn (group : Group) (c d : Catalog) : Prop :=
  match group with
  | .plugin => c.descriptors = d.descriptors
  | .selector => c.selectors = d.selectors
  | .rule => c.rules = d.rules
  | .metaData => c.services = d.services
  | .appAuth => c.credentials = d.credentials

/-- Of a group one entry is gone and nothing else. -/
structure OneGone (group : Group) (c d : Catalog) : Prop where
  size : d.size group + 1 = c.size group
  gone : ∃ key, c.get? group key ≠ none ∧ d.get? group key = none ∧
    ∀ other, other ≠ key → d.get? group other = c.get? group other

/-- Of the rules those of a selector are gone and nothing else. -/
structure RulesGone (selectorId : String) (c d : Catalog) : Prop where
  get : ∀ id r, d.rules.get? id = some r ↔ c.rules.get? id = some r ∧ r.selectorId ≠ selectorId
  under : ∀ other, d.rules.under other = if other = selectorId then [] else c.rules.under other

/-- A deletion takes one entry of its group away, if there is one, and no entry of any other group
but the rules of a selector. -/
structure TakesOne (c : Catalog) (group : Group) (key : String) : Prop where
  held : c.holds group key = true → OneGone group c (c.delete group key)
  missing : c.holds group key = false → c.delete group key = c
  others : ∀ other, other ≠ group → ¬ (group = .selector ∧ other = .rule) →
    SameIn other c (c.delete group key)
  rules : group = .selector → c.holds .selector key = true → RulesGone key c (c.delete group key)

/-- A key is the id of services at two paths, or it is the path of one service and the id of
another. -/
def Ambiguous (c : Catalog) (key : String) : Prop :=
  (∃ p q s t, p ≠ q ∧ c.services.get? p = some s ∧ c.services.get? q = some t ∧
    s.id = key ∧ t.id = key) ∨
  ∃ q s t, q ≠ key ∧ c.services.get? key = some s ∧ c.services.get? q = some t ∧ t.id = key

/-! ## What it does -/

variable {c : Catalog} {L : Ledgers} {key : String}

/-- A group that is kept in a table has one entry less when the table has. -/
theorem oneGone_of_erase {group : Group} {d : Catalog} {t u : Table α} {item : α → Item} {v : α}
    (hc : ∀ k, c.get? group k = (t.get? k).map item) (hcsize : c.size group = t.size)
    (hd : ∀ k, d.get? group k = (u.get? k).map item) (hdsize : d.size group = u.size)
    (hu : u = t.erase key) (h : t.get? key = some v) : OneGone group c d where
  size := by
    rw [hcsize, hdsize, hu, Table.size_erase h]
  gone := by
    refine ⟨key, ?_, ?_, ?_⟩
    · simp [hc, h]
    · simp [hd, hu, Table.get?_erase]
    · intro other hother
      rw [hc, hd, hu, Table.get?_erase, if_neg hother]

theorem byId_erase [Owned α] (ix : Index α) (id : String) :
    (ix.erase id).byId = ix.byId.erase id := by
  apply Table.ext
  intro k
  rw [Table.get?_erase]
  exact ix.get?_erase id k

/-- Nothing is lost by erasing what is not there. -/
theorem erase_of_missing [Owned α] {ix : Index α} {id : String} (h : ix.get? id = none) :
    ix.erase id = ix := by
  rw [Index.erase, h]

/-- Services are held by path, and yet a deletion may name them by either of two keys. -/
theorem holds_metaData : c.holds .metaData key = true ↔
    ∃ p s, c.services.get? p = some s ∧ namesService key p s = true := by
  simp [holds, List.any_eq_true, Table.get?_eq_some_iff]

/-- **A selector** takes its rules along. -/
theorem Keeps.rulesGone (h : Keeps c L) (hheld : c.holds .selector key = true) :
    RulesGone key c (c.delete .selector key) := by
  have hrules : (c.delete .selector key).rules = c.rules.eraseOwner key := if_pos hheld
  constructor
  · intro id r
    rw [hrules, h.rules.get?_eraseOwner, Option.filter_eq_some_iff, bne_iff_ne]
    exact Iff.rfl
  · intro other
    rw [hrules, Index.under, Index.eraseOwner, Table.get?_erase]
    split <;> rfl

/-- What is said of the other groups holds of any catalogue. -/
theorem sameIn_delete (c : Catalog) {group other : Group} (key : String) (hne : other ≠ group)
    (hrules : ¬ (group = .selector ∧ other = .rule)) : SameIn other c (c.delete group key) := by
  cases group with
  | plugin =>
      cases other with
      | plugin => exact absurd rfl hne
      | selector | rule | metaData | appAuth => rfl
  | selector =>
      cases other with
      | selector => exact absurd rfl hne
      | rule => exact absurd ⟨rfl, rfl⟩ hrules
      | plugin | metaData | appAuth => rfl
  | rule =>
      cases other with
      | rule => exact absurd rfl hne
      | plugin | selector | metaData | appAuth => rfl
  | metaData =>
      cases other with
      | metaData => exact absurd rfl hne
      | plugin | selector | rule | appAuth => rfl
  | appAuth =>
      cases other with
      | appAuth => exact absurd rfl hne
      | plugin | selector | rule | metaData => rfl

/-! ### Entries of one key -/

/-- In any group but that of the services a deletion takes exactly one entry. -/
theorem oneGone_delete {group : Group} (hgroup : group ≠ .metaData)
    (h : c.holds group key = true) : OneGone group c (c.delete group key) := by
  cases group with
  | plugin =>
      obtain ⟨v, hv⟩ := Table.contains_eq_true_iff.1 h
      exact oneGone_of_erase (fun _ => rfl) rfl (fun _ => rfl) rfl rfl hv
  | selector =>
      obtain ⟨v, hv⟩ := (Table.contains_eq_true_iff (t := c.selectors.byId)).1 h
      exact oneGone_of_erase (fun _ => rfl) rfl (fun _ => rfl) rfl (byId_erase c.selectors key) hv
  | rule =>
      obtain ⟨v, hv⟩ := (Table.contains_eq_true_iff (t := c.rules.byId)).1 h
      exact oneGone_of_erase (fun _ => rfl) rfl (fun _ => rfl) rfl (byId_erase c.rules key) hv
  | appAuth =>
      obtain ⟨v, hv⟩ := Table.contains_eq_true_iff.1 h
      exact oneGone_of_erase (fun _ => rfl) rfl (fun _ => rfl) rfl rfl hv
  | metaData => exact absurd rfl hgroup

/-- A deletion that names nothing changes nothing. -/
theorem delete_of_missing {group : Group} (h : c.holds group key = false) :
    c.delete group key = c := by
  cases group with
  | plugin =>
      have hsame := Table.erase_of_get?_eq_none (Table.contains_eq_false_iff.1 h)
      rw [delete, hsame]
  | selector =>
      have hnone : c.selectors.get? key = none := Table.contains_eq_false_iff.1 h
      have hrules : (if c.holds .selector key then c.rules.eraseOwner key else c.rules) = c.rules :=
        if_neg (by simp [h])
      rw [delete, erase_of_missing hnone, hrules]
  | rule =>
      have hnone : c.rules.get? key = none := Table.contains_eq_false_iff.1 h
      rw [delete, erase_of_missing hnone]
  | appAuth =>
      have hsame := Table.erase_of_get?_eq_none (Table.contains_eq_false_iff.1 h)
      rw [delete, hsame]
  | metaData =>
      have hsame : (c.services.filter fun path s => !namesService key path s) = c.services := by
        apply Table.filter_eq_self
        intro p s hs
        cases hnames : namesService key p s with
        | false => rfl
        | true => simp [holds_metaData.2 ⟨p, s, hs, hnames⟩] at h
      rw [delete, hsame]

/-! ### Services -/

/-- An ambiguous key names services at two paths. -/
theorem ambiguous_iff : Ambiguous c key ↔
    ∃ p q s t, p ≠ q ∧ c.services.get? p = some s ∧ c.services.get? q = some t ∧
      namesService key p s = true ∧ namesService key q t = true := by
  constructor
  · intro h
    rcases h with ⟨p, q, s, t, hne, hs, ht, hp, hq⟩ | ⟨q, s, t, hne, hs, ht, hq⟩
    · exact ⟨p, q, s, t, hne, hs, ht, by simp [namesService, hp], by simp [namesService, hq]⟩
    · exact ⟨key, q, s, t, Ne.symm hne, hs, ht, by simp [namesService], by simp [namesService, hq]⟩
  · intro h
    obtain ⟨p, q, s, t, hne, hs, ht, hp, hq⟩ := h
    simp only [namesService, Bool.or_eq_true, beq_iff_eq] at hp hq
    by_cases hpath : p = key
    · subst hpath
      exact Or.inr ⟨q, s, t, Ne.symm hne, hs, ht, hq.resolve_left (Ne.symm hne)⟩
    · by_cases hpath' : q = key
      · subst hpath'
        exact Or.inr ⟨p, t, s, hpath, ht, hs, hp.resolve_left hpath⟩
      · exact Or.inl ⟨p, q, s, t, hne, hs, ht, hp.resolve_left hpath, hq.resolve_left hpath'⟩

/-- The one service that is named is gone. -/
theorem oneGone_service (hheld : c.holds .metaData key = true) (h : ¬ Ambiguous c key) :
    OneGone .metaData c (c.delete .metaData key) := by
  obtain ⟨p, s, hs, hnames⟩ := holds_metaData.1 hheld
  have hsame : (c.services.filter fun path s => !namesService key path s) = c.services.erase p := by
    apply Table.filter_eq_erase hs
    · simp [hnames]
    · intro q t ht hnamed
      apply Classical.byContradiction
      intro hne
      exact h (ambiguous_iff.2 ⟨q, p, t, s, hne, ht, hs, by simpa using hnamed, hnames⟩)
  exact oneGone_of_erase (fun _ => rfl) rfl (fun _ => rfl) rfl hsame hs

/-- Two services that are named are too many. -/
theorem not_oneGone_of_ambiguous (h : Ambiguous c key) :
    ¬ OneGone .metaData c (c.delete .metaData key) := by
  obtain ⟨p, q, s, t, hne, hs, ht, hp, hq⟩ := ambiguous_iff.1 h
  intro hgone
  have hless := Table.size_filter_add_two_le (p := fun path s => !namesService key path s) hs ht hne
    (by simp [hp]) (by simp [hq])
  have hone : (c.services.filter fun path s => !namesService key path s).size + 1 =
      c.services.size := hgone.size
  omega

/-! ## Deletions from catalogues made by edits -/

/-- **Deletions** take one entry of their group away, or nothing if it does not hold the key, exactly
if the key is not an ambiguous name of services. -/
theorem takes_one_iff (edits : List Edit) (group : Group) (key : String) :
    TakesOne (empty.editAll edits) group key ↔
      ¬ (group = .metaData ∧ Ambiguous (empty.editAll edits) key) := by
  constructor
  · intro htakes hambiguous
    obtain ⟨rfl, hkey⟩ := hambiguous
    have hheld : (empty.editAll edits).holds .metaData key = true := by
      obtain ⟨p, -, s, -, -, hs, -, hp, -⟩ := ambiguous_iff.1 hkey
      exact holds_metaData.2 ⟨p, s, hs, hp⟩
    exact not_oneGone_of_ambiguous hkey (htakes.held hheld)
  · intro hplain
    refine ⟨?_, delete_of_missing, ?_, ?_⟩
    · intro hheld
      by_cases hgroup : group = .metaData
      · subst hgroup
        exact oneGone_service hheld fun hkey => hplain ⟨rfl, hkey⟩
      · exact oneGone_delete hgroup hheld
    · intro other hne hrules
      exact sameIn_delete _ key hne hrules
    · intro hselector hheld
      subst hselector
      exact (keeps_empty.editAll edits).rulesGone hheld

/-- Services of which one has the other one's id for its path. -/
def crossedNames : List Edit :=
  [.put (.service ⟨"m1", "", none, "/a", "dubbo", "", "", true⟩),
    .put (.service ⟨"m2", "", none, "m1", "dubbo", "", "", true⟩)]

/-- Both services go with the one name. -/
theorem not_takes_one : ¬ ∀ (edits : List Edit) (group : Group) (key : String),
    TakesOne (empty.editAll edits) group key := by
  intro hall
  have hsize := ((hall crossedNames .metaData "m1").held (by decide)).size
  exact absurd hsize (by decide)

end Catalog

end Gatehouse
