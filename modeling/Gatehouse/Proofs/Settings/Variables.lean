import Gatehouse.Proofs.Text.Ascii
import Gatehouse.Settings.Environment

/-!
# The variables of settings

A key of two segments or more is set by the variable that has its segments in capitals, with a
double underscore between any two of them:

    gateway.http_client.timeout_ms  ──▶  VIREO_ GATEWAY__HTTP_CLIENT__TIMEOUT_MS

Single underscores belong to the segments. The double ones are where the segments were joined, as
long as no segment has one itself or ends in an underscore (`splitDouble_intercalate`), so **the
name is read as the key again**, different keys have different names, and of the settings in the
environment that one alone is set (`stored_under_key`).
-/

namespace Gatehouse.Settings.Environment

variable {s rest part : List Char} {parts segments : List (List Char)} {c : Char}

/-! ## Joined segments -/

theorem mem_intercalate {sep : List Char} (h : c ∈ sep.intercalate segments) :
    c ∈ sep ∨ ∃ s ∈ segments, c ∈ s := by
  induction segments with
  | nil => cases h
  | cons s segments ih =>
      cases segments with
      | nil =>
          rw [List.intercalate_singleton] at h
          exact Or.inr ⟨s, List.mem_cons_self, h⟩
      | cons s' segments =>
          rw [List.intercalate_cons_cons, List.append_assoc, List.mem_append, List.mem_append] at h
          rcases h with hs | hsep | hrest
          · exact Or.inr ⟨s, List.mem_cons_self, hs⟩
          · exact Or.inl hsep
          · refine (ih hrest).imp_right ?_
            rintro ⟨t, ht, hc⟩
            exact ⟨t, List.mem_cons_of_mem s ht, hc⟩

theorem map_intercalate (f : Char → Char) (sep : List Char) (segments : List (List Char)) :
    (sep.intercalate segments).map f = (sep.map f).intercalate (segments.map (·.map f)) := by
  induction segments with
  | nil => rfl
  | cons s segments ih =>
      cases segments with
      | nil => simp
      | cons s' segments =>
          rw [List.intercalate_cons_cons, List.map_append, List.map_append, ih]
          exact List.intercalate_cons_cons.symm

/-! ## Splitting -/

theorem single_cons_iff : ¬ ['_', '_'] <:+: c :: s ↔
    (c = '_' → s.head? ≠ some '_') ∧ ¬ ['_', '_'] <:+: s := by
  rw [List.infix_cons_iff, not_or]
  refine and_congr_left' ?_
  cases s with
  | nil => simp
  | cons d s => simp [List.cons_prefix_cons, eq_comm]

/-- A character belongs to the first part, unless a double underscore starts with it. -/
theorem splitDouble_cons (hc : c = '_' → rest.head? ≠ some '_')
    (h : splitDouble rest = part :: parts) : splitDouble (c :: rest) = (c :: part) :: parts := by
  rw [splitDouble, h]
  rintro r rfl rfl
  exact hc rfl rfl

/-- Without a double underscore there is one part only. -/
theorem splitDouble_of_single (h : ¬ ['_', '_'] <:+: s) : splitDouble s = [s] := by
  induction s with
  | nil => rfl
  | cons c s ih =>
      obtain ⟨hc, hs⟩ := single_cons_iff.1 h
      exact splitDouble_cons hc (ih hs)

/-- A text without double underscores that does not end in an underscore is a part of its own in
front of one. -/
theorem splitDouble_append (h : ¬ ['_', '_'] <:+: s) (hlast : s.getLast? ≠ some '_')
    (rest : List Char) : splitDouble (s ++ '_' :: '_' :: rest) = s :: splitDouble rest := by
  induction s with
  | nil => rw [List.nil_append, splitDouble]
  | cons c s ih =>
      obtain ⟨hc, hs⟩ := single_cons_iff.1 h
      cases s with
      | nil =>
          have hne : c ≠ '_' := by
            rintro rfl
            exact hlast rfl
          exact splitDouble_cons (fun heq => absurd heq hne) (ih hs (by simp))
      | cons d s =>
          rw [List.getLast?_cons_cons] at hlast
          exact splitDouble_cons hc (ih hs hlast)

/-- A name that can be a segment of a key: ASCII characters, no capitals or points among them, and
after each underscore another character. -/
structure IsSegment (s : List Char) : Prop where
  plain : ∀ c ∈ s, (c.toNat < 0x80 ∧ c.isUpper = false) ∧ c ≠ '.'
  single : ¬ ['_', '_'] <:+: s
  last : s.getLast? ≠ some '_'

instance (s : List Char) : Decidable (IsSegment s) :=
  -- `List.all`, for a quantifier over characters is decided by trying all of them
  decidable_of_iff ((s.all fun c => (c.toNat < 0x80 && !c.isUpper) && c != '.') = true ∧
      Text.occursIn ['_', '_'] s = false ∧ s.getLast? ≠ some '_') <| by
    rw [Bool.eq_false_iff, Ne, Text.occursIn_iff, List.all_eq_true]
    simp only [Bool.and_eq_true, decide_eq_true_eq, Bool.not_eq_true', bne_iff_ne]
    exact ⟨fun ⟨hplain, hsingle, hlast⟩ => ⟨hplain, hsingle, hlast⟩,
      fun h => ⟨h.plain, h.single, h.last⟩⟩

/-- **Joined segments** are told apart again. -/
theorem splitDouble_intercalate (hne : segments ≠ []) (h : ∀ s ∈ segments, IsSegment s) :
    splitDouble (['_', '_'].intercalate segments) = segments := by
  induction segments with
  | nil => exact absurd rfl hne
  | cons s segments ih =>
      obtain ⟨hs, hsegments⟩ := List.forall_mem_cons.1 h
      cases segments with
      | nil => rw [List.intercalate_singleton, splitDouble_of_single hs.single]
      | cons s' segments =>
          have hrest := ih (List.cons_ne_nil s' segments) hsegments
          rw [List.intercalate_cons_cons, List.append_assoc, List.cons_append,
            List.singleton_append, splitDouble_append hs.single hs.last, hrest]

/-! ## Keys and variables -/

/-- A key of several segments. -/
structure Key where
  segments : List (List Char)
  several : 2 ≤ segments.length
  isSegment : ∀ s ∈ segments, IsSegment s

namespace Key

def text (k : Key) : String := String.ofList (['.'].intercalate k.segments)

/-- The rest of the name of the variable that sets a key: the segments in capitals. -/
def capitals (k : Key) : List Char :=
  ['_', '_'].intercalate (k.segments.map (·.map Char.toUpper))

def varName (lead : String) (k : Key) : String := lead ++ String.ofList k.capitals

variable {k k' : Key}

theorem segments_ne_nil (k : Key) : k.segments ≠ [] := by
  intro hnil
  have hlength := k.several
  rw [hnil] at hlength
  exact absurd hlength (by decide)

/-- Different keys have different texts. -/
theorem text_injective : Function.Injective text := by
  intro k k' h
  have hsplit : ∀ k : Key, (['.'].intercalate k.segments).splitOn '.' = k.segments := fun k =>
    List.splitOn_intercalate '.' (fun s hs hc => ((k.isSegment s hs).plain '.' hc).2 rfl)
      k.segments_ne_nil
  have hsegments : k.segments = k'.segments := by
    rw [← hsplit k, ← hsplit k', String.ofList_inj.1 h]
  cases k
  cases k'
  cases hsegments
  rfl

/-- The rest of the name in lower case. -/
theorem lower_capitals (k : Key) : Unicode.lower (String.ofList k.capitals) =
    String.ofList (['_', '_'].intercalate k.segments) := by
  have hplain : ∀ c ∈ ['_', '_'].intercalate k.segments, c.toNat < 0x80 ∧ c.isUpper = false := by
    intro c hc
    rcases mem_intercalate hc with hsep | ⟨s, hs, hc⟩
    · simp only [List.mem_cons, List.not_mem_nil, or_self, or_false] at hsep
      subst hsep
      decide
    · exact ((k.isSegment s hs).plain c hc).1
  have hcapitals : k.capitals = (['_', '_'].intercalate k.segments).map Char.toUpper := by
    rw [map_intercalate]
    rfl
  have hascii : Text.IsAscii (String.ofList k.capitals) := by
    intro c hc
    rw [String.toList_ofList, hcapitals, List.mem_map] at hc
    obtain ⟨d, hd, rfl⟩ := hc
    exact Text.toNat_toUpper_lt (hplain d hd).1
  rw [Unicode.lower_of_ascii hascii, Text.lowerAscii, String.toList_ofList, hcapitals,
    Text.map_toLower_toUpper hplain]

/-- A variable named for a key is read as the key. -/
theorem keyOf_capitals (k : Key) : keyOf (String.ofList k.capitals) = k.text := by
  have hdouble : Text.occursIn ['_', '_'] (['_', '_'].intercalate k.segments) = true := by
    rw [Text.occursIn_iff]
    obtain ⟨segments, hseveral, -⟩ := k
    match segments, hseveral with
    | s :: s' :: segments, _ =>
        rw [List.intercalate_cons_cons]
        exact ⟨s, _, rfl⟩
  rw [keyOf, lower_capitals, String.toList_ofList, dotted, if_pos hdouble,
    splitDouble_intercalate k.segments_ne_nil k.isSegment, text]

/-- **The name** of the variable is read as the key. -/
theorem key?_varName (lead : String) (k : Key) : key? lead (k.varName lead) = some k.text := by
  have hafter : Text.after? lead.toList (k.varName lead).toList = some k.capitals := by
    rw [Text.after?_eq_some_iff, varName, String.toList_append, String.toList_ofList]
  rw [key?, hafter, Option.map_some, keyOf_capitals]

end Key

/-! ## What is stored -/

def settingsOf (lead : String) (vars : List (String × String)) : List (String × String) :=
  vars.filterMap fun v => (key? lead v.1).map fun key => (key, v.2)

/-- Of several variables for a key the last one counts. -/
theorem get?_texts (lead : String) (vars : List (String × String)) (key : String) :
    (texts lead vars).get? key = (settingsOf lead vars).reverse.lookup key :=
  Table.get?_ofList _ key

theorem lookup_settingsOf_eq_none {lead key : String} {vars : List (String × String)}
    (h : ∀ v ∈ vars, key? lead v.1 ≠ some key) :
    (settingsOf lead vars).reverse.lookup key = none := by
  rw [List.lookup_eq_none_iff]
  intro e he
  rw [List.mem_reverse, settingsOf, List.mem_filterMap] at he
  obtain ⟨v, hv, hkey⟩ := he
  obtain ⟨key', hkey', rfl⟩ := Option.map_eq_some_iff.1 hkey
  rw [bne_iff_ne]
  rintro rfl
  exact h v hv hkey'

/-- **The variables of settings.** The name of the variable is read as the key, that of another key
is another name and read as another key, and in any environment in which no later variable sets the
same key the text of the variable is stored under the key, and everything else is stored as it would
be without it. -/
theorem stored_under_key (lead : String) (k : Key) :
    key? lead (k.varName lead) = some k.text ∧
      (∀ k' : Key, k' ≠ k → k'.varName lead ≠ k.varName lead ∧ k'.text ≠ k.text) ∧
      ∀ (text : String) (before after : List (String × String)),
        (∀ v ∈ after, key? lead v.1 ≠ some k.text) →
        texts lead (before ++ (k.varName lead, text) :: after) =
          (texts lead (before ++ after)).insert k.text text := by
  have hname : ∀ k : Key, key? lead (k.varName lead) = some k.text := Key.key?_varName lead
  refine ⟨hname k, fun k' hk => ?_, fun text before after hafter => ?_⟩
  · have htext : k'.text ≠ k.text := fun h => hk (Key.text_injective h)
    refine ⟨fun h => htext ?_, htext⟩
    exact Option.some.inj ((hname k').symm.trans ((congrArg (key? lead) h).trans (hname k)))
  · have hnone := lookup_settingsOf_eq_none hafter
    apply Table.ext
    intro q
    have hsettings : settingsOf lead (before ++ (k.varName lead, text) :: after) =
        settingsOf lead before ++ (k.text, text) :: settingsOf lead after := by
      simp [settingsOf, hname k]
    have hothers : settingsOf lead (before ++ after) =
        settingsOf lead before ++ settingsOf lead after := List.filterMap_append
    rw [Table.get?_insert, get?_texts, get?_texts, hsettings, hothers, List.reverse_append,
      List.reverse_append, List.reverse_cons, List.append_assoc, List.singleton_append,
      List.lookup_append, List.lookup_append, List.lookup_cons]
    by_cases hq : q = k.text
    · simp [hq, hnone]
    · simp [hq, beq_eq_false_iff_ne.2 hq]

/-- The key of the timeout of outgoing calls. -/
def timeoutKey : Key where
  segments := ["gateway".toList, "http_client".toList, "timeout_ms".toList]
  several := by decide
  isSegment := by decide +kernel

/-- The key of the number of retries. -/
def retryKey : Key where
  segments := ["gateway".toList, "http_client".toList, "retry".toList]
  several := by decide
  isSegment := by decide +kernel

/-- Each of two variables sets its own key. -/
theorem stored_under_key_timeout :
    let name := "VIREO_GATEWAY__HTTP_CLIENT__TIMEOUT_MS"
    let other := ("VIREO_GATEWAY__HTTP_CLIENT__RETRY", "2")
    key? "VIREO_" name = some "gateway.http_client.timeout_ms" ∧
      (retryKey ≠ timeoutKey ∧ retryKey.varName "VIREO_" ≠ name) ∧
      (∀ v ∈ [other], key? "VIREO_" v.1 ≠ some "gateway.http_client.timeout_ms") ∧
      texts "VIREO_" [(name, "5000"), other] =
        (texts "VIREO_" [other]).insert "gateway.http_client.timeout_ms" "5000" := by
  intro name other
  have hname : timeoutKey.varName "VIREO_" = name := by decide +kernel
  have htext : timeoutKey.text = "gateway.http_client.timeout_ms" := by decide +kernel
  have hother : retryKey ≠ timeoutKey := by
    intro h
    have hlast := congrArg (fun k : Key => k.segments.getLast?) h
    revert hlast
    decide +kernel
  have hafter : ∀ v ∈ [other], key? "VIREO_" v.1 ≠ some timeoutKey.text := by decide +kernel
  obtain ⟨hkey, hdiffer, hstored⟩ := stored_under_key "VIREO_" timeoutKey
  have hnames := (hdiffer retryKey hother).1
  have htexts := hstored "5000" [] [other] hafter
  rw [hname, htext] at hkey htexts
  rw [hname] at hnames
  rw [htext] at hafter
  exact ⟨hkey, ⟨hother, hnames⟩, hafter, htexts⟩

end Gatehouse.Settings.Environment
