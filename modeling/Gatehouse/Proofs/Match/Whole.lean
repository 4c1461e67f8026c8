import Gatehouse.Match.Operator
import Gatehouse.Proofs.Regex.Readings
import Gatehouse.Proofs.Regex.Ways

/-!
# Matching whole texts

The expression of a `regex` condition is put between the ends of the text as it is written:
`^(?:` before it and `)$` behind it. What stands there is the expression itself, in a group of its
own, unless the text closes that group early (`closesEarly`). A closing parenthesis that opens
nothing is no expression, so alone such a text can match nothing; between the ends it may: the parts
of `/api)|(/admin` are only bound to one end each.

Other texts match as a whole or not at all (`matches_whole_iff`). An expression that could be used
alone cannot be used if a comment at its end swallows the closing, or if there is no room around it.
-/

namespace Gatehouse

namespace Regex

/-- A closing parenthesis is left over, which closes a group around the text. -/
def closesEarly (text : String) : Bool :=
  (reading text.toList).any fun (_, t) => t.rest.head? == some ')'

theorem closesEarly_eq {text : String} {e : Regex × Nat} {t : Reader.State}
    (h : reading text.toList = some (e, t)) : closesEarly text = (t.rest.head? == some ')') := by
  rw [closesEarly, h]
  rfl

/-- The text ends in a comment, which a closing parenthesis behind it becomes part of. -/
def endsInComment (text : String) : Bool := (read? (text ++ ")")).isSome

/-- A group and the ends of the text fit around an expression. -/
def hasRoom (text : String) : Bool := (reading text.toList).any fun ((r, depth), _) =>
  depth + 2 ≤ Reader.maxDepth && r.weight + 64 ≤ maxWeight

end Regex

namespace Match

variable {value : String} {r : Regex} {names : List (String × Nat)}

theorem toList_anchored (value : String) : (Operator.anchored value).toList =
    '^' :: '(' :: '?' :: ':' :: (value.toList ++ [')', '$']) := by
  simp [Operator.anchored, String.toList_append]

theorem toList_closed (value : String) : (value ++ ")").toList = value.toList ++ [')'] := by
  simp [String.toList_append]

/-- What is read alone is read between the ends of the text, where it fits. -/
theorem read?_anchored (h : Regex.read? value = some (r, names))
    (hcomment : Regex.endsInComment value = false) (hroom : Regex.hasRoom value = true) :
    Regex.read? (Operator.anchored value) =
      some (.seq (.seq (.place .textStart) r) (.place .textEnd), names) := by
  obtain ⟨depth, t, ht, hrest, hdepth, hweight, rfl⟩ := Regex.read?_eq_some_iff.1 h
  have hbehind : Regex.reading (value.toList ++ [')', '$']) =
      some ((r, depth), t.behind [')', '$']) := by
    rcases Regex.reading_behind ht with hbehind | ⟨-, hlost⟩
    · exact hbehind _ (Or.inr rfl)
    · have hread : Regex.read? (value ++ ")") = some (r, t.names) := Regex.read?_eq_some_iff.2
        ⟨depth, t, toList_closed value ▸ hlost _ (Or.inl rfl), hrest, hdepth, hweight, rfl⟩
      rw [Regex.endsInComment, hread] at hcomment
      cases hcomment
  rw [Regex.hasRoom, ht, Option.any_some, Bool.and_eq_true, decide_eq_true_eq,
    decide_eq_true_eq] at hroom
  refine Regex.read?_eq_some_iff.2 ⟨depth + 2, { t with flags := .default }, ?_, hrest, hroom.1,
    Nat.le_trans (Nat.le_of_eq (Regex.weight_anchored r)) hroom.2, rfl⟩
  have hlength : 2 * (value.toList ++ [')', '$']).length < 2 * value.toList.length + 12 := by
    simp
    omega
  rw [toList_anchored, Regex.reading_anchored]
  exact Regex.readGroup_anchored ((Regex.reading_fuel hlength).trans hbehind) hrest

/-- An expression that ends in a comment or has no room left cannot be put between the marks. -/
theorem read?_anchored_eq_none (h : Regex.read? value = some (r, names))
    (hunfit : Regex.endsInComment value = true ∨ Regex.hasRoom value = false) :
    Regex.read? (Operator.anchored value) = none := by
  obtain ⟨depth, t, ht, hrest, hdepth, hweight, rfl⟩ := Regex.read?_eq_some_iff.1 h
  refine Option.eq_none_iff_forall_ne_some.2 fun (r', names') h' => ?_
  obtain ⟨depth', t', ht', -, hdepth', hweight', -⟩ := Regex.read?_eq_some_iff.1 h'
  rw [toList_anchored] at ht'
  obtain ⟨r₁, depth₁, t₁, ht₁, hfit⟩ := Regex.reading_of_anchored ht'
  obtain ⟨⟨rfl, rfl⟩, rfl⟩ : (r = r₁ ∧ depth = depth₁) ∧ t = t₁ := by
    simpa using ht.symm.trans ht₁
  obtain ⟨hbehind, he, -⟩ := hfit hrest
  obtain ⟨rfl, rfl⟩ := Prod.mk.inj he
  rcases hunfit with hcomment | hroom
  · -- the closing is left over behind the text, so it is in no comment
    obtain ⟨⟨r₂, names₂⟩, h₂⟩ := Option.isSome_iff_exists.1 hcomment
    obtain ⟨depth₂, t₂, ht₂, hrest₂, -⟩ := Regex.read?_eq_some_iff.1 h₂
    rw [toList_closed, hbehind _ (Or.inl rfl)] at ht₂
    cases ht₂
    exact absurd hrest₂ (by simp)
  · rw [Regex.hasRoom, ht, Option.any_some, Bool.and_eq_false_iff, decide_eq_false_iff_not,
      decide_eq_false_iff_not] at hroom
    rw [Regex.weight_anchored] at hweight'
    omega

/-- A text that is no expression alone is none between the ends of the text, unless it closes the
group around it. -/
theorem read?_anchored_of_read?_eq_none (h : Regex.read? value = none)
    (hclose : Regex.closesEarly value = false) : Regex.read? (Operator.anchored value) = none := by
  refine Option.eq_none_iff_forall_ne_some.2 fun (r', names') h' => ?_
  obtain ⟨depth', t', ht', -, hdepth', hweight', -⟩ := Regex.read?_eq_some_iff.1 h'
  rw [toList_anchored] at ht'
  obtain ⟨r, depth, t, ht, hfit⟩ := Regex.reading_of_anchored ht'
  have hrest : t.rest = [] := by
    refine List.head?_eq_none_iff.1 ((Regex.reading_stops ht).resolve_right fun hhead => ?_)
    rw [Regex.closesEarly_eq ht, hhead] at hclose
    cases hclose
  obtain ⟨-, he, -⟩ := hfit hrest
  obtain ⟨rfl, rfl⟩ := Prod.mk.inj he
  rw [Regex.weight_anchored] at hweight'
  have hread : Regex.read? value = some (r, t.names) :=
    Regex.read?_eq_some_iff.2 ⟨depth, t, ht, hrest, by omega, by omega, rfl⟩
  rw [h] at hread
  cases hread

theorem closesEarly_of_read? (h : Regex.read? value = some (r, names)) :
    Regex.closesEarly value = false := by
  obtain ⟨depth, t, ht, hrest, -⟩ := Regex.read?_eq_some_iff.1 h
  rw [Regex.closesEarly_eq ht, hrest]
  rfl

theorem isMatch_regex (value text : String) : (Operator.compile "regex" value).isMatch text =
    match Regex.read? (Operator.anchored value) with
    | some (r, _) => r.isMatch text
    | none => false := by
  rw [Operator.compile]
  cases Regex.read? (Operator.anchored value) <;> rfl

/-- Otherwise the marked expression matches exactly the whole texts that the expression matches. -/
theorem isMatch_regex_iff (h : Regex.read? value = some (r, names))
    (hcomment : Regex.endsInComment value = false) (hroom : Regex.hasRoom value = true)
    (text : String) : (Operator.compile "regex" value).isMatch text = true ↔ r.Spells text := by
  rw [isMatch_regex, read?_anchored h hcomment hroom]
  exact Regex.isMatch_between_ends_iff

theorem isMatch_regex_unfit (h : Regex.read? value = some (r, names))
    (hunfit : Regex.endsInComment value = true ∨ Regex.hasRoom value = false) (text : String) :
    (Operator.compile "regex" value).isMatch text = false := by
  rw [isMatch_regex, read?_anchored_eq_none h hunfit]

example : (Operator.compile "regex" "(?x)a #c").isMatch "a" = false := by decide +kernel

/-- What cannot be read by itself cannot be read between the marks either, if nothing closes early.
-/
theorem isMatch_regex_invalid (h : Regex.read? value = none)
    (hclose : Regex.closesEarly value = false) (text : String) :
    (Operator.compile "regex" value).isMatch text = false := by
  rw [isMatch_regex, read?_anchored_of_read?_eq_none h hclose]

/-- **The texts that an expression matches are the whole texts in its language** exactly if

* its language is empty where it cannot be put between the ends of a text, and
* it matches nothing where it closes a group early, and so is none. -/
theorem matches_whole_iff (value : String) :
    (∀ text, (Operator.compile "regex" value).isMatch text = true ↔
        ∃ r names, Regex.read? value = some (r, names) ∧ r.Spells text) ↔
      (∀ r names, Regex.read? value = some (r, names) →
          Regex.endsInComment value = true ∨ Regex.hasRoom value = false →
          ∀ text, ¬ r.Spells text) ∧
        (Regex.closesEarly value = true →
          ∀ text, (Operator.compile "regex" value).isMatch text = false) := by
  cases hread : Regex.read? value with
  | none =>
      simp only [reduceCtorEq, false_and, exists_false, iff_false, Bool.not_eq_true,
        false_implies, implies_true, true_and]
      constructor
      · exact fun h _ => h
      · intro hearly text
        cases hclose : Regex.closesEarly value with
        | true => exact hearly hclose text
        | false => exact isMatch_regex_invalid hread hclose text
  | some found =>
      obtain ⟨r, names⟩ := found
      have hspells : ∀ text, (∃ r' names', some (r, names) = some (r', names') ∧ r'.Spells text) ↔
          r.Spells text := by
        intro text
        constructor
        · rintro ⟨r', names', ⟨⟩, h⟩
          exact h
        · exact fun h => ⟨r, names, rfl, h⟩
      simp only [hspells, closesEarly_of_read? hread, Bool.false_eq_true, false_implies, and_true]
      -- an expression that does not fit between the marks is compiled to nothing
      by_cases hunfit : Regex.endsInComment value = true ∨ Regex.hasRoom value = false
      · simp only [isMatch_regex_unfit hread hunfit, Bool.false_eq_true, false_iff]
        constructor
        · rintro h r' names' ⟨⟩ -
          exact h
        · exact fun h => h r names rfl hunfit
      · obtain ⟨hcomment, hroom⟩ := not_or.1 hunfit
        refine iff_of_true (isMatch_regex_iff hread ?_ ?_) fun _ _ _ h => absurd h hunfit
        · exact Bool.not_eq_true _ ▸ hcomment
        · exact Bool.not_eq_false _ ▸ hroom

/-- `/api)|(/admin` is no expression, and it matches `/api/x`. -/
theorem not_matches_whole : ¬ ∀ value text, (Operator.compile "regex" value).isMatch text = true ↔
    ∃ r names, Regex.read? value = some (r, names) ∧ r.Spells text := by
  intro h
  have hmatch : (Operator.compile "regex" "/api)|(/admin").isMatch "/api/x" = true := by
    decide +kernel
  have hnone : Regex.read? "/api)|(/admin" = none := by decide +kernel
  obtain ⟨r, names, hread, -⟩ := (h _ _).1 hmatch
  rw [hnone] at hread
  cases hread

end Match

end Gatehouse
