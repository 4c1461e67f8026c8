import Gatehouse.Proofs.Regex.Steps

/-!
# Repetitions and groups with a closing behind

The bounds of a repetition, and what an opening parenthesis begins.
-/

namespace Gatehouse.Regex.Reader

variable {P : State → Prop} {k : Nat} {s t : State}

/-! ## Repetitions -/

theorem Closing.dropWhile_append {u : List Char} (hu : Closing u) (r : List Char) :
    (r ++ u).dropWhile Text.isBlank = r.dropWhile Text.isBlank ++ u := by
  induction r with
  | nil => rcases hu with rfl | rfl <;> rfl
  | cons c r ih =>
      simp only [List.cons_append, List.dropWhile_cons]
      split
      · exact ih
      · rfl

theorem Local.dropBlanks :
    Local P 0 k (modify fun s => { s with rest := s.rest.dropWhile Text.isBlank }) := by
  refine .change (fun s => List.dropWhile_suffix _) fun s u _ hu => ?_
  exact congrArg (fun r => ({ s with rest := r } : State)) (hu.dropWhile_append s.rest)

theorem Local.digits (fuel : Nat) : Local P 0 k (readDecimal.digits fuel) := by
  induction fuel generalizing P with
  | zero => exact .pure []
  | succ fuel ih =>
      refine .peek (fun o => ?_) rfl
      split
      · split
        · refine .bind Local.bumpSpaceNext (fun _ => ?_) (by decide)
          exact .bind ih (fun cs => .pure _) (Nat.le_refl _)
        · exact .pure []
      · exact .pure []

theorem digits_nil {fuel : Nat} (h : s.rest = []) : readDecimal.digits fuel s = some ([], s) := by
  obtain ⟨rest, flags, groups, names⟩ := s
  cases h
  cases fuel <;> rfl

theorem digits_fuel {fuel fuel' : Nat} (h : s.rest.length ≤ fuel) (h' : s.rest.length ≤ fuel') :
    readDecimal.digits fuel s = readDecimal.digits fuel' s := by
  induction fuel generalizing s fuel' with
  | zero =>
      have hnil := List.length_eq_zero_iff.1 (Nat.le_zero.1 h)
      rw [digits_nil hnil, digits_nil hnil]
  | succ fuel ih =>
      by_cases hnil : s.rest = []
      · rw [digits_nil hnil, digits_nil hnil]
      have hpos := List.length_pos_iff.2 hnil
      obtain ⟨fuel', rfl⟩ := Nat.exists_eq_add_one_of_ne_zero (show fuel' ≠ 0 by omega)
      refine bind_congr rfl fun o s₁ ho => ?_
      obtain rfl : s = s₁ := (Prod.mk.inj (Option.some.inj ho)).2
      split
      · split
        · refine bind_congr rfl fun _ s₂ hs₂ => bind_congr ?_ fun _ _ _ => rfl
          have hless := bumpSpace_lt hnil hs₂
          exact ih (by omega) (by omega)
        · rfl
      · rfl

/-- The number written with some digits, after the blanks behind them. -/
def decimal? (digits : List Char) : Read (Option Nat) := do
  modify fun s => { s with rest := s.rest.dropWhile Text.isBlank }
  if digits.isEmpty then return none
  else
    let n := digits.foldl (fun n c => n * 10 + (c.toNat - 48)) 0
    need (n ≤ 0xFFFFFFFF)
    return some n

theorem Local.decimal? (digits : List Char) : Local P 0 k (decimal? digits) := by
  refine .bind Local.dropBlanks (fun _ => ?_) (Nat.le_refl _)
  split
  · exact .pure _
  · exact .need fun _ => .pure _

theorem Local.readDecimal : Local P 0 k readDecimal := by
  refine .bind Local.dropBlanks (fun _ => ?_) (Nat.le_refl _)
  refine .of_fuel (fun N => readDecimal.digits N >>= Reader.decimal?) (fun N => ?_) fun s N hN => ?_
  · exact .bind (Local.digits N) Local.decimal? (Nat.le_refl _)
  · show (readDecimal.digits s.rest.length >>= Reader.decimal?) s = _
    exact bind_congr (digits_fuel (Nat.le_refl _) (Nat.le_of_lt hN)) fun _ _ _ => rfl

/-- The last item repeated, where a question mark is passed over. -/
def repeated (least : Nat) (most : Option Nat) (item : Item) (before : List Item) (lazy : Bool) :
    Read (List Item) := do
  if lazy then bump
  let greedy := lazy == (← get).flags.swapGreed
  return ⟨.repeated least most greedy item.regex, item.depth + 1, false⟩ :: before

theorem Local.repeated (least : Nat) (most : Option Nat) (item : Item) (before : List Item)
    (o : Option Char) :
    Local (fun s => s.rest.head? = o) 0 k (repeated least most item before (o == some '?')) := by
  have hmore : ∀ lazy, Local Any 0 k (do
      let greedy := lazy == (← get).flags.swapGreed
      return (⟨.repeated least most greedy item.regex, item.depth + 1, false⟩ :: before : List Item)) :=
    fun lazy => .ofState (fun s => .pure _) fun _ _ _ _ => rfl
  cases ho : o == some '?' with
  | false => exact (hmore false).any
  | true =>
      refine .bind (Local.bump fun s hs => ?_) (fun _ => hmore true) (by decide)
      exact ne_nil_of_head? (hs.trans (eq_of_beq ho))

/-- Repetition looks at nothing but the item that it repeats. -/
theorem LocalBut.repeatLast {E : List Item → State → Prop} (least : Nat) (most : Option Nat)
    (items : List Item) : LocalBut E P 0 k (repeatLast least most items) := by
  unfold Reader.repeatLast
  split
  · exact .failure
  · next item before =>
    refine .need fun _ => .peek (f := fun o => repeated least most item before (o == some '?'))
      (fun o => ?_) rfl
    exact ((Local.repeated least most item before o).on fun s hs => hs.2).but

/-- The upper bound of a repetition after its comma. -/
def readMost (least? : Option Nat) : Read (Nat × Option Nat) := do
  if (← current) = '\x7d' then
    let some least := least? | failure
    return (least, none)
  else
    let some least := least? | failure
    let some most ← readDecimal | failure
    need ((← current) = '\x7d')
    need (least ≤ most)
    return (least, some most)

theorem Local.readMost (least? : Option Nat) : Local P 0 (k + 1) (readMost least?) := by
  refine .current (fun c => ?_) (by omega)
  split
  · split
    · exact .pure _
    · exact .failure
  · split
    · refine .bind Local.readDecimal (fun most => ?_) (Nat.le_refl _)
      split
      · exact .current (fun d => .need fun _ => .need fun _ => .pure _) (by omega)
      · exact .failure
    · exact .failure

/-- Bounds end at a brace. -/
theorem readMost_ends {least? : Option Nat} {bounds : Nat × Option Nat}
    (h : readMost least? s = some (bounds, t)) : t.rest.head? = some '\x7d' := by
  obtain ⟨c, s₁, hc, hbounds⟩ := bind_eq_some_iff.1 h
  obtain ⟨hhead, rfl⟩ := current_eq_some_iff.1 hc
  split at hbounds
  · next hclose =>
    split at hbounds
    · cases hbounds
      rw [hhead, hclose]
    · cases hbounds
  · split at hbounds
    · obtain ⟨most, s₂, -, hmost⟩ := bind_eq_some_iff.1 hbounds
      split at hmost
      · obtain ⟨d, s₃, hd, hend⟩ := bind_eq_some_iff.1 hmost
        obtain ⟨hhead', rfl⟩ := current_eq_some_iff.1 hd
        obtain ⟨hclose, hend⟩ := need_bind_eq_some_iff.1 hend
        obtain ⟨-, hend⟩ := need_bind_eq_some_iff.1 hend
        cases hend
        rw [hhead', of_decide_eq_true hclose]
      · cases hmost
    · cases hbounds

/-- The bounds of a repetition after its first number. -/
def readBoundsFrom (least? : Option Nat) : Read (Nat × Option Nat) := do
  let c ← current
  if c = ',' then
    bumpSpace
    readMost least?
  else
    need (c = '\x7d')
    let some least := least? | failure
    return (least, some least)

theorem Local.readBoundsFrom (least? : Option Nat) :
    Local P 0 (k + 1) (readBoundsFrom least?) := by
  refine .current (fun c => ?_) (by omega)
  split
  · exact .bind Local.bumpSpaceNext (fun _ => Local.readMost least?)
      (Nat.zero_le _)
  · refine .need fun _ => ?_
    split
    · exact .pure _
    · exact .failure

theorem readBoundsFrom_ends {least? : Option Nat} {bounds : Nat × Option Nat}
    (h : readBoundsFrom least? s = some (bounds, t)) : t.rest.head? = some '\x7d' := by
  obtain ⟨c, s₁, hc, hbounds⟩ := bind_eq_some_iff.1 h
  obtain ⟨hhead, rfl⟩ := current_eq_some_iff.1 hc
  split at hbounds
  · obtain ⟨-, s₂, -, hmost⟩ := bind_eq_some_iff.1 hbounds
    exact readMost_ends hmost
  · obtain ⟨hclose, hend⟩ := need_bind_eq_some_iff.1 hbounds
    split at hend
    · cases hend
      rw [hhead, of_decide_eq_true hclose]
    · cases hend

theorem readBounds_eq : readBounds = (do
    bumpSpace
    let _ ← current
    let least? ← readDecimal
    readBoundsFrom least?) := rfl

theorem Local.readBounds (hP : ∀ s, P s → s.rest ≠ []) : Local P 1 (k + 1) readBounds := by
  rw [readBounds_eq]
  refine .bind (Local.bumpSpace hP) (fun _ => ?_) (Nat.le_refl _)
  refine .current (fun c => ?_) (by omega)
  exact .bind Local.readDecimal Local.readBoundsFrom (Nat.le_refl _)

theorem readBounds_ends {bounds : Nat × Option Nat}
    (h : readBounds s = some (bounds, t)) : t.rest.head? = some '\x7d' := by
  rw [readBounds_eq] at h
  obtain ⟨-, s₁, -, h⟩ := bind_eq_some_iff.1 h
  obtain ⟨-, s₂, -, h⟩ := bind_eq_some_iff.1 h
  obtain ⟨least?, s₃, -, h⟩ := bind_eq_some_iff.1 h
  exact readBoundsFrom_ends h

/-! ## Groups -/

theorem Local.readFlags (fuel : Nat) (seen : List Char) (f : Flags) :
    Local P 1 k (readFlags fuel seen f) := by
  induction fuel generalizing P seen f with
  | zero => exact .failure
  | succ fuel ih =>
      refine .current (fun c => ?_) (by omega)
      split
      · exact .need fun _ => .bind Local.bumpNext (fun _ => .pure _) (Nat.le_refl _)
      · refine .need fun _ => .bind Local.bumpNext (fun _ => ?_) (Nat.le_refl _)
        split
        · exact (ih _ _).weaken
        · split
          · exact (ih _ _).weaken
          · exact .failure

/-- Each letter takes a character, so fuel for the characters is enough. -/
theorem readFlags_fuel {fuel fuel' : Nat} {seen : List Char} {f : Flags}
    (h : s.rest.length < fuel) (h' : s.rest.length < fuel') :
    readFlags fuel seen f s = readFlags fuel' seen f s := by
  induction fuel generalizing s fuel' seen f with
  | zero => exact absurd h (Nat.not_lt_zero _)
  | succ fuel ih =>
      obtain ⟨fuel', rfl⟩ := Nat.exists_eq_add_one_of_ne_zero (Nat.ne_zero_of_lt h')
      refine bind_congr rfl fun c s₁ hc => ?_
      obtain ⟨hhead, rfl⟩ := current_eq_some_iff.1 hc
      split
      · rfl
      · refine need_bind_congr (bind_congr rfl fun _ s₂ hs₂ => ?_)
        have hless := bump_lt (ne_nil_of_head? hhead) hs₂
        split
        · exact ih (by omega) (by omega)
        · cases f.set? c (!seen.contains '-') with
          | none => rfl
          | some f' => exact ih (by omega) (by omega)

/-- Take the name of a group that is cut off the text after it. -/
def takeName (index : Nat) : Option (List Char × List Char) → Read Unit
  | none => failure
  | some ([], _) => failure
  | some (c :: cs, r) => do
    need (isNameChar true c && cs.all (isNameChar false))
    need ((← get).names.lookup (String.ofList (c :: cs))).isNone
    modify fun s => { s with rest := r, names := (String.ofList (c :: cs), index) :: s.names }

theorem readGroupName_apply (index : Nat) (s : State) :
    readGroupName index s = takeName index (Text.cut? '>' s.rest) s := by
  unfold readGroupName
  rw [bind_apply (get_apply s)]
  cases Text.cut? '>' s.rest with
  | none => rfl
  | some found =>
      obtain ⟨name, r⟩ := found
      cases name with
      | nil => rfl
      | cons c cs =>
          refine need_bind_congr ?_
          rw [bind_apply (get_apply s)]
          exact need_bind_congr rfl

theorem takeName_suffix {index : Nat} {found : Option (List Char × List Char)} {a : Unit}
    (h : takeName index found s = some (a, t)) : ∃ name, found = some (name, t.rest) := by
  match found, h with
  | some (c :: cs, r), h =>
    obtain ⟨-, hnames⟩ := need_bind_eq_some_iff.1 h
    rw [bind_apply (get_apply s)] at hnames
    obtain ⟨-, hset⟩ := need_bind_eq_some_iff.1 hnames
    cases hset
    exact ⟨_, rfl⟩

theorem takeName_behind (index : Nat) (found : Option (List Char × List Char)) (s : State)
    (u : List Char) : takeName index (found.map fun (a, b) => (a, b ++ u)) (s.behind u) =
      (takeName index found s).map fun (a, t) => (a, t.behind u) := by
  match found with
  | none => rfl
  | some ([], r) => rfl
  | some (c :: cs, r) =>
    refine need_bind_map ?_
    rw [bind_apply (get_apply _), bind_apply (get_apply s)]
    exact need_bind_map rfl

theorem Local.readGroupName (index : Nat) : Local P 0 k (readGroupName index) := by
  refine .of_behind (fun s a t h => ?_) fun s u _ hu => ?_
  · rw [readGroupName_apply] at h
    obtain ⟨name, hname⟩ := takeName_suffix h
    have hsuffix := (List.suffix_cons _ _).trans ⟨_, (Text.cut?_eq_some hname).1.symm⟩
    exact ⟨hsuffix, hsuffix.length_le⟩
  · rw [readGroupName_apply, readGroupName_apply, State.rest_behind,
      hu.cut?_append (by decide) (by decide)]
    exact takeName_behind index _ s u

/-- Whether something looks around. -/
def looksAround (rest : List Char) : Bool :=
  ['?', '='].isPrefixOf rest || ['?', '!'].isPrefixOf rest || ['?', '<', '='].isPrefixOf rest ||
    ['?', '<', '!'].isPrefixOf rest

theorem looksAround_append {u : List Char} (hu : Closing u) (rest : List Char) :
    looksAround (rest ++ u) = looksAround rest := by
  unfold looksAround
  rw [hu.isPrefixOf_append (by decide), hu.isPrefixOf_append (by decide),
    hu.isPrefixOf_append (by decide), hu.isPrefixOf_append (by decide)]

/-- Pass over what begins a name, if it stands next. -/
def bumpName : Read Bool := do
  if ← bumpIf ['?', 'P', '<'] then return true
  else bumpIf ['?', '<']

theorem Local.bumpName : Local P 0 k bumpName := by
  refine .bind (Local.bumpIf (by decide)) (fun found => ?_) (Nat.le_refl _)
  split
  · exact .pure true
  · exact Local.bumpIf (by decide)

/-- What an opening parenthesis begins, from the text behind it on. -/
def openGroup (looking : Bool) (index : Nat) (flags : Flags) (fuel : Nat) : Read Opening := do
  if looking then failure
  else
    if ← bumpName then
      modify fun s => { s with groups := index }
      readGroupName index
      return .capture index
    else if ← bumpIf ['?'] then
      let (f, seen, last) ← readFlags fuel [] flags
      if last = ')' then
        need (!seen.isEmpty)
        return .directive f
      else return .plain f
    else
      modify fun s => { s with groups := index }
      return .capture index

/-- How a group opens is decided by what stands next. -/
theorem readOpening_eq : readOpening = (do
    bump
    space
    let s ← get
    openGroup (looksAround s.rest) (s.groups + 1) s.flags (s.rest.length + 1)) := rfl

theorem Local.openGroup (looking : Bool) (index : Nat) (flags : Flags) (fuel : Nat) :
    Local P 0 k (openGroup looking index flags fuel) := by
  have hgroups : ∀ P, Local P 0 k (modify fun s => { s with groups := index }) :=
    fun P => .change (fun s => List.suffix_refl _) fun _ _ _ _ => rfl
  unfold Reader.openGroup
  split
  · exact .failure
  refine .bind Local.bumpName (fun named => ?_) (Nat.le_refl _)
  split
  · refine .bind (hgroups _) (fun _ => ?_) (Nat.le_refl _)
    exact .bind (Local.readGroupName index) (fun _ => .pure _) (Nat.le_refl _)
  refine .bind (Local.bumpIf (by decide)) (fun found => ?_) (Nat.le_refl _)
  split
  · refine .bind (Local.readFlags fuel [] flags) (fun (f, seen, last) => ?_) (Nat.zero_le _)
    dsimp only
    split
    · exact .need fun _ => .pure _
    · exact .pure _
  · exact .bind (hgroups _) (fun _ => .pure _) (Nat.le_refl _)

theorem openGroup_fuel {looking : Bool} {index : Nat} {flags : Flags} {fuel fuel' : Nat}
    (h : s.rest.length < fuel) (h' : s.rest.length < fuel') :
    openGroup looking index flags fuel s = openGroup looking index flags fuel' s := by
  unfold openGroup
  split
  · rfl
  refine bind_congr rfl fun named s₁ hs₁ => ?_
  split
  · rfl
  refine bind_congr rfl fun found s₂ hs₂ => ?_
  have hless := Local.length_le .bumpName hs₁
  have hless' := Local.length_le (.bumpIf (by decide)) hs₂
  split
  · exact bind_congr (readFlags_fuel (by omega) (by omega)) fun _ _ _ => rfl
  · rfl

/-- An opening is read alike with a closing behind the text. -/
theorem Local.readOpening (hP : ∀ s, P s → s.rest ≠ []) : Local P 1 k readOpening := by
  rw [readOpening_eq]
  refine .bind (Local.bump hP) (fun _ => .bind Local.space (fun _ => ?_) (Nat.le_refl _))
    (Nat.le_refl _)
  refine .of_fuel (fun N => get >>= fun s : State =>
    Reader.openGroup (looksAround s.rest) (s.groups + 1) s.flags N) (fun N => ?_) fun s N hN => ?_
  · refine .ofState (fun s => Local.openGroup _ _ _ _) fun s u _ hu => ?_
    rw [State.rest_behind, looksAround_append hu]
    rfl
  · exact openGroup_fuel (Nat.lt_succ_self _) hN

end Gatehouse.Regex.Reader
