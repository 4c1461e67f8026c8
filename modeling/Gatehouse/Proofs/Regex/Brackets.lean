import Gatehouse.Proofs.Regex.Escapes

/-!
# Bracket expressions with a closing behind

A bracket expression ends at its own bracket, so what stands behind the expression is never read as
part of it (`Local.readSet`). The reader of sets within sets never runs out of fuel
(`readSet_readSetItems_fuel`).
-/

namespace Gatehouse.Regex.Reader

variable {P : State → Prop} {k : Nat} {s t : State}

/-! ## Ranges -/

theorem LocalBut.readSetPrimitive : LocalBut StrayEdge P 1 k readSetPrimitive := by
  refine .current (fun c => ?_) (by omega)
  split
  · exact .readEscape fun s hs => ne_nil_of_head? hs.2
  · exact .bind Local.bumpNext (fun _ => .pure _) (Nat.le_refl _)

theorem LocalBut.literalPoint {E : Nat → State → Prop} (p : Primitive) :
    LocalBut E P 0 k (literalPoint p) := by
  unfold Reader.literalPoint
  split
  · refine .ofState (fun s => ?_) fun _ _ _ _ => rfl
    exact .need fun _ => .pure _
  · exact .failure

theorem LocalBut.primitiveSet {E : CharSet → State → Prop} (p : Primitive) :
    LocalBut E P 0 k (primitiveSet p) := by
  unfold Reader.primitiveSet
  split
  · exact .pure _
  · exact .bind (LocalBut.literalPoint p) (fun _ => .pure _) (Nat.le_refl _)

/-- A place is no end of a range. -/
theorem readSetRange_place {place : Place} {c : Char} {beyond : Option Char} :
    (if c != '-' || beyond == some ']' || beyond == some '-' then primitiveSet (.place place)
    else do
      bumpSpace
      let _ ← current
      let last ← readSetPrimitive
      let a ← literalPoint (.place place)
      let b ← literalPoint last
      need (a ≤ b)
      return [(a, b)] : Read CharSet) s = none := by
  split
  · rfl
  · refine Option.eq_none_iff_forall_ne_some.2 fun (a, t) h => ?_
    obtain ⟨-, s₁, -, h⟩ := bind_eq_some_iff.1 h
    obtain ⟨-, s₂, -, h⟩ := bind_eq_some_iff.1 h
    obtain ⟨last, s₃, -, h⟩ := bind_eq_some_iff.1 h
    obtain ⟨_, s₄, hnone, -⟩ := bind_eq_some_iff.1 h
    cases hnone

theorem Local.readSetRange : Local P 1 (k + 1) readSetRange := by
  refine .bind_but LocalBut.readSetPrimitive (fun first => ?_) ?_ (Nat.le_refl _)
  · refine .bind Local.space (fun _ => .current (fun c => ?_) (by omega)) (Nat.le_refl _)
    refine .peekBeyond (fun s hs => ne_nil_of_head? hs.2) (fun beyond => ?_) rfl
    split
    · exact .primitiveSet first
    refine .bind Local.bumpSpaceNext (fun _ => ?_) (Nat.zero_le _)
    refine .current (fun d => ?_) (by omega)
    refine .bind_but LocalBut.readSetPrimitive (fun last => ?_) ?_ (Nat.zero_le _)
    · refine .bind (LocalBut.literalPoint first) (fun a => ?_) (Nat.le_refl _)
      refine .bind (LocalBut.literalPoint last) (fun b => ?_) (Nat.le_refl _)
      exact .need fun _ => .pure _
    · rintro a s b t ⟨⟨ascii, rfl⟩, -⟩ h
      obtain ⟨_, s₁, -, h⟩ := bind_eq_some_iff.1 h
      obtain ⟨_, s₂, hnone, -⟩ := bind_eq_some_iff.1 h
      cases hnone
  · rintro a s b t ⟨⟨ascii, rfl⟩, -⟩ h
    obtain ⟨-, s₁, -, h⟩ := bind_eq_some_iff.1 h
    obtain ⟨c, s₂, -, h⟩ := bind_eq_some_iff.1 h
    obtain ⟨beyond, s₃, -, h⟩ := bind_eq_some_iff.1 h
    rw [readSetRange_place] at h
    cases h

theorem LocalBut.finishSet {E : CharSet → State → Prop} (pending : Option (CharSet × SetOp))
    (items : CharSet) : LocalBut E P 0 k (finishSet pending items) := by
  unfold Reader.finishSet
  split
  · exact .pure _
  · refine .bind (Local.fold _) (fun _ => ?_) (Nat.le_refl _)
    exact .bind (Local.fold _) (fun _ => .pure _) (Nat.le_refl _)

theorem Local.readSetLead (fuel : Nat) (items : CharSet) :
    Local P 0 (k + 1) (readSetLead fuel items) := by
  induction fuel generalizing P items with
  | zero => exact .failure
  | succ fuel ih =>
      refine .current (fun c => ?_) (by omega)
      split
      · exact .bind Local.bumpSpaceNext (fun _ => ih _) (Nat.zero_le _)
      split
      · exact .bind Local.bumpSpaceNext (fun _ => .pure _) (Nat.zero_le _)
      · exact .pure _

/-! ## Classes by name -/

/-- Whether a class is negated, and the text after that. -/
def negation : List Char → Bool × List Char
  | '^' :: r => (true, r)
  | r => (false, r)

theorem negation_suffix (r : List Char) : (negation r).2 <:+ r := by
  unfold negation
  split
  · exact List.suffix_cons _ _
  · exact List.suffix_refl _

theorem negation_append {u : List Char} (hu : Closing u) (r : List Char) :
    negation (r ++ u) = ((negation r).1, (negation r).2 ++ u) := by
  cases r with
  | nil =>
      obtain ⟨v, rfl⟩ := hu.exists_eq_cons
      rfl
  | cons c r => by_cases hc : c = '^' <;> simp [negation, hc]

/-- What a class by name stands for, and the text after it. -/
def asciiClass? (rest : List Char) : Option (Bool × CharSet × List Char) := do
  let r ← Text.after? ['[', ':'] rest
  let (name, r') ← Text.cut? ':' (negation r).2
  let r' ← Text.after? [']'] r'
  let set ← CharSet.asciiClasses.lookup (String.ofList name)
  pure ((negation r).1, set, r')

theorem asciiClass?_eq_some {rest r : List Char} {negated : Bool} {set : CharSet}
    (h : asciiClass? rest = some (negated, set, r)) : ∃ text, rest = '[' :: text ++ r := by
  simp only [asciiClass?, Option.bind_eq_bind, Option.bind_eq_some_iff] at h
  obtain ⟨r₁, hlead, ⟨name, r₂⟩, hname, r₃, hclose, set', -, h⟩ := h
  cases h
  obtain ⟨mark, hmark⟩ := negation_suffix r₁
  refine ⟨':' :: mark ++ name ++ [':', ']'], ?_⟩
  have hclose : r₂ = [']'] ++ r := Text.after?_eq_some_iff.1 hclose
  rw [Text.after?_eq_some_iff.1 hlead, ← hmark, (Text.cut?_eq_some hname).1, hclose]
  simp

/-- A class in brackets does not look beyond its end. -/
theorem asciiClass?_append {u : List Char} (hu : Closing u) (rest : List Char) :
    asciiClass? (rest ++ u) = (asciiClass? rest).map fun (n, set, r) => (n, set, r ++ u) := by
  unfold asciiClass?
  rw [hu.after?_append (by decide)]
  cases Text.after? ['[', ':'] rest with
  | none => rfl
  | some r =>
      dsimp only [Option.map_some, Option.bind_eq_bind, Option.bind_some]
      rw [negation_append hu, hu.cut?_append (by decide) (by decide)]
      cases Text.cut? ':' (negation r).2 with
      | none => rfl
      | some found =>
          dsimp only [Option.map_some, Option.bind_some]
          rw [hu.after?_append (by decide)]
          cases Text.after? [']'] found.2 with
          | none => rfl
          | some r' =>
              dsimp only [Option.map_some, Option.bind_some]
              cases CharSet.asciiClasses.lookup (String.ofList found.1) <;> rfl

/-- Take a class that stands next. -/
def takeClass : Option (Bool × CharSet × List Char) → Read (Option CharSet)
  | none => return none
  | some (negated, set, r) => do
    modify fun s => { s with rest := r }
    return some (← negate negated set)

theorem readAsciiClass?_apply (s : State) :
    readAsciiClass? s = takeClass (asciiClass? s.rest) s := rfl

theorem readAsciiClass?_none (h : readAsciiClass? s = some (none, t)) : t = s := by
  rw [readAsciiClass?_apply] at h
  cases hclass : asciiClass? s.rest with
  | none =>
      rw [hclass] at h
      cases h
      rfl
  | some found =>
      rw [hclass] at h
      obtain ⟨-, s₁, -, h⟩ := bind_eq_some_iff.1 h
      obtain ⟨set, s₂, -, h⟩ := bind_eq_some_iff.1 h
      cases h

theorem readAsciiClass?_some {set : CharSet} (h : readAsciiClass? s = some (some set, t)) :
    t.rest.length < s.rest.length := by
  rw [readAsciiClass?_apply] at h
  cases hclass : asciiClass? s.rest with
  | none =>
      rw [hclass] at h
      cases h
  | some found =>
      obtain ⟨negated, set', r⟩ := found
      obtain ⟨text, htext⟩ := asciiClass?_eq_some hclass
      have hless : r.length < s.rest.length := by
        rw [htext, List.length_append, List.length_cons]
        omega
      rw [hclass] at h
      cases negated <;> cases h <;> exact hless

theorem Local.readAsciiClass? : Local P 0 k readAsciiClass? := by
  refine .of_behind (fun s a t h => ?_) fun s u _ hu => ?_
  · rw [readAsciiClass?_apply] at h
    cases hclass : asciiClass? s.rest with
    | none =>
        rw [hclass] at h
        cases h
        exact ⟨List.suffix_refl _, Nat.le_refl _⟩
    | some found =>
        obtain ⟨negated, set, r⟩ := found
        obtain ⟨text, htext⟩ := asciiClass?_eq_some hclass
        have hsuffix : r <:+ s.rest := ⟨'[' :: text, htext.symm⟩
        rw [hclass] at h
        cases negated <;> cases h <;> exact ⟨hsuffix, hsuffix.length_le⟩
  · rw [readAsciiClass?_apply, readAsciiClass?_apply, State.rest_behind, asciiClass?_append hu]
    cases asciiClass? s.rest with
    | none => rfl
    | some found =>
        obtain ⟨negated, set, r⟩ := found
        cases negated <;> rfl

/-! ## Items -/

/-- The operation that two characters in a row stand for. -/
def setOperation? (c : Char) (second : Option Char) : Option SetOp :=
  if c = '&' && second = some '&' then some .inter
  else if c = '-' && second = some '-' then some .diff
  else if c = '~' && second = some '~' then some .symmetricDiff
  else none

theorem setOperation?_none (c : Char) : setOperation? c none = none := by
  simp [setOperation?]

/-- An operation or an item inside brackets, and everything after it. -/
def readSetItem (fuel : Nat) (pending : Option (CharSet × SetOp)) (items : CharSet) (depth : Nat)
    (c : Char) (operation? : Option SetOp) : Read (CharSet × Nat) := do
  match operation? with
  | some op =>
    bump
    bump
    let left ← finishSet pending items
    readSetItems fuel (some (left, op)) [] (depth + 1)
  | none =>
    if c = ']' then
      bump
      return (← finishSet pending items, depth)
    else if c = '[' then
      match ← readAsciiClass? with
      | some s => readSetItems fuel pending (items ++ s) depth
      | none =>
        let (s, inner) ← readSet fuel
        readSetItems fuel pending (items ++ s) (max depth (inner + 1))
    else
      let s ← readSetRange
      readSetItems fuel pending (items ++ s) depth

theorem readSetItems_succ (fuel : Nat) (pending : Option (CharSet × SetOp)) (items : CharSet)
    (depth : Nat) : readSetItems (fuel + 1) pending items depth = (do
      space
      let c ← current
      let s ← get
      readSetItem fuel pending items depth c (setOperation? c (s.rest.drop 1).head?)) := by
  rw [readSetItems]
  rfl

/-- A bracket expression after its opening bracket and its caret. -/
def readSetBody (fuel : Nat) (negated : Bool) : Read (CharSet × Nat) := do
  let _ ← current
  let lead ← readSetLead (fuel + 1) []
  let (s, depth) ← readSetItems fuel none lead 0
  return (← negate negated (← fold (CharSet.normal s)), depth + 1)

theorem readSet_succ (fuel : Nat) : readSet (fuel + 1) = (do
    bumpSpace
    let c ← current
    if c == '^' then
      bumpSpace
      readSetBody fuel true
    else readSetBody fuel false) := by
  rw [readSet]
  refine congrArg (bumpSpace >>= fun _ => ·) (congrArg (current >>= ·) (funext fun c => ?_))
  dsimp only
  cases c == '^' <;> rfl

section

variable {fuel : Nat}

theorem Local.readSetItem
    (hitems : ∀ pending items depth, Local Any 1 k (readSetItems fuel pending items depth))
    (hset : Local (fun s => s.rest ≠ []) 1 k (readSet fuel)) (pending : Option (CharSet × SetOp))
    (items : CharSet) (depth : Nat) (c : Char) (o : Option Char) :
    Local (fun s => s.rest.head? = some c ∧ (s.rest.drop 1).head? = o) 1 k
      (readSetItem fuel pending items depth c (setOperation? c o)) := by
  unfold Reader.readSetItem
  have hrest : ∀ s : State, (s.rest.head? = some c ∧ (s.rest.drop 1).head? = o) → s.rest ≠ [] :=
    fun s hs => ne_nil_of_head? hs.1
  split
  · next op hop =>
    refine .bind_of (Q := fun _ s => s.rest ≠ []) (j := 0) (Local.bump hrest) (fun _ => ?_) ?_
      (Nat.le_refl _) (Nat.le_refl _)
    · refine .bind (Local.bump fun s hs => hs) (fun _ => ?_) (Nat.zero_le _)
      refine .bind (LocalBut.finishSet pending items) (fun left => ?_) (Nat.le_refl _)
      exact (hitems _ _ _).weaken
    · rintro s a t ⟨-, ho⟩ ⟨⟩ hnil
      have ho : o = none := by rw [← ho]; exact congrArg List.head? hnil
      rw [ho, setOperation?_none] at hop
      cases hop
  split
  · refine .bind (Local.bump hrest) (fun _ => ?_) (Nat.le_refl _)
    exact .bind (LocalBut.finishSet pending items) (fun _ => .pure _) (Nat.le_refl _)
  split
  · refine .bind_of (Q := fun a s => a = none → s.rest ≠ []) (j := 1) Local.readAsciiClass?
      (fun found => ?_) ?_ (Nat.le_refl _) (Nat.le_refl _)
    · split
      · exact (hitems _ _ _).any
      · refine .bind (hset.on fun s hs => hs rfl) (fun (s, inner) => ?_)
          (Nat.le_refl _)
        exact (hitems _ _ _).weaken
    · rintro s a t hs h rfl
      exact readAsciiClass?_none h ▸ hrest s hs
  · exact .bind_of Local.readSetRange (fun _ => hitems _ _ _) (fun _ _ _ _ _ => trivial)
      (Nat.le_add_right 1 1) (Nat.le_refl _)

theorem Local.readSetItems_succ
    (hitems : ∀ pending items depth, Local Any 1 k (readSetItems fuel pending items depth))
    (hset : Local (fun s => s.rest ≠ []) 1 k (readSet fuel)) (pending : Option (CharSet × SetOp))
    (items : CharSet) (depth : Nat) :
    Local P 1 k (readSetItems (fuel + 1) pending items depth) := by
  rw [Reader.readSetItems_succ]
  refine .bind_reads Local.space (fun _ => .current (fun c => ?_) (by omega)) (Nat.le_refl _)
  refine .second (f := fun o => Reader.readSetItem fuel pending items depth c (setOperation? c o))
    (fun s hs => ne_nil_of_head? hs.2) (fun o => ?_) ?_
  · exact (Local.readSetItem hitems hset pending items depth c o).on
      fun s hs => ⟨hs.1.2, hs.2⟩
  · have hclosing : setOperation? c (some ')') = setOperation? c none := by simp [setOperation?]
    rw [hclosing]

theorem Local.readSetBody
    (hitems : ∀ k pending items depth, Local Any 1 k (readSetItems fuel pending items depth))
    (negated : Bool) : Local P 1 k (readSetBody fuel negated) := by
  refine .current (fun c => ?_) (by omega)
  refine .bind_reads (Local.readSetLead _ _) (fun lead => ?_) (Nat.le_refl _)
  refine .bind (hitems _ _ _ _) (fun (s, depth) => ?_) (Nat.le_refl _)
  refine .bind (Local.fold _) (fun _ => ?_) (Nat.le_refl _)
  exact .bind (Local.negate _ _) (fun _ => .pure _) (Nat.le_refl _)

theorem Local.readSet_succ
    (hitems : ∀ k pending items depth, Local Any 1 k (readSetItems fuel pending items depth))
    (hP : ∀ s, P s → s.rest ≠ []) : Local P 1 k (readSet (fuel + 1)) := by
  rw [Reader.readSet_succ]
  refine .bind_reads (Local.bumpSpace hP) (fun _ => .current (fun c => ?_) (by omega)) (by decide)
  split
  · exact .bind_reads Local.bumpSpaceNext
      (fun _ => Local.readSetBody hitems true) (by decide)
  · exact Local.readSetBody hitems false

end

/-- Brackets and their items are read with fuel by turns, so both are shown by one induction. -/
theorem Local.readSet_readSetItems (fuel : Nat) :
    (∀ k pending items depth, Local Any 1 k (readSetItems fuel pending items depth)) ∧
      ∀ k, Local (fun s => s.rest ≠ []) 1 k (readSet fuel) := by
  induction fuel with
  | zero => exact ⟨fun _ _ _ _ => .failure, fun _ => .failure⟩
  | succ fuel ih =>
      obtain ⟨hitems, hset⟩ := ih
      exact ⟨fun k => Local.readSetItems_succ (hitems k) (hset k),
        fun k => Local.readSet_succ hitems fun _ hs => hs⟩

theorem Local.readSet (fuel : Nat) (hP : ∀ s, P s → s.rest ≠ []) : Local P 1 k (readSet fuel) :=
  ((Local.readSet_readSetItems fuel).2 k).on hP

/-! ## Fuel -/

theorem readSetLead_nil {fuel : Nat} {items : CharSet} (h : s.rest = []) :
    readSetLead fuel items s = none := by
  cases fuel with
  | zero => rfl
  | succ fuel => exact bind_apply_none (current_eq_none h)

theorem readSetLead_fuel {fuel fuel' : Nat} {items : CharSet} (h : s.rest.length ≤ fuel)
    (h' : s.rest.length ≤ fuel') : readSetLead fuel items s = readSetLead fuel' items s := by
  induction fuel generalizing s fuel' items with
  | zero =>
      have hnil := List.length_eq_zero_iff.1 (Nat.le_zero.1 h)
      rw [readSetLead_nil hnil, readSetLead_nil hnil]
  | succ fuel ih =>
      by_cases hnil : s.rest = []
      · rw [readSetLead_nil hnil, readSetLead_nil hnil]
      have hpos := List.length_pos_iff.2 hnil
      obtain ⟨fuel', rfl⟩ := Nat.exists_eq_add_one_of_ne_zero (show fuel' ≠ 0 by omega)
      refine bind_congr rfl fun c s₁ hc => ?_
      obtain ⟨-, rfl⟩ := current_eq_some_iff.1 hc
      split
      · refine bind_congr rfl fun _ s₂ hs₂ => ?_
        have hless := bumpSpace_lt hnil hs₂
        exact ih (by omega) (by omega)
      · rfl

theorem readSetItem_fuel {fuel fuel' : Nat}
    (hitems : ∀ (t : State) pending items depth, t.rest.length < s.rest.length →
      readSetItems fuel pending items depth t = readSetItems fuel' pending items depth t)
    (hset : readSet fuel s = readSet fuel' s)
    (pending : Option (CharSet × SetOp)) (items : CharSet) (depth : Nat) (c : Char)
    (hc : s.rest.head? = some c) (operation? : Option SetOp) :
    readSetItem fuel pending items depth c operation? s =
      readSetItem fuel' pending items depth c operation? s := by
  have hrest := ne_nil_of_head? hc
  have hpos := List.length_pos_iff.2 hrest
  -- an operation, the end, a bracket within, or a range
  unfold readSetItem
  split
  · refine bind_congr rfl fun _ s₁ hs₁ => bind_congr rfl fun _ s₂ hs₂ =>
      bind_congr rfl fun left s₃ hs₃ => hitems _ _ _ _ ?_
    have hless := bump_lt hrest hs₁
    have hless₂ : s₂.rest.length ≤ s₁.rest.length := by
      cases hs₂
      exact (List.drop_suffix 1 s₁.rest).length_le
    have hless₃ := Local.length_le (.finishSet pending items) hs₃
    omega
  split
  · rfl
  split
  · refine bind_congr rfl fun found s₁ hs₁ => ?_
    split
    · exact hitems _ _ _ _ (readAsciiClass?_some hs₁)
    · obtain rfl := readAsciiClass?_none hs₁
      refine bind_congr hset fun (set, inner) s₂ hs₂ => ?_
      exact hitems _ _ _ _ (Local.length_lt (.readSet fuel fun _ hs => hs) hrest hs₂)
  · refine bind_congr rfl fun set s₁ hs₁ => ?_
    have hless := Local.length_le .readSetRange hs₁
    exact hitems _ _ _ _ (by omega)

theorem readSetItems_nil {fuel : Nat} {pending : Option (CharSet × SetOp)} {items : CharSet}
    {depth : Nat} (h : s.rest = []) : readSetItems fuel pending items depth s = none := by
  cases fuel with
  | zero => rfl
  | succ fuel =>
      rw [readSetItems_succ, bind_apply (space_apply s)]
      exact bind_apply_none (current_eq_none (List.suffix_nil.1 (h ▸ s.spaced_suffix)))

theorem readSet_nil {fuel : Nat} (h : s.rest = []) : readSet fuel s = none := by
  cases fuel with
  | zero => rfl
  | succ fuel =>
      rw [readSet_succ, bind_apply (bumpSpace_apply s)]
      refine bind_apply_none (current_eq_none ?_)
      have hsuffix : s.beyond <:+ [] := h ▸ (State.spaced_suffix _).trans (List.drop_suffix 1 s.rest)
      exact List.suffix_nil.1 hsuffix

/-- Fuel for two steps a character is enough for brackets within brackets. -/
theorem readSet_readSetItems_fuel (fuel : Nat) :
    (∀ {s : State} {fuel' : Nat} pending items depth, 2 * s.rest.length ≤ fuel →
      2 * s.rest.length ≤ fuel' →
      readSetItems fuel pending items depth s = readSetItems fuel' pending items depth s) ∧
    ∀ {s : State} {fuel' : Nat}, 2 * s.rest.length ≤ fuel + 1 → 2 * s.rest.length ≤ fuel' + 1 →
      readSet fuel s = readSet fuel' s := by
  induction fuel with
  | zero =>
      refine ⟨fun {s} _ pending items depth h _ => ?_, fun {s} _ h _ => ?_⟩
      · have hnil := List.length_eq_zero_iff.1 (show s.rest.length = 0 by omega)
        rw [readSetItems_nil hnil, readSetItems_nil hnil]
      · have hnil := List.length_eq_zero_iff.1 (show s.rest.length = 0 by omega)
        rw [readSet_nil hnil, readSet_nil hnil]
  | succ fuel ih =>
      obtain ⟨hitems, hset⟩ := ih
      refine ⟨fun {s fuel'} pending items depth h h' => ?_, fun {s fuel'} h h' => ?_⟩
      · -- without characters both fail at once; otherwise one is read before the items go on
        by_cases hnil : s.rest = []
        · rw [readSetItems_nil hnil, readSetItems_nil hnil]
        have hpos := List.length_pos_iff.2 hnil
        obtain ⟨fuel', rfl⟩ := Nat.exists_eq_add_one_of_ne_zero (show fuel' ≠ 0 by omega)
        rw [readSetItems_succ, readSetItems_succ]
        refine bind_congr rfl fun _ s₁ hs₁ => bind_congr rfl fun c s₂ hc => ?_
        have hless := Local.length_le .space hs₁
        obtain ⟨hhead, rfl⟩ := current_eq_some_iff.1 hc
        rw [bind_apply (get_apply _), bind_apply (get_apply _)]
        refine readSetItem_fuel (fun t _ _ _ ht => hitems _ _ _ ?_ ?_) (hset ?_ ?_) _ _ _ _ hhead _
        all_goals omega
      · by_cases hnil : s.rest = []
        · rw [readSet_nil hnil, readSet_nil hnil]
        have hpos := List.length_pos_iff.2 hnil
        obtain ⟨fuel', rfl⟩ := Nat.exists_eq_add_one_of_ne_zero (show fuel' ≠ 0 by omega)
        have hbody : ∀ (t : State) negated, t.rest.length < s.rest.length →
            readSetBody fuel negated t = readSetBody fuel' negated t := by
          intro t negated ht
          refine bind_congr rfl fun c t₁ hc => ?_
          obtain ⟨-, rfl⟩ := current_eq_some_iff.1 hc
          refine bind_congr (readSetLead_fuel (by omega) (by omega)) fun lead t₂ hlead => ?_
          have hless := Local.length_le (.readSetLead _ _) hlead
          exact bind_congr (hitems _ _ _ (by omega) (by omega)) fun _ _ _ => rfl
        rw [readSet_succ, readSet_succ]
        refine bind_congr rfl fun _ s₁ hs₁ => bind_congr rfl fun c s₂ hc => ?_
        have hless := bumpSpace_lt hnil hs₁
        obtain ⟨hhead, rfl⟩ := current_eq_some_iff.1 hc
        split
        · refine bind_congr rfl fun _ s₃ hs₃ => hbody _ _ ?_
          have hless' := bumpSpace_lt (ne_nil_of_head? hhead) hs₃
          omega
        · exact hbody _ _ hless

end Gatehouse.Regex.Reader
