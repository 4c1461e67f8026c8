import Gatehouse.Proofs.Json.Records

/-!
# Records with one value left open

Two values are put in the same place of one record, as the member of a name or as the element in
the place of the field:

    { id: "a", handle: v, sort: 1 }        [ "a", 1, v ]
    { id: "a", handle: w, sort: 1 }        [ "a", 1, w ]

The first pass over the two either fails alike or finds the same values for all fields but this one
(`Alike`). What the other fields are read to be is then the same, and so is everything that is
wrong with them: **the second record is the first one with another value in its last field**
(`record_slot`).
-/

namespace Gatehouse.Json.Decoder

variable {name key typeName : String} {v w : Json} {fields all fs : List Field} {f : Field}
variable {found found' before after : List (String × Json)}

/-- A value with a place for another one in it: the member of a name, or an element. -/
inductive Slot (name : String) (place : Nat) : (Json → Json) → Prop
  | member (before after : List (String × Json)) :
      Slot name place fun v => .obj (before ++ (name, v) :: after)
  | element (before after : List Json) (h : before.length = place) :
      Slot name place fun v => .arr (before ++ v :: after)

/-! ## The first pass -/

/-- Collected values that differ only in what one name has: the one value and the other. -/
structure Differ (name : String) (v w : Json) (found found' : List (String × Json)) : Prop where
  left : found.lookup name = some v
  right : found'.lookup name = some w
  others : ∀ k, k ≠ name → found.lookup k = found'.lookup k

theorem differ_cons (h : ∀ k, k ≠ name → found.lookup k = found'.lookup k) :
    Differ name v w ((name, v) :: found) ((name, w) :: found') where
  left := List.lookup_cons_self
  right := List.lookup_cons_self
  others k hk := by
    rw [List.lookup_cons, List.lookup_cons, beq_eq_false_iff_ne.2 hk]
    exact h k hk

theorem Differ.cons (h : Differ name v w found found') (hk : key ≠ name) (u : Json) :
    Differ name v w ((key, u) :: found) ((key, u) :: found') where
  left := by
    rw [List.lookup_cons, beq_eq_false_iff_ne.2 (Ne.symm hk)]
    exact h.left
  right := by
    rw [List.lookup_cons, beq_eq_false_iff_ne.2 (Ne.symm hk)]
    exact h.right
  others k hne := by
    rw [List.lookup_cons, List.lookup_cons, h.others k hne]

theorem Differ.isSome_eq (h : Differ name v w found found') (k : String) :
    (found.lookup k).isSome = (found'.lookup k).isSome := by
  by_cases hk : k = name
  · rw [hk, h.left, h.right]
    rfl
  · rw [h.others k hk]

/-- Passes that fail alike, or find values that differ only in what one name has. -/
inductive Alike (name : String) (v w : Json) :
    Except DecodeError (List (String × Json)) → Except DecodeError (List (String × Json)) → Prop
  | error (e : DecodeError) : Alike name v w (.error e) (.error e)
  | ok {found found' : List (String × Json)} (h : Differ name v w found found') :
      Alike name v w (.ok found) (.ok found')

/-- Fields of other names keep two passes alike. -/
theorem Alike.cons {pass pass' : Except DecodeError (List (String × Json))}
    (h : Alike name v w pass pass') (hk : key ≠ name) (u : Json) :
    Alike name v w (pass >>= fun found => pure ((key, u) :: found))
      (pass' >>= fun found => pure ((key, u) :: found)) := by
  cases h with
  | error e => exact .error e
  | ok h => exact .ok (h.cons hk u)

/-- Behind the place, the pass goes on alike. -/
theorem Differ.scan (h : Differ name v w found found') (after : List (String × Json)) :
    Alike name v w (scan fields found after) (scan fields found' after) := by
  induction after generalizing found found' with
  | nil => exact .ok h
  | cons e after ih =>
      obtain ⟨k, u⟩ := e
      rw [Decoder.scan, Decoder.scan]
      split
      · exact ih h
      · next f _ =>
          rw [← h.isSome_eq f.name]
          split
          · exact .error _
          · next hnew =>
              -- the name is taken in both, so the field is another one
              have hne : f.name ≠ name := by
                rintro rfl
                rw [h.left] at hnew
                exact hnew rfl
              cases f.check u with
              | error e => exact .error e
              | ok _ => exact ih (h.cons hne u)

/-- **Objects** that differ in one member are passed over alike. -/
theorem alike_scan (hfind : fields.find? (·.accepts name) = some f) (hname : f.name = name)
    (hv : f.check v = .ok ()) (hw : f.check w = .ok ()) :
    Alike name v w (scan fields found (before ++ (name, v) :: after))
      (scan fields found (before ++ (name, w) :: after)) := by
  induction before generalizing found with
  | nil =>
      rw [List.nil_append, List.nil_append, scan, scan, hfind]
      simp only [hname, hv, hw]
      split
      · exact .error _
      · exact (differ_cons fun k _ => rfl).scan after
  | cons e before ih =>
      obtain ⟨k, u⟩ := e
      rw [List.cons_append, List.cons_append, scan, scan]
      split
      · exact ih
      · next g _ =>
          split
          · exact .error _
          · cases g.check u with
            | error e => exact .error e
            | ok _ => exact ih

/-- **Arrays** that differ in the element of the last field are passed over alike. -/
theorem alike_align {every every' before after : List Json} {i : Nat}
    (hfs : ∀ g ∈ fs, g.name ≠ name) (hname : f.name = name) (hlength : before.length = fs.length)
    (hevery : every.length = every'.length) (hv : f.check v = .ok ()) (hw : f.check w = .ok ()) :
    Alike name v w (align.go typeName all every i (fs ++ [f]) (before ++ v :: after))
      (align.go typeName all every' i (fs ++ [f]) (before ++ w :: after)) := by
  induction fs generalizing before i with
  | nil =>
      obtain rfl := List.eq_nil_of_length_eq_zero hlength
      rw [List.nil_append, List.nil_append, List.nil_append, align.go, align.go, hv, hw, hname]
      cases after with
      | nil => exact .ok (differ_cons fun k _ => rfl)
      | cons u after =>
          rw [align.go, align.go, hevery]
          exact .error _
  | cons g fs ih =>
      cases before with
      | nil => cases hlength
      | cons u before =>
          rw [List.cons_append, List.cons_append, List.cons_append, align.go, align.go]
          cases g.check u with
          | error e => exact .error e
          | ok _ =>
              have hrest := ih (i := i + 1) (fun g' hg' => hfs g' (List.mem_cons_of_mem g hg'))
                (Nat.succ.inj hlength)
              exact hrest.cons (hfs g List.mem_cons_self) u

/-! ## The second pass -/

/-- A record that takes no notice of a name. -/
structure Apart (name : String) (r : Record α) : Prop where
  refuses : ∀ f ∈ r.fields, f.name ≠ name ∧ f.accepts name = false
  ignores : ∀ {found found' : List (String × Json)},
    (∀ k, k ≠ name → found.lookup k = found'.lookup k) → r.build found = r.build found'

@[simp] theorem apart_required {other : String} {d : Decoder α} (h : other ≠ name) :
    Apart name (required other d []) where
  refuses f hf := by
    obtain rfl := List.mem_singleton.1 hf
    exact ⟨h, by simp [Field.accepts, h]⟩
  ignores hothers := by
    simp only [required, hothers other h]

/-- An optional field of another name sees nothing of the change. -/
@[simp] theorem apart_optional {other : String} {d : Decoder α} {default : α} (h : other ≠ name) :
    Apart name (optional other d default []) where
  refuses f hf := by
    obtain rfl := List.mem_singleton.1 hf
    exact ⟨h, by simp [Field.accepts, h]⟩
  ignores hothers := by
    simp only [optional, hothers other h]

@[simp] theorem Apart.map {r : Record α} (h : Apart name r) (f : α → β) : Apart name (f <$> r) where
  refuses := h.refuses
  ignores hothers := by
    show (r.build _).map f = (r.build _).map f
    rw [h.ignores hothers]

/-- Records are kept apart from a name field by field. -/
@[simp] theorem Apart.seq {r : Record (α → β)} {q : Record α} (hr : Apart name r) (hq : Apart name q) :
    Apart name (r <*> q) where
  refuses f hf := (List.mem_append.1 hf).elim (hr.refuses f) (hq.refuses f)
  ignores hothers := by
    show (r.build _ >>= _) = (r.build _ >>= _)
    rw [hr.ignores hothers, hq.ignores hothers]

/-- What a record is built to be, if it is built. -/
def Yields (r : Record α) (P : α → Prop) : Prop := ∀ found x, r.build found = .ok x → P x

theorem Yields.map {r : Record α} {f : α → β} {P : β → Prop} (h : ∀ x, P (f x)) :
    Yields (f <$> r) P := by
  intro found y hy
  obtain ⟨x, -, rfl⟩ := exists_of_build_map hy
  exact h x

theorem Yields.seq {r : Record (α → β)} {q : Record α} {P : β → Prop}
    (h : Yields r fun f => ∀ x, P (f x)) : Yields (r <*> q) P := by
  intro found y hy
  obtain ⟨f, x, hf, -, rfl⟩ := exists_of_build_seq hy
  exact h found f hf x

/-- What is known of one field is used for the value of the record. -/
theorem Yields.seq_of {r : Record (α → β)} {q : Record α} {P : β → Prop} {Q : α → Prop}
    (hr : Yields r fun f => ∀ x, Q x → P (f x)) (hq : Yields q Q) : Yields (r <*> q) P := by
  intro found y hy
  obtain ⟨f, x, hf, hx, rfl⟩ := exists_of_build_seq hy
  exact hr found f hf x (hq found x hx)

theorem yields_optional {d : Decoder α} {default : α} {aliases : List String} {P : α → Prop}
    (h : ∀ v x, d v = .ok x → P x) (hdefault : P default) :
    Yields (optional name d default aliases) P := by
  intro found x hx
  have hreads := reads_of_optional hx
  cases hlookup : found.lookup name with
  | none =>
      rw [hlookup] at hreads
      exact hreads ▸ hdefault
  | some v =>
      rw [hlookup] at hreads
      exact h v x hreads

/-- What is read as a record has been built. -/
theorem Yields.record {r : Record α} {P : α → Prop} {x : α} (h : Yields r P)
    (hx : record typeName r v = .ok x) : P x := by
  cases v with
  | obj entries =>
      obtain ⟨found, -, hbuild⟩ := exists_of_bind hx
      exact h found x hbuild
  | arr items =>
      obtain ⟨found, -, hbuild⟩ := exists_of_bind hx
      exact h found x hbuild
  | null | bool | int | float | str => cases hx

/-- The last field is read from what the first pass found for its name. -/
theorem build_seq_optional {q : Record (α → β)} {d : Decoder α} {default : α} {x : α}
    (h : found.lookup name = some v) (hv : d v = .ok x) :
    (q <*> optional name d default []).build found = (q.build found).map fun g => g x := by
  show (q.build found >>= fun g => (optional name d default []).build found >>= fun y =>
    pure (g y)) = _
  have hlast : (optional name d default []).build found = .ok x := by
    rw [optional]
    simp only [h, hv]
  rw [hlast]
  cases q.build found <;> rfl

/-- **Records with a place left open**: what is put there changes the last field and nothing
else. -/
theorem record_slot {q : Record (α → β)} {d : Decoder α} {default x y : α} {item : Json → Json}
    (set : α → β → β) (hq : Apart name q) (hset : Yields q fun g => ∀ x y, set y (g x) = g y)
    (hitem : Slot name q.fields.length item) (hv : d v = .ok x) (hw : d w = .ok y) :
    record typeName (q <*> optional name d default []) (item w) =
      (record typeName (q <*> optional name d default []) (item v)).map (set y) := by
  have hpass : ∀ {pass pass' : Except DecodeError (List (String × Json))},
      Alike name v w pass pass' →
        (pass' >>= (q <*> optional name d default []).build) =
          (pass >>= (q <*> optional name d default []).build).map (set y) := by
    intro pass pass' h
    cases h with
    | error e => rfl
    | @ok found found' h =>
        show (q <*> optional name d default []).build found' =
          ((q <*> optional name d default []).build found).map (set y)
        rw [build_seq_optional h.left hv, build_seq_optional h.right hw, hq.ignores h.others]
        cases hbuild : q.build found' with
        | error e => rfl
        | ok g => exact congrArg Except.ok (hset found' g hbuild x y).symm
  have hcheck : ∀ {u : Json} {z : α}, d u = .ok z → (d u).map (fun _ => ()) = .ok () := by
    intro u z hu
    rw [hu]
    rfl
  -- the open place is a member of an object or the last element of an array
  cases hitem with
  | member before after =>
      apply hpass
      refine alike_scan (f := ⟨name, [], false, fun v => (d v).map fun _ => ()⟩) ?_ rfl (hcheck hv)
        (hcheck hw)
      have hnone : q.fields.find? (·.accepts name) = none :=
        List.find?_eq_none.2 fun f hf => by simp [(hq.refuses f hf).2]
      show (q.fields ++ [_]).find? _ = _
      rw [List.find?_append, hnone]
      simp [Field.accepts]
  | element before after h =>
      apply hpass
      exact alike_align (fun g hg => (hq.refuses g hg).1) rfl h (by simp) (hcheck hv) (hcheck hw)

end Gatehouse.Json.Decoder
