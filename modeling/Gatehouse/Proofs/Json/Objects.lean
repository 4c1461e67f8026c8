import Gatehouse.Proofs.Json.Records

/-!
# Records written as objects

A record that is written as an object has one member for each field, under the name of the field
and in any order:

    { "enabled": true, "id": "a", "sort": 1 }
       │                │          │
       bool             string     signed 32

If every member is what its field is decoded from, the record is read back (`record_of_rebuilds`).
That is shown field by field (`Rebuilds`), so the law of a record is put together from those of its
fields. Below are the laws of the plain decoders and of lists.
-/

namespace Gatehouse.Json.Decoder

variable {name : String} {fields : List Field} {entries found : List (String × Json)}

/-! ## The first pass -/

/-- Different keys, each of them the name of the field that it stands for. -/
def Named (fields : List Field) (keys : List String) : Prop :=
  keys.Nodup ∧ ∀ k ∈ keys, (fields.find? (·.accepts k)).map Field.name = some k

instance (fields : List Field) (keys : List String) : Decidable (Named fields keys) :=
  inferInstanceAs (Decidable (_ ∧ _))

/-- The first pass over an object collects all members if they are good for their fields. -/
theorem scan_eq (hnew : ∀ k ∈ entries.map Prod.fst, found.lookup k = none)
    (hnamed : Named fields (entries.map Prod.fst))
    (hgood : ∀ f ∈ fields, ∀ v, (f.name, v) ∈ entries → f.check v = .ok ()) :
    scan fields found entries = .ok (entries.reverse ++ found) := by
  induction entries generalizing found with
  | nil => rfl
  | cons e entries ih =>
      obtain ⟨k, v⟩ := e
      obtain ⟨hnodup, hnames⟩ := hnamed
      rw [List.map_cons, List.nodup_cons] at hnodup
      obtain ⟨f, hf, rfl⟩ := Option.map_eq_some_iff.1 (hnames k List.mem_cons_self)
      have hmem : f ∈ fields := List.mem_of_find?_eq_some hf
      have hcheck : f.check v = .ok () := hgood f hmem v List.mem_cons_self
      have hfree : found.lookup f.name = none := hnew f.name List.mem_cons_self
      have hrest : scan fields ((f.name, v) :: found) entries =
          .ok (entries.reverse ++ (f.name, v) :: found) := by
        refine ih (fun k hk => ?_) ⟨hnodup.2, fun k hk => hnames k (List.mem_cons_of_mem _ hk)⟩
          fun g hg w hw => hgood g hg w (List.mem_cons_of_mem _ hw)
        have hne : k ≠ f.name := by
          rintro rfl
          exact hnodup.1 hk
        rw [List.lookup_cons, beq_eq_false_iff_ne.2 hne]
        exact hnew k (List.mem_cons_of_mem _ hk)
      rw [scan, hf]
      simp only [hfree, hcheck, Option.isSome_none]
      rw [List.reverse_cons, List.append_assoc]
      exact hrest

/-! ## Fields -/

/-- Members from which a record is read: there is one for each field, and wherever they are found
the record is what is built. -/
structure Rebuilds (entries : List (String × Json)) (r : Record α) (x : α) : Prop where
  checks : ∀ f ∈ r.fields, (entries.lookup f.name).map f.check = some (.ok ())
  build : ∀ found, (∀ f ∈ r.fields, found.lookup f.name = entries.lookup f.name) →
    r.build found = .ok x

theorem check_of_ok {d : Decoder α} {raw? : Option Json} {x : α}
    (h : raw?.map d = some (.ok x)) :
    raw?.map (fun v => (d v).map fun _ => ()) = some (.ok ()) := by
  obtain ⟨v, rfl, hv⟩ := Option.map_eq_some_iff.1 h
  rw [Option.map_some, hv]
  rfl

@[simp] theorem rebuilds_required {d : Decoder α} {x : α} {aliases : List String}
    (h : (entries.lookup name).map d = some (.ok x)) :
    Rebuilds entries (required name d aliases) x where
  checks f hf := by
    obtain rfl := List.mem_singleton.1 hf
    exact check_of_ok h
  build found hfound := by
    obtain ⟨v, hlookup, hv⟩ := Option.map_eq_some_iff.1 h
    have hfind := hfound _ (List.mem_singleton_self _)
    simp only [required, hlookup] at hfind ⊢
    rw [hfind]
    exact hv

@[simp] theorem rebuilds_optional {d : Decoder α} {default x : α} {aliases : List String}
    (h : (entries.lookup name).map d = some (.ok x)) :
    Rebuilds entries (optional name d default aliases) x where
  checks f hf := by
    obtain rfl := List.mem_singleton.1 hf
    exact check_of_ok h
  build found hfound := by
    obtain ⟨v, hlookup, hv⟩ := Option.map_eq_some_iff.1 h
    have hfind := hfound _ (List.mem_singleton_self _)
    simp only [optional, hlookup] at hfind ⊢
    rw [hfind]
    exact hv

/-- What one field rebuilds may go through a function. -/
theorem Rebuilds.map {r : Record α} {x : α} (h : Rebuilds entries r x) (f : α → β) :
    Rebuilds entries (f <$> r) (f x) where
  checks := h.checks
  build found hfound := by
    show (r.build found).map f = _
    rw [h.build found hfound]
    rfl

/-- The fields of a record are rebuilt one by one. -/
theorem Rebuilds.seq {r : Record (α → β)} {q : Record α} {f : α → β} {x : α}
    (hr : Rebuilds entries r f) (hq : Rebuilds entries q x) : Rebuilds entries (r <*> q) (f x) where
  checks g hg := (List.mem_append.1 hg).elim (hr.checks g) (hq.checks g)
  build found hfound := by
    show (r.build found >>= fun f => q.build found >>= fun x => pure (f x)) = _
    rw [hr.build found fun g hg => hfound g (List.mem_append_left _ hg),
      hq.build found fun g hg => hfound g (List.mem_append_right _ hg)]
    rfl

/-- **Records** are read back from an object with a good member for each field. -/
theorem record_of_rebuilds {typeName : String} {r : Record α} {x : α} (keys : List String)
    (hkeys : entries.map Prod.fst = keys) (hnamed : Named r.fields keys)
    (h : Rebuilds entries r x) : record typeName r (.obj entries) = .ok x := by
  subst hkeys
  have hscan : scan r.fields [] entries = .ok entries.reverse := by
    refine (scan_eq (fun _ _ => rfl) hnamed fun f hf v hv => ?_).trans ?_
    · have hcheck := h.checks f hf
      rw [Keyed.lookup_of_mem hnamed.1 hv] at hcheck
      exact Option.some.inj hcheck
    · rw [List.append_nil]
  show (scan r.fields [] entries >>= r.build) = _
  rw [hscan]
  exact h.build entries.reverse fun f _ => Keyed.lookup_reverse hnamed.1 f.name

/-! ## Plain values -/

@[simp] theorem string_str (s : String) : string (.str s) = .ok s := rfl

@[simp] theorem bool_bool (b : Bool) : bool (.bool b) = .ok b := rfl

/-- A whole number that has a sign and so many bits. -/
def Fits (bits : Nat) (i : Int) : Prop :=
  -(Nat.pow 2 (bits - 1) : Nat) ≤ i ∧ i ≤ (Nat.pow 2 (bits - 1) : Nat) - 1

instance (bits : Nat) (i : Int) : Decidable (Fits bits i) := inferInstanceAs (Decidable (_ ∧ _))

theorem signed_int {bits : Nat} {i : Int} (h : Fits bits i) : signed bits (.int i) = .ok i :=
  if_pos h

/-- Numbers that are decoded fit their bits. -/
theorem fits_of_signed {bits : Nat} {v : Json} {i : Int} (h : signed bits v = .ok i) :
    Fits bits i := by
  cases v with
  | int j =>
      rw [signed, whole] at h
      split at h
      · next hbounds =>
          obtain rfl := Except.ok.inj h
          exact hbounds
      · cases h
  | null | bool | float | str | arr | obj => cases h

/-- Lists are read back if their elements are. -/
theorem list_map {d : Decoder α} {write : α → Json} {xs : List α}
    (h : ∀ x ∈ xs, d (write x) = .ok x) : list d (.arr (xs.map write)) = .ok xs := by
  show each d (xs.map write) = .ok xs
  induction xs with
  | nil => rfl
  | cons x xs ih =>
      obtain ⟨hx, hxs⟩ := List.forall_mem_cons.1 h
      rw [List.map_cons, each, hx, ih hxs]
      rfl

end Gatehouse.Json.Decoder
