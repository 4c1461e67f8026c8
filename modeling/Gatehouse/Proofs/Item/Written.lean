import Gatehouse.Item.Format
import Gatehouse.Proofs.Json.Objects
import Gatehouse.Proofs.Json.Slots
import Gatehouse.Proofs.Json.Texts

/-!
# Items written and read again

An entry may be delivered in many forms: with fields left out, under other names, in an array, with
its handle as a value or as text. It is written in one:

    { id: "a", order: 1, … }  ─┐
    [ "a", "divide", … ]      ─┼─parse──▶  item  ──encode──▶  { …, "id": "a", …, "sort": 1 }
    { …, handle: { a: 1 } }   ─┘             ▲                            │
                                             └───────────parse────────────┘

What is read has numbers in range and a handle that is JSON (`sound_of_parse`), and an entry like
that comes back from its written form (`parse_encode_of_sound`). A handle is held as text and is
written as text, so its check finds the same text again; no text that passes it is taken for an
absent handle (`isBlankText_of_checkHandle`). So **what is read is read again from its written
form** (`parse_encode`).
-/

namespace Gatehouse

open Json Json.Decoder

/-! ## Blank handles -/

namespace Json

theorem readNumber_of_blank {s : List Char} (h : ∀ c ∈ s, Text.isBlank c = true) :
    readNumber s = none := by
  cases s with
  | nil => rfl
  | cons c r =>
      have hblank := h c List.mem_cons_self
      have hminus : c ≠ '-' := by
        rintro rfl
        exact absurd hblank (by decide)
      have hdigit : ¬ c.isDigit = true := by
        intro hdigit
        rw [isBlank_digit hdigit] at hblank
        cases hblank
      have hunsigned : readNumber (c :: r) = readUnsigned false (c :: r) := by
        rw [readNumber]
        rintro _ ⟨rfl, -⟩
        exact hminus rfl
      rw [hunsigned, readUnsigned, List.takeWhile_cons_of_neg hdigit]

theorem readValue_of_blank {s : List Char} (h : ∀ c ∈ s, Text.isBlank c = true)
    (fuel depth : Nat) : readValue fuel depth s = none := by
  cases fuel with
  | zero => rfl
  | succ fuel =>
      have hrest : ∀ c ∈ skipSpace s, Text.isBlank c = true :=
        fun c hc => h c ((List.dropWhile_sublist _).mem hc)
      rw [readValue]
      split
      case h_1 => rfl
      case h_8 => exact readNumber_of_blank hrest
      all_goals
        next heq => exact absurd (hrest _ (heq ▸ List.mem_cons_self)) (by decide)

/-- A blank text is not a document. -/
theorem readDocument?_of_blank {t : String} (h : Text.isBlankText t = true) :
    readDocument? t = none := by
  have hall : ∀ c ∈ t.toList, Text.isBlank c = true := List.all_eq_true.1 h
  simp only [readDocument?, readValue_of_blank hall]

end Json

/-- What can be read as JSON is not blank. -/
theorem isBlankText_of_checkHandle {t : String} (h : checkHandle (some t) = .ok ()) :
    Text.isBlankText t = false := by
  rw [Bool.eq_false_iff]
  intro hblank
  rw [checkHandle, readDocument?_of_blank hblank] at h
  cases h

/-! ## Values written and read again -/

theorem decodeHandle_encodeOption {handle : Option String} (h : checkHandle handle = .ok ()) :
    decodeHandle (encodeOption .str handle) = .ok handle := by
  cases handle with
  | none => rfl
  | some t =>
      show Except.ok (if Text.isBlankText t then none else some t) = _
      rw [isBlankText_of_checkHandle h]
      rfl

@[simp] theorem nullable_encodeOption (s : Option String) :
    nullable string (encodeOption .str s) = .ok s := by cases s <;> rfl

theorem nullable_getD {v : Option Json} (h : v ≠ some .null) :
    nullable any (v.getD .null) = .ok v := by
  cases v with
  | none => rfl
  | some v =>
      cases v with
      | null => exact absurd rfl h
      | bool | int | float | str | arr | obj => rfl

/-- What was decoded as optional is never an explicit null. -/
theorem ne_null_of_nullable {v : Json} {x : Option Json} (h : nullable any v = .ok x) :
    x ≠ some .null := by
  rintro rfl
  cases v with
  | null => cases h
  | bool | int | float | str | arr | obj => cases h

@[simp] theorem Match.Source.decode_label (s : Match.Source) :
    Match.Source.decode (.str s.label) = .ok s := by cases s <;> rfl

@[simp] theorem Match.Mode.decode_label (m : Match.Mode) :
    Match.Mode.decode (.str m.label) = .ok m := by cases m <;> rfl

@[simp] theorem Selector.Scope.decode_label (s : Selector.Scope) :
    variant [(fullFlow.label, fullFlow), (custom.label, custom)] (.str s.label) = .ok s := by
  cases s <;> rfl

theorem Match.Condition.decode_encode (c : Match.Condition) :
    Match.Condition.decode c.encode = .ok c := by
  obtain ⟨source, operator, name, value⟩ := c
  refine record_of_rebuilds ["operator", "paramName", "paramType", "paramValue"] rfl (by decide) ?_
  repeat' apply Rebuilds.seq
  apply Rebuilds.map
  all_goals simp [List.lookup_cons]

theorem conditions_map_encode (cs : List Match.Condition) :
    list Match.Condition.decode (.arr (cs.map Match.Condition.encode)) = .ok cs :=
  list_map fun c _ => c.decode_encode

/-! ## Entries of each kind -/

theorem Descriptor.decode_encode {d : Descriptor} (hsort : Fits 32 d.sort)
    (hconfig : d.config ≠ some .null) : Descriptor.decode d.encode = .ok d := by
  obtain ⟨id, name, sort, enabled, config⟩ := d
  refine record_of_rebuilds ["config", "enabled", "id", "name", "sort"] rfl (by decide) ?_
  repeat' apply Rebuilds.seq
  apply Rebuilds.map
  all_goals simp [List.lookup_cons, signed_int hsort, nullable_getD hconfig]

theorem Selector.decode_encode {s : Selector} (hsort : Fits 32 s.sort)
    (hhandle : checkHandle s.handle = .ok ()) : Selector.decode s.encode = .ok s := by
  obtain ⟨id, stage, name, mode, scope, sort, enabled, continued, conditions, handle⟩ := s
  refine record_of_rebuilds ["conditions", "continued", "enabled", "handle", "id", "matchMode",
    "name", "pluginName", "sort", "type"] rfl (by decide) ?_
  repeat' apply Rebuilds.seq
  apply Rebuilds.map
  all_goals simp [List.lookup_cons, conditions_map_encode, signed_int hsort,
    decodeHandle_encodeOption hhandle]

theorem Rule.decode_encode {r : Rule} (hsort : Fits 32 r.sort)
    (hhandle : checkHandle r.handle = .ok ()) : Rule.decode r.encode = .ok r := by
  obtain ⟨id, selectorId, stage, name, mode, sort, enabled, conditions, handle⟩ := r
  refine record_of_rebuilds ["conditions", "enabled", "handle", "id", "matchMode", "name",
    "pluginName", "selectorId", "sort"] rfl (by decide) ?_
  repeat' apply Rebuilds.seq
  apply Rebuilds.map
  all_goals simp [List.lookup_cons, conditions_map_encode, signed_int hsort,
    decodeHandle_encodeOption hhandle]

/-- Services are read back as they are. -/
theorem Service.decode_encode (s : Service) : Service.decode s.encode = .ok s := by
  obtain ⟨id, appName, contextPath, path, rpcType, serviceName, methodName, enabled⟩ := s
  refine record_of_rebuilds ["appName", "contextPath", "enabled", "id", "methodName", "path",
    "rpcType", "serviceName"] rfl (by decide) ?_
  repeat' apply Rebuilds.seq
  apply Rebuilds.map
  all_goals simp [List.lookup_cons]

theorem Credential.decode_encode (c : Credential) : Credential.decode c.encode = .ok c := by
  obtain ⟨key, secret, enabled, restricted, paths⟩ := c
  have hpaths : list string (.arr (paths.map .str)) = .ok paths := list_map fun _ _ => rfl
  refine record_of_rebuilds ["appKey", "appSecret", "enabled", "open", "paths"] rfl (by decide) ?_
  repeat' apply Rebuilds.seq
  apply Rebuilds.map
  all_goals simp [List.lookup_cons, hpaths]

/-! ## What is read -/

theorem yields_sort {aliases : List String} :
    Yields (Decoder.optional "sort" (signed 32) 0 aliases) (Fits 32) :=
  yields_optional (fun _ _ => fits_of_signed) (by decide)

/-- Whatever a descriptor was read from, its order fits 32 bits and its configuration is not null.
-/
theorem Descriptor.sound_of_decode {raw : Json} {d : Descriptor}
    (h : Descriptor.decode raw = .ok d) : Fits 32 d.sort ∧ d.config ≠ some .null := by
  have hconfig : Yields (Decoder.optional "config" (nullable any) none []) (· ≠ some .null) :=
    yields_optional (fun _ _ => ne_null_of_nullable) (by decide)
  refine Yields.record (P := fun d => Fits 32 d.sort ∧ d.config ≠ some .null) ?_ h
  refine .seq_of (.seq (.seq_of (.seq (.map ?_)) yields_sort)) hconfig
  exact fun _ _ _ hsort _ _ hconfig => ⟨hsort, hconfig⟩

theorem Selector.fits_sort_of_decode {raw : Json} {s : Selector}
    (h : Selector.decode raw = .ok s) : Fits 32 s.sort := by
  refine Yields.record (P := fun s => Fits 32 s.sort) ?_ h
  refine .seq (.seq (.seq (.seq (.seq_of ?_ yields_sort))))
  iterate 4 apply Yields.seq
  apply Yields.map
  exact fun _ _ _ _ _ _ hsort _ _ _ _ => hsort

theorem Rule.fits_sort_of_decode {raw : Json} {r : Rule}
    (h : Rule.decode raw = .ok r) : Fits 32 r.sort := by
  refine Yields.record (P := fun r => Fits 32 r.sort) ?_ h
  refine .seq (.seq (.seq (.seq_of ?_ yields_sort)))
  iterate 4 apply Yields.seq
  apply Yields.map
  exact fun _ _ _ _ _ _ hsort _ _ _ => hsort

/-- The name of the member that an entry of a group has its key under. -/
def Group.keyName : Group → String
  | .plugin => "name"
  | .selector | .rule => "id"
  | .metaData => "path"
  | .appAuth => "appKey"

namespace Item

/-- An entry that can be delivered: the numbers are in range, and what is held as text or left
open is not taken for something else. -/
def Sound : Item → Prop
  | descriptor d => Fits 32 d.sort ∧ d.config ≠ some .null
  | selector s => Fits 32 s.sort ∧ checkHandle s.handle = .ok ()
  | rule r => Fits 32 r.sort ∧ checkHandle r.handle = .ok ()
  | service _ | credential _ => True

/-- Whatever an entry was read from, it can be delivered again. -/
theorem sound_of_parse {group : Group} {raw : Json} {item : Item}
    (h : parse group raw = .ok item) : item.Sound := by
  cases group <;> simp only [parse] at h
  case plugin =>
    obtain ⟨d, hd, rfl⟩ := exists_of_map h
    exact Descriptor.sound_of_decode (ok_of_mapError hd)
  case selector =>
    obtain ⟨s, hs, h⟩ := exists_of_bind h
    split at h
    · next hhandle =>
        obtain rfl := Except.ok.inj h
        exact ⟨Selector.fits_sort_of_decode (ok_of_mapError hs), hhandle⟩
    · cases h
  case rule =>
    obtain ⟨r, hr, h⟩ := exists_of_bind h
    split at h
    · next hhandle =>
        obtain rfl := Except.ok.inj h
        exact ⟨Rule.fits_sort_of_decode (ok_of_mapError hr), hhandle⟩
    · cases h
  case metaData =>
    obtain ⟨s, -, rfl⟩ := exists_of_map h
    trivial
  case appAuth =>
    obtain ⟨c, -, rfl⟩ := exists_of_map h
    trivial

/-- Entries that can be delivered are read back as they are. -/
theorem parse_encode_of_sound {item : Item} (h : item.Sound) :
    parse item.group item.encode = .ok item := by
  cases item with
  | descriptor d =>
      rw [group, encode, parse, Descriptor.decode_encode h.1 h.2]
      rfl
  | selector s =>
      obtain ⟨hsort, hhandle⟩ := h
      rw [group, encode, parse, Selector.decode_encode hsort hhandle]
      simp [mapError_ok, Except.bind, hhandle]
  | rule r =>
      obtain ⟨hsort, hhandle⟩ := h
      rw [group, encode, parse, Rule.decode_encode hsort hhandle]
      simp [mapError_ok, Except.bind, hhandle]
  | service s =>
      rw [group, encode, parse, Service.decode_encode]
      rfl
  | credential c =>
      rw [group, encode, parse, Credential.decode_encode]
      rfl

/-- The delivered form names an entry by its key. -/
theorem get?_encode_keyName (item : Item) :
    item.encode.get? item.group.keyName = some (.str item.key) := by
  cases item <;> rfl

/-- **Entries** that are read come back from their written form, which has their key under the
name that the group has for it. -/
theorem parse_encode {group : Group} {raw : Json} {item : Item} (h : parse group raw = .ok item) :
    parse group item.encode = .ok item ∧
      item.encode.get? group.keyName = some (.str item.key) := by
  obtain rfl := group_of_parse h
  exact ⟨parse_encode_of_sound (sound_of_parse h), get?_encode_keyName item⟩

/-- A handle given as a value, a member that is passed over and conditions with parts left out. -/
theorem parse_encode_backend :
    let raw : Json := .obj [("conditions", .arr [.obj [("operator", .str "="),
        ("paramType", .str "uri")]]),
      ("handle", .obj [("url", .str "a\"b"), ("weight", .int (-5))]), ("id", .str "s"),
      ("note", .null), ("pluginName", .str "divide"), ("sort", .int 3)]
    let handle := "\x7b\"url\":\"a\\\"b\",\"weight\":-5\x7d"
    let selector : Selector :=
      { id := "s", stage := "divide", name := "", mode := .all, scope := .custom, sort := 3,
        enabled := false, continued := false, conditions := [⟨.uri, "=", "", ""⟩],
        handle := some handle }
    parse .selector raw = .ok (.selector selector) ∧
      parse .selector selector.encode = .ok (.selector selector) ∧
      selector.encode.get? "id" = some (.str "s") := by
  intro raw handle selector
  have hdecode : Selector.decode raw = .ok selector := rfl
  have hcheck : checkHandle selector.handle = .ok () := by
    have hsome : (readDocument? handle).isSome = true := by decide +kernel
    obtain ⟨v, hv⟩ := Option.isSome_iff_exists.1 hsome
    show checkHandle (some handle) = _
    rw [checkHandle, hv]
  have hread : parse .selector raw = .ok (.selector selector) := by
    rw [parse, hdecode, mapError_ok]
    show Except.bind (.ok selector) _ = _
    rw [Except.bind]
    simp only [hcheck]
  exact ⟨hread, parse_encode hread⟩

end Item

end Gatehouse
