import Gatehouse.Item.Format
import Gatehouse.Proofs.Json.Slots
import Gatehouse.Proofs.Json.Texts

/-!
# Handles given as values and as texts

A handle may be delivered as a piece of JSON or as its text, and the two are held alike:

    { id: "a", …, handle: [ { weight: 1 } ] }
                                                ──parse──▶  handle := the text
    { id: "a", …, handle: "[{\"weight\":1}]" }

An entry with its handle left open (`Blank`) is read once and for all: what is put there is the
handle of what is read, and nothing else of it (`parse_blank`). A value goes through its text
without loss, so **both forms are read alike**, and what the stage reads off the text is what it
would read off the value (`parse_inline`).
-/

namespace Gatehouse

open Json Json.Decoder

variable {group : Group} {item : Json → Json} {v w : Json} {handle : Option String}

/-- A value that is not text itself is held as its text. -/
theorem decodeHandle_inline (hnull : v ≠ .null) (htext : ∀ t, v ≠ .str t) :
    decodeHandle v = .ok (some v.toText) := by
  cases v with
  | null => exact absurd rfl hnull
  | str t => exact absurd rfl (htext t)
  | bool | int | float | arr | obj => rfl

theorem decodeHandle_toText (h : Exact depth v) :
    decodeHandle (.str v.toText) = .ok (some v.toText) := by
  rw [decodeHandle, h.isBlankText_toText]
  rfl

theorem checkHandle_toText (h : Exact maxDepth v) : checkHandle (some v.toText) = .ok () := by
  rw [checkHandle, h.readDocument?_toText]

/-- What is read off the text of a value is what the value itself is decoded to. -/
theorem parseHandle_toText (h : Exact maxDepth v) (d : Decoder α) (default : α) :
    parseHandle d default (some v.toText) = (d v).mapError fun e =>
      .unparsable ("invalid handle '" ++ v.toText ++ "': " ++ e.message) := by
  rw [parseHandle, h.readDocument?_toText, Option.map_some]
  cases d v <;> rfl

/-! ## Entries with the handle left open -/

/-- What is put in the place of the handle is the handle of the selector. -/
theorem Selector.decode_slot (hitem : Slot "handle" 9 item) (hw : decodeHandle w = .ok handle) :
    Selector.decode (item w) =
      (Selector.decode (item .null)).map fun s => { s with handle := handle } := by
  refine record_slot (fun handle (s : Selector) => { s with handle := handle }) ?_ ?_ hitem rfl hw
  · repeat' apply Apart.seq
    apply Apart.map
    all_goals simp
  · iterate 8 apply Yields.seq
    apply Yields.map
    intros
    rfl

/-- Null counts as no handle at all. -/
theorem Selector.handle_of_null {s : Selector} (hitem : Slot "handle" 9 item)
    (h : Selector.decode (item .null) = .ok s) : s.handle = none := by
  have hself := Selector.decode_slot hitem (show decodeHandle .null = .ok none from rfl)
  rw [h] at hself
  exact congrArg Selector.handle (Except.ok.inj hself)

/-- What is put in the place of the handle is the handle of the rule. -/
theorem Rule.decode_slot (hitem : Slot "handle" 8 item) (hw : decodeHandle w = .ok handle) :
    Rule.decode (item w) =
      (Rule.decode (item .null)).map fun r => { r with handle := handle } := by
  refine record_slot (fun handle (r : Rule) => { r with handle := handle }) ?_ ?_ hitem rfl hw
  · repeat' apply Apart.seq
    apply Apart.map
    all_goals simp
  · iterate 7 apply Yields.seq
    apply Yields.map
    intros
    rfl

theorem Rule.handle_of_null {r : Rule} (hitem : Slot "handle" 8 item)
    (h : Rule.decode (item .null) = .ok r) : r.handle = none := by
  have hself := Rule.decode_slot hitem (show decodeHandle .null = .ok none from rfl)
  rw [h] at hself
  exact congrArg Rule.handle (Except.ok.inj hself)

namespace Item

/-- An entry is called the same in faults, whatever its handle. -/
theorem hint_slot {place : Nat} (hitem : Slot "handle" place item) (v w : Json) :
    hint (item v) = hint (item w) := by
  have hget : ∀ k, k ≠ "handle" → (item v).get? k = (item w).get? k := by
    intro k hk
    cases hitem with
    | member before after =>
        rw [get?, get?, List.lookup_append, List.lookup_append, List.lookup_cons, List.lookup_cons,
          beq_eq_false_iff_ne.2 hk]
    | element before after h => rfl
  rw [hint, hint, hget "id" (by decide), hget "name" (by decide), hget "appKey" (by decide)]

/-- The place of the handle in an array that stands for an entry of a group. -/
def handlePlace? : Group → Option Nat
  | .selector => some 9
  | .rule => some 8
  | _ => none

/-- An entry of a group that has handles, with its handle left open. -/
def Blank (group : Group) (item : Json → Json) : Prop :=
  ∃ place ∈ handlePlace? group, Slot "handle" place item

/-- An entry with another handle. -/
def withHandle (handle : Option String) : Item → Item
  | .selector s => .selector { s with handle := handle }
  | .rule r => .rule { r with handle := handle }
  | item => item

/-- **A handle** is read on its own: it is good for an entry if it is JSON, and changes nothing
else of it. -/
theorem parse_blank (hitem : Blank group item) (hw : decodeHandle w = .ok handle)
    (hcheck : checkHandle handle = .ok ()) :
    parse group (item w) = (parse group (item .null)).map (withHandle handle) := by
  obtain ⟨place, hplace, hslot⟩ := hitem
  have habsent : checkHandle none = .ok () := rfl
  cases group with
  | selector =>
      obtain rfl := Option.some.inj hplace
      rw [parse, parse, Selector.decode_slot hslot hw, hint_slot hslot w .null]
      cases hdecode : Selector.decode (item .null) with
      | error e => rfl
      | ok s =>
          have hnone : s.handle = none := Selector.handle_of_null hslot hdecode
          simp [mapError_ok, Except.map, Except.bind, hnone, habsent, hcheck, withHandle]
  | rule =>
      obtain rfl := Option.some.inj hplace
      rw [parse, parse, Rule.decode_slot hslot hw, hint_slot hslot w .null]
      cases hdecode : Rule.decode (item .null) with
      | error e => rfl
      | ok r =>
          have hnone : r.handle = none := Rule.handle_of_null hslot hdecode
          simp [mapError_ok, Except.map, Except.bind, hnone, habsent, hcheck, withHandle]
  | plugin | metaData | appAuth => cases hplace

/-- **Handles**: the value and its text are read alike, and are as good as no handle at all. The
text is held, it is a document of the value, and what is read off it is what the value itself is
decoded to. -/
theorem parse_inline (hitem : Blank group item) (hv : Exact maxDepth v) (hnull : v ≠ .null)
    (htext : ∀ t, v ≠ .str t) :
    parse group (item v) = parse group (item (.str v.toText)) ∧
      parse group (item v) = (parse group (item .null)).map (withHandle (some v.toText)) ∧
      (readDocument? v.toText = some v ∧ parse? v.toText = some v.canonical) ∧
      ∀ {α : Type} (d : Decoder α) (default : α),
        parseHandle d default (some v.toText) = (d v).mapError fun e =>
          .unparsable ("invalid handle '" ++ v.toText ++ "': " ++ e.message) := by
  have hinline := parse_blank hitem (decodeHandle_inline hnull htext) (checkHandle_toText hv)
  have hgiven := parse_blank hitem (decodeHandle_toText hv) (checkHandle_toText hv)
  have hread := hv.readDocument?_toText
  refine ⟨hinline.trans hgiven.symm, hinline, ⟨hread, ?_⟩, fun d default => ?_⟩
  · rw [parse?, hread]
    rfl
  · exact parseHandle_toText hv d default

/-- Quotation marks and line ends come back. -/
theorem parse_inline_backends :
    let backends : Json := .arr [.obj [("note", .str "a \"b\"\n"), ("weight", .int (-5))]]
    let text := "[\x7b\"note\":\"a \\\"b\\\"\\n\",\"weight\":-5\x7d]"
    let item (handle : Json) : Json :=
      .obj [("enabled", .bool true), ("handle", handle), ("id", .str "s"),
        ("pluginName", .str "divide")]
    let selector : Selector :=
      { id := "s", stage := "divide", name := "", mode := .all, scope := .custom, sort := 0,
        enabled := true, continued := false, conditions := [], handle := some text }
    parse .selector (item backends) = .ok (.selector selector) ∧
      parse .selector (item (.str text)) = .ok (.selector selector) ∧
      parseHandle any .null selector.handle = .ok backends := by
  intro backends text item selector
  have hitem : Blank .selector item :=
    ⟨9, rfl, .member [("enabled", .bool true)] [("id", .str "s"), ("pluginName", .str "divide")]⟩
  have hexact : Exact maxDepth backends := by
    refine .arr fun v hv => ?_
    obtain rfl := List.mem_singleton.1 hv
    refine .obj fun f hf => ?_
    simp only [List.mem_cons, List.not_mem_nil, or_false] at hf
    rcases hf with rfl | rfl
    · exact .str _
    · exact .int (by decide) (by decide)
  have htext : backends.toText = text := by decide
  obtain ⟨hsame, hheld, -, hparsed⟩ :=
    parse_inline hitem hexact Json.noConfusion fun _ => Json.noConfusion
  rw [htext] at hsame hheld
  have hread : parse .selector (item backends) = .ok (.selector selector) := hheld.trans rfl
  refine ⟨hread, hsame.symm.trans hread, ?_⟩
  show parseHandle any .null (some text) = _
  rw [← htext, hparsed]
  rfl

end Item

end Gatehouse
