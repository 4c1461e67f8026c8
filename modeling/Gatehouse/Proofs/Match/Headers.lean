import Gatehouse.Match.Condition
import Gatehouse.Proofs.Http.Fields
import Gatehouse.Proofs.Text.Ascii

/-!
# Headers and their two readers

A request may give a header several times, and with values that cannot be read as text. It is read
in two ways. The stages that act on a header take its first value, if that can be read
(`Request.header?`). A condition sees the last value that can be read (`Source.header`), since the
attributes keep one value for each name:

    values in order     stages    conditions
    1                   1         1
    1, é                1         1
    1, 2                1         2
    é, 2                none      2

Both readers are told by the list of the values of a name (`header?_eq`, `read?_header_eq`). **They
see the same value exactly if no value can be read, or the first value is also the last one that
can be read** (`readers_agree_iff`), so a request may pass a condition with one value and be acted
on with another (`not_readers_agree`).
-/

namespace Gatehouse

/-! ## Values -/

namespace Http.Headers

/-- Values of which the first one is the last one that can be read, if any can be read. -/
def Coherent (values : List String) : Prop :=
  (∀ v ∈ values, isReadable v = false) ∨
    ∃ v, values.head? = some v ∧ isReadable v = true ∧
      (values.filter isReadable).getLast? = some v

/-- A value that is alone stands for itself. -/
theorem Coherent.of_length_le_one {values : List String} (h : values.length ≤ 1) :
    Coherent values := by
  match values, h with
  | [], _ => exact Or.inl (by simp)
  | [v], _ =>
      cases hv : isReadable v with
      | false => exact Or.inl (by simp [hv])
      | true => exact Or.inr ⟨v, rfl, hv, by simp [hv]⟩

/-- The two readings of a header agree exactly on coherent values. -/
theorem coherent_iff {values : List String} :
    (values.filter isReadable).getLast? = values.head?.filter isReadable ↔ Coherent values := by
  constructor
  · intro h
    cases hfirst : values.head?.filter isReadable with
    | none =>
        rw [hfirst, List.getLast?_eq_none_iff, List.filter_eq_nil_iff] at h
        exact Or.inl fun v hv => Bool.eq_false_iff.2 (h v hv)
    | some v =>
        obtain ⟨hhead, hv⟩ := Option.filter_eq_some_iff.1 hfirst
        exact Or.inr ⟨v, hhead, hv, h.trans hfirst⟩
  · intro h
    rcases h with hnone | ⟨v, hhead, hv, hlast⟩
    · have hnil : values.filter isReadable = [] :=
        List.filter_eq_nil_iff.2 fun v hv => Bool.eq_false_iff.1 (hnone v hv)
      have hfirst : values.head?.filter isReadable = none := by
        apply Option.filter_eq_none_iff.2
        intro v hv
        exact Bool.eq_false_iff.1 (hnone v (List.mem_of_head? hv))
      rw [hnil, hfirst, List.getLast?_nil]
    · rw [hlast, hhead, Option.filter_some_pos hv]

end Http.Headers

/-! ## Readers -/

namespace Match

open Http Http.Headers

/-- Stages read the first value. -/
theorem header?_eq (r : Request) (name : String) :
    r.header? name =
      (valuesOf (Text.lowerAscii name) r.headers.fields).head?.filter isReadable := by
  rw [Request.header?, Headers.read?, first?_eq]

/-- Conditions read the last value that can be read. -/
theorem read?_header_eq (r : Request) {name : String} (h : Text.IsAscii name) :
    Source.header.read? name (.ofRequest r) =
      ((valuesOf (Text.lowerAscii name) r.headers.fields).filter isReadable).getLast? := by
  show (Keyed.ofList (r.headers.fields.filter fun f => isReadable f.2)).lookup _ = _
  rw [Unicode.lower_of_ascii h, Keyed.lookup_ofList, lookup_eq_head?, valuesOf_reverse,
    valuesOf_filter, List.head?_reverse]

/-- **Two readers** of a header see the same value exactly if its values are coherent. -/
theorem readers_agree_iff (r : Request) {name : String} (h : Text.IsAscii name) :
    Source.header.read? name (.ofRequest r) = r.header? name ↔
      Coherent (valuesOf (Text.lowerAscii name) r.headers.fields) := by
  rw [read?_header_eq r h, header?_eq]
  exact coherent_iff

/-- Where the values of a header are coherent, a condition on it judges the value that the stages
act on. -/
theorem holds_header_iff (r : Request) {c : Condition} (hsource : c.source = .header)
    (hname : Text.IsAscii c.name)
    (h : Coherent (valuesOf (Text.lowerAscii c.name) r.headers.fields)) :
    c.holds (.ofRequest r) = true ↔
      ∃ v, r.header? c.name = some v ∧ (Operator.compile c.operator c.value).isMatch v = true := by
  have hread : c.read? (.ofRequest r) = r.header? c.name := by
    rw [Condition.read?, hsource, read?_header_eq r hname, header?_eq]
    exact coherent_iff.2 h
  rw [Condition.holds, hread]
  cases r.header? c.name with
  | none => simp
  | some v => simp

/-- A request that names its kind twice. -/
def twoKinds : Request :=
  { Request.ofTarget "GET" "/" with
    headers := .ofList [("rpc_type", "http"), ("rpc_type", "dubbo")] }

theorem isAscii_kind : Text.IsAscii "rpc_type" := by decide

/-- The stages act on the first kind, and conditions judge the second one. -/
theorem readers_agree_iff_twoKinds : Text.IsAscii "rpc_type" ∧
    ¬ Source.header.read? "rpc_type" (.ofRequest twoKinds) = twoKinds.header? "rpc_type" := by
  refine ⟨isAscii_kind, ?_⟩
  rw [readers_agree_iff twoKinds isAscii_kind, ← coherent_iff]
  decide

theorem not_readers_agree : ¬ ∀ (r : Request) (name : String), Text.IsAscii name →
    Source.header.read? name (.ofRequest r) = r.header? name := by
  intro hall
  have hagree := hall twoKinds "rpc_type" isAscii_kind
  rw [read?_header_eq twoKinds isAscii_kind, header?_eq] at hagree
  exact absurd hagree (by decide)

end Match

end Gatehouse
