import Gatehouse.Text.Basic
import Gatehouse.Unicode.Lower

/-!
# ASCII texts

Of ASCII characters only the capital letters have another lower case, whatever stands around them
(`lower_of_ascii`). So a text without capitals is the lower case of its upper case
(`map_toLower_toUpper`).
-/

namespace Gatehouse

/-- A text of ASCII characters, as all names of headers are. -/
def Text.IsAscii (s : String) : Prop := ∀ c ∈ s.toList, c.toNat < 0x80

instance (s : String) : Decidable (Text.IsAscii s) :=
  decidable_of_iff (s.toList.all fun c => c.toNat < 0x80) (by simp [Text.IsAscii])

namespace Text

/-- What is shown of each of the first 128 characters holds of all of ASCII. -/
theorem forall_ascii {P : Char → Prop} (h : ∀ n : Fin 128, P (Char.ofNat n)) {c : Char}
    (hc : c.toNat < 0x80) : P c := by
  rw [← Char.ofNat_toNat c]
  exact h ⟨c.toNat, hc⟩

theorem toNat_toUpper_lt {c : Char} (h : c.toNat < 0x80) : c.toUpper.toNat < 0x80 :=
  forall_ascii (P := fun c => c.toUpper.toNat < 0x80) (by decide) h

theorem toLower_toUpper {c : Char} (h : c.toNat < 0x80) (hcapital : c.isUpper = false) :
    c.toUpper.toLower = c :=
  forall_ascii (P := fun c => c.isUpper = false → c.toUpper.toLower = c) (by decide) h hcapital

/-- A text without capitals is the lower case of its upper case. -/
theorem map_toLower_toUpper {s : List Char} (h : ∀ c ∈ s, c.toNat < 0x80 ∧ c.isUpper = false) :
    (s.map Char.toUpper).map Char.toLower = s := by
  have hback : ∀ c ∈ s, (Char.toLower ∘ Char.toUpper) c = id c :=
    fun c hc => toLower_toUpper (h c hc).1 (h c hc).2
  rw [List.map_map, List.map_congr_left hback, List.map_id]

end Text

namespace Unicode

theorem lowerWithin_of_ascii {c : Char} (h : c.toNat < 0x80) (before after : List Char) :
    lowerWithin before c after = [c.toLower] := by
  have hsigma : c ≠ 'Σ' := by
    rintro rfl
    exact absurd h (by decide)
  rw [lowerWithin, if_neg hsigma, lowerChar, if_pos h]

/-- Letter by letter, as no ASCII letter looks at its neighbours. -/
theorem lowerFrom_of_ascii {s : List Char} (h : ∀ c ∈ s, c.toNat < 0x80) (before : List Char) :
    lowerFrom before s = s.map Char.toLower := by
  induction s generalizing before with
  | nil => rfl
  | cons c s ih =>
      obtain ⟨hc, hs⟩ := List.forall_mem_cons.1 h
      rw [lowerFrom, lowerWithin_of_ascii hc, ih hs, List.map_cons, List.singleton_append]

/-- ASCII texts have one lower case. -/
theorem lower_of_ascii {s : String} (h : Text.IsAscii s) : lower s = Text.lowerAscii s := by
  rw [lower, lowerFrom_of_ascii h, Text.lowerAscii]

end Unicode

end Gatehouse
