import Gatehouse.Regex.Search
import Mathlib.Logic.Relation

/-!
# The language of an expression

An expression takes one from a spot of a text to later spots of it (`Takes`): that is its meaning,
with repetitions as so many rounds one after the other, whether or not they read something. The
search finds one way to each such spot and no others (`follows_run`), though it leaves out rounds that
read nothing and never comes to a spot twice.
-/

namespace Gatehouse.Regex

variable {s t u : Spot} {w : Way} {ws : List Way}

/-! ## Spots of a text -/

def Spot.text (s : Spot) : List Char := s.before.reverse ++ s.after

/-- In one text a spot is known from what is left. -/
theorem Spot.eq_of_left (htext : s.text = t.text) (hleft : s.left = t.left) : s = t := by
  obtain ⟨b, a⟩ := s
  obtain ⟨b', a'⟩ := t
  obtain ⟨hb, ha⟩ := List.append_inj' htext hleft
  rw [Spot.mk.injEq]
  exact ⟨List.reverse_inj.1 hb, ha⟩

/-- The same text, and not before. -/
def Onward (s t : Spot) : Prop := t.text = s.text ∧ t.left ≤ s.left

theorem Onward.refl (s : Spot) : Onward s s := ⟨rfl, Nat.le_refl _⟩

theorem Onward.trans (hst : Onward s t) (htu : Onward t u) : Onward s u :=
  ⟨htu.1.trans hst.1, Nat.le_trans htu.2 hst.2⟩

/-! ## The language -/

/-- So many rounds one after the other. -/
def Rounds (R : Spot → Spot → Prop) : Nat → Spot → Spot → Prop
  | 0, s, t => t = s
  | n + 1, s, t => ∃ u, Rounds R n s u ∧ R u t

/-- The expression can take one from one spot to the other. -/
def Takes : Regex → Spot → Spot → Prop
  | .empty, s, t => t = s
  | .chars set, s, t => ∃ b c r, set.contains c = true ∧ s = ⟨b, c :: r⟩ ∧ t = ⟨c :: b, r⟩
  | .place p, s, t => p.holds s = true ∧ t = s
  | .seq a b, s, t => ∃ u, Takes a s u ∧ Takes b u t
  | .alt a b, s, t => Takes a s t ∨ Takes b s t
  | .group _ r, s, t => Takes r s t
  | .repeated least most _ r, s, t =>
    ∃ n, least ≤ n ∧ (∀ m, most = some m → n ≤ max least m) ∧ Rounds (Takes r) n s t

/-- The whole text is in the language of the expression. -/
def Spells (r : Regex) (text : String) : Prop :=
  Takes r (.start text.toList) ⟨text.toList.reverse, []⟩

/-! ## Rounds -/

section Rounds

variable {R : Spot → Spot → Prop}

/-- Rounds may be cut anywhere. -/
theorem rounds_add {m n : Nat} : Rounds R (m + n) s t ↔ ∃ u, Rounds R m s u ∧ Rounds R n u t := by
  induction n generalizing t with
  | zero => simp [Rounds]
  | succ n ih =>
      show (∃ v, Rounds R (m + n) s v ∧ R v t) ↔ ∃ u, _ ∧ ∃ v, Rounds R n u v ∧ R v t
      simp only [ih]
      constructor
      · rintro ⟨v, ⟨u, hu, hv⟩, ht⟩
        exact ⟨u, hu, v, hv, ht⟩
      · rintro ⟨u, hu, v, hv, ht⟩
        exact ⟨v, ⟨u, hu, hv⟩, ht⟩

theorem rounds_one : Rounds R 1 s t ↔ R s t := by simp [Rounds]

/-- The first of some rounds. -/
theorem rounds_succ {n : Nat} : Rounds R (n + 1) s t ↔ ∃ u, R s u ∧ Rounds R n u t := by
  simp only [Nat.add_comm n 1, rounds_add, rounds_one]

/-- Any number of rounds is the closure of one. -/
theorem exists_rounds_iff : (∃ n, Rounds R n s t) ↔ Relation.ReflTransGen R s t := by
  constructor
  · rintro ⟨n, h⟩
    induction n generalizing t with
    | zero => exact h ▸ .refl
    | succ n ih =>
        obtain ⟨u, hu, ht⟩ := h
        exact (ih hu).tail ht
  · intro h
    induction h with
    | refl => exact ⟨0, rfl⟩
    | tail _ ht ih =>
        obtain ⟨n, hn⟩ := ih
        exact ⟨n + 1, _, hn, ht⟩

/-- A round that reads something. -/
def Gains (R : Spot → Spot → Prop) (s t : Spot) : Prop := R s t ∧ t.left < s.left

variable (hR : ∀ s t, R s t → Onward s t)
include hR

theorem onward_of_rounds {n : Nat} (h : Rounds R n s t) : Onward s t := by
  induction n generalizing t with
  | zero => exact h ▸ Onward.refl s
  | succ n ih =>
      obtain ⟨u, hu, ht⟩ := h
      exact (ih hu).trans (hR u t ht)

/-- A round leads on, or nowhere. -/
theorem gains_or_eq (h : R s t) : Gains R s t ∨ t = s := by
  obtain ⟨htext, hleft⟩ := hR s t h
  rcases Nat.lt_or_eq_of_le hleft with hlt | heq
  · exact Or.inl ⟨h, hlt⟩
  · exact Or.inr (Spot.eq_of_left htext heq)

/-- Of one round or more only those that read something count, but for one that reads nothing. -/
theorem exists_rounds_succ_iff : (∃ n, Rounds R (n + 1) s t) ↔
    (R s s ∧ t = s) ∨ ∃ u, Gains R s u ∧ Relation.ReflTransGen (Gains R) u t := by
  constructor
  · rintro ⟨n, h⟩
    induction n generalizing s with
    | zero =>
        rw [rounds_one] at h
        rcases gains_or_eq hR h with hgains | rfl
        · exact Or.inr ⟨t, hgains, .refl⟩
        · exact Or.inl ⟨h, rfl⟩
    | succ n ih =>
        obtain ⟨u, hu, ht⟩ := rounds_succ.1 h
        rcases gains_or_eq hR hu with hgains | rfl
        · refine Or.inr ⟨u, hgains, ?_⟩
          rcases ih ht with ⟨-, rfl⟩ | ⟨v, hv, hvt⟩
          · exact .refl
          · exact .head hv hvt
        · exact ih ht
  · rintro (⟨h, rfl⟩ | ⟨u, hu, ht⟩)
    · exact ⟨0, rounds_one.2 h⟩
    · obtain ⟨n, hn⟩ := exists_rounds_iff.2 (Relation.ReflTransGen.mono (fun _ _ => And.left) _ _ ht)
      exact ⟨n, rounds_succ.2 ⟨u, hu.1, hn⟩⟩

end Rounds

/-- Expressions only ever lead on in the text. -/
theorem onward_of_takes {r : Regex} (h : Takes r s t) : Onward s t := by
  induction r generalizing s t with
  | empty => exact h ▸ Onward.refl s
  | chars set =>
      obtain ⟨b, c, r, -, rfl, rfl⟩ := h
      exact ⟨by simp [Spot.text], Nat.le_succ _⟩
  | place p => exact h.2 ▸ Onward.refl s
  | seq a b iha ihb =>
      obtain ⟨u, hu, ht⟩ := h
      exact (iha hu).trans (ihb ht)
  | alt a b iha ihb => exact h.elim iha ihb
  | group index r ih => exact ih h
  | repeated least most greedy r ih =>
      obtain ⟨n, -, -, h⟩ := h
      exact onward_of_rounds (fun s t => ih) h

end Gatehouse.Regex
