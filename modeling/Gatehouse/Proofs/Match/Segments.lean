import Gatehouse.Proofs.Match.Variables
import Mathlib.Data.List.Chain

/-!
# Path patterns by segments

Most path patterns are segments between slashes, and every segment is made of letters that stand for
themselves and of wildcards, stars or names in braces.

    pattern     `/users/{id}/*.json`
    segments    ε    `users`    `{id}`    `*.json`

A text fits such a pattern segment by segment (`Segment.Fits`). The pattern is read piece by piece,
one token for each, as long as no segment is two wildcards and nothing else (`PathPattern.reads`): two
such wildcards are read together and stand for whole segments.
-/

namespace Gatehouse.Match

open Text

/-! ## Patterns -/

/-- A character that stands for itself in a segment. -/
abbrev Letter := {c : Char // c ≠ '/' ∧ c ∉ Glob.reserved}

/-- The name of a variable. -/
abbrev VariableName := {name : List Char // '/' ∉ name ∧ '\x7d' ∉ name}

inductive Piece where
  | letter (c : Letter)
  | star
  | named (name : VariableName)
deriving DecidableEq

namespace Piece

/-- Whether a part stands for any text. -/
def isWild : Piece → Bool
  | letter _ => false
  | star => true
  | named _ => true

def text : Piece → List Char
  | letter c => [c.1]
  | star => ['*']
  | named name => '\x7b' :: (name.1 ++ ['\x7d'])

/-- A part with a star in place of a variable. -/
def mark : Piece → Char
  | letter c => c.1
  | star => '*'
  | named _ => '*'

/-- The token of a part. -/
def token : Piece → GlobToken
  | letter c => .literal c.1
  | star => .anyRun
  | named _ => .anyRun

theorem mark_of_isWild {w : Piece} (h : w.isWild = true) : w.mark = '*' := by
  cases w with
  | letter c => cases h
  | star => rfl
  | named name => rfl

theorem token_of_isWild {w : Piece} (h : w.isWild = true) : w.token = .anyRun := by
  cases w with
  | letter c => cases h
  | star => rfl
  | named name => rfl

theorem mark_ne_slash (w : Piece) : w.mark ≠ '/' := by
  cases w with
  | letter c => exact c.2.1
  | star => exact fun h => absurd h (by decide)
  | named name => exact fun h => absurd (show '*' = '/' from h) (by decide)

theorem mark_eq_star_iff {w : Piece} : w.mark = '*' ↔ w.isWild = true := by
  refine ⟨fun h => ?_, mark_of_isWild⟩
  cases w with
  | letter c => exact absurd (show '*' ∈ Glob.reserved by decide) (h ▸ c.2.2)
  | star => rfl
  | named name => rfl

end Piece

/-- What stands between two slashes. -/
abbrev Segment := List Piece

namespace Segment

def text (s : Segment) : List Char := s.flatMap Piece.text

def marks (s : Segment) : List Char := s.map Piece.mark

def letters (s : Segment) : List Char :=
  s.filterMap fun
    | .letter c => some c.1
    | _ => none

def tokens (s : Segment) : Glob := s.map Piece.token

/-- A text fits a segment if it is the segment with every wildcard replaced by some text without a
slash. -/
inductive Fits : Segment → List Char → Prop
  | nil : Fits [] []
  | letter {c : Letter} {s : Segment} {t : List Char} : Fits s t → Fits (.letter c :: s) (c.1 :: t)
  | wild {w : Piece} {s : Segment} {a t : List Char} :
      w.isWild = true → '/' ∉ a → Fits s t → Fits (w :: s) (a ++ t)

/-- No two wildcards stand next to each other. -/
def Apart (s : Segment) : Prop := s.IsChain fun v w => ¬ (v.isWild = true ∧ w.isWild = true)

instance {s : Segment} : Decidable s.Apart := inferInstanceAs (Decidable (List.IsChain _ s))

/-- A segment is two wildcards and nothing else. -/
def IsDouble (s : Segment) : Prop := ∃ v w, s = [v, w] ∧ v.isWild = true ∧ w.isWild = true

theorem Apart.not_isDouble {s : Segment} (h : s.Apart) : ¬ s.IsDouble := by
  rintro ⟨v, w, rfl, hv, hw⟩
  exact (List.isChain_cons_cons.1 h).1 ⟨hv, hw⟩

/-- Two wildcards alone in a segment look like `**`. -/
theorem isDouble_iff_marks {s : Segment} : s.IsDouble ↔ s.marks = ['*', '*'] := by
  constructor
  · rintro ⟨v, w, rfl, hv, hw⟩
    simp [marks, Piece.mark_of_isWild hv, Piece.mark_of_isWild hw]
  · intro h
    obtain ⟨v, s, rfl, hv, h⟩ := List.map_eq_cons_iff.1 h
    obtain ⟨w, s, rfl, hw, h⟩ := List.map_eq_cons_iff.1 h
    obtain rfl := List.map_eq_nil_iff.1 h
    exact ⟨v, w, rfl, Piece.mark_eq_star_iff.1 hv, Piece.mark_eq_star_iff.1 hw⟩

instance {s : Segment} : Decidable s.IsDouble := decidable_of_iff _ isDouble_iff_marks.symm

theorem slash_not_mem_marks (s : Segment) : '/' ∉ s.marks := by
  intro h
  obtain ⟨w, -, hw⟩ := List.mem_map.1 h
  exact w.mark_ne_slash hw

theorem of_mem_letters {s : Segment} {c : Char} (hc : c ∈ s.letters) :
    c ≠ '/' ∧ c ∉ Glob.reserved := by
  obtain ⟨w, -, hw⟩ := List.mem_filterMap.1 hc
  cases w with
  | letter d => exact Option.some.inj hw ▸ d.2
  | star => cases hw
  | named name => cases hw

theorem fits_letters (s : Segment) : s.Fits s.letters := by
  induction s with
  | nil => exact .nil
  | cons w s ih =>
      cases w with
      | letter c => exact .letter ih
      | star => exact .wild (a := []) rfl List.not_mem_nil ih
      | named name => exact .wild (a := []) rfl List.not_mem_nil ih

/-- Each segment is marked by itself, whatever stands behind it. -/
theorem starred_text_append (s : Segment) (t : List Char) :
    Operator.starred (s.text ++ t) = s.marks ++ Operator.starred t := by
  induction s with
  | nil => rfl
  | cons w s ih =>
      show Operator.starred ((w.text ++ Segment.text s) ++ t) = w.mark :: (Segment.marks s ++ _)
      rw [List.append_assoc, ← ih]
      cases w with
      | letter c =>
          have hc : c.1 ≠ '\x7b' := fun hc => c.2.2 (hc ▸ by decide)
          exact Operator.starred_cons hc
      | star => exact Operator.starred_cons (by decide)
      | named name =>
          rw [Piece.text, List.cons_append, List.append_assoc]
          exact Operator.starred_name name.2.2

theorem Fits.slash_not_mem {s : Segment} {t : List Char} (h : s.Fits t) : '/' ∉ t := by
  induction h with
  | nil => exact List.not_mem_nil
  | @letter c s t _ ih => simp [ih, Ne.symm c.2.1]
  | wild _ ha _ ih => simp [ha, ih]

end Segment

/-- A path pattern: one segment, or several with slashes in between. -/
structure PathPattern where
  first : Segment
  others : List Segment

namespace PathPattern

def segments (p : PathPattern) : List Segment := p.first :: p.others

/-- Texts for the segments of a pattern, with slashes in between. -/
def join (p : PathPattern) (f : Segment → List Char) : List Char :=
  ['/'].intercalate (p.segments.map f)

def text (p : PathPattern) : String := String.ofList (p.join Segment.text)

def glob (p : PathPattern) : Glob :=
  [GlobToken.literal '/'].intercalate (p.segments.map Segment.tokens)

variable {s s' : Segment} {rest : List Segment} {f : Segment → List Char}

@[simp]
theorem join_single : (⟨s, []⟩ : PathPattern).join f = f s := List.intercalate_singleton

@[simp]
theorem join_cons : (⟨s, s' :: rest⟩ : PathPattern).join f =
    f s ++ '/' :: (⟨s', rest⟩ : PathPattern).join f := by
  simp [join, segments, List.intercalate_cons_cons]

@[simp]
theorem glob_single : (⟨s, []⟩ : PathPattern).glob = s.tokens := List.intercalate_singleton

@[simp]
theorem glob_cons : (⟨s, s' :: rest⟩ : PathPattern).glob =
    s.tokens ++ .literal '/' :: (⟨s', rest⟩ : PathPattern).glob := by
  simp [glob, segments, List.intercalate_cons_cons]

/-- A property of patterns, by one segment more in front. -/
theorem induct {motive : PathPattern → Prop} (single : ∀ s, motive ⟨s, []⟩)
    (cons : ∀ s s' rest, motive ⟨s', rest⟩ → motive ⟨s, s' :: rest⟩) (p : PathPattern) :
    motive p := by
  obtain ⟨s, others⟩ := p
  induction others generalizing s with
  | nil => exact single s
  | cons s' rest ih => exact cons s s' rest (ih s')

/-! ## Stars for variables -/

theorem starred_text (p : PathPattern) :
    Operator.starred (p.join Segment.text) = p.join Segment.marks := by
  induction p using induct with
  | single s =>
      rw [join_single, join_single]
      simpa using s.starred_text_append []
  | cons s s' rest ih =>
      rw [join_cons, join_cons, Segment.starred_text_append, Operator.starred_cons (by decide), ih]

/-- A joined pattern can be cut at its slashes again. -/
theorem splitOn_join {p : PathPattern} (hf : ∀ s ∈ p.segments, '/' ∉ f s) :
    (p.join f).splitOn '/' = p.segments.map f :=
  List.splitOn_intercalate '/' (List.forall_mem_map.2 hf) (by simp [segments])

theorem mem_join {p : PathPattern} {c : Char} (hc : c ≠ '/') :
    c ∈ p.join f ↔ ∃ s ∈ p.segments, c ∈ f s := by
  induction p using induct with
  | single s => simp [segments]
  | cons s s' rest ih =>
      rw [join_cons, List.mem_append, List.mem_cons, ih]
      simp [segments, hc]

end PathPattern

/-! ## How segments are read -/

namespace Segment

open Glob

variable {before : Option Char} {out : List GlobToken} {g : Glob} {s : Segment} {t : List Char}

theorem reads_letter {c : Letter} (h : Reads (some c.1) (.literal c.1 :: out) t g) :
    Reads before out (c.1 :: t) g := .plain c.2.2 h

/-- Inside a segment every star is a run, whatever follows. -/
theorem reads_star (hbefore : before ≠ some '/') (hout : out ≠ [])
    (h : Reads (some '*') (.anyRun :: out) t g) : Reads before out ('*' :: t) g := by
  induction hn : t.length using Nat.strongRecOn generalizing before out t with
  | _ n ih =>
      subst hn
      have hfills : ∀ r, ¬ Fills before out r := fun r hr => hr.1.elim hout hbefore
      have hhead : ∀ c r, c ≠ '*' → (c :: r : List Char).head? ≠ some '*' :=
        fun c r hc hhead => hc (Option.some.inj hhead)
      cases h with
      | run hone h => exact .runs (hfills _) h
      | @runs _ _ r _ _ h =>
          -- the first two of three stars are read together
          exact .runs (hfills _)
            (ih r.length (by simp only [List.length_cons]; omega) (by decide) (by simp) h rfl)
      | nil => exact .run (by decide) .nil
      | plain hc h => exact .run (hhead _ _ (ne_of_mem_of_not_mem (by decide) hc).symm) (.plain hc h)
      | escaped h => exact .run (hhead _ _ (by decide)) (.escaped h)
      | any h => exact .run (hhead _ _ (by decide)) (.any h)
      | oneOf hranges h => exact .run (hhead _ _ (by decide)) (.oneOf hranges h)

theorem reads_piece {w : Piece} (hbefore : before ≠ some '/') (hout : out ≠ [])
    (h : Reads (some w.mark) (w.token :: out) t g) : Reads before out (w.mark :: t) g := by
  cases w with
  | letter c => exact reads_letter h
  | star => exact reads_star hbefore hout h
  | named name => exact reads_star hbefore hout h

/-- Behind a first piece a segment is read piece by piece. -/
theorem reads_rest (hbefore : before ≠ some '/') (hout : out ≠ [])
    (h : ∀ before, Reads before (s.tokens.reverse ++ out) t g) :
    Reads before out (s.marks ++ t) g := by
  induction s generalizing before out with
  | nil => exact h before
  | cons w s ih =>
      refine reads_piece hbefore hout (ih ?_ (List.cons_ne_nil _ _) fun before => ?_)
      · exact fun hw => w.mark_ne_slash (Option.some.inj hw)
      · simpa [tokens] using h before

/-- **A segment** that is not two wildcards is read piece by piece. -/
theorem reads (hs : ¬ s.IsDouble) (ht : t = [] ∨ t.head? = some '/')
    (h : ∀ before, Reads before (s.tokens.reverse ++ out) t g) :
    Reads before out (s.marks ++ t) g := by
  have hslash : ∀ w : Piece, some w.mark ≠ some '/' :=
    fun w hw => w.mark_ne_slash (Option.some.inj hw)
  cases s with
  | nil => exact h before
  | cons v s =>
      -- the first piece and the rest, if the rest is read by itself
      have hrest : Reads (some v.mark) (v.token :: out) (Segment.marks s ++ t) g :=
        reads_rest (hslash v) (List.cons_ne_nil _ _) fun b => by simpa [tokens] using h b
      cases hv : v.isWild with
      | false =>
          cases v with
          | letter c => exact reads_letter hrest
          | star => cases hv
          | named name => cases hv
      | true =>
          show Reads before out (v.mark :: (Segment.marks s ++ t)) g
          rw [Piece.mark_of_isWild hv, Piece.token_of_isWild hv] at *
          cases s with
          | nil =>
              refine .run (fun hstar => ?_) hrest
              rcases ht with rfl | ht
              · cases hstar
              · exact absurd (ht.symm.trans hstar) (by decide)
          | cons w s =>
              cases hw : w.isWild with
              | false =>
                  refine .run (fun hstar => ?_) hrest
                  rw [Piece.mark_eq_star_iff.1 (Option.some.inj hstar)] at hw
                  cases hw
              | true =>
                  cases s with
                  | nil => exact absurd ⟨v, w, rfl, hv, hw⟩ hs
                  | cons x s =>
                      show Reads before out ('*' :: w.mark :: (Segment.marks (x :: s) ++ t)) g
                      rw [Piece.mark_of_isWild hw]
                      refine .runs (fun hfills => ?_) ?_
                      · exact hfills.2.elim (List.cons_ne_nil _ _) (hslash x)
                      · refine reads_rest (by decide) (List.cons_ne_nil _ _) fun b => ?_
                        simpa [tokens, Piece.token_of_isWild hv, Piece.token_of_isWild hw] using h b

end Segment

/-- **A pattern** without double segments is read as the tokens of its pieces. -/
theorem PathPattern.reads (p : PathPattern) (hp : ∀ s ∈ p.segments, ¬ s.IsDouble)
    (before : Option Char) (out : List GlobToken) :
    Glob.Reads before out (p.join Segment.marks) (out.reverse ++ p.glob) := by
  induction p using induct generalizing before out with
  | single s =>
      rw [join_single, glob_single, ← List.append_nil s.marks]
      refine Segment.reads (hp s List.mem_cons_self) (Or.inl rfl) fun b => ?_
      have hdone := @Glob.Reads.nil b (s.tokens.reverse ++ out)
      rwa [List.reverse_append, List.reverse_reverse] at hdone
  | cons s s' rest ih =>
      rw [join_cons, glob_cons]
      refine Segment.reads (hp s List.mem_cons_self) (Or.inr rfl) fun b => .plain (by decide) ?_
      have hrest := ih (fun s hs => hp s (List.mem_cons_of_mem _ hs)) (some '/')
        (.literal '/' :: (s.tokens.reverse ++ out))
      simpa using hrest

end Gatehouse.Match
