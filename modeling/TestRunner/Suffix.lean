import Mathlib.Data.List.Infix

/-! The longest suffix of a list that meets a condition, found by taking elements off the front.
Nothing here knows what the condition says. -/
namespace TestRunner.Suffix

variable {α : Type*}

/-- What is left when elements are taken off the front until the rest meets the condition. -/
def longest (keep : List α → Prop) [DecidablePred keep] : List α → List α
  | [] => []
  | a :: b => if keep (a :: b) then a :: b else longest keep b

/-- A suffix that meets the condition, and none that meets it is longer. -/
structure IsLongest (keep : List α → Prop) (b kept : List α) : Prop where
  suffix : kept <:+ b
  keeps : keep kept
  most : ∀ other, other <:+ b → keep other → other.length ≤ kept.length

variable {keep keep' : List α → Prop} {b kept kept' : List α}

theorem IsLongest.unique (h : IsLongest keep b kept) (h' : IsLongest keep b kept') :
    kept = kept' := by
  have few := h.most kept' h'.suffix h'.keeps
  have many := h'.most kept h.suffix h.keeps
  have part := List.suffix_of_suffix_length_le h.suffix h'.suffix many
  exact part.eq_of_length (Nat.le_antisymm many few)

theorem IsLongest.congr (h : IsLongest keep b kept)
    (same : ∀ other, other <:+ b → (keep other ↔ keep' other)) : IsLongest keep' b kept := by
  constructor
  · exact h.suffix
  · exact (same kept h.suffix).mp h.keeps
  · intro other part keeps
    exact h.most other part ((same other part).mpr keeps)

section

variable [DecidablePred keep] [DecidablePred keep']

theorem longest_of_keep (keeps : keep b) : longest keep b = b := by
  cases b with
  | nil => rfl
  | cons a b => rw [longest, if_pos keeps]

theorem longest_suffix (b : List α) : longest keep b <:+ b := by
  induction b with
  | nil => exact List.suffix_refl []
  | cons a b ih =>
    by_cases keeps : keep (a :: b)
    · rw [longest_of_keep keeps]
    · rw [longest, if_neg keeps]
      exact ih.trans (List.suffix_cons a b)

theorem longest_isLongest (empty : keep []) (b : List α) : IsLongest keep b (longest keep b) := by
  induction b with
  | nil =>
    constructor
    · exact List.suffix_refl []
    · exact empty
    · intro other part _
      exact part.length_le
  | cons a b ih =>
    by_cases keeps : keep (a :: b)
    · rw [longest_of_keep keeps]
      constructor
      · exact List.suffix_refl _
      · exact keeps
      · intro other part _
        exact part.length_le
    · rw [longest, if_neg keeps]
      constructor
      · exact ih.suffix.trans (List.suffix_cons a b)
      · exact ih.keeps
      · intro other part keeps'
        rcases List.suffix_cons_iff.mp part with rfl | part
        · exact absurd keeps' keeps
        · exact ih.most other part keeps'

/-- A later condition that admits no more makes up for an earlier one, whatever is appended in
between. -/
theorem longest_append_longest (later : List α)
    (stricter : ∀ rest, rest ≠ [] → keep' (rest ++ later) → keep rest) (b : List α) :
    longest keep' (longest keep b ++ later) = longest keep' (b ++ later) := by
  induction b with
  | nil => rfl
  | cons a b ih =>
    by_cases keeps : keep (a :: b)
    · rw [longest_of_keep keeps]
    · have refused : ¬ keep' (a :: (b ++ later)) := by
        intro admitted
        exact keeps (stricter (a :: b) (List.cons_ne_nil a b) admitted)
      rw [longest, if_neg keeps, ih, List.cons_append, longest, if_neg refused]

theorem longest_longest (stricter : ∀ rest, keep' rest → keep rest) (b : List α) :
    longest keep' (longest keep b) = longest keep' b := by
  have alone : longest keep' (longest keep b ++ []) = longest keep' (b ++ []) := by
    apply longest_append_longest
    intro rest _ admitted
    rw [List.append_nil] at admitted
    exact stricter rest admitted
  rwa [List.append_nil, List.append_nil] at alone

end

end TestRunner.Suffix
