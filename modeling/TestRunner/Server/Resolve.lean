import TestRunner.Server.Keymap
import Mathlib.Data.Prod.Lex
import Mathlib.Order.Bounds.Basic

/-! The search of a keymap as a least element: the pairs of a level and a key are ordered by the
level first. -/
namespace TestRunner.Server

/-- The levels and codes whose keys list the symbol. -/
def Keymap.pairs (keymap : Keymap) (targetSym : UInt32) : Set (ℕ ×ₗ ℕ) :=
  {p | ((ofLex p).1 = 0 ∨ (ofLex p).1 = 1) ∧
    keyEsc.toNat ≤ (ofLex p).2 ∧ (ofLex p).2 < keyMax.toNat ∧
    ∃ layoutIdx < keymap.numLayoutsForKey ((ofLex p).2 + 8),
      targetSym ∈ keymap.keyGetSymsByLevel ((ofLex p).2 + 8) layoutIdx (ofLex p).1}

variable {keymap : Keymap} {targetSym : UInt32} {level evdev : Nat}

theorem carries_iff : keymap.carries targetSym level evdev = true ↔
    ∃ layoutIdx < keymap.numLayoutsForKey (evdev + 8),
      targetSym ∈ keymap.keyGetSymsByLevel (evdev + 8) layoutIdx level := by
  simp [Keymap.carries]

theorem mem_pairs : toLex (level, evdev) ∈ keymap.pairs targetSym ↔
    (level = 0 ∨ level = 1) ∧ evdev ∈ evdevCodes ∧ keymap.carries targetSym level evdev = true := by
  rw [mem_evdevCodes, carries_iff, and_assoc]
  exact Iff.rfl

theorem not_mem_pairs (lacks : keymap.Lacks targetSym level) :
    toLex (level, evdev) ∉ keymap.pairs targetSym := by
  intro inside
  obtain ⟨-, known, carries⟩ := mem_pairs.mp inside
  exact absurd carries (by simp [lacks evdev known])

/-- The first key of a level is the least pair if no lower level has one. -/
theorem isLeast_of_first (searched : level = 0 ∨ level = 1)
    (first : keymap.First targetSym level evdev)
    (below : ∀ lower < level, keymap.Lacks targetSym lower) :
    IsLeast (keymap.pairs targetSym) (toLex (level, evdev)) := by
  obtain ⟨known, carries, least⟩ := first
  constructor
  · exact mem_pairs.mpr ⟨searched, known, carries⟩
  · rintro ⟨other, code⟩ inside
    apply Prod.Lex.toLex_le_toLex.mpr
    rcases Nat.lt_trichotomy level other with above | rfl | lower
    · exact .inl above
    · refine .inr ⟨rfl, ?_⟩
      obtain ⟨-, known', carries'⟩ := mem_pairs.mp inside
      by_contra earlier
      exact absurd carries' (by simp [least code known' (not_le.mp earlier)])
    · exact absurd inside (not_mem_pairs (below other lower))

/-- The search ends at the code of the least pair, or finds none. -/
theorem resolveKeysym_isLeast (keymap : Keymap) (targetSym : UInt32) :
    (∃ level, IsLeast (keymap.pairs targetSym)
      (toLex (level, resolveKeysym (some keymap) targetSym))) ∨
    keymap.pairs targetSym = ∅ ∧ resolveKeysym (some keymap) targetSym = 0 := by
  rcases resolveKeysym_cases keymap targetSym with
    ⟨evdev, first, found⟩ | ⟨evdev, lacks, first, found⟩ | ⟨lacks, lacks', found⟩
  · left
    rw [found]
    exact ⟨0, isLeast_of_first (.inl rfl) first (by simp)⟩
  · left
    rw [found]
    refine ⟨1, isLeast_of_first (.inr rfl) first ?_⟩
    intro lower below
    cases Nat.lt_one_iff.mp below
    exact lacks
  · right
    refine ⟨Set.eq_empty_of_forall_notMem ?_, found⟩
    rintro ⟨level, evdev⟩ inside
    rcases (mem_pairs.mp inside).1 with rfl | rfl
    · exact not_mem_pairs lacks inside
    · exact not_mem_pairs lacks' inside

/-- The search returns the code of the least pair, 0 exactly if there is none. No pair has the
code 0, and one of the first level is the least if there is one. -/
theorem resolveKeysym_least (keymap : Keymap) (targetSym : UInt32) :
    (∀ level evdev, IsLeast (keymap.pairs targetSym) (toLex (level, evdev)) →
      resolveKeysym (some keymap) targetSym = evdev) ∧
    (resolveKeysym (some keymap) targetSym = 0 ↔ keymap.pairs targetSym = ∅) ∧
    ((keymap.pairs targetSym).Nonempty →
      ∃ level, IsLeast (keymap.pairs targetSym)
        (toLex (level, resolveKeysym (some keymap) targetSym))) ∧
    (∀ level, toLex (level, 0) ∉ keymap.pairs targetSym) ∧
    ((∃ evdev, toLex (0, evdev) ∈ keymap.pairs targetSym) →
      IsLeast (keymap.pairs targetSym) (toLex (0, resolveKeysym (some keymap) targetSym))) := by
  have positive : ∀ level, toLex (level, 0) ∉ keymap.pairs targetSym := by
    intro level inside
    have known := mem_evdevCodes.mp (mem_pairs.mp inside).2.1
    omega
  rcases resolveKeysym_isLeast keymap targetSym with ⟨level, least⟩ | ⟨empty, zero⟩
  · refine ⟨?_, ?_, fun _ => ⟨level, least⟩, positive, ?_⟩
    · intro level' evdev least'
      exact congrArg (fun p => (ofLex p).2) (least.unique least')
    · constructor
      · intro zero
        exact absurd least.1 (zero ▸ positive level)
      · intro empty
        exact absurd least.1 (empty ▸ Set.notMem_empty _)
    · rintro ⟨evdev, inside⟩
      rcases Prod.Lex.toLex_le_toLex.mp (least.2 inside) with below | ⟨same, -⟩
      · exact absurd below (Nat.not_lt_zero level)
      · cases same
        exact least
  · refine ⟨?_, iff_of_true zero empty, ?_, positive, ?_⟩
    · intro level evdev least
      exact absurd least.1 (empty ▸ Set.notMem_empty _)
    · rintro ⟨p, inside⟩
      exact absurd inside (empty ▸ Set.notMem_empty p)
    · rintro ⟨evdev, inside⟩
      exact absurd inside (empty ▸ Set.notMem_empty _)

end TestRunner.Server
