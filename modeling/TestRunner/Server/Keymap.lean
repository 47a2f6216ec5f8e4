import TestRunner.Evdev
import Mathlib.Data.List.Basic

/-! The search of a keymap for a key that carries a keysym. -/
namespace TestRunner.Server

/-- `xkb_keymap` by the two queries that are made of it. -/
structure Keymap where
  numLayoutsForKey : Nat → Nat
  keyGetSymsByLevel : (key layout level : Nat) → List UInt32

/-- The codes of the loop from `KEY_ESC` up to `KEY_MAX`, exclusive. -/
def evdevCodes : List Nat := List.range' keyEsc.toNat (keyMax.toNat - keyEsc.toNat)

/-- Some layout of the key has the symbol at the level. -/
def Keymap.carries (keymap : Keymap) (targetSym : UInt32) (level evdev : Nat) : Bool :=
  (List.range (keymap.numLayoutsForKey (evdev + 8))).any fun layoutIdx =>
    (keymap.keyGetSymsByLevel (evdev + 8) layoutIdx level).any (· = targetSym)

def resolveKeysym (mXkbKeymap : Option Keymap) (targetSym : UInt32) : Nat :=
  match mXkbKeymap with
  | none => 0
  | some keymap =>
    ((List.range 2).findSome? fun level => evdevCodes.find? (keymap.carries targetSym level)).getD 0

theorem mem_evdevCodes {evdev : Nat} : evdev ∈ evdevCodes ↔ 1 ≤ evdev ∧ evdev < 767 := by
  rw [evdevCodes, List.mem_range'_1]
  rfl

theorem resolveKeysym_levels (keymap : Keymap) (targetSym : UInt32) :
    resolveKeysym (some keymap) targetSym =
      ((evdevCodes.find? (keymap.carries targetSym 0)).or
        (evdevCodes.find? (keymap.carries targetSym 1))).getD 0 := by
  have levels : List.range 2 = [0, 1] := rfl
  simp only [resolveKeysym, levels, List.findSome?_cons, List.findSome?_nil]
  cases evdevCodes.find? (keymap.carries targetSym 0) with
  | some evdev => rfl
  | none => cases evdevCodes.find? (keymap.carries targetSym 1) <;> rfl

/-- What the search returns is one of the loop's codes, or 0. -/
theorem resolveKeysym_range (mXkbKeymap : Option Keymap) (targetSym : UInt32) :
    resolveKeysym mXkbKeymap targetSym < 767 := by
  cases mXkbKeymap with
  | none => exact Nat.zero_lt_succ _
  | some keymap =>
    rw [resolveKeysym_levels]
    cases found : (evdevCodes.find? (keymap.carries targetSym 0)).or
        (evdevCodes.find? (keymap.carries targetSym 1)) with
    | none => exact Nat.zero_lt_succ _
    | some evdev =>
      have known : evdev ∈ evdevCodes := by
        rcases Option.or_eq_some_iff.mp found with hit | ⟨-, hit⟩
        · exact List.mem_of_find?_eq_some hit
        · exact List.mem_of_find?_eq_some hit
      exact (mem_evdevCodes.mp known).2

/-- The key of the lowest code that has the symbol at the level. -/
def Keymap.First (keymap : Keymap) (targetSym : UInt32) (level evdev : Nat) : Prop :=
  evdev ∈ evdevCodes ∧ keymap.carries targetSym level evdev = true ∧
    ∀ lower ∈ evdevCodes, lower < evdev → keymap.carries targetSym level lower = false

def Keymap.Lacks (keymap : Keymap) (targetSym : UInt32) (level : Nat) : Prop :=
  ∀ evdev ∈ evdevCodes, keymap.carries targetSym level evdev = false

theorem find_eq_some_iff (keymap : Keymap) (targetSym : UInt32) (level evdev : Nat) :
    evdevCodes.find? (keymap.carries targetSym level) = some evdev ↔
      keymap.First targetSym level evdev := by
  rw [evdevCodes, List.find?_range'_eq_some, Keymap.First]
  have bounds : ∀ lower, lower ∈ evdevCodes ↔ 1 ≤ lower ∧ lower < 767 := fun _ => mem_evdevCodes
  constructor
  · rintro ⟨carries, inside, lower⟩
    refine ⟨inside, carries, ?_⟩
    intro j known below
    simpa using lower j ((bounds j).mp known).1 below
  · rintro ⟨inside, carries, lower⟩
    refine ⟨carries, inside, ?_⟩
    intro j above below
    have known := (bounds j).mpr ⟨above, by have := (bounds evdev).mp inside; omega⟩
    simpa using lower j known below

theorem find_eq_none_iff (keymap : Keymap) (targetSym : UInt32) (level : Nat) :
    evdevCodes.find? (keymap.carries targetSym level) = none ↔ keymap.Lacks targetSym level := by
  simp [Keymap.Lacks]

/-- The search ends at a key of the first level, else at one of the second, else at none. -/
theorem resolveKeysym_cases (keymap : Keymap) (targetSym : UInt32) :
    (∃ evdev, keymap.First targetSym 0 evdev ∧ resolveKeysym (some keymap) targetSym = evdev) ∨
    (∃ evdev, keymap.Lacks targetSym 0 ∧ keymap.First targetSym 1 evdev ∧
      resolveKeysym (some keymap) targetSym = evdev) ∨
    (keymap.Lacks targetSym 0 ∧ keymap.Lacks targetSym 1 ∧
      resolveKeysym (some keymap) targetSym = 0) := by
  rw [resolveKeysym_levels]
  cases unshifted : evdevCodes.find? (keymap.carries targetSym 0) with
  | some evdev => exact .inl ⟨evdev, (find_eq_some_iff ..).mp unshifted, rfl⟩
  | none =>
    have lacks := (find_eq_none_iff ..).mp unshifted
    cases shifted : evdevCodes.find? (keymap.carries targetSym 1) with
    | some evdev => exact .inr (.inl ⟨evdev, lacks, (find_eq_some_iff ..).mp shifted, rfl⟩)
    | none => exact .inr (.inr ⟨lacks, (find_eq_none_iff ..).mp shifted, rfl⟩)

theorem Keymap.First.pos {keymap : Keymap} {targetSym : UInt32} {level evdev : Nat}
    (first : keymap.First targetSym level evdev) : evdev ≠ 0 :=
  Nat.one_le_iff_ne_zero.mp (mem_evdevCodes.mp first.1).1

theorem Keymap.First.unique {keymap : Keymap} {targetSym : UInt32} {level a b : Nat}
    (ha : keymap.First targetSym level a) (hb : keymap.First targetSym level b) : a = b := by
  have same := ((find_eq_some_iff ..).mpr ha).symm.trans ((find_eq_some_iff ..).mpr hb)
  exact Option.some.inj same

/-- A key that has the symbol in some layout has a first layout. -/
theorem Keymap.carries_unshifted {keymap : Keymap} {targetSym : UInt32} {level evdev : Nat}
    (carries : keymap.carries targetSym level evdev = true)
    (first : targetSym ∈ keymap.keyGetSymsByLevel (evdev + 8) 0 0) :
    keymap.carries targetSym 0 evdev = true := by
  obtain ⟨layout, inside, -⟩ := List.any_eq_true.mp carries
  have layouts : 0 < keymap.numLayoutsForKey (evdev + 8) :=
    Nat.zero_lt_of_lt (List.mem_range.mp inside)
  refine List.any_eq_true.mpr ⟨0, List.mem_range.mpr layouts, ?_⟩
  exact List.any_eq_true.mpr ⟨targetSym, first, decide_eq_true rfl⟩

end TestRunner.Server
