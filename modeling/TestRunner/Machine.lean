import TestRunner.Run

/-! Deterministic machines with an output for each input, and a law of the inputs that can come.
Two states are alike when no sequence of such inputs tells them apart. -/
namespace TestRunner

/-- `allow` follows what the inputs so far allow, and is none for an input that cannot come. -/
structure Machine (S I O H : Type*) where
  next : S → I → S
  out : S → I → O
  allow : H → I → Option H

namespace Machine

variable {S I O H : Type*} (m : Machine S I O H)

def outputs (s : S) : List I → List O
  | [] => []
  | i :: is => m.out s i :: outputs (m.next s i) is

/-- A relation that each input that can come keeps, with equal outputs. -/
structure Bisimulation (R : H → S → S → Prop) : Prop where
  out : ∀ {h h' s t i}, R h s t → m.allow h i = some h' → m.out s i = m.out t i
  next : ∀ {h h' s t i}, R h s t → m.allow h i = some h' → R h' (m.next s i) (m.next t i)

def Alike (h : H) (s t : S) : Prop := ∃ R, m.Bisimulation R ∧ R h s t

variable {m}

theorem Bisimulation.outputs {R : H → S → S → Prop} (b : m.Bisimulation R) {h : H} {s t : S}
    (related : R h s t) {is : List I} (come : (run m.allow h is).isSome = true) :
    m.outputs s is = m.outputs t is := by
  induction is generalizing h s t with
  | nil => rfl
  | cons i is ih =>
    cases first : m.allow h i with
    | none => simp [run, first] at come
    | some h' =>
      rw [run, first, Option.bind_some] at come
      rw [Machine.outputs, Machine.outputs, b.out related first, ih (b.next related first) come]

/-- States are alike if and only if no sequence tells them apart. -/
theorem alike_iff {h : H} {s t : S} :
    m.Alike h s t ↔
      ∀ is, (run m.allow h is).isSome = true → m.outputs s is = m.outputs t is := by
  constructor
  · rintro ⟨R, b, related⟩ is come
    exact b.outputs related come
  · intro same
    refine ⟨fun h s t => ∀ is, (run m.allow h is).isSome = true → m.outputs s is = m.outputs t is,
      ⟨?_, ?_⟩, same⟩
    · intro h h' s t i same first
      exact (List.cons.inj (same [i] (by simp [run, first]))).1
    · intro h h' s t i same first is come
      exact (List.cons.inj (same (i :: is) (by simpa [run, first] using come))).2

theorem alike_self (h : H) (s : S) : m.Alike h s s := alike_iff.mpr fun _ _ => rfl

end Machine

end TestRunner
