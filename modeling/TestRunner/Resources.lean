import TestRunner.Run
import Mathlib.Logic.Function.Basic
import Mathlib.Data.List.Nodup

/-! Resources that a program acquires, uses and releases, as the operations of a run on handles of
an arbitrary type. -/
namespace TestRunner.Resources

inductive Op (H : Type*) where
  | acquire (h : H)
  | use (h : H)
  | release (h : H)
  deriving DecidableEq

inductive Life where
  | unborn | live | dead
  deriving DecidableEq, Repr

variable {H : Type*}

def Op.handle : Op H → H
  | .acquire h | .use h | .release h => h

/-- The life of a resource after an operation on it, none when the operation is out of turn. -/
def Life.after : Life → Op H → Option Life
  | .unborn, .acquire _ => some .live
  | .live, .use _ => some .live
  | .live, .release _ => some .dead
  | _, _ => none

variable [DecidableEq H]

def step (lives : H → Life) (op : Op H) : Option (H → Life) :=
  ((lives op.handle).after op).map (Function.update lives op.handle)

/-- Everything that is acquired is released, and once. -/
def ReleasedOnce (trace : List (Op H)) : Prop :=
  ∀ h, .acquire h ∈ trace → trace.count (.release h) = 1

/-- Nothing is done with what has been released. -/
def Unused (trace : List (Op H)) : Prop :=
  trace.Pairwise fun a b => ∀ h, a = .release h → b.handle ≠ h

def Life.born : Life → Nat
  | .unborn => 0
  | .live | .dead => 1

def Life.gone : Life → Nat
  | .unborn | .live => 0
  | .dead => 1

variable {lives lives' : H → Life} {trace : List (Op H)} {h : H}

theorem after_counts {life life' : Life} {op : Op H} (after : life.after op = some life') :
    (if op = .acquire op.handle then 1 else 0) + life.born = life'.born ∧
    (if op = .release op.handle then 1 else 0) + life.gone = life'.gone := by
  cases life <;> cases op <;> cases after <;> simp [Op.handle, Life.born, Life.gone]

theorem step_counts {op : Op H} (stepped : step lives op = some lives') :
    (if op = .acquire h then 1 else 0) + (lives h).born = (lives' h).born ∧
    (if op = .release h then 1 else 0) + (lives h).gone = (lives' h).gone := by
  obtain ⟨life, after, rfl⟩ := Option.map_eq_some_iff.mp stepped
  by_cases own : op.handle = h
  · subst own
    rw [Function.update_self]
    exact after_counts after
  · have acquires : op ≠ .acquire h := by
      rintro rfl
      exact own rfl
    have releases : op ≠ .release h := by
      rintro rfl
      exact own rfl
    simp [Function.update_of_ne (Ne.symm own), acquires, releases]

/-- In a run without an operation out of turn, a handle is acquired as often as it is born, and
released as often as it dies. -/
theorem run_counts (ran : run step lives trace = some lives') :
    trace.count (.acquire h) + (lives h).born = (lives' h).born ∧
    trace.count (.release h) + (lives h).gone = (lives' h).gone := by
  induction trace generalizing lives with
  | nil =>
    cases Option.some.inj ran
    simp
  | cons op trace ih =>
    obtain ⟨next, stepped, rest⟩ := Option.bind_eq_some_iff.mp ran
    have first := step_counts (h := h) stepped
    have later := ih rest
    rw [List.count_cons, List.count_cons]
    simp only [beq_iff_eq]
    omega

theorem releasedOnce_iff (ran : run step (fun _ => .unborn) trace = some lives) :
    ReleasedOnce trace ↔ ∀ h, lives h ≠ .live := by
  have counts := fun h => run_counts (h := h) ran
  constructor
  · intro once h live
    obtain ⟨acquired, released⟩ := counts h
    rw [live] at acquired released
    have inside : .acquire h ∈ trace := List.count_pos_iff.mp (by simp [Life.born] at acquired; omega)
    have one := once h inside
    simp [Life.gone] at released
    omega
  · intro ended h inside
    obtain ⟨acquired, released⟩ := counts h
    have some := List.count_pos_iff.mpr inside
    cases now : lives h with
    | unborn => simp [now, Life.born] at acquired; omega
    | live => exact absurd now (ended h)
    | dead => simpa [now, Life.gone] using released

theorem not_mem_of_dead (ran : run step lives trace = some lives') (dead : lives h = .dead) :
    ∀ op ∈ trace, op.handle ≠ h := by
  induction trace generalizing lives with
  | nil => simp
  | cons op trace ih =>
    obtain ⟨next, stepped, rest⟩ := Option.bind_eq_some_iff.mp ran
    obtain ⟨life, after, rfl⟩ := Option.map_eq_some_iff.mp stepped
    have other : op.handle ≠ h := by
      rintro rfl
      rw [dead] at after
      cases op <;> cases after
    have later := ih rest (by rw [Function.update_of_ne (Ne.symm other), dead])
    exact List.forall_mem_cons.mpr ⟨other, later⟩

theorem unused_of_run (ran : run step lives trace = some lives') : Unused trace := by
  induction trace generalizing lives with
  | nil => exact List.Pairwise.nil
  | cons op trace ih =>
    obtain ⟨next, stepped, rest⟩ := Option.bind_eq_some_iff.mp ran
    apply List.Pairwise.cons _ (ih rest)
    rintro later inside h rfl
    obtain ⟨life, after, rfl⟩ := Option.map_eq_some_iff.mp stepped
    apply not_mem_of_dead rest _ later inside
    change Function.update lives h life h = .dead
    rw [Function.update_self]
    change (lives h).after (.release h) = some life at after
    cases now : lives h <;> rw [now] at after <;> cases after
    rfl

theorem step_acquire (fresh : lives h = .unborn) :
    step lives (.acquire h) = some (Function.update lives h .live) := by
  simp [step, Op.handle, fresh, Life.after]

theorem step_use (held : lives h = .live) : step lives (.use h) = some lives := by
  simp [step, Op.handle, held, Life.after]

theorem step_release (held : lives h = .live) :
    step lives (.release h) = some (Function.update lives h .dead) := by
  simp [step, Op.handle, held, Life.after]

theorem run_use (n : Nat) (held : lives h = .live) :
    run step lives (List.replicate n (.use h)) = some lives := by
  induction n with
  | zero => rfl
  | succ n ih => rw [List.replicate_succ, run, step_use held, Option.bind_some, ih]

/-- The release of held resources, each once. -/
theorem run_release {hs : List H} (nodup : hs.Nodup) (held : ∀ h ∈ hs, lives h = .live) :
    run step lives (hs.map .release) = some fun h => if h ∈ hs then .dead else lives h := by
  induction hs generalizing lives with
  | nil => rfl
  | cons h hs ih =>
    obtain ⟨fresh, rest⟩ := List.nodup_cons.mp nodup
    obtain ⟨first, others⟩ := List.forall_mem_cons.mp held
    have held' : ∀ h' ∈ hs, Function.update lives h .dead h' = .live := by
      intro h' inside
      rw [Function.update_of_ne (ne_of_mem_of_not_mem inside fresh)]
      exact others h' inside
    rw [List.map_cons, run, step_release first, Option.bind_some, ih rest held']
    congr 1
    funext h'
    by_cases own : h' = h
    · subst own
      simp [fresh]
    · simp [own]

end TestRunner.Resources
