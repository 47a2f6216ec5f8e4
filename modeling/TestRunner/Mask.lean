import Mathlib.Data.List.Basic
import Mathlib.Data.List.Range

/-! Selections from a list as the bits of a 64 bit word, one bit for each position. Positions
that differ by a multiple of 64 share a bit. -/
namespace TestRunner.Mask

def bit (i : Nat) : UInt64 := 1 <<< UInt64.ofNat i

def has (mask : UInt64) (i : Nat) : Bool := mask &&& bit i != 0

theorem toBitVec_bit (i : Nat) : (bit i).toBitVec = BitVec.twoPow 64 (i % 64) := by
  have shift : (UInt64.ofNat i).toNat % 64 = i % 64 := by
    rw [UInt64.toNat_ofNat']
    omega
  have one : (1 : UInt64).toNat = 1 := rfl
  apply BitVec.eq_of_toNat_eq
  rw [BitVec.toNat_twoPow, UInt64.toNat_toBitVec, bit, UInt64.toNat_shiftLeft, shift, one,
    Nat.one_shiftLeft]

theorem has_eq (mask : UInt64) (i : Nat) : has mask i = mask.toBitVec.getLsbD (i % 64) := by
  have small : i % 64 < 64 := Nat.mod_lt i (by decide)
  rw [Bool.eq_iff_iff, has, bne_iff_ne, ne_eq, ← UInt64.toBitVec_inj, UInt64.toBitVec_and,
    toBitVec_bit, BitVec.and_twoPow]
  by_cases set : mask.toBitVec.getLsbD (i % 64) = true
  · rw [if_pos set]
    refine iff_of_true (fun zero => ?_) set
    have read := congrArg (fun b => b.getLsbD (i % 64)) zero
    simp [small] at read
  · rw [if_neg set]
    exact iff_of_false (not_not.mpr rfl) set

theorem has_bit (i j : Nat) : has (bit j) i = decide (i % 64 = j % 64) := by
  rw [has_eq, toBitVec_bit, BitVec.getLsbD_twoPow]
  simp [Nat.mod_lt, eq_comm]

@[simp] theorem has_or_bit (mask : UInt64) (i j : Nat) :
    has (mask ||| bit j) i = (has mask i || decide (i % 64 = j % 64)) := by
  rw [← has_bit, has_eq, has_eq, has_eq, UInt64.toBitVec_or, BitVec.getLsbD_or]

@[simp] theorem has_zero (i : Nat) : has 0 i = false := by
  rw [has_eq]
  exact BitVec.getLsbD_zero

@[simp] theorem has_all (i : Nat) : has 0xFFFFFFFFFFFFFFFF i = true := by
  have small : i % 64 < 64 := Nat.mod_lt i (by decide)
  rw [has_eq]
  exact BitVec.getLsbD_allOnes.trans (decide_eq_true small)

variable {A : Type*} {p : A → Bool} {xs : List A}

/-- The bits of the positions at which the list satisfies the predicate. -/
def collect (p : A → Bool) (xs : List A) : UInt64 :=
  xs.zipIdx.foldl (fun mask x => if p x.1 then mask ||| bit x.2 else mask) 0

/-- The elements at the positions whose bits are set. -/
def select (xs : List A) (mask : UInt64) : List A :=
  (xs.zipIdx.filter fun x => has mask x.2).map Prod.fst

theorem has_foldl (xs : List (A × Nat)) (mask : UInt64) (i : Nat) :
    has (xs.foldl (fun mask x => if p x.1 then mask ||| bit x.2 else mask) mask) i = true ↔
      has mask i = true ∨ ∃ x ∈ xs, p x.1 = true ∧ i % 64 = x.2 % 64 := by
  induction xs generalizing mask with
  | nil => simp
  | cons x xs ih =>
    rw [List.foldl_cons, ih]
    by_cases holds : p x.1 = true
    · simp [holds, or_assoc]
    · simp [holds]

/-- Exactly the bits of the positions of such elements are set. -/
theorem has_collect (p : A → Bool) (xs : List A) (i : Nat) :
    has (collect p xs) i = true ↔ ∃ x ∈ xs.zipIdx, p x.1 = true ∧ i % 64 = x.2 % 64 := by
  rw [collect, has_foldl]
  simp

theorem filter_zipIdx (p : A → Bool) (xs : List A) :
    (xs.zipIdx.filter fun x => p x.1).map Prod.fst = xs.filter p := by
  conv_rhs => rw [← List.zipIdx_map_fst 0 xs, List.filter_map]
  rfl

/-- The selected positions that satisfy the predicate are all that do. -/
theorem filter_select (p : A → Bool) (xs : List A) :
    (xs.zipIdx.filter fun x => has (collect p xs) x.2).filter (fun x => p x.1) =
      xs.zipIdx.filter fun x => p x.1 := by
  rw [List.filter_filter]
  apply List.filter_congr
  intro x inside
  by_cases holds : p x.1 = true
  · have set := (has_collect p xs x.2).mpr ⟨x, inside, holds, rfl⟩
    simp [holds, set]
  · simp [holds]

/-- What was collected is selected again if and only if positions that share a bit agree. -/
theorem select_collect_iff (p : A → Bool) (xs : List A) :
    select xs (collect p xs) = xs.filter p ↔
      ∀ x ∈ xs.zipIdx, ∀ y ∈ xs.zipIdx, x.2 % 64 = y.2 % 64 → p x.1 = true → p y.1 = true := by
  rw [select, ← filter_zipIdx p xs]
  constructor
  · intro exact x hx y hy same holds
    have sizes := congrArg List.length exact
    rw [List.length_map, List.length_map] at sizes
    have part : (xs.zipIdx.filter fun x => p x.1).Sublist
        (xs.zipIdx.filter fun x => has (collect p xs) x.2) := by
      rw [← filter_select]
      exact List.filter_sublist
    have set : has (collect p xs) y.2 = true := (has_collect p xs y.2).mpr ⟨x, hx, holds, same.symm⟩
    have member : y ∈ xs.zipIdx.filter fun x => p x.1 := by
      rw [part.eq_of_length sizes.symm]
      exact List.mem_filter.mpr ⟨hy, set⟩
    exact (List.mem_filter.mp member).2
  · intro agree
    refine congrArg (List.map Prod.fst) (List.filter_congr fun y hy => ?_)
    rw [Bool.eq_iff_iff, has_collect]
    constructor
    · rintro ⟨x, hx, holds, same⟩
      exact agree x hx y hy same.symm holds
    · exact fun holds => ⟨y, hy, holds, rfl⟩

/-- A list of at most 64 elements has a bit for each position. -/
theorem select_collect (p : A → Bool) (small : xs.length ≤ 64) :
    select xs (collect p xs) = xs.filter p := by
  apply (select_collect_iff p xs).mpr
  intro x hx y hy same holds
  have position : ∀ z ∈ xs.zipIdx, z.2 < 64 ∧ xs[z.2]? = some z.1 := by
    intro z hz
    have found := List.mk_mem_zipIdx_iff_getElem?.mp hz
    exact ⟨(List.getElem?_eq_some_iff.mp found).1.trans_le small, found⟩
  obtain ⟨low, here⟩ := position x hx
  obtain ⟨low', there⟩ := position y hy
  have equal : x.2 = y.2 := by omega
  rw [equal, there] at here
  rwa [← Option.some.inj here] at holds

theorem select_all (xs : List A) : select xs 0xFFFFFFFFFFFFFFFF = xs := by
  simp [select]

end TestRunner.Mask
