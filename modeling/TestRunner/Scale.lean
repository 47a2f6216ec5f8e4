import Mathlib.Data.Rat.Floor
import Mathlib.Algebra.Order.Floor.Ring

/-! Positions in a range of integers scaled to another range, over exact rationals: the fraction
is cut off toward zero. -/
namespace TestRunner.Scale

/-- The integer part of a rational. -/
def cut (q : ℚ) : Int := q.num.tdiv q.den

theorem cut_of_nonneg {q : ℚ} (nonneg : 0 ≤ q) : cut q = ⌊q⌋ := by
  rw [cut, Int.tdiv_eq_ediv_of_nonneg (Rat.num_nonneg.mpr nonneg), Rat.floor_def']

theorem cut_neg (q : ℚ) : cut (-q) = -cut q := by
  rw [cut, cut, Rat.num_neg_eq_neg_num, Rat.den_neg_eq_den, Int.neg_tdiv]

theorem cut_nonneg_iff (q : ℚ) : 0 ≤ cut q ↔ -1 < q := by
  rcases le_total 0 q with nonneg | nonpos
  · rw [cut_of_nonneg nonneg]
    apply iff_of_true (Int.floor_nonneg.mpr nonneg)
    linarith
  · have opposite : cut q = -⌊-q⌋ := by
      rw [← cut_of_nonneg (neg_nonneg.mpr nonpos), cut_neg, neg_neg]
    have floor := Int.floor_nonneg.mpr (neg_nonneg.mpr nonpos)
    rw [opposite]
    constructor
    · intro up
      have zero : ⌊-q⌋ = 0 := by omega
      have below := (Int.floor_eq_iff.mp zero).2
      push_cast at below
      linarith
    · intro above
      have zero : ⌊-q⌋ = 0 := by
        apply Int.floor_eq_iff.mpr
        push_cast
        constructor <;> linarith
      omega

theorem cut_le_iff {k : Int} (nonneg : 0 ≤ k) (q : ℚ) : cut q ≤ k ↔ q < k + 1 := by
  have limit : (0 : ℚ) ≤ k := by exact_mod_cast nonneg
  rcases le_total 0 q with pos | neg
  · rw [cut_of_nonneg pos, ← Int.lt_add_one_iff, Int.floor_lt]
    push_cast
    exact Iff.rfl
  · have down : cut q ≤ 0 := by
      have up := (Int.floor_nonneg (a := -q)).mpr (neg_nonneg.mpr neg)
      rw [← cut_of_nonneg (neg_nonneg.mpr neg), cut_neg] at up
      omega
    apply iff_of_true (down.trans nonneg)
    linarith

/-- A position `v` of `0 … n` on the range `0 … k`. -/
def scale (n k v : Int) : Int := v * k / n

variable {n k v v' : Int}

theorem floor_eq_scale (pos : 0 < n) : ⌊((v * k : Int) : ℚ) / n⌋ = scale n k v := by
  obtain ⟨m, rfl⟩ := Int.eq_ofNat_of_zero_le pos.le
  exact Rat.floor_intCast_div_natCast (v * k) m

theorem cut_eq_scale (pos : 0 < n) (low : 0 ≤ v) (limit : 0 ≤ k) :
    cut (v * (k / n : ℚ)) = scale n k v := by
  have product : (v * (k / n : ℚ)) = ((v * k : Int) : ℚ) / n := by
    push_cast
    ring
  have nonneg : (0 : ℚ) ≤ ((v * k : Int) : ℚ) / n := by
    apply div_nonneg
    · exact_mod_cast mul_nonneg low limit
    · exact_mod_cast pos.le
  rw [product, cut_of_nonneg nonneg, floor_eq_scale pos]

theorem scale_zero (n k : Int) : scale n k 0 = 0 := by
  rw [scale, zero_mul, Int.zero_ediv]

theorem scale_full (pos : 0 < n) : scale n k n = k := Int.mul_ediv_cancel_left k pos.ne'

theorem scale_mono (pos : 0 < n) (limit : 0 ≤ k) (le : v ≤ v') : scale n k v ≤ scale n k v' :=
  Int.ediv_le_ediv pos (mul_le_mul_of_nonneg_right le limit)

theorem scale_mem (pos : 0 < n) (limit : 0 ≤ k) (low : 0 ≤ v) (high : v ≤ n) :
    0 ≤ scale n k v ∧ scale n k v ≤ k := by
  have first := scale_mono pos limit low
  have last := scale_mono pos limit high
  rw [scale_zero] at first
  rw [scale_full pos] at last
  exact ⟨first, last⟩

/-- The same fraction of two ranges has the same place. -/
theorem scale_ratio {n' : Int} (pos : 0 < n) (pos' : 0 < n') (same : (v : ℚ) / n = v' / n') :
    scale n k v = scale n' k v' := by
  rw [← floor_eq_scale pos, ← floor_eq_scale pos']
  congr 1
  push_cast
  rw [mul_div_right_comm, same, ← mul_div_right_comm]

end TestRunner.Scale
