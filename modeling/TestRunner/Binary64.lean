import TestRunner.Scale
import Mathlib.Algebra.Order.Field.Power
import Mathlib.Algebra.Order.Floor.Ring
import Mathlib.Data.Int.Log
import Mathlib.Data.Nat.GCD.Basic
import Mathlib.Data.Rat.Floor
import Mathlib.Tactic.FieldSimp
import Mathlib.Tactic.Linarith
import Mathlib.Tactic.Positivity

/-! Rounding to the numbers of the format binary64: an exact result goes to the nearest of them, and
of two equally near ones to the even one. Results stay below the overflow. -/
namespace TestRunner.Binary64

/-- The nearest integer, of two equally near ones the even one. -/
def roundEven (q : ℚ) : Int :=
  if q - ⌊q⌋ < 1 / 2 then ⌊q⌋
  else if 1 / 2 < q - ⌊q⌋ then ⌊q⌋ + 1
  else if 2 ∣ ⌊q⌋ then ⌊q⌋ else ⌊q⌋ + 1

/-- The exponent of the last of the 53 digits, at the least that of the subnormal numbers. -/
def place (q : ℚ) : Int := max (Int.log 2 |q| - 52) (-1074)

def round (q : ℚ) : ℚ := roundEven (q / 2 ^ place q) * 2 ^ place q

section Integers

variable {q : ℚ} {n : Int}

theorem roundEven_cases (q : ℚ) :
    roundEven q = ⌊q⌋ ∧ q - ⌊q⌋ ≤ 1 / 2 ∨ roundEven q = ⌊q⌋ + 1 ∧ 1 / 2 ≤ q - ⌊q⌋ := by
  unfold roundEven
  split_ifs with low high even
  · exact .inl ⟨rfl, low.le⟩
  · exact .inr ⟨rfl, high.le⟩
  · exact .inl ⟨rfl, not_lt.mp high⟩
  · exact .inr ⟨rfl, not_lt.mp low⟩

theorem roundEven_error (q : ℚ) : |roundEven q - q| ≤ 1 / 2 := by
  have low := Int.floor_le q
  have high := Int.lt_floor_add_one q
  rw [abs_le]
  rcases roundEven_cases q with ⟨same, near⟩ | ⟨same, near⟩
  · rw [same]
    constructor <;> linarith
  · rw [same]
    push_cast
    constructor <;> linarith

theorem le_roundEven (le : (n : ℚ) ≤ q) : n ≤ roundEven q := by
  have floor := Int.le_floor.mpr le
  rcases roundEven_cases q with ⟨same, -⟩ | ⟨same, -⟩ <;> omega

theorem roundEven_intCast (n : Int) : roundEven n = n := by
  rw [roundEven, Int.floor_intCast, sub_self, if_pos (by norm_num)]

/-- A tie goes to the even number, so only what is nearer to a smaller one stays below it. -/
theorem roundEven_lt_iff (even : 2 ∣ n) : roundEven q < n ↔ q < n - 1 / 2 := by
  have low := Int.floor_le q
  have high := Int.lt_floor_add_one q
  rcases lt_trichotomy ⌊q⌋ (n - 1) with far | here | above
  · have next : ((⌊q⌋ : Int) : ℚ) + 1 ≤ n - 1 := by exact_mod_cast far
    apply iff_of_true
    · rcases roundEven_cases q with ⟨same, -⟩ | ⟨same, -⟩ <;> omega
    · linarith
  · have odd : ¬ 2 ∣ ⌊q⌋ := by omega
    have cast : ((⌊q⌋ : Int) : ℚ) = n - 1 := by
      rw [here]
      push_cast
      rfl
    unfold roundEven
    split_ifs with down up
    · exact iff_of_true (by omega) (by linarith)
    · exact iff_of_false (by omega) (by linarith)
    · exact iff_of_false (by omega) (by linarith)
  · have whole : (n : ℚ) ≤ ⌊q⌋ := by
      exact_mod_cast (by omega : n ≤ ⌊q⌋)
    apply iff_of_false
    · rcases roundEven_cases q with ⟨same, -⟩ | ⟨same, -⟩ <;> omega
    · linarith

theorem roundEven_neg (q : ℚ) : roundEven (-q) = -roundEven q := by
  rcases eq_or_ne (q : ℚ) ⌊q⌋ with whole | broken
  · rw [whole, ← Int.cast_neg, roundEven_intCast, roundEven_intCast]
  · have floor : ⌊-q⌋ = -⌊q⌋ - 1 := by
      have low := lt_of_le_of_ne (Int.floor_le q) (Ne.symm broken)
      have high := Int.lt_floor_add_one q
      rw [Int.floor_eq_iff]
      push_cast
      constructor <;> linarith
    have rest : -q - (⌊-q⌋ : Int) = 1 - (q - ⌊q⌋) := by
      rw [floor]
      push_cast
      ring
    rw [roundEven, roundEven, rest, floor]
    rcases lt_trichotomy (q - ⌊q⌋) (1 / 2) with down | tie | up
    · rw [if_neg (by linarith), if_pos (by linarith), if_pos down]
      omega
    · have parity : 2 ∣ -⌊q⌋ - 1 ↔ ¬ 2 ∣ ⌊q⌋ := by omega
      simp only [tie, parity]
      norm_num
      split_ifs <;> omega
    · rw [if_pos (by linarith), if_neg (by linarith), if_pos up]
      omega

end Integers

section Numbers

variable {q : ℚ} {m n e : Int}

theorem place_neg (q : ℚ) : place (-q) = place q := by
  rw [place, place, abs_neg]

theorem round_neg (q : ℚ) : round (-q) = -round q := by
  rw [round, round, place_neg, neg_div, roundEven_neg]
  push_cast
  ring

theorem place_eq (low : (2 : ℚ) ^ e ≤ |q|) (high : |q| < 2 ^ (e + 1)) (normal : -1022 ≤ e) :
    place q = e - 52 := by
  have pos : 0 < |q| := lt_of_lt_of_le (by positivity) low
  have le : e ≤ Int.log 2 |q| := (Int.zpow_le_iff_le_log (by norm_num) pos).mp (by exact_mod_cast low)
  have lt : Int.log 2 |q| < e + 1 :=
    (Int.lt_zpow_iff_log_lt (by norm_num) pos).mp (by exact_mod_cast high)
  unfold place
  omega

theorem round_le_error (q : ℚ) : |round q - q| ≤ 2 ^ place q / 2 := by
  have unit : (0 : ℚ) < 2 ^ place q := by positivity
  have near := roundEven_error (q / 2 ^ place q)
  have scaled : round q - q = (roundEven (q / 2 ^ place q) - q / 2 ^ place q) * 2 ^ place q := by
    rw [round, sub_mul, div_mul_cancel₀ _ unit.ne']
  rw [scaled, abs_mul, abs_of_pos unit]
  linarith [mul_le_mul_of_nonneg_right near unit.le]

/-- A normal number keeps 53 digits. -/
theorem round_error (normal : (2 : ℚ) ^ (-1022 : Int) ≤ |q|) :
    |round q - q| ≤ |q| / 2 ^ 53 := by
  have pos : 0 < |q| := lt_of_lt_of_le (by positivity) normal
  have log : -1022 ≤ Int.log 2 |q| :=
    (Int.zpow_le_iff_le_log (by norm_num) pos).mp (by exact_mod_cast normal)
  have here : place q = Int.log 2 |q| - 52 := by
    unfold place
    omega
  have low : (2 : ℚ) ^ Int.log 2 |q| ≤ |q| := by
    exact_mod_cast Int.zpow_log_le_self (by norm_num) pos
  apply (round_le_error q).trans
  rw [here, zpow_sub₀ (by norm_num)]
  calc (2 : ℚ) ^ Int.log 2 |q| / 2 ^ (52 : Int) / 2 = 2 ^ Int.log 2 |q| / 2 ^ 53 := by norm_num; ring
    _ ≤ |q| / 2 ^ 53 := by gcongr

/-- What is whole at the last place is whole in it. -/
theorem whole_at_place (le : e ≤ 0) (n : Int) : ∃ m : Int, (n : ℚ) / 2 ^ e = m := by
  obtain ⟨k, rfl⟩ := Int.eq_ofNat_of_zero_le (neg_nonneg.mpr le) |>.imp fun _ h => neg_eq_iff_eq_neg.mp h
  refine ⟨n * 2 ^ k, ?_⟩
  push_cast
  rw [zpow_neg, div_inv_eq_mul, zpow_natCast]

theorem place_nonpos (small : |q| < 2 ^ 53) : place q ≤ 0 := by
  rcases eq_or_ne q 0 with rfl | other
  · norm_num [place]
  · have pos : 0 < |q| := abs_pos.mpr other
    have log : Int.log 2 |q| < 53 :=
      (Int.lt_zpow_iff_log_lt (by norm_num) pos).mp (by exact_mod_cast small)
    unfold place
    omega

theorem round_intCast (n : Int) (small : |n| < 2 ^ 53) : round n = n := by
  obtain ⟨m, whole⟩ := whole_at_place (place_nonpos (q := n) (by exact_mod_cast small)) n
  have unit : (2 : ℚ) ^ place n ≠ 0 := by positivity
  rw [round, whole, roundEven_intCast, ← whole, div_mul_cancel₀ _ unit]

theorem le_round (nonneg : 0 ≤ n) (small : n < 2 ^ 53) (le : (n : ℚ) ≤ q) : n ≤ round q := by
  have unit : (0 : ℚ) < 2 ^ place q := by positivity
  rcases le_or_gt (place q) 0 with fine | coarse
  · obtain ⟨m, whole⟩ := whole_at_place fine n
    have scaled : (m : ℚ) ≤ q / 2 ^ place q := by
      rw [← whole]
      gcongr
    have rounded : (m : ℚ) ≤ roundEven (q / 2 ^ place q) := by
      exact_mod_cast le_roundEven scaled
    exact (div_le_iff₀ unit).mp (whole.trans_le rounded)
  · have pos : 0 < |q| := by
      by_contra zero
      exact absurd (place_nonpos (q := q) (by linarith)) (by omega)
    have here : place q = Int.log 2 |q| - 52 := by
      unfold place at coarse ⊢
      omega
    have low : (2 : ℚ) ^ (place q + 52) ≤ q := by
      have size := Int.zpow_log_le_self (R := ℚ) (b := 2) (by norm_num) pos
      rw [abs_of_nonneg (le.trans' (by exact_mod_cast nonneg))] at size here
      rw [here, sub_add_cancel]
      exact_mod_cast size
    have digits : (2 : Int) ^ 52 ≤ roundEven (q / 2 ^ place q) := by
      apply le_roundEven
      rw [le_div_iff₀ unit]
      calc (((2 : Int) ^ 52 : Int) : ℚ) * 2 ^ place q = 2 ^ (place q + 52) := by
            rw [zpow_add₀ (by norm_num)]
            push_cast
            ring
        _ ≤ q := low
    have two : (2 : ℚ) ≤ 2 ^ place q := by
      calc (2 : ℚ) = 2 ^ (1 : Int) := by norm_num
        _ ≤ 2 ^ place q := by gcongr <;> linarith
    have top : (n : ℚ) ≤ 2 ^ 53 := by exact_mod_cast small.le
    have full : (2 : ℚ) ^ 52 ≤ roundEven (q / 2 ^ place q) := by exact_mod_cast digits
    calc (n : ℚ) ≤ 2 ^ 52 * 2 := by linarith
      _ ≤ round q := mul_le_mul full two (by norm_num) (by linarith)

theorem round_lt_iff (here : place q = e) (even : 2 ∣ m) :
    round q < m * 2 ^ e ↔ q < (m - 1 / 2) * 2 ^ e := by
  have unit : (0 : ℚ) < 2 ^ e := by positivity
  rw [round, here, mul_lt_mul_iff_left₀ unit, Int.cast_lt, roundEven_lt_iff even, div_lt_iff₀ unit]

end Numbers

section Quotients

variable {a k n : Nat}

theorem rest_div (a : Nat) (pos : 0 < k) : (a : ℚ) / k - (a / k : Nat) = (a % k : Nat) / k := by
  have divisor : (k : ℚ) ≠ 0 := by exact_mod_cast pos.ne'
  have parts : (a : ℚ) = k * (a / k : Nat) + (a % k : Nat) := by
    exact_mod_cast (Nat.div_add_mod a k).symm
  field_simp
  linarith

theorem floor_div (a k : Nat) : ⌊(a : ℚ) / k⌋ = (a / k : Nat) := by
  rw [← Int.cast_natCast a, Rat.floor_intCast_div_natCast]
  rfl

theorem roundEven_div_down (pos : 0 < k) (down : 2 * (a % k) < k) :
    (roundEven ((a : ℚ) / k) : ℚ) = (a / k : Nat) := by
  have divisor : (0 : ℚ) < k := by exact_mod_cast pos
  have less : (2 : ℚ) * (a % k : Nat) < k := by exact_mod_cast down
  have low : ((a % k : Nat) : ℚ) / k < 1 / 2 := by
    rw [div_lt_iff₀ divisor]
    linarith
  rw [roundEven, floor_div, Int.cast_natCast, rest_div a pos, if_pos low, Int.cast_natCast]

theorem roundEven_div_up (pos : 0 < k) (up : k < 2 * (a % k)) :
    (roundEven ((a : ℚ) / k) : ℚ) = (a / k : Nat) + 1 := by
  have divisor : (0 : ℚ) < k := by exact_mod_cast pos
  have more : (k : ℚ) < 2 * (a % k : Nat) := by exact_mod_cast up
  have high : (1 : ℚ) / 2 < (a % k : Nat) / k := by
    rw [lt_div_iff₀ divisor]
    linarith
  rw [roundEven, floor_div, Int.cast_natCast, rest_div a pos, if_neg (by linarith), if_pos high]
  push_cast
  rfl

/-- A power of two is never half-way between two multiples of a smaller number. -/
theorem two_pow_no_tie {j : Nat} (le : k ≤ 2 ^ j) : 2 * (2 ^ j % k) ≠ k := by
  intro tie
  have parts := Nat.div_add_mod (2 ^ j) k
  have odd : 2 * (2 ^ j / k) + 1 ∣ 2 ^ j := by
    refine ⟨2 ^ j % k, ?_⟩
    calc 2 ^ j = k * (2 ^ j / k) + 2 ^ j % k := parts.symm
      _ = 2 * (2 ^ j % k) * (2 ^ j / k) + 2 ^ j % k := by rw [tie]
      _ = (2 * (2 ^ j / k) + 1) * (2 ^ j % k) := by ring
  have coprime : Nat.Coprime (2 * (2 ^ j / k) + 1) (2 ^ j) := by
    apply Nat.Coprime.pow_right
    simp
  have one : 2 * (2 ^ j / k) + 1 = 1 := Nat.Coprime.eq_one_of_dvd coprime odd
  have none : 2 ^ j / k = 0 := by omega
  have pos : 0 < k := by
    by_contra zero
    simp_all
  rw [Nat.div_eq_zero_iff_lt pos] at none
  omega

/-- What the 53 digits of a reciprocal leave of a power of two. -/
def excess (k : Nat) : Nat := 2 ^ (Nat.clog 2 k + 52) % k

theorem two_pow_clog_lt (pos : 0 < k) : 2 ^ Nat.clog 2 k < 2 * k := by
  rcases eq_or_lt_of_le (Nat.one_le_iff_ne_zero.mpr pos.ne') with rfl | large
  · simp
  · have below := Nat.pow_pred_clog_lt_self (by norm_num : 1 < 2) large
    have digit := Nat.clog_pos (by norm_num : 1 < 2) large
    obtain ⟨c, digits⟩ := Nat.exists_eq_succ_of_ne_zero digit.ne'
    rw [digits, Nat.pred_succ] at below
    rw [digits, pow_succ]
    omega

theorem place_reciprocal (pos : 0 < k) (small : k < 2 ^ 31) :
    place (1 / k) = -((Nat.clog 2 k + 52 : Nat) : Int) := by
  have clog : Nat.clog 2 k ≤ 31 := Nat.clog_le_of_le_pow small.le
  have divisor : (0 : ℚ) < k := by exact_mod_cast pos
  have above : (k : ℚ) ≤ 2 ^ Nat.clog 2 k := by
    exact_mod_cast Nat.le_pow_clog (by norm_num) k
  have below : (2 : ℚ) ^ Nat.clog 2 k < 2 * k := by exact_mod_cast two_pow_clog_lt pos
  have size : |(1 : ℚ) / k| = 1 / k := abs_of_pos (by positivity)
  rw [place_eq (e := -(Nat.clog 2 k : Int))]
  · push_cast
    ring
  · rw [size, zpow_neg, zpow_natCast, inv_eq_one_div]
    gcongr
  · rw [size, zpow_add₀ (by norm_num), zpow_neg, zpow_natCast, zpow_one, div_lt_iff₀ divisor]
    field_simp
    linarith
  · omega

theorem round_reciprocal (pos : 0 < k) (small : k < 2 ^ 31) :
    round (1 / k) =
      roundEven ((2 ^ (Nat.clog 2 k + 52) : Nat) / k) / (2 ^ (Nat.clog 2 k + 52) : Nat) := by
  rw [round, place_reciprocal pos small, zpow_neg, zpow_natCast, div_inv_eq_mul, one_div_mul_eq_div]
  push_cast
  rfl

/-- The rounded reciprocal times its number, short of one by what the digits leave. -/
theorem mul_round_reciprocal (pos : 0 < k) (small : k < 2 ^ 31) (down : 2 * excess k < k) :
    k * round (1 / k) = 1 - excess k / 2 ^ (Nat.clog 2 k + 52) := by
  have parts : (k : ℚ) * (2 ^ (Nat.clog 2 k + 52) / k : Nat) + excess k =
      2 ^ (Nat.clog 2 k + 52) := by
    exact_mod_cast Nat.div_add_mod (2 ^ (Nat.clog 2 k + 52)) k
  rw [round_reciprocal pos small, roundEven_div_down pos down]
  push_cast at parts ⊢
  field_simp
  linarith

theorem one_le_mul_round_reciprocal (pos : 0 < k) (small : k < 2 ^ 31) (up : ¬ 2 * excess k < k) :
    1 ≤ k * round (1 / k) := by
  have le : k ≤ 2 ^ (Nat.clog 2 k + 52) :=
    (Nat.le_pow_clog (by norm_num) k).trans (Nat.pow_le_pow_right (by norm_num) (by omega))
  have more : k < 2 * excess k := lt_of_le_of_ne (not_lt.mp up) (two_pow_no_tie le).symm
  have less : excess k < k := Nat.mod_lt _ pos
  have parts : k * (2 ^ (Nat.clog 2 k + 52) / k) + excess k = 2 ^ (Nat.clog 2 k + 52) :=
    Nat.div_add_mod (2 ^ (Nat.clog 2 k + 52)) k
  have full : (2 : ℚ) ^ (Nat.clog 2 k + 52) ≤
      k * ((2 ^ (Nat.clog 2 k + 52) / k : Nat) + 1) := by
    exact_mod_cast (by rw [mul_add]; omega : _ ≤ k * (2 ^ (Nat.clog 2 k + 52) / k + 1))
  rw [round_reciprocal pos small, roundEven_div_up pos more, ← mul_div_assoc,
    le_div_iff₀ (by positivity)]
  push_cast at full ⊢
  linarith

/-- Exactly here the rounded product of `n`, `k` and the rounded reciprocal of `k` stays below
`n`: the digits of the reciprocal are cut off, by at least what the last digit below `n` can show. -/
def FallsShort (n k : Nat) : Prop :=
  2 * excess k < k ∧ 2 ^ (Nat.clog 2 k + Nat.log 2 (2 * n - 1)) < 4 * n * excess k

instance (n k : Nat) : Decidable (FallsShort n k) := inferInstanceAs (Decidable (_ ∧ _))

theorem excess_quotient_le (down : 2 * excess k < k) :
    (excess k : ℚ) / 2 ^ (Nat.clog 2 k + 52) ≤ 1 / 2 ^ 53 := by
  have le : (k : ℚ) ≤ 2 ^ Nat.clog 2 k := by exact_mod_cast Nat.le_pow_clog (by norm_num) k
  have half : (2 : ℚ) * excess k ≤ k := by exact_mod_cast down.le
  rw [div_le_div_iff₀ (by positivity) (by positivity), pow_add]
  linarith

/-- The place of a number that is just below a whole one. -/
theorem place_below (pos : 0 < n) (small : n < 2 ^ 31) {q : ℚ} (near : (n : ℚ) - 1 / 2 ≤ q)
    (less : q < n) : place q = (Nat.log 2 (2 * n - 1) : Int) - 53 := by
  have low := Nat.pow_log_le_self 2 (show 2 * n - 1 ≠ 0 by omega)
  have high := Nat.lt_pow_succ_log_self (by norm_num : 1 < 2) (2 * n - 1)
  have up : n ≤ 2 ^ Nat.log 2 (2 * n - 1) := by
    rw [pow_succ] at high
    omega
  have lowQ : (2 : ℚ) ^ Nat.log 2 (2 * n - 1) ≤ 2 * n - 1 := by
    have whole : 2 ^ Nat.log 2 (2 * n - 1) + 1 ≤ 2 * n := by omega
    have cast : (2 : ℚ) ^ Nat.log 2 (2 * n - 1) + 1 ≤ 2 * n := by exact_mod_cast whole
    linarith
  have upQ : (n : ℚ) ≤ 2 ^ Nat.log 2 (2 * n - 1) := by exact_mod_cast up
  have one : (1 : ℚ) ≤ n := by exact_mod_cast pos
  have size : |q| = q := abs_of_pos (by linarith)
  rw [place_eq (e := (Nat.log 2 (2 * n - 1) : Int) - 1)]
  · ring
  · rw [size, zpow_sub₀ (by norm_num), zpow_natCast, zpow_one]
    linarith
  · rw [size, sub_add_cancel, zpow_natCast]
    linarith
  · omega

/-- A number just below a whole one is rounded up to it unless it is nearer to the number below. -/
theorem round_lt_natCast_iff (pos : 0 < n) (small : n < 2 ^ 31) {q : ℚ}
    (near : (n : ℚ) - 1 / 2 ≤ q) (less : q < n) :
    round q < n ↔ 2 ^ Nat.log 2 (2 * n - 1) < (n - q) * 2 ^ 54 := by
  have log : Nat.log 2 (2 * n - 1) ≤ 31 := by
    have below := Nat.log_lt_of_lt_pow (show 2 * n - 1 ≠ 0 by omega)
      (show 2 * n - 1 < 2 ^ 32 by omega)
    omega
  obtain ⟨j, digits⟩ := Nat.exists_eq_add_of_le (show Nat.log 2 (2 * n - 1) ≤ 52 by omega)
  have here := place_below pos small near less
  have unit : (2 : ℚ) ^ ((Nat.log 2 (2 * n - 1) : Int) - 53) = 1 / 2 ^ (j + 1) := by
    rw [show (Nat.log 2 (2 * n - 1) : Int) - 53 = -((j + 1 : Nat) : Int) by omega, zpow_neg,
      zpow_natCast, one_div]
  have whole : (n : ℚ) = (2 * (n * 2 ^ j) : Int) * 2 ^ ((Nat.log 2 (2 * n - 1) : Int) - 53) := by
    rw [unit]
    push_cast
    field_simp
    ring
  have power : (2 : ℚ) ^ Nat.log 2 (2 * n - 1) * 2 ^ j = 2 ^ 52 := by
    rw [← pow_add, ← digits]
  have scale : (0 : ℚ) < 2 ^ j := by positivity
  have digit : ((2 * (n * 2 ^ j) : Int) - 1 / 2 : ℚ) * (1 / 2 ^ (j + 1)) = n - 1 / (4 * 2 ^ j) := by
    push_cast
    field_simp
    ring
  have shown : (2 : ℚ) ^ Nat.log 2 (2 * n - 1) = 1 / (4 * 2 ^ j) * 2 ^ 54 := by
    field_simp
    linarith
  rw [whole, round_lt_iff here ⟨_, rfl⟩, ← whole, unit, digit, shown,
    mul_lt_mul_iff_left₀ (by norm_num)]
  exact lt_sub_comm

/-- What a product with the rounded reciprocal of `k` is short of a whole number. -/
def shortfall (n k : Nat) : ℚ := n * (excess k / 2 ^ (Nat.clog 2 k + 52))

theorem shortfall_le (small : n < 2 ^ 31) (down : 2 * excess k < k) : shortfall n k ≤ 1 / 2 := by
  have tiny := excess_quotient_le down
  have top : (n : ℚ) ≤ 2 ^ 31 := by exact_mod_cast small.le
  calc shortfall n k ≤ 2 ^ 31 * (1 / 2 ^ 53) :=
        mul_le_mul top tiny (div_nonneg (Nat.cast_nonneg _) (by positivity)) (by positivity)
    _ ≤ 1 / 2 := by norm_num

theorem shortfall_pos (posN : 0 < n) (some : 0 < excess k) : 0 < shortfall n k := by
  have count : (0 : ℚ) < n := Nat.cast_pos.mpr posN
  have rest : (0 : ℚ) < excess k := Nat.cast_pos.mpr some
  exact mul_pos count (div_pos rest (pow_pos (by norm_num) _))

theorem shortfall_shown (n k : Nat) :
    (2 : ℚ) ^ Nat.log 2 (2 * n - 1) < shortfall n k * 2 ^ 54 ↔
      2 ^ (Nat.clog 2 k + Nat.log 2 (2 * n - 1)) < 4 * n * excess k := by
  have scale : (0 : ℚ) < 2 ^ Nat.clog 2 k := by positivity
  have cancel {c w : ℚ} (count rest : ℚ) (posC : 0 < c) (posW : 0 < w) :
      count * (rest / (c * w)) * (4 * w) = 4 * count * rest / c := by
    field_simp
  have last : (2 : ℚ) ^ 54 = 4 * 2 ^ 52 := by norm_num
  have shown : shortfall n k * 2 ^ 54 = (4 * n * excess k : Nat) / 2 ^ Nat.clog 2 k := by
    rw [shortfall, pow_add, last, cancel _ _ scale (by norm_num)]
    norm_cast
  rw [shown, lt_div_iff₀ scale, ← pow_add, add_comm]
  exact_mod_cast Iff.rfl

/-- The product of a whole number with the rounded reciprocal. -/
theorem round_mul_reciprocal_lt_iff (posN : 0 < n) (smallN : n < 2 ^ 31) (pos : 0 < k)
    (small : k < 2 ^ 31) : round ((n * k : Nat) * round (1 / k)) < n ↔ FallsShort n k := by
  have split : ((n * k : Nat) : ℚ) * round (1 / k) = n * (k * round (1 / k)) := by
    push_cast
    ring
  by_cases down : 2 * excess k < k
  · have product : (n : ℚ) * (k * round (1 / k)) = n - shortfall n k := by
      rw [mul_round_reciprocal pos small down, shortfall, mul_sub, mul_one]
    have near := shortfall_le smallN down
    rw [split, product, FallsShort, and_iff_right down, ← shortfall_shown]
    rcases Nat.eq_zero_or_pos (excess k) with none | some
    · have exact : shortfall n k = 0 := by simp [shortfall, none]
      have whole : round n = n := by
        exact_mod_cast round_intCast n (by rw [abs_of_nonneg] <;> omega)
      rw [exact, sub_zero, whole, zero_mul]
      exact iff_of_false (lt_irrefl _) (not_lt.mpr (by positivity))
    · have less := shortfall_pos posN some
      rw [round_lt_natCast_iff posN smallN (by linarith) (by linarith), sub_sub_cancel]
  · have product : (n : ℚ) ≤ n * (k * round (1 / k)) :=
      le_mul_of_one_le_right (by positivity) (one_le_mul_round_reciprocal pos small down)
    apply iff_of_false
    · rw [split, not_lt]
      exact_mod_cast le_round (n := n) (by omega) (by omega) (by exact_mod_cast product)
    · exact fun short => down short.1

end Quotients

section Scaling

variable {d m n r : Nat}

theorem round_normal_error {q : ℚ} (normal : 1 / 2 ^ 32 ≤ q) :
    q * (1 - 1 / 2 ^ 53) ≤ round q ∧ round q ≤ q * (1 + 1 / 2 ^ 53) := by
  have pos : 0 < q := lt_of_lt_of_le (by positivity) normal
  have size : |q| = q := abs_of_pos pos
  have error : |round q - q| ≤ |q| / 2 ^ 53 := by
    apply round_error
    rw [size]
    apply le_trans _ normal
    rw [one_div, ← zpow_natCast, ← zpow_neg]
    gcongr <;> norm_num
  rw [size, abs_le] at error
  constructor <;> linarith

theorem normal_quotient (posM : 0 < m) (posR : 0 < r) (smallR : r < 2 ^ 31) :
    (1 : ℚ) / 2 ^ 31 ≤ m / r := by
  have one : (1 : ℚ) ≤ m := by exact_mod_cast posM
  have divisor : (0 : ℚ) < r := by exact_mod_cast posR
  have top : (r : ℚ) ≤ 2 ^ 31 := by exact_mod_cast smallR.le
  rw [div_le_div_iff₀ (by norm_num) divisor]
  nlinarith

/-- The exact product before its rounding. -/
theorem mul_round_error (posD : 0 < d) (posM : 0 < m) (posR : 0 < r) (smallR : r < 2 ^ 31) :
    (d * m / r : ℚ) * (1 - 1 / 2 ^ 53) ≤ d * round (m / r) ∧
    d * round (m / r) ≤ (d * m / r : ℚ) * (1 + 1 / 2 ^ 53) := by
  have factor : (0 : ℚ) ≤ d := by positivity
  have normal := normal_quotient posM posR smallR
  obtain ⟨low, high⟩ := round_normal_error (normal.trans' (by norm_num))
  rw [mul_div_assoc, mul_assoc, mul_assoc]
  exact ⟨mul_le_mul_of_nonneg_left low factor, mul_le_mul_of_nonneg_left high factor⟩

/-- A product that is less than a whole number stays less in its two roundings. -/
theorem round_mul_round_lt (posD : 0 < d) (posM : 0 < m) (posR : 0 < r) (smallR : r < 2 ^ 31)
    (smallN : n < 2 ^ 15) (less : d * m < n * r) : round (d * round (m / r)) < n := by
  have divisor : (0 : ℚ) < r := by exact_mod_cast posR
  have apart : (d * m : ℚ) + 1 ≤ n * r := by exact_mod_cast less
  have bound : (n * r : ℚ) ≤ 2 ^ 46 := by
    exact_mod_cast (Nat.mul_le_mul smallN.le smallR.le).trans (by norm_num)
  obtain ⟨low, high⟩ := mul_round_error posD posM posR smallR
  have normal : (1 : ℚ) / 2 ^ 32 ≤ d * round (m / r) := by
    have quotient := normal_quotient posM posR smallR
    have one : (1 : ℚ) ≤ d := by exact_mod_cast posD
    have grown : (m / r : ℚ) ≤ d * m / r := by
      rw [mul_div_assoc]
      exact le_mul_of_one_le_left (by positivity) one
    linarith
  obtain ⟨-, up⟩ := round_normal_error normal
  calc round (d * round (m / r)) ≤ (d * m / r : ℚ) * (1 + 1 / 2 ^ 53) * (1 + 1 / 2 ^ 53) := by
        apply up.trans
        gcongr
    _ < n := by
        rw [div_mul_eq_mul_div, div_mul_eq_mul_div, div_lt_iff₀ divisor]
        linarith

theorem le_round_mul_round (posD : 0 < d) (posM : 0 < m) (posR : 0 < r) (smallR : r < 2 ^ 31)
    (smallN : n < 2 ^ 15) (more : n * r < d * m) : n ≤ round (d * round (m / r)) := by
  have divisor : (0 : ℚ) < r := by exact_mod_cast posR
  have apart : (n * r : ℚ) + 1 ≤ d * m := by exact_mod_cast more
  have bound : (n * r : ℚ) ≤ 2 ^ 46 := by
    exact_mod_cast (Nat.mul_le_mul smallN.le smallR.le).trans (by norm_num)
  obtain ⟨low, -⟩ := mul_round_error posD posM posR smallR
  have product : ((n : Int) : ℚ) ≤ d * round (m / r) := by
    apply low.trans'
    rw [div_mul_eq_mul_div, le_div_iff₀ divisor]
    push_cast
    linarith
  exact_mod_cast le_round (by omega) (by omega) product

/-- The product with a rounded quotient against a whole number: as without rounding, apart from
the case that the exact product is the number. -/
theorem round_mul_round_lt_iff (posD : 0 < d) (posM : 0 < m) (posR : 0 < r) (smallR : r < 2 ^ 31)
    (posN : 0 < n) (smallN : n < 2 ^ 15) (coprime : Nat.Coprime m n) :
    round (d * round (m / r)) < n ↔ d * m < n * r ∨ d * m = n * r ∧ FallsShort n (r / m) := by
  rcases lt_trichotomy (d * m) (n * r) with less | same | more
  · exact iff_of_true (round_mul_round_lt posD posM posR smallR smallN less) (.inl less)
  · obtain ⟨k, rfl⟩ : m ∣ r := coprime.dvd_of_dvd_mul_left ⟨d, by rw [← same, mul_comm]⟩
    have count : d = n * k := by
      apply Nat.eq_of_mul_eq_mul_right posM
      rw [same]
      ring
    have posK : 0 < k := Nat.pos_of_mul_pos_left posR
    have smallK : k < 2 ^ 31 := (Nat.le_mul_of_pos_left k posM).trans_lt smallR
    have quotient : (m : ℚ) / (m * k : Nat) = 1 / k := by
      push_cast
      field_simp
    rw [Nat.mul_div_cancel_left k posM, quotient, count,
      round_mul_reciprocal_lt_iff posN (by omega) posK smallK, ← count]
    simp [same]
  · exact iff_of_false (le_round_mul_round posD posM posR smallR smallN more).not_gt (by omega)

/-- A number is cut off to one that is not negative exactly if the opposite is below one. -/
theorem cut_round_nonneg_iff (q : ℚ) : 0 ≤ Scale.cut (round q) ↔ round (-q) < 1 := by
  rw [Scale.cut_nonneg_iff, round_neg, neg_lt]

theorem round_nonneg {q : ℚ} (nonneg : 0 ≤ q) : 0 ≤ round q := by
  exact_mod_cast le_round (n := 0) le_rfl (by norm_num) (by exact_mod_cast nonneg)

theorem round_nonpos {q : ℚ} (nonpos : q ≤ 0) : round q ≤ 0 := by
  have opposite := round_nonneg (neg_nonneg.mpr nonpos)
  rw [round_neg] at opposite
  linarith

variable {v : Int}

/-- A position on `0 … r` is scaled to one of `0 … m` or after it. -/
theorem scaled_nonneg_iff (posM : 0 < m) (posR : 0 < r) (smallR : r < 2 ^ 31) :
    0 ≤ Scale.cut (round (v * round (m / r))) ↔
      -v * m < r ∨ -v * m = r ∧ FallsShort 1 (-v).toNat := by
  have factor : (0 : ℚ) ≤ round (m / r) := round_nonneg (by positivity)
  rw [cut_round_nonneg_iff]
  rcases le_or_gt 0 v with inside | before
  · have product : -((v : ℚ) * round (m / r)) ≤ 0 :=
      neg_nonpos.mpr (mul_nonneg (by exact_mod_cast inside) factor)
    have off : -v * m ≤ 0 := mul_nonpos_of_nonpos_of_nonneg (by omega) (by omega)
    exact iff_of_true ((round_nonpos product).trans_lt one_pos) (.inl (by omega))
  · obtain ⟨d, rfl⟩ : ∃ d : Nat, v = -d := ⟨(-v).toNat, by omega⟩
    have cut := round_mul_round_lt_iff (d := d) (n := 1) (by omega) posM posR smallR one_pos
      (by norm_num) (Nat.coprime_one_right m)
    have opposite : -(((-(d : Int) : Int) : ℚ) * round (m / r)) = d * round (m / r) := by
      rw [Int.cast_neg, Int.cast_natCast, neg_mul, neg_neg]
    rw [Nat.cast_one, one_mul] at cut
    rw [opposite, cut, neg_neg, Int.toNat_natCast, ← Nat.cast_mul, Nat.cast_lt, Nat.cast_inj]
    refine or_congr Iff.rfl (and_congr_right fun same => ?_)
    rw [← same, Nat.mul_div_cancel d posM]

/-- A position on `0 … r` is scaled to one of `0 … m` or before it. -/
theorem scaled_le_iff (posM : 0 < m) (smallM : m < 2 ^ 14) (posR : 0 < r) (smallR : r < 2 ^ 31) :
    Scale.cut (round (v * round (m / r))) ≤ m ↔
      (v - r) * m < r ∨ (v - r) * m = r ∧ FallsShort (m + 1) (v - r).toNat := by
  have factor : (0 : ℚ) ≤ round (m / r) := round_nonneg (by positivity)
  rw [Scale.cut_le_iff (by omega)]
  rcases le_or_gt v 0 with before | inside
  · have product : (v : ℚ) * round (m / r) ≤ 0 :=
      mul_nonpos_of_nonpos_of_nonneg (by exact_mod_cast before) factor
    have off : (v - r) * m ≤ 0 := mul_nonpos_of_nonpos_of_nonneg (by omega) (by omega)
    refine iff_of_true ((round_nonpos product).trans_lt ?_) (.inl (by omega))
    push_cast
    positivity
  · obtain ⟨d, rfl⟩ := Int.eq_ofNat_of_zero_le inside.le
    have cut := round_mul_round_lt_iff (d := d) (n := m + 1) (by omega) posM posR smallR
      (by omega) (by omega) (Nat.coprime_self_add_right.mpr (Nat.coprime_one_right m))
    have less : ((d : Int) - r) * m < r ↔ d * m < (m + 1) * r := by
      zify
      constructor <;> intro <;> linarith
    have same : ((d : Int) - r) * m = r ↔ d * m = (m + 1) * r := by
      zify
      constructor <;> intro <;> linarith
    rw [Int.cast_natCast, Int.cast_natCast, ← Nat.cast_add_one, cut, less, same]
    refine or_congr Iff.rfl (and_congr_right fun here => ?_)
    have count : ((d : Int) - r).toNat = r / m := by
      have divided : (r : Int) / m = d - r :=
        Int.ediv_eq_of_eq_mul_left (by omega) (same.mpr here).symm
      rw [← divided, ← Int.natCast_ediv, Int.toNat_natCast]
    rw [count]

/-- The two roundings take a position to the place that it has without them, or to the one below
where it has that place exactly. -/
theorem scaled_near (posM : 0 < m) (posR : 0 < r) (smallR : r < 2 ^ 31)
    (small : d * m / r + 1 < 2 ^ 15) :
    (Scale.cut (round (d * round (m / r))) = (d * m / r : Nat) ∨
      r ∣ d * m ∧ Scale.cut (round (d * round (m / r))) + 1 = (d * m / r : Nat)) := by
  have nonneg : 0 ≤ round (d * round (m / r)) :=
    round_nonneg (mul_nonneg (by positivity) (round_nonneg (by positivity)))
  rcases Nat.eq_zero_or_pos d with rfl | posD
  · left
    simp [Scale.cut, round, roundEven]
  have below : Scale.cut (round (d * round (m / r))) ≤ (d * m / r : Nat) := by
    rw [Scale.cut_le_iff (Int.natCast_nonneg _)]
    have less : d * m < (d * m / r + 1) * r := Nat.lt_mul_of_div_lt (Nat.lt_succ_self _) posR
    exact_mod_cast round_mul_round_lt posD posM posR smallR small less
  have above : ∀ n : Nat, n < 2 ^ 15 → n * r < d * m →
      (n : Int) ≤ Scale.cut (round (d * round (m / r))) := by
    intro n fits more
    rw [Scale.cut_of_nonneg nonneg, Int.le_floor]
    exact_mod_cast le_round_mul_round posD posM posR smallR fits more
  have parts := Nat.div_add_mod' (d * m) r
  have product := Nat.mul_pos posD posM
  generalize d * m / r = place at *
  rcases Nat.eq_zero_or_pos (d * m % r) with whole | rest
  · obtain ⟨n, rfl⟩ : ∃ n, place = n + 1 := by
      apply Nat.exists_eq_succ_of_ne_zero
      rintro rfl
      omega
    have less := above n (by omega) (by
      rw [Nat.add_mul] at parts
      omega)
    rcases eq_or_lt_of_le below with same | low
    · exact .inl same
    · refine .inr ⟨Nat.dvd_of_mod_eq_zero whole, ?_⟩
      omega
  · exact .inl (le_antisymm below (above place (by omega) (by omega)))

end Scaling

end TestRunner.Binary64
