import TestRunner.Recorder.Heard
import TestRunner.Scale

/-! The touch transformation with the overflows of `int`: where it is defined, and where its
coordinate is one that the virtual touch devices have. -/
namespace TestRunner

def FitsInt (n : Int) : Prop := -2 ^ 31 ≤ n ∧ n < 2 ^ 31

instance (n : Int) : Decidable (FitsInt n) := inferInstanceAs (Decidable (_ ∧ _))

/-- The result of an `int` operation, none where it overflows. -/
def toInt (n : Int) : Option Int := if FitsInt n then some n else none

def Axis.limit : Axis → Int
  | .x => virtualMultitouchAbsXMax
  | .y => virtualMultitouchAbsYMax

def InDevice.absRange (device : InDevice) : Axis → AbsInfo
  | .x => device.absRangeX
  | .y => device.absRangeY

/-- `transform_touch_coordinates` with its three overflows: the two differences of `int`s and the
conversion of the product. -/
def transformTouchCoordinatesInt (round : ℚ → ℚ) (device : InDevice) (val : Int) (axis : Axis) :
    Option Int := do
  let range := device.absRange axis
  let val ← toInt (val - range.minimum)
  let nativeRange ← toInt (range.maximum - range.minimum)
  let transformVal : ℚ := if nativeRange > 0 then round (axis.limit / nativeRange) else 0
  toInt (truncate (round (val * transformVal)))

/-- The axis by which an event is transformed. -/
def InputEvent.axis (ev : InputEvent) : Option Axis :=
  if ev.type = evAbs then
    if ev.code = absMtPositionX ∨ ev.code = absX then some .x
    else if ev.code = absMtPositionY ∨ ev.code = absY then some .y
    else none
  else none

@[simp] theorem toInt_eq_some {n m : Int} : toInt n = some m ↔ FitsInt n ∧ n = m := by
  simp [toInt]

theorem Axis.limit_pos (axis : Axis) : 0 < axis.limit := by
  cases axis <;> decide

theorem Axis.limit_lt (axis : Axis) : axis.limit < 2 ^ 14 := by
  cases axis <;> decide

variable {round : ℚ → ℚ} {device device' : InDevice} {val : Int} {axis : Axis} {ev : InputEvent}

theorem transformTouchCoordinates_eq (round : ℚ → ℚ) (device : InDevice) (val : Int) (axis : Axis) :
    transformTouchCoordinates round device val axis =
      transformAxis round (device.absRange axis) axis.limit val := by
  cases axis <;> rfl

theorem transformTouchCoordinatesInt_eq_some {coordinate : Int} :
    transformTouchCoordinatesInt round device val axis = some coordinate ↔
      FitsInt (val - (device.absRange axis).minimum) ∧
      FitsInt ((device.absRange axis).maximum - (device.absRange axis).minimum) ∧
      FitsInt coordinate ∧ transformTouchCoordinates round device val axis = coordinate := by
  rw [transformTouchCoordinates_eq]
  simp only [transformTouchCoordinatesInt, transformAxis, Option.bind_eq_bind,
    Option.bind_eq_some_iff, toInt_eq_some]
  constructor
  · rintro ⟨_, ⟨fits, rfl⟩, _, ⟨fits', rfl⟩, fits'', rfl⟩
    exact ⟨fits, fits', fits'', rfl⟩
  · rintro ⟨fits, fits', fits'', rfl⟩
    exact ⟨_, ⟨fits, rfl⟩, _, ⟨fits', rfl⟩, fits'', rfl⟩

theorem transformEvent_of_axis (touch : ev.axis = some axis) :
    transformEventWith round device ev =
      { ev with value := transformTouchCoordinates round device ev.value axis } := by
  unfold InputEvent.axis at touch
  unfold transformEventWith
  split_ifs at touch ⊢ <;> cases touch <;> rfl

theorem truncate_eq_cut (q : ℚ) : truncate q = Scale.cut q := rfl

/-- A value on the native range of an axis. -/
structure Placed (device : InDevice) (axis : Axis) (val : Int) : Prop where
  low : (device.absRange axis).minimum ≤ val
  high : val ≤ (device.absRange axis).maximum
  range : (device.absRange axis).minimum < (device.absRange axis).maximum
  fits : FitsInt ((device.absRange axis).maximum - (device.absRange axis).minimum)

theorem Placed.scale (placed : Placed device axis val) :
    transformTouchCoordinates id device val axis =
      Scale.scale ((device.absRange axis).maximum - (device.absRange axis).minimum) axis.limit
        (val - (device.absRange axis).minimum) := by
  have native := sub_pos.mpr placed.range
  rw [transformTouchCoordinates_eq, transformAxis, truncate_eq_cut, if_pos native]
  exact Scale.cut_eq_scale native (sub_nonneg.mpr placed.low) axis.limit_pos.le

theorem Placed.mem (placed : Placed device axis val) :
    0 ≤ transformTouchCoordinates id device val axis ∧
    transformTouchCoordinates id device val axis ≤ axis.limit := by
  rw [placed.scale]
  apply Scale.scale_mem (sub_pos.mpr placed.range) axis.limit_pos.le
    (sub_nonneg.mpr placed.low)
  exact sub_le_sub_right placed.high _

theorem Placed.defined (placed : Placed device axis val) :
    transformTouchCoordinatesInt id device val axis =
      some (transformTouchCoordinates id device val axis) := by
  obtain ⟨low, high⟩ := placed.mem
  have limit := axis.limit_lt
  have fits := placed.fits
  have below := placed.low
  have above := placed.high
  apply transformTouchCoordinatesInt_eq_some.mpr
  refine ⟨?_, fits, ?_, rfl⟩
  · unfold FitsInt at fits ⊢
    omega
  · unfold FitsInt
    omega

/-- The `double`s record a touch at the place that it has without rounding, or one below a place
that it has exactly. -/
theorem Placed.rounded (placed : Placed device axis val) :
    transformTouchCoordinates Binary64.round device val axis =
      transformTouchCoordinates id device val axis ∨
    (device.absRange axis).maximum - (device.absRange axis).minimum ∣
      (val - (device.absRange axis).minimum) * axis.limit ∧
    transformTouchCoordinates Binary64.round device val axis + 1 =
      transformTouchCoordinates id device val axis := by
  have native := sub_pos.mpr placed.range
  have low := axis.limit_pos
  have high := axis.limit_lt
  obtain ⟨r, width⟩ := Int.eq_ofNat_of_zero_le native.le
  obtain ⟨d, off⟩ := Int.eq_ofNat_of_zero_le (sub_nonneg.mpr placed.low)
  obtain ⟨m, full⟩ := Int.eq_ofNat_of_zero_le low.le
  have inside : d ≤ r := by
    have le := placed.high
    omega
  have smallR : r < 2 ^ 31 := by
    have fits := placed.fits
    unfold FitsInt at fits
    omega
  have place : d * m / r ≤ m :=
    Nat.div_le_of_le_mul (Nat.mul_le_mul_right m inside)
  have near := Binary64.scaled_near (d := d) (m := m) (r := r) (by omega) (by omega) smallR
    (by omega)
  rw [placed.scale, transformTouchCoordinates_eq, transformAxis, truncate_eq_cut, if_pos native,
    Scale.scale, width, off, full]
  simp only [Int.cast_natCast, ← Nat.cast_mul, ← Int.natCast_ediv, Int.natCast_dvd_natCast]
  exact near

/-- Off a range by less than the range divided by the virtual maximum, or by just that where the
product of the `double`s falls short of `place`. -/
def Within (range : AbsInfo) (limit : Int) (place : Nat) (off : Int) : Prop :=
  off * limit < range.maximum - range.minimum ∨
  off * limit = range.maximum - range.minimum ∧ Binary64.FallsShort place off.toNat

instance (range : AbsInfo) (limit : Int) (place : Nat) (off : Int) :
    Decidable (Within range limit place off) := inferInstanceAs (Decidable (_ ∨ _))

/-- Where the differences of `int`s are defined, the coordinate is one of the virtual device
exactly for a value that is close enough to its range. -/
theorem transformAxis_mem_iff (range : AbsInfo) (axis : Axis) (val : Int)
    (fits : FitsInt (range.maximum - range.minimum)) :
    0 ≤ transformAxis Binary64.round range axis.limit val ∧
    transformAxis Binary64.round range axis.limit val ≤ axis.limit ↔
      (range.minimum < range.maximum →
        Within range axis.limit 1 (range.minimum - val) ∧
        Within range axis.limit (axis.limit.toNat + 1) (val - range.maximum)) := by
  have limit := axis.limit_pos
  have low := axis.limit_lt
  rw [transformAxis, truncate_eq_cut]
  by_cases native : range.minimum < range.maximum
  · obtain ⟨r, width⟩ := Int.eq_ofNat_of_zero_le (sub_nonneg.mpr native.le)
    obtain ⟨m, full⟩ := Int.eq_ofNat_of_zero_le limit.le
    rw [width] at fits
    have posR : 0 < r := by omega
    have smallR : r < 2 ^ 31 := by
      unfold FitsInt at fits
      omega
    have first := Binary64.scaled_nonneg_iff (v := val - range.minimum) (m := m) (by omega) posR
      smallR
    have last := Binary64.scaled_le_iff (v := val - range.minimum) (m := m) (by omega) (by omega)
      posR smallR
    rw [if_pos (by omega), width, full, Int.cast_natCast, Int.cast_natCast, first, last,
      Within, Within, width, neg_sub, sub_sub, ← width, Int.toNat_natCast, add_sub_cancel]
    exact (imp_iff_right native).symm
  · rw [if_neg (by omega), mul_zero]
    have zero : Binary64.round 0 = 0 := by
      exact_mod_cast Binary64.round_intCast 0 (by norm_num)
    apply iff_of_true
    · rw [zero]
      exact ⟨le_rfl, limit.le⟩
    · intro other
      exact absurd other native

/- The exact quotients of these two are -1 and 16001. -/
example : Within ⟨0, 784000⟩ (Axis.limit .x) 1 (0 - -49) ∧
    Within ⟨0, 784000⟩ (Axis.limit .x) 16001 (784049 - 784000) := by decide

end TestRunner

namespace TestRunner.Recorder

variable {e : Reading} {axis : Axis}

/-- The place of a reading on the native range of its axis. -/
def Reading.position (e : Reading) (axis : Axis) : ℚ :=
  ((e.ev.value - (e.device.absRange axis).minimum : Int) : ℚ) /
    ((e.device.absRange axis).maximum - (e.device.absRange axis).minimum : Int)

/-- A reading transformed without the rounding of `double`s. -/
def Reading.scaled (e : Reading) : Reading := { e with ev := transformEventWith id e.device e.ev }

theorem Reading.inputVal_of_axis (touch : e.ev.axis = some axis) (keysym : UInt32) :
    (e.scaled.record keysym).inputVal = transformTouchCoordinates id e.device e.ev.value axis := by
  simp only [Reading.scaled, Reading.record, transformEvent_of_axis touch]

/-- With exact quotients and products, a touch on its native range is recorded at the place of its position on the virtual range,
rounded down: the ends of one range go to the ends of the other, the order is kept, and the
position alone decides. -/
theorem touch_scaled (touch : e.ev.axis = some axis)
    (placed : Placed e.device axis e.ev.value) (keysym : UInt32) :
    let range := e.device.absRange axis
    let coordinate := (e.scaled.record keysym).inputVal
    transformTouchCoordinatesInt id e.device e.ev.value axis = some coordinate ∧
    coordinate = ⌊((e.ev.value - range.minimum) * axis.limit : ℚ) /
      (range.maximum - range.minimum)⌋ ∧
    0 ≤ coordinate ∧ coordinate ≤ axis.limit ∧
    (e.ev.value = range.minimum → coordinate = 0) ∧
    (e.ev.value = range.maximum → coordinate = axis.limit) ∧
    (∀ (e' : Reading) (keysym' : UInt32), e'.device = e.device → e'.ev.axis = some axis →
      Placed e'.device axis e'.ev.value → e.ev.value ≤ e'.ev.value →
      coordinate ≤ (e'.scaled.record keysym').inputVal) ∧
    (∀ (e' : Reading) (keysym' : UInt32), e'.ev.axis = some axis →
      Placed e'.device axis e'.ev.value → e.position axis = e'.position axis →
      coordinate = (e'.scaled.record keysym').inputVal) := by
  intro range coordinate
  have native : 0 < range.maximum - range.minimum := sub_pos.mpr placed.range
  have recorded : coordinate = transformTouchCoordinates id e.device e.ev.value axis :=
    Reading.inputVal_of_axis touch keysym
  have scaled : coordinate = Scale.scale (range.maximum - range.minimum) axis.limit
      (e.ev.value - range.minimum) := recorded.trans placed.scale
  have mem := placed.mem
  rw [← recorded] at mem
  refine ⟨recorded ▸ placed.defined, ?_, mem.1, mem.2, ?_, ?_, ?_, ?_⟩
  · rw [scaled, ← Scale.floor_eq_scale native]
    push_cast
    rfl
  · intro first
    rw [scaled, first, sub_self, Scale.scale_zero]
  · intro last
    rw [scaled, last, Scale.scale_full native]
  · intro e' keysym' device touch' placed' le
    rw [scaled, Reading.inputVal_of_axis touch' keysym', placed'.scale, device]
    exact Scale.scale_mono native axis.limit_pos.le (sub_le_sub_right le _)
  · intro e' keysym' touch' placed' same
    rw [scaled, Reading.inputVal_of_axis touch' keysym', placed'.scale]
    exact Scale.scale_ratio native (sub_pos.mpr placed'.range) same

def widePanel : InDevice := ⟨5, [119], .touchscreen, ⟨0, 16000⟩, ⟨0, 9000⟩⟩
def smallPanel : InDevice := ⟨6, [115], .multitouchscreen, ⟨100, 1700⟩, ⟨-450, 450⟩⟩

theorem touch_scaled_example :
    (((⟨1, smallPanel, ⟨evAbs, absMtPositionY, -440⟩⟩ : Reading).scaled).record 0).inputVal =
      100 := by
  have panel : Placed smallPanel .y (-440) := by constructor <;> decide
  have touch : (⟨evAbs, absMtPositionY, -440⟩ : InputEvent).axis = some .y := by decide
  have scaled := @touch_scaled ⟨1, smallPanel, ⟨evAbs, absMtPositionY, -440⟩⟩ .y touch panel 0
  rw [scaled.2.1]
  norm_num [smallPanel, InDevice.absRange, Axis.limit, virtualMultitouchAbsYMax]

/-- The transformation is defined and its coordinate is one of the virtual device exactly for
differences that are `int`s and a value that is close enough to its range. -/
theorem touch_accepted_iff (device : InDevice) (val : Int) (axis : Axis) :
    let range := device.absRange axis
    (∃ coordinate, transformTouchCoordinatesInt Binary64.round device val axis = some coordinate ∧
      0 ≤ coordinate ∧ coordinate ≤ axis.limit) ↔
    FitsInt (val - range.minimum) ∧ FitsInt (range.maximum - range.minimum) ∧
    (range.minimum < range.maximum →
      Within range axis.limit 1 (range.minimum - val) ∧
      Within range axis.limit (axis.limit.toNat + 1) (val - range.maximum)) := by
  intro range
  have limit := axis.limit_lt
  constructor
  · rintro ⟨coordinate, found, low, high⟩
    obtain ⟨fits, fits', -, rfl⟩ := transformTouchCoordinatesInt_eq_some.mp found
    rw [transformTouchCoordinates_eq] at low high
    exact ⟨fits, fits', (transformAxis_mem_iff range axis val fits').mp ⟨low, high⟩⟩
  · rintro ⟨fits, fits', near⟩
    obtain ⟨low, high⟩ := (transformAxis_mem_iff range axis val fits').mpr near
    refine ⟨transformAxis Binary64.round range axis.limit val, ?_, low, high⟩
    apply transformTouchCoordinatesInt_eq_some.mpr
    refine ⟨fits, fits', ?_, transformTouchCoordinates_eq Binary64.round device val axis⟩
    unfold FitsInt
    omega

/-- One unit off the range is recorded off the virtual range, and a value far off it overflows. -/
theorem touch_off_range :
    ¬ (∃ coordinate,
      transformTouchCoordinatesInt Binary64.round widePanel (-1) .x = some coordinate ∧
      0 ≤ coordinate ∧ coordinate ≤ Axis.limit .x) ∧
    transformTouchCoordinatesInt Binary64.round smallPanel (2 ^ 31 - 1) .y = none := by
  constructor
  · rintro ⟨coordinate, found, low, high⟩
    obtain ⟨-, fits, -, rfl⟩ := transformTouchCoordinatesInt_eq_some.mp found
    rw [transformTouchCoordinates_eq] at low high
    have near := (transformAxis_mem_iff widePanel.absRangeX .x (-1) fits).mp ⟨low, high⟩
    revert near
    decide
  · apply Option.eq_none_iff_forall_not_mem.mpr
    intro coordinate found
    have fits := (transformTouchCoordinatesInt_eq_some.mp found).1
    revert fits
    decide

end TestRunner.Recorder
