import TestRunner.Recording

/-! The time stamps of a recording: texts of one width that stand in the order of their times. -/
namespace TestRunner

open Decimal

def hoursOf (ms : Nat) : Nat := ms / 3600000 % 24
def minutesOf (ms : Nat) : Nat := ms % 3600000 / 60000
def secondsOf (ms : Nat) : Nat := ms % 3600000 % 60000 / 1000
def millisOf (ms : Nat) : Nat := ms % 3600000 % 60000 % 1000

/-- A text `hh:mm:ss.mmm`. -/
structure TimeFields (text : List Char) where
  hours : List Char
  minutes : List Char
  seconds : List Char
  millis : List Char
  shape : text = hours ++ ':' :: minutes ++ ':' :: seconds ++ '.' :: millis
  widths : hours.length = 2 ∧ minutes.length = 2 ∧ seconds.length = 2 ∧ millis.length = 3
  digits : ∀ c ∈ hours ++ minutes ++ seconds ++ millis, c.isDigit = true

/-- What the fields say as numbers. -/
def TimeFields.timeOfDay {text : List Char} (fields : TimeFields text) : Int :=
  value fields.hours * 3600000 + value fields.minutes * 60000 + value fields.seconds * 1000 +
    value fields.millis

theorem TimeFields.length_eq {text : List Char} (fields : TimeFields text) : text.length = 12 := by
  obtain ⟨hours, minutes, seconds, millis⟩ := fields.widths
  simp [fields.shape, hours, minutes, seconds, millis]

theorem currentTimeStr_natCast (ms : Nat) : currentTimeStr ms =
    pad 2 (printInt (hoursOf ms)) ++ ':' :: pad 2 (printInt (minutesOf ms)) ++
      ':' :: pad 2 (printInt (secondsOf ms)) ++ '.' :: pad 3 (printInt (millisOf ms)) := by
  have quotient (m n : Nat) : (m : Int).tdiv n = (m / n : Nat) := (Int.ofNat_tdiv m n).symm
  have rest (m n : Nat) : (m : Int).tmod n = (m % n : Nat) := (Int.ofNat_tmod m n).symm
  have hours := quotient ms 3600000
  have hours' := rest (ms / 3600000) 24
  have inHour := rest ms 3600000
  have minutes := quotient (ms % 3600000) 60000
  have inMinute := rest (ms % 3600000) 60000
  have seconds := quotient (ms % 3600000 % 60000) 1000
  have inSecond := rest (ms % 3600000 % 60000) 1000
  simp only [Nat.cast_ofNat] at hours hours' inHour minutes inMinute seconds inSecond
  simp only [currentTimeStr, hours, hours', inHour, minutes, inMinute, seconds, inSecond, hoursOf,
    minutesOf, secondsOf, millisOf]

theorem hoursOf_lt (ms : Nat) : hoursOf ms < 24 := Nat.mod_lt _ (by decide)

theorem minutesOf_lt (ms : Nat) : minutesOf ms < 60 := by
  rw [minutesOf]
  omega

theorem secondsOf_lt (ms : Nat) : secondsOf ms < 60 := by
  rw [secondsOf]
  omega

theorem millisOf_lt (ms : Nat) : millisOf ms < 1000 := Nat.mod_lt _ (by decide)

theorem timeOfDay_eq (ms : Nat) :
    hoursOf ms * 3600000 + minutesOf ms * 60000 + secondsOf ms * 1000 + millisOf ms =
      ms % 86400000 := by
  simp only [hoursOf, minutesOf, secondsOf, millisOf]
  omega

/-- The quotient decides before the rest. -/
theorem lt_iff_div_mod (base n n' : Nat) :
    n < n' ↔ n / base < n' / base ∨ n / base = n' / base ∧ n % base < n' % base := by
  have split := Nat.div_add_mod n base
  have split' := Nat.div_add_mod n' base
  constructor
  · intro less
    rcases Nat.lt_or_eq_of_le (Nat.div_le_div_right less.le) with below | same
    · exact .inl below
    · rw [same] at split
      exact .inr ⟨same, by omega⟩
  · rintro (below | ⟨same, less⟩)
    · exact Nat.lt_of_div_lt_div below
    · rw [same] at split
      omega

/-- The times of one day are in the order of their fields. -/
theorem lt_iff_fields {ms ms' : Nat} (sameDay : ms / 86400000 = ms' / 86400000) : ms < ms' ↔
    hoursOf ms < hoursOf ms' ∨ hoursOf ms = hoursOf ms' ∧
    (minutesOf ms < minutesOf ms' ∨ minutesOf ms = minutesOf ms' ∧
    (secondsOf ms < secondsOf ms' ∨ secondsOf ms = secondsOf ms' ∧ millisOf ms < millisOf ms')) := by
  have day : ms / 3600000 / 24 = ms' / 3600000 / 24 := by
    rw [Nat.div_div_eq_div_mul, Nat.div_div_eq_div_mul]
    exact sameDay
  have hours : ms / 3600000 < ms' / 3600000 ↔ hoursOf ms < hoursOf ms' := by
    rw [lt_iff_div_mod 24 (ms / 3600000) (ms' / 3600000), day]
    simp [hoursOf]
  have hours' : ms / 3600000 = ms' / 3600000 ↔ hoursOf ms = hoursOf ms' := by
    constructor
    · intro same
      rw [hoursOf, hoursOf, same]
    · intro same
      rw [hoursOf, hoursOf] at same
      rw [← Nat.div_add_mod (ms / 3600000) 24, ← Nat.div_add_mod (ms' / 3600000) 24, day, same]
  rw [lt_iff_div_mod 3600000 ms ms', hours, hours',
    lt_iff_div_mod 60000 (ms % 3600000) (ms' % 3600000),
    lt_iff_div_mod 1000 (ms % 3600000 % 60000) (ms' % 3600000 % 60000)]
  rfl

def currentFields (ms : Nat) : TimeFields (currentTimeStr ms) where
  hours := pad 2 (printInt (hoursOf ms))
  minutes := pad 2 (printInt (minutesOf ms))
  seconds := pad 2 (printInt (secondsOf ms))
  millis := pad 3 (printInt (millisOf ms))
  shape := currentTimeStr_natCast ms
  widths := by
    have hours := hoursOf_lt ms
    have minutes := minutesOf_lt ms
    have seconds := secondsOf_lt ms
    have millis := millisOf_lt ms
    exact ⟨length_pad (by decide) (by omega), length_pad (by decide) (by omega),
      length_pad (by decide) (by omega), length_pad (by decide) (by omega)⟩
  digits := by
    intro c inside
    simp only [List.mem_append] at inside
    rcases inside with ((inside | inside) | inside) | inside <;> exact isDigit_of_mem_pad inside

/-- A field of one width, and what follows it behind a mark. -/
theorem field_lt_iff {width m n : Nat} (positive : 0 < width) (small : m < 10 ^ width)
    (small' : n < 10 ^ width) (mark : Char) (rest rest' : List Char) :
    pad width (printInt m) ++ mark :: rest < pad width (printInt n) ++ mark :: rest' ↔
      m < n ∨ m = n ∧ rest < rest' := by
  have same := (length_pad positive small).trans (length_pad positive small').symm
  rw [append_lt_append_iff same, pad_lt_pad_iff positive small small', pad_inj, Int.natCast_inj,
    List.cons_lt_cons_self]

theorem currentTimeStr_lt_iff {ms ms' : Nat} (sameDay : ms / 86400000 = ms' / 86400000) :
    currentTimeStr ms < currentTimeStr ms' ↔ ms < ms' := by
  have hours (n : Nat) : hoursOf n < 10 ^ 2 := (hoursOf_lt n).trans (by decide)
  have minutes (n : Nat) : minutesOf n < 10 ^ 2 := (minutesOf_lt n).trans (by decide)
  have seconds (n : Nat) : secondsOf n < 10 ^ 2 := (secondsOf_lt n).trans (by decide)
  have millis (n : Nat) : millisOf n < 10 ^ 3 := millisOf_lt n
  rw [lt_iff_fields sameDay, currentTimeStr_natCast, currentTimeStr_natCast]
  simp only [List.append_assoc, List.cons_append]
  rw [field_lt_iff (by decide) (hours ms) (hours ms'),
    field_lt_iff (by decide) (minutes ms) (minutes ms'),
    field_lt_iff (by decide) (seconds ms) (seconds ms'),
    pad_lt_pad_iff (by decide) (millis ms) (millis ms')]

/-- Every count gives a time stamp whose fields say its time of day, and the stamps of one day are
in the order of their counts. -/
theorem time_stamps_faithful (ms : Nat) :
    (∃ fields : TimeFields (currentTimeStr ms), value fields.hours < 24 ∧
      value fields.minutes < 60 ∧ value fields.seconds < 60 ∧
      fields.timeOfDay = (ms % 86400000 : Nat)) ∧
    (currentTimeStr ms).length = 12 ∧
    ∀ ms' : Nat, ms / 86400000 = ms' / 86400000 →
      (currentTimeStr ms < currentTimeStr ms' ↔ ms < ms') ∧
      (currentTimeStr ms = currentTimeStr ms' ↔ ms = ms') := by
  constructor
  · refine ⟨currentFields ms, ?_⟩
    simp only [currentFields, TimeFields.timeOfDay, value_pad_printInt, ← timeOfDay_eq]
    have hours := hoursOf_lt ms
    have minutes := minutesOf_lt ms
    have seconds := secondsOf_lt ms
    omega
  constructor
  · exact (currentFields ms).length_eq
  · intro ms' sameDay
    constructor
    · exact currentTimeStr_lt_iff sameDay
    · constructor
      · intro same
        have notLess := mt (currentTimeStr_lt_iff sameDay).mpr
        have notMore := mt (currentTimeStr_lt_iff sameDay.symm).mpr
        rw [same] at notLess notMore
        have atMost := Nat.le_of_not_lt (notMore (List.lt_irrefl _))
        have atLeast := Nat.le_of_not_lt (notLess (List.lt_irrefl _))
        exact Nat.le_antisymm atMost atLeast
      · intro same
        rw [same]

/-- One second before noon and noon. -/
theorem noon_after :
    currentTimeStr (43199000 : Nat) < currentTimeStr (43200000 : Nat) ∧
      currentTimeStr (43199000 : Nat) ≠ currentTimeStr (43200000 : Nat) := by
  obtain ⟨order, same⟩ := (time_stamps_faithful 43199000).2.2 43200000 (by decide)
  exact ⟨order.mpr (by decide), mt same.mp (by decide)⟩

example : String.ofList (currentTimeStr 3723456) = "01:02:03.456" := by decide

end TestRunner
