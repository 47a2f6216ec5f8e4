import TestRunner.Binary64
import TestRunner.Evdev
import Mathlib.Data.Rat.Floor

/-! Devices and recorded lines: the data that the recorder, the server and a recording
file share. -/
namespace TestRunner

/- The two compile definitions of CMakeLists.txt. -/
def virtualMultitouchAbsXMax : Int := 16000
def virtualMultitouchAbsYMax : Int := 9000

def fileMaxLines : Nat := 500000
def recordingFormatVersion : Nat := 2

/-- The bytes of a text that are read through its C string. -/
def cStr (text : List UInt8) : List UInt8 := text.takeWhile (· ≠ 0)

inductive DeviceType where
  | mouse | keyboard | touchscreen | multitouchscreen | unknown
  deriving DecidableEq, Repr

/-- The two fields of `input_absinfo` that are read. -/
structure AbsInfo where
  minimum : Int
  maximum : Int
  deriving DecidableEq, Repr

structure InDevice where
  fd : Int
  name : List UInt8
  type : DeviceType
  absRangeX : AbsInfo
  absRangeY : AbsInfo
  deriving DecidableEq, Repr

def InDevice.isKeyboard (d : InDevice) : Bool := d.type = .keyboard

structure InputRecord where
  tsAbs : Int
  devType : DeviceType
  inputType : Int
  inputCode : Int
  inputVal : Int
  keysym : UInt32
  deriving DecidableEq, Repr

/-- The lines of a recording file before their numbers are printed. -/
inductive Line where
  | version (n : Nat)
  | start (ms : Int)
  | passThrough (r : InputRecord)
  deriving DecidableEq, Repr

inductive Axis where
  | x | y
  deriving DecidableEq, Repr

/-- Conversion of a `double` to `int`, toward zero, on exact rationals. -/
def truncate (q : ℚ) : Int := q.num.tdiv q.den

/-- One axis of `transform_touch_coordinates`: shift to a zero minimum, then scale
to the virtual maximum; an empty native range scales by zero. An `int` is a `double` as it is, the
quotient and the product of two go through `round`. -/
def transformAxis (round : ℚ → ℚ) (range : AbsInfo) (limit : Int) (val : Int) : Int :=
  let val := val - range.minimum
  let nativeRange := range.maximum - range.minimum
  let transformVal : ℚ := if nativeRange > 0 then round (limit / nativeRange) else 0
  truncate (round (val * transformVal))

def transformTouchCoordinates (round : ℚ → ℚ) (device : InDevice) (val : Int) : Axis → Int
  | .x => transformAxis round device.absRangeX virtualMultitouchAbsXMax val
  | .y => transformAxis round device.absRangeY virtualMultitouchAbsYMax val

/-- The transformation of an event before the test for ESC, with a rounding of its own. -/
def transformEventWith (round : ℚ → ℚ) (device : InDevice) (ev : InputEvent) : InputEvent :=
  if ev.type = evAbs then
    if ev.code = absMtPositionX ∨ ev.code = absX then
      { ev with value := transformTouchCoordinates round device ev.value .x }
    else if ev.code = absMtPositionY ∨ ev.code = absY then
      { ev with value := transformTouchCoordinates round device ev.value .y }
    else ev
  else ev

def transformEvent : InDevice → InputEvent → InputEvent := transformEventWith Binary64.round

def InputEvent.isEsc (ev : InputEvent) : Bool := ev.type = evKey ∧ ev.code = keyEsc

/-- The transformation leaves an ESC an ESC, so the test for it may come first. -/
theorem transformEvent_isEsc (device : InDevice) (ev : InputEvent) :
    (transformEvent device ev).isEsc = ev.isEsc := by
  unfold transformEvent transformEventWith
  split
  · rename_i touch
    split
    · simp [InputEvent.isEsc, touch]
    · split <;> simp [InputEvent.isEsc, touch]
  · rfl

end TestRunner
