import TestRunner.Core

/-! The virtual devices of the server and what its handlers write to them. -/
namespace TestRunner.Server

inductive VirtualDevice where
  | mouse | keyboard | touchscreen | multiTouchscreen
  deriving DecidableEq, Repr

structure Write where
  fd : Int
  ev : InputEvent
  deriving DecidableEq, Repr

/-- A device that could not be opened has a negative descriptor and gets nothing. -/
def emit (fd : Int) (type code : UInt16) (val : Int) : List Write :=
  if fd ≥ 0 then [⟨fd, ⟨type, code, val⟩⟩] else []

/-- `MultiTouch` of the interface definition. -/
structure MultiTouch where
  slot : Int8
  trackingId : Int16
  absX : Int32
  absY : Int32
  deriving DecidableEq

def emitTouch (fd : Int) (touch : MultiTouch) : List Write :=
  emit fd evAbs absMtSlot touch.slot.toInt ++
    (if touch.trackingId.toInt ≠ 0 then emit fd evAbs absMtTrackingId touch.trackingId.toInt
     else []) ++
    (if touch.trackingId.toInt ≥ 0 then
      emit fd evAbs absMtPositionX touch.absX.toInt ++ emit fd evAbs absMtPositionY touch.absY.toInt
     else [])

def handleMultiTouch (mDeviceFd : VirtualDevice → Int) (list : List MultiTouch) : List Write :=
  list.flatMap (emitTouch (mDeviceFd .multiTouchscreen)) ++
    emit (mDeviceFd .multiTouchscreen) evSyn synReport 0

/-- The events that reach the device behind a descriptor. -/
def delivered (fd : Int) (writes : List Write) : List InputEvent :=
  writes.filterMap fun w => if w.fd = fd then some w.ev else none

@[simp] theorem delivered_append (fd : Int) (xs ys : List Write) :
    delivered fd (xs ++ ys) = delivered fd xs ++ delivered fd ys := List.filterMap_append

theorem delivered_emit {fd : Int} (opened : 0 ≤ fd) (type code : UInt16) (val : Int) :
    delivered fd (emit fd type code val) = [⟨type, code, val⟩] := by
  simp [delivered, emit, opened]

end TestRunner.Server
