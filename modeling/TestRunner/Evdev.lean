import Mathlib.Logic.Basic

/-! Events of the Linux input layer. -/
namespace TestRunner

/- Event types and codes of linux/input-event-codes.h. -/
def evSyn : UInt16 := 0x00
def evKey : UInt16 := 0x01
def evRel : UInt16 := 0x02
def evAbs : UInt16 := 0x03
def synReport : UInt16 := 0
def keyEsc : UInt16 := 1
def keyMax : UInt16 := 0x2ff
def btnLeft : UInt16 := 0x110
def btnRight : UInt16 := 0x111
def btnTouch : UInt16 := 0x14a
def relX : UInt16 := 0x00
def relY : UInt16 := 0x01
def relZ : UInt16 := 0x02
def relHwheel : UInt16 := 0x06
def relWheel : UInt16 := 0x08
def absX : UInt16 := 0x00
def absY : UInt16 := 0x01
def absMtSlot : UInt16 := 0x2f
def absMtPositionX : UInt16 := 0x35
def absMtPositionY : UInt16 := 0x36
def absMtTrackingId : UInt16 := 0x39

/-- `input_event` without its kernel time stamp, which no function reads. -/
structure InputEvent where
  type : UInt16
  code : UInt16
  value : Int
  deriving DecidableEq, Repr

end TestRunner
