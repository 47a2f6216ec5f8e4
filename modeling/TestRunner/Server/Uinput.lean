import TestRunner.Server.Requests

/-! The system calls that make, feed and release the virtual devices. -/
namespace TestRunner.Server

structure UinputSetup where
  name : String
  bustype : Nat
  vendor : Nat
  product : Nat
  version : Nat
  deriving DecidableEq

/-- Requests of the uinput driver with their arguments. -/
inductive Ioctl where
  | uiSetEvbit (type : UInt16)
  | uiSetKeybit (code : UInt16)
  | uiSetRelbit (code : UInt16)
  | uiSetAbsbit (code : UInt16)
  | uiSetPropbit (prop : UInt16)
  | uiDevSetup (setup : UinputSetup)
  | uiAbsSetup (code : UInt16) (absinfo : AbsInfo)
  | uiDevCreate
  | uiDevDestroy
  deriving DecidableEq

/-- The system calls on `/dev/uinput`. -/
inductive Syscall where
  | openUinput
  | ioctl (fd : Int) (request : Ioctl)
  | write (fd : Int) (ev : InputEvent)
  | close (fd : Int)
  deriving DecidableEq

structure Done where
  call : Syscall
  result : Int
  deriving DecidableEq

def busVirtual : Nat := 0x06
def inputPropDirect : UInt16 := 0x01

def uinputSetup (name : String) (product : Nat) : Ioctl :=
  .uiDevSetup ⟨name, busVirtual, 0x23, product, 1⟩

/- The requests of each setup function between `open` and `UI_DEV_CREATE`. -/
def mouseRequests : List Ioctl :=
  [Ioctl.uiSetEvbit evRel] ++ [relX, relY, relZ, relWheel, relHwheel].map Ioctl.uiSetRelbit ++
    [Ioctl.uiSetEvbit evKey] ++ [btnLeft, btnRight].map Ioctl.uiSetKeybit ++
    [uinputSetup "test_runner_mouse" 0x45]

def keyboardRequests : List Ioctl :=
  [Ioctl.uiSetEvbit evKey] ++ evdevCodes.map (fun key => Ioctl.uiSetKeybit (.ofNat key)) ++
    [uinputSetup "test_runner_keyboard" 0x47]

def touchscreenRequests : List Ioctl :=
  [Ioctl.uiSetEvbit evKey] ++ [btnTouch].map Ioctl.uiSetKeybit ++
    [Ioctl.uiSetEvbit evAbs] ++ [absX, absY].map Ioctl.uiSetAbsbit ++
    [Ioctl.uiSetPropbit inputPropDirect, uinputSetup "test_runner_touchscreen" 0x46,
      Ioctl.uiAbsSetup absX ⟨0, virtualMultitouchAbsXMax⟩,
      Ioctl.uiAbsSetup absY ⟨0, virtualMultitouchAbsYMax⟩]

def multiTouchscreenRequests : List Ioctl :=
  [Ioctl.uiSetEvbit evKey] ++ [btnTouch].map Ioctl.uiSetKeybit ++
    [Ioctl.uiSetEvbit evAbs] ++
    [absMtSlot, absMtTrackingId, absMtPositionX, absMtPositionY].map Ioctl.uiSetAbsbit ++
    [Ioctl.uiSetPropbit inputPropDirect, uinputSetup "test_runner_multi_touchscreen" 0x46,
      Ioctl.uiAbsSetup absMtPositionX ⟨0, virtualMultitouchAbsXMax⟩,
      Ioctl.uiAbsSetup absMtPositionY ⟨0, virtualMultitouchAbsYMax⟩,
      Ioctl.uiAbsSetup absMtSlot ⟨0, 4⟩]

section Calls

/- The result of every call, by the number of calls before it. -/
variable (result : Nat → Int)

def perform (trace : List Done) (call : Syscall) : List Done :=
  trace ++ [⟨call, result trace.length⟩]

def performAll (trace : List Done) (calls : List Syscall) : List Done :=
  calls.foldl (perform result) trace

/-- What the four setup functions share: the descriptor that is kept, and the calls. -/
def setupVirtual (requests : List Ioctl) (trace : List Done) : Int × List Done :=
  let fd := result trace.length
  let trace := perform result trace .openUinput
  if fd ≥ 0 then
    let trace := performAll result trace (requests.map (.ioctl fd))
    let created := result trace.length
    let trace := perform result trace (.ioctl fd .uiDevCreate)
    (fd, if created < 0 then perform result trace (.ioctl fd .uiDevDestroy) else trace)
  else (fd, trace)

def setupVirtualMouse := setupVirtual result mouseRequests
def setupVirtualKeyboard := setupVirtual result keyboardRequests
def setupVirtualTouchscreen := setupVirtual result touchscreenRequests
def setupVirtualMultiTouchscreen := setupVirtual result multiTouchscreenRequests

/-- The device table after the constructor, and its calls. -/
def construct : (VirtualDevice → Int) × List Done :=
  let mouse := setupVirtualMouse result []
  let keyboard := setupVirtualKeyboard result mouse.2
  let touchscreen := setupVirtualTouchscreen result keyboard.2
  let multiTouchscreen := setupVirtualMultiTouchscreen result touchscreen.2
  (fun
    | .mouse => mouse.1
    | .keyboard => keyboard.1
    | .touchscreen => touchscreen.1
    | .multiTouchscreen => multiTouchscreen.1, multiTouchscreen.2)

def closeInputDevice (trace : List Done) (fd : Int) : List Done :=
  if fd < 0 then trace
  else perform result (perform result trace (.ioctl fd .uiDevDestroy)) (.close fd)

def allDevices : List VirtualDevice := [.mouse, .keyboard, .touchscreen, .multiTouchscreen]

def destruct (mDeviceFd : VirtualDevice → Int) (trace : List Done) : List Done :=
  (allDevices.map mDeviceFd).foldl (closeInputDevice result) trace

/-- All calls of a server that handles the requests between construction and destruction. -/
def lifetime (mXkbKeymap : Option Keymap) (xkbKeysymFromName : List UInt8 → UInt32)
    (requests : List Request) : List Done :=
  let devices := construct result
  let server : TestRunnerServer := ⟨devices.1, mXkbKeymap, xkbKeysymFromName⟩
  destruct result devices.1
    (performAll result devices.2 ((server.writes requests).map fun w => .write w.fd w.ev))

end Calls

theorem performAll_append (result : Nat → Int) (calls : List Syscall) (trace : List Done) :
    ∃ block, performAll result trace calls = trace ++ block ∧ block.map Done.call = calls := by
  induction calls generalizing trace with
  | nil => exact ⟨[], by simp [performAll]⟩
  | cons call calls ih =>
    obtain ⟨block, same, made⟩ := ih (perform result trace call)
    refine ⟨⟨call, result trace.length⟩ :: block, ?_, by simp [made]⟩
    simpa [performAll, perform] using same

end TestRunner.Server
