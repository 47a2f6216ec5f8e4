import TestRunner.Server.Input
import TestRunner.Server.Keymap

/-! The requests of the input interface and their handlers. -/
namespace TestRunner.Server

structure MouseMove where
  relX : Int32
  relY : Int32
  deriving DecidableEq

structure MouseClick where
  btn : UInt16
  pressed : Bool
  deriving DecidableEq

/-- The union of `KeyPress`. -/
inductive KeyPress.Which where
  | rawCode (code : UInt16)
  | keySym (sym : UInt32)
  | keyName (name : List UInt8)
  deriving DecidableEq

structure KeyPress where
  pressed : Bool
  which : KeyPress.Which
  deriving DecidableEq

structure SingleTouch where
  absX : Int32
  absY : Int32
  pressed : Bool
  deriving DecidableEq

structure PassThrough where
  device : UInt32
  type : UInt32
  code : UInt32
  value : Int32
  deriving DecidableEq

inductive Request where
  | mouseMove (mouseMove : MouseMove)
  | mouseClick (mouseClick : MouseClick)
  | keyPress (keyPress : KeyPress)
  | singleTouch (singleTouch : SingleTouch)
  | multiTouch (multiTouch : List MultiTouch)
  | passThrough (passThrough : PassThrough)
  deriving DecidableEq

/-- The members that the handlers read, and `xkb_keysym_from_name`. -/
structure TestRunnerServer where
  mDeviceFd : VirtualDevice → Int
  mXkbKeymap : Option Keymap
  xkbKeysymFromName : List UInt8 → UInt32

def xkbKeyNoSymbol : UInt32 := 0

/-- The numbers `VIRTUAL_MOUSE` to `VIRTUAL_MULTI_TOUCHSCREEN`. -/
def VirtualDevice.number : VirtualDevice → Nat
  | .mouse => 0
  | .keyboard => 1
  | .touchscreen => 2
  | .multiTouchscreen => 3

def VirtualDevice.ofNumber : Nat → Option VirtualDevice
  | 0 => some .mouse
  | 1 => some .keyboard
  | 2 => some .touchscreen
  | 3 => some .multiTouchscreen
  | _ => none

def getDeviceFd (mDeviceFd : VirtualDevice → Int) (device : UInt32) : Int :=
  match VirtualDevice.ofNumber device.toNat with
  | some device => mDeviceFd device
  | none => -1

def handleMouseMove (mDeviceFd : VirtualDevice → Int) (mouseMove : MouseMove) : List Write :=
  emit (mDeviceFd .mouse) evRel relX mouseMove.relX.toInt ++
    emit (mDeviceFd .mouse) evRel relY mouseMove.relY.toInt ++
    emit (mDeviceFd .mouse) evSyn synReport 0

def handleMouseClick (mDeviceFd : VirtualDevice → Int) (mouseClick : MouseClick) : List Write :=
  emit (mDeviceFd .mouse) evKey mouseClick.btn mouseClick.pressed.toInt ++
    emit (mDeviceFd .mouse) evSyn synReport 0

/-- The code of a found key, none where the handler returns with a warning. -/
def foundCode (evdevCode : Nat) : Option UInt16 :=
  if evdevCode = 0 then none else some (UInt16.ofNat evdevCode)

def TestRunnerServer.evdevCode (server : TestRunnerServer) : KeyPress.Which → Option UInt16
  | .rawCode code => some code
  | .keySym sym => foundCode (resolveKeysym server.mXkbKeymap sym)
  | .keyName name =>
    let sym := server.xkbKeysymFromName (cStr name)
    if sym = xkbKeyNoSymbol then none else foundCode (resolveKeysym server.mXkbKeymap sym)

def TestRunnerServer.handleKeyPress (server : TestRunnerServer) (keyPress : KeyPress) : List Write :=
  match server.evdevCode keyPress.which with
  | none => []
  | some code =>
    emit (server.mDeviceFd .keyboard) evKey code keyPress.pressed.toInt ++
      emit (server.mDeviceFd .keyboard) evSyn synReport 0

def handleSingleTouch (mDeviceFd : VirtualDevice → Int) (singleTouch : SingleTouch) : List Write :=
  (if singleTouch.absX.toInt ≥ 0 then
      emit (mDeviceFd .touchscreen) evAbs absX singleTouch.absX.toInt else []) ++
    (if singleTouch.absY.toInt ≥ 0 then
      emit (mDeviceFd .touchscreen) evAbs absY singleTouch.absY.toInt else []) ++
    emit (mDeviceFd .touchscreen) evKey btnTouch singleTouch.pressed.toInt ++
    emit (mDeviceFd .touchscreen) evSyn synReport 0

/- `emit` stores the type and the code in the 16 bit fields of `input_event`. -/
def handlePassThrough (mDeviceFd : VirtualDevice → Int) (passThrough : PassThrough) : List Write :=
  emit (getDeviceFd mDeviceFd passThrough.device) passThrough.type.toUInt16
    passThrough.code.toUInt16 passThrough.value.toInt

def TestRunnerServer.handle (server : TestRunnerServer) : Request → List Write
  | .mouseMove mouseMove => handleMouseMove server.mDeviceFd mouseMove
  | .mouseClick mouseClick => handleMouseClick server.mDeviceFd mouseClick
  | .keyPress keyPress => server.handleKeyPress keyPress
  | .singleTouch singleTouch => handleSingleTouch server.mDeviceFd singleTouch
  | .multiTouch list => handleMultiTouch server.mDeviceFd list
  | .passThrough passThrough => handlePassThrough server.mDeviceFd passThrough

/-- All that is written while the requests are handled one after the other. -/
def TestRunnerServer.writes (server : TestRunnerServer) (requests : List Request) : List Write :=
  requests.flatMap server.handle

/-- The device that a request is addressed to. -/
def Request.device : Request → Option VirtualDevice
  | .mouseMove _ | .mouseClick _ => some .mouse
  | .keyPress _ => some .keyboard
  | .singleTouch _ => some .touchscreen
  | .multiTouch _ => some .multiTouchscreen
  | .passThrough p => VirtualDevice.ofNumber p.device.toNat

/-- A server that opened its four devices and has no keymap. -/
def fourDevices : TestRunnerServer :=
  ⟨fun device => 10 + device.number, none, fun _ => xkbKeyNoSymbol⟩

theorem VirtualDevice.ofNumber_number (device : VirtualDevice) :
    VirtualDevice.ofNumber device.number = some device := by
  cases device <;> rfl

theorem VirtualDevice.ofNumber_isSome (n : Nat) : (VirtualDevice.ofNumber n).isSome ↔ n < 4 := by
  match n with
  | 0 | 1 | 2 | 3 => simp [VirtualDevice.ofNumber]
  | n + 4 => simp [VirtualDevice.ofNumber]

theorem toNat_ofInt16 (n : Int) : ((UInt16.ofInt n).toNat : Int) = n % 65536 := by
  have unsigned : (UInt16.ofInt n).toNat = (n % 2 ^ 16).toNat % 2 ^ 16 := UInt16.toNat_ofNat'
  omega

theorem toNat_ofInt32 (n : Int) : ((UInt32.ofInt n).toNat : Int) = n % 4294967296 := by
  have unsigned : (UInt32.ofInt n).toNat = (n % 2 ^ 32).toNat % 2 ^ 32 := UInt32.toNat_ofNat'
  omega

theorem toNat_narrowed (n : Int) : ((UInt32.ofInt n).toUInt16.toNat : Int) = n % 65536 := by
  have wide := toNat_ofInt32 n
  rw [UInt32.toNat_toUInt16]
  omega

theorem emit_opened {fd : Int} (opened : 0 ≤ fd) (type code : UInt16) (val : Int) :
    emit fd type code val = [⟨fd, ⟨type, code, val⟩⟩] := if_pos opened

theorem emit_closed {fd : Int} (closed : fd < 0) (type code : UInt16) (val : Int) :
    emit fd type code val = [] := if_neg (not_le.mpr closed)

theorem emit_fd {fd : Int} {type code : UInt16} {val : Int} {w : Write}
    (written : w ∈ emit fd type code val) : w.fd = fd ∧ 0 ≤ fd := by
  unfold emit at written
  split at written
  · rename_i opened
    have same := List.mem_singleton.mp written
    exact ⟨congrArg Write.fd same, opened⟩
  · cases written

theorem emitTouch_fd {fd : Int} {touch : MultiTouch} {w : Write}
    (written : w ∈ emitTouch fd touch) : w.fd = fd ∧ 0 ≤ fd := by
  simp only [emitTouch, List.mem_append] at written
  rcases written with (slot | tracking) | position
  · exact emit_fd slot
  · split at tracking
    · exact emit_fd tracking
    · cases tracking
  · split at position
    · rcases List.mem_append.mp position with x | y
      · exact emit_fd x
      · exact emit_fd y
    · cases position

/-- What a handler writes goes to the device that the request is addressed to. -/
theorem handle_fd {server : TestRunnerServer} {request : Request} {w : Write}
    (written : w ∈ server.handle request) :
    ∃ device, request.device = some device ∧ w.fd = server.mDeviceFd device ∧
      0 ≤ server.mDeviceFd device := by
  cases request with
  | mouseMove m =>
    simp only [TestRunnerServer.handle, handleMouseMove, List.mem_append] at written
    rcases written with (x | y) | report
    · exact ⟨_, rfl, emit_fd x⟩
    · exact ⟨_, rfl, emit_fd y⟩
    · exact ⟨_, rfl, emit_fd report⟩
  | mouseClick m =>
    rcases List.mem_append.mp written with click | report
    · exact ⟨_, rfl, emit_fd click⟩
    · exact ⟨_, rfl, emit_fd report⟩
  | keyPress k =>
    simp only [TestRunnerServer.handle, TestRunnerServer.handleKeyPress] at written
    split at written
    · cases written
    · rcases List.mem_append.mp written with key | report
      · exact ⟨_, rfl, emit_fd key⟩
      · exact ⟨_, rfl, emit_fd report⟩
  | singleTouch t =>
    simp only [TestRunnerServer.handle, handleSingleTouch, List.mem_append] at written
    rcases written with ((x | y) | touch) | report
    · split at x
      · exact ⟨_, rfl, emit_fd x⟩
      · cases x
    · split at y
      · exact ⟨_, rfl, emit_fd y⟩
      · cases y
    · exact ⟨_, rfl, emit_fd touch⟩
    · exact ⟨_, rfl, emit_fd report⟩
  | multiTouch list =>
    rcases List.mem_append.mp written with touches | report
    · obtain ⟨touch, -, inside⟩ := List.mem_flatMap.mp touches
      exact ⟨_, rfl, emitTouch_fd inside⟩
    · exact ⟨_, rfl, emit_fd report⟩
  | passThrough p =>
    obtain ⟨same, opened⟩ := emit_fd written
    cases known : VirtualDevice.ofNumber p.device.toNat with
    | none => simp [getDeviceFd, known] at opened
    | some device =>
      simp only [getDeviceFd, known] at same opened
      exact ⟨device, known, same, opened⟩

end TestRunner.Server
