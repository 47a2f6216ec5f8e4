import TestRunner.Server.Uinput

/-! Events that are written against events that the setup of the device has enabled. -/
namespace TestRunner.Server

def setupRequests : VirtualDevice → List Ioctl
  | .mouse => mouseRequests
  | .keyboard => keyboardRequests
  | .touchscreen => touchscreenRequests
  | .multiTouchscreen => multiTouchscreenRequests

/-- The request that enables a code of the type. -/
def bitRequest (type code : UInt16) : Option Ioctl :=
  if type = evKey then some (.uiSetKeybit code)
  else if type = evRel then some (.uiSetRelbit code)
  else if type = evAbs then some (.uiSetAbsbit code)
  else none

/-- The setup function of the device enables the type and the code. -/
def Declared (device : VirtualDevice) (type code : UInt16) : Prop :=
  .uiSetEvbit type ∈ setupRequests device ∧
    ∃ request, bitRequest type code = some request ∧ request ∈ setupRequests device

/-- The event is a report or one that the addressed device has declared. -/
def Accepted (server : TestRunnerServer) (request : Request) (w : Write) : Prop :=
  w.ev.type ≠ evSyn → ∃ device, request.device = some device ∧ w.fd = server.mDeviceFd device ∧
    Declared device w.ev.type w.ev.code

/-- No event of a request is dropped, unless the request passes it through. -/
def AllDeclared (server : TestRunnerServer) (requests : List Request) : Prop :=
  ∀ request ∈ requests, (∀ p, request ≠ .passThrough p) →
    ∀ w ∈ server.handle request, Accepted server request w

/-- The code that a request names itself is one that the setup function enables. -/
def Request.Enabled (mDeviceFd : VirtualDevice → Int) : Request → Prop
  | .mouseClick m => mDeviceFd .mouse < 0 ∨ m.btn = btnLeft ∨ m.btn = btnRight
  | .keyPress ⟨_, .rawCode code⟩ => mDeviceFd .keyboard < 0 ∨ code.toNat ∈ evdevCodes
  | _ => True

theorem mem_mouseRequests (request : Ioctl) : request ∈ mouseRequests ↔
    request ∈ [Ioctl.uiSetEvbit evRel, .uiSetRelbit relX, .uiSetRelbit relY, .uiSetRelbit relZ,
      .uiSetRelbit relWheel, .uiSetRelbit relHwheel, .uiSetEvbit evKey, .uiSetKeybit btnLeft,
      .uiSetKeybit btnRight, uinputSetup "test_runner_mouse" 0x45] := Iff.rfl

theorem keybit_mem_mouse (code : UInt16) :
    .uiSetKeybit code ∈ mouseRequests ↔ code = btnLeft ∨ code = btnRight := by
  simp [mem_mouseRequests, uinputSetup]

theorem keybit_mem_keyboard (code : UInt16) :
    .uiSetKeybit code ∈ keyboardRequests ↔ code.toNat ∈ evdevCodes := by
  simp only [keyboardRequests, uinputSetup, List.mem_append, List.mem_map, List.mem_singleton,
    reduceCtorEq, false_or, or_false, Ioctl.uiSetKeybit.injEq]
  constructor
  · rintro ⟨key, known, same⟩
    have small : key < UInt16.size := (mem_evdevCodes.mp known).2.trans (by decide)
    rwa [← same, UInt16.toNat_ofNat_of_lt' small]
  · intro known
    exact ⟨code.toNat, known, UInt16.ofNat_toNat⟩

theorem declared_key {device : VirtualDevice} (enabled : .uiSetEvbit evKey ∈ setupRequests device)
    (code : UInt16) : Declared device evKey code ↔ .uiSetKeybit code ∈ setupRequests device := by
  constructor
  · rintro ⟨-, request, bit, inside⟩
    cases bit
    exact inside
  · intro inside
    exact ⟨enabled, _, rfl, inside⟩

theorem accepted_emit {server : TestRunnerServer} {request : Request} {device : VirtualDevice}
    (named : request.device = some device) (type code : UInt16) (val : Int) :
    (∀ w ∈ emit (server.mDeviceFd device) type code val, Accepted server request w) ↔
      server.mDeviceFd device < 0 ∨ type = evSyn ∨ Declared device type code := by
  by_cases opened : 0 ≤ server.mDeviceFd device
  · simp [emit_opened opened, Accepted, named, not_lt.mpr opened, or_iff_not_imp_left]
  · simp [emit_closed (not_le.mp opened), not_le.mp opened]

theorem accepted_report {server : TestRunnerServer} {request : Request} {device : VirtualDevice}
    (named : request.device = some device) :
    ∀ w ∈ emit (server.mDeviceFd device) evSyn synReport 0, Accepted server request w :=
  (accepted_emit named evSyn synReport 0).mpr (.inr (.inl rfl))

theorem accepted_declared {server : TestRunnerServer} {request : Request} {device : VirtualDevice}
    (named : request.device = some device) {type code : UInt16} (val : Int)
    (declared : Declared device type code) :
    ∀ w ∈ emit (server.mDeviceFd device) type code val, Accepted server request w :=
  (accepted_emit named type code val).mpr (.inr (.inr declared))

theorem accepted_key (server : TestRunnerServer) {request : Request} {device : VirtualDevice}
    (named : request.device = some device)
    (enabled : .uiSetEvbit evKey ∈ setupRequests device) (code : UInt16) (val : Int) :
    (∀ w ∈ emit (server.mDeviceFd device) evKey code val ++
        emit (server.mDeviceFd device) evSyn synReport 0, Accepted server request w) ↔
      server.mDeviceFd device < 0 ∨ .uiSetKeybit code ∈ setupRequests device := by
  have key : evKey ≠ evSyn := by decide
  rw [List.forall_mem_append, and_iff_left (accepted_report named), accepted_emit named,
    declared_key enabled]
  simp [key]

theorem declared_mouse : Declared .mouse evRel relX ∧ Declared .mouse evRel relY :=
  ⟨⟨by decide, _, rfl, by decide⟩, ⟨by decide, _, rfl, by decide⟩⟩

theorem declared_touchscreen : Declared .touchscreen evAbs absX ∧
    Declared .touchscreen evAbs absY ∧ Declared .touchscreen evKey btnTouch :=
  ⟨⟨by decide, _, rfl, by decide⟩, ⟨by decide, _, rfl, by decide⟩, ⟨by decide, _, rfl, by decide⟩⟩

theorem declared_multiTouchscreen : ∀ code ∈ [absMtSlot, absMtTrackingId, absMtPositionX,
    absMtPositionY], Declared .multiTouchscreen evAbs code := by
  intro code inside
  have enabled : .uiSetAbsbit code ∈ multiTouchscreenRequests := by
    simp only [multiTouchscreenRequests, List.mem_append, List.mem_map]
    exact .inl (.inr ⟨code, inside, rfl⟩)
  exact ⟨by decide, _, rfl, enabled⟩

theorem accepted_emitTouch {server : TestRunnerServer} {request : Request}
    (named : request.device = some .multiTouchscreen) (touch : MultiTouch) :
    ∀ w ∈ emitTouch (server.mDeviceFd .multiTouchscreen) touch, Accepted server request w := by
  have declared : ∀ code ∈ [absMtSlot, absMtTrackingId, absMtPositionX, absMtPositionY], ∀ val,
      ∀ w ∈ emit (server.mDeviceFd .multiTouchscreen) evAbs code val,
        Accepted server request w :=
    fun code inside val => accepted_declared named val (declared_multiTouchscreen code inside)
  intro w written
  simp only [emitTouch, List.mem_append] at written
  rcases written with (slot | tracking) | position
  · exact declared _ (by simp) _ w slot
  · split at tracking
    · exact declared _ (by simp) _ w tracking
    · cases tracking
  · split at position
    · rcases List.mem_append.mp position with x | y
      · exact declared _ (by simp) _ w x
      · exact declared _ (by simp) _ w y
    · cases position

theorem accepted_singleTouch (server : TestRunnerServer) (touch : SingleTouch) :
    ∀ w ∈ handleSingleTouch server.mDeviceFd touch,
      Accepted server (.singleTouch touch) w := by
  obtain ⟨x, y, button⟩ := declared_touchscreen
  have named : (Request.singleTouch touch).device = some .touchscreen := rfl
  intro w written
  simp only [handleSingleTouch, List.mem_append] at written
  rcases written with ((position | position) | contact) | report
  · split at position
    · exact accepted_declared named _ x w position
    · cases position
  · split at position
    · exact accepted_declared named _ y w position
    · cases position
  · exact accepted_declared named _ button w contact
  · exact accepted_report named w report

theorem foundCode_enabled {mXkbKeymap : Option Keymap} {sym : UInt32} {code : UInt16}
    (found : foundCode (resolveKeysym mXkbKeymap sym) = some code) :
    .uiSetKeybit code ∈ keyboardRequests := by
  have small := resolveKeysym_range mXkbKeymap sym
  unfold foundCode at found
  split at found
  · cases found
  · rename_i some
    have same : code.toNat = resolveKeysym mXkbKeymap sym := by
      rw [← Option.some.inj found]
      exact UInt16.toNat_ofNat_of_lt' (small.trans (by decide))
    rw [keybit_mem_keyboard, mem_evdevCodes, same]
    omega

/-- A key that was searched for is one of those that the keyboard has declared. -/
theorem evdevCode_enabled {server : TestRunnerServer} {which : KeyPress.Which} {code : UInt16}
    (searched : ∀ raw, which ≠ .rawCode raw) (found : server.evdevCode which = some code) :
    .uiSetKeybit code ∈ keyboardRequests := by
  cases which with
  | rawCode raw => exact absurd rfl (searched raw)
  | keySym sym => exact foundCode_enabled found
  | keyName name =>
    simp only [TestRunnerServer.evdevCode] at found
    split at found
    · cases found
    · exact foundCode_enabled found

theorem accepted_keyPress (server : TestRunnerServer) (k : KeyPress) :
    (∀ w ∈ server.handleKeyPress k, Accepted server (.keyPress k) w) ↔
      (Request.keyPress k).Enabled server.mDeviceFd := by
  have named : (Request.keyPress k).device = some .keyboard := rfl
  have press := fun code =>
    accepted_key server named (by simp [setupRequests, keyboardRequests]) code k.pressed.toInt
  unfold TestRunnerServer.handleKeyPress
  cases code : server.evdevCode k.which with
  | none =>
    obtain ⟨pressed, which⟩ := k
    cases which with
    | rawCode raw => cases code
    | keySym sym => simp [Request.Enabled]
    | keyName name => simp [Request.Enabled]
  | some code' =>
    rw [press code']
    obtain ⟨pressed, which⟩ := k
    cases which with
    | rawCode raw =>
      cases Option.some.inj code
      exact or_congr_right (keybit_mem_keyboard _)
    | keySym sym => exact iff_of_true (.inr (evdevCode_enabled (by simp) code)) trivial
    | keyName name => exact iff_of_true (.inr (evdevCode_enabled (by simp) code)) trivial

/-- The events of one request: those of a fixed code are declared, the others if enabled. -/
theorem handle_accepted (server : TestRunnerServer) (request : Request)
    (composed : ∀ p, request ≠ .passThrough p) :
    (∀ w ∈ server.handle request, Accepted server request w) ↔
      request.Enabled server.mDeviceFd := by
  cases request with
  | mouseMove m =>
    have named : (Request.mouseMove m).device = some .mouse := rfl
    refine iff_of_true ?_ trivial
    intro w written
    simp only [TestRunnerServer.handle, handleMouseMove, List.mem_append] at written
    rcases written with (x | y) | report
    · exact accepted_declared named _ declared_mouse.1 w x
    · exact accepted_declared named _ declared_mouse.2 w y
    · exact accepted_report named w report
  | mouseClick m =>
    have named : (Request.mouseClick m).device = some .mouse := rfl
    have click := accepted_key server named (by decide) m.btn m.pressed.toInt
    exact click.trans (or_congr_right (keybit_mem_mouse m.btn))
  | keyPress k => exact accepted_keyPress server k
  | singleTouch touch => exact iff_of_true (accepted_singleTouch server touch) trivial
  | multiTouch list =>
    refine iff_of_true ?_ trivial
    intro w written
    rcases List.mem_append.mp written with touches | report
    · obtain ⟨touch, -, inside⟩ := List.mem_flatMap.mp touches
      exact accepted_emitTouch rfl touch w inside
    · exact accepted_report rfl w report
  | passThrough p => exact absurd rfl (composed p)

/-- All events of a sequence of requests are declared exactly if each request that names a
button or a key names one that the setup function enables. -/
theorem all_declared (server : TestRunnerServer) (requests : List Request) :
    AllDeclared server requests ↔
      ∀ request ∈ requests, request.Enabled server.mDeviceFd := by
  constructor
  · intro declared request inside
    cases request with
    | passThrough p => trivial
    | _ => exact (handle_accepted server _ (by simp)).mp (declared _ inside (by simp))
  · intro enabled request inside composed
    exact (handle_accepted server request composed).mpr (enabled request inside)

/-- The middle button is written, and not among the buttons of the mouse. -/
theorem middle_button_undeclared :
    ¬ AllDeclared fourDevices [.mouseClick ⟨0x112, true⟩] ∧
    fourDevices.writes [.mouseClick ⟨0x112, true⟩] =
      [⟨10, evKey, 0x112, 1⟩, ⟨10, evSyn, synReport, 0⟩] := by
  refine ⟨?_, by decide⟩
  intro declared
  obtain ⟨device, named, -, -, request, bit, inside⟩ :=
    declared (.mouseClick ⟨0x112, true⟩) (by simp) (by simp) ⟨10, evKey, 0x112, 1⟩
      (by decide) (by decide)
  cases named
  cases bit
  exact absurd inside (by decide)

end TestRunner.Server
