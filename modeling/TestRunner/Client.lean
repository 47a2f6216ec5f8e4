import TestRunner.Server.Requests
import Mathlib.Data.List.Flatten

/-! The input calls of the client, and what becomes of their arguments. -/
namespace TestRunner.Client

open Server

structure MultiTouch where
  slot : Int32
  trackingId : Int32
  x : Int32
  y : Int32
  deriving DecidableEq

/-- The calls with `int` arguments; `touches` is the memory behind the pointer. -/
inductive Call where
  | sendMouseMove (x y : Int32)
  | sendMouseClick (btn : Int32) (pressed : Bool)
  | sendKeyPress (key : Int32) (pressed : Bool)
  | sendSingleTouch (x y : Int32) (pressed : Bool)
  | sendMultiTouch (touches : Nat → MultiTouch) (count : Int32)
  | sendPassThrough (device type code val : Int32)

def sendMouseMove (x y : Int32) : Request := .mouseMove ⟨x, y⟩

def sendMouseClick (btn : Int32) (pressed : Bool) : Request :=
  .mouseClick ⟨UInt16.ofInt btn.toInt, pressed⟩

def sendKeyPress (key : Int32) (pressed : Bool) : Request :=
  .keyPress ⟨pressed, .rawCode (UInt16.ofInt key.toInt)⟩

def sendSingleTouch (x y : Int32) (pressed : Bool) : Request := .singleTouch ⟨x, y, pressed⟩

/-- A message that is not shorter is not sent. -/
def traversalLimitInWords : Nat := 8 * 1024 * 1024

/-- The words of a `handleMultiTouch` message whose list has a segment of its own: 16 of the call, a
landing pad and a tag each for the list and for the empty transform, and two for each touch. A list
that shares a segment takes fewer. -/
def multiTouchWords (size : Nat) : Nat := 20 + 2 * size

/-- The most touches of a message that is sent. -/
def multiTouchLimit : Nat := 4194293

def MultiTouch.wire (touch : MultiTouch) : Server.MultiTouch :=
  ⟨Int8.ofInt touch.slot.toInt, Int16.ofInt touch.trackingId.toInt, touch.x, touch.y⟩

/-- The call throws when its message is too long: a negative count is a huge size. -/
def sendMultiTouch (touches : Nat → MultiTouch) (count : Int32) : Option Request :=
  let size := (UInt32.ofInt count.toInt).toNat
  if multiTouchWords size < traversalLimitInWords then
    some (.multiTouch ((List.range size).map fun i => (touches i).wire))
  else none

def sendPassThrough (device type code val : Int32) : Request :=
  .passThrough ⟨UInt32.ofInt device.toInt, UInt32.ofInt type.toInt, UInt32.ofInt code.toInt, val⟩

/-- The request that a call sends, none when it throws. -/
def Call.send (isConnected : Bool) (call : Call) : Option Request :=
  if isConnected then
    match call with
    | .sendMouseMove x y => some (Client.sendMouseMove x y)
    | .sendMouseClick btn pressed => some (Client.sendMouseClick btn pressed)
    | .sendKeyPress key pressed => some (Client.sendKeyPress key pressed)
    | .sendSingleTouch x y pressed => some (Client.sendSingleTouch x y pressed)
    | .sendMultiTouch touches count => Client.sendMultiTouch touches count
    | .sendPassThrough device type code val => some (Client.sendPassThrough device type code val)
  else none

def injected (server : TestRunnerServer) (isConnected : Bool) (call : Call) : List Write :=
  match call.send isConnected with
  | none => []
  | some request => server.handle request

/-- An event by its numbers. -/
structure Numbers where
  fd : Int
  type : Int
  code : Int
  value : Int
  deriving DecidableEq

def numbers (w : Write) : Numbers := ⟨w.fd, w.ev.type.toNat, w.ev.code.toNat, w.ev.value⟩

/-- The descriptor of the device that the caller numbers so. -/
def deviceFd (mDeviceFd : VirtualDevice → Int) (device : Int) : Int :=
  if device < 0 then -1
  else match VirtualDevice.ofNumber device.toNat with
    | some device => mDeviceFd device
    | none => -1

def report (fd : Int) : Numbers := ⟨fd, evSyn.toNat, synReport.toNat, 0⟩

def MultiTouch.asked (fd : Int) (touch : MultiTouch) : List Numbers :=
  [⟨fd, evAbs.toNat, absMtSlot.toNat, touch.slot.toInt⟩,
    ⟨fd, evAbs.toNat, absMtTrackingId.toNat, touch.trackingId.toInt⟩,
    ⟨fd, evAbs.toNat, absMtPositionX.toNat, touch.x.toInt⟩,
    ⟨fd, evAbs.toNat, absMtPositionY.toNat, touch.y.toInt⟩]

/-- The events that carry the caller's own arguments. -/
def asked (mDeviceFd : VirtualDevice → Int) : Call → List Numbers
  | .sendMouseMove x y =>
    [⟨mDeviceFd .mouse, evRel.toNat, relX.toNat, x.toInt⟩,
      ⟨mDeviceFd .mouse, evRel.toNat, relY.toNat, y.toInt⟩, report (mDeviceFd .mouse)]
  | .sendMouseClick btn pressed =>
    [⟨mDeviceFd .mouse, evKey.toNat, btn.toInt, pressed.toInt⟩, report (mDeviceFd .mouse)]
  | .sendKeyPress key pressed =>
    [⟨mDeviceFd .keyboard, evKey.toNat, key.toInt, pressed.toInt⟩, report (mDeviceFd .keyboard)]
  | .sendSingleTouch x y pressed =>
    [⟨mDeviceFd .touchscreen, evAbs.toNat, absX.toNat, x.toInt⟩,
      ⟨mDeviceFd .touchscreen, evAbs.toNat, absY.toNat, y.toInt⟩,
      ⟨mDeviceFd .touchscreen, evKey.toNat, btnTouch.toNat, pressed.toInt⟩,
      report (mDeviceFd .touchscreen)]
  | .sendMultiTouch touches count =>
    (List.range count.toInt.toNat).flatMap
        (fun i => (touches i).asked (mDeviceFd .multiTouchscreen)) ++
      [report (mDeviceFd .multiTouchscreen)]
  | .sendPassThrough device type code val =>
    [⟨deviceFd mDeviceFd device.toInt, type.toInt, code.toInt, val.toInt⟩]

/-- Every event that is written carries the arguments of the call; arguments may be left out. -/
def Faithful (server : TestRunnerServer) (isConnected : Bool) (call : Call) : Prop :=
  List.Sublist ((injected server isConnected call).map numbers) (asked server.mDeviceFd call)

/-- A value of the 16 bit fields of `input_event`. -/
def FitsU16 (n : Int) : Prop := 0 ≤ n ∧ n < 65536

def MultiTouch.Fits (touch : MultiTouch) : Prop :=
  (-128 ≤ touch.slot.toInt ∧ touch.slot.toInt < 128) ∧
    (-32768 ≤ touch.trackingId.toInt ∧ touch.trackingId.toInt < 32768 ∨
      65536 ∣ touch.trackingId.toInt)

/-- The arguments of the call survive the conversions on the way to an open device. -/
def Call.Fits (mDeviceFd : VirtualDevice → Int) : Call → Prop
  | .sendMouseMove .. | .sendSingleTouch .. => True
  | .sendMouseClick btn _ => mDeviceFd .mouse < 0 ∨ FitsU16 btn.toInt
  | .sendKeyPress key _ => mDeviceFd .keyboard < 0 ∨ FitsU16 key.toInt
  | .sendMultiTouch touches count =>
    mDeviceFd .multiTouchscreen < 0 ∨ ¬(0 ≤ count.toInt ∧ count.toInt ≤ multiTouchLimit) ∨
      ∀ i < count.toInt.toNat, (touches i).Fits
  | .sendPassThrough device type code _ =>
    deviceFd mDeviceFd device.toInt < 0 ∨ FitsU16 type.toInt ∧ FitsU16 code.toInt

theorem fitsU16_iff (n : Int) : n % 65536 = n ↔ FitsU16 n := by
  unfold FitsU16
  omega

theorem getDeviceFd_ofInt (mDeviceFd : VirtualDevice → Int) (device : Int32) :
    getDeviceFd mDeviceFd (UInt32.ofInt device.toInt) = deviceFd mDeviceFd device.toInt := by
  have wide := toNat_ofInt32 device.toInt
  have lower := device.le_toInt
  have upper := device.toInt_lt
  unfold getDeviceFd deviceFd
  by_cases negative : device.toInt < 0
  · have far : ¬ (UInt32.ofInt device.toInt).toNat < 4 := by omega
    have unknown := mt (VirtualDevice.ofNumber_isSome _).mp far
    rw [Option.not_isSome_iff_eq_none.mp unknown, if_pos negative]
  · have same : (UInt32.ofInt device.toInt).toNat = device.toInt.toNat := by omega
    cases known : VirtualDevice.ofNumber device.toInt.toNat <;>
      simp only [same, if_neg negative, known]

theorem ofInt8_iff (n : Int) : (Int8.ofInt n).toInt = n ↔ -128 ≤ n ∧ n < 128 := by
  constructor
  · intro same
    have lower := (Int8.ofInt n).le_toInt
    have upper := (Int8.ofInt n).toInt_lt
    omega
  · rintro ⟨lower, upper⟩
    exact Int8.toInt_ofInt_of_le lower upper

theorem ofInt16_iff (n : Int) : (Int16.ofInt n).toInt = n ↔ -32768 ≤ n ∧ n < 32768 := by
  constructor
  · intro same
    have lower := (Int16.ofInt n).le_toInt
    have upper := (Int16.ofInt n).toInt_lt
    omega
  · rintro ⟨lower, upper⟩
    exact Int16.toInt_ofInt_of_le lower upper

theorem ofInt16_eq_zero_iff (n : Int) : (Int16.ofInt n).toInt = 0 ↔ 65536 ∣ n := by
  rw [Int16.toInt_ofInt]
  exact Int.dvd_iff_bmod_eq_zero.symm

theorem MultiTouch.wire_written {fd : Int} (opened : 0 ≤ fd) (touch : MultiTouch) :
    (emitTouch fd touch.wire).map numbers =
      [⟨fd, evAbs.toNat, absMtSlot.toNat, (Int8.ofInt touch.slot.toInt).toInt⟩] ++
        (if (Int16.ofInt touch.trackingId.toInt).toInt ≠ 0 then
          [⟨fd, evAbs.toNat, absMtTrackingId.toNat, (Int16.ofInt touch.trackingId.toInt).toInt⟩]
         else []) ++
        (if (Int16.ofInt touch.trackingId.toInt).toInt ≥ 0 then
          [⟨fd, evAbs.toNat, absMtPositionX.toNat, touch.x.toInt⟩,
            ⟨fd, evAbs.toNat, absMtPositionY.toNat, touch.y.toInt⟩]
         else []) := by
  simp only [emitTouch, emit_opened opened, List.map_append, MultiTouch.wire]
  congr 1
  · congr 1
    split <;> rfl
  · split <;> rfl

theorem MultiTouch.wire_sublist {fd : Int} (opened : 0 ≤ fd) {touch : MultiTouch}
    (fits : touch.Fits) :
    List.Sublist ((emitTouch fd touch.wire).map numbers) (touch.asked fd) := by
  have slot := (ofInt8_iff touch.slot.toInt).mpr fits.1
  have tracking : (Int16.ofInt touch.trackingId.toInt).toInt = touch.trackingId.toInt ∨
      (Int16.ofInt touch.trackingId.toInt).toInt = 0 := by
    rcases fits.2 with inside | wrapped
    · exact .inl ((ofInt16_iff _).mpr inside)
    · exact .inr ((ofInt16_eq_zero_iff _).mpr wrapped)
  have front : List.Sublist
      (if (Int16.ofInt touch.trackingId.toInt).toInt ≠ 0 then
        [(⟨fd, evAbs.toNat, absMtTrackingId.toNat, (Int16.ofInt touch.trackingId.toInt).toInt⟩ :
          Numbers)]
       else [])
      [⟨fd, evAbs.toNat, absMtTrackingId.toNat, touch.trackingId.toInt⟩] := by
    rcases tracking with same | dropped
    · rw [same]
      split
      · exact .refl _
      · exact List.nil_sublist _
    · rw [if_neg (not_not.mpr dropped)]
      exact List.nil_sublist _
  have back : ∀ (c : Prop) [Decidable c] (ns : List Numbers), List.Sublist (if c then ns else []) ns := by
    intro c _ ns
    split
    · exact .refl _
    · exact List.nil_sublist _
  rw [wire_written opened, slot]
  exact .append (.append (.refl [_]) front) (back _ [_, _])

/-- The value of an event of the code. -/
def field (code : UInt16) (n : Numbers) : Option Int :=
  if n.code = code.toNat then some n.value else none

theorem slots_written {fd : Int} (opened : 0 ≤ fd) (touches : List MultiTouch) :
    ((touches.flatMap fun touch => (emitTouch fd touch.wire).map numbers) ++
        [report fd]).filterMap (field absMtSlot) =
      touches.map fun touch => (Int8.ofInt touch.slot.toInt).toInt := by
  induction touches with
  | nil => rfl
  | cons touch touches ih =>
    have one : ((emitTouch fd touch.wire).map numbers).filterMap (field absMtSlot) =
        [(Int8.ofInt touch.slot.toInt).toInt] := by
      rw [MultiTouch.wire_written opened]
      split <;> split <;> rfl
    rw [List.flatMap_cons, List.append_assoc, List.filterMap_append, one, ih]
    rfl

theorem slots_asked (fd : Int) (touches : List MultiTouch) :
    (touches.flatMap (MultiTouch.asked fd) ++ [report fd]).filterMap (field absMtSlot) =
      touches.map fun touch => touch.slot.toInt := by
  induction touches with
  | nil => rfl
  | cons touch touches ih =>
    rw [List.flatMap_cons, List.append_assoc, List.filterMap_append, ih]
    rfl

theorem ids_written {fd : Int} (opened : 0 ≤ fd) (touches : List MultiTouch) :
    ((touches.flatMap fun touch => (emitTouch fd touch.wire).map numbers) ++
        [report fd]).filterMap (field absMtTrackingId) =
      (touches.map fun touch => (Int16.ofInt touch.trackingId.toInt).toInt).filter (· ≠ 0) := by
  induction touches with
  | nil => rfl
  | cons touch touches ih =>
    rw [List.flatMap_cons, List.append_assoc, List.filterMap_append, ih,
      MultiTouch.wire_written opened, List.map_cons]
    by_cases dropped : (Int16.ofInt touch.trackingId.toInt).toInt = 0
    · rw [List.filter_cons_of_neg (by simpa using dropped), if_neg (not_not.mpr dropped)]
      split <;> rfl
    · rw [List.filter_cons_of_pos (by simpa using dropped), if_pos dropped]
      split <;> rfl

theorem ids_asked (fd : Int) (touches : List MultiTouch) :
    (touches.flatMap (MultiTouch.asked fd) ++ [report fd]).filterMap (field absMtTrackingId) =
      touches.map fun touch => touch.trackingId.toInt := by
  induction touches with
  | nil => rfl
  | cons touch touches ih =>
    rw [List.flatMap_cons, List.append_assoc, List.filterMap_append, ih]
    rfl

/-- When the nonzero images of a list are found in it in order, a projection leaves each
element as it is or sends it to zero. -/
theorem fixed_or_zero_of_sublist {f : Int → Int} (idem : ∀ n, f (f n) = f n) {ns : List Int}
    (sub : List.Sublist ((ns.map f).filter (· ≠ 0)) ns) {n : Int} (inside : n ∈ ns) :
    f n = n ∨ f n = 0 := by
  by_cases zero : f n = 0
  · exact .inr zero
  · -- the value f n is at least as often among the images as in the list, and no more often
    have fewer : List.Sublist (ns.filter (· = f n)) (ns.filter (f · = f n)) := by
      refine List.monotone_filter_right ns fun m same => ?_
      have eq : m = f n := of_decide_eq_true same
      simp [eq, idem]
    have more : (ns.filter (f · = f n)).length ≤ (ns.filter (· = f n)).length := by
      have kept := (sub.filter (· = f n)).length_le
      have image : ((ns.map f).filter (· ≠ 0)).filter (· = f n) =
          (ns.filter (f · = f n)).map f := by
        rw [List.filter_filter, List.filter_map]
        congr 1
        refine List.filter_congr fun m _ => ?_
        by_cases same : f m = f n
        · simp [same, zero]
        · simp [same]
      rwa [image, List.length_map] at kept
    have equal := fewer.eq_of_length_le more
    have member : n ∈ ns.filter (· = f n) := by
      rw [equal]
      exact List.mem_filter.mpr ⟨inside, by simp⟩
    have same : n = f n := of_decide_eq_true (List.mem_filter.mp member).2
    exact .inl same.symm

theorem touches_fit {fd : Int} (opened : 0 ≤ fd) (touches : List MultiTouch) :
    List.Sublist ((touches.flatMap fun touch => (emitTouch fd touch.wire).map numbers) ++ [report fd])
        (touches.flatMap (MultiTouch.asked fd) ++ [report fd]) ↔
      ∀ touch ∈ touches, touch.Fits := by
  constructor
  · intro sub touch inside
    have slots := sub.filterMap (field absMtSlot)
    rw [slots_written opened, slots_asked] at slots
    have same := slots.eq_of_length (by simp)
    have slot := List.map_inj_left.mp same touch inside
    have ids := sub.filterMap (field absMtTrackingId)
    rw [ids_written opened, ids_asked] at ids
    have idem : ∀ n, (Int16.ofInt (Int16.ofInt n).toInt).toInt = (Int16.ofInt n).toInt :=
      fun n => by rw [Int16.ofInt_toInt]
    have tracking := fixed_or_zero_of_sublist (f := fun n => (Int16.ofInt n).toInt) idem
      (by rw [List.map_map]; exact ids) (List.mem_map_of_mem inside)
    exact ⟨(ofInt8_iff _).mp slot,
      tracking.imp (ofInt16_iff _).mp (ofInt16_eq_zero_iff _).mp⟩
  · intro fits
    refine List.Sublist.append ?_ (.refl _)
    exact List.Sublist.flatMap_right touches fun touch inside =>
      MultiTouch.wire_sublist opened (fits touch inside)

theorem multiTouchWords_lt_iff (size : Nat) :
    multiTouchWords size < traversalLimitInWords ↔ size ≤ multiTouchLimit := by
  unfold multiTouchWords traversalLimitInWords multiTouchLimit
  omega

theorem sendMultiTouch_size (count : Int32) :
    multiTouchWords (UInt32.ofInt count.toInt).toNat < traversalLimitInWords ↔
      0 ≤ count.toInt ∧ count.toInt ≤ multiTouchLimit := by
  have wide := toNat_ofInt32 count.toInt
  have lower := count.le_toInt
  have upper := count.toInt_lt
  rw [multiTouchWords_lt_iff]
  unfold multiTouchLimit
  omega

theorem sendMultiTouch_eq (touches : Nat → MultiTouch) (count : Int32) :
    sendMultiTouch touches count =
      if 0 ≤ count.toInt ∧ count.toInt ≤ multiTouchLimit then
        some (.multiTouch ((List.range count.toInt.toNat).map fun i => (touches i).wire))
      else none := by
  unfold sendMultiTouch
  by_cases fits : 0 ≤ count.toInt ∧ count.toInt ≤ multiTouchLimit
  · have wide := toNat_ofInt32 count.toInt
    have upper := count.toInt_lt
    have size : (UInt32.ofInt count.toInt).toNat = count.toInt.toNat := by omega
    have small := (sendMultiTouch_size count).mpr fits
    rw [size] at small
    simp only [size, if_pos small, if_pos fits]
  · simp only [if_neg (mt (sendMultiTouch_size count).mp fits), if_neg fits]

/-- One event and a report, whose code is an argument. -/
theorem code_sublist (fd : Int) (n : Int) (pressed : Bool) :
    List.Sublist ((emit fd evKey (UInt16.ofInt n) pressed.toInt ++ emit fd evSyn synReport 0).map numbers)
        [⟨fd, evKey.toNat, n, pressed.toInt⟩, report fd] ↔ fd < 0 ∨ FitsU16 n := by
  by_cases opened : 0 ≤ fd
  · have code : ((UInt16.ofInt n).toNat : Int) = n ↔ FitsU16 n := by
      rw [toNat_ofInt16]
      exact fitsU16_iff n
    rw [emit_opened opened, emit_opened opened, ← code]
    constructor
    · intro sub
      have same := sub.eq_of_length rfl
      exact .inr (by simpa [numbers] using (List.cons.inj same).1)
    · rintro (closed | same)
      · exact absurd opened (not_le.mpr closed)
      · simp [numbers, report, same]
  · have closed : fd < 0 := not_le.mp opened
    simp [emit_closed closed, closed]

theorem passThrough_sublist (mDeviceFd : VirtualDevice → Int) (device type code val : Int32) :
    List.Sublist ((handlePassThrough mDeviceFd ⟨UInt32.ofInt device.toInt, UInt32.ofInt type.toInt,
          UInt32.ofInt code.toInt, val⟩).map numbers)
        [⟨deviceFd mDeviceFd device.toInt, type.toInt, code.toInt, val.toInt⟩] ↔
      deviceFd mDeviceFd device.toInt < 0 ∨ FitsU16 type.toInt ∧ FitsU16 code.toInt := by
  simp only [handlePassThrough, getDeviceFd_ofInt]
  by_cases opened : 0 ≤ deviceFd mDeviceFd device.toInt
  · simp only [emit_opened opened, List.map_cons, List.map_nil, numbers, toNat_narrowed,
      ← fitsU16_iff]
    constructor
    · intro sub
      have same := (List.cons.inj (sub.eq_of_length rfl)).1
      simp only [Numbers.mk.injEq] at same
      exact .inr ⟨same.2.1, same.2.2.1⟩
    · rintro (closed | ⟨typed, coded⟩)
      · exact absurd opened (not_le.mpr closed)
      · rw [typed, coded]
  · have closed := not_le.mp opened
    simp [emit_closed closed, closed]

theorem mouseMove_sublist (mDeviceFd : VirtualDevice → Int) (x y : Int32) :
    List.Sublist ((handleMouseMove mDeviceFd ⟨x, y⟩).map numbers)
      (asked mDeviceFd (.sendMouseMove x y)) := by
  by_cases opened : 0 ≤ mDeviceFd .mouse
  · simp [handleMouseMove, emit_opened opened, asked, numbers, report]
  · simp [handleMouseMove, emit_closed (not_le.mp opened)]

theorem singleTouch_sublist (mDeviceFd : VirtualDevice → Int) (x y : Int32) (pressed : Bool) :
    List.Sublist ((handleSingleTouch mDeviceFd ⟨x, y, pressed⟩).map numbers)
      (asked mDeviceFd (.sendSingleTouch x y pressed)) := by
  by_cases opened : 0 ≤ mDeviceFd .touchscreen
  · simp only [handleSingleTouch, emit_opened opened, asked]
    split <;> split <;> simp [numbers, report]
  · simp [handleSingleTouch, emit_closed (not_le.mp opened)]

/-- A call is injected with the arguments it was given exactly if these fit the fields that
they pass through. -/
theorem arguments_injected (server : TestRunnerServer) (isConnected : Bool) (call : Call) :
    Faithful server isConnected call ↔ isConnected = false ∨ call.Fits server.mDeviceFd := by
  unfold Faithful injected Call.send
  cases isConnected with
  | false => simp
  | true =>
    simp only [if_true, Bool.true_eq_false, false_or]
    cases call with
    | sendMouseMove x y => exact iff_of_true (mouseMove_sublist _ x y) trivial
    | sendSingleTouch x y pressed => exact iff_of_true (singleTouch_sublist _ x y pressed) trivial
    | sendMouseClick btn pressed => exact code_sublist _ btn.toInt pressed
    | sendKeyPress key pressed => exact code_sublist _ key.toInt pressed
    | sendPassThrough device type code val => exact passThrough_sublist _ device type code val
    | sendMultiTouch touches count =>
      simp only [sendMultiTouch_eq, Call.Fits, asked]
      by_cases sent : 0 ≤ count.toInt ∧ count.toInt ≤ multiTouchLimit
      · simp only [if_pos sent, TestRunnerServer.handle, handleMultiTouch]
        by_cases opened : 0 ≤ server.mDeviceFd .multiTouchscreen
        · have all := touches_fit opened ((List.range count.toInt.toNat).map touches)
          simp only [List.flatMap_map, List.forall_mem_map, List.mem_range] at all
          simpa [emit_opened opened, List.map_flatMap, List.flatMap_map, sent, not_lt.mpr opened,
            numbers, report] using all
        · have closed := not_le.mp opened
          simp [emit_closed closed, closed, emitTouch]
      · simp [sent]

/-- A tracking id or a code that is too large for its field becomes another legal event. -/
theorem arguments_wrap :
    ¬ Faithful fourDevices true (.sendMultiTouch (fun _ => ⟨0, 40000, 1, 2⟩) 1) ∧
    (injected fourDevices true (.sendMultiTouch (fun _ => ⟨0, 40000, 1, 2⟩) 1)).map Write.ev =
      [⟨evAbs, absMtSlot, 0⟩, ⟨evAbs, absMtTrackingId, -25536⟩, ⟨evSyn, synReport, 0⟩] ∧
    ¬ Faithful fourDevices true (.sendPassThrough 1 1 65566 1) ∧
    (injected fourDevices true (.sendPassThrough 1 1 65566 1)).map Write.ev = [⟨evKey, 30, 1⟩] := by
  unfold Faithful
  decide

end TestRunner.Client
