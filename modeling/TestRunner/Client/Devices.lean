import TestRunner.Server.Registry
import Mathlib.Data.List.Forall2
import Mathlib.Data.List.TakeWhile

/-! The lists of devices between a recorder, the client and the server: four conversions with
names in buffers of fifty bytes. -/
namespace TestRunner.Client

open Recorder Server

/-- The `name` of an `in_device_s`. -/
structure NameBuffer where
  bytes : List UInt8
  size : bytes.length = 50
  deriving DecidableEq

def NameBuffer.text (name : NameBuffer) : List UInt8 := cStr name.bytes

/-- `strncpy` of a C string, filled up with zeros or cut off at the end of the buffer. -/
def strncpy (text : List UInt8) : NameBuffer where
  bytes := (cStr text ++ List.replicate 50 0).take 50
  size := by simp

def NameBuffer.terminate (name : NameBuffer) : NameBuffer where
  bytes := name.bytes.set 49 0
  size := by simp [name.size]

/-- The `in_device_s` of the client, its `type` as it is cast. -/
structure Device where
  fd : Int32
  name : NameBuffer
  type : Nat
  absRangeX : AbsInfo
  absRangeY : AbsInfo
  deriving DecidableEq

/-- What `listDevices` makes of an entry of the response. -/
def listed (entry : InputDevice) : Device where
  fd := entry.fd.toInt32
  name := (strncpy entry.name).terminate
  type := entry.type.toNat
  absRangeX := ⟨0, 0⟩
  absRangeY := ⟨0, 0⟩

/-- What a connected client returns for a response. -/
def listDevices (response : List InputDevice) : List Device := response.map listed

/-- What `setDevicesToRecord` makes of a device. -/
def wire (device : Device) : InputDevice :=
  ⟨device.fd.toUInt32, device.name.text, UInt8.ofNat device.type⟩

def setDevicesToRecord (index : UInt8) (devices : List Device) : RecorderRequest :=
  .setDevicesToRecord index (devices.map wire)

theorem cStr_take (text : List UInt8) (n : Nat) : cStr (text.take n) = (cStr text).take n :=
  List.take_takeWhile.symm

theorem cStr_zeros (text : List UInt8) (n : Nat) :
    cStr (text ++ List.replicate n 0) = cStr text := by
  induction text with
  | nil => cases n <;> rfl
  | cons a rest ih =>
    unfold cStr at ih ⊢
    rw [List.cons_append, List.takeWhile_cons, List.takeWhile_cons, ih]

theorem cStr_set {text : List UInt8} {n : Nat} (within : n < text.length) :
    cStr (text.set n 0) = (cStr text).take n := by
  induction text generalizing n with
  | nil => simp at within
  | cons a rest ih =>
    cases n with
    | zero => rfl
    | succ n =>
      have tail := ih (Nat.lt_of_succ_lt_succ within)
      unfold cStr at tail ⊢
      rw [List.set_cons_succ, List.takeWhile_cons, List.takeWhile_cons, tail]
      split <;> simp

theorem cStr_idem (text : List UInt8) : cStr (cStr text) = cStr text := List.takeWhile_idem

/-- A terminated copy holds the first 49 bytes of the C string. -/
theorem text_terminate (text : List UInt8) :
    (strncpy text).terminate.text = (cStr text).take 49 := by
  have within : 49 < (strncpy text).bytes.length := by simp [(strncpy text).size]
  calc (strncpy text).terminate.text
      = (cStr (strncpy text).bytes).take 49 := cStr_set within
    _ = ((cStr text).take 50).take 49 := by rw [strncpy, cStr_take, cStr_zeros, cStr_idem]
    _ = (cStr text).take 49 := by rw [List.take_take]; rfl

theorem zero_mem_terminate (name : NameBuffer) : name.terminate.bytes.getLast? = some 0 := by
  rw [List.getLast?_eq_getElem?, name.terminate.size, NameBuffer.terminate]
  exact List.getElem?_set_self (by simp [name.size])

/-- A device of a recorder: a descriptor, and a C string that fits the buffer of its name. -/
structure Sound (device : InDevice) : Prop where
  opened : 0 ≤ device.fd
  descriptor : device.fd < 2 ^ 31
  name : (cStr device.name).length < 50

/-- The same descriptor, name and type. -/
structure Agrees (device : InDevice) (copy : Device) : Prop where
  fd : copy.fd.toInt = device.fd
  name : copy.name.text = cStr device.name
  type : copy.type = device.type.number

theorem number_le (type : DeviceType) : type.number ≤ 4 := by
  cases type <;> decide

theorem number_deviceType {n : Nat} (known : n ≤ 4) : (deviceType n).number = n := by
  have all : ∀ n < 5, (deviceType n).number = n := by decide
  exact all n (Nat.lt_succ_of_le known)

theorem toNat_ofNat_of_le {n : Nat} (known : n ≤ 4) : (UInt8.ofNat n).toNat = n :=
  UInt8.toNat_ofNat_of_lt' (by change n < 256; omega)

theorem length_text_listed (entry : InputDevice) : (listed entry).name.text.length ≤ 49 := by
  rw [listed, text_terminate]
  exact List.length_take_le 49 _

theorem agrees_listed {device : InDevice} (sound : Sound device) :
    Agrees device (listed (inputDevice device)) := by
  have low := sound.opened
  constructor
  · exact Int32.toInt_ofInt_of_le (by omega) sound.descriptor
  · rw [listed, text_terminate, inputDevice, cStr_idem]
    exact List.take_of_length_le (Nat.le_of_lt_succ sound.name)
  · exact toNat_ofNat_of_le (number_le device.type)

theorem agrees_wire {copy : Device} (short : copy.name.text.length ≤ 49) (known : copy.type ≤ 4) :
    Agrees (wire copy).inDevice copy := by
  constructor
  · rfl
  · change copy.name.text = cStr ((cStr (cStr copy.name.bytes)).take 49)
    rw [cStr_take, cStr_idem, cStr_idem]
    exact (List.take_of_length_le short).symm
  · change copy.type = (deviceType (UInt8.ofNat copy.type).toNat).number
    rw [toNat_ofNat_of_le known, number_deviceType known]

/-- The name that the server makes of an entry is in its buffer. -/
theorem inDevice_name (entry : InputDevice) :
    entry.inDevice.name = (strncpy entry.name).terminate.text := (text_terminate entry.name).symm

variable {X : Type}

/-- A client sees the devices of a recorder as they are, the server rebuilds any of them that come
back, and bounds the name and the type of any other entry. -/
theorem devices_round_trip (reg : Registry X) (index : UInt8) (custom : CustomRecorder X)
    (found : reg.customRecorders[index.toNat]? = some custom)
    (sound : ∀ device ∈ custom.cfg.availableDevices, Sound device) :
    (∃ response,
      (reg.listDevices index).log = reg.log ++ [(.listDevices index, .devices response)] ∧
      List.Forall₂ Agrees custom.cfg.availableDevices (listDevices response) ∧
      ∀ devices, devices.Sublist (listDevices response) →
        ∃ rebuilt, List.Forall₂ Agrees rebuilt devices ∧
          ∀ a, (setDevicesToRecord index devices).calls a = true ↔ a = .setDevicesToRecord rebuilt) ∧
    ∀ entry : InputDevice,
      entry.inDevice.name = (strncpy entry.name).terminate.text ∧
      (strncpy entry.name).terminate.bytes.getLast? = some 0 ∧
      entry.inDevice.name = cStr (entry.name.take 49) ∧ entry.inDevice.name.length ≤ 49 ∧
      (0 ∉ entry.name.take 49 → entry.inDevice.name = entry.name.take 49) ∧
      entry.inDevice.type.number ≤ DeviceType.unknown.number := by
  constructor
  · refine ⟨custom.cfg.availableDevices.map inputDevice, ?_, ?_, ?_⟩
    · simp [Registry.listDevices, found, Registry.answer]
    · rw [listDevices, List.map_map, List.forall₂_map_right_iff, List.forall₂_same]
      intro device inside
      exact agrees_listed (sound device inside)
    · intro devices part
      refine ⟨devices.map fun copy => (wire copy).inDevice, ?_, ?_⟩
      · rw [List.forall₂_map_left_iff, List.forall₂_same]
        intro copy inside
        obtain ⟨entry, among, rfl⟩ := List.mem_map.mp (part.subset inside)
        obtain ⟨device, known, rfl⟩ := List.mem_map.mp among
        apply agrees_wire (length_text_listed _)
        rw [(agrees_listed (sound device known)).type]
        exact number_le device.type
      · intro a
        cases a <;> simp [setDevicesToRecord, RecorderRequest.calls, Function.comp_def]
  · intro entry
    have name : entry.inDevice.name = cStr (entry.name.take 49) := (cStr_take ..).symm
    refine ⟨inDevice_name entry, zero_mem_terminate _, name, List.length_take_le 49 _, ?_,
      number_le _⟩
    intro free
    rw [name]
    apply List.takeWhile_eq_self_iff.mpr
    intro a inside
    exact decide_eq_true (ne_of_mem_of_not_mem inside free)

/-- A recorder over a keyboard with a name of 49 bytes and a panel. -/
def namedRecorder : Config Unit where
  mFilename := "named"
  mRecordingLength := 30000
  mContinuous := true
  availableDevices := [⟨3, List.replicate 49 107, .keyboard, ⟨0, 0⟩, ⟨0, 0⟩⟩,
    ⟨4, [112, 0, 113], .touchscreen, ⟨0, 4095⟩, ⟨0, 4095⟩⟩]
  distinct := by decide
  xkb := ⟨fun _ _ => 0, fun x _ _ => x⟩
  fileTimestamp := fun _ => "t"

def namedRegistry : Registry Unit :=
  ⟨[⟨[97], namedRecorder, Recorder.initial namedRecorder none 0⟩], none, []⟩

theorem devices_round_trip_named : ∃ response,
    (namedRegistry.listDevices 0).log = [(.listDevices 0, .devices response)] ∧
    List.Forall₂ Agrees namedRecorder.availableDevices (listDevices response) := by
  have sound : ∀ device ∈ namedRecorder.availableDevices, Sound device := by
    intro device inside
    simp only [namedRecorder, List.mem_cons, List.not_mem_nil, or_false] at inside
    rcases inside with rfl | rfl <;> constructor <;> decide
  obtain ⟨response, log, agrees, -⟩ := (devices_round_trip namedRegistry 0 _ rfl sound).1
  exact ⟨response, log, agrees⟩

end TestRunner.Client
