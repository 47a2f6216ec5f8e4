import TestRunner.Recording
import TestRunner.Server.Requests

/-! A recording read back and passed through to the virtual devices. -/
namespace TestRunner.Server

/-- A record of one of the four device types, with the values of an `input_event`. -/
structure Recordable (r : InputRecord) : Prop where
  device : r.devType ≠ .unknown
  type : 0 ≤ r.inputType ∧ r.inputType < 65536
  code : 0 ≤ r.inputCode ∧ r.inputCode < 65536
  value : -2147483648 ≤ r.inputVal ∧ r.inputVal < 2147483648

/-- The request that carries the numbers of an event line. -/
def lineRequest (line : Decoded) : PassThrough :=
  ⟨UInt32.ofInt line.device, UInt32.ofInt line.type, UInt32.ofInt line.code, Int32.ofInt line.value⟩

def replay (mDeviceFd : VirtualDevice → Int) (lines : List Decoded) : List Write :=
  lines.flatMap fun line => handlePassThrough mDeviceFd (lineRequest line)

def eventNumbers (ev : InputEvent) : Int × Int × Int := (ev.type.toNat, ev.code.toNat, ev.value)
def recordNumbers (r : InputRecord) : Int × Int × Int := (r.inputType, r.inputCode, r.inputVal)

/-- The file tells what was recorded, up to whole days, and its replay writes it again. -/
structure Replayed (mDeviceFd : VirtualDevice → Int) (records : List InputRecord) : Prop where
  decodes : decodeBody (bodyText records) = some (records.map InputRecord.decoded)
  replays : ∀ lines, decodeBody (bodyText records) = some lines → ∀ device,
    (delivered (mDeviceFd device) (replay mDeviceFd lines)).map eventNumbers =
      (records.filter (·.devType.number = device.number)).map recordNumbers
  unique : ∀ others, bodyText others = bodyText records → List.Forall₂ SameButDay others records

theorem number_lt_four {type : DeviceType} (known : type ≠ .unknown) : type.number < 4 := by
  cases type <;> first | decide | exact absurd rfl known

theorem handlePassThrough_record {mDeviceFd : VirtualDevice → Int} {r : InputRecord}
    (recordable : Recordable r) {device : VirtualDevice}
    (named : VirtualDevice.ofNumber r.devType.number = some device)
    (opened : 0 ≤ mDeviceFd device) :
    ∃ ev, handlePassThrough mDeviceFd (lineRequest r.decoded) = [⟨mDeviceFd device, ev⟩] ∧
      eventNumbers ev = recordNumbers r := by
  have wide := toNat_ofInt32 r.devType.number
  have small := number_lt_four recordable.device
  have number : (UInt32.ofInt r.devType.number).toNat = r.devType.number := by omega
  have fd : getDeviceFd mDeviceFd (UInt32.ofInt r.devType.number) = mDeviceFd device := by
    simp only [getDeviceFd, number, named]
  have value : (Int32.ofInt r.inputVal).toInt = r.inputVal :=
    Int32.toInt_ofInt_of_le recordable.value.1 recordable.value.2
  have type : ((UInt32.ofInt r.inputType).toUInt16.toNat : Int) = r.inputType :=
    (toNat_narrowed _).trans (Int.emod_eq_of_lt recordable.type.1 recordable.type.2)
  have code : ((UInt32.ofInt r.inputCode).toUInt16.toNat : Int) = r.inputCode :=
    (toNat_narrowed _).trans (Int.emod_eq_of_lt recordable.code.1 recordable.code.2)
  refine ⟨⟨(UInt32.ofInt r.inputType).toUInt16, (UInt32.ofInt r.inputCode).toUInt16,
    (Int32.ofInt r.inputVal).toInt⟩, ?_, ?_⟩
  · simp only [handlePassThrough, lineRequest, InputRecord.decoded, fd, emit_opened opened]
  · simp only [eventNumbers, recordNumbers, type, code, value]

theorem ofNumber_eq_some {n : Nat} {device : VirtualDevice} :
    VirtualDevice.ofNumber n = some device ↔ n = device.number := by
  constructor
  · intro named
    match n with
    | 0 | 1 | 2 | 3 => cases named; rfl
    | n + 4 => cases named
  · rintro rfl
    exact VirtualDevice.ofNumber_number device

theorem replay_records {mDeviceFd : VirtualDevice → Int} {records : List InputRecord}
    (recordable : ∀ r ∈ records, Recordable r) (opened : ∀ device, 0 ≤ mDeviceFd device)
    (distinct : Function.Injective mDeviceFd) (device : VirtualDevice) :
    (delivered (mDeviceFd device) (replay mDeviceFd (records.map InputRecord.decoded))).map
        eventNumbers =
      (records.filter (·.devType.number = device.number)).map recordNumbers := by
  induction records with
  | nil => rfl
  | cons r records ih =>
    have known := (VirtualDevice.ofNumber_isSome _).mpr (number_lt_four (recordable r (by simp)).device)
    obtain ⟨own, named⟩ := Option.isSome_iff_exists.mp known
    obtain ⟨ev, written, same⟩ := handlePassThrough_record (recordable r (by simp)) named (opened own)
    have rest := ih fun r inside => recordable r (by simp [inside])
    have split : replay mDeviceFd ((r :: records).map InputRecord.decoded) =
        [⟨mDeviceFd own, ev⟩] ++ replay mDeviceFd (records.map InputRecord.decoded) := by
      rw [← written]
      rfl
    rw [split, delivered_append, List.map_append, rest]
    by_cases mine : own = device
    · have number : r.devType.number = device.number := mine ▸ ofNumber_eq_some.mp named
      simp [delivered, mine, number, same]
    · have other : r.devType.number ≠ device.number := by
        intro number
        exact mine (Option.some.inj (named.symm.trans (ofNumber_eq_some.mpr number)))
      have apart : mDeviceFd own ≠ mDeviceFd device := fun fd => mine (distinct fd)
      simp [delivered, apart, other]

/-- Whatever is recorded is told by the file and written again by its replay. -/
theorem replay_faithful (mDeviceFd : VirtualDevice → Int) (records : List InputRecord)
    (recordable : ∀ r ∈ records, Recordable r) (opened : ∀ device, 0 ≤ mDeviceFd device)
    (distinct : Function.Injective mDeviceFd) : Replayed mDeviceFd records where
  decodes := decodeBody_bodyText records
  replays := by
    intro lines told device
    cases (decodeBody_bodyText records).symm.trans told
    exact replay_records recordable opened distinct device
  unique := fun _ same => bodyText_sameButDay same

def twoRecords : List InputRecord :=
  [⟨3723004, .keyboard, 1, 30, 1, 0x61⟩, ⟨3723010, .multitouchscreen, 3, 53, -7, 0⟩]

theorem replay_faithful_two : Replayed fourDevices.mDeviceFd twoRecords :=
  replay_faithful _ _
    (by
      intro r inside
      rcases List.mem_cons.mp inside with rfl | inside
      · constructor <;> decide
      · cases List.mem_singleton.mp inside
        constructor <;> decide)
    (by intro device; cases device <;> decide)
    (by intro a b same; cases a <;> cases b <;> first | rfl | cases same)

/- The text of the two lines, and what is read from it. -/
example : String.ofList (bodyText twoRecords) =
    "[01:02:03.004] passThrough 1 1 30 1 97\n[01:02:03.010] passThrough 3 3 53 -7\n" := by
  decide +kernel

end TestRunner.Server
