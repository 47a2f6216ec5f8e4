import TestRunner.Core
import Mathlib.Data.List.Nodup
import Mathlib.Data.List.Infix

/-! The devices that a recorder finds: a directory is read entry by entry, and each event
device is asked for its name, its bitmaps and its ranges. A call that fails leaves the buffer
on the stack as it was. -/
namespace TestRunner.Recorder

def dtChr : UInt8 := 2

/-- The text `event`. -/
def eventPrefix : List UInt8 := [0x65, 0x76, 0x65, 0x6e, 0x74]

/- Sizes of the bitmaps of linux/input-event-codes.h. -/
def evCnt : Nat := 0x20
def absCnt : Nat := 0x40

/-- What the kernel writes for a bitmap of so many bits. -/
structure Bitmap (bits : Nat) where
  bytes : List UInt8
  whole : bits ≤ 8 * bytes.length

/-- What the kernel writes for a name: with its terminator, or as many bytes as were asked for. -/
structure DeviceName where
  bytes : List UInt8
  whole : 0 ∈ bytes ∨ 50 ≤ bytes.length

/-- An entry of the directory, with the results of the calls about it; `none` is a failure. -/
structure Node where
  dType : UInt8
  dName : List UInt8
  fd : Int
  name : Option DeviceName
  capabilities : Option (Bitmap evCnt)
  absCapabilities : Option (Bitmap absCnt)
  absRange : UInt16 → Option AbsInfo

abbrev Buffer := Nat → UInt8

/-- The buffers of one iteration. -/
structure Stack where
  name : Buffer
  deviceCapabilities : Buffer
  absCapabilities : Buffer

/-- A call that succeeds overwrites the front of its buffer. -/
def Buffer.receive (b : Buffer) : Option (List UInt8) → Buffer
  | some bytes => fun i => bytes[i]?.getD (b i)
  | none => b

/-- The tests of a bit, `b[n / 8] & (1 << (n % 8))` and `(b[n / 8] >> (n % 8)) & 1`. -/
def testBit (byte : UInt8) (n : UInt16) : Bool := byte.toNat.testBit (n.toNat % 8)

def Buffer.hasBit (b : Buffer) (n : UInt16) : Bool := testBit (b (n.toNat / 8)) n

/-- The class of a device by its two bitmaps. -/
def classify (deviceCapabilities absCapabilities : UInt16 → Bool) : Option DeviceType :=
  if deviceCapabilities evAbs then
    let hasMtSlot := absCapabilities absMtSlot
    let hasMtTrackingId := absCapabilities absMtTrackingId
    let hasAbsX := deviceCapabilities absX
    let hasAbsY := deviceCapabilities absY
    if hasMtSlot && hasMtTrackingId then some .multitouchscreen
    else if hasAbsX && hasAbsY then some .touchscreen
    else none
  else if deviceCapabilities evRel then some .mouse
  else if deviceCapabilities evKey then some .keyboard
  else none

/-- The codes of the two ranges that are asked for. A mouse is asked for one. -/
def rangeCodes : DeviceType → Option UInt16 × Option UInt16
  | .multitouchscreen => (some absMtPositionX, some absMtPositionY)
  | .touchscreen => (some absX, some absY)
  | .mouse => (some absX, none)
  | _ => (none, none)

def Node.range (node : Node) (code : Option UInt16) : AbsInfo :=
  (code.bind node.absRange).getD ⟨0, 0⟩

/-- The device of an open descriptor, none when it is skipped. -/
def Node.inspect (node : Node) (stack : Stack) : Option InDevice :=
  let name := stack.name.receive (node.name.map DeviceName.bytes)
  let deviceCapabilities := stack.deviceCapabilities.receive (node.capabilities.map Bitmap.bytes)
  let absCapabilities := stack.absCapabilities.receive (node.absCapabilities.map Bitmap.bytes)
  (classify deviceCapabilities.hasBit absCapabilities.hasBit).map fun type =>
    { fd := node.fd
      name := (cStr ((List.range 50).map name)).take 49
      type := type
      absRangeX := node.range (rangeCodes type).1
      absRangeY := node.range (rangeCodes type).2 }

/-- The class of an entry by what the stack holds of its bitmaps. -/
def Node.type (node : Node) (stack : Stack) : Option DeviceType :=
  classify (stack.deviceCapabilities.receive (node.capabilities.map Bitmap.bytes)).hasBit
    (stack.absCapabilities.receive (node.absCapabilities.map Bitmap.bytes)).hasBit

/-- The name that is kept of a buffer. -/
def Buffer.nameOf (b : Buffer) : List UInt8 := (cStr ((List.range 50).map b)).take 49

theorem inspect_eq (node : Node) (stack : Stack) :
    node.inspect stack = (node.type stack).map fun type =>
      ⟨node.fd, (stack.name.receive (node.name.map DeviceName.bytes)).nameOf, type,
        node.range (rangeCodes type).1, node.range (rangeCodes type).2⟩ := rfl

structure Found where
  availableDevices : List InDevice
  opened : List Int
  deriving DecidableEq

def Found.visit (found : Found) (stack : Stack) (node : Node) : Found :=
  if node.dType = dtChr then
    if eventPrefix <+: node.dName then
      if node.fd ≠ -1 then
        match node.inspect stack with
        | some indev => ⟨found.availableDevices ++ [indev], found.opened ++ [node.fd]⟩
        | none => ⟨found.availableDevices, found.opened ++ [node.fd]⟩
      else found
    else found
  else found

/-- The devices and the descriptors of a directory; `prior` is what each iteration finds on the
stack. -/
def findDevices (prior : Nat → Stack) : Option (List Node) → Found
  | some nodes => nodes.zipIdx.foldl (fun found n => found.visit (prior n.2) n.1) ⟨[], []⟩
  | none => ⟨[], []⟩

/-- The entries for which a descriptor is obtained. -/
def Node.opens (node : Node) : Bool :=
  node.dType = dtChr ∧ eventPrefix <+: node.dName ∧ node.fd ≠ -1

def Node.device (node : Node) (stack : Stack) : Option InDevice :=
  if node.opens then node.inspect stack else none

/-- A device has the descriptor of its entry. -/
theorem inspect_of_device {node : Node} {stack : Stack} {device : InDevice}
    (found : node.device stack = some device) :
    node.opens = true ∧ node.fd = device.fd ∧ node.inspect stack = some device := by
  unfold Node.device at found
  split at found
  · rename_i opens
    rw [inspect_eq] at found
    obtain ⟨type, -, rfl⟩ := Option.map_eq_some_iff.mp found
    exact ⟨opens, rfl, found⟩
  · cases found

theorem visit_eq (found : Found) (stack : Stack) (node : Node) :
    found.visit stack node =
      ⟨found.availableDevices ++ (node.device stack).toList,
        found.opened ++ if node.opens then [node.fd] else []⟩ := by
  unfold Found.visit Node.device Node.opens
  by_cases character : node.dType = dtChr
  · by_cases event : eventPrefix <+: node.dName
    · by_cases opened : node.fd ≠ -1
      · cases node.inspect stack <;> simp [character, event, opened]
      · simp [character, event, opened]
    · simp [character, event]
  · simp [character]

theorem visits_eq (prior : Nat → Stack) (nodes : List (Node × Nat)) (found : Found) :
    nodes.foldl (fun found n => found.visit (prior n.2) n.1) found =
      ⟨found.availableDevices ++ nodes.filterMap fun n => n.1.device (prior n.2),
        found.opened ++ (nodes.filter fun n => n.1.opens).map fun n => n.1.fd⟩ := by
  induction nodes generalizing found with
  | nil => simp
  | cons n nodes ih =>
    rw [List.foldl_cons, ih, visit_eq]
    congr 1
    · cases seen : n.1.device (prior n.2) <;> simp [seen]
    · by_cases opens : n.1.opens = true <;> simp [opens]

/-- The devices are those of the entries, in their order. -/
theorem availableDevices_findDevices (prior : Nat → Stack) (nodes : List Node) :
    (findDevices prior (some nodes)).availableDevices =
      nodes.zipIdx.filterMap fun n => n.1.device (prior n.2) := by
  rw [findDevices, visits_eq]
  rfl

theorem opened_findDevices (prior : Nat → Stack) (nodes : List Node) :
    (findDevices prior (some nodes)).opened =
      (nodes.zipIdx.filter fun n => n.1.opens).map fun n => n.1.fd := by
  rw [findDevices, visits_eq]
  rfl

end TestRunner.Recorder
