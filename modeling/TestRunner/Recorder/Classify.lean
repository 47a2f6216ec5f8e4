import TestRunner.Recorder.Devices

/-! Which devices are found, and as what: the class of a device against its own bitmaps. -/
namespace TestRunner.Recorder

theorem filterMap_eq_iff {A B K : Type} {f g : A → Option B} {xs : List A} {key : A → K} {mark : B → K}
    (marked : ∀ a b, f a = some b ∨ g a = some b → mark b = key a) (nodup : (xs.map key).Nodup) :
    xs.filterMap f = xs.filterMap g ↔ ∀ a ∈ xs, f a = g a := by
  have fresh : ∀ {a : A} {xs : List A} {h : A → Option B} {b : B} {bs : List B},
      (∀ a b, h a = some b → mark b = key a) → mark b = key a → key a ∉ xs.map key →
      xs.filterMap h ≠ b :: bs := by
    intro a xs h b bs marked same new list
    obtain ⟨c, among, image⟩ := List.mem_filterMap.mp (list ▸ List.mem_cons_self : b ∈ xs.filterMap h)
    exact new (List.mem_map.mpr ⟨c, among, (marked c b image).symm.trans same⟩)
  constructor
  · induction xs with
    | nil => simp
    | cons a xs ih =>
      obtain ⟨new, rest⟩ := List.nodup_cons.mp nodup
      intro equal
      cases left : f a with
      | none =>
        cases right : g a with
        | none =>
          rw [List.filterMap_cons_none left, List.filterMap_cons_none right] at equal
          simpa [left, right] using ih rest equal
        | some b =>
          rw [List.filterMap_cons_none left, List.filterMap_cons_some right] at equal
          exact absurd equal (fresh (fun a b h => marked a b (.inl h)) (marked a b (.inr right)) new)
      | some b =>
        cases right : g a with
        | none =>
          rw [List.filterMap_cons_some left, List.filterMap_cons_none right] at equal
          exact absurd equal.symm
            (fresh (fun a b h => marked a b (.inr h)) (marked a b (.inl left)) new)
        | some c =>
          rw [List.filterMap_cons_some left, List.filterMap_cons_some right] at equal
          obtain ⟨same, equal⟩ := List.cons.inj equal
          simpa [left, right, same] using ih rest equal
  · exact List.filterMap_congr

def Bitmap.has {bits : Nat} (b : Bitmap bits) (n : UInt16) : Bool :=
  testBit (b.bytes[n.toNat / 8]?.getD 0) n

/-- A bitmap that was read is tested as it is. -/
theorem hasBit_receive {bits : Nat} (prior : Buffer) (b : Bitmap bits) {n : UInt16}
    (inside : n.toNat < bits) : (prior.receive (some b.bytes)).hasBit n = b.has n := by
  have short : n.toNat / 8 < b.bytes.length := by
    have whole := b.whole
    omega
  simp [Buffer.hasBit, Buffer.receive, Bitmap.has, List.getElem?_eq_getElem short]

/-- Only the bits below the two sizes are tested. -/
theorem classify_congr {deviceBits absBits deviceBits' absBits' : UInt16 → Bool}
    (device : ∀ n, n.toNat < evCnt → deviceBits n = deviceBits' n)
    (abs : deviceBits evAbs = true → ∀ n, n.toNat < absCnt → absBits n = absBits' n) :
    classify deviceBits absBits = classify deviceBits' absBits' := by
  unfold classify
  rw [← device evAbs (by decide), ← device evRel (by decide), ← device evKey (by decide),
    ← device absX (by decide), ← device absY (by decide)]
  by_cases touch : deviceBits evAbs = true
  · rw [abs touch absMtSlot (by decide), abs touch absMtTrackingId (by decide)]
  · simp [touch]

/-- An entry of the directory about which every call succeeds. -/
structure EventNode where
  dType : UInt8
  dName : List UInt8
  fd : Int
  name : DeviceName
  capabilities : Bitmap evCnt
  absCapabilities : Bitmap absCnt
  absRange : UInt16 → AbsInfo

def EventNode.node (e : EventNode) : Node where
  dType := e.dType
  dName := e.dName
  fd := e.fd
  name := some e.name
  capabilities := some e.capabilities
  absCapabilities := some e.absCapabilities
  absRange := fun code => some (e.absRange code)

/-- A character device with the right name that can be opened. -/
def EventNode.opens (e : EventNode) : Bool :=
  e.dType = dtChr ∧ eventPrefix <+: e.dName ∧ e.fd ≠ -1

/-- The class that the bitmaps of a device say it has. -/
def EventNode.type (e : EventNode) : Option DeviceType :=
  if e.capabilities.has evAbs then
    if e.absCapabilities.has absMtSlot && e.absCapabilities.has absMtTrackingId then
      some .multitouchscreen
    else if e.absCapabilities.has absX && e.absCapabilities.has absY then some .touchscreen
    else none
  else if e.capabilities.has evRel then some .mouse
  else if e.capabilities.has evKey then some .keyboard
  else none

/-- A device with its class, and the ranges of its axes if it is touched. -/
structure Classified where
  fd : Int
  type : DeviceType
  ranges : Option (AbsInfo × AbsInfo)
  deriving DecidableEq

def touched : DeviceType → Bool
  | .touchscreen | .multitouchscreen => true
  | _ => false

def InDevice.classified (d : InDevice) : Classified :=
  ⟨d.fd, d.type, if touched d.type then some (d.absRangeX, d.absRangeY) else none⟩

def EventNode.ranges (e : EventNode) : DeviceType → Option (AbsInfo × AbsInfo)
  | .multitouchscreen => some (e.absRange absMtPositionX, e.absRange absMtPositionY)
  | .touchscreen => some (e.absRange absX, e.absRange absY)
  | _ => none

def EventNode.expected (e : EventNode) : Option Classified :=
  if e.opens then e.type.map fun type => ⟨e.fd, type, e.ranges type⟩ else none

/-- What the code makes of an entry. -/
def EventNode.found (e : EventNode) : Option Classified :=
  if e.opens then
    (classify e.capabilities.has e.absCapabilities.has).map fun type => ⟨e.fd, type, e.ranges type⟩
  else none

/-- The code reads the bits of ABS_X and ABS_Y, which are those of EV_SYN and EV_KEY, from the
bitmap of event types. -/
def EventNode.Consistent (e : EventNode) : Prop :=
  e.capabilities.has evAbs = true →
    ¬ (e.absCapabilities.has absMtSlot = true ∧ e.absCapabilities.has absMtTrackingId = true) →
    (e.capabilities.has absX = true ∧ e.capabilities.has absY = true ↔
      e.absCapabilities.has absX = true ∧ e.absCapabilities.has absY = true)

instance (e : EventNode) : Decidable e.Consistent := inferInstanceAs (Decidable (_ → _ → _))

theorem device_node (e : EventNode) (stack : Stack) :
    (e.node.device stack).map InDevice.classified = e.found := by
  have bits := classify_congr
    (fun _ inside => hasBit_receive stack.deviceCapabilities e.capabilities inside)
    (fun _ _ inside => hasBit_receive stack.absCapabilities e.absCapabilities inside)
  have same : e.node.opens = e.opens := rfl
  unfold Node.device EventNode.found
  rw [same]
  by_cases opens : e.opens = true
  · rw [if_pos opens, if_pos opens, Node.inspect]
    simp only [EventNode.node, Option.map_some, bits, Option.map_map]
    congr 1
    funext type
    cases type <;> rfl
  · rw [if_neg opens, if_neg opens]
    rfl

/-- The devices that are found are those of the entries, whatever was on the stack. -/
theorem classified_findDevices (prior : Nat → Stack) (entries : List EventNode) :
    (findDevices prior (some (entries.map EventNode.node))).availableDevices.map
        InDevice.classified = entries.filterMap EventNode.found := by
  rw [availableDevices_findDevices, List.zipIdx_map, List.filterMap_map, List.map_filterMap]
  conv_rhs => rw [← List.zipIdx_map_fst 0 entries, List.filterMap_map]
  exact List.filterMap_congr fun n _ => device_node n.1 (prior n.2)

theorem found_eq_expected_iff (e : EventNode) :
    e.found = e.expected ↔ (e.opens = true → e.Consistent) := by
  unfold EventNode.found EventNode.expected EventNode.Consistent
  by_cases opens : e.opens = true
  · simp only [opens, if_true, forall_const, ← Bool.and_eq_true]
    unfold classify EventNode.type
    cases touch : e.capabilities.has evAbs with
    | false => simp
    | true =>
      cases multi : e.absCapabilities.has absMtSlot && e.absCapabilities.has absMtTrackingId with
      | true => simp [multi]
      | false =>
        cases device : e.capabilities.has absX && e.capabilities.has absY <;>
          cases abs : e.absCapabilities.has absX && e.absCapabilities.has absY <;>
            simp [multi, device]
  · simp [opens]

theorem filterMap_opens {f : EventNode → Option Classified} {entries : List EventNode}
    (closed : ∀ e, e.opens = false → f e = none) :
    entries.filterMap f = (entries.filter EventNode.opens).filterMap f := by
  rw [List.filterMap_filter]
  apply List.filterMap_congr
  intro e _
  cases opens : e.opens with
  | false => simp [closed e opens]
  | true => simp

theorem fd_classified {e : EventNode} {c : Classified}
    (listed : e.found = some c ∨ e.expected = some c) : c.fd = e.fd := by
  rcases listed with found | expected
  · unfold EventNode.found at found
    split at found
    · obtain ⟨type, -, rfl⟩ := Option.map_eq_some_iff.mp found
      rfl
    · cases found
  · unfold EventNode.expected at expected
    split at expected
    · obtain ⟨type, -, rfl⟩ := Option.map_eq_some_iff.mp expected
      rfl
    · cases expected

/-- The devices are exactly the openable event devices with the class and the ranges of their own
bitmaps if and only if, for each that is touched and is no multi-touch screen, the bits that are
read for its axes are those of its axes. Descriptors that are open together differ. -/
theorem devices_classified_iff (prior : Nat → Stack) (entries : List EventNode)
    (distinct : ((entries.filter EventNode.opens).map EventNode.fd).Nodup) :
    (findDevices prior (some (entries.map EventNode.node))).availableDevices.map
        InDevice.classified = entries.filterMap EventNode.expected ↔
      ∀ e ∈ entries, e.opens = true → e.Consistent := by
  have found : ∀ e : EventNode, e.opens = false → e.found = none := by
    intro e closed
    simp [EventNode.found, closed]
  have expected : ∀ e : EventNode, e.opens = false → e.expected = none := by
    intro e closed
    simp [EventNode.expected, closed]
  rw [classified_findDevices, filterMap_opens found, filterMap_opens expected,
    filterMap_eq_iff (fun e c => fd_classified) distinct]
  constructor
  · intro same e inside opens
    exact (found_eq_expected_iff e).mp (same e (List.mem_filter.mpr ⟨inside, opens⟩)) opens
  · intro consistent e inside
    obtain ⟨inside, opens⟩ := List.mem_filter.mp inside
    exact (found_eq_expected_iff e).mpr fun _ => consistent e inside opens

/-- An entry named event0 with the first byte of each bitmap and its ranges. -/
def eventNode (fd : Int) (capabilities absCapabilities : UInt8) (absRange : UInt16 → AbsInfo) :
    EventNode where
  dType := dtChr
  dName := eventPrefix ++ [0x30]
  fd := fd
  name := ⟨[0], .inl (by decide)⟩
  capabilities := ⟨[capabilities, 0, 0, 0], by simp [evCnt]⟩
  absCapabilities := ⟨[absCapabilities, 0, 0, 0, 0, 0, 0, 0], by simp [absCnt]⟩
  absRange := absRange

/-- The range 0 to 1920 of ABS_X and 0 to 1080 of ABS_Y. -/
def screenRange (code : UInt16) : AbsInfo := if code = absX then ⟨0, 1920⟩ else ⟨0, 1080⟩

def emptyStack : Stack := ⟨fun _ => 0, fun _ => 0, fun _ => 0⟩

theorem devices_classified_three :
    (findDevices (fun _ => emptyStack) (some ([eventNode 5 0x0b 0x03 screenRange,
        eventNode 6 0x07 0 screenRange, eventNode 7 0x03 0 screenRange].map
          EventNode.node))).availableDevices.map InDevice.classified =
      [⟨5, .touchscreen, some (⟨0, 1920⟩, ⟨0, 1080⟩)⟩, ⟨6, .mouse, none⟩, ⟨7, .keyboard, none⟩] :=
  ((devices_classified_iff _ _ (by decide)).mpr (by decide)).trans (by decide)

/-- A device with keys and other axes is listed as a touch screen, and one with both axes and no
keys is skipped. -/
theorem devices_misread :
    (findDevices (fun _ => emptyStack) (some ([eventNode 5 0x0b 0x18 screenRange].map
        EventNode.node))).availableDevices.map InDevice.classified =
      [⟨5, .touchscreen, some (⟨0, 1920⟩, ⟨0, 1080⟩)⟩] ∧
    [eventNode 5 0x0b 0x18 screenRange].filterMap EventNode.expected = [] ∧
    (findDevices (fun _ => emptyStack) (some ([eventNode 6 0x09 0x03 screenRange].map
        EventNode.node))).availableDevices.map InDevice.classified = [] ∧
    [eventNode 6 0x09 0x03 screenRange].filterMap EventNode.expected =
      [⟨6, .touchscreen, some (⟨0, 1920⟩, ⟨0, 1080⟩)⟩] := by
  decide

end TestRunner.Recorder
