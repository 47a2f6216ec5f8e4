import TestRunner.Recorder.Classify
import TestRunner.Recorder.Files
import TestRunner.Server.Capabilities
import TestRunner.Server.Replay

/-! A session recorded, replayed on the virtual devices, and recorded there again. -/
namespace TestRunner.Server

open Recorder

variable {X Y : Type}

/-- What a recording tells of an event but for its time and keysym. -/
def recordTold (r : InputRecord) : DeviceType × Int × Int × Int := (r.devType, recordNumbers r)
def readingTold (e : Reading) : DeviceType × Int × Int × Int := (e.device.type, eventNumbers e.ev)

section Session

variable {cfg : Config X} {s s' : Recorder.State X} {as : List Recorder.Action}

theorem told_record (e : Reading) (keysym : UInt32) : recordTold (e.record keysym) = readingTold e :=
  rfl

theorem told_hear (xkb : Xkb X) (h : Heard X) (events : List Reading) :
    (events.foldl (Heard.hear xkb) h).records.map recordTold =
      h.records.map recordTold ++
        (recorded events).map fun e => readingTold e.transformed := by
  induction events generalizing h with
  | nil => simp [recorded]
  | cons e events ih =>
    rw [List.foldl_cons, ih]
    unfold Heard.hear
    cases esc : e.ev.isEsc with
    | true => simp [recorded, esc]
    | false => simp [recorded, esc, told_record]

/-- The file of a fixed-length session tells the events that it read, transformed, but for ESC. -/
theorem session_told (fixed : cfg.mContinuous = false) (session : Session cfg s as s') :
    ∃ start records, s'.cmdFile cfg.mFilename = some (recording start records) ∧
      records.map recordTold =
        ((recorded (readings cfg s as)).map Reading.transformed).map readingTold := by
  obtain ⟨start, file⟩ := session.stored.written fixed (by rw [session.ends]; rfl)
  refine ⟨start, _, file, ?_⟩
  rw [List.map_map]
  exact told_hear cfg.xkb ⟨s.mXkbState, []⟩ (readings cfg s as)

theorem Session.reads (session : Session cfg s as s') :
    ∀ e ∈ readings cfg s as, e.device ∈ cfg.availableDevices := by
  obtain ⟨xkb, now, before, reached⟩ := session.reached
  have reads : Reads cfg s := run_invariant reached (reads_initial xkb now)
    fun _ _ _ _ stepped reads => reads_step reads (step_move stepped).2
  exact reads_run reads

/-- Records that tell events of known devices with values of an `int` can be replayed. -/
theorem recordable_of_told {records : List InputRecord} {events : List Reading}
    (told : records.map recordTold = events.map readingTold)
    (known : ∀ e ∈ events, e.device.type ≠ .unknown ∧ FitsInt e.ev.value) :
    ∀ r ∈ records, Recordable r := by
  intro r inside
  have among : recordTold r ∈ events.map readingTold := told ▸ List.mem_map_of_mem inside
  obtain ⟨e, read, same⟩ := List.mem_map.mp among
  obtain ⟨type, value⟩ := known e read
  have typeLt := e.ev.type.toNat_lt
  have codeLt := e.ev.code.toNat_lt
  simp only [readingTold, recordTold, eventNumbers, recordNumbers, Prod.mk.injEq] at same
  obtain ⟨device, number, code, val⟩ := same
  refine ⟨device ▸ type, ?_, ?_, val ▸ value⟩
  · omega
  · omega

/-- The events that a session records, as they are recorded. -/
theorem session_fits (session : Session cfg s as s')
    (known : ∀ d ∈ cfg.availableDevices, d.type ≠ .unknown)
    (fits : ∀ e ∈ readings cfg s as, FitsInt e.transformed.ev.value) :
    ∀ e ∈ (recorded (readings cfg s as)).map Reading.transformed,
      e.device.type ≠ .unknown ∧ FitsInt e.ev.value := by
  intro e inside
  obtain ⟨raw, read, rfl⟩ := List.mem_map.mp inside
  have here := (List.mem_filter.mp read).1
  exact ⟨known _ (Session.reads session raw here), fits raw here⟩

theorem kept_of_told {records : List InputRecord} {events : List Reading}
    (told : records.map recordTold = ((recorded events).map Reading.transformed).map readingTold) :
    ∀ r ∈ records, ∃ ev, recordNumbers r = eventNumbers ev ∧ ev.isEsc = false := by
  intro r inside
  have among : recordTold r ∈ ((recorded events).map Reading.transformed).map readingTold :=
    told ▸ List.mem_map_of_mem inside
  obtain ⟨e, listed, same⟩ := List.mem_map.mp among
  obtain ⟨raw, read, rfl⟩ := List.mem_map.mp listed
  have esc : raw.ev.isEsc = false := by simpa using (List.mem_filter.mp read).2
  exact ⟨_, (congrArg Prod.snd same).symm, (transformEvent_isEsc raw.device raw.ev).trans esc⟩

theorem filter_told {records : List InputRecord} {events : List Reading}
    (told : records.map recordTold = events.map readingTold) (n : Nat) :
    (records.filter (·.devType.number = n)).map recordNumbers =
      (events.filter (·.device.type.number = n)).map fun e => eventNumbers e.ev := by
  have sides := congrArg (fun l => (l.filter fun t => t.1.number = n).map Prod.snd) told
  simp only [List.filter_map, List.map_map, Function.comp_def, recordTold, readingTold] at sides
  exact sides

/-- The file of a fixed-length session is read back and its replay writes to each virtual device
what the session read from the devices of its type, in order, transformed and without ESC. -/
theorem record_replay (cfg : Config X) (s s' : Recorder.State X) (as : List Recorder.Action)
    (fixed : cfg.mContinuous = false) (session : Session cfg s as s')
    (known : ∀ d ∈ cfg.availableDevices, d.type ≠ .unknown)
    (fits : ∀ e ∈ readings cfg s as, FitsInt e.transformed.ev.value)
    (mDeviceFd : VirtualDevice → Int) (opened : ∀ device, 0 ≤ mDeviceFd device)
    (distinct : Function.Injective mDeviceFd) :
    ∃ lines file, s'.cmdFile cfg.mFilename = some lines ∧ decodeFile (fileText lines) = some file ∧
      ∀ device, (delivered (mDeviceFd device) (replay mDeviceFd file.lines)).map eventNumbers =
        ((recorded (readings cfg s as)).filter (·.device.type.number = device.number)).map
          fun e => eventNumbers e.transformed.ev := by
  obtain ⟨start, records, file, told⟩ := session_told fixed session
  refine ⟨_, _, file, decodeFile_recording start records, fun device => ?_⟩
  have recordable := recordable_of_told told (session_fits session known fits)
  rw [replay_records recordable opened distinct device, filter_told told]
  rw [List.filter_map, List.map_map]
  rfl

/-- The key of a session comes to the virtual keyboard. -/
theorem record_replay_key : ∃ s s' lines file,
    Session (keyboardRecorder false 30000) s printedKey s' ∧
    s'.cmdFile "rec" = some lines ∧ decodeFile (fileText lines) = some file ∧
    ∀ device, (delivered (fourDevices.mDeviceFd device)
        (replay fourDevices.mDeviceFd file.lines)).map eventNumbers =
      ((recorded (readings (keyboardRecorder false 30000) s printedKey)).filter
        (·.device.type.number = device.number)).map fun e => eventNumbers e.transformed.ev :=
  have printed : Session (keyboardRecorder false 30000) _ printedKey _ :=
    ⟨⟨some (), 0, enterLoop.take 2, Option.eq_some_of_isSome (by decide)⟩, by decide,
      Option.eq_some_of_isSome (by decide), by decide, by decide⟩
  have ⟨lines, file, told⟩ := record_replay _ _ _ _ rfl printed (by decide) (by decide)
    fourDevices.mDeviceFd (by intro device; cases device <;> decide)
    (by intro a b same; cases a <;> cases b <;> first | rfl | cases same)
  ⟨_, _, lines, file, printed, told⟩

end Session

section Rerecord

/-- The class that a recorder gives to a virtual device. -/
def VirtualDevice.type : VirtualDevice → DeviceType
  | .mouse => .mouse
  | .keyboard => .keyboard
  | .touchscreen => .touchscreen
  | .multiTouchscreen => .multitouchscreen

/-- The event node of a virtual device answers as the setup function has declared the device, and
every device has reports. -/
structure Exposed (device : VirtualDevice) (node : Node) : Prop where
  opens : node.opens = true
  capabilities : ∃ b, node.capabilities = some b ∧ b.has evSyn = true ∧
    ∀ type, type ≠ evSyn → type.toNat < evCnt →
      (b.has type = true ↔ .uiSetEvbit type ∈ setupRequests device)
  absCapabilities : ∃ b, node.absCapabilities = some b ∧ ∀ code, code.toNat < absCnt →
    (b.has code = true ↔ .uiSetAbsbit code ∈ setupRequests device)
  absRange : ∀ code absinfo, .uiAbsSetup code absinfo ∈ setupRequests device →
    node.absRange code = some absinfo

/-- The device of the list that is read in place of a virtual one. -/
structure Represents (device : VirtualDevice) (d : InDevice) : Prop where
  type : d.type = device.type
  range : device = .touchscreen ∨ device = .multiTouchscreen →
    ∀ axis, d.absRange axis = ⟨0, axis.limit⟩

variable {device : VirtualDevice} {node : Node} {d : InDevice}

/- The event types and the absolute axes that the setup functions enable. -/
def VirtualDevice.evTypes : VirtualDevice → List UInt16
  | .mouse => [evRel, evKey]
  | .keyboard => [evKey]
  | .touchscreen | .multiTouchscreen => [evKey, evAbs]

def VirtualDevice.absCodes : VirtualDevice → List UInt16
  | .mouse | .keyboard => []
  | .touchscreen => [absX, absY]
  | .multiTouchscreen => [absMtSlot, absMtTrackingId, absMtPositionX, absMtPositionY]

theorem evbit_mem (device : VirtualDevice) (type : UInt16) :
    .uiSetEvbit type ∈ setupRequests device ↔ type ∈ device.evTypes := by
  cases device <;>
    simp [setupRequests, mouseRequests, keyboardRequests, touchscreenRequests,
      multiTouchscreenRequests, uinputSetup, VirtualDevice.evTypes]

theorem absbit_mem (device : VirtualDevice) (code : UInt16) :
    .uiSetAbsbit code ∈ setupRequests device ↔ code ∈ device.absCodes := by
  cases device <;>
    simp [setupRequests, mouseRequests, keyboardRequests, touchscreenRequests,
      multiTouchscreenRequests, uinputSetup, VirtualDevice.absCodes]

theorem exposed_type (exposed : Exposed device node) (stack : Stack) :
    node.type stack = some device.type := by
  obtain ⟨b, read, syn, types⟩ := exposed.capabilities
  obtain ⟨c, abs, codes⟩ := exposed.absCapabilities
  have event := fun n inside => hasBit_receive stack.deviceCapabilities b (n := n) inside
  have axis := fun n inside => hasBit_receive stack.absCapabilities c (n := n) inside
  have absBit := (types evAbs (by decide) (by decide)).trans (evbit_mem device evAbs)
  have relBit := (types evRel (by decide) (by decide)).trans (evbit_mem device evRel)
  have keyBit := (types evKey (by decide) (by decide)).trans (evbit_mem device evKey)
  have slot := (codes absMtSlot (by decide)).trans (absbit_mem device absMtSlot)
  have tracking := (codes absMtTrackingId (by decide)).trans (absbit_mem device absMtTrackingId)
  have x : b.has absX = true := syn
  have y : b.has absY = true := keyBit.mpr (by cases device <;> decide)
  unfold Node.type classify
  simp only [read, abs, Option.map_some, event evAbs (by decide), event evRel (by decide),
    event evKey (by decide), event absX (by decide), event absY (by decide),
    axis absMtSlot (by decide), axis absMtTrackingId (by decide), x, y]
  cases device <;>
    simp_all [VirtualDevice.type, VirtualDevice.evTypes, VirtualDevice.absCodes, evAbs, evRel, evKey,
      absMtSlot, absMtTrackingId, absX, absY, absMtPositionX, absMtPositionY]

/-- The recorder lists a virtual device under its own class, with the ranges it was given. -/
theorem exposed_device (exposed : Exposed device node) (stack : Stack) :
    ∃ d, node.device stack = some d ∧ d.fd = node.fd ∧ Represents device d := by
  have found : node.device stack = some ⟨node.fd,
      (stack.name.receive (node.name.map DeviceName.bytes)).nameOf, device.type,
      node.range (rangeCodes device.type).1, node.range (rangeCodes device.type).2⟩ := by
    rw [Node.device, if_pos exposed.opens, inspect_eq, exposed_type exposed stack]
    rfl
  refine ⟨_, found, rfl, rfl, fun touch axis => ?_⟩
  have range := exposed.absRange
  rcases touch with rfl | rfl
  · have x := range absX ⟨0, virtualMultitouchAbsXMax⟩ (by decide)
    have y := range absY ⟨0, virtualMultitouchAbsYMax⟩ (by decide)
    cases axis <;>
      simp [InDevice.absRange, Node.range, rangeCodes, VirtualDevice.type, x, y, Axis.limit]
  · have x := range absMtPositionX ⟨0, virtualMultitouchAbsXMax⟩ (by decide)
    have y := range absMtPositionY ⟨0, virtualMultitouchAbsYMax⟩ (by decide)
    cases axis <;>
      simp [InDevice.absRange, Node.range, rangeCodes, VirtualDevice.type, x, y, Axis.limit]

theorem transformAxis_own {limit val : Int} (pos : 0 < limit) (fits : FitsInt val) :
    transformAxis Binary64.round ⟨0, limit⟩ limit val = val := by
  have whole : ((limit : ℚ) / limit) = 1 := div_self (by exact_mod_cast pos.ne')
  have one : Binary64.round 1 = 1 := by exact_mod_cast Binary64.round_intCast 1 (by norm_num)
  have small : |val| < 2 ^ 53 := by
    unfold FitsInt at fits
    rw [abs_lt]
    omega
  simp [transformAxis, pos, whole, one, Binary64.round_intCast val small, truncate]

/-- A declared event of a virtual device is recorded with the value that it has. -/
theorem transformEvent_own (represents : Represents device d) {ev : InputEvent}
    (declared : ev.type = evSyn ∨ Declared device ev.type ev.code) (fits : FitsInt ev.value) :
    transformEvent d ev = ev := by
  unfold transformEvent transformEventWith
  by_cases abs : ev.type = evAbs
  · have touch : device = .touchscreen ∨ device = .multiTouchscreen := by
      rcases declared with syn | ⟨enabled, -⟩
      · rw [abs] at syn
        cases syn
      · rw [abs, evbit_mem] at enabled
        cases device <;> simp_all [VirtualDevice.evTypes, evAbs, evRel, evKey]
    have same : ∀ axis, transformTouchCoordinates Binary64.round d ev.value axis = ev.value := by
      intro axis
      rw [transformTouchCoordinates_eq, represents.range touch axis]
      exact transformAxis_own axis.limit_pos fits
    simp only [if_pos abs, same]
    split
    · rfl
    · split <;> rfl
  · rw [if_neg abs]

/-- An event that was written to a virtual device and is read from its event node. -/
def Returns (mDeviceFd : VirtualDevice → Int) (node : VirtualDevice → Node) (e : Reading)
    (w : Write) : Prop :=
  ∃ device, w.fd = mDeviceFd device ∧ e.device.fd = (node device).fd ∧ e.ev = w.ev ∧
    (w.ev.type = evSyn ∨ Declared device w.ev.type w.ev.code)

/-- A pass-through of a record writes what it tells to the device of its class. -/
def Writes (mDeviceFd : VirtualDevice → Int) (w : Write) (r : InputRecord) : Prop :=
  ∃ device, w.fd = mDeviceFd device ∧ recordTold r = (device.type, eventNumbers w.ev) ∧
    w.ev.isEsc = false ∧ FitsInt w.ev.value

theorem isEsc_of_numbers {a b : InputEvent} (same : eventNumbers a = eventNumbers b) :
    a.isEsc = b.isEsc := by
  simp only [eventNumbers, Prod.mk.injEq, Int.natCast_inj, UInt16.toNat_inj] at same
  obtain ⟨type, code, -⟩ := same
  rw [InputEvent.isEsc, InputEvent.isEsc, type, code]

theorem type_number (device : VirtualDevice) : device.type.number = device.number := by
  cases device <;> rfl

theorem replay_writes {mDeviceFd : VirtualDevice → Int} {records : List InputRecord}
    (recordable : ∀ r ∈ records, Recordable r) (opened : ∀ device, 0 ≤ mDeviceFd device)
    (kept : ∀ r ∈ records, ∃ ev, recordNumbers r = eventNumbers ev ∧ ev.isEsc = false) :
    List.Forall₂ (Writes mDeviceFd) (replay mDeviceFd (records.map InputRecord.decoded)) records := by
  induction records with
  | nil => exact .nil
  | cons r records ih =>
    obtain ⟨told, numbers, esc⟩ := kept r (by simp)
    have known := (VirtualDevice.ofNumber_isSome _).mpr (number_lt_four (recordable r (by simp)).device)
    obtain ⟨own, named⟩ := Option.isSome_iff_exists.mp known
    obtain ⟨ev, written, same⟩ := handlePassThrough_record (recordable r (by simp)) named (opened own)
    have own_class : r.devType = own.type := by
      apply DeviceType.number_injective
      rw [type_number]
      exact ofNumber_eq_some.mp named
    have rest := ih (fun r inside => recordable r (by simp [inside]))
      fun r inside => kept r (by simp [inside])
    have other : ev.isEsc = false := (isEsc_of_numbers (same.trans numbers)).trans esc
    change List.Forall₂ _ (handlePassThrough mDeviceFd (lineRequest r.decoded) ++ _) _
    rw [written]
    have value : ev.value = r.inputVal := congrArg (·.2.2) same
    have fits : FitsInt ev.value := value ▸ (recordable r (by simp)).value
    exact .cons ⟨own, rfl, by rw [recordTold, own_class, same], other, fits⟩ rest

/-- What was lost of the middle list is lost of the last one. -/
theorem sublistForall₂_comp {A B C : Type*} {R : A → B → Prop} {S : B → C → Prop} {T : A → C → Prop}
    {xs : List A} {ys : List B} {zs : List C} (first : List.SublistForall₂ R xs ys)
    (second : List.Forall₂ S ys zs) (compose : ∀ x ∈ xs, ∀ y z, R x y → S y z → T x z) :
    List.SublistForall₂ T xs zs := by
  induction first generalizing zs with
  | nil => exact .nil
  | cons here rest ih =>
    cases second with
    | cons there later =>
      exact .cons (compose _ (by simp) _ _ here there)
        (ih later fun x inside => compose x (by simp [inside]))
  | cons_right rest ih =>
    cases second with
    | cons there later => exact .cons_right (ih later compose)

theorem exists_of_sublistForall₂ {A B : Type*} {R : A → B → Prop} {xs : List A} {ys : List B}
    (h : List.SublistForall₂ R xs ys) : ∀ x ∈ xs, ∃ y, R x y := by
  induction h with
  | nil => simp
  | cons here rest ih => exact List.forall_mem_cons.mpr ⟨⟨_, here⟩, ih⟩
  | cons_right rest ih => exact ih

theorem sublist_of_forall₂ {A B C : Type*} {R : A → B → Prop} {f : A → C} {g : B → C} {xs : List A}
    {ys : List B} (h : List.SublistForall₂ R xs ys) (same : ∀ x y, R x y → f x = g y) :
    (xs.map f).Sublist (ys.map g) := by
  induction h with
  | nil => exact List.nil_sublist _
  | cons here rest ih =>
    rw [List.map_cons, List.map_cons, same _ _ here]
    exact ih.cons_cons _
  | cons_right rest ih => exact ih.cons _

/-- The number of its device, the type, the code and the value. -/
def Decoded.event (line : Decoded) : Int × Int × Int × Int :=
  (line.device, line.type, line.code, line.value)

theorem event_decoded (records : List InputRecord) :
    (records.map InputRecord.decoded).map Decoded.event =
      (records.map recordTold).map fun t => ((t.1.number : Int), t.2) := by
  simp only [List.map_map]
  rfl

section Reread

variable {cfg : Config X} {s : Recorder.State X} {as : List Recorder.Action} {prior : Nat → Stack}
  {nodes : List Node} {node : VirtualDevice → Node}

/-- A device of the recorder with the descriptor of a virtual one's event node stands for it. -/
theorem represents_of_fd (found : cfg.availableDevices = (findDevices prior (some nodes)).availableDevices)
    (exposed : ∀ device, Exposed device (node device) ∧ node device ∈ nodes) {d : InDevice}
    (among : d ∈ cfg.availableDevices) {device : VirtualDevice} (own : d.fd = (node device).fd) :
    Represents device d := by
  obtain ⟨n, listed⟩ := List.mem_iff_getElem?.mp (exposed device).2
  obtain ⟨e, shown, number, represents⟩ := exposed_device (exposed device).1 (prior n)
  have inside : e ∈ cfg.availableDevices := by
    rw [found, availableDevices_findDevices]
    exact List.mem_filterMap.mpr ⟨_, List.mk_mem_zipIdx_iff_getElem?.mpr listed, shown⟩
  have same : d = e := List.inj_on_of_nodup_map cfg.distinct among inside (own.trans number.symm)
  exact same ▸ represents

/-- What is read from the event node of a virtual device is told as it was written. -/
theorem told_returned (found : cfg.availableDevices = (findDevices prior (some nodes)).availableDevices)
    (exposed : ∀ device, Exposed device (node device) ∧ node device ∈ nodes)
    {mDeviceFd : VirtualDevice → Int} (distinct : Function.Injective mDeviceFd) {e : Reading}
    (among : e.device ∈ cfg.availableDevices) {w : Write} {r : InputRecord}
    (returned : Returns mDeviceFd node e w) (written : Writes mDeviceFd w r) :
    readingTold e.transformed = recordTold r ∧ e.ev.isEsc = false := by
  obtain ⟨device, fd, own, ev, declared⟩ := returned
  obtain ⟨device', fd', told, esc, fits⟩ := written
  cases distinct (fd.symm.trans fd')
  have represents := represents_of_fd found exposed among own
  have raw : e.transformed = e := by
    rw [Reading.transformed, transformEvent_own represents (ev ▸ declared) (ev ▸ fits)]
  refine ⟨?_, by rw [ev, esc]⟩
  rw [raw, told, readingTold, ev, represents.type]

/-- A session that reads what comes back of a replay records it with the numbers that it had. -/
theorem rerecord_same (cfg : Config X) (cfg' : Config Y) (s s' : Recorder.State X)
    (t t' : Recorder.State Y) (as bs : List Recorder.Action) (fixed : cfg.mContinuous = false)
    (fixed' : cfg'.mContinuous = false) (first : Session cfg s as s') (again : Session cfg' t bs t')
    (known : ∀ d ∈ cfg.availableDevices, d.type ≠ .unknown)
    (fits : ∀ e ∈ readings cfg s as, FitsInt e.transformed.ev.value)
    (mDeviceFd : VirtualDevice → Int) (opened : ∀ device, 0 ≤ mDeviceFd device)
    (distinct : Function.Injective mDeviceFd) (prior : Nat → Stack) (nodes : List Node)
    (node : VirtualDevice → Node)
    (found : cfg'.availableDevices = (findDevices prior (some nodes)).availableDevices)
    (exposed : ∀ device, Exposed device (node device) ∧ node device ∈ nodes)
    (lines : List Line) (file : DecodedFile) (written : s'.cmdFile cfg.mFilename = some lines)
    (read : decodeFile (fileText lines) = some file)
    (back : List.SublistForall₂ (Returns mDeviceFd node) (readings cfg' t bs)
      (replay mDeviceFd file.lines)) :
    ∃ lines' file', t'.cmdFile cfg'.mFilename = some lines' ∧
      decodeFile (fileText lines') = some file' ∧
      (file'.lines.map Decoded.event).Sublist (file.lines.map Decoded.event) := by
  obtain ⟨start, records, file₁, told⟩ := session_told fixed first
  cases Option.some.inj (file₁.symm.trans written)
  cases Option.some.inj ((decodeFile_recording start records).symm.trans read)
  obtain ⟨start', records', file₂, told'⟩ := session_told fixed' again
  refine ⟨_, _, file₂, decodeFile_recording start' records', ?_⟩
  have recordable := recordable_of_told told (session_fits first known fits)
  have writes := replay_writes recordable opened (kept_of_told told)
  have returned : List.SublistForall₂
      (fun e r => readingTold e.transformed = recordTold r ∧ e.ev.isEsc = false)
      (readings cfg' t bs) records := by
    refine sublistForall₂_comp back writes fun e among w r comes goes => ?_
    exact told_returned found exposed distinct (Session.reads again e among) comes goes
  have all : recorded (readings cfg' t bs) = readings cfg' t bs := by
    refine List.filter_eq_self.mpr fun e among => ?_
    obtain ⟨r, -, esc⟩ := exists_of_sublistForall₂ returned e among
    simp [esc]
  have sub : ((readings cfg' t bs).map fun e => readingTold e.transformed).Sublist
      (records.map recordTold) := sublist_of_forall₂ returned fun e r both => both.1
  rw [all, List.map_map] at told'
  change ((records'.map _).map _).Sublist ((records.map _).map _)
  rw [event_decoded, event_decoded, told']
  exact sub.map _

/-- The event node of a virtual device. -/
def virtualNode (device : VirtualDevice) : Node where
  dType := dtChr
  dName := eventPrefix
  fd := 4 + device.number
  name := some ⟨[0x56, 0], .inl (by decide)⟩
  capabilities := some ⟨[if device = .mouse then 0x07 else if device = .keyboard then 0x03 else 0x0b,
    0, 0, 0], by simp [evCnt]⟩
  absCapabilities := some ⟨if device = .touchscreen then [0x03, 0, 0, 0, 0, 0, 0, 0]
    else if device = .multiTouchscreen then [0, 0, 0, 0, 0, 0x80, 0x60, 0x02]
    else [0, 0, 0, 0, 0, 0, 0, 0], by cases device <;> simp [absCnt]⟩
  absRange code :=
    if code = absX ∨ code = absMtPositionX then some ⟨0, virtualMultitouchAbsXMax⟩
    else if code = absY ∨ code = absMtPositionY then some ⟨0, virtualMultitouchAbsYMax⟩
    else if code = absMtSlot then some ⟨0, 4⟩ else none

theorem exposed_virtualNode (device : VirtualDevice) : Exposed device (virtualNode device) := by
  have small : ∀ (p : UInt16 → Prop) (m : Nat), (∀ n < m, p (UInt16.ofNat n)) →
      ∀ code : UInt16, code.toNat < m → p code := by
    intro p m all code inside
    simpa using all code.toNat inside
  refine ⟨by cases device <;> decide, ⟨_, rfl, by cases device <;> decide, ?_⟩, ⟨_, rfl, ?_⟩, ?_⟩
  · intro type other inside
    rw [evbit_mem]
    revert other
    revert type
    refine small _ _ ?_
    cases device <;> decide
  · intro code
    rw [absbit_mem]
    revert code
    refine small _ _ ?_
    cases device <;> decide
  · intro code absinfo given
    cases device with
    | mouse | keyboard =>
      simp [setupRequests, mouseRequests, keyboardRequests, uinputSetup] at given
    | touchscreen =>
      simp [setupRequests, touchscreenRequests, uinputSetup] at given
      rcases given with ⟨rfl, rfl⟩ | ⟨rfl, rfl⟩ <;> decide
    | multiTouchscreen =>
      simp [setupRequests, multiTouchscreenRequests, uinputSetup] at given
      rcases given with ⟨rfl, rfl⟩ | ⟨rfl, rfl⟩ | ⟨rfl, rfl⟩ <;> decide

/-- A recorder over the four virtual devices. -/
def virtualRecorder : Config Unit where
  mFilename := "again"
  mRecordingLength := 30000
  mContinuous := false
  availableDevices :=
    (findDevices (fun _ => emptyStack) (some (allDevices.map virtualNode))).availableDevices
  distinct := by decide
  xkb := ⟨fun _ code => UInt32.ofNat code, fun x _ _ => x⟩
  fileTimestamp := fun _ => "t"

/-- The key of `printedKey`, read from the virtual keyboard. -/
def printedAgain : List Recorder.Action :=
  List.flatten [enterLoop.drop 2, [.tick 1000, .record .elapsedNow, .record .elapsedCheck,
    .record (.select (.ready [5]) 0), .record (.read (.event ⟨evKey, 30, 1⟩)), .record .keysym,
    .record .updateKey, .record .store, .record .load],
    [.tick 30000, .record .elapsedNow, .record .elapsedCheck]]

theorem rerecord_same_key : ∃ s s' t t' lines file lines' file',
    Session (keyboardRecorder false 30000) s printedKey s' ∧ Session virtualRecorder t printedAgain t' ∧
    s'.cmdFile "rec" = some lines ∧ decodeFile (fileText lines) = some file ∧
    t'.cmdFile "again" = some lines' ∧ decodeFile (fileText lines') = some file' ∧
    (file'.lines.map Decoded.event).Sublist (file.lines.map Decoded.event) :=
  have printed : Session (keyboardRecorder false 30000) _ printedKey _ :=
    ⟨⟨some (), 0, enterLoop.take 2, Option.eq_some_of_isSome (by decide)⟩, by decide,
      Option.eq_some_of_isSome (by decide), by decide, by decide⟩
  have again : Session virtualRecorder _ printedAgain _ :=
    ⟨⟨some (), 0, enterLoop.take 2, Option.eq_some_of_isSome (by decide)⟩, by decide,
      Option.eq_some_of_isSome (by decide), by decide, by decide⟩
  have file := decodeFile_recording 0 [⟨1000, .keyboard, 1, 30, 1, 38⟩]
  have declared : Declared .keyboard evKey 30 :=
    ⟨(evbit_mem .keyboard evKey).mpr (by decide), _, rfl,
      (keybit_mem_keyboard 30).mpr (mem_evdevCodes.mpr (by decide))⟩
  have ⟨lines', file', same⟩ := rerecord_same _ _ _ _ _ _ _ _ rfl rfl printed again (by decide)
    (by decide) fourDevices.mDeviceFd (by intro device; cases device <;> decide)
    (by intro a b same; cases a <;> cases b <;> first | rfl | cases same)
    (fun _ => emptyStack) (allDevices.map virtualNode) virtualNode rfl
    (fun device => ⟨exposed_virtualNode device, by cases device <;> simp [allDevices]⟩)
    (recording 0 [⟨1000, .keyboard, 1, 30, 1, 38⟩]) _ (by decide) file
    (.cons ⟨.keyboard, by decide, by decide, by decide, .inr declared⟩ .nil)
  ⟨_, _, _, _, _, _, lines', file', printed, again, by decide, file, same⟩

end Reread

end Rerecord

end TestRunner.Server
