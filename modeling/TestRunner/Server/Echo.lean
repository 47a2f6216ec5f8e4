import TestRunner.Server.Playback

/-! Input that clients inject, recorded from the virtual devices and played back into them. -/
namespace TestRunner.Server

open Recorder

variable {X : Type}

/-- What was read from the event node of a virtual device. -/
def readFrom (node : VirtualDevice → Node) (device : VirtualDevice) (events : List Reading) :
    List InputEvent :=
  (events.filter (·.device.fd = (node device).fd)).map Reading.ev

/-- The kernel hands out at the event node of a virtual device what was written to the device, or
less of it, and nothing that the device has not declared. Nothing else is read. -/
structure Echoes (mDeviceFd : VirtualDevice → Int) (node : VirtualDevice → Node)
    (writes : List Write) (events : List Reading) : Prop where
  virtual : ∀ e ∈ events, ∃ device, e.device.fd = (node device).fd
  part : ∀ device, (readFrom node device events).Sublist (delivered (mDeviceFd device) writes)
  declared : ∀ e ∈ events, ∀ device, e.device.fd = (node device).fd →
    e.ev.type = evSyn ∨ Declared device e.ev.type e.ev.code

theorem fitsInt_toInt (value : Int32) : FitsInt value.toInt :=
  ⟨Int32.le_toInt value, Int32.toInt_lt value⟩

theorem fitsInt_bool (pressed : Bool) : FitsInt pressed.toInt := by
  cases pressed <;> decide

theorem fits_emit {fd val : Int} {type code : UInt16} (fits : FitsInt val) :
    ∀ w ∈ emit fd type code val, FitsInt w.ev.value := by
  intro w written
  unfold emit at written
  split at written
  · cases List.mem_singleton.mp written
    exact fits
  · cases written

theorem fits_emitTouch (fd : Int) (touch : MultiTouch) :
    ∀ w ∈ emitTouch fd touch, FitsInt w.ev.value := by
  have slot : FitsInt touch.slot.toInt := by
    have low := Int8.le_toInt touch.slot
    have high := Int8.toInt_lt touch.slot
    constructor <;> omega
  have tracking : FitsInt touch.trackingId.toInt := by
    have low := Int16.le_toInt touch.trackingId
    have high := Int16.toInt_lt touch.trackingId
    constructor <;> omega
  intro w written
  simp only [emitTouch, List.mem_append] at written
  rcases written with (here | here) | here
  · exact fits_emit slot w here
  · split at here
    · exact fits_emit tracking w here
    · cases here
  · split at here
    · rcases List.mem_append.mp here with x | y
      · exact fits_emit (fitsInt_toInt _) w x
      · exact fits_emit (fitsInt_toInt _) w y
    · cases here

theorem fits_singleTouch (mDeviceFd : VirtualDevice → Int) (touch : SingleTouch) :
    ∀ w ∈ handleSingleTouch mDeviceFd touch, FitsInt w.ev.value := by
  intro w written
  simp only [handleSingleTouch, List.mem_append] at written
  rcases written with ((here | here) | here) | here
  · split at here
    · exact fits_emit (fitsInt_toInt _) w here
    · cases here
  · split at here
    · exact fits_emit (fitsInt_toInt _) w here
    · cases here
  · exact fits_emit (fitsInt_bool _) w here
  · exact fits_emit (by decide) w here

/-- The values that a handler writes are those of its request. -/
theorem fits_handle (server : TestRunnerServer) (request : Request) :
    ∀ w ∈ server.handle request, FitsInt w.ev.value := by
  have report : ∀ fd, ∀ w ∈ emit fd evSyn synReport 0, FitsInt w.ev.value :=
    fun fd => fits_emit (by decide)
  intro w written
  cases request with
  | mouseMove m =>
    simp only [TestRunnerServer.handle, handleMouseMove, List.mem_append] at written
    rcases written with (x | y) | syn
    · exact fits_emit (fitsInt_toInt _) w x
    · exact fits_emit (fitsInt_toInt _) w y
    · exact report _ w syn
  | mouseClick m =>
    rcases List.mem_append.mp written with click | syn
    · exact fits_emit (fitsInt_bool _) w click
    · exact report _ w syn
  | keyPress k =>
    simp only [TestRunnerServer.handle, TestRunnerServer.handleKeyPress] at written
    split at written
    · cases written
    · rcases List.mem_append.mp written with key | syn
      · exact fits_emit (fitsInt_bool _) w key
      · exact report _ w syn
  | singleTouch touch => exact fits_singleTouch _ touch w written
  | multiTouch list =>
    rcases List.mem_append.mp written with touches | syn
    · obtain ⟨touch, -, inside⟩ := List.mem_flatMap.mp touches
      exact fits_emitTouch _ touch w inside
    · exact report _ w syn
  | passThrough p => exact fits_emit (fitsInt_toInt _) w written

theorem fits_delivered {server : TestRunnerServer} {requests : List Request} {fd : Int} :
    ∀ ev ∈ delivered fd (server.writes requests), FitsInt ev.value := by
  intro ev inside
  obtain ⟨w, written, own⟩ := List.mem_filterMap.mp inside
  obtain ⟨request, -, handled⟩ := List.mem_flatMap.mp written
  split at own
  · cases Option.some.inj own
    exact fits_handle server request w handled
  · cases own

section Read

variable {cfg : Config X} {prior : Nat → Stack} {nodes : List Node} {node : VirtualDevice → Node}
  {mDeviceFd : VirtualDevice → Int} {writes : List Write} {events : List Reading}

/-- A reading of a virtual device is recorded under its class and as it was written. -/
theorem Echoes.raw (back : Echoes mDeviceFd node writes events)
    (fits : ∀ device, ∀ ev ∈ delivered (mDeviceFd device) writes, FitsInt ev.value)
    (found : cfg.availableDevices = (findDevices prior (some nodes)).availableDevices)
    (exposed : ∀ device, Exposed device (node device) ∧ node device ∈ nodes) {e : Reading}
    (read : e ∈ events) (among : e.device ∈ cfg.availableDevices) {device : VirtualDevice}
    (own : e.device.fd = (node device).fd) :
    e.device.type = device.type ∧ FitsInt e.ev.value ∧ e.transformed = e := by
  have represents := represents_of_fd found exposed among own
  have here : e.ev ∈ readFrom node device events :=
    List.mem_map_of_mem (List.mem_filter.mpr ⟨read, by simpa using own⟩)
  have value := fits device e.ev ((back.part device).subset here)
  refine ⟨represents.type, value, ?_⟩
  rw [Reading.transformed, transformEvent_own represents (back.declared e read device own) value]

theorem eventNumbers_injective : Function.Injective eventNumbers := by
  rintro ⟨type, code, value⟩ ⟨type', code', value'⟩ same
  simpa [eventNumbers, UInt16.toNat_inj] using same

theorem number_injective {a b : VirtualDevice} (same : a.number = b.number) : a = b := by
  cases a <;> cases b <;> first | rfl | cases same

/-- Whatever the clients inject, a file recorded from the virtual devices plays back into each of
them just the events that came back of it, without ESC: some of those that the requests wrote, in
order and with the same values. -/
theorem injected_replayed (server : TestRunnerServer) (requests : List Request)
    (opened : ∀ device, 0 ≤ server.mDeviceFd device)
    (distinct : Function.Injective server.mDeviceFd) (cfg : Config X) (s s' : Recorder.State X)
    (as : List Recorder.Action) (fixed : cfg.mContinuous = false) (session : Session cfg s as s')
    (prior : Nat → Stack) (nodes : List Node) (node : VirtualDevice → Node)
    (found : cfg.availableDevices = (findDevices prior (some nodes)).availableDevices)
    (exposed : ∀ device, Exposed device (node device) ∧ node device ∈ nodes)
    (back : Echoes server.mDeviceFd node (server.writes requests) (readings cfg s as)) :
    ∃ lines file, s'.cmdFile cfg.mFilename = some lines ∧ decodeFile (fileText lines) = some file ∧
      ∀ device,
        delivered (server.mDeviceFd device) (replay server.mDeviceFd file.lines) =
          (readFrom node device (readings cfg s as)).filter (!·.isEsc) ∧
        (delivered (server.mDeviceFd device) (replay server.mDeviceFd file.lines)).Sublist
          (delivered (server.mDeviceFd device) (server.writes requests)) := by
  obtain ⟨start, records, file, told⟩ := session_told fixed session
  have reads := Session.reads session
  have fits : ∀ device, ∀ ev ∈ delivered (server.mDeviceFd device) (server.writes requests),
      FitsInt ev.value := fun device => fits_delivered
  have raw : (recorded (readings cfg s as)).map Reading.transformed =
      (recorded (readings cfg s as)).map id := by
    refine List.map_congr_left fun e inside => ?_
    have read := List.mem_of_mem_filter inside
    obtain ⟨device, own⟩ := back.virtual e read
    exact (back.raw fits found exposed read (reads e read) own).2.2
  rw [List.map_id] at raw
  rw [raw] at told
  have recordable : ∀ r ∈ records, Recordable r := by
    refine recordable_of_told told fun e inside => ?_
    have read := List.mem_of_mem_filter inside
    obtain ⟨device, own⟩ := back.virtual e read
    obtain ⟨type, value, -⟩ := back.raw fits found exposed read (reads e read) own
    refine ⟨?_, value⟩
    rw [type]
    cases device <;> decide
  have same : ∀ device,
      delivered (server.mDeviceFd device)
          (replay server.mDeviceFd (records.map InputRecord.decoded)) =
        (readFrom node device (readings cfg s as)).filter (!·.isEsc) := by
    intro device
    apply List.map_injective_iff.mpr eventNumbers_injective
    rw [replay_records recordable opened distinct device, filter_told told, readFrom,
      List.filter_map, List.map_map, recorded, List.filter_filter, List.filter_filter]
    refine congrArg _ (List.filter_congr fun e read => ?_)
    obtain ⟨device', own⟩ := back.virtual e read
    obtain ⟨type, -⟩ := back.raw fits found exposed read (reads e read) own
    have here : e.device.type.number = device.number ↔ e.device.fd = (node device).fd := by
      rw [type, type_number]
      constructor
      · intro number
        cases number_injective number
        exact own
      · intro fd
        have other := (back.raw fits found exposed read (reads e read) fd).1
        rw [← type_number, ← type, other, type_number]
    simp [here, Bool.and_comm]
  refine ⟨_, _, file, decodeFile_recording start records, fun device => ⟨same device, ?_⟩⟩
  have part : ((readFrom node device (readings cfg s as)).filter (!·.isEsc)).Sublist _ :=
    List.filter_sublist.trans (back.part device)
  exact same device ▸ part

/-- A key is pressed and comes back, the report after it does not. -/
theorem echoes_key (events : List Reading)
    (one : events = [⟨1000, ⟨5, [0x56], .keyboard, ⟨0, 0⟩, ⟨0, 0⟩⟩, ⟨evKey, 30, 1⟩⟩]) :
    Echoes fourDevices.mDeviceFd virtualNode
      (fourDevices.writes [.keyPress ⟨true, .rawCode 30⟩]) events := by
  subst one
  refine ⟨?_, by intro device; cases device <;> decide, ?_⟩
  · simp only [List.forall_mem_singleton]
    exact ⟨.keyboard, by decide⟩
  · simp only [List.forall_mem_singleton]
    intro device own
    cases device <;> cases own
    exact .inr ⟨(evbit_mem .keyboard evKey).mpr (by decide), _, rfl,
      (keybit_mem_keyboard 30).mpr (mem_evdevCodes.mpr (by decide))⟩

theorem injected_replayed_key : ∃ s s' lines file, Session virtualRecorder s printedAgain s' ∧
    s'.cmdFile "again" = some lines ∧ decodeFile (fileText lines) = some file ∧
    ∀ device,
      delivered (fourDevices.mDeviceFd device) (replay fourDevices.mDeviceFd file.lines) =
        (readFrom virtualNode device (readings virtualRecorder s printedAgain)).filter (!·.isEsc) ∧
      (delivered (fourDevices.mDeviceFd device) (replay fourDevices.mDeviceFd file.lines)).Sublist
        (delivered (fourDevices.mDeviceFd device)
          (fourDevices.writes [.keyPress ⟨true, .rawCode 30⟩])) :=
  have session : Session virtualRecorder _ printedAgain _ :=
    ⟨⟨some (), 0, enterLoop.take 2, Option.eq_some_of_isSome (by decide)⟩, by decide,
      Option.eq_some_of_isSome (by decide), by decide, by decide⟩
  have ⟨lines, file, told⟩ := injected_replayed fourDevices [.keyPress ⟨true, .rawCode 30⟩]
    (by intro device; cases device <;> decide)
    (by intro a b same; cases a <;> cases b <;> first | rfl | cases same)
    virtualRecorder _ _ printedAgain rfl session (fun _ => emptyStack)
    (allDevices.map virtualNode) virtualNode rfl
    (fun device => ⟨exposed_virtualNode device, by cases device <;> simp [allDevices]⟩)
    (echoes_key _ (by decide))
  ⟨_, _, lines, file, session, told⟩

end Read

end TestRunner.Server
