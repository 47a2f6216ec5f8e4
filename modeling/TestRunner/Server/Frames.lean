import TestRunner.Server.Requests

/-! Input requests as frames of events, each for one device. -/
namespace TestRunner.Server

variable {server : TestRunnerServer}

/-- A list that ends with a report, which is its only event of type `EV_SYN`. -/
def Frame (events : List InputEvent) : Prop :=
  ∃ body, events = body ++ [⟨evSyn, synReport, 0⟩] ∧ ∀ ev ∈ body, ev.type ≠ evSyn

/-- The keysym or the name has no key, so the handler returns with a warning. -/
def TestRunnerServer.Unresolvable (server : TestRunnerServer) (request : Request) : Prop :=
  ∃ k, request = .keyPress k ∧ server.evdevCode k.which = none

/-- Every request of the sequence is atomic, and every device sees only its own requests. -/
structure Atomic (server : TestRunnerServer) (requests : List Request) : Prop where
  frame : ∀ pre request post, requests = pre ++ request :: post →
    (∀ p, request ≠ .passThrough p) →
      ∃ device events, request.device = some device ∧
        server.writes requests = server.writes pre ++
          events.map (Write.mk (server.mDeviceFd device)) ++ server.writes post ∧
        (events = [] ∧ server.Unresolvable request ∨ Frame events)
  single : ∀ pre p post, requests = pre ++ .passThrough p :: post →
    ∃ writes, server.writes requests = server.writes pre ++ writes ++ server.writes post ∧
      writes.length = if p.device < 4 then 1 else 0
  independent : ∀ device others,
    others.filter (·.device = some device) = requests.filter (·.device = some device) →
      delivered (server.mDeviceFd device) (server.writes others) =
        delivered (server.mDeviceFd device) (server.writes requests)

/-- Writes of one device, none of them of type `EV_SYN`. -/
def Unreported (fd : Int) (writes : List Write) : Prop :=
  ∃ body : List InputEvent, writes = body.map (Write.mk fd) ∧ ∀ ev ∈ body, ev.type ≠ evSyn

theorem Unreported.nil (fd : Int) : Unreported fd [] := ⟨[], rfl, by simp⟩

theorem Unreported.append {fd : Int} {xs ys : List Write} (hx : Unreported fd xs)
    (hy : Unreported fd ys) : Unreported fd (xs ++ ys) := by
  obtain ⟨bx, rfl, free⟩ := hx
  obtain ⟨bs, rfl, free'⟩ := hy
  refine ⟨bx ++ bs, List.map_append.symm, ?_⟩
  intro ev inside
  rcases List.mem_append.mp inside with h | h
  · exact free ev h
  · exact free' ev h

theorem Unreported.emit {fd : Int} (opened : 0 ≤ fd) {type : UInt16} (code : UInt16) (val : Int)
    (other : type ≠ evSyn) : Unreported fd (emit fd type code val) :=
  ⟨[⟨type, code, val⟩], emit_opened opened type code val, by simpa using other⟩

theorem Unreported.ite {fd : Int} {c : Prop} [Decidable c] {xs : List Write}
    (h : Unreported fd xs) : Unreported fd (if c then xs else []) := by
  split
  · exact h
  · exact .nil fd

theorem Unreported.emitTouch {fd : Int} (opened : 0 ≤ fd) (touch : MultiTouch) :
    Unreported fd (emitTouch fd touch) := by
  have key : evAbs ≠ evSyn := by decide
  have slot := Unreported.emit opened absMtSlot touch.slot.toInt key
  have tracking := Unreported.emit opened absMtTrackingId touch.trackingId.toInt key
  have x := Unreported.emit opened absMtPositionX touch.absX.toInt key
  have y := Unreported.emit opened absMtPositionY touch.absY.toInt key
  exact (slot.append tracking.ite).append (x.append y).ite

theorem Unreported.touches {fd : Int} (opened : 0 ≤ fd) (list : List MultiTouch) :
    Unreported fd (list.flatMap (Server.emitTouch fd)) := by
  induction list with
  | nil => exact .nil fd
  | cons touch list ih => exact (Unreported.emitTouch opened touch).append ih

theorem Unreported.frame {fd : Int} (opened : 0 ≤ fd) {writes : List Write}
    (h : Unreported fd writes) : ∃ events,
      writes ++ Server.emit fd evSyn synReport 0 = events.map (Write.mk fd) ∧ Frame events := by
  obtain ⟨body, rfl, free⟩ := h
  exact ⟨body ++ [⟨evSyn, synReport, 0⟩], by simp [emit_opened opened], body, rfl, free⟩

/-- What one request writes, unless it passes an event through. -/
theorem handle_frame (opened : ∀ device, 0 ≤ server.mDeviceFd device) (request : Request)
    (composed : ∀ p, request ≠ .passThrough p) :
    ∃ device events, request.device = some device ∧
      server.handle request = events.map (Write.mk (server.mDeviceFd device)) ∧
      (events = [] ∧ server.Unresolvable request ∨ Frame events) := by
  have key : evKey ≠ evSyn := by decide
  have rel : evRel ≠ evSyn := by decide
  have abs : evAbs ≠ evSyn := by decide
  cases request with
  | mouseMove m =>
    have x := Unreported.emit (opened .mouse) relX m.relX.toInt rel
    have y := Unreported.emit (opened .mouse) relY m.relY.toInt rel
    obtain ⟨events, same, frame⟩ := (x.append y).frame (opened .mouse)
    exact ⟨.mouse, events, rfl, same, .inr frame⟩
  | mouseClick m =>
    have click := Unreported.emit (opened .mouse) m.btn m.pressed.toInt key
    obtain ⟨events, same, frame⟩ := click.frame (opened .mouse)
    exact ⟨.mouse, events, rfl, same, .inr frame⟩
  | keyPress k =>
    cases code : server.evdevCode k.which with
    | none =>
      refine ⟨.keyboard, [], rfl, ?_, .inl ⟨rfl, k, rfl, code⟩⟩
      simp [TestRunnerServer.handle, TestRunnerServer.handleKeyPress, code]
    | some code' =>
      have press := Unreported.emit (opened .keyboard) code' k.pressed.toInt key
      obtain ⟨events, same, frame⟩ := press.frame (opened .keyboard)
      refine ⟨.keyboard, events, rfl, ?_, .inr frame⟩
      simpa only [TestRunnerServer.handle, TestRunnerServer.handleKeyPress, code] using same
  | singleTouch t =>
    have x := (Unreported.emit (opened .touchscreen) absX t.absX.toInt abs).ite (c := t.absX.toInt ≥ 0)
    have y := (Unreported.emit (opened .touchscreen) absY t.absY.toInt abs).ite (c := t.absY.toInt ≥ 0)
    have touch := Unreported.emit (opened .touchscreen) btnTouch t.pressed.toInt key
    obtain ⟨events, same, frame⟩ := ((x.append y).append touch).frame (opened .touchscreen)
    exact ⟨.touchscreen, events, rfl, same, .inr frame⟩
  | multiTouch list =>
    obtain ⟨events, same, frame⟩ :=
      (Unreported.touches (opened .multiTouchscreen) list).frame (opened .multiTouchscreen)
    exact ⟨.multiTouchscreen, events, rfl, same, .inr frame⟩
  | passThrough p => exact absurd rfl (composed p)

theorem handlePassThrough_length (opened : ∀ device, 0 ≤ server.mDeviceFd device) (p : PassThrough) :
    (handlePassThrough server.mDeviceFd p).length = if p.device < 4 then 1 else 0 := by
  have known := VirtualDevice.ofNumber_isSome p.device.toNat
  have bound : p.device < 4 ↔ p.device.toNat < 4 := UInt32.lt_iff_toNat_lt
  cases number : VirtualDevice.ofNumber p.device.toNat with
  | none =>
    have far : ¬ p.device < 4 := by simpa [number, bound] using known
    simp [handlePassThrough, getDeviceFd, number, far, emit]
  | some device =>
    have near : p.device < 4 := by simpa [number, bound] using known
    simp [handlePassThrough, getDeviceFd, number, near, emit_opened (opened device)]

theorem delivered_handle_other (distinct : Function.Injective server.mDeviceFd)
    {request : Request} {device : VirtualDevice} (other : request.device ≠ some device) :
    delivered (server.mDeviceFd device) (server.handle request) = [] := by
  rw [delivered, List.filterMap_eq_nil_iff]
  intro w written
  obtain ⟨addressed, named, fd, -⟩ := handle_fd written
  have apart : w.fd ≠ server.mDeviceFd device := by
    intro same
    have equal := distinct (fd.symm.trans same)
    exact other (equal ▸ named)
  simp [apart]

/-- The stream of a device is the one of the requests that are addressed to it. -/
theorem delivered_addressed (distinct : Function.Injective server.mDeviceFd)
    (device : VirtualDevice) (requests : List Request) :
    delivered (server.mDeviceFd device) (server.writes requests) =
      delivered (server.mDeviceFd device)
        (server.writes (requests.filter (·.device = some device))) := by
  induction requests with
  | nil => rfl
  | cons request requests ih =>
    simp only [TestRunnerServer.writes, List.flatMap_cons, delivered_append] at ih ⊢
    by_cases addressed : request.device = some device
    · simp [addressed, ih]
    · simp [addressed, ih, delivered_handle_other distinct addressed]

theorem writes_split (pre : List Request) (request : Request) (post : List Request) :
    server.writes (pre ++ request :: post) =
      server.writes pre ++ server.handle request ++ server.writes post := by
  simp [TestRunnerServer.writes]

/-- Whatever requests come in whatever order, each is written as one frame for one device
and what a device sees depends on its own requests only. -/
theorem input_atomic (server : TestRunnerServer) (requests : List Request)
    (opened : ∀ device, 0 ≤ server.mDeviceFd device)
    (distinct : Function.Injective server.mDeviceFd) : Atomic server requests where
  frame := by
    intro pre request post split composed
    obtain ⟨device, events, named, same, shape⟩ := handle_frame opened request composed
    exact ⟨device, events, named, by rw [split, writes_split, same], shape⟩
  single := by
    intro pre p post split
    exact ⟨_, by rw [split, writes_split]; rfl, handlePassThrough_length opened p⟩
  independent := by
    intro device others same
    rw [delivered_addressed distinct device others, same, ← delivered_addressed distinct]

theorem input_atomic_four :
    Atomic fourDevices [.mouseMove ⟨1, 2⟩, .keyPress ⟨true, .keySym 0x61⟩, .passThrough ⟨4, 0, 0, 0⟩] :=
  input_atomic _ _ (by intro device; cases device <;> decide)
    (by intro d e same; cases d <;> cases e <;> first | rfl | cases same)

end TestRunner.Server
