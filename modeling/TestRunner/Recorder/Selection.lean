import TestRunner.Mask
import TestRunner.Recorder.Moves
import Mathlib.Data.List.Nodup

/-! The devices that a session monitors: a bit mask carries the selection from
`setDevicesToRecord()` to `Record()`. -/
namespace TestRunner.Recorder

variable {X : Type} {cfg : Config X} {s s' : State X}

def Action.given (last : Option (List InDevice)) : Action → Option (List InDevice)
  | .caller (.setDevicesToRecord devices) => some devices
  | _ => last

/-- The list that the last call of `setDevicesToRecord()` was given. -/
def given (last : Option (List InDevice)) (as : List Action) : Option (List InDevice) :=
  as.foldl Action.given last

/-- The available devices whose descriptor is listed, all of them before any call. -/
def Config.chosen (cfg : Config X) : Option (List InDevice) → List InDevice
  | none => cfg.availableDevices
  | some devices => cfg.availableDevices.filter fun d => d.fd ∈ devices.map InDevice.fd

/-- The counts of the shifts that set a bit for a listed device. -/
def Config.setShifts (cfg : Config X) : Option (List InDevice) → List Nat
  | none => []
  | some devices =>
    (cfg.availableDevices.zipIdx.filter fun d =>
      devices.any fun device => d.1.fd = device.fd).map Prod.snd

/-- The counts of the shifts that test the bit of a device. -/
def Config.testShifts (cfg : Config X) : List Nat := cfg.availableDevices.zipIdx.map Prod.snd

def Config.mask (cfg : Config X) : Option (List InDevice) → UInt64
  | none => 0xFFFFFFFFFFFFFFFF
  | some devices => deviceMask cfg.availableDevices devices

theorem monitored_eq (devices : List InDevice) (mask : UInt64) :
    monitored devices mask = Mask.select devices mask := rfl

theorem deviceMask_eq (available devices : List InDevice) :
    deviceMask available devices =
      Mask.collect (fun d => devices.any fun device => d.fd = device.fd) available := rfl

theorem any_fd (devices : List InDevice) (d : InDevice) :
    (devices.any fun device => d.fd = device.fd) = decide (d.fd ∈ devices.map InDevice.fd) := by
  rw [Bool.eq_iff_iff, List.any_eq_true, decide_eq_true_iff, List.mem_map]
  simp only [decide_eq_true_eq, @eq_comm Int d.fd]

/-- One call selects exactly the listed devices if and only if devices that share a bit are
listed together. -/
theorem monitored_deviceMask_iff (available devices : List InDevice) :
    monitored available (deviceMask available devices) =
        available.filter (fun d => d.fd ∈ devices.map InDevice.fd) ↔
      ∀ x ∈ available.zipIdx, ∀ y ∈ available.zipIdx, x.2 % 64 = y.2 % 64 →
        x.1.fd ∈ devices.map InDevice.fd → y.1.fd ∈ devices.map InDevice.fd := by
  simp only [monitored_eq, deviceMask_eq, any_fd, Mask.select_collect_iff, decide_eq_true_eq]

theorem monitored_mask (small : cfg.availableDevices.length ≤ 64) (last : Option (List InDevice)) :
    monitored cfg.availableDevices (cfg.mask last) = cfg.chosen last := by
  cases last with
  | none => exact Mask.select_all cfg.availableDevices
  | some devices =>
    simp only [monitored_eq, Config.mask, deviceMask_eq, any_fd]
    exact Mask.select_collect _ small

theorem mask_step {a : Action} {last : Option (List InDevice)} (move : Move cfg s a s')
    (h : s.mDeviceMask = cfg.mask last) : s'.mDeviceMask = cfg.mask (a.given last) := by
  cases move with
  | caller m =>
    cases m with
    | setDevices devices => rfl
    | _ => exact h
  | record m => cases m <;> exact h
  | buffer m => cases m <;> exact h
  | tick t => exact h

theorem mask_run {as : List Action} {last : Option (List InDevice)}
    (reached : run (step cfg) s as = some s') (h : s.mDeviceMask = cfg.mask last) :
    s'.mDeviceMask = cfg.mask (given last as) := by
  induction as generalizing s last with
  | nil =>
    cases Option.some.inj reached
    exact h
  | cons a as ih =>
    obtain ⟨t, stepped, rest⟩ := Option.bind_eq_some_iff.mp reached
    exact ih rest (mask_step (step_move stepped).2 h)

theorem devicesToRecord_setup (started : step cfg s (.record .setup) = some s') :
    s'.devicesToRecord = monitored cfg.availableDevices s.mDeviceMask := by
  cases (step_move started).2 with
  | record m => cases m <;> rfl

theorem setShifts_subset (cfg : Config X) (last : Option (List InDevice)) :
    ∀ n ∈ cfg.setShifts last, n ∈ cfg.testShifts := by
  cases last with
  | none => simp [Config.setShifts]
  | some devices =>
    intro n inside
    obtain ⟨d, listed, same⟩ := List.mem_map.mp inside
    exact List.mem_map.mpr ⟨d, (List.mem_filter.mp listed).1, same⟩

theorem testShifts_lt_iff (cfg : Config X) :
    (∀ n ∈ cfg.testShifts, n < 64) ↔ cfg.availableDevices.length ≤ 64 := by
  have counts : cfg.testShifts = List.range cfg.availableDevices.length := by
    simp [Config.testShifts, List.zipIdx_map_snd, List.range_eq_range']
  rw [counts]
  constructor
  · intro below
    by_contra many
    have last := below 64 (List.mem_range.mpr (by omega))
    omega
  · intro small n inside
    have lt := List.mem_range.mp inside
    omega

/-- A session monitors exactly the devices that were chosen, with shifts below the width of the
mask, if and only if at most 64 devices are available. -/
theorem selection_exact_iff (cfg : Config X) (xkb : Option X) (now : Nat) (as : List Action)
    (s s' : State X) (reached : run (step cfg) (initial cfg xkb now) as = some s)
    (started : step cfg s (.record .setup) = some s') :
    s'.devicesToRecord = cfg.chosen (given none as) ∧
        (∀ n ∈ cfg.setShifts (given none as) ++ cfg.testShifts, n < 64) ↔
      cfg.availableDevices.length ≤ 64 := by
  have mask : s.mDeviceMask = cfg.mask (given none as) := mask_run reached rfl
  rw [devicesToRecord_setup started, mask, ← testShifts_lt_iff]
  constructor
  · intro exact n inside
    exact exact.2 n (List.mem_append_right _ inside)
  · intro below
    refine ⟨monitored_mask ((testShifts_lt_iff cfg).mp below) _, fun n inside => ?_⟩
    rcases List.mem_append.mp inside with set | tested
    · exact below n (setShifts_subset cfg _ n set)
    · exact below n tested

def keyboard (fd : Nat) : InDevice := ⟨fd, [], .keyboard, ⟨0, 0⟩, ⟨0, 0⟩⟩

/-- A recorder over so many keyboards, with their positions as descriptors. -/
def keyboards (n : Nat) : Config Unit where
  mFilename := "rec"
  mRecordingLength := 30000
  mContinuous := false
  availableDevices := (List.range n).map keyboard
  distinct := by
    rw [List.map_map]
    exact List.Nodup.map (fun _ _ same => Int.ofNat.inj same) List.nodup_range
  xkb := ⟨fun _ code => UInt32.ofNat code, fun x _ _ => x⟩
  fileTimestamp := fun _ => "t"

/-- The selection of the first keyboard, up to the thread that reads it. -/
def selectFirst : List Action :=
  .caller (.setDevicesToRecord [keyboard 0]) :: enterLoop.take 4

theorem selection_exact_three : ∃ s s',
    run (step (keyboards 3)) (initial (keyboards 3) (some ()) 0) selectFirst = some s ∧
    step (keyboards 3) s (.record .setup) = some s' ∧ s'.devicesToRecord = [keyboard 0] :=
  have reached := Option.eq_some_of_isSome (by decide)
  have started := Option.eq_some_of_isSome (by decide)
  ⟨_, _, reached, started,
    ((selection_exact_iff (keyboards 3) (some ()) 0 selectFirst _ _ reached started).mpr
      (by decide)).1.trans (by decide)⟩

/-- Of 65 keyboards the last is monitored with the first. -/
theorem selection_aliased : ∃ s s',
    run (step (keyboards 65)) (initial (keyboards 65) (some ()) 0) selectFirst = some s ∧
    step (keyboards 65) s (.record .setup) = some s' ∧
    (keyboards 65).chosen (given none selectFirst) = [keyboard 0] ∧
    s'.devicesToRecord = [keyboard 0, keyboard 64] ∧ 64 ∈ (keyboards 65).testShifts :=
  ⟨_, _, Option.eq_some_of_isSome (by decide), Option.eq_some_of_isSome (by decide), by decide,
    by decide, by decide⟩

end TestRunner.Recorder
