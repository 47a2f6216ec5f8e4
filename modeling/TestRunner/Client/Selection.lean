import TestRunner.Client.Devices
import TestRunner.Recorder.Selection

/-! A selection of devices on its way from the client through the server and a bit mask to the
thread that reads them, while other requests and all other threads go on. -/
namespace TestRunner.Client

open Recorder Server

variable {X : Type}

/-- The list that the requests answered so far have given to the recorder of this index, none before
the first one since it was created. -/
def told (k : Nat) (last : Option (List InputDevice)) :
    RecorderRequest × RecorderResponse → Option (List InputDevice)
  | (.createCustomRecorder .., .index index) => if index.toNat = k then none else last
  | (.setDevicesToRecord index devices, _) => if index.toNat = k then some devices else last
  | _ => last

def lastTold (k : Nat) (log : List (RecorderRequest × RecorderResponse)) :
    Option (List InputDevice) :=
  log.foldl (told k) none

/-- The devices that the server makes of a list. -/
def rebuilt (devices : Option (List InputDevice)) : Option (List InDevice) :=
  devices.map (·.map InputDevice.inDevice)

/-- The mask of every recorder is that of the last list it was given. -/
def Masked (reg : Registry X) : Prop :=
  ∀ (k : Nat) (custom : CustomRecorder X), reg.customRecorders[k]? = some custom →
    custom.recorder.mDeviceMask = custom.cfg.mask (rebuilt (lastTold k reg.log))

variable {fileTimestamp : Int → String} {reg reg' : Registry X}

theorem lastTold_append (k : Nat) (log : List (RecorderRequest × RecorderResponse))
    (entry : RecorderRequest × RecorderResponse) :
    lastTold k (log ++ [entry]) = told k (lastTold k log) entry := by
  simp [lastTold]

/-- A request for one recorder tells another nothing. -/
theorem told_other {k : Nat} {r : RecorderRequest} {index : UInt8} (response : RecorderResponse)
    (addressed : r.index = some index) (other : index.toNat ≠ k) (last : Option (List InputDevice)) :
    told k last (r, response) = last := by
  cases r with
  | createCustomRecorder => cases addressed
  | setDevicesToRecord i devices =>
    cases Option.some.inj addressed
    simp [told, other]
  | _ => rfl

/-- The statement of a request tells the recorder what its answer does. -/
theorem told_own {k : Nat} {r : RecorderRequest} {index : UInt8} {a : CallerAction}
    (response : RecorderResponse) (addressed : r.index = some index) (own : index.toNat = k)
    (calls : r.calls a = true) (last : Option (List InputDevice)) :
    rebuilt (told k last (r, response)) = (Action.caller a).given (rebuilt last) := by
  cases r with
  | createCustomRecorder => cases addressed
  | setDevicesToRecord i devices =>
    cases Option.some.inj addressed
    cases a <;> simp_all [told, rebuilt, RecorderRequest.calls, Action.given]
  | _ => cases a <;> simp_all [told, RecorderRequest.calls, Action.given]

theorem given_thread {a : Action} (thread : ∀ devices, a ≠ .caller (.setDevicesToRecord devices))
    (last : Option (List InDevice)) : a.given last = last := by
  cases a with
  | caller a =>
    cases a with
    | setDevicesToRecord devices => exact absurd rfl (thread devices)
    | _ => rfl
  | _ => rfl

theorem setDevices_returns {cfg : Config X} {s s' : State X} {devices : List InDevice}
    (move : Recorder.Move cfg s (.caller (.setDevicesToRecord devices)) s') :
    Registry.returned s' (.caller (.setDevicesToRecord devices)) = true := by
  cases move with
  | caller m =>
    cases m with
    | setDevices devices idle => simp [Registry.returned, idle]

theorem log_going (i : Nat) (custom : CustomRecorder X) {a : Recorder.Action} {s : State X}
    (going : Registry.returned s a = false) : (reg.after i custom a s).log = reg.log := by
  simp only [Registry.after, going]
  split <;> rfl

/-- A statement of a recorder: what it is told of by the answer is what the statement gives. -/
theorem masked_own {i : Nat} {custom : CustomRecorder X} {a : Recorder.Action} {s : State X}
    (mask : custom.recorder.mDeviceMask = custom.cfg.mask (rebuilt (lastTold i reg.log)))
    (allowed : reg.allows i a = true) (stepped : Recorder.step custom.cfg custom.recorder a = some s) :
    s.mDeviceMask = custom.cfg.mask (rebuilt (lastTold i (reg.after i custom a s).log)) := by
  have move := (step_move stepped).2
  rw [mask_step move mask]
  cases a with
  | caller c =>
    obtain ⟨r, index, pending, addressed, own⟩ := Registry.allows_caller allowed
    have calls : r.calls c = true := by
      simpa [Registry.allows, pending, addressed, own] using allowed
    simp only [Registry.after, pending]
    split
    · rw [Registry.log_answer, lastTold_append, told_own _ addressed own calls]
      rfl
    · rename_i going
      rw [given_thread]
      · rfl
      · rintro devices same
        cases same
        exact going (setDevices_returns move)
  | _ =>
    rw [log_going _ _ rfl]
    rfl

theorem masked_step {a : Registry.Action X} (counted : Registry.Counted reg) (h : Masked reg)
    (move : Registry.Move fileTimestamp reg a reg') : Masked reg' := by
  have few := counted.limit
  unfold maxCustomRecorders at few
  intro k custom found
  cases move with
  | refused filename length continuous host no =>
    have below := (List.getElem?_eq_some_iff.mp found).1
    rw [Registry.customRecorders_answer] at below
    have other : (255 : UInt8).toNat ≠ k := by
      have value : (255 : UInt8).toNat = 255 := rfl
      omega
    have same : told k (lastTold k reg.log)
        (.createCustomRecorder filename length continuous, .index 255) = lastTold k reg.log :=
      if_neg other
    rw [Registry.log_answer, lastTold_append, same]
    exact h k custom found
  | created filename length continuous host accepted room new name cfg fresh =>
    obtain ⟨value, -⟩ := Registry.index_ne room
    rw [Registry.log_answer, lastTold_append]
    simp only [told, value]
    rw [Registry.customRecorders_answer, Registry.customRecorders_push, List.getElem?_append] at found
    split at found
    · rename_i below
      rw [if_neg (by omega)]
      exact h k custom found
    · rename_i last
      have own : reg.customRecorders.length = k := by
        have inside := (List.getElem?_eq_some_iff.mp found).1
        simp only [List.length_singleton] at inside
        omega
      subst own
      simp only [Nat.sub_self, List.getElem?_cons_zero, Option.some.injEq] at found
      subst found
      rw [fresh, if_pos rfl]
      rfl
  | listed index host there same =>
    rw [Registry.log_answer, lastTold_append]
    exact h k custom found
  | missing r host index addressed none =>
    rw [Registry.customRecorders_answer] at found
    have below := (List.getElem?_eq_some_iff.mp found).1
    rw [Registry.log_answer, lastTold_append, told_other _ addressed (by omega)]
    exact h k custom found
  | called r host index addressed inside => exact h k custom found
  | thread i a there s same allowed stepped =>
    rw [Registry.customRecorders_after] at found
    by_cases own : i = k
    · subst own
      rw [List.getElem?_set_self (List.getElem?_eq_some_iff.mp same).1] at found
      cases Option.some.inj found
      have own : s.mDeviceMask = there.cfg.mask (rebuilt (lastTold i (reg.after i there a s).log)) :=
        masked_own (h i there same) allowed stepped
      exact own
    · rw [List.getElem?_set_ne own] at found
      cases returned : Registry.returned s a with
      | false =>
        rw [log_going i there returned]
        exact h k custom found
      | true =>
        cases a with
        | caller c =>
          obtain ⟨r, index, pending, addressed, here⟩ := Registry.allows_caller allowed
          simp only [Registry.after, pending, returned, if_true]
          rw [Registry.log_answer, lastTold_append, told_other _ addressed (here ▸ own)]
          exact h k custom found
        | _ => cases returned

theorem masked_run {as : List (Registry.Action X)}
    (reached : run (Registry.step fileTimestamp) Registry.initial as = some reg) : Masked reg := by
  have all : Registry.Counted reg ∧ Masked reg := by
    refine run_invariant (I := fun reg => Registry.Counted reg ∧ Masked reg) reached
      ⟨Registry.counted_initial, by simp [Masked, Registry.initial]⟩ ?_
    rintro a - reg reg' stepped ⟨counted, masked⟩
    have move := Registry.step_move stepped
    exact ⟨Registry.counted_step counted move, masked_step counted masked move⟩
  exact all.2

theorem fd_back {device : InDevice} (sound : Sound device) :
    (wire (listed (inputDevice device))).inDevice.fd = device.fd := by
  have agrees := agrees_listed sound
  have copy : (wire (listed (inputDevice device))).inDevice.fd =
      (listed (inputDevice device)).fd.toInt := by
    simp [wire, InputDevice.inDevice]
  exact copy.trans agrees.fd

/-- A device of the recorder is named by a list of its own devices if and only if its copy is. -/
theorem mem_fds {available : List InDevice} (distinct : (available.map InDevice.fd).Nodup)
    (sound : ∀ device ∈ available, Sound device) {devices : List Device}
    (part : devices ⊆ listDevices (available.map inputDevice)) {device : InDevice}
    (known : device ∈ available) :
    device.fd ∈ ((devices.map wire).map InputDevice.inDevice).map InDevice.fd ↔
      listed (inputDevice device) ∈ devices := by
  simp only [List.map_map, List.mem_map, Function.comp_apply]
  constructor
  · rintro ⟨copy, inside, same⟩
    have among := part inside
    rw [listDevices, List.map_map] at among
    obtain ⟨other, available, rfl⟩ := List.mem_map.mp among
    have fd : other.fd = device.fd := (fd_back (sound other available)).symm.trans same
    exact List.inj_on_of_nodup_map distinct available known fd ▸ inside
  · intro inside
    exact ⟨_, inside, fd_back (sound device known)⟩

/-- What a client that was listed these devices selects by its last request, all of them without
one. -/
def selected (listing : List Device) : Option (List Device) → List Device
  | none => listing
  | some devices => listing.filter (· ∈ devices)

theorem agrees_selected {available : List InDevice}
    (sound : ∀ device ∈ available, Sound device) (p : Device → Bool) :
    List.Forall₂ Agrees (available.filter (p ∘ (listed ∘ inputDevice)))
      ((listDevices (available.map inputDevice)).filter p) := by
  rw [listDevices, List.map_map, List.filter_map, List.forall₂_map_right_iff, List.forall₂_same]
  intro device inside
  exact agrees_listed (sound device (List.mem_of_mem_filter inside))

/-- Whatever the other requests and threads do, as long as the loop of `setDevicesToRecord()` over the
mask and that of `Record()` are each done in one go, a session monitors the devices that the client
selected from those it was listed by the last request since the recorder was created, in any order
and with any repetitions, and all devices if there was none. -/
theorem selection_monitored (fileTimestamp : Int → String) (as : List (Registry.Action X))
    (reg : Registry X) (reached : run (Registry.step fileTimestamp) Registry.initial as = some reg)
    (index : UInt8) (custom : CustomRecorder X)
    (found : reg.customRecorders[index.toNat]? = some custom)
    (sound : ∀ device ∈ custom.cfg.availableDevices, Sound device)
    (few : custom.cfg.availableDevices.length ≤ 64) (request : Option (List Device))
    (part : ∀ devices ∈ request,
      devices ⊆ listDevices (custom.cfg.availableDevices.map inputDevice))
    (last : lastTold index.toNat reg.log = request.map (·.map wire)) (s : State X)
    (begins : Recorder.step custom.cfg custom.recorder (.record .setup) = some s) :
    List.Forall₂ Agrees s.devicesToRecord
      (selected (listDevices (custom.cfg.availableDevices.map inputDevice)) request) := by
  have mask := masked_run reached index.toNat custom found
  rw [last] at mask
  rw [devicesToRecord_setup begins, mask, monitored_mask few]
  cases request with
  | none =>
    have all := agrees_selected sound fun _ => true
    rwa [List.filter_eq_self.mpr (by simp), List.filter_eq_self.mpr (by simp)] at all
  | some devices =>
    have own : custom.cfg.chosen (rebuilt (some (devices.map wire))) =
        custom.cfg.availableDevices.filter
          ((fun copy => decide (copy ∈ devices)) ∘ (listed ∘ inputDevice)) := by
      refine List.filter_congr fun d known => ?_
      have same := mem_fds custom.cfg.distinct sound (part devices rfl) known
      simp only [same, Function.comp_apply]
    rw [Option.map_some, own]
    exact agrees_selected sound fun copy => decide (copy ∈ devices)

def namedHost : Host Unit where
  availableDevices := namedRecorder.availableDevices
  distinct := namedRecorder.distinct
  xkb := namedRecorder.xkb
  state := none
  now := 0

def namedPanel : List Device := (listDevices (namedRecorder.availableDevices.map inputDevice)).drop 1

theorem named_sound : ∀ device ∈ namedRecorder.availableDevices, Sound device := by
  intro device inside
  simp only [namedRecorder, List.mem_cons, List.not_mem_nil, or_false] at inside
  rcases inside with rfl | rfl <;> constructor <;> decide

theorem named_part : ∀ devices ∈ some (namedPanel ++ namedPanel),
    devices ⊆ listDevices (namedRecorder.availableDevices.map inputDevice) := by
  rintro devices ⟨⟩ copy inside
  rw [List.mem_append, or_self] at inside
  exact List.mem_of_mem_drop inside

/-- A client selects the panel twice and starts a session. -/
def selectPanel : List (Registry.Action Unit) :=
  [.request (.createCustomRecorder [97] 30 true) namedHost,
   .request (.setDevicesToRecord 0 ((namedPanel ++ namedPanel).map wire)) namedHost,
   .thread 0 (.caller (.setDevicesToRecord
      (((namedPanel ++ namedPanel).map wire).map InputDevice.inDevice))),
   .request (.startCustomRecording 0) namedHost, .thread 0 (.caller .start),
   .thread 0 (.caller .spawn), .thread 0 (.record .clear), .thread 0 (.record .stamp)]

theorem selection_monitored_panel : ∃ reg,
    run (Registry.step fun _ => "t") Registry.initial selectPanel = some reg ∧
    ∃ custom, reg.customRecorders[(0 : UInt8).toNat]? = some custom ∧
    ∃ s, Recorder.step custom.cfg custom.recorder (.record .setup) = some s ∧
    List.Forall₂ Agrees s.devicesToRecord
      (selected (listDevices (custom.cfg.availableDevices.map inputDevice))
        (some (namedPanel ++ namedPanel))) := by
  have reached : run (Registry.step fun _ => "t") Registry.initial selectPanel = some _ :=
    Option.eq_some_of_isSome (by decide)
  refine ⟨_, reached, _, Option.eq_some_of_isSome (by decide), _,
    Option.eq_some_of_isSome (by decide), ?_⟩
  refine selection_monitored (fun _ => "t") selectPanel _ reached 0 _
    (Option.eq_some_of_isSome (by decide)) named_sound (by decide) (some (namedPanel ++ namedPanel))
    named_part rfl _ (Option.eq_some_of_isSome (by decide))

end TestRunner.Client
