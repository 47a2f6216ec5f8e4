import TestRunner.Recorder.Threads
import TestRunner.Recording
import Mathlib.Data.List.Infix
import Mathlib.Data.List.Range

/-! The recorders that clients create: a vector that grows, addressed by an index that the client
chooses. Requests come one after the other, and the threads of all recorders run on. -/
namespace TestRunner.Server

open Recorder

def maxCustomRecorders : Nat := 20

structure InputDevice where
  fd : UInt32
  name : List UInt8
  type : UInt8
  deriving DecidableEq

inductive RecorderRequest where
  | createCustomRecorder (filename : List UInt8) (length : UInt32) (continuous : Bool)
  | listDevices (index : UInt8)
  | setDevicesToRecord (index : UInt8) (devices : List InputDevice)
  | startCustomRecording (index : UInt8)
  | stopCustomRecording (index : UInt8)
  | checkRecorderActive (index : UInt8)
  deriving DecidableEq

inductive RecorderResponse where
  | index (index : UInt8)
  | devices (devices : List InputDevice)
  | path (path : String)
  | active (active : Bool)
  | empty
  -- `join()` has thrown
  | exception
  deriving DecidableEq

/-- What the constructor of a recorder finds. -/
structure Host (X : Type) where
  availableDevices : List InDevice
  distinct : (availableDevices.map InDevice.fd).Nodup
  xkb : Xkb X
  state : Option X
  now : Nat

/-- A recorder with the name that it was created under. -/
structure CustomRecorder (X : Type) where
  filename : List UInt8
  cfg : Config X
  recorder : Recorder.State X

structure Registry (X : Type) where
  customRecorders : List (CustomRecorder X)
  -- the request whose handler is in a method of a recorder
  pending : Option RecorderRequest
  log : List (RecorderRequest × RecorderResponse)

inductive Registry.Action (X : Type) where
  -- a request, and what a constructor would find at that time
  | request (r : RecorderRequest) (host : Host X)
  | thread (i : Nat) (a : Recorder.Action)

variable {X : Type}

def slash : UInt8 := 0x2f
def dot : UInt8 := 0x2e

/-- One character for each byte. -/
def text (bytes : List UInt8) : String := String.ofList (bytes.map fun b => Char.ofNat b.toNat)

/-- `std::filesystem::path::filename()`. -/
def pathFilename (path : List UInt8) : List UInt8 := (path.reverse.takeWhile (· ≠ slash)).reverse

def refuses (filename : List UInt8) : Bool := slash ∈ filename ∨ [dot, dot] <:+: filename

def recorderConfig (fileTimestamp : Int → String) (filename : List UInt8) (length : UInt32)
    (continuous : Bool) (host : Host X) : Config X where
  mFilename :=
    if continuous then text filename else "/tmp/" ++ text (pathFilename filename) ++ ".rrc"
  mRecordingLength := length * 1000
  mContinuous := continuous
  availableDevices := host.availableDevices
  distinct := host.distinct
  xkb := host.xkb
  fileTimestamp := fileTimestamp

def deviceType : Nat → DeviceType
  | 0 => .mouse
  | 1 => .keyboard
  | 2 => .touchscreen
  | 3 => .multitouchscreen
  | _ => .unknown

/-- `strncpy` into the fifty bytes of a name, of which the last is cleared. -/
def InputDevice.inDevice (device : InputDevice) : InDevice where
  fd := device.fd.toInt32.toInt
  name := (cStr device.name).take 49
  type := deviceType device.type.toNat
  absRangeX := ⟨0, 0⟩
  absRangeY := ⟨0, 0⟩

def inputDevice (device : InDevice) : InputDevice :=
  ⟨(Int32.ofInt device.fd).toUInt32, cStr device.name, UInt8.ofNat device.type.number⟩

def RecorderRequest.index : RecorderRequest → Option UInt8
  | .createCustomRecorder .. => none
  | .listDevices index | .setDevicesToRecord index _ | .startCustomRecording index
  | .stopCustomRecording index | .checkRecorderActive index => some index

/-- The results as the schema has them before a handler sets any. -/
def RecorderRequest.default : RecorderRequest → RecorderResponse
  | .createCustomRecorder .. => .index 0
  | .listDevices _ => .devices []
  | .setDevicesToRecord .. | .startCustomRecording _ => .empty
  | .stopCustomRecording _ => .path ""
  | .checkRecorderActive _ => .active false

/-- The statements of the method that a handler calls. -/
def RecorderRequest.calls : RecorderRequest → CallerAction → Bool
  | .setDevicesToRecord _ listed, .setDevicesToRecord devices =>
    devices = listed.map InputDevice.inDevice
  | .startCustomRecording _, .start | .startCustomRecording _, .spawn => true
  | .stopCustomRecording _, .stopFlag | .stopCustomRecording _, .stopTime
  | .stopCustomRecording _, .stopJoin => true
  | .checkRecorderActive _, .isActive => true
  | _, _ => false

/-- The results once the method has returned. -/
def RecorderRequest.response : RecorderRequest → Option Reply → RecorderResponse
  | .setDevicesToRecord .., _ | .startCustomRecording _, _ => .empty
  | .stopCustomRecording _, some (.path path) => .path path
  | .checkRecorderActive _, some (.active active) => .active active
  | _, _ => .exception

namespace Registry

def initial : Registry X := ⟨[], none, []⟩

def answer (reg : Registry X) (r : RecorderRequest) (response : RecorderResponse) : Registry X :=
  { reg with pending := none, log := reg.log ++ [(r, response)] }

def push (reg : Registry X) (custom : CustomRecorder X) : Registry X :=
  { reg with customRecorders := reg.customRecorders ++ [custom] }

def createCustomRecorder (fileTimestamp : Int → String) (reg : Registry X) (filename : List UInt8)
    (length : UInt32) (continuous : Bool) (host : Host X) : Registry X :=
  let r := .createCustomRecorder filename length continuous
  let filename := cStr filename
  if refuses filename then reg.answer r (.index 255)
  else if reg.customRecorders.length < maxCustomRecorders then
    let cfg := recorderConfig fileTimestamp filename length continuous host
    let reg := reg.push ⟨filename, cfg, Recorder.initial cfg host.state host.now⟩
    reg.answer r (.index (UInt8.ofNat (reg.customRecorders.length - 1)))
  else reg.answer r (.index 255)

def listDevices (reg : Registry X) (index : UInt8) : Registry X :=
  match reg.customRecorders[index.toNat]? with
  | some custom =>
    reg.answer (.listDevices index) (.devices (custom.cfg.availableDevices.map inputDevice))
  | none => reg.answer (.listDevices index) (RecorderRequest.listDevices index).default

/-- The other handlers call a method, or leave the results as they are. -/
def call (reg : Registry X) (r : RecorderRequest) (index : UInt8) : Registry X :=
  if index.toNat < reg.customRecorders.length then { reg with pending := some r }
  else reg.answer r r.default

def handle (fileTimestamp : Int → String) (reg : Registry X) (host : Host X) :
    RecorderRequest → Registry X
  | .createCustomRecorder filename length continuous =>
    reg.createCustomRecorder fileTimestamp filename length continuous host
  | .listDevices index => reg.listDevices index
  | .setDevicesToRecord index devices => reg.call (.setDevicesToRecord index devices) index
  | .startCustomRecording index => reg.call (.startCustomRecording index) index
  | .stopCustomRecording index => reg.call (.stopCustomRecording index) index
  | .checkRecorderActive index => reg.call (.checkRecorderActive index) index

/-- A recorder has ended the program. -/
def terminated (reg : Registry X) : Bool :=
  reg.customRecorders.any fun custom => custom.recorder.fault.isSome

/-- The caller of a recorder is the handler that is in one of its methods. -/
def allows (reg : Registry X) (i : Nat) : Recorder.Action → Bool
  | .caller a => reg.pending.any fun r => (r.index.any fun index => index.toNat = i) && r.calls a
  | _ => true

def store (reg : Registry X) (i : Nat) (custom : CustomRecorder X) (s : Recorder.State X) :
    Registry X :=
  { reg with customRecorders := reg.customRecorders.set i { custom with recorder := s } }

/-- The method has returned to its handler. -/
def returned (s : Recorder.State X) : Recorder.Action → Bool
  | .caller _ => s.caller = .idle
  | _ => false

def after (reg : Registry X) (i : Nat) (custom : CustomRecorder X) (a : Recorder.Action)
    (s : Recorder.State X) : Registry X :=
  match reg.pending with
  | some r =>
    if returned s a then (reg.store i custom s).answer r (r.response s.reply)
    else reg.store i custom s
  | none => reg.store i custom s

def step (fileTimestamp : Int → String) (reg : Registry X) (a : Action X) : Option (Registry X) :=
  if reg.terminated then none else
  match a with
  | .request r host => if reg.pending.isNone then some (reg.handle fileTimestamp host r) else none
  | .thread i a =>
    match reg.customRecorders[i]? with
    | some custom =>
      if reg.allows i a then (Recorder.step custom.cfg custom.recorder a).map (reg.after i custom a)
      else none
    | none => none

/-- The outcomes of a step. -/
inductive Move (fileTimestamp : Int → String) (reg : Registry X) : Action X → Registry X → Prop where
  | refused (filename : List UInt8) (length : UInt32) (continuous : Bool) (host : Host X)
      (no : refuses (cStr filename) = true ∨ maxCustomRecorders ≤ reg.customRecorders.length) :
      Move fileTimestamp reg (.request (.createCustomRecorder filename length continuous) host)
        (reg.answer (.createCustomRecorder filename length continuous) (.index 255))
  | created (filename : List UInt8) (length : UInt32) (continuous : Bool) (host : Host X)
      (accepted : refuses (cStr filename) = false)
      (room : reg.customRecorders.length < maxCustomRecorders) (custom : CustomRecorder X)
      (name : custom.filename = cStr filename)
      (cfg : custom.cfg = recorderConfig fileTimestamp (cStr filename) length continuous host)
      (fresh : custom.recorder = Recorder.initial custom.cfg host.state host.now) :
      Move fileTimestamp reg (.request (.createCustomRecorder filename length continuous) host)
        ((reg.push custom).answer (.createCustomRecorder filename length continuous)
          (.index (UInt8.ofNat reg.customRecorders.length)))
  | listed (index : UInt8) (host : Host X) (custom : CustomRecorder X)
      (found : reg.customRecorders[index.toNat]? = some custom) :
      Move fileTimestamp reg (.request (.listDevices index) host)
        (reg.answer (.listDevices index) (.devices (custom.cfg.availableDevices.map inputDevice)))
  | missing (r : RecorderRequest) (host : Host X) (index : UInt8) (addressed : r.index = some index)
      (none : reg.customRecorders.length ≤ index.toNat) :
      Move fileTimestamp reg (.request r host) (reg.answer r r.default)
  | called (r : RecorderRequest) (host : Host X) (index : UInt8) (addressed : r.index = some index)
      (found : index.toNat < reg.customRecorders.length) :
      Move fileTimestamp reg (.request r host) { reg with pending := some r }
  | thread (i : Nat) (a : Recorder.Action) (custom : CustomRecorder X) (s : Recorder.State X)
      (found : reg.customRecorders[i]? = some custom) (allowed : reg.allows i a = true)
      (stepped : Recorder.step custom.cfg custom.recorder a = some s) :
      Move fileTimestamp reg (.thread i a) (reg.after i custom a s)

variable {fileTimestamp : Int → String} {reg reg' : Registry X}

theorem createCustomRecorder_move (filename : List UInt8) (length : UInt32) (continuous : Bool)
    (host : Host X) :
    Move fileTimestamp reg (.request (.createCustomRecorder filename length continuous) host)
      (reg.createCustomRecorder fileTimestamp filename length continuous host) := by
  unfold createCustomRecorder
  by_cases no : refuses (cStr filename) = true
  · simp only [if_pos no]
    exact .refused filename length continuous host (.inl no)
  · by_cases room : reg.customRecorders.length < maxCustomRecorders
    · have accepted : refuses (cStr filename) = false := by simpa using no
      simp only [if_neg no, if_pos room, push, List.length_append, List.length_singleton,
        Nat.add_sub_cancel]
      exact .created filename length continuous host accepted room _ rfl rfl rfl
    · simp only [if_neg no, if_neg room]
      exact .refused filename length continuous host (.inr (by omega))

theorem listDevices_move (index : UInt8) (host : Host X) :
    Move fileTimestamp reg (.request (.listDevices index) host) (reg.listDevices index) := by
  unfold listDevices
  split
  · rename_i custom found
    exact .listed index host custom found
  · rename_i none
    exact .missing _ host index rfl (by simpa using none)

theorem call_move {r : RecorderRequest} {index : UInt8} (host : Host X)
    (addressed : r.index = some index) :
    Move fileTimestamp reg (.request r host) (reg.call r index) := by
  unfold call
  by_cases found : index.toNat < reg.customRecorders.length
  · rw [if_pos found]
    exact .called r host index addressed found
  · rw [if_neg found]
    exact .missing r host index addressed (by omega)

theorem handle_move (r : RecorderRequest) (host : Host X) :
    Move fileTimestamp reg (.request r host) (reg.handle fileTimestamp host r) := by
  cases r with
  | createCustomRecorder filename length continuous =>
    exact createCustomRecorder_move filename length continuous host
  | listDevices index => exact listDevices_move index host
  | _ => exact call_move host rfl

/-- Every step is one of these. -/
theorem step_move {a : Action X} (h : reg.step fileTimestamp a = some reg') :
    Move fileTimestamp reg a reg' := by
  unfold step at h
  by_cases ended : reg.terminated = true
  · rw [if_pos ended] at h
    cases h
  rw [if_neg ended] at h
  cases a with
  | request r host =>
    simp only at h
    split at h
    · cases h
      exact handle_move r host
    · cases h
  | thread i a =>
    simp only at h
    split at h
    · rename_i custom found
      split at h
      · rename_i allowed
        obtain ⟨s, stepped, rfl⟩ := Option.map_eq_some_iff.mp h
        exact .thread i a custom s found allowed stepped
      · cases h
    · cases h

/-- The indices that were given out, in order. -/
def issued (log : List (RecorderRequest × RecorderResponse)) : List UInt8 :=
  log.filterMap fun
    | (.createCustomRecorder .., .index index) => if index = 255 then none else some index
    | _ => none

/-- The statements of one recorder in a run. -/
def Action.own (k : Nat) : Action X → Option Recorder.Action
  | .request .. => none
  | .thread i a => if i = k then some a else none

/-- What holds of the registry, of each request it takes and of each run from here. -/
structure Kept (fileTimestamp : Int → String) (reg : Registry X) : Prop where
  limit : reg.customRecorders.length ≤ maxCustomRecorders
  issued : issued reg.log = (List.range reg.customRecorders.length).map UInt8.ofNat
  created : ∀ filename length continuous host reg', refuses (cStr filename) = false →
    reg.customRecorders.length < maxCustomRecorders →
    reg.step fileTimestamp (.request (.createCustomRecorder filename length continuous) host) =
      some reg' →
    ∃ index custom, index.toNat = (Registry.issued reg.log).length ∧ index ≠ 255 ∧
      reg' = (reg.push custom).answer (.createCustomRecorder filename length continuous)
        (.index index) ∧
      reg'.customRecorders[index.toNat]? = some custom ∧
      custom.cfg = recorderConfig fileTimestamp (cStr filename) length continuous host
  refused : ∀ filename length continuous host reg',
    refuses (cStr filename) = true ∨ maxCustomRecorders ≤ reg.customRecorders.length →
    reg.step fileTimestamp (.request (.createCustomRecorder filename length continuous) host) =
      some reg' →
    reg' = reg.answer (.createCustomRecorder filename length continuous) (.index 255)
  missing : ∀ r host index reg', r.index = some index → reg.customRecorders.length ≤ index.toNat →
    reg.step fileTimestamp (.request r host) = some reg' → reg' = reg.answer r r.default
  frame : ∀ a k custom reg', reg.step fileTimestamp a = some reg' →
    reg.customRecorders[k]? = some custom → reg'.customRecorders[k]? ≠ some custom →
    ∃ b, a = .thread k b ∧ ∀ c, b = .caller c →
      ∃ r index, reg.pending = some r ∧ r.index = some index ∧ index.toNat = k
  stable : ∀ as k custom reg', run (step fileTimestamp) reg as = some reg' →
    reg.customRecorders[k]? = some custom →
    ∃ s, run (Recorder.step custom.cfg) custom.recorder (as.filterMap (Action.own k)) = some s ∧
      reg'.customRecorders[k]? = some { custom with recorder := s }

@[simp] theorem customRecorders_answer (r : RecorderRequest) (response : RecorderResponse) :
    (reg.answer r response).customRecorders = reg.customRecorders := rfl

@[simp] theorem log_answer (r : RecorderRequest) (response : RecorderResponse) :
    (reg.answer r response).log = reg.log ++ [(r, response)] := rfl

@[simp] theorem customRecorders_push (custom : CustomRecorder X) :
    (reg.push custom).customRecorders = reg.customRecorders ++ [custom] := rfl

theorem after_cases (reg : Registry X) (i : Nat) (custom : CustomRecorder X) (a : Recorder.Action)
    (s : Recorder.State X) :
    (reg.after i custom a s).customRecorders =
      reg.customRecorders.set i { custom with recorder := s } ∧
    (((reg.after i custom a s).pending = reg.pending ∧ (reg.after i custom a s).log = reg.log) ∨
      ∃ r, reg.pending = some r ∧ (reg.after i custom a s).pending = none ∧
        (reg.after i custom a s).log = reg.log ++ [(r, r.response s.reply)]) := by
  unfold after
  split
  · rename_i r pending
    split
    · exact ⟨rfl, .inr ⟨r, pending, rfl, rfl⟩⟩
    · exact ⟨rfl, .inl ⟨rfl, rfl⟩⟩
  · exact ⟨rfl, .inl ⟨rfl, rfl⟩⟩

@[simp] theorem customRecorders_after (i : Nat) (custom : CustomRecorder X) (a : Recorder.Action)
    (s : Recorder.State X) : (reg.after i custom a s).customRecorders =
      reg.customRecorders.set i { custom with recorder := s } := (after_cases reg i custom a s).1

theorem issued_append (log : List (RecorderRequest × RecorderResponse))
    (more : List (RecorderRequest × RecorderResponse)) :
    issued (log ++ more) = issued log ++ issued more := List.filterMap_append

theorem issued_addressed {r : RecorderRequest} {index : UInt8} (response : RecorderResponse)
    (addressed : r.index = some index) : issued [(r, response)] = [] := by
  cases r with
  | createCustomRecorder => cases addressed
  | _ => simp [issued]

/-- The indices are counted up with the recorders, and no create is ever pending. -/
structure Counted (reg : Registry X) : Prop where
  limit : reg.customRecorders.length ≤ maxCustomRecorders
  issued : issued reg.log = (List.range reg.customRecorders.length).map UInt8.ofNat
  pending : ∀ r, reg.pending = some r → ∃ index, r.index = some index

theorem counted_initial : Counted (initial : Registry X) := ⟨Nat.zero_le _, rfl, nofun⟩

theorem Counted.answer {r : RecorderRequest} {response : RecorderResponse} (h : Counted reg)
    (none : Registry.issued [(r, response)] = []) : Counted (reg.answer r response) := by
  refine ⟨h.limit, ?_, nofun⟩
  rw [log_answer, issued_append, none, List.append_nil]
  exact h.issued

theorem index_ne {n : Nat} (room : n < maxCustomRecorders) :
    (UInt8.ofNat n).toNat = n ∧ UInt8.ofNat n ≠ 255 := by
  unfold maxCustomRecorders at room
  have inside : n < UInt8.size := by
    unfold UInt8.size
    omega
  have small : (UInt8.ofNat n).toNat = n := UInt8.toNat_ofNat_of_lt' inside
  refine ⟨small, fun last => ?_⟩
  rw [last] at small
  have value : (255 : UInt8).toNat = 255 := rfl
  omega

theorem counted_step {a : Action X} (h : Counted reg) (move : Move fileTimestamp reg a reg') :
    Counted reg' := by
  cases move with
  | refused filename length continuous host no => exact h.answer rfl
  | created filename length continuous host accepted room custom name cfg fresh =>
    refine ⟨?_, ?_, nofun⟩
    · rw [customRecorders_answer, customRecorders_push, List.length_append]
      exact room
    · have one : Registry.issued [(RecorderRequest.createCustomRecorder filename length continuous,
          RecorderResponse.index (UInt8.ofNat reg.customRecorders.length))] =
          [UInt8.ofNat reg.customRecorders.length] := by
        simp [Registry.issued, (index_ne room).2]
      rw [log_answer, issued_append, one, push, h.issued]
      simp [List.range_succ]
  | listed index host custom found => exact h.answer rfl
  | missing r host index addressed none => exact h.answer (issued_addressed _ addressed)
  | called r host index addressed found =>
    refine ⟨h.limit, h.issued, fun q pending => ?_⟩
    cases Option.some.inj pending
    exact ⟨index, addressed⟩
  | thread i a custom s found allowed stepped =>
    obtain ⟨slots, going | ⟨r, pending, done, log⟩⟩ := after_cases reg i custom a s
    · refine ⟨by simpa using h.limit, ?_, going.1 ▸ h.pending⟩
      rw [going.2, slots, List.length_set]
      exact h.issued
    · obtain ⟨index, addressed⟩ := h.pending r pending
      refine ⟨by simpa using h.limit, ?_, by simp [done]⟩
      rw [log, issued_append, issued_addressed _ addressed, List.append_nil, slots, List.length_set]
      exact h.issued

theorem counted_run {as : List (Action X)} (h : run (step fileTimestamp) initial as = some reg) :
    Counted reg :=
  run_invariant h counted_initial fun _ _ _ _ stepped counted =>
    counted_step counted (step_move stepped)

/-- A step leaves a recorder alone unless it is a statement of it. -/
theorem other_step {a : Action X} {k : Nat} {custom : CustomRecorder X}
    (move : Move fileTimestamp reg a reg') (other : a.own k = none)
    (found : reg.customRecorders[k]? = some custom) :
    reg'.customRecorders[k]? = some custom := by
  cases move with
  | created filename length continuous host accepted room new name cfg fresh =>
    have inside : k < reg.customRecorders.length := (List.getElem?_eq_some_iff.mp found).1
    rw [customRecorders_answer, customRecorders_push, List.getElem?_append_left inside]
    exact found
  | thread i a there s same allowed stepped =>
    have ne : i ≠ k := by
      intro same
      simp [Action.own, same] at other
    rw [customRecorders_after, List.getElem?_set_ne ne]
    exact found
  | _ => exact found

theorem own_step {a : Action X} {k : Nat} {b : Recorder.Action} {custom : CustomRecorder X}
    (move : Move fileTimestamp reg a reg') (own : a.own k = some b)
    (found : reg.customRecorders[k]? = some custom) :
    reg.allows k b = true ∧ ∃ s, Recorder.step custom.cfg custom.recorder b = some s ∧
      reg'.customRecorders[k]? = some { custom with recorder := s } := by
  cases move with
  | thread i a there s same allowed stepped =>
    obtain ⟨rfl, rfl⟩ : i = k ∧ a = b := by simpa [Action.own] using own
    cases Option.some.inj (same.symm.trans found)
    have inside : i < reg.customRecorders.length := (List.getElem?_eq_some_iff.mp found).1
    refine ⟨allowed, s, stepped, ?_⟩
    rw [customRecorders_after, List.getElem?_set_self inside]
  | _ => cases own

/-- What each new recorder has and a step of its own keeps, all recorders have. -/
theorem forall_recorder_step {P : CustomRecorder X → Prop} {a : Action X}
    (h : ∀ custom ∈ reg.customRecorders, P custom) (move : Move fileTimestamp reg a reg')
    (created : ∀ (filename : List UInt8) length continuous (host : Host X) custom,
      refuses (cStr filename) = false → custom.filename = cStr filename →
      custom.cfg = recorderConfig fileTimestamp (cStr filename) length continuous host →
      custom.recorder = Recorder.initial custom.cfg host.state host.now → P custom)
    (keep : ∀ custom a s, P custom → Recorder.step custom.cfg custom.recorder a = some s →
      P { custom with recorder := s }) :
    ∀ custom ∈ reg'.customRecorders, P custom := by
  cases move with
  | created filename length continuous host accepted room custom name cfg fresh =>
    intro other inside
    rcases List.mem_append.mp inside with old | new
    · exact h other old
    · cases List.mem_singleton.mp new
      exact created filename length continuous host custom accepted name cfg fresh
  | thread i a custom s found allowed stepped =>
    rw [customRecorders_after]
    intro other inside
    rcases List.mem_or_eq_of_mem_set inside with old | new
    · exact h other old
    · rw [new]
      exact keep custom a s (h custom (List.mem_of_getElem? found)) stepped
  | _ => exact h

/-- A recorder stays what it was created as, and its state is that of its own run. -/
theorem recorder_run {as : List (Action X)} {k : Nat} {custom : CustomRecorder X}
    (h : run (step fileTimestamp) reg as = some reg')
    (found : reg.customRecorders[k]? = some custom) :
    ∃ s, run (Recorder.step custom.cfg) custom.recorder (as.filterMap (Action.own k)) = some s ∧
      reg'.customRecorders[k]? = some { custom with recorder := s } := by
  refine run_project (fun reg s => reg.customRecorders[k]? = some { custom with recorder := s })
    h found ?_ ?_
  · intro reg a reg' s stepped other found
    exact other_step (step_move stepped) other found
  · intro reg a reg' s b stepped own found
    exact (own_step (step_move stepped) own found).2

theorem allows_caller {k : Nat} {c : CallerAction} (allowed : reg.allows k (.caller c) = true) :
    ∃ r index, reg.pending = some r ∧ r.index = some index ∧ index.toNat = k := by
  simp only [allows, Option.any_eq_true, Bool.and_eq_true, decide_eq_true_eq] at allowed
  obtain ⟨r, pending, ⟨index, addressed, same⟩, -⟩ := allowed
  exact ⟨r, index, pending, addressed, same⟩

theorem created_step {filename : List UInt8} {length : UInt32} {continuous : Bool} {host : Host X}
    (counted : Counted reg) (accepted : refuses (cStr filename) = false)
    (room : reg.customRecorders.length < maxCustomRecorders)
    (move : Move fileTimestamp reg (.request (.createCustomRecorder filename length continuous) host)
      reg') :
    ∃ index custom, index.toNat = (Registry.issued reg.log).length ∧ index ≠ 255 ∧
      reg' = (reg.push custom).answer (.createCustomRecorder filename length continuous)
        (.index index) ∧
      reg'.customRecorders[index.toNat]? = some custom ∧
      custom.cfg = recorderConfig fileTimestamp (cStr filename) length continuous host := by
  cases move with
  | refused filename length continuous host no =>
    rcases no with refused | full
    · exact absurd (accepted.symm.trans refused) Bool.false_ne_true
    · omega
  | created filename length continuous host accepted room custom name cfg fresh =>
    obtain ⟨value, ne⟩ := index_ne room
    refine ⟨_, custom, ?_, ne, rfl, ?_, cfg⟩
    · rw [value, counted.issued, List.length_map, List.length_range]
    · simp [value]
  | missing r host index addressed none => cases addressed
  | called r host index addressed found => cases addressed

theorem refused_step {filename : List UInt8} {length : UInt32} {continuous : Bool} {host : Host X}
    (no : refuses (cStr filename) = true ∨ maxCustomRecorders ≤ reg.customRecorders.length)
    (move : Move fileTimestamp reg (.request (.createCustomRecorder filename length continuous) host)
      reg') : reg' = reg.answer (.createCustomRecorder filename length continuous) (.index 255) := by
  cases move with
  | refused filename length continuous host no => rfl
  | created filename length continuous host accepted room custom name cfg fresh =>
    rcases no with refused | full
    · exact absurd (accepted.symm.trans refused) Bool.false_ne_true
    · omega
  | missing r host index addressed none => cases addressed
  | called r host index addressed found => cases addressed

/-- A request with an index that was not given out leaves all recorders and the defaults. -/
theorem missing_step {r : RecorderRequest} {host : Host X} {index : UInt8}
    (addressed : r.index = some index) (none : reg.customRecorders.length ≤ index.toNat)
    (move : Move fileTimestamp reg (.request r host) reg') : reg' = reg.answer r r.default := by
  cases move with
  | refused filename length continuous host no => cases addressed
  | created filename length continuous host accepted room custom name cfg fresh => cases addressed
  | listed index host custom found =>
    cases Option.some.inj addressed
    rw [List.getElem?_eq_none none] at found
    cases found
  | missing r host index addressed none => rfl
  | called r host other same found =>
    cases Option.some.inj (addressed.symm.trans same)
    omega

theorem own_thread {a : Action X} {k : Nat} {b : Recorder.Action} (own : a.own k = some b) :
    a = .thread k b := by
  cases a with
  | request r host => cases own
  | thread i a =>
    obtain ⟨rfl, rfl⟩ : i = k ∧ a = b := by simpa [Action.own] using own
    rfl

/-- A recorder changes by its own statements only, and by those of a handler only if the request
in progress has its index. -/
theorem frame_step {a : Action X} {k : Nat} {custom : CustomRecorder X}
    (move : Move fileTimestamp reg a reg') (found : reg.customRecorders[k]? = some custom)
    (changed : reg'.customRecorders[k]? ≠ some custom) :
    ∃ b, a = .thread k b ∧ ∀ c, b = .caller c →
      ∃ r index, reg.pending = some r ∧ r.index = some index ∧ index.toNat = k := by
  cases own : a.own k with
  | none => exact absurd (other_step move own found) changed
  | some b =>
    refine ⟨b, own_thread own, ?_⟩
    rintro c rfl
    exact allows_caller (own_step move own found).1

/-- In every run of requests and threads the recorders are kept apart under their indices. -/
theorem registry_kept (fileTimestamp : Int → String) (as : List (Action X)) (reg : Registry X)
    (h : run (step fileTimestamp) initial as = some reg) : Kept fileTimestamp reg := by
  have counted := counted_run h
  constructor
  · exact counted.limit
  · exact counted.issued
  · intro filename length continuous host reg' accepted room stepped
    exact created_step counted accepted room (step_move stepped)
  · intro filename length continuous host reg' no stepped
    exact refused_step no (step_move stepped)
  · intro r host index reg' addressed none stepped
    exact missing_step addressed none (step_move stepped)
  · intro a k custom reg' stepped found changed
    exact frame_step (step_move stepped) found changed
  · intro as k custom reg' continued found
    exact recorder_run continued found

/-- One keyboard, with a keymap that maps each key to its own code. -/
def keyboardHost : Host Unit where
  availableDevices := [⟨3, [], .keyboard, ⟨0, 0⟩, ⟨0, 0⟩⟩]
  distinct := List.pairwise_singleton _ _
  xkb := ⟨fun _ code => UInt32.ofNat code, fun x _ _ => x⟩
  state := some ()
  now := 0

/-- Two recorders, of which the second is started; a third is refused. -/
def coexist : List (Action Unit) :=
  [.request (.createCustomRecorder [0x61] 30 false) keyboardHost,
   .request (.createCustomRecorder [0x62] 30 false) keyboardHost,
   .request (.createCustomRecorder [0x61, 0x2f, 0x62] 30 false) keyboardHost,
   .request (.startCustomRecording 1) keyboardHost, .thread 1 (.caller .start),
   .thread 1 (.caller .spawn), .thread 1 (.record .clear), .thread 1 (.record .stamp),
   .request (.checkRecorderActive 99) keyboardHost]

theorem registry_kept_coexist : ∃ reg, run (step fun _ => "t") initial coexist = some reg ∧
    Kept (fun _ => "t") reg :=
  ⟨_, Option.eq_some_of_isSome (by decide),
    registry_kept _ coexist _ (Option.eq_some_of_isSome (by decide))⟩

/-- A name ends before its first 0: a slash after it is not looked at, and the recorder is made. -/
theorem slash_after_zero : slash ∈ [0x63, 0, slash, 0x64] ∧
    ∃ reg, step (fun _ => "t") initial
        (.request (.createCustomRecorder [0x63, 0, slash, 0x64] 30 false) keyboardHost) = some reg ∧
      reg.customRecorders.length = 1 ∧ reg.log.map Prod.snd = [.index 0] :=
  ⟨by decide, _, Option.eq_some_of_isSome (by decide), by decide, by decide⟩

end Registry

end TestRunner.Server
