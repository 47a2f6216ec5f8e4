import TestRunner.Core
import TestRunner.Run
import Mathlib.Logic.Function.Basic

/-! One `TestRunnerRecorder` as three threads over shared members: the calling
thread (`Start`, `Stop`, `isActive`, the destructor), the thread of `Record()` and
the thread of `processBuffer()`. One action is one statement, but for five that take
a whole block: `setDevicesToRecord`, which loops over the listed devices, `setup`
from the start of the buffer thread to the loop, with the mask and the header, and
`trim`, `finalTrim` and `write`, which loop over the buffer under `buf_mtx` (`Loops`
takes these by the iteration). A `lock_guard` is taken together with the first
statement of its block and released with the last. What is put into a file's stream
is kept by its path: whether the file could be opened, and when its text is written,
is not said here. -/
namespace TestRunner.Recorder

inductive KeyDirection where
  | down | up
  deriving DecidableEq, Repr

/-- The two functions of libxkbcommon that `Record()` calls, on an abstract state. -/
structure Xkb (X : Type) where
  stateKeyGetOneSym : X → Nat → UInt32
  stateUpdateKey : X → Nat → KeyDirection → X

/-- A pointer to a reference-counted libxkbcommon object. -/
inductive XkbRef (X : Type) where
  | null
  | live (x : X)
  | released
  deriving DecidableEq, Repr

/-- The members that no step changes after the constructor. Each open gives its own
descriptor. `fileTimestamp` prints a clock reading as local time. -/
structure Config (X : Type) where
  mFilename : String
  mRecordingLength : UInt32
  mContinuous : Bool
  availableDevices : List InDevice
  distinct : (availableDevices.map InDevice.fd).Nodup
  xkb : Xkb X
  fileTimestamp : Int → String

/-- An event that `Record()` has read, with the clock reading taken for it. -/
structure Reading where
  tsAbs : Int
  device : InDevice
  ev : InputEvent
  deriving DecidableEq, Repr

inductive CallerPc where
  | idle
  -- `Start()` found the recorder inactive; the thread assignment is next
  | spawning
  -- `Stop()` holds `stop_mtx` with `m_stop` set; `m_stop_time` is next
  | stopping
  | joining
  | unrefKeymap
  | unrefCtx
  -- the destructor is about to ask whether the thread is joinable
  | checkJoinable
  | destroyFlag
  -- as `stopping`, in the destructor
  | destroyStopping
  | destroyJoining
  | closing
  | destroyed
  deriving DecidableEq, Repr

/-- Where the thread of `Record()` is. `todo` lists the ready devices still to be read
in this round, in the order of the inner loop. -/
inductive RecordPc where
  | absent
  | clearing
  -- holds `stop_mtx` with `m_stop` cleared; `m_start_time` is next
  | stamping
  | setup
  -- at the loop condition, about to load `m_stop` in `is_done()`
  | loop
  | elapsedNow
  | elapsedCheck (currentTime : Int)
  | select
  | read (todo : List InDevice)
  | escFlag (todo : List InDevice)
  -- holds `stop_mtx` with `m_stop` set by ESC; `m_stop_time` is next
  | escTime (todo : List InDevice)
  | keysym (e : Reading) (todo : List InDevice)
  | updateKey (e : Reading) (keysym : UInt32) (todo : List InDevice)
  | store (r : InputRecord) (todo : List InDevice)
  | joinBuffer
  | returned
  deriving DecidableEq, Repr

/-- Where the thread of `processBuffer()` is. `v` is the value of `m_stop_time` that
the final trim uses, `v'` the one that the header comparison uses. -/
inductive BufferPc where
  | absent
  | loop
  | wait
  | now
  | trim (currentTime : Int)
  | readStop
  | finalTrim (v : Int)
  | openFile (v : Int)
  | header (v : Int)
  | write (v v' : Int)
  | finished
  deriving DecidableEq, Repr

/-- `std::terminate`, or a use of a released libxkbcommon object. -/
inductive Fault where
  | terminate
  | releasedXkb
  deriving DecidableEq, Repr

inductive Reply where
  | active (b : Bool)
  | path (p : String)
  -- `join()` on a handle that is not joinable throws `std::system_error`
  | systemError
  deriving DecidableEq, Repr

/-- History entries. No step reads them. -/
inductive Entry where
  | spawned
  | joined
  | started (t : Int)
  | stopped (t : Int)
  | pushed (r : InputRecord)
  | trimmed (currentTime : Int)
  | finalTrimmed (v : Int)
  deriving DecidableEq, Repr

structure State (X : Type) where
  mStop : Bool
  mStartTime : Int
  mStopTime : Int
  mInputBuf : List InputRecord
  mRecordingPath : String
  mDeviceMask : UInt64
  mXkbState : XkbRef X
  mXkbKeymap : XkbRef Unit
  mXkbCtx : XkbRef Unit
  mRecorderThread : Bool
  caller : CallerPc
  record : RecordPc
  buffer : BufferPc
  /- locals of `Record()` that live across loop iterations -/
  devicesToRecord : List InDevice
  timeoutUsec : Nat
  clock : Int
  /- the lines that were put into the `cmd_file` that was last opened with a path -/
  cmdFile : String → Option (List Line)
  closed : List Int
  reply : Option Reply
  fault : Option Fault
  log : List Entry

variable {X : Type}

/-- The recorder as its constructor leaves it, with the state that `setup_xkb` made. -/
def initial (cfg : Config X) (xkb : Option X) (now : Nat) : State X where
  mStop := true
  mStartTime := 0
  mStopTime := 0
  mInputBuf := []
  mRecordingPath := if cfg.mContinuous then "" else cfg.mFilename
  mDeviceMask := 0xFFFFFFFFFFFFFFFF
  mXkbState := match xkb with | some x => .live x | none => .null
  mXkbKeymap := if xkb.isSome then .live () else .null
  mXkbCtx := if xkb.isSome then .live () else .null
  mRecorderThread := false
  caller := .idle
  record := .absent
  buffer := .absent
  devicesToRecord := []
  timeoutUsec := 0
  clock := now
  cmdFile := fun _ => none
  closed := []
  reply := none
  fault := none
  log := []

def Config.length (cfg : Config X) : Int := cfg.mRecordingLength.toNat

def CallerPc.holdsStop : CallerPc → Bool
  | .stopping | .destroyStopping => true
  | _ => false

def RecordPc.holdsStop : RecordPc → Bool
  | .stamping | .escTime _ => true
  | _ => false

def BufferPc.holdsBuf : BufferPc → Bool
  | .openFile _ | .header _ | .write _ _ => true
  | _ => false

def State.isActive (s : State X) : Bool := !s.mStop

def State.stopMtxFree (s : State X) : Bool := !s.caller.holdsStop && !s.record.holdsStop

/-- `processBuffer()` holds `buf_mtx` from its final trim to its end. -/
def State.bufMtxFree (s : State X) : Bool := !s.buffer.holdsBuf

def State.note (s : State X) (e : Entry) : State X := { s with log := s.log ++ [e] }

def XkbRef.unref : XkbRef X → XkbRef X
  | .live _ => .released
  | r => r

inductive CallerAction where
  | start
  | spawn
  | stopFlag
  | stopTime
  | stopJoin
  | isActive
  | setDevicesToRecord (devices : List InDevice)
  | unrefState
  | unrefKeymap
  | unrefCtx
  | checkJoinable
  | destroyFlag
  | destroyTime
  | destroyJoin
  | close
  deriving DecidableEq, Repr

inductive SelectOutcome where
  | timeout
  | error
  | ready (fds : List Int)
  deriving DecidableEq, Repr

/-- `read()` gives an event or nothing; the failures differ in a log message only. -/
inductive ReadOutcome where
  | event (ev : InputEvent)
  | nothing
  deriving DecidableEq, Repr

/-- The actions of `Record()`. `select` also says what the kernel left of the timeout. -/
inductive RecordAction where
  | clear
  | stamp
  | setup
  | load
  | elapsedNow
  | elapsedCheck
  | select (o : SelectOutcome) (left : Nat)
  | read (o : ReadOutcome)
  | escFlag
  | escTime
  | keysym
  | updateKey
  | store
  | joinBuffer
  deriving DecidableEq, Repr

/-- The actions of `processBuffer()`. `wake` is the return of `wait_for`, notified or
timed out. -/
inductive BufferAction where
  | load | wake | now | trim | readStop | finalTrim | openFile | header | write
  deriving DecidableEq, Repr

inductive Action where
  | caller (a : CallerAction)
  | record (a : RecordAction)
  | buffer (a : BufferAction)
  -- the system clock changes, to any value
  | tick (t : Int)
  deriving DecidableEq, Repr

/-- The mask of `setDevicesToRecord()`: the bit of each device whose descriptor is listed.
Shifts of a `uint64_t` count modulo 64. -/
def deviceMask (available devices : List InDevice) : UInt64 :=
  available.zipIdx.foldl (fun mask d =>
    if devices.any (fun device => d.1.fd = device.fd) then mask ||| (1 <<< UInt64.ofNat d.2)
    else mask) 0

def callerStep (cfg : Config X) (s : State X) (a : CallerAction) : Option (State X) :=
  match s.caller, a with
  | .idle, .start =>
    if s.stopMtxFree then some { s with caller := if s.isActive then .idle else .spawning } else none
  | .spawning, .spawn =>
    if s.mRecorderThread then some { s with fault := some .terminate }
    else some ({ s with mRecorderThread := true, record := .clearing, caller := .idle }.note .spawned)
  | .idle, .stopFlag =>
    if s.stopMtxFree then some { s with mStop := true, caller := .stopping } else none
  | .stopping, .stopTime =>
    some ({ s with mStopTime := s.clock, caller := .joining }.note (.stopped s.clock))
  | .joining, .stopJoin =>
    if s.mRecorderThread then
      if s.record = .returned then
        some ({ s with mRecorderThread := false, record := .absent, caller := .idle,
                       reply := some (.path s.mRecordingPath) }.note .joined)
      else none
    else some { s with caller := .idle, reply := some .systemError }
  | .idle, .isActive =>
    if s.stopMtxFree then some { s with reply := some (.active s.isActive) } else none
  | .idle, .setDevicesToRecord devices =>
    some { s with mDeviceMask := deviceMask cfg.availableDevices devices }
  | .idle, .unrefState => some { s with mXkbState := s.mXkbState.unref, caller := .unrefKeymap }
  | .unrefKeymap, .unrefKeymap =>
    some { s with mXkbKeymap := s.mXkbKeymap.unref, caller := .unrefCtx }
  | .unrefCtx, .unrefCtx => some { s with mXkbCtx := s.mXkbCtx.unref, caller := .checkJoinable }
  | .checkJoinable, .checkJoinable =>
    some { s with caller := if s.mRecorderThread then .destroyFlag else .closing }
  | .destroyFlag, .destroyFlag =>
    if s.stopMtxFree then some { s with mStop := true, caller := .destroyStopping } else none
  | .destroyStopping, .destroyTime =>
    some ({ s with mStopTime := s.clock, caller := .destroyJoining }.note (.stopped s.clock))
  | .destroyJoining, .destroyJoin =>
    if s.record = .returned then
      some ({ s with mRecorderThread := false, record := .absent, caller := .closing }.note .joined)
    else none
  | .closing, .close =>
    some { s with closed := cfg.availableDevices.map InDevice.fd, caller := .destroyed }
  | _, _ => none

def monitored (devices : List InDevice) (mask : UInt64) : List InDevice :=
  (devices.zipIdx.filter (fun d => mask &&& (1 <<< UInt64.ofNat d.2) != 0)).map Prod.fst

def resume : List InDevice → RecordPc
  | [] => .loop
  | d :: rest => .read (d :: rest)

def Config.exitLoop (cfg : Config X) : RecordPc := if cfg.mContinuous then .joinBuffer else .returned

/-- The thread after `select`: a timeout starts over, an error leaves the loop. -/
def afterSelect (cfg : Config X) (s : State X) : SelectOutcome → RecordPc
  | .timeout => .loop
  | .error => cfg.exitLoop
  | .ready fds => resume (s.devicesToRecord.filter (fun d => d.fd ∈ fds))

def received (now : Int) (device : InDevice) (ev : InputEvent) (rest : List InDevice) : RecordPc :=
  if ev.isEsc then .escFlag rest else .keysym ⟨now, device, transformEvent device ev⟩ rest

def Reading.resolves (e : Reading) : Bool := e.ev.type = evKey ∧ e.device.type = .keyboard

def Reading.xkbCode (e : Reading) : Nat := e.ev.code.toNat + 8

def Reading.record (e : Reading) (keysym : UInt32) : InputRecord :=
  ⟨e.tsAbs, e.device.type, e.ev.type.toNat, e.ev.code.toNat, e.ev.value, keysym⟩

/-- Value 1 is a press, 0 a release; a repeat leaves the keyboard state alone. -/
def Reading.direction (e : Reading) : Option KeyDirection :=
  if e.ev.value = 1 then some .down else if e.ev.value = 0 then some .up else none

def appendLine (cmdFile : String → Option (List Line)) (path : String) (l : Line) :
    String → Option (List Line) :=
  Function.update cmdFile path ((cmdFile path).map (· ++ [l]))

def recordStep (cfg : Config X) (s : State X) (a : RecordAction) : Option (State X) :=
  match s.record, a with
  | .clearing, .clear =>
    if s.stopMtxFree then some { s with mStop := false, record := .stamping } else none
  | .stamping, .stamp =>
    some ({ s with mStartTime := s.clock, record := .setup }.note (.started s.clock))
  | .setup, .setup =>
    some { s with
      buffer := if cfg.mContinuous then .loop else s.buffer
      devicesToRecord := monitored cfg.availableDevices s.mDeviceMask
      timeoutUsec := 10 * 1000
      cmdFile := if cfg.mContinuous then s.cmdFile else
        Function.update s.cmdFile cfg.mFilename
          (some [.version recordingFormatVersion, .start s.mStartTime])
      record := .loop }
  | .loop, .load =>
    some { s with record := if s.mStop then cfg.exitLoop
                            else if cfg.mContinuous then .select else .elapsedNow }
  | .elapsedNow, .elapsedNow => some { s with record := .elapsedCheck s.clock }
  | .elapsedCheck now, .elapsedCheck =>
    if s.stopMtxFree then
      if now - s.mStartTime ≥ cfg.length then some { s with mStop := true, record := cfg.exitLoop }
      else some { s with record := .select }
    else none
  | .select, .select o left => some { s with record := afterSelect cfg s o, timeoutUsec := left }
  | .read (d :: rest), .read (.event ev) => some { s with record := received s.clock d ev rest }
  | .read (_ :: rest), .read .nothing => some { s with record := resume rest }
  | .escFlag rest, .escFlag =>
    if s.stopMtxFree then some { s with mStop := true, record := .escTime rest } else none
  | .escTime rest, .escTime =>
    some ({ s with mStopTime := s.clock, record := resume rest }.note (.stopped s.clock))
  | .keysym e rest, .keysym =>
    if e.resolves then
      match s.mXkbState with
      | .null => some { s with record := .store (e.record 0) rest }
      | .live x =>
        some { s with record := .updateKey e (cfg.xkb.stateKeyGetOneSym x e.xkbCode) rest }
      | .released => some { s with fault := some .releasedXkb }
    else some { s with record := .store (e.record 0) rest }
  | .updateKey e sym rest, .updateKey =>
    match e.direction, s.mXkbState with
    | none, _ | some _, .null => some { s with record := .store (e.record sym) rest }
    | some d, .live x =>
      some { s with mXkbState := .live (cfg.xkb.stateUpdateKey x e.xkbCode d),
                    record := .store (e.record sym) rest }
    | some _, .released => some { s with fault := some .releasedXkb }
  | .store r rest, .store =>
    if cfg.mContinuous then
      if s.bufMtxFree then
        some ({ s with mInputBuf := s.mInputBuf ++ [r], record := resume rest }.note (.pushed r))
      else none
    else some { s with cmdFile := appendLine s.cmdFile cfg.mFilename (.passThrough r),
                       record := resume rest }
  | .joinBuffer, .joinBuffer =>
    if s.buffer = .finished then some { s with buffer := .absent, record := .returned } else none
  | _, _ => none

def periodicTrim (cutoff : Int) : List InputRecord → List InputRecord
  | [] => []
  | r :: buf =>
    if r.tsAbs < cutoff ∨ (r :: buf).length > fileMaxLines then periodicTrim cutoff buf
    else r :: buf

def finalTrim (recStartTime : Int) : List InputRecord → List InputRecord
  | [] => []
  | r :: buf => if r.tsAbs < recStartTime then finalTrim recStartTime buf else r :: buf

def Config.recordingPath (cfg : Config X) (now : Int) : String :=
  "/tmp/" ++ cfg.mFilename ++ "_" ++ cfg.fileTimestamp now ++ ".rrc"

/-- The start time that the header prints: the window's start once the session lasted
at least the length, the session's start otherwise. -/
def headerStart (cfg : Config X) (startTime v v' : Int) : Int :=
  if v' - startTime ≥ cfg.length then v - cfg.length else startTime

def recording (start : Int) (records : List InputRecord) : List Line :=
  .version recordingFormatVersion :: .start start :: records.map .passThrough

/-- The thread of `processBuffer()`. In continuous mode `is_done()` is the load alone. -/
def bufferStep (cfg : Config X) (s : State X) (a : BufferAction) : Option (State X) :=
  match s.buffer, a with
  | .loop, .load => some { s with buffer := if s.mStop then .readStop else .wait }
  | .wait, .wake => if s.stopMtxFree then some { s with buffer := .now } else none
  | .now, .now => some { s with buffer := .trim s.clock }
  | .trim now, .trim =>
    some ({ s with mInputBuf := periodicTrim (now - cfg.length) s.mInputBuf,
                   buffer := .loop }.note (.trimmed now))
  | .readStop, .readStop => some { s with buffer := .finalTrim s.mStopTime }
  | .finalTrim v, .finalTrim =>
    some ({ s with mInputBuf := finalTrim (v - cfg.length) s.mInputBuf,
                   buffer := .openFile v }.note (.finalTrimmed v))
  | .openFile v, .openFile =>
    some { s with mRecordingPath := cfg.recordingPath s.clock,
                  cmdFile := Function.update s.cmdFile (cfg.recordingPath s.clock) (some []),
                  buffer := .header v }
  | .header v, .header => some { s with buffer := .write v s.mStopTime }
  | .write v v', .write =>
    some { s with cmdFile := Function.update s.cmdFile s.mRecordingPath
                    (some (recording (headerStart cfg s.mStartTime v v') s.mInputBuf)),
                  buffer := .finished }
  | _, _ => none

/-- One statement of one thread, or a change of the clock. After a fault there is no
next step. -/
def step (cfg : Config X) (s : State X) (a : Action) : Option (State X) :=
  if s.fault.isSome then none else
  match a with
  | .caller a => callerStep cfg s a
  | .record a => recordStep cfg s a
  | .buffer a => bufferStep cfg s a
  | .tick t => some { s with clock := t }

/-- A recorder over one keyboard, with a keymap that maps each key to its own code. -/
def keyboardRecorder (continuous : Bool) (length : UInt32) : Config Unit where
  mFilename := "rec"
  mRecordingLength := length
  mContinuous := continuous
  availableDevices := [⟨3, [], .keyboard, ⟨0, 0⟩, ⟨0, 0⟩⟩]
  distinct := by decide
  xkb := ⟨fun _ code => UInt32.ofNat code, fun x _ _ => x⟩
  fileTimestamp := fun _ => "t"

/-- From `Start()` to the first iteration of the loop. -/
def enterLoop : List Action :=
  [.caller .start, .caller .spawn, .record .clear, .record .stamp, .record .setup, .record .load]

def elapsedSession : List Action :=
  enterLoop.append [.tick 30000, .record .elapsedNow, .record .elapsedCheck]

def startSession : List Action := enterLoop.append [.buffer .load]

def stopCall : List Action := [.caller .stopFlag, .caller .stopTime, .caller .stopJoin]

/-- An event that comes to the thread waiting in `select`, up to its push. -/
def deliver (ev : InputEvent) : List Action :=
  [.record (.select (.ready [3]) 0), .record (.read (.event ev)), .record .keysym,
   .record .updateKey, .record .store, .record .load]

/-- The dump of a session whose stop the buffer thread has yet to notice. -/
def dumpWaiting : List Action :=
  [.buffer .wake, .buffer .now, .buffer .trim, .buffer .load, .buffer .readStop,
   .buffer .finalTrim, .buffer .openFile, .buffer .header]

/-- The rest of a session after its dump has noticed the stop. -/
def finishSession : List Action :=
  [.buffer .write, .record (.select .timeout 0), .record .load, .record .joinBuffer]

end TestRunner.Recorder
