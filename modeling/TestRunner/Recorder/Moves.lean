import TestRunner.Recorder.Threads

/-! What each statement can do, one constructor for every outcome of a statement: the
guard it found and the state it leaves. All invariants are case distinctions on these. -/
namespace TestRunner.Recorder

variable {X : Type}

inductive CallerMove (cfg : Config X) (s : State X) : CallerAction → State X → Prop where
  | startActive (pc : s.caller = .idle) (free : s.stopMtxFree = true) (active : s.isActive = true) :
      CallerMove cfg s .start { s with caller := .idle }
  | startInactive (pc : s.caller = .idle) (free : s.stopMtxFree = true) (inactive : s.isActive = false) :
      CallerMove cfg s .start { s with caller := .spawning }
  | terminate (pc : s.caller = .spawning) (joinable : s.mRecorderThread = true) :
      CallerMove cfg s .spawn { s with fault := some .terminate }
  | spawn (pc : s.caller = .spawning) (free : s.mRecorderThread = false) :
      CallerMove cfg s .spawn
        ({ s with mRecorderThread := true, record := .clearing, caller := .idle }.note .spawned)
  | stopFlag (pc : s.caller = .idle) (free : s.stopMtxFree = true) :
      CallerMove cfg s .stopFlag { s with mStop := true, caller := .stopping }
  | stopTime (pc : s.caller = .stopping) :
      CallerMove cfg s .stopTime
        ({ s with mStopTime := s.clock, caller := .joining }.note (.stopped s.clock))
  | stopJoin (pc : s.caller = .joining) (joinable : s.mRecorderThread = true)
      (ended : s.record = .returned) :
      CallerMove cfg s .stopJoin
        ({ s with mRecorderThread := false, record := .absent, caller := .idle,
                  reply := some (.path s.mRecordingPath) }.note .joined)
  | joinThrows (pc : s.caller = .joining) (free : s.mRecorderThread = false) :
      CallerMove cfg s .stopJoin { s with caller := .idle, reply := some .systemError }
  | isActive (pc : s.caller = .idle) (free : s.stopMtxFree = true) :
      CallerMove cfg s .isActive { s with reply := some (.active s.isActive) }
  | setDevices (devices : List InDevice) (pc : s.caller = .idle) :
      CallerMove cfg s (.setDevicesToRecord devices)
        { s with mDeviceMask := deviceMask cfg.availableDevices devices }
  | unrefState (pc : s.caller = .idle) :
      CallerMove cfg s .unrefState
        { s with mXkbState := s.mXkbState.unref, caller := .unrefKeymap }
  | unrefKeymap (pc : s.caller = .unrefKeymap) :
      CallerMove cfg s .unrefKeymap
        { s with mXkbKeymap := s.mXkbKeymap.unref, caller := .unrefCtx }
  | unrefCtx (pc : s.caller = .unrefCtx) :
      CallerMove cfg s .unrefCtx
        { s with mXkbCtx := s.mXkbCtx.unref, caller := .checkJoinable }
  | checkJoinable (pc : s.caller = .checkJoinable) (joinable : s.mRecorderThread = true) :
      CallerMove cfg s .checkJoinable { s with caller := .destroyFlag }
  | checkFree (pc : s.caller = .checkJoinable) (free : s.mRecorderThread = false) :
      CallerMove cfg s .checkJoinable { s with caller := .closing }
  | destroyFlag (pc : s.caller = .destroyFlag) (free : s.stopMtxFree = true) :
      CallerMove cfg s .destroyFlag { s with mStop := true, caller := .destroyStopping }
  | destroyTime (pc : s.caller = .destroyStopping) :
      CallerMove cfg s .destroyTime
        ({ s with mStopTime := s.clock, caller := .destroyJoining }.note (.stopped s.clock))
  | destroyJoin (pc : s.caller = .destroyJoining) (ended : s.record = .returned) :
      CallerMove cfg s .destroyJoin
        ({ s with mRecorderThread := false, record := .absent, caller := .closing }.note .joined)
  | close (pc : s.caller = .closing) :
      CallerMove cfg s .close
        { s with closed := cfg.availableDevices.map InDevice.fd, caller := .destroyed }

inductive RecordMove (cfg : Config X) (s : State X) : RecordAction → State X → Prop where
  | clear (pc : s.record = .clearing) (free : s.stopMtxFree = true) :
      RecordMove cfg s .clear { s with mStop := false, record := .stamping }
  | stamp (pc : s.record = .stamping) :
      RecordMove cfg s .stamp
        ({ s with mStartTime := s.clock, record := .setup }.note (.started s.clock))
  | setupContinuous (pc : s.record = .setup) (continuous : cfg.mContinuous = true) :
      RecordMove cfg s .setup
        { s with buffer := .loop, timeoutUsec := 10 * 1000, record := .loop,
                 devicesToRecord := monitored cfg.availableDevices s.mDeviceMask }
  | setupFixed (pc : s.record = .setup) (fixed : cfg.mContinuous = false) :
      RecordMove cfg s .setup
        { s with timeoutUsec := 10 * 1000, record := .loop,
                 devicesToRecord := monitored cfg.availableDevices s.mDeviceMask,
                 cmdFile := Function.update s.cmdFile cfg.mFilename (some (recording s.mStartTime [])) }
  | loadStop (pc : s.record = .loop) (stop : s.mStop = true) :
      RecordMove cfg s .load { s with record := cfg.exitLoop }
  | loadSelect (pc : s.record = .loop) (go : s.mStop = false) (continuous : cfg.mContinuous = true) :
      RecordMove cfg s .load { s with record := .select }
  | loadElapsed (pc : s.record = .loop) (go : s.mStop = false) (fixed : cfg.mContinuous = false) :
      RecordMove cfg s .load { s with record := .elapsedNow }
  | elapsedNow (pc : s.record = .elapsedNow) :
      RecordMove cfg s .elapsedNow { s with record := .elapsedCheck s.clock }
  | elapsed (now : Int) (pc : s.record = .elapsedCheck now) (free : s.stopMtxFree = true)
      (late : now - s.mStartTime ≥ cfg.length) :
      RecordMove cfg s .elapsedCheck { s with mStop := true, record := cfg.exitLoop }
  | notElapsed (now : Int) (pc : s.record = .elapsedCheck now) (free : s.stopMtxFree = true)
      (early : ¬ now - s.mStartTime ≥ cfg.length) :
      RecordMove cfg s .elapsedCheck { s with record := .select }
  | select (o : SelectOutcome) (left : Nat) (pc : s.record = .select) :
      RecordMove cfg s (.select o left) { s with record := afterSelect cfg s o, timeoutUsec := left }
  | readEvent (d : InDevice) (rest : List InDevice) (ev : InputEvent)
      (pc : s.record = .read (d :: rest)) :
      RecordMove cfg s (.read (.event ev)) { s with record := received s.clock d ev rest }
  | readNothing (d : InDevice) (rest : List InDevice) (pc : s.record = .read (d :: rest)) :
      RecordMove cfg s (.read .nothing) { s with record := resume rest }
  | escFlag (rest : List InDevice) (pc : s.record = .escFlag rest) (free : s.stopMtxFree = true) :
      RecordMove cfg s .escFlag { s with mStop := true, record := .escTime rest }
  | escTime (rest : List InDevice) (pc : s.record = .escTime rest) :
      RecordMove cfg s .escTime
        ({ s with mStopTime := s.clock, record := resume rest }.note (.stopped s.clock))
  | keysymSkip (e : Reading) (rest : List InDevice) (pc : s.record = .keysym e rest)
      (skip : e.resolves = false ∨ s.mXkbState = .null) :
      RecordMove cfg s .keysym { s with record := .store (e.record 0) rest }
  | keysym (e : Reading) (rest : List InDevice) (x : X) (pc : s.record = .keysym e rest)
      (resolves : e.resolves = true) (live : s.mXkbState = .live x) :
      RecordMove cfg s .keysym
        { s with record := .updateKey e (cfg.xkb.stateKeyGetOneSym x e.xkbCode) rest }
  | keysymReleased (e : Reading) (rest : List InDevice) (pc : s.record = .keysym e rest)
      (resolves : e.resolves = true) (dead : s.mXkbState = .released) :
      RecordMove cfg s .keysym { s with fault := some .releasedXkb }
  | updateSkip (e : Reading) (sym : UInt32) (rest : List InDevice)
      (pc : s.record = .updateKey e sym rest)
      (skip : e.direction = none ∨ s.mXkbState = .null) :
      RecordMove cfg s .updateKey { s with record := .store (e.record sym) rest }
  | updateKey (e : Reading) (sym : UInt32) (rest : List InDevice) (d : KeyDirection) (x : X)
      (pc : s.record = .updateKey e sym rest) (dir : e.direction = some d)
      (live : s.mXkbState = .live x) :
      RecordMove cfg s .updateKey
        { s with mXkbState := .live (cfg.xkb.stateUpdateKey x e.xkbCode d),
                 record := .store (e.record sym) rest }
  | updateReleased (e : Reading) (sym : UInt32) (rest : List InDevice) (d : KeyDirection)
      (pc : s.record = .updateKey e sym rest) (dir : e.direction = some d)
      (dead : s.mXkbState = .released) :
      RecordMove cfg s .updateKey { s with fault := some .releasedXkb }
  | push (r : InputRecord) (rest : List InDevice) (pc : s.record = .store r rest)
      (continuous : cfg.mContinuous = true) (free : s.bufMtxFree = true) :
      RecordMove cfg s .store
        ({ s with mInputBuf := s.mInputBuf ++ [r], record := resume rest }.note (.pushed r))
  | append (r : InputRecord) (rest : List InDevice) (pc : s.record = .store r rest)
      (fixed : cfg.mContinuous = false) :
      RecordMove cfg s .store
        { s with cmdFile := appendLine s.cmdFile cfg.mFilename (.passThrough r), record := resume rest }
  | joinBuffer (pc : s.record = .joinBuffer) (ended : s.buffer = .finished) :
      RecordMove cfg s .joinBuffer { s with buffer := .absent, record := .returned }

inductive BufferMove (cfg : Config X) (s : State X) : BufferAction → State X → Prop where
  | loadStop (pc : s.buffer = .loop) (stop : s.mStop = true) :
      BufferMove cfg s .load { s with buffer := .readStop }
  | loadWait (pc : s.buffer = .loop) (go : s.mStop = false) :
      BufferMove cfg s .load { s with buffer := .wait }
  | wake (pc : s.buffer = .wait) (free : s.stopMtxFree = true) :
      BufferMove cfg s .wake { s with buffer := .now }
  | now (pc : s.buffer = .now) : BufferMove cfg s .now { s with buffer := .trim s.clock }
  | trim (now : Int) (pc : s.buffer = .trim now) :
      BufferMove cfg s .trim
        ({ s with mInputBuf := periodicTrim (now - cfg.length) s.mInputBuf,
                  buffer := .loop }.note (.trimmed now))
  | readStop (pc : s.buffer = .readStop) :
      BufferMove cfg s .readStop { s with buffer := .finalTrim s.mStopTime }
  | finalTrim (v : Int) (pc : s.buffer = .finalTrim v) :
      BufferMove cfg s .finalTrim
        ({ s with mInputBuf := finalTrim (v - cfg.length) s.mInputBuf,
                  buffer := .openFile v }.note (.finalTrimmed v))
  | openFile (v : Int) (pc : s.buffer = .openFile v) :
      BufferMove cfg s .openFile
        { s with mRecordingPath := cfg.recordingPath s.clock,
                 cmdFile := Function.update s.cmdFile (cfg.recordingPath s.clock) (some []),
                 buffer := .header v }
  | header (v : Int) (pc : s.buffer = .header v) :
      BufferMove cfg s .header { s with buffer := .write v s.mStopTime }
  | write (v v' : Int) (pc : s.buffer = .write v v') :
      BufferMove cfg s .write
        { s with cmdFile := Function.update s.cmdFile s.mRecordingPath
                   (some (recording (headerStart cfg s.mStartTime v v') s.mInputBuf)),
                 buffer := .finished }

variable {cfg : Config X} {s s' : State X}

theorem callerMove {a : CallerAction} (h : callerStep cfg s a = some s') : CallerMove cfg s a s' := by
  unfold callerStep at h
  split at h
  case h_1 pc =>
    split at h
    · rename_i free
      obtain rfl := Option.some.inj h
      by_cases active : s.isActive = true
      · rw [if_pos active]
        exact .startActive pc free active
      · rw [if_neg active]
        exact .startInactive pc free (by simpa using active)
    · cases h
  case h_2 pc =>
    split at h
    · rename_i joinable
      obtain rfl := Option.some.inj h
      exact .terminate pc joinable
    · rename_i free
      obtain rfl := Option.some.inj h
      exact .spawn pc (by simpa using free)
  case h_11 pc =>
    obtain rfl := Option.some.inj h
    by_cases joinable : s.mRecorderThread = true
    · rw [if_pos joinable]
      exact .checkJoinable pc joinable
    · rw [if_neg joinable]
      exact .checkFree pc (by simpa using joinable)
  case h_5 pc =>
    split at h
    · rename_i joinable
      split at h
      · rename_i ended
        obtain rfl := Option.some.inj h
        exact .stopJoin pc joinable ended
      · cases h
    · rename_i free
      obtain rfl := Option.some.inj h
      exact .joinThrows pc (by simpa using free)
  all_goals first
    | cases h; constructor; assumption
    | split at h
      · cases h; constructor <;> assumption
      · cases h
    | cases h

theorem recordMove {a : RecordAction} (h : recordStep cfg s a = some s') : RecordMove cfg s a s' := by
  unfold recordStep at h
  split at h
  case h_3 pc =>
    obtain rfl := Option.some.inj h
    by_cases mode : cfg.mContinuous = true
    · simp only [if_pos mode]
      exact .setupContinuous pc mode
    · simp only [if_neg mode]
      exact .setupFixed pc (by simpa using mode)
  case h_4 pc =>
    obtain rfl := Option.some.inj h
    by_cases stop : s.mStop = true
    · rw [if_pos stop]
      exact .loadStop pc stop
    · have go : s.mStop = false := by simpa using stop
      rw [if_neg stop]
      by_cases mode : cfg.mContinuous = true
      · rw [if_pos mode]
        exact .loadSelect pc go mode
      · rw [if_neg mode]
        exact .loadElapsed pc go (by simpa using mode)
  case h_6 now pc =>
    split at h
    · rename_i free
      split at h
      · rename_i late
        cases h
        exact .elapsed now pc free late
      · rename_i early
        cases h
        exact .notElapsed now pc free early
    · cases h
  case h_12 e rest pc =>
    split at h
    · rename_i resolves
      split at h
      · rename_i null
        cases h
        exact .keysymSkip e rest pc (.inr null)
      · rename_i x live
        cases h
        exact .keysym e rest x pc resolves live
      · rename_i dead
        cases h
        exact .keysymReleased e rest pc resolves dead
    · rename_i other
      cases h
      exact .keysymSkip e rest pc (.inl (by simpa using other))
  case h_13 e sym rest pc =>
    split at h
    · rename_i dir
      cases h
      exact .updateSkip e sym rest pc (.inl dir)
    · rename_i null
      cases h
      exact .updateSkip e sym rest pc (.inr null)
    · rename_i d x dir live
      cases h
      exact .updateKey e sym rest d x pc dir live
    · rename_i d dir dead
      cases h
      exact .updateReleased e sym rest d pc dir dead
  case h_14 r rest pc =>
    split at h
    · rename_i mode
      split at h
      · rename_i free
        cases h
        exact .push r rest pc mode free
      · cases h
    · rename_i mode
      cases h
      exact .append r rest pc (by simpa using mode)
  all_goals first
    | cases h; constructor; assumption
    | split at h
      · cases h; constructor <;> assumption
      · cases h
    | cases h

theorem bufferMove {a : BufferAction} (h : bufferStep cfg s a = some s') : BufferMove cfg s a s' := by
  unfold bufferStep at h
  split at h
  case h_1 pc =>
    obtain rfl := Option.some.inj h
    by_cases stop : s.mStop = true
    · rw [if_pos stop]
      exact .loadStop pc stop
    · rw [if_neg stop]
      exact .loadWait pc (by simpa using stop)
  all_goals first
    | cases h; constructor; assumption
    | split at h
      · cases h; constructor <;> assumption
      · cases h
    | cases h

inductive Move (cfg : Config X) (s : State X) : Action → State X → Prop where
  | caller {a : CallerAction} {s' : State X} (m : CallerMove cfg s a s') : Move cfg s (.caller a) s'
  | record {a : RecordAction} {s' : State X} (m : RecordMove cfg s a s') : Move cfg s (.record a) s'
  | buffer {a : BufferAction} {s' : State X} (m : BufferMove cfg s a s') : Move cfg s (.buffer a) s'
  | tick (t : Int) : Move cfg s (.tick t) { s with clock := t }

/-- Every step is a move. -/
theorem step_move {a : Action} (h : step cfg s a = some s') : s.fault = none ∧ Move cfg s a s' := by
  unfold step at h
  split at h
  · cases h
  · rename_i fault
    refine ⟨by simpa using fault, ?_⟩
    cases a with
    | caller a => exact .caller (callerMove h)
    | record a => exact .record (recordMove h)
    | buffer a => exact .buffer (bufferMove h)
    | tick t => cases h; exact .tick t

theorem callerStep_move {a : CallerAction} (m : CallerMove cfg s a s') :
    callerStep cfg s a = some s' := by
  cases m <;> simp [callerStep, *]

theorem recordStep_move {a : RecordAction} (m : RecordMove cfg s a s') :
    recordStep cfg s a = some s' := by
  cases m with
  | setupFixed pc fixed => simp [recordStep, pc, fixed, recording]
  | keysymSkip e rest pc skip =>
    rcases skip with other | null
    · simp [recordStep, pc, other]
    · cases resolves : e.resolves <;> simp [recordStep, pc, resolves, null]
  | updateSkip e sym rest pc skip =>
    rcases skip with none | null
    · simp [recordStep, pc, none]
    · cases dir : e.direction <;> simp [recordStep, pc, dir, null]
  | _ => simp [recordStep, *]

theorem bufferStep_move {a : BufferAction} (m : BufferMove cfg s a s') :
    bufferStep cfg s a = some s' := by
  cases m <;> simp [bufferStep, *]

/-- Every move is a step, unless a fault has ended the run. -/
theorem move_step {a : Action} (fault : s.fault = none) (move : Move cfg s a s') :
    step cfg s a = some s' := by
  unfold step
  rw [if_neg (by simp [fault])]
  cases move with
  | caller m => exact callerStep_move m
  | record m => exact recordStep_move m
  | buffer m => exact bufferStep_move m
  | tick t => rfl

/-- Only its own thread takes the caller on. -/
theorem caller_thread {a : Action} (move : Move cfg s a s') (thread : ∀ c, a ≠ .caller c) :
    s'.caller = s.caller := by
  cases move with
  | caller m => exact absurd rfl (thread _)
  | record m => cases m <;> rfl
  | buffer m => cases m <;> rfl
  | tick t => rfl

end TestRunner.Recorder
