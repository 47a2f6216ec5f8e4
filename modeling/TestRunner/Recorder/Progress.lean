import TestRunner.Recorder.Buffer
import TestRunner.Recorder.Escape

/-! No order of statements blocks a recorder: while a call is in progress or a thread runs,
a statement can be executed, and after a stop the threads end in a bounded number of steps. -/
namespace TestRunner.Recorder

variable {X : Type} {cfg : Config X} {s s' : State X}

/-- The statements of the two threads. -/
def Action.threaded : Action → Bool
  | .record _ | .buffer _ => true
  | .caller _ | .tick _ => false

/-- The first statement of a call, or a change of the clock. -/
def Action.outside : Action → Bool
  | .caller .start | .caller .stopFlag | .caller .isActive | .caller (.setDevicesToRecord _)
  | .caller .unrefState | .tick _ => true
  | _ => false

def State.running (s : State X) : Prop := s.record ≠ .absent ∧ s.record ≠ .returned

/-- A call is in progress, or a thread runs. -/
def State.busy (s : State X) : Prop :=
  (s.caller ≠ .idle ∧ s.caller ≠ .destroyed) ∨ s.running

/-- A round has a device left to read, and the thread of a dump lives as long as a continuous
session does. -/
structure Placed (cfg : Config X) (s : State X) : Prop where
  reads : s.record ≠ .read []
  joins : s.record = .joinBuffer → cfg.mContinuous = true
  buffers : cfg.mContinuous = true → s.record.inSession = true → s.buffer ≠ .absent

theorem resume_ne_read_nil (todo : List InDevice) : resume todo ≠ .read [] := by
  cases todo <;> simp [resume]

theorem resume_ne_joinBuffer (todo : List InDevice) : resume todo ≠ .joinBuffer := by
  cases todo <;> simp [resume]

theorem received_ne (now : Int) (d : InDevice) (ev : InputEvent) (todo : List InDevice) :
    received now d ev todo ≠ .read [] ∧ received now d ev todo ≠ .joinBuffer := by
  unfold received
  split <;> simp

theorem exitLoop_placed (cfg : Config X) :
    cfg.exitLoop ≠ .read [] ∧ (cfg.exitLoop = .joinBuffer → cfg.mContinuous = true) := by
  cases mode : cfg.mContinuous <;> simp [Config.exitLoop, mode]

theorem afterSelect_placed (o : SelectOutcome) : afterSelect cfg s o ≠ .read [] ∧
    (afterSelect cfg s o = .joinBuffer → cfg.mContinuous = true) := by
  cases o with
  | timeout => simp [afterSelect]
  | error => exact exitLoop_placed cfg
  | ready fds => exact ⟨resume_ne_read_nil _, fun same => absurd same (resume_ne_joinBuffer _)⟩

theorem placed_initial (xkb : Option X) (now : Nat) : Placed cfg (initial cfg xkb now) := by
  constructor <;> simp [initial]

theorem Placed.inside (h : Placed cfg s) (before : s.record.inSession = true)
    (buffer : s'.buffer = s.buffer) (reads : s'.record ≠ .read [])
    (joins : s'.record = .joinBuffer → cfg.mContinuous = true) : Placed cfg s' := by
  refine ⟨reads, joins, fun continuous _ => ?_⟩
  rw [buffer]
  exact h.buffers continuous before

theorem placed_step {a : Action} (move : Move cfg s a s') (h : Placed cfg s) : Placed cfg s' := by
  cases move with
  | caller m => cases m <;> constructor <;> simp_all [State.note, h.reads, h.joins, h.buffers]
  | record m =>
    cases m with
    | clear | stamp => constructor <;> simp [State.note]
    | setupContinuous pc continuous => constructor <;> simp
    | setupFixed pc fixed => constructor <;> simp [fixed]
    | joinBuffer => constructor <;> simp
    | loadStop pc | elapsed _ pc =>
      obtain ⟨reads, joins⟩ := exitLoop_placed cfg
      exact h.inside (by simp [pc]) rfl reads joins
    | select o left pc =>
      obtain ⟨reads, joins⟩ : afterSelect cfg s o ≠ .read [] ∧
          (afterSelect cfg s o = .joinBuffer → cfg.mContinuous = true) := afterSelect_placed o
      exact h.inside (by simp [pc]) rfl reads joins
    | readEvent d rest ev pc =>
      obtain ⟨reads, joins⟩ := received_ne s.clock d ev rest
      exact h.inside (by simp [pc]) rfl reads fun same => absurd same joins
    | readNothing _ rest pc | escTime rest pc | push _ rest pc | append _ rest pc =>
      exact h.inside (by simp [pc]) rfl (resume_ne_read_nil rest)
        fun same => absurd same (resume_ne_joinBuffer rest)
    | keysymReleased e rest pc | updateReleased e sym rest d pc =>
      exact h.inside (by simp [pc]) rfl h.reads h.joins
    | _ => exact h.inside (by simp [*]) rfl (by simp) (by simp)
  | buffer m =>
    cases m <;> refine ⟨h.reads, h.joins, ?_⟩ <;> simp [State.note]
  | tick t => exact ⟨h.reads, h.joins, h.buffers⟩

/-- Some statement of a thread can be executed. -/
def ThreadEnabled (cfg : Config X) (s : State X) : Prop :=
  ∃ a s', Action.threaded a = true ∧ step cfg s a = some s'

/-- Some statement can be executed that neither begins a call nor sets the clock. -/
def Enabled (cfg : Config X) (s : State X) : Prop :=
  ∃ a s', Action.outside a = false ∧ step cfg s a = some s'

theorem ThreadEnabled.enabled (h : ThreadEnabled cfg s) : Enabled cfg s := by
  obtain ⟨a, t, threaded, stepped⟩ := h
  refine ⟨a, t, ?_, stepped⟩
  cases a with
  | record a => rfl
  | buffer a => rfl
  | caller a => cases threaded
  | tick n => cases threaded

section Enabled

variable (fault : s.fault = none)

include fault

theorem threadEnabled_record {a : RecordAction} (m : RecordMove cfg s a s') :
    ThreadEnabled cfg s :=
  ⟨.record a, s', rfl, move_step fault (.record m)⟩

theorem threadEnabled_buffer {a : BufferAction} (m : BufferMove cfg s a s') :
    ThreadEnabled cfg s :=
  ⟨.buffer a, s', rfl, move_step fault (.buffer m)⟩

/-- Only the wait of the dump's thread needs a lock. -/
theorem threadEnabled_dump (some : s.buffer ≠ .absent) (unfinished : s.buffer ≠ .finished)
    (free : s.buffer = .wait → s.stopMtxFree = true) : ThreadEnabled cfg s := by
  cases pc : s.buffer with
  | absent => exact absurd pc some
  | finished => exact absurd pc unfinished
  | loop =>
    cases stop : s.mStop with
    | true => exact threadEnabled_buffer fault (.loadStop pc stop)
    | false => exact threadEnabled_buffer fault (.loadWait pc stop)
  | wait => exact threadEnabled_buffer fault (.wake pc (free pc))
  | now => exact threadEnabled_buffer fault (.now pc)
  | trim now => exact threadEnabled_buffer fault (.trim now pc)
  | readStop => exact threadEnabled_buffer fault (.readStop pc)
  | finalTrim v => exact threadEnabled_buffer fault (.finalTrim v pc)
  | openFile v => exact threadEnabled_buffer fault (.openFile v pc)
  | header v => exact threadEnabled_buffer fault (.header v pc)
  | write v v' => exact threadEnabled_buffer fault (.write v v' pc)

theorem threadEnabled_keysym {e : Reading} {rest : List InDevice} (pc : s.record = .keysym e rest) :
    ThreadEnabled cfg s := by
  cases resolves : e.resolves with
  | false => exact threadEnabled_record fault (.keysymSkip e rest pc (.inl resolves))
  | true =>
    cases state : s.mXkbState with
    | null => exact threadEnabled_record fault (.keysymSkip e rest pc (.inr state))
    | live x => exact threadEnabled_record fault (.keysym e rest x pc resolves state)
    | released => exact threadEnabled_record fault (.keysymReleased e rest pc resolves state)

theorem threadEnabled_updateKey {e : Reading} {sym : UInt32} {rest : List InDevice}
    (pc : s.record = .updateKey e sym rest) : ThreadEnabled cfg s := by
  cases direction : e.direction with
  | none => exact threadEnabled_record fault (.updateSkip e sym rest pc (.inl direction))
  | some d =>
    cases state : s.mXkbState with
    | null => exact threadEnabled_record fault (.updateSkip e sym rest pc (.inr state))
    | live x => exact threadEnabled_record fault (.updateKey e sym rest d x pc direction state)
    | released => exact threadEnabled_record fault (.updateReleased e sym rest d pc direction state)

theorem threadEnabled_loop (pc : s.record = .loop) : ThreadEnabled cfg s := by
  cases stop : s.mStop with
  | true => exact threadEnabled_record fault (.loadStop pc stop)
  | false =>
    cases mode : cfg.mContinuous with
    | true => exact threadEnabled_record fault (.loadSelect pc stop mode)
    | false => exact threadEnabled_record fault (.loadElapsed pc stop mode)

theorem threadEnabled_elapsedCheck {now : Int} (pc : s.record = .elapsedCheck now)
    (free : s.stopMtxFree = true) : ThreadEnabled cfg s := by
  by_cases late : now - s.mStartTime ≥ cfg.length
  · exact threadEnabled_record fault (.elapsed now pc free late)
  · exact threadEnabled_record fault (.notElapsed now pc free late)

/-- A push waits for the thread of the dump only, and this one for nothing while it holds
`buf_mtx`. -/
theorem threadEnabled_store {r : InputRecord} {rest : List InDevice}
    (pc : s.record = .store r rest) : ThreadEnabled cfg s := by
  cases mode : cfg.mContinuous with
  | false => exact threadEnabled_record fault (.append r rest pc mode)
  | true =>
    cases held : s.buffer.holdsBuf with
    | false => exact threadEnabled_record fault (.push r rest pc mode (by simp [State.bufMtxFree, held]))
    | true =>
      have dumping : s.buffer ≠ .absent ∧ s.buffer ≠ .finished ∧ s.buffer ≠ .wait := by
        refine ⟨?_, ?_, ?_⟩ <;> rintro pc <;> simp [pc, BufferPc.holdsBuf] at held
      exact threadEnabled_dump fault dumping.1 dumping.2.1 fun pc => absurd pc dumping.2.2

/-- A thread that runs, or the one that it waits for, can go on unless a call holds `stop_mtx`. -/
theorem threadEnabled_of_running (placed : Placed cfg s) (running : s.running)
    (unheld : s.caller.holdsStop = false) : ThreadEnabled cfg s := by
  have free (pc : s.record.holdsStop = false) : s.stopMtxFree = true := by
    simp [State.stopMtxFree, unheld, pc]
  cases pc : s.record with
  | absent => exact absurd pc running.1
  | returned => exact absurd pc running.2
  | clearing => exact threadEnabled_record fault (.clear pc (free (by simp [pc])))
  | stamping => exact threadEnabled_record fault (.stamp pc)
  | setup =>
    cases mode : cfg.mContinuous with
    | true => exact threadEnabled_record fault (.setupContinuous pc mode)
    | false => exact threadEnabled_record fault (.setupFixed pc mode)
  | loop => exact threadEnabled_loop fault pc
  | elapsedNow => exact threadEnabled_record fault (.elapsedNow pc)
  | elapsedCheck now => exact threadEnabled_elapsedCheck fault pc (free (by simp [pc]))
  | select => exact threadEnabled_record fault (.select .timeout 0 pc)
  | read todo =>
    cases todo with
    | nil => exact absurd pc placed.reads
    | cons d rest => exact threadEnabled_record fault (.readNothing d rest pc)
  | escFlag rest => exact threadEnabled_record fault (.escFlag rest pc (free (by simp [pc])))
  | escTime rest => exact threadEnabled_record fault (.escTime rest pc)
  | keysym e rest => exact threadEnabled_keysym fault pc
  | updateKey e sym rest => exact threadEnabled_updateKey fault pc
  | store r rest => exact threadEnabled_store fault pc
  | joinBuffer =>
    by_cases ended : s.buffer = .finished
    · exact threadEnabled_record fault (.joinBuffer pc ended)
    · have some := placed.buffers (placed.joins pc) (by simp [pc])
      exact threadEnabled_dump fault some ended fun _ => free (by simp [pc])

end Enabled

/-- A call in progress can go on, or a thread that it waits for can. -/
theorem enabled_of_caller (base : Base cfg s) (placed : Placed cfg s) (fault : s.fault = none)
    (called : s.caller ≠ .idle ∧ s.caller ≠ .destroyed) :
    Enabled cfg s := by
  have caller {a : CallerAction} {t : State X} (inside : Action.outside (.caller a) = false)
      (m : CallerMove cfg s a t) : Enabled cfg s :=
    ⟨_, t, inside, move_step fault (.caller m)⟩
  have waits (unended : s.record ≠ .returned) (joinable : s.mRecorderThread = true)
      (unheld : s.caller.holdsStop = false) : ThreadEnabled cfg s :=
    threadEnabled_of_running fault placed ⟨base.joinable.mp joinable, unended⟩ unheld
  cases pc : s.caller with
  | idle => exact absurd pc called.1
  | destroyed => exact absurd pc called.2
  | spawning =>
    cases joinable : s.mRecorderThread with
    | true => exact caller rfl (.terminate pc joinable)
    | false => exact caller rfl (.spawn pc joinable)
  | stopping => exact caller rfl (.stopTime pc)
  | joining =>
    cases joinable : s.mRecorderThread with
    | false => exact caller rfl (.joinThrows pc joinable)
    | true =>
      by_cases ended : s.record = .returned
      · exact caller rfl (.stopJoin pc joinable ended)
      · exact (waits ended joinable (by simp [pc])).enabled
  | unrefKeymap => exact caller rfl (.unrefKeymap pc)
  | unrefCtx => exact caller rfl (.unrefCtx pc)
  | checkJoinable =>
    cases joinable : s.mRecorderThread with
    | true => exact caller rfl (.checkJoinable pc joinable)
    | false => exact caller rfl (.checkFree pc joinable)
  | destroyFlag =>
    cases held : s.record.holdsStop with
    | false => exact caller rfl (.destroyFlag pc (by simp [State.stopMtxFree, pc, held]))
    | true =>
      have joinable := base.unjoined (.inl pc)
      have unended : s.record ≠ .returned := by
        rintro ended
        simp [ended] at held
      exact (waits unended joinable (by simp [pc])).enabled
  | destroyStopping => exact caller rfl (.destroyTime pc)
  | destroyJoining =>
    by_cases ended : s.record = .returned
    · exact caller rfl (.destroyJoin pc ended)
    · exact (waits ended (base.unjoined (.inr (.inr pc))) (by simp [pc])).enabled
  | closing => exact caller rfl (.close pc)

theorem reachable_placed {xkb : Option X} {now : Nat} {as : List Action}
    (reached : run (step cfg) (initial cfg xkb now) as = some s) : Base cfg s ∧ Placed cfg s := by
  refine run_invariant (I := fun t => Base cfg t ∧ Placed cfg t) reached
    ⟨base_initial xkb now, placed_initial xkb now⟩ ?_
  rintro a - t t' stepped ⟨base, placed⟩
  have move := (step_move stepped).2
  exact ⟨base_step base move, placed_step move placed⟩

/-- Some run leads to the state. -/
def Reached (cfg : Config X) (s : State X) : Prop :=
  ∃ xkb now as, run (step cfg) (initial cfg xkb now) as = some s

theorem reached_initial (xkb : Option X) (now : Nat) : Reached cfg (initial cfg xkb now) :=
  ⟨xkb, now, [], rfl⟩

theorem Reached.step {a : Action} (h : Reached cfg s) (stepped : step cfg s a = some s') :
    Reached cfg s' := by
  obtain ⟨xkb, now, as, reached⟩ := h
  exact ⟨xkb, now, as ++ [a], run_snoc.mpr ⟨s, reached, stepped⟩⟩

theorem Reached.placed (h : Reached cfg s) : Base cfg s ∧ Placed cfg s := by
  obtain ⟨xkb, now, as, reached⟩ := h
  exact reachable_placed reached

/-- The two locks and the two joins never wait for each other: in every reached state without a
fault in which a call is in progress or a thread runs, some statement of theirs can be executed. -/
theorem deadlock_free (cfg : Config X) (xkb : Option X) (now : Nat) (as : List Action) (s : State X)
    (reached : run (step cfg) (initial cfg xkb now) as = some s) (fault : s.fault = none)
    (busy : s.busy) : Enabled cfg s := by
  obtain ⟨base, placed⟩ := reachable_placed reached
  by_cases called : s.caller ≠ .idle ∧ s.caller ≠ .destroyed
  · exact enabled_of_caller base placed fault called
  · rcases busy with progress | running
    · exact absurd progress called
    · refine (threadEnabled_of_running fault placed running ?_).enabled
      cases pc : s.caller <;> simp_all

/-- The destructor waits for a dump that waits for `stop_mtx`. -/
theorem deadlock_free_destroyed : ∃ s,
    run (step (keyboardRecorder true 30000)) (initial (keyboardRecorder true 30000) (some ()) 0)
      (startSession ++ [.caller .unrefState, .caller .unrefKeymap, .caller .unrefCtx,
        .caller .checkJoinable, .caller .destroyFlag, .caller .destroyTime]) = some s ∧
    s.caller = .destroyJoining ∧ Enabled (keyboardRecorder true 30000) s :=
  ⟨_, Option.eq_some_of_isSome (by decide), by decide,
    deadlock_free _ _ _ _ _ (Option.eq_some_of_isSome (by decide)) (by decide)
      (.inl ⟨by decide, by decide⟩)⟩

/-- The steps that `Record()` has left once `m_stop` is set: up to four for each device
still to be read, and those that lead out of the loop. -/
def RecordPc.remaining (devices : Nat) : RecordPc → Nat
  | .absent | .returned => 0
  | .joinBuffer => 1
  | .loop => 2
  | .read todo => 4 * todo.length + 2
  | .escTime todo | .store _ todo => 4 * todo.length + 3
  | .escFlag todo | .updateKey _ _ todo => 4 * todo.length + 4
  | .keysym _ todo => 4 * todo.length + 5
  | .select => 4 * devices + 3
  | .elapsedCheck _ => 4 * devices + 4
  | .elapsedNow => 4 * devices + 5
  | .setup => 9
  | .stamping => 10
  | .clearing => 11

def BufferPc.remaining : BufferPc → Nat
  | .absent | .finished => 0
  | .write _ _ => 1
  | .header _ => 2
  | .openFile _ => 3
  | .finalTrim _ => 4
  | .readStop => 5
  | .loop => 6
  | .trim _ => 7
  | .now => 8
  | .wait => 9

def State.remaining (s : State X) : Nat :=
  if s.fault.isSome then 0 else s.record.remaining s.devicesToRecord.length + s.buffer.remaining

@[simp] theorem RecordPc.remaining_values (n : Nat) :
    RecordPc.absent.remaining n = 0 ∧ RecordPc.returned.remaining n = 0 ∧
    RecordPc.joinBuffer.remaining n = 1 ∧ RecordPc.loop.remaining n = 2 ∧
    (∀ l, (RecordPc.read l).remaining n = 4 * l.length + 2) ∧
    (∀ l, (RecordPc.escTime l).remaining n = 4 * l.length + 3) ∧
    (∀ r l, (RecordPc.store r l).remaining n = 4 * l.length + 3) ∧
    (∀ l, (RecordPc.escFlag l).remaining n = 4 * l.length + 4) ∧
    (∀ e k l, (RecordPc.updateKey e k l).remaining n = 4 * l.length + 4) ∧
    (∀ e l, (RecordPc.keysym e l).remaining n = 4 * l.length + 5) ∧
    RecordPc.select.remaining n = 4 * n + 3 ∧
    (∀ t, (RecordPc.elapsedCheck t).remaining n = 4 * n + 4) ∧
    RecordPc.elapsedNow.remaining n = 4 * n + 5 ∧ RecordPc.setup.remaining n = 9 ∧
    RecordPc.stamping.remaining n = 10 ∧ RecordPc.clearing.remaining n = 11 := by
  simp only [RecordPc.remaining, implies_true, and_self]

@[simp] theorem BufferPc.remaining_values :
    BufferPc.absent.remaining = 0 ∧ BufferPc.finished.remaining = 0 ∧
    (∀ v v', (BufferPc.write v v').remaining = 1) ∧ (∀ v, (BufferPc.header v).remaining = 2) ∧
    (∀ v, (BufferPc.openFile v).remaining = 3) ∧ (∀ v, (BufferPc.finalTrim v).remaining = 4) ∧
    BufferPc.readStop.remaining = 5 ∧ BufferPc.loop.remaining = 6 ∧
    (∀ t, (BufferPc.trim t).remaining = 7) ∧ BufferPc.now.remaining = 8 ∧
    BufferPc.wait.remaining = 9 := by
  simp only [BufferPc.remaining, implies_true, and_self]

/-- The rounds are over available devices. -/
structure Available (cfg : Config X) (s : State X) : Prop where
  devices : s.devicesToRecord.length ≤ cfg.availableDevices.length
  todo : s.record.left.length ≤ cfg.availableDevices.length

/-- `m_stop` is set and no session is about to clear it. -/
structure Stopping (cfg : Config X) (s : State X) : Prop extends Shape cfg s where
  stop : s.mStop = true
  kept : s.record ≠ .clearing

theorem resume_remaining (n : Nat) (todo : List InDevice) :
    (resume todo).remaining n ≤ 4 * todo.length + 2 := by
  cases todo <;> simp [resume]

theorem received_remaining (n : Nat) (now : Int) (d : InDevice) (ev : InputEvent) (todo : List InDevice) :
    (received now d ev todo).remaining n ≤ 4 * todo.length + 5 := by
  unfold received
  split <;> simp

theorem exitLoop_remaining (cfg : Config X) (n : Nat) : cfg.exitLoop.remaining n ≤ 1 := by
  unfold Config.exitLoop
  split <;> simp

theorem afterSelect_remaining (o : SelectOutcome) (n : Nat) :
    (afterSelect cfg s o).remaining n ≤ 4 * s.devicesToRecord.length + 2 := by
  cases o with
  | timeout => simp [afterSelect]
  | error =>
    have out := exitLoop_remaining cfg n
    simp only [afterSelect]
    omega
  | ready fds =>
    have fewer := List.length_filter_le (fun d => decide (d.fd ∈ fds)) s.devicesToRecord
    have round := resume_remaining n (s.devicesToRecord.filter fun d => decide (d.fd ∈ fds))
    simp only [afterSelect]
    omega

theorem left_afterSelect (o : SelectOutcome) :
    (afterSelect cfg s o).left.length ≤ s.devicesToRecord.length := by
  cases o with
  | timeout => exact Nat.zero_le _
  | error => rw [afterSelect, left_exitLoop]; exact Nat.zero_le _
  | ready fds => rw [afterSelect, left_resume]; exact List.length_filter_le _ _

theorem monitored_length (devices : List InDevice) (mask : UInt64) :
    (monitored devices mask).length ≤ devices.length := by
  rw [monitored, List.length_map]
  refine (List.length_filter_le _ _).trans ?_
  rw [List.length_zipIdx]

theorem available_initial (xkb : Option X) (now : Nat) : Available cfg (initial cfg xkb now) := by
  constructor <;> exact Nat.zero_le _

theorem available_step {a : Action} (move : Move cfg s a s') (h : Available cfg s) : Available cfg s' := by
  obtain ⟨devices, todo⟩ := h
  cases move with
  | caller m =>
    cases m with
    | spawn pc free => exact ⟨devices, Nat.zero_le _⟩
    | stopJoin pc joinable ended => exact ⟨devices, Nat.zero_le _⟩
    | destroyJoin pc ended => exact ⟨devices, Nat.zero_le _⟩
    | _ => exact ⟨devices, todo⟩
  | record m =>
    cases m with
    | setupContinuous pc continuous => exact ⟨monitored_length .., Nat.zero_le _⟩
    | setupFixed pc fixed => exact ⟨monitored_length .., Nat.zero_le _⟩
    | select o left pc => exact ⟨devices, (left_afterSelect o).trans devices⟩
    | _ =>
      refine ⟨devices, ?_⟩
      simp_all [State.note] <;> omega
  | buffer m => cases m <;> exact ⟨devices, todo⟩
  | tick t => exact ⟨devices, todo⟩

theorem RecordPc.ne_clearing_of_routine {pc : RecordPc} (h : pc.routine = true) : pc ≠ .clearing := by
  rintro rfl
  cases h

/-- Only a spawn brings the thread to its beginning. -/
theorem clearing_step {a : Action} (move : Move cfg s a s') (begins : s'.record = .clearing) :
    a = .caller .spawn ∨ s.record = .clearing := by
  cases move with
  | caller m => cases m <;> simp_all [State.note]
  | record m =>
    refine absurd begins ?_
    cases m with
    | loadStop => exact RecordPc.ne_clearing_of_routine (exitLoop_routine cfg)
    | elapsed => exact RecordPc.ne_clearing_of_routine (exitLoop_routine cfg)
    | select o => exact RecordPc.ne_clearing_of_routine (afterSelect_routine cfg o)
    | readEvent => exact RecordPc.ne_clearing_of_routine (received_routine ..)
    | readNothing | escTime | push | append =>
      exact RecordPc.ne_clearing_of_routine (resume_routine _)
    | _ => simp_all [State.note]
  | buffer m => cases m <;> exact .inr begins
  | tick t => exact .inr begins

theorem stopping_step {a : Action} (move : Move cfg s a s') (other : a ≠ .caller .spawn)
    (h : Stopping cfg s) : Stopping cfg s' := by
  refine ⟨shape_step h.toShape move, ?_, ?_⟩
  all_goals obtain ⟨-, stop, kept⟩ := h
  · cases move with
    | caller m => cases m <;> simp_all [State.note]
    | record m => cases m <;> simp_all [State.note]
    | buffer m => cases m <;> simp_all [State.note]
    | tick t => exact stop
  · exact fun begins => (clearing_step move begins).elim other kept

theorem remaining_running (fault : s.fault = none) :
    s.remaining = s.record.remaining s.devicesToRecord.length + s.buffer.remaining := by
  simp [State.remaining, fault]

theorem remaining_le :
    s.remaining ≤ s.record.remaining s.devicesToRecord.length + s.buffer.remaining := by
  unfold State.remaining
  split
  · exact Nat.zero_le _
  · exact Nat.le_refl _

theorem remaining_record {a : RecordAction} (stopping : Stopping cfg s) (m : RecordMove cfg s a s') :
    s'.record.remaining s'.devicesToRecord.length + s'.buffer.remaining <
        s.record.remaining s.devicesToRecord.length + s.buffer.remaining ∨
      s'.fault.isSome = true ∧ 0 < s.record.remaining s.devicesToRecord.length := by
  have round := fun rest => resume_remaining s.devicesToRecord.length rest
  have out := exitLoop_remaining cfg s.devicesToRecord.length
  cases m with
  | clear pc => exact absurd pc stopping.kept
  | setupContinuous pc continuous =>
    simp [pc, stopping.buffer_absent]
  | setupFixed pc fixed => simp [pc]
  | loadSelect pc go | loadElapsed pc go => simp [stopping.stop] at go
  | select o left pc =>
    have next : (afterSelect cfg s o).remaining s.devicesToRecord.length ≤ _ :=
      afterSelect_remaining o s.devicesToRecord.length
    simp only [pc, RecordPc.remaining_values]
    omega
  | readEvent d rest ev pc =>
    have next := received_remaining s.devicesToRecord.length s.clock d ev rest
    simp only [pc, RecordPc.remaining_values, List.length_cons]
    omega
  | readNothing d rest pc | escTime rest pc | push r rest pc | append r rest pc =>
    have next := round rest
    simp only [pc, RecordPc.remaining_values, State.note, List.length_cons]
    omega
  | loadStop pc | elapsed now pc =>
    simp only [pc, RecordPc.remaining_values]
    omega
  | keysymReleased e rest pc | updateReleased e sym rest d pc => exact .inr ⟨rfl, by simp [pc]⟩
  | joinBuffer pc ended => simp [pc, ended]
  | _ => simp [*, State.note]

theorem remaining_buffer {a : BufferAction} (stopping : Stopping cfg s) (m : BufferMove cfg s a s') :
    s'.record.remaining s'.devicesToRecord.length + s'.buffer.remaining <
      s.record.remaining s.devicesToRecord.length + s.buffer.remaining := by
  cases m with
  | loadWait pc go => simp [stopping.stop] at go
  | _ => simp [*, State.note]

/-- A statement of a thread leaves fewer of them, and no call adds one before the next spawn. -/
theorem remaining_step {a : Action} (fault : s.fault = none) (stopping : Stopping cfg s)
    (move : Move cfg s a s') (other : a ≠ .caller .spawn) :
    (if a.threaded then 1 else 0) + s'.remaining ≤ s.remaining := by
  have now := remaining_running fault
  have next := remaining_le (s := s')
  cases move with
  | caller m =>
    simp only [Action.threaded, Bool.false_eq_true, if_false]
    cases m with
    | spawn | terminate => exact absurd rfl other
    | stopJoin pc joinable ended => simp_all [State.note]
    | destroyJoin pc ended => simp_all [State.note]
    | _ => simp_all [State.note]
  | record m =>
    simp only [Action.threaded, if_true]
    rcases remaining_record stopping m with less | ⟨ended, some⟩
    · omega
    · have last : s'.remaining = 0 := by simp [State.remaining, ended]
      omega
  | buffer m =>
    have less := remaining_buffer stopping m
    simp only [Action.threaded, if_true]
    omega
  | tick t => simp_all [Action.threaded]

theorem remaining_bounded (available : Available cfg s) (stopping : Stopping cfg s) :
    s.remaining ≤ 4 * cfg.availableDevices.length + 14 := by
  obtain ⟨devices, todo⟩ := available
  have record : s.record.remaining s.devicesToRecord.length ≤
      4 * cfg.availableDevices.length + 5 ∨ s.record.remaining s.devicesToRecord.length ≤ 10 ∧
        s.buffer.remaining = 0 := by
    cases pc : s.record with
    | clearing => exact absurd pc stopping.kept
    | stamping | setup => right; simp [stopping.buffer_absent, pc]
    | _ => left; simp [pc] at todo ⊢ <;> omega
  have buffer : s.buffer.remaining ≤ 9 := by
    cases s.buffer <;> simp
  have most := remaining_le (s := s)
  omega

/-- The events that `Record()` may still store once `m_stop` is set. -/
def RecordPc.pushes (devices : Nat) : RecordPc → Nat
  | .select | .elapsedCheck _ | .elapsedNow => devices
  | .keysym _ todo | .updateKey _ _ todo | .store _ todo => todo.length + 1
  | pc => pc.left.length

@[simp] theorem RecordPc.pushes_values (n : Nat) :
    RecordPc.select.pushes n = n ∧ (∀ t, (RecordPc.elapsedCheck t).pushes n = n) ∧
    RecordPc.elapsedNow.pushes n = n ∧ (∀ e l, (RecordPc.keysym e l).pushes n = l.length + 1) ∧
    (∀ e k l, (RecordPc.updateKey e k l).pushes n = l.length + 1) ∧
    (∀ r l, (RecordPc.store r l).pushes n = l.length + 1) ∧
    (∀ l, (RecordPc.read l).pushes n = l.length) ∧ (∀ l, (RecordPc.escFlag l).pushes n = l.length) ∧
    (∀ l, (RecordPc.escTime l).pushes n = l.length) ∧ RecordPc.loop.pushes n = 0 ∧
    RecordPc.setup.pushes n = 0 ∧ RecordPc.stamping.pushes n = 0 ∧
    RecordPc.clearing.pushes n = 0 ∧ RecordPc.joinBuffer.pushes n = 0 ∧
    RecordPc.absent.pushes n = 0 ∧ RecordPc.returned.pushes n = 0 := by
  simp [RecordPc.pushes, RecordPc.left]

@[simp] theorem pushes_resume (n : Nat) (todo : List InDevice) :
    (resume todo).pushes n = todo.length := by
  cases todo <;> simp [resume]

@[simp] theorem pushes_exitLoop (cfg : Config X) (n : Nat) : cfg.exitLoop.pushes n = 0 := by
  cases mode : cfg.mContinuous <;> simp [Config.exitLoop, mode]

theorem pushes_received (n : Nat) (now : Int) (d : InDevice) (ev : InputEvent) (todo : List InDevice) :
    (received now d ev todo).pushes n ≤ todo.length + 1 := by
  unfold received
  split <;> simp

theorem pushes_afterSelect (o : SelectOutcome) (n : Nat) :
    (afterSelect cfg s o).pushes n ≤ s.devicesToRecord.length := by
  cases o with
  | timeout => simp [afterSelect]
  | error => simp [afterSelect]
  | ready fds =>
    rw [afterSelect, pushes_resume]
    exact List.length_filter_le _ _

/-- The records in the buffer, with those that may still come. -/
def State.stock (s : State X) : Nat :=
  s.mInputBuf.length + s.record.pushes s.devicesToRecord.length

/-- While the threads come to their end, what they store was already due. -/
theorem stock_step {a : Action} (stopping : Stopping cfg s) (move : Move cfg s a s')
    (other : a ≠ .caller .spawn) : s'.stock ≤ s.stock := by
  unfold State.stock
  cases move with
  | caller m =>
    cases m with
    | spawn | terminate => exact absurd rfl other
    | stopJoin pc joinable ended | destroyJoin pc ended => simp [State.note]
    | _ => exact Nat.le_refl _
  | record m =>
    cases m with
    | clear pc => exact absurd pc stopping.kept
    | loadSelect pc go | loadElapsed pc go => simp [stopping.stop] at go
    | select o left pc =>
      have next : (afterSelect cfg s o).pushes s.devicesToRecord.length ≤ _ :=
        pushes_afterSelect o s.devicesToRecord.length
      simpa [pc] using next
    | readEvent d rest ev pc =>
      simpa [pc] using pushes_received s.devicesToRecord.length s.clock d ev rest
    | push r rest pc =>
      simp only [pc, State.note, List.length_append, List.length_singleton, pushes_resume,
        RecordPc.pushes_values]
      omega
    | _ => simp [*, State.note]
  | buffer m =>
    cases m with
    | trim now pc =>
      have shorter := (periodicTrim_suffix (now - cfg.length) s.mInputBuf).length_le
      exact Nat.add_le_add_right shorter _
    | finalTrim v pc =>
      have shorter : (finalTrim (v - cfg.length) s.mInputBuf).length ≤ s.mInputBuf.length :=
        finalTrim_eq_cut (v - cfg.length) s.mInputBuf ▸ (Window.cut_suffix _ _ _).length_le
      exact Nat.add_le_add_right shorter _
    | _ => exact Nat.le_refl _
  | tick t => exact Nat.le_refl _

theorem stock_bounded (available : Available cfg s) :
    s.stock ≤ s.mInputBuf.length + cfg.availableDevices.length + 1 := by
  obtain ⟨devices, todo⟩ := available
  unfold State.stock
  cases pc : s.record <;> simp [pc] at todo ⊢ <;> omega

/-- Once `m_stop` is set and no session is about to clear it, the two threads take at most four steps
more for each available device and fourteen others, in any order with the calls of the caller, where
the set-up, a trim and the writing of the dump are one step each; what the trims and the dump go over is
at most one record more for each device, and one other, than the buffer had. When none of their steps
can be taken and the caller does not hold `stop_mtx`, they have ended. -/
theorem stop_ends (cfg : Config X) (xkb : Option X) (now : Nat) (as bs : List Action)
    (s t : State X) (reached : run (step cfg) (initial cfg xkb now) as = some s)
    (stop : s.mStop = true) (kept : s.record ≠ .clearing)
    (continued : run (step cfg) s bs = some t) (other : .caller .spawn ∉ bs) :
    bs.countP Action.threaded ≤ 4 * cfg.availableDevices.length + 14 ∧
      t.mInputBuf.length ≤ s.mInputBuf.length + cfg.availableDevices.length + 1 ∧
      (t.fault = none → t.caller.holdsStop = false → ¬ ThreadEnabled cfg t →
        ¬ t.running ∧ t.buffer = .absent) := by
  obtain ⟨base, -⟩ := reachable_placed reached
  have available : Available cfg s := run_invariant reached (available_initial xkb now)
    fun a _ s t stepped => available_step (step_move stepped).2
  have stopping : Stopping cfg s := ⟨base.toShape, stop, kept⟩
  have unspawned {a : Action} (inside : a ∈ bs) : a ≠ .caller .spawn := fun same => other (same ▸ inside)
  have counted : Stopping cfg t ∧ bs.countP Action.threaded + t.remaining ≤ s.remaining := by
    refine countP_le_of_decreasing continued stopping ?_
    intro a inside s t stopping stepped
    obtain ⟨fault, move⟩ := step_move stepped
    exact ⟨stopping_step move (unspawned inside) stopping,
      remaining_step fault stopping move (unspawned inside)⟩
  have stocked : Stopping cfg t ∧ t.stock ≤ s.stock := by
    refine run_invariant (I := fun t => Stopping cfg t ∧ t.stock ≤ s.stock) continued
      ⟨stopping, Nat.le_refl _⟩ ?_
    rintro a inside t u stepped ⟨stopping, less⟩
    have move := (step_move stepped).2
    exact ⟨stopping_step move (unspawned inside) stopping,
      (stock_step stopping move (unspawned inside)).trans less⟩
  obtain ⟨ended, bound⟩ := counted
  have most := remaining_bounded available stopping
  have due := stock_bounded available
  have stored : t.mInputBuf.length ≤ t.stock := Nat.le_add_right _ _
  refine ⟨by omega, by omega, fun fault unheld blocked => ?_⟩
  obtain ⟨-, placed⟩ := reachable_placed ((run_append _ as bs).trans (by rw [reached]; exact continued))
  have halted : ¬ t.running := fun running =>
    blocked (threadEnabled_of_running fault placed running unheld)
  refine ⟨halted, ended.buffer_absent ?_⟩
  by_cases record : t.record = .returned
  · simp [record]
  · have absent : t.record = .absent := by
      by_contra some
      exact halted ⟨some, record⟩
    simp [absent]

/-- A stop request, and the dump that it leads to. -/
theorem stop_ends_dump :
    (List.flatten [dumpWaiting, finishSession]).countP Action.threaded ≤ 18 ∧
      ∃ t, run (step (keyboardRecorder true 30000)) (initial (keyboardRecorder true 30000) (some ()) 0)
        (List.flatten [startSession, [.caller .stopFlag, .caller .stopTime], dumpWaiting,
          finishSession]) = some t ∧ t.record = .returned := by
  refine ⟨(stop_ends (keyboardRecorder true 30000) (some ()) 0
    (startSession ++ [.caller .stopFlag, .caller .stopTime]) (List.flatten [dumpWaiting, finishSession])
    _ _ (Option.eq_some_of_isSome (by decide)) (by decide) (by decide)
    (Option.eq_some_of_isSome (by decide)) (by decide)).1, _,
    Option.eq_some_of_isSome (by decide), by decide⟩

end TestRunner.Recorder
