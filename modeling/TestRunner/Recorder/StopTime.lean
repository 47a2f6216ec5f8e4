import TestRunner.Recorder.Lifecycle

/-! The two unlocked reads of `m_stop_time` in `processBuffer()` against the stop blocks,
each of which sets `m_stop` first and `m_stop_time` second. -/
namespace TestRunner.Recorder

variable {X : Type} {cfg : Config X} {s s' : State X}

def sinceStart (log : List Entry) : List Entry :=
  log.foldl (fun l e => match e with | .started _ => [] | e => l ++ [e]) []

def Entry.isStopped : Entry → Bool
  | .stopped _ => true
  | _ => false

def stopWritten (log : List Entry) : Bool := (sinceStart log).any Entry.isStopped

def RecordPc.isEscTime : RecordPc → Bool
  | .escTime _ => true
  | _ => false

def State.insideStop (s : State X) : Bool := s.caller.holdsStop || s.record.isEscTime

/-- The dump has read `m_stop_time` once and will read it again. -/
def BufferPc.betweenReads : BufferPc → Bool
  | .finalTrim _ | .openFile _ | .header _ => true
  | _ => false

def BufferPc.firstRead : BufferPc → Option Int
  | .finalTrim v | .openFile v | .header v | .write v _ => some v
  | _ => none

def Action.writesStopTime (a : Action) : Bool :=
  a = .caller .stopTime ∨ a = .caller .destroyTime ∨ a = .record .escTime

/-- The first read does not fall between the two writes of the session's first stop, and
no stop changes `m_stop_time` between the two reads. -/
def StopSettled (s : State X) (a : Action) : Prop :=
  (a = .buffer .readStop → s.insideStop = true → stopWritten s.log = true) ∧
  (a.writesStopTime = true → s.buffer.betweenReads = true → s.clock = s.mStopTime)

/-- Each read gives a value that a stop of this session wrote, and the second read gives
what the first one gave. -/
def ReadsSessionStop (s : State X) (a : Action) : Prop :=
  (a = .buffer .readStop ∨ a = .buffer .header → .stopped s.mStopTime ∈ sinceStart s.log) ∧
  (a = .buffer .header → s.buffer.firstRead = some s.mStopTime)

instance (s : State X) (a : Action) : Decidable (StopSettled s a) :=
  inferInstanceAs (Decidable (_ ∧ _))

instance (s : State X) (a : Action) : Decidable (ReadsSessionStop s a) :=
  inferInstanceAs (Decidable (_ ∧ _))

@[simp] theorem sinceStart_append (log : List Entry) (e : Entry) :
    sinceStart (log ++ [e]) = match e with | .started _ => [] | e => sinceStart log ++ [e] := by
  simp only [sinceStart, List.foldl_append, List.foldl_cons, List.foldl_nil]

@[simp] theorem stopWritten_append (log : List Entry) (e : Entry) :
    stopWritten (log ++ [e]) =
      match e with | .started _ => false | .stopped _ => true | _ => stopWritten log := by
  cases e <;> simp [stopWritten, Entry.isStopped]

def StopTimeLast (s : State X) : Prop :=
  stopWritten s.log = true → .stopped s.mStopTime ∈ sinceStart s.log

theorem stopTimeLast_step {a : Action} (move : Move cfg s a s') (h : StopTimeLast s) :
    StopTimeLast s' := by
  unfold StopTimeLast at *
  cases move with
  | caller m => cases m <;> simp_all [State.note]
  | record m => cases m <;> simp_all [State.note]
  | buffer m => cases m <;> simp_all [State.note]
  | tick t => exact h

theorem routine_facts {pc : RecordPc} (h : pc.routine = true) :
    pc.isEscTime = false ∧ pc ≠ .stamping ∧ pc ≠ .elapsedNow ∧ ∀ now, pc ≠ .elapsedCheck now := by
  cases pc <;> simp_all [RecordPc.routine, RecordPc.isEscTime]

/-- A new session's `m_stop` is clear until its start time is taken, and a continuous
session never asks for its length. -/
structure Unelapsed (cfg : Config X) (s : State X) : Prop where
  stamping : s.record = .stamping → s.mStop = false
  continuous : cfg.mContinuous = true → s.record ≠ .elapsedNow ∧ ∀ now, s.record ≠ .elapsedCheck now

theorem unelapsed_of_routine (pc : s.record.routine = true) : Unelapsed cfg s := by
  obtain ⟨-, stamping, now, check⟩ := routine_facts pc
  exact ⟨fun h => absurd h stamping, fun _ => ⟨now, check⟩⟩

theorem unelapsed_step {a : Action} (move : Move cfg s a s') (h : Unelapsed cfg s) :
    Unelapsed cfg s' := by
  obtain ⟨stamping, continuous⟩ := h
  cases move with
  | caller m =>
    cases m with
    | stopFlag pc free | destroyFlag pc free =>
      exact ⟨fun pc => by simp_all [State.stopMtxFree], continuous⟩
    | _ => constructor <;> simp_all [State.note]
  | record m =>
    cases m with
    | loadStop | elapsed => exact unelapsed_of_routine (exitLoop_routine cfg)
    | select o => exact unelapsed_of_routine (afterSelect_routine cfg o)
    | readEvent => exact unelapsed_of_routine (received_routine ..)
    | readNothing | escTime | push | append => exact unelapsed_of_routine (resume_routine _)
    | _ => constructor <;> simp_all [State.note]
  | buffer m => cases m <;> exact ⟨stamping, continuous⟩
  | tick t => exact ⟨stamping, continuous⟩

def StopUnderway (cfg : Config X) (s : State X) : Prop :=
  cfg.mContinuous = true → s.record = .setup ∨ s.record.inSession = true →
    s.mStop = true → s.insideStop = true ∨ stopWritten s.log = true

theorem underway_carry (caller : s'.caller = s.caller)
    (log : stopWritten s'.log = stopWritten s.log) (calm : s.record.isEscTime = false)
    (h : s.insideStop = true ∨ stopWritten s.log = true) :
    s'.insideStop = true ∨ stopWritten s'.log = true := by
  simp only [State.insideStop, calm, Bool.or_false] at h
  rcases h with inside | written
  · exact .inl (by simp [State.insideStop, caller, inside])
  · exact .inr (log.trans written)

theorem stopUnderway_step {a : Action} (unelapsed : Unelapsed cfg s) (move : Move cfg s a s')
    (h : StopUnderway cfg s) : StopUnderway cfg s' := by
  intro continuous running stop
  obtain ⟨stamping, unelapsed⟩ := unelapsed
  have h := h continuous
  cases move with
  | caller m => cases m <;> simp_all [State.note, State.insideStop]
  | record m =>
    cases m with
    | loadStop pc set =>
      exact underway_carry (s := s) rfl rfl (by simp [pc, RecordPc.isEscTime]) (h (by simp [pc]) set)
    | select | readEvent | readNothing =>
      rename_i pc
      exact underway_carry (s := s) rfl rfl (by simp [pc, RecordPc.isEscTime]) (h (by simp [pc]) stop)
    | push r rest pc =>
      exact underway_carry (s := s) rfl (by simp [State.note]) (by simp [pc, RecordPc.isEscTime])
        (h (by simp [pc]) stop)
    | _ => simp_all [State.note, State.insideStop, RecordPc.isEscTime]
  | buffer m => cases m <;> simp_all [State.note, State.insideStop]
  | tick t => exact h running stop

/-- What the dump has read so far is of this session, and still current until it has
read twice. -/
structure ReadsCurrent (s : State X) : Prop where
  read : s.buffer.firstRead.isSome = true → stopWritten s.log = true
  agree : s.buffer.betweenReads = true → s.buffer.firstRead = some s.mStopTime

theorem stopWritten_of_readStop (base : Base cfg s) (underway : StopUnderway cfg s)
    (pc : s.buffer = .readStop) (first : s.insideStop = true → stopWritten s.log = true) :
    stopWritten s.log = true := by
  obtain ⟨continuous, live⟩ := base.buffered (by simp [pc])
  have stop := base.sawStop (by simp [pc, BufferPc.sawStop])
  exact (underway continuous (.inr live) stop).elim first id

theorem readsCurrent_step {a : Action} (base : Base cfg s) (underway : StopUnderway cfg s)
    (settled : StopSettled s a) (move : Move cfg s a s') (h : ReadsCurrent s) : ReadsCurrent s' := by
  obtain ⟨read, agree⟩ := h
  obtain ⟨first, rewrite⟩ := settled
  cases move with
  | caller m =>
    cases m with
    | stopTime | destroyTime =>
      refine ⟨fun _ => by simp [State.note], fun between => ?_⟩
      simpa [State.note, rewrite rfl between] using agree between
    | _ => constructor <;> simp_all [State.note]
  | record m =>
    cases m with
    | stamp pc =>
      have none := base.buffer_absent (by simp [pc])
      constructor <;> simp [State.note, none, BufferPc.firstRead, BufferPc.betweenReads]
    | setupContinuous | joinBuffer =>
      constructor <;> simp [BufferPc.firstRead, BufferPc.betweenReads]
    | escTime =>
      refine ⟨fun _ => by simp [State.note], fun between => ?_⟩
      simpa [State.note, rewrite rfl between] using agree between
    | _ => constructor <;> simp_all [State.note]
  | buffer m =>
    cases m with
    | readStop pc =>
      have written := stopWritten_of_readStop base underway pc (first rfl)
      exact ⟨fun _ => written, fun _ => rfl⟩
    | _ => constructor <;> simp_all [State.note, BufferPc.firstRead, BufferPc.betweenReads]
  | tick t => exact ⟨read, agree⟩

structure StopTimes (cfg : Config X) (s : State X) : Prop extends Base cfg s where
  last : StopTimeLast s
  unelapsed : Unelapsed cfg s
  underway : StopUnderway cfg s
  current : ReadsCurrent s

theorem stopTimes_initial (xkb : Option X) (now : Nat) : StopTimes cfg (initial cfg xkb now) where
  toBase := base_initial xkb now
  last := by simp [StopTimeLast, initial, stopWritten, sinceStart]
  unelapsed := by constructor <;> simp [initial]
  underway := by simp [StopUnderway, initial]
  current := by constructor <;> simp [initial, BufferPc.firstRead, BufferPc.betweenReads]

theorem stopTimes_step {a : Action} (settled : StopSettled s a) (move : Move cfg s a s')
    (h : StopTimes cfg s) : StopTimes cfg s' where
  toBase := base_step h.toBase move
  last := stopTimeLast_step move h.last
  unelapsed := unelapsed_step move h.unelapsed
  underway := stopUnderway_step h.unelapsed move h.underway
  current := readsCurrent_step h.toBase h.underway settled move h.current

theorem stopTimes_reads {a : Action} (settled : StopSettled s a) (move : Move cfg s a s')
    (h : StopTimes cfg s) : ReadsSessionStop s a := by
  constructor
  · rintro (rfl | rfl)
    · cases move with
      | buffer m =>
        cases m with
        | readStop pc =>
          exact h.last (stopWritten_of_readStop h.toBase h.underway pc (settled.1 rfl))
    · cases move with
      | buffer m =>
        cases m with
        | header v pc => exact h.last (h.current.read (by simp [pc, BufferPc.firstRead]))
  · rintro rfl
    cases move with
    | buffer m =>
      cases m with
      | header v pc => exact h.current.agree (by simp [pc, BufferPc.betweenReads])

/-- In every run whose stops keep clear of the reads, all reads of `m_stop_time` give the
time of a stop of the session that is being dumped, the same one twice. -/
theorem stop_time_reads (cfg : Config X) (xkb : Option X) (now : Nat) (as : List Action)
    (s : State X) (h : run (step cfg) (initial cfg xkb now) as = some s)
    (settled : Along (step cfg) StopSettled (initial cfg xkb now) as) :
    Along (step cfg) ReadsSessionStop (initial cfg xkb now) as := by
  refine along_imp h (stopTimes_initial xkb now) settled fun s a t inv here move => ?_
  have move := (step_move move).2
  exact ⟨stopTimes_step here move inv, stopTimes_reads here move inv⟩

def stoppedSession : List Action :=
  List.flatten [startSession, [.tick 40000, .caller .stopFlag, .caller .stopTime], dumpWaiting,
    finishSession, [.caller .stopJoin]]

theorem stop_time_reads_stopped :
    Along (step (keyboardRecorder true 30000)) ReadsSessionStop
      (initial (keyboardRecorder true 30000) (some ()) 0) stoppedSession :=
  stop_time_reads _ _ _ _ _ (Option.eq_some_of_isSome (by decide)) (by decide)

/-- The dump begins between the two writes of `Stop`. -/
def dumpInsideStop : List Action :=
  enterLoop.append [.tick 40000, .caller .stopFlag, .buffer .load, .buffer .readStop]

/-- A `Stop` that follows an ESC writes between the two reads. -/
def stopInsideDump : List Action :=
  enterLoop.append
    [.record (.select (.ready [3]) 0), .tick 20000, .record (.read (.event ⟨evKey, keyEsc, 1⟩)),
     .record .escFlag, .record .escTime, .buffer .load, .buffer .readStop, .buffer .finalTrim,
     .buffer .openFile, .tick 40000, .caller .stopFlag, .caller .stopTime, .buffer .header]

theorem stop_time_torn :
    (∃ s, run (step (keyboardRecorder true 30000))
        (initial (keyboardRecorder true 30000) (some ()) 0) dumpInsideStop = some s ∧
      s.buffer = .finalTrim 0 ∧
      ¬ Along (step (keyboardRecorder true 30000)) ReadsSessionStop
        (initial (keyboardRecorder true 30000) (some ()) 0) dumpInsideStop) ∧
    (∃ s, run (step (keyboardRecorder true 30000))
        (initial (keyboardRecorder true 30000) (some ()) 0) stopInsideDump = some s ∧
      s.buffer = .write 20000 40000 ∧
      ¬ Along (step (keyboardRecorder true 30000)) ReadsSessionStop
        (initial (keyboardRecorder true 30000) (some ()) 0) stopInsideDump) :=
  ⟨⟨_, Option.eq_some_of_isSome (by decide), by decide, by decide⟩,
    ⟨_, Option.eq_some_of_isSome (by decide), by decide, by decide⟩⟩

end TestRunner.Recorder
