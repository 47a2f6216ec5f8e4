import TestRunner.Recorder.Clock

/-! What a dump writes: the most recent window of the events, under a header that is not
later than any of them. Both fail in one way each, and only in that way. -/
namespace TestRunner.Recorder

variable {X : Type} {cfg : Config X} {s s' : State X}

/-- No periodic trim takes an event that was pushed before it and lies within the length
before `v`. -/
def TrimsSpare (cfg : Config X) (v : Int) (log : List Entry) : Prop :=
  Window.AtEach (fun pre e => ∀ now, e = .trimmed now →
    ∀ r ∈ pushed pre, v - cfg.length ≤ r.tsAbs → now - cfg.length ≤ r.tsAbs) log

theorem trimsSpare_snoc {v : Int} {log : List Entry} {e : Entry} :
    TrimsSpare cfg v (log ++ [e]) ↔ TrimsSpare cfg v log ∧ ∀ now, e = .trimmed now →
      ∀ r ∈ pushed log, v - cfg.length ≤ r.tsAbs → now - cfg.length ≤ r.tsAbs :=
  Window.atEach_snoc

theorem kept_iff_trimsSpare {v : Int} {log : List Entry} (cuts : ∀ u, .finalTrimmed u ∈ log → u ≤ v) :
    Window.Kept InputRecord.tsAbs (v - cfg.length) (cfg.bufferOps log) ↔ TrimsSpare cfg v log := by
  induction log using List.reverseRecOn with
  | nil => exact ⟨fun _ => Window.atEach_nil _, fun _ => Window.atEach_nil _⟩
  | append_singleton log e ih =>
    have ih := ih fun u mem => cuts u (by simp [mem])
    rw [trimsSpare_snoc, ← ih]
    cases e with
    | pushed r => simp [Config.bufferOp, Window.kept_push]
    | trimmed now => simp [Config.bufferOp, Window.kept_cut, pushes_bufferOps]
    | finalTrimmed u =>
      have earlier : u ≤ v := cuts u (by simp)
      simp only [bufferOps_append, bufferOps_one, Config.bufferOp, Option.toList_some,
        Window.kept_cut, and_congr_right_iff]
      intro _
      exact ⟨fun _ now final => (by cases final), fun _ r _ window => (by omega)⟩
    | _ => simp [Config.bufferOp]

theorem dump_file {v v' : Int} (pc : s.buffer = .write v v')
    (dump : step cfg s (.buffer .write) = some s') :
    s'.cmdFile s'.mRecordingPath =
      some (recording (headerStart cfg s.mStartTime v v') s.mInputBuf) := by
  cases (step_move dump).2 with
  | buffer m =>
    cases m with
    | write u u' pc' =>
      cases pc.symm.trans pc'
      exact Function.update_self ..

/-- The file of a dump holds exactly the pushed events of the window, in order, if and
only if no periodic trim took one of them. -/
theorem dump_recent_iff (cfg : Config X) (xkb : Option X) (now : Nat) (as : List Action)
    (s s' : State X) (v v' : Int) (h : run (step cfg) (initial cfg xkb now) as = some s)
    (forward : Along (step cfg) Forward (initial cfg xkb now) as)
    (fits : Along (step cfg) Fits (initial cfg xkb now) as)
    (pc : s.buffer = .write v v') (dump : step cfg s (.buffer .write) = some s') :
    ∃ records, s'.cmdFile s'.mRecordingPath =
        some (recording (headerStart cfg s.mStartTime v v') records) ∧
      (records = Window.since InputRecord.tsAbs (v - cfg.length) (pushed s.log) ↔
        TrimsSpare cfg v s.log) := by
  refine ⟨s.mInputBuf, dump_file pc dump, ?_⟩
  have clocked := clocked_run h forward
  have mirrors : Mirrors cfg s := Reaches.invariant ⟨as, h, fits⟩ rfl
    fun _ _ _ fits move inv => mirrors_step fits (step_move move).2 inv
  have cuts := (clocked.cutsPast.read v (by simp [pc, BufferPc.firstRead])).2
  have recent : Window.since InputRecord.tsAbs (v - cfg.length) s.mInputBuf = s.mInputBuf := by
    refine List.filter_eq_self.mpr fun r mem => ?_
    simpa using clocked.cutoff v (by simp [pc, BufferPc.dumping]) r mem
  have ordered : Window.Ordered InputRecord.tsAbs (Window.pushes (cfg.bufferOps s.log)) := by
    rw [pushes_bufferOps]
    exact clocked.timely.ordered
  rw [← kept_iff_trimsSpare cuts, ← Window.since_replay_iff _ ordered, ← mirrors, recent,
    pushes_bufferOps]

def promptDump : List Action :=
  List.flatten [startSession, [.tick 1000], deliver ⟨evKey, 30, 1⟩,
    [.tick 31000, .caller .stopFlag, .caller .stopTime], dumpWaiting]

/-- A key at 1000 and an ESC at 31000, after which the buffer thread waits out its second. -/
def lateDump : List Action :=
  List.flatten [startSession, [.tick 1000], deliver ⟨evKey, 30, 1⟩,
    [.tick 31000, .record (.select (.ready [3]) 0), .record (.read (.event ⟨evKey, keyEsc, 1⟩)),
     .record .escFlag, .record .escTime, .tick 32000], dumpWaiting]

theorem dump_recent_prompt : ∃ s s',
    run (step (keyboardRecorder true 30000)) (initial (keyboardRecorder true 30000) (some ()) 0)
      promptDump = some s ∧ step (keyboardRecorder true 30000) s (.buffer .write) = some s' ∧
    ∃ records, s'.cmdFile s'.mRecordingPath =
        some (recording (headerStart (keyboardRecorder true 30000) s.mStartTime 31000 31000) records) ∧
      (records = Window.since InputRecord.tsAbs (31000 - 30000) (pushed s.log) ↔
        TrimsSpare (keyboardRecorder true 30000) 31000 s.log) :=
  ⟨_, _, Option.eq_some_of_isSome (by decide), Option.eq_some_of_isSome (by decide),
    dump_recent_iff _ _ _ _ _ _ 31000 31000 (Option.eq_some_of_isSome (by decide)) (by decide)
      (by decide) (by decide) (Option.eq_some_of_isSome (by decide))⟩

theorem dump_late_empty : ∃ s s',
    run (step (keyboardRecorder true 30000)) (initial (keyboardRecorder true 30000) (some ()) 0)
      lateDump = some s ∧ step (keyboardRecorder true 30000) s (.buffer .write) = some s' ∧
    Along (step (keyboardRecorder true 30000)) (fun s a => Forward s a ∧ Fits s a)
      (initial (keyboardRecorder true 30000) (some ()) 0) lateDump ∧
    s.buffer = .write 31000 31000 ∧
    s'.cmdFile s'.mRecordingPath = some (recording 1000 []) ∧
    Window.since InputRecord.tsAbs (31000 - 30000) (pushed s.log) =
      [⟨1000, .keyboard, 1, 30, 1, 38⟩] :=
  ⟨_, _, Option.eq_some_of_isSome (by decide), Option.eq_some_of_isSome (by decide), by decide,
    by decide, by decide, by decide⟩

/-- In every dump the events are in the order of their times, and the header is not later
than any of them if and only if the session lasted the length or an earlier session left
nothing in the buffer that is older than the start. -/
theorem header_first_iff (cfg : Config X) (xkb : Option X) (now : Nat) (as : List Action)
    (s s' : State X) (v v' : Int) (h : run (step cfg) (initial cfg xkb now) as = some s)
    (forward : Along (step cfg) Forward (initial cfg xkb now) as)
    (pc : s.buffer = .write v v') (dump : step cfg s (.buffer .write) = some s') :
    ∃ records, s'.cmdFile s'.mRecordingPath =
        some (recording (headerStart cfg s.mStartTime v v') records) ∧
      Window.Ordered InputRecord.tsAbs records ∧
      ((∀ r ∈ records, headerStart cfg s.mStartTime v v' ≤ r.tsAbs) ↔
        v' - s.mStartTime ≥ cfg.length ∨
          ∀ r ∈ s.mInputBuf, r ∉ pushed (sinceStart s.log) → s.mStartTime ≤ r.tsAbs) := by
  have clocked := clocked_run h forward
  refine ⟨s.mInputBuf, dump_file pc dump, clocked.ordered, ?_⟩
  by_cases long : v' - s.mStartTime ≥ cfg.length
  · simp only [headerStart, long, true_or, iff_true]
    exact clocked.cutoff v (by simp [pc, BufferPc.dumping])
  · simp only [headerStart, long, false_or]
    refine ⟨fun all r mem _ => all r mem, fun earlier r mem => ?_⟩
    by_cases here : r ∈ pushed (sinceStart s.log)
    · exact clocked.sinceStart.pushed r here
    · exact earlier r mem here

theorem header_first_prompt : ∃ s s',
    run (step (keyboardRecorder true 30000)) (initial (keyboardRecorder true 30000) (some ()) 0)
      promptDump = some s ∧ step (keyboardRecorder true 30000) s (.buffer .write) = some s' ∧
    ∃ records, s'.cmdFile s'.mRecordingPath =
        some (recording (headerStart (keyboardRecorder true 30000) s.mStartTime 31000 31000) records) ∧
      Window.Ordered InputRecord.tsAbs records ∧
      ((∀ r ∈ records,
          headerStart (keyboardRecorder true 30000) s.mStartTime 31000 31000 ≤ r.tsAbs) ↔
        31000 - s.mStartTime ≥ (keyboardRecorder true 30000).length ∨
          ∀ r ∈ s.mInputBuf, r ∉ pushed (sinceStart s.log) → s.mStartTime ≤ r.tsAbs) :=
  ⟨_, _, Option.eq_some_of_isSome (by decide), Option.eq_some_of_isSome (by decide),
    header_first_iff _ _ _ _ _ _ 31000 31000 (Option.eq_some_of_isSome (by decide)) (by decide)
      (by decide) (Option.eq_some_of_isSome (by decide))⟩

/-- A key at 1000, a stop at 2000, a second session from 3000 and its stop at 4000. -/
def shortSessions : List Action :=
  List.flatten [startSession, [.tick 1000], deliver ⟨evKey, 30, 1⟩,
    [.tick 2000, .caller .stopFlag, .caller .stopTime], dumpWaiting, finishSession,
    [.caller .stopJoin, .tick 3000], startSession,
    [.tick 4000, .caller .stopFlag, .caller .stopTime], dumpWaiting]

theorem header_after_event : ∃ s s',
    run (step (keyboardRecorder true 30000)) (initial (keyboardRecorder true 30000) (some ()) 0)
      shortSessions = some s ∧ step (keyboardRecorder true 30000) s (.buffer .write) = some s' ∧
    Along (step (keyboardRecorder true 30000)) Forward
      (initial (keyboardRecorder true 30000) (some ()) 0) shortSessions ∧
    s'.cmdFile s'.mRecordingPath = some (recording 3000 [⟨1000, .keyboard, 1, 30, 1, 38⟩]) :=
  ⟨_, _, Option.eq_some_of_isSome (by decide), Option.eq_some_of_isSome (by decide), by decide,
    by decide⟩

end TestRunner.Recorder
