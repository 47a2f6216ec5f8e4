import TestRunner.Recorder.Dump

/-! What the file of a session keeps of the events that the session pushed, whatever the
order of the two threads and whatever the clock does. -/
namespace TestRunner.Recorder

variable {X : Type} {cfg : Config X} {s s' : State X}

/-- The stop time at which this session has made its final trim, if it has. -/
def lastDump (log : List Entry) : Option Int :=
  log.foldl (fun d e => match e with | .started _ => none | .finalTrimmed v => some v | _ => d) none

def sinceDump (log : List Entry) : List Entry :=
  log.foldl (fun l e => match e with | .finalTrimmed _ => [] | e => l ++ [e]) []

@[simp] theorem lastDump_append (log : List Entry) (e : Entry) :
    lastDump (log ++ [e]) =
      match e with | .started _ => none | .finalTrimmed v => some v | _ => lastDump log := by
  simp only [lastDump, List.foldl_append, List.foldl_cons, List.foldl_nil]

@[simp] theorem sinceDump_append (log : List Entry) (e : Entry) :
    sinceDump (log ++ [e]) = match e with | .finalTrimmed _ => [] | e => sinceDump log ++ [e] := by
  simp only [sinceDump, List.foldl_append, List.foldl_cons, List.foldl_nil]

/-- The events of the session within the length before `v`, in the order of their pushes. -/
def Config.sessionWindow (cfg : Config X) (v : Int) (log : List Entry) : List InputRecord :=
  Window.since InputRecord.tsAbs (v - cfg.length) (pushed (sinceStart log))

/-- The records of a dump at `v` hold the session's window of every time from `v` on,
provided that no periodic trim takes an event of the window and none is pushed after the
final trim. -/
def Retains (cfg : Config X) (v : Int) (log : List Entry) (records : List InputRecord) : Prop :=
  ∀ w, v ≤ w → TrimsSpare cfg w (sinceStart log) →
    (∀ r ∈ pushed (sinceDump log), r.tsAbs < w - cfg.length) →
      (cfg.sessionWindow w log).Sublist records

theorem sessionWindow_push (v : Int) (log : List Entry) (r : InputRecord) :
    cfg.sessionWindow v (log ++ [Entry.pushed r]) = cfg.sessionWindow v log ++
      if v - cfg.length ≤ r.tsAbs then [r] else [] := by
  simp only [Config.sessionWindow, sinceStart_append, pushed_append, pushed_one, Entry.pushed?,
    Option.toList_some, Window.since_append]
  split <;> simp_all [Window.since]

theorem mem_sessionWindow {v : Int} {log : List Entry} {r : InputRecord}
    (mem : r ∈ cfg.sessionWindow v log) : r ∈ pushed (sinceStart log) ∧ v - cfg.length ≤ r.tsAbs := by
  simpa [Config.sessionWindow, Window.since] using mem

def Entry.isQuiet : Entry → Bool
  | .spawned | .joined | .stopped _ => true
  | _ => false

section Gathering

/-- The session has not come to its final trim: its window is in the buffer. -/
def Gathered (cfg : Config X) (s : State X) : Prop :=
  lastDump s.log = none ∧ ∀ v, TrimsSpare cfg v (sinceStart s.log) →
    (cfg.sessionWindow v s.log).Sublist s.mInputBuf

theorem gathered_quiet {e : Entry} (quiet : e.isQuiet = true) (h : Gathered cfg s)
    (buf : s'.mInputBuf = s.mInputBuf) (log : s'.log = s.log ++ [e]) : Gathered cfg s' := by
  obtain ⟨none, gathered⟩ := h
  unfold Gathered
  rw [log, buf]
  cases e with
  | spawned | joined | stopped =>
    refine ⟨by simpa using none, fun v spare => ?_⟩
    simp only [sinceStart_append] at spare
    simpa [Config.sessionWindow, Entry.pushed?] using gathered v (trimsSpare_snoc.mp spare).1
  | _ => cases quiet

theorem gathered_started (t : Int) (log : s'.log = s.log ++ [Entry.started t]) : Gathered cfg s' := by
  refine ⟨by simp [log], fun v _ => ?_⟩
  simp [Config.sessionWindow, log, pushed, Window.since]

theorem gathered_push (r : InputRecord) (h : Gathered cfg s)
    (buf : s'.mInputBuf = s.mInputBuf ++ [r]) (log : s'.log = s.log ++ [Entry.pushed r]) :
    Gathered cfg s' := by
  obtain ⟨none, gathered⟩ := h
  refine ⟨by simpa [log] using none, fun v spare => ?_⟩
  rw [log, sinceStart_append] at spare
  rw [log, buf, sessionWindow_push]
  refine (gathered v (trimsSpare_snoc.mp spare).1).append ?_
  split
  · exact List.Sublist.refl _
  · exact List.nil_sublist _

theorem gathered_trim (now : Int) (fits : s.mInputBuf.length ≤ fileMaxLines) (h : Gathered cfg s)
    (buf : s'.mInputBuf = periodicTrim (now - cfg.length) s.mInputBuf)
    (log : s'.log = s.log ++ [Entry.trimmed now]) : Gathered cfg s' := by
  obtain ⟨none, gathered⟩ := h
  refine ⟨by simpa [log] using none, fun v spare => ?_⟩
  rw [log, sinceStart_append] at spare
  obtain ⟨before, here⟩ := trimsSpare_snoc.mp spare
  rw [log, buf, periodicTrim_eq_cut _ fits]
  have same : cfg.sessionWindow v (s.log ++ [Entry.trimmed now]) = cfg.sessionWindow v s.log := by
    simp [Config.sessionWindow, Entry.pushed?]
  rw [same]
  refine Window.sublist_cut _ (gathered v before) fun r mem => ?_
  obtain ⟨session, window⟩ := mem_sessionWindow mem
  exact here now rfl r session window

end Gathering

section Dumping

theorem retains_snoc {v : Int} {log : List Entry} {records : List InputRecord} {e : Entry}
    (start : ∀ t, e ≠ .started t) (final : ∀ u, e ≠ .finalTrimmed u)
    (h : Retains cfg v log records) : Retains cfg v (log ++ [e]) records := by
  intro w later spare late
  have before : TrimsSpare cfg w (sinceStart log) := by
    cases e <;> simp_all <;> exact (trimsSpare_snoc.mp spare).1
  have earlier : ∀ r ∈ pushed (sinceDump log), r.tsAbs < w - cfg.length := by
    intro r mem
    refine late r ?_
    cases e <;> simp_all
  have same : cfg.sessionWindow w (log ++ [e]) = cfg.sessionWindow w log := by
    cases e with
    | pushed r =>
      have old : r.tsAbs < w - cfg.length := late r (by simp [Entry.pushed?])
      simp [sessionWindow_push, not_le.mpr old]
    | started t => exact absurd rfl (start t)
    | _ => simp [Config.sessionWindow, Entry.pushed?]
  exact same ▸ h w later before earlier

theorem retains_finalTrim (v : Int) (h : Gathered cfg s) :
    Retains cfg v (s.log ++ [Entry.finalTrimmed v]) (finalTrim (v - cfg.length) s.mInputBuf) := by
  intro w later spare _
  rw [sinceStart_append] at spare
  have same : cfg.sessionWindow w (s.log ++ [Entry.finalTrimmed v]) = cfg.sessionWindow w s.log := by
    simp [Config.sessionWindow, Entry.pushed?]
  rw [same, finalTrim_eq_cut]
  refine Window.sublist_cut _ (h.2 w (trimsSpare_snoc.mp spare).1) fun r mem => ?_
  have young := (mem_sessionWindow mem).2
  omega

end Dumping

def BufferPc.gathering : BufferPc → Bool
  | .loop | .wait | .now | .trim _ | .readStop | .finalTrim _ => true
  | _ => false

def FileRetains (cfg : Config X) (s : State X) : Prop :=
  ∃ v start records, lastDump s.log = some v ∧
    s.cmdFile s.mRecordingPath = some (recording start records) ∧ Retains cfg v s.log records

/-- Where the window of the session is to be found in each phase. -/
structure Retained (cfg : Config X) (s : State X) : Prop where
  gathering : s.record = .setup ∨ s.buffer.gathering = true → Gathered cfg s
  dumping : ∀ v ∈ s.buffer.dumping, lastDump s.log = some v ∧ Retains cfg v s.log s.mInputBuf
  dumped : s.buffer = .finished ∨ (cfg.mContinuous = true ∧ s.record = .returned) →
    FileRetains cfg s

theorem retained_frame (base : Base cfg s) (h : Retained cfg s)
    (buf : s'.mInputBuf = s.mInputBuf) (buffer : s'.buffer = s.buffer)
    (files : cfg.mContinuous = true → s'.cmdFile = s.cmdFile ∧ s'.mRecordingPath = s.mRecordingPath)
    (setup : s'.record = .setup → s.record = .setup)
    (returned : cfg.mContinuous = true → s'.record = .returned → s.record = .returned)
    (log : s'.log = s.log ∨ ∃ e, Entry.isQuiet e = true ∧ s'.log = s.log ++ [e]) :
    Retained cfg s' := by
  obtain ⟨gathering, dumping, dumped⟩ := h
  have retains : ∀ v records, Retains cfg v s.log records → Retains cfg v s'.log records := by
    rcases log with same | ⟨e, quiet, more⟩
    · simp [same]
    · intro v records h
      rw [more]
      exact retains_snoc (by rintro t rfl; cases quiet) (by rintro u rfl; cases quiet) h
  have last : lastDump s'.log = lastDump s.log := by
    rcases log with same | ⟨e, quiet, more⟩
    · rw [same]
    · rw [more]
      cases e <;> simp [Entry.isQuiet] at quiet ⊢
  constructor
  · intro phase
    have before := gathering (by rw [← buffer]; exact phase.imp_left setup)
    rcases log with same | ⟨e, quiet, more⟩
    · unfold Gathered at before ⊢
      rwa [same, buf]
    · exact gathered_quiet quiet before buf more
  · intro v hv
    obtain ⟨final, holds⟩ := dumping v (buffer ▸ hv)
    rw [last, buf]
    exact ⟨final, retains v _ holds⟩
  · intro phase
    have continuous : cfg.mContinuous = true := by
      rcases phase with finished | ended
      · exact (base.buffered (by simp [← buffer, finished])).1
      · exact ended.1
    obtain ⟨v, start, records, final, file, holds⟩ :=
      dumped (by rw [← buffer]; exact phase.imp_right fun h => ⟨h.1, returned h.1 h.2⟩)
    obtain ⟨files, path⟩ := files continuous
    exact ⟨v, start, records, last.trans final, by rw [files, path]; exact file,
      retains v _ holds⟩

theorem retained_routine (base : Base cfg s) (h : Retained cfg s)
    (buf : s'.mInputBuf = s.mInputBuf) (buffer : s'.buffer = s.buffer)
    (files : cfg.mContinuous = true → s'.cmdFile = s.cmdFile ∧ s'.mRecordingPath = s.mRecordingPath)
    (pc : s'.record.routine = true) (live : cfg.mContinuous = true → s'.record.inSession = true)
    (log : s'.log = s.log ∨ ∃ e, Entry.isQuiet e = true ∧ s'.log = s.log ++ [e]) :
    Retained cfg s' :=
  retained_frame base h buf buffer files (fun setup => absurd setup (ne_setup_of_routine pc))
    (fun continuous ended => absurd ended (ne_returned_of_inSession (live continuous))) log

theorem retained_gathering (live : s.record.inSession = true) (phase : s.buffer.gathering = true)
    (gathered : Gathered cfg s) : Retained cfg s := by
  refine ⟨fun _ => gathered, fun v hv => ?_, ?_⟩
  · cases pc : s.buffer <;> simp_all [BufferPc.gathering, BufferPc.dumping]
  · rintro (finished | ⟨-, returned⟩)
    · rw [finished] at phase
      cases phase
    · exact absurd returned (ne_returned_of_inSession live)

theorem retained_dumping (live : s.record.inSession = true) (v : Int)
    (phase : s.buffer.dumping = some v) (final : lastDump s.log = some v)
    (holds : Retains cfg v s.log s.mInputBuf) : Retained cfg s := by
  refine ⟨?_, fun u hu => ?_, ?_⟩
  · rintro (setup | gathering)
    · exact absurd setup (ne_setup_of_inSession live)
    · cases pc : s.buffer <;> simp_all [BufferPc.gathering, BufferPc.dumping]
  · cases phase.symm.trans hu
    exact ⟨final, holds⟩
  · rintro (finished | ⟨-, returned⟩)
    · rw [finished] at phase
      cases phase
    · exact absurd returned (ne_returned_of_inSession live)

theorem retained_step {a : Action} (base : Base cfg s) (fits : Fits s a) (move : Move cfg s a s')
    (h : Retained cfg s) : Retained cfg s' := by
  cases move with
  | caller m =>
    cases m <;>
      refine retained_frame base h rfl rfl (fun _ => ⟨rfl, rfl⟩) ?_ ?_ ?_ <;>
        simp [State.note, Entry.isQuiet]
  | record m =>
    cases m with
    | stamp pc =>
      have none := base.buffer_absent (by simp [pc])
      refine ⟨fun _ => gathered_started _ rfl, ?_, ?_⟩
      · simp [State.note, none, BufferPc.dumping]
      · simp [State.note, none]
    | setupContinuous pc =>
      refine ⟨fun _ => h.gathering (.inl pc), fun v hv => (by cases hv), ?_⟩
      simp
    | push r rest pc continuous free =>
      refine ⟨?_, ?_, ?_⟩
      · rintro (setup | phase)
        · exact absurd setup (ne_setup_of_routine (resume_routine rest))
        · exact gathered_push r (h.gathering (.inr phase)) rfl rfl
      · intro v hv
        cases (dumping_of_free free).symm.trans hv
      · rintro (finished | ⟨-, returned⟩)
        · obtain ⟨v, start, records, final, file, holds⟩ := h.dumped (.inl finished)
          refine ⟨v, start, records, ?_, file, retains_snoc (by simp) (by simp) holds⟩
          simpa [State.note] using final
        · exact absurd returned (ne_returned_of_inSession (resume_inSession rest))
    | joinBuffer pc ended =>
      refine ⟨by simp [BufferPc.gathering], fun v hv => (by cases hv), fun _ => ?_⟩
      exact h.dumped (.inl ended)
    | loadStop | elapsed =>
      exact retained_routine base h rfl rfl (fun _ => ⟨rfl, rfl⟩) (exitLoop_routine cfg)
        (fun continuous => by simp [continuous]) (.inl rfl)
    | select o =>
      exact retained_routine base h rfl rfl (fun _ => ⟨rfl, rfl⟩) (afterSelect_routine cfg o)
        (afterSelect_inSession cfg o) (.inl rfl)
    | readEvent =>
      exact retained_routine base h rfl rfl (fun _ => ⟨rfl, rfl⟩) (received_routine ..)
        (fun _ => received_inSession ..) (.inl rfl)
    | readNothing =>
      exact retained_routine base h rfl rfl (fun _ => ⟨rfl, rfl⟩) (resume_routine _)
        (fun _ => resume_inSession _) (.inl rfl)
    | escTime =>
      exact retained_routine base h rfl rfl (fun _ => ⟨rfl, rfl⟩) (resume_routine _)
        (fun _ => resume_inSession _) (.inr ⟨_, rfl, rfl⟩)
    | append r rest pc fixed =>
      exact retained_routine base h rfl rfl (by simp [fixed]) (resume_routine _)
        (fun _ => resume_inSession _) (.inl rfl)
    | _ => refine retained_frame base h rfl rfl ?_ ?_ ?_ (.inl rfl) <;> simp_all
  | buffer m =>
    have live (some : s.buffer ≠ .absent) : s.record.inSession = true := (base.buffered some).2
    cases m with
    | loadStop pc | loadWait pc | wake pc | now pc | readStop pc =>
      exact retained_gathering (live (by simp [pc])) rfl
        (h.gathering (.inr (by simp [pc, BufferPc.gathering])))
    | trim now pc =>
      have gathered := h.gathering (.inr (by simp [pc, BufferPc.gathering]))
      exact retained_gathering (live (by simp [pc])) rfl
        (gathered_trim now (fits rfl) gathered rfl rfl)
    | finalTrim v pc =>
      have gathered := h.gathering (.inr (by simp [pc, BufferPc.gathering]))
      exact retained_dumping (live (by simp [pc])) v rfl (by simp [State.note])
        (retains_finalTrim v gathered)
    | openFile v pc | header v pc =>
      obtain ⟨final, holds⟩ := h.dumping v (by simp [pc, BufferPc.dumping])
      exact retained_dumping (live (by simp [pc])) v rfl final holds
    | write v v' pc =>
      have live := live (by simp [pc])
      obtain ⟨final, holds⟩ := h.dumping v (by simp [pc, BufferPc.dumping])
      refine ⟨?_, fun u hu => (by cases hu), fun _ => ?_⟩
      · rintro (setup | gathering)
        · exact absurd setup (ne_setup_of_inSession live)
        · cases gathering
      · exact ⟨v, _, s.mInputBuf, final, Function.update_self .., holds⟩
  | tick t => exact ⟨h.gathering, h.dumping, h.dumped⟩

theorem retained_initial (xkb : Option X) (now : Nat) : Retained cfg (initial cfg xkb now) := by
  constructor <;> simp [initial, BufferPc.gathering, BufferPc.dumping]

theorem retained_run {xkb : Option X} {now : Nat} {as : List Action}
    (h : run (step cfg) (initial cfg xkb now) as = some s)
    (fits : Along (step cfg) Fits (initial cfg xkb now) as) : Retained cfg s :=
  (Reaches.invariant (I := fun s => Base cfg s ∧ Retained cfg s) ⟨as, h, fits⟩
    ⟨base_initial xkb now, retained_initial xkb now⟩ fun _ _ _ fits move inv =>
      have move := (step_move move).2
      ⟨base_step inv.1 move, retained_step inv.1 fits move inv.2⟩).2

/-- A continuous session that has ended has dumped once, and what it pushed within the
window of that dump is in the file in the order of the pushes, unless a periodic trim
took it or the final trim came first. -/
theorem session_retained (cfg : Config X) (xkb : Option X) (now : Nat) (as : List Action)
    (s : State X) (h : run (step cfg) (initial cfg xkb now) as = some s)
    (fits : Along (step cfg) Fits (initial cfg xkb now) as)
    (continuous : cfg.mContinuous = true) (ended : s.record = .returned) :
    ∃ v start records, lastDump s.log = some v ∧
      s.cmdFile s.mRecordingPath = some (recording start records) ∧
      (TrimsSpare cfg v (sinceStart s.log) →
        (∀ r ∈ pushed (sinceDump s.log), r.tsAbs < v - cfg.length) →
        (cfg.sessionWindow v s.log).Sublist records) := by
  obtain ⟨v, start, records, final, file, holds⟩ :=
    (retained_run h fits).dumped (.inr ⟨continuous, ended⟩)
  exact ⟨v, start, records, final, file, holds v (le_refl v)⟩

theorem session_retained_prompt : ∃ s,
    run (step (keyboardRecorder true 30000)) (initial (keyboardRecorder true 30000) (some ()) 0)
      (promptDump ++ finishSession) = some s ∧
    ∃ v start records, lastDump s.log = some v ∧
      s.cmdFile s.mRecordingPath = some (recording start records) ∧
      (TrimsSpare (keyboardRecorder true 30000) v (sinceStart s.log) →
        (∀ r ∈ pushed (sinceDump s.log), r.tsAbs < v - (keyboardRecorder true 30000).length) →
        ((keyboardRecorder true 30000).sessionWindow v s.log).Sublist records) :=
  ⟨_, Option.eq_some_of_isSome (by decide),
    session_retained _ _ _ _ _ (Option.eq_some_of_isSome (by decide)) (by decide) rfl (by decide)⟩

/-- The key is read at 1000 and pushed after the dump of a stop that comes in between. -/
def latePush : List Action :=
  List.flatten [startSession,
    [.tick 1000, .record (.select (.ready [3]) 0), .record (.read (.event ⟨evKey, 30, 1⟩)),
     .tick 2000, .caller .stopFlag, .caller .stopTime], dumpWaiting,
    [.buffer .write, .record .keysym, .record .updateKey, .record .store, .record .load,
     .record .joinBuffer]]

theorem event_after_dump : ∃ s,
    run (step (keyboardRecorder true 30000)) (initial (keyboardRecorder true 30000) (some ()) 0)
      latePush = some s ∧
    s.record = .returned ∧ s.mStopTime = 2000 ∧ lastDump s.log = some 2000 ∧
    s.cmdFile s.mRecordingPath = some (recording 0 []) ∧
    (keyboardRecorder true 30000).sessionWindow 2000 s.log = [⟨1000, .keyboard, 1, 30, 1, 38⟩] :=
  ⟨_, Option.eq_some_of_isSome (by decide), by decide, by decide, by decide, by decide, by decide⟩

end TestRunner.Recorder
