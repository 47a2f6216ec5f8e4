import TestRunner.Recorder.Heard
import TestRunner.Recorder.Retention

/-! The two recording writers side by side: when the dump of a continuous session has the event
lines that a fixed-length session prints at once. -/
namespace TestRunner.Recorder

variable {X : Type} {cfg : Config X} {s s' : State X} {kept : Prop} {records : List InputRecord}

/-- The event lines of a file. -/
def eventLines (file : Option (List Line)) : List (List Char) :=
  (file.getD []).filterMap fun
    | .passThrough r => some (Line.passThrough r).text
    | _ => none

def BufferPc.trimming : BufferPc → Option Int
  | .trim t => some t
  | _ => none

/-- A periodic trim does not find its first record too old, and no event is pushed after the
dump. -/
def Undisturbed (cfg : Config X) (s : State X) (a : Action) : Prop :=
  (a = .buffer .trim → ∀ now ∈ s.buffer.trimming,
    ∀ r ∈ s.mInputBuf.head?, now - cfg.length ≤ r.tsAbs) ∧
  (a = .record .store → s.buffer ≠ .finished)

instance (cfg : Config X) (s : State X) (a : Action) : Decidable (Undisturbed cfg s a) :=
  inferInstanceAs (Decidable (_ ∧ _))

/-- Every event of the session lies in the window of its final trim. -/
def InWindow (cfg : Config X) (log : List Entry) : Prop :=
  ∀ v, .finalTrimmed v ∈ sinceStart log → ∀ r ∈ pushed (sinceStart log), v - cfg.length ≤ r.tsAbs

/-- A part of the session's events, and all of them if and only if nothing was lost. -/
def Whole (cfg : Config X) (log : List Entry) (kept : Prop) (records : List InputRecord) : Prop :=
  records.Sublist (pushed (sinceStart log)) ∧
    (InWindow cfg log → (records = pushed (sinceStart log) ↔ kept))

/-- Where the events of the session are in each phase. -/
structure Dumped (cfg : Config X) (s : State X) (kept : Prop) : Prop where
  preparing : s.record.preparing = true → s.mInputBuf = [] ∧ kept ∧
    (s.record = .setup → pushed (sinceStart s.log) = [])
  buffering : s.buffer.gathering = true ∨ s.buffer.dumping.isSome = true →
    Whole cfg s.log kept s.mInputBuf
  dumped : s.buffer = .finished ∨ s.record = .returned ∨ s.record = .absent →
    ∃ start records, s.cmdFile s.mRecordingPath = some (recording start records) ∧
      Whole cfg s.log kept records

theorem whole_keep {log log' : List Entry} (h : Whole cfg log kept records)
    (same : pushed (sinceStart log') = pushed (sinceStart log))
    (trims : ∀ v, .finalTrimmed v ∈ sinceStart log → .finalTrimmed v ∈ sinceStart log') :
    Whole cfg log' kept records := by
  obtain ⟨part, all⟩ := h
  unfold Whole
  rw [same]
  refine ⟨part, fun window => all fun v final r inside => ?_⟩
  exact window v (trims v final) r (same ▸ inside)

theorem pushed_sinceStart_push (log : List Entry) (r : InputRecord) :
    pushed (sinceStart (log ++ [.pushed r])) = pushed (sinceStart log) ++ [r] := by
  simp [Entry.pushed?]

theorem whole_push {log : List Entry} {r : InputRecord} (h : Whole cfg log kept records) :
    Whole cfg (log ++ [.pushed r]) kept (records ++ [r]) := by
  obtain ⟨part, all⟩ := h
  unfold Whole
  rw [pushed_sinceStart_push]
  refine ⟨part.append (List.Sublist.refl [r]), fun window => ?_⟩
  rw [List.append_left_inj]
  refine all fun v final q inside => window v (by simp [final]) q ?_
  simp [inside]

/-- After the dump an event is lost. -/
theorem whole_late {log : List Entry} {r : InputRecord} {lost : Prop} (h : Whole cfg log kept records)
    (no : ¬ lost) : Whole cfg (log ++ [.pushed r]) lost records := by
  unfold Whole
  rw [pushed_sinceStart_push]
  refine ⟨h.1.trans (List.sublist_append_left _ _), fun _ => ?_⟩
  have short := h.1.length_le
  refine iff_of_false (fun same => ?_) no
  simp [same] at short

theorem whole_cut {log : List Entry} {e : Entry} {c : Int} (h : Whole cfg log kept records)
    (same : pushed (sinceStart (log ++ [e])) = pushed (sinceStart log))
    (trims : ∀ v, .finalTrimmed v ∈ sinceStart log → .finalTrimmed v ∈ sinceStart (log ++ [e])) :
    Whole cfg (log ++ [e]) (kept ∧ ∀ r ∈ records.head?, c ≤ r.tsAbs)
      (Window.cut InputRecord.tsAbs c records) := by
  obtain ⟨part, all⟩ := whole_keep h same trims
  have suffix := Window.cut_suffix InputRecord.tsAbs c records
  refine ⟨suffix.sublist.trans part, fun window => ?_⟩
  rw [← all window, ← Window.cut_eq_self_iff]
  constructor
  · intro whole
    have equal : records = pushed (sinceStart (log ++ [e])) := by
      refine part.eq_of_length_le ?_
      rw [← whole]
      exact suffix.sublist.length_le
    exact ⟨equal, whole.trans equal.symm⟩
  · rintro ⟨equal, uncut⟩
    exact uncut.trans equal

theorem Dumped.congr {kept' : Prop} (h : Dumped cfg s kept) (same : kept ↔ kept') :
    Dumped cfg s kept' := propext same ▸ h

theorem Dumped.keep (h : Dumped cfg s kept)
    (preparing : s'.record.preparing = s.record.preparing)
    (setup : s'.record = .setup → s.record = .setup)
    (ended : s'.record = .returned ∨ s'.record = .absent → s.record = .returned ∨ s.record = .absent)
    (buf : s'.mInputBuf = s.mInputBuf) (buffer : s'.buffer = s.buffer)
    (file : s'.cmdFile s'.mRecordingPath = s.cmdFile s.mRecordingPath)
    (same : pushed (sinceStart s'.log) = pushed (sinceStart s.log))
    (trims : ∀ v, .finalTrimmed v ∈ sinceStart s.log → .finalTrimmed v ∈ sinceStart s'.log) :
    Dumped cfg s' kept := by
  constructor
  · intro pc
    obtain ⟨empty, kept, fresh⟩ := h.preparing (preparing ▸ pc)
    exact ⟨buf.trans empty, kept, fun pc => same.trans (fresh (setup pc))⟩
  · intro phase
    rw [buffer] at phase
    rw [buf]
    exact whole_keep (h.buffering phase) same trims
  · intro phase
    rw [buffer] at phase
    obtain ⟨start, records, written, whole⟩ := h.dumped (phase.imp_right ended)
    exact ⟨start, records, file.trans written, whole_keep whole same trims⟩

theorem dumped_caller {a : CallerAction} (h : Dumped cfg s kept) (other : a ≠ .spawn)
    (m : CallerMove cfg s a s') : Dumped cfg s' kept := by
  cases m with
  | spawn pc free => exact absurd rfl other
  | stopTime pc =>
    exact h.keep rfl id id rfl rfl rfl (by simp [State.note, Entry.pushed?]) (by simp [State.note])
  | destroyTime pc =>
    exact h.keep rfl id id rfl rfl rfl (by simp [State.note, Entry.pushed?]) (by simp [State.note])
  | stopJoin pc joinable ended =>
    exact h.keep (by rw [ended]; rfl) (by simp [State.note]) (fun _ => .inl ended) rfl rfl rfl
      (by simp [State.note, Entry.pushed?]) (by simp [State.note])
  | destroyJoin pc ended =>
    exact h.keep (by rw [ended]; rfl) (by simp [State.note]) (fun _ => .inl ended) rfl rfl rfl
      (by simp [State.note, Entry.pushed?]) (by simp [State.note])
  | _ => exact h.keep rfl id id rfl rfl rfl rfl fun _ => id

/-- A statement inside the session that neither pushes nor writes. -/
theorem dumped_inside (h : Dumped cfg s kept) (before : s.record.inSession = true)
    (after : s'.record.inSession = true) (buf : s'.mInputBuf = s.mInputBuf)
    (buffer : s'.buffer = s.buffer) (file : s'.cmdFile s'.mRecordingPath = s.cmdFile s.mRecordingPath)
    (same : pushed (sinceStart s'.log) = pushed (sinceStart s.log))
    (trims : ∀ v, .finalTrimmed v ∈ sinceStart s.log → .finalTrimmed v ∈ sinceStart s'.log) :
    Dumped cfg s' kept := by
  refine h.keep ?_ (fun setup => absurd setup (ne_setup_of_inSession after)) ?_ buf buffer file same trims
  · rw [RecordPc.not_preparing_of_inSession before, RecordPc.not_preparing_of_inSession after]
  · rintro (returned | absent)
    · exact absurd returned (ne_returned_of_inSession after)
    · simp [absent] at after

theorem dumped_push (r : InputRecord) (rest : List InDevice) (h : Dumped cfg s kept) :
    Dumped cfg ({ s with mInputBuf := s.mInputBuf ++ [r], record := resume rest }.note (.pushed r))
      (kept ∧ s.buffer ≠ .finished) := by
  have inside := resume_inSession rest
  constructor
  · intro preparing
    simp [State.note, RecordPc.not_preparing_of_inSession inside] at preparing
  · intro phase
    have gathering : s.buffer ≠ .finished := by
      intro finished
      simp [State.note, finished, BufferPc.gathering, BufferPc.dumping] at phase
    have whole : Whole cfg (s.log ++ [.pushed r]) (kept ∧ s.buffer ≠ .finished)
        (s.mInputBuf ++ [r]) := by
      simpa [gathering] using whole_push (h.buffering phase)
    exact whole
  · rintro (finished | returned | absent)
    · obtain ⟨start, records, file, whole⟩ := h.dumped (.inl finished)
      exact ⟨start, records, file, whole_late whole fun lost => lost.2 finished⟩
    · exact absurd returned (ne_returned_of_inSession inside)
    · simp [State.note] at absent

theorem dumped_preparing (buffer : s.buffer = .absent) (pc : s.record.preparing = true)
    (empty : s.mInputBuf = []) (all : kept)
    (fresh : s.record = .setup → pushed (sinceStart s.log) = []) : Dumped cfg s kept := by
  refine ⟨fun _ => ⟨empty, all, fresh⟩, ?_, ?_⟩
  · intro phase
    simp [buffer, BufferPc.gathering, BufferPc.dumping] at phase
  · intro phase
    rcases phase with finished | returned | absent
    · simp [buffer] at finished
    · simp [returned, RecordPc.preparing] at pc
    · simp [absent, RecordPc.preparing] at pc

theorem dumped_buffering (live : s.record.inSession = true) (phase : s.buffer ≠ .finished)
    (whole : Whole cfg s.log kept s.mInputBuf) : Dumped cfg s kept := by
  refine ⟨?_, fun _ => whole, ?_⟩
  · intro preparing
    simp [RecordPc.not_preparing_of_inSession live] at preparing
  · rintro (finished | returned | absent)
    · exact absurd finished phase
    · exact absurd returned (ne_returned_of_inSession live)
    · simp [absent] at live

theorem dumped_other {a : RecordAction} (continuous : cfg.mContinuous = true) (base : Base cfg s)
    (h : Dumped cfg s kept) (other : a ≠ .store) (m : RecordMove cfg s a s') :
    Dumped cfg s' kept := by
  cases m with
  | push | append => exact absurd rfl other
  | setupFixed pc fixed => exact absurd (fixed.symm.trans continuous) Bool.false_ne_true
  | clear pc free =>
    obtain ⟨empty, all, -⟩ := h.preparing (by rw [pc]; rfl)
    exact dumped_preparing (base.buffer_absent (by simp [pc])) rfl empty all (by simp)
  | stamp pc =>
    obtain ⟨empty, all, -⟩ := h.preparing (by rw [pc]; rfl)
    exact dumped_preparing (base.buffer_absent (by simp [pc])) rfl empty all
      fun _ => by simp [State.note, pushed]
  | setupContinuous pc mode =>
    obtain ⟨empty, all, fresh⟩ := h.preparing (by rw [pc]; rfl)
    refine dumped_buffering rfl (by simp) ⟨?_, fun _ => iff_of_true ?_ all⟩
    · simp [empty]
    · simp [empty, fresh pc]
  | joinBuffer pc ended =>
    refine ⟨?_, ?_, fun _ => h.dumped (.inl ended)⟩
    · simp [RecordPc.preparing]
    · simp [BufferPc.gathering, BufferPc.dumping]
  | loadStop | elapsed =>
    exact dumped_inside h (by simp [*]) (by simp [continuous]) rfl rfl rfl rfl fun _ => id
  | select o left pc =>
    exact dumped_inside h (by simp [pc]) (afterSelect_inSession cfg o continuous) rfl rfl rfl rfl
      fun _ => id
  | readEvent d rest ev pc =>
    exact dumped_inside h (by simp [pc]) (received_inSession ..) rfl rfl rfl rfl fun _ => id
  | readNothing d rest pc =>
    exact dumped_inside h (by simp [pc]) (resume_inSession rest) rfl rfl rfl rfl fun _ => id
  | escTime rest pc =>
    exact dumped_inside h (by simp [pc]) (resume_inSession rest) rfl rfl rfl
      (by simp [State.note, Entry.pushed?]) (by simp [State.note])
  | _ => exact dumped_inside h (by simp [*]) (by simp [*]) rfl rfl rfl rfl fun _ => id

theorem dumped_record {a : RecordAction} (continuous : cfg.mContinuous = true) (base : Base cfg s)
    (h : Dumped cfg s kept) (m : RecordMove cfg s a s') :
    Dumped cfg s' (kept ∧ Undisturbed cfg s (.record a)) := by
  by_cases store : a = .store
  · subst store
    cases m with
    | push r rest pc mode free =>
      refine (dumped_push r rest h).congr (and_congr_right fun _ => ?_)
      simp [Undisturbed]
    | append r rest pc fixed => exact absurd (fixed.symm.trans continuous) Bool.false_ne_true
  · refine (dumped_other continuous base h store m).congr ?_
    simp [Undisturbed, store]

theorem whole_final {log : List Entry} {v : Int} (h : Whole cfg log kept records) :
    Whole cfg (log ++ [.finalTrimmed v]) kept (finalTrim (v - cfg.length) records) := by
  obtain ⟨part, all⟩ := whole_cut (c := v - cfg.length) (e := .finalTrimmed v) h
    (by simp [Entry.pushed?]) (fun w old => by simp [old])
  rw [finalTrim_eq_cut]
  refine ⟨part, fun window => (all window).trans (and_iff_left ?_)⟩
  intro r head
  refine window v (by simp) r ?_
  rw [sinceStart_append, pushed_append]
  exact List.mem_append_left _ (h.1.subset (List.mem_of_mem_head? head))

theorem dumped_buffer {a : BufferAction} (base : Base cfg s) (fits : Fits s (.buffer a))
    (h : Dumped cfg s kept) (m : BufferMove cfg s a s') :
    Dumped cfg s' (kept ∧ Undisturbed cfg s (.buffer a)) := by
  have live : s.buffer ≠ .absent → s.record.inSession = true := fun some => (base.buffered some).2
  have calm : a ≠ .trim → (kept ↔ kept ∧ Undisturbed cfg s (.buffer a)) := by
    intro other
    simp [Undisturbed, other]
  cases m with
  | trim now pc =>
    have whole := whole_cut (c := now - cfg.length) (e := .trimmed now)
      (h.buffering (.inl (by simp [pc, BufferPc.gathering]))) (by simp [Entry.pushed?]) (by simp)
    rw [← periodicTrim_eq_cut _ (fits rfl)] at whole
    refine Dumped.congr (dumped_buffering (live (by simp [pc])) (by simp [State.note]) whole) ?_
    simp [Undisturbed, pc, BufferPc.trimming]
  | finalTrim v pc =>
    have whole := whole_final (v := v) (h.buffering (.inl (by simp [pc, BufferPc.gathering])))
    refine Dumped.congr (dumped_buffering (live (by simp [pc])) ?_ whole) (calm (by simp))
    simp [State.note]
  | write v v' pc =>
    have whole := h.buffering (.inr (by simp [pc, BufferPc.dumping]))
    have inside := live (by simp [pc])
    refine Dumped.congr ⟨?_, ?_, fun _ => ?_⟩ (calm (by simp))
    · intro preparing
      simp [RecordPc.not_preparing_of_inSession inside] at preparing
    · simp [BufferPc.gathering, BufferPc.dumping]
    · exact ⟨_, s.mInputBuf, Function.update_self .., whole⟩
  | openFile v pc | header v pc =>
    have whole := h.buffering (.inr (by simp [pc, BufferPc.dumping]))
    refine Dumped.congr (dumped_buffering (live (by simp [pc])) ?_ whole) (calm (by simp))
    simp
  | loadStop pc | loadWait pc | wake pc | now pc | readStop pc =>
    have whole := h.buffering (.inl (by simp [pc, BufferPc.gathering]))
    refine Dumped.congr (dumped_buffering (live (by simp [pc])) ?_ whole) (calm (by simp))
    simp

theorem dumped_step {a : Action} (continuous : cfg.mContinuous = true) (base : Base cfg s)
    (fits : Fits s a) (h : Dumped cfg s kept) (other : a ≠ .caller .spawn)
    (move : Move cfg s a s') : Dumped cfg s' (kept ∧ Undisturbed cfg s a) := by
  cases move with
  | caller m =>
    refine (dumped_caller h (fun same => other (same ▸ rfl)) m).congr ?_
    simp [Undisturbed]
  | record m => exact dumped_record continuous base h m
  | buffer m => exact dumped_buffer base fits h m
  | tick t =>
    refine Dumped.congr (h.keep rfl id id rfl rfl rfl rfl fun _ => id) ?_
    simp [Undisturbed]

/-- Along a session the dump holds all of its events if and only if nothing disturbed it. -/
theorem dumped_run {as : List Action} (continuous : cfg.mContinuous = true) (base : Base cfg s)
    (run_as : run (step cfg) s as = some s') (fits : Along (step cfg) Fits s as)
    (other : .caller .spawn ∉ as) (h : Dumped cfg s kept) :
    Dumped cfg s' (kept ∧ Along (step cfg) (Undisturbed cfg) s as) := by
  induction as generalizing s kept with
  | nil =>
    cases Option.some.inj run_as
    simpa [Along] using h
  | cons a as ih =>
    obtain ⟨t, stepped, rest⟩ := Option.bind_eq_some_iff.mp run_as
    have move := (step_move stepped).2
    have next := dumped_step continuous base fits.1 h (by rintro rfl; simp at other) move
    have last := ih (base_step base move) rest (fits.2 t stepped) (by simp_all) next
    refine last.congr ?_
    simp [Along, stepped, and_assoc]

def RecordPc.hand : RecordPc → Nat
  | .keysym .. | .updateKey .. | .store .. => 1
  | _ => 0

/-- The buffer and the event in hand come from so many readings. -/
def Sized (s : State X) (n : Nat) : Prop := s.mInputBuf.length + s.record.hand ≤ n

theorem hand_received (now : Int) (d : InDevice) (ev : InputEvent) (todo : List InDevice) :
    (received now d ev todo).hand ≤ 1 := by
  unfold received
  split
  · exact Nat.zero_le 1
  · exact Nat.le_refl 1

theorem hand_of_settle {pc : RecordPc} (xkb : Xkb X) (h : pc.settle xkb .null = (.null, [])) :
    pc.hand = 0 := by
  cases pc <;> first | rfl | simp [RecordPc.settle] at h

theorem sized_step {a : Action} {n : Nat} (move : Move cfg s a s') (h : Sized s n) :
    Sized s' (n + (reading s a).toList.length) := by
  unfold Sized at *
  have less : ∀ pc : RecordPc, pc.hand = 0 → s.mInputBuf.length + pc.hand ≤ n := by
    intro pc none
    omega
  cases move with
  | caller m =>
    cases m with
    | spawn | stopJoin | destroyJoin => exact less _ rfl
    | _ => exact h
  | record m =>
    cases m with
    | readEvent d rest ev pc =>
      have read : reading s (.record (.read (.event ev))) = some ⟨s.clock, d, ev⟩ := by
        simp [reading, pc]
      have one := hand_received s.clock d ev rest
      rw [read]
      change s.mInputBuf.length + (received s.clock d ev rest).hand ≤ n + 1
      omega
    | push r rest pc =>
      have resumed := hand_of_settle cfg.xkb (settle_resume cfg.xkb .null rest)
      simp only [pc, RecordPc.hand] at h
      change (s.mInputBuf ++ [r]).length + (resume rest).hand ≤ n
      rw [resumed, List.length_append]
      exact h
    | append r rest => exact less _ (hand_of_settle cfg.xkb (settle_resume ..))
    | readNothing d rest => exact less _ (hand_of_settle cfg.xkb (settle_resume ..))
    | escTime rest => exact less _ (hand_of_settle cfg.xkb (settle_resume ..))
    | select o => exact less _ (hand_of_settle cfg.xkb (settle_afterSelect ..))
    | loadStop | elapsed => exact less _ (hand_of_settle cfg.xkb (settle_exitLoop ..))
    | keysymSkip e rest pc | keysym e rest x pc | updateSkip e sym rest pc
    | updateKey e sym rest d x pc =>
      rw [pc] at h
      exact h
    | keysymReleased | updateReleased => exact h
    | _ => exact less _ rfl
  | buffer m =>
    cases m with
    | trim now =>
      have shorter := (periodicTrim_suffix (now - cfg.length) s.mInputBuf).length_le
      change (periodicTrim (now - cfg.length) s.mInputBuf).length + s.record.hand ≤ n
      omega
    | finalTrim v =>
      have shorter := (Window.cut_suffix InputRecord.tsAbs (v - cfg.length) s.mInputBuf).length_le
      rw [← finalTrim_eq_cut] at shorter
      change (finalTrim (v - cfg.length) s.mInputBuf).length + s.record.hand ≤ n
      omega
    | _ => exact h
  | tick t => exact h

/-- A session of few events keeps the buffer within its limit. -/
theorem fits_of_few {as : List Action} {n : Nat} (h : Sized s n)
    (few : n + (readings cfg s as).length < fileMaxLines) : Along (step cfg) Fits s as := by
  induction as generalizing s n with
  | nil => trivial
  | cons a as ih =>
    refine ⟨fun _ => ?_, fun t stepped => ?_⟩
    · unfold Sized at h
      omega
    · simp only [readings, stepped, List.length_append, ← Nat.add_assoc] at few
      exact ih (sized_step (step_move stepped).2 h) few

/-- The stop times of the session's final trims. -/
def finalTrims (log : List Entry) : List Int :=
  (sinceStart log).filterMap fun
    | .finalTrimmed v => some v
    | _ => none

/-- A session from the start of its thread to the end of `Record()`. -/
structure Session (cfg : Config X) (s : State X) (as : List Action) (s' : State X) : Prop where
  reached : ∃ xkb now before, run (step cfg) (initial cfg xkb now) before = some s
  begins : s.record = .clearing
  runs : run (step cfg) s as = some s'
  single : .caller .spawn ∉ as
  ends : s'.record = .returned

theorem Session.base {as : List Action} (session : Session cfg s as s') : Base cfg s := by
  obtain ⟨xkb, now, before, reached⟩ := session.reached
  exact run_invariant reached (base_initial xkb now) fun _ _ _ _ stepped base =>
    base_step base (step_move stepped).2

/-- At the end of a session its events are stored as they were heard. -/
theorem Session.stored {as : List Action} (session : Session cfg s as s') :
    Stored cfg s' (heard cfg.xkb s.mXkbState (readings cfg s as)).records := by
  have start : Hears cfg s ⟨s.mXkbState, []⟩ s.mXkbState [] := by
    refine ⟨.inl rfl, ⟨fun _ => rfl, ?_, ?_⟩, ?_, ?_⟩
    all_goals simp [session.begins, RecordPc.preparing, RecordPc.settle, Heard.records]
  obtain ⟨x, records, -, hears⟩ := hears_run session.base session.runs session.single start
  have all := hears.records
  rw [session.ends] at all
  have same : records = (heard cfg.xkb s.mXkbState (readings cfg s as)).records := by
    simpa [RecordPc.settle, heard] using all
  exact same ▸ hears.stored

theorem heard_time {xkb : Xkb X} {h : Heard X} {events : List Reading} {r : InputRecord}
    (inside : r ∈ (events.foldl (Heard.hear xkb) h).records) :
    r ∈ h.records ∨ ∃ e ∈ events, r.tsAbs = e.tsAbs := by
  induction events generalizing h with
  | nil => exact .inl inside
  | cons e events ih =>
    rcases ih inside with old | ⟨later, among, time⟩
    · unfold Heard.hear at old
      split at old
      · exact .inl old
      · rw [records_add] at old
        rcases List.mem_append.mp old with old | new
        · exact .inl old
        · refine .inr ⟨e, by simp, ?_⟩
          rw [List.mem_singleton.mp new]
          rfl
    · exact .inr ⟨later, by simp [among], time⟩

theorem eventLines_recording (start : Int) (records : List InputRecord) :
    eventLines (some (recording start records)) =
      records.map fun r => (Line.passThrough r).text := by
  simp [eventLines, recording, List.filterMap_map]

/-- A fixed-length session writes the lines that it prints at once. -/
theorem fixed_lines {as : List Action} (fixed : cfg.mContinuous = false)
    (session : Session cfg s as s') : eventLines (s'.cmdFile cfg.mFilename) =
      (heard cfg.xkb s.mXkbState (readings cfg s as)).printed := by
  obtain ⟨start, file⟩ := session.stored.written fixed (by rw [session.ends]; rfl)
  rw [file, eventLines_recording, printed_eq]

/-- A continuous session from an empty buffer dumps the same lines if and only if nothing
disturbed it. -/
theorem dump_lines {as : List Action} (continuous : cfg.mContinuous = true)
    (session : Session cfg s as s') (empty : s.mInputBuf = [])
    (few : (readings cfg s as).length < fileMaxLines)
    (window : ∀ v ∈ finalTrims s'.log, ∀ e ∈ readings cfg s as, v - cfg.length ≤ e.tsAbs) :
    eventLines (s'.cmdFile s'.mRecordingPath) =
        (heard cfg.xkb s.mXkbState (readings cfg s as)).printed ↔
      Along (step cfg) (Undisturbed cfg) s as := by
  have preparing : s.record.preparing = true := by rw [session.begins]; rfl
  have unbuffered := session.base.buffer_absent (by rw [session.begins]; rfl)
  have start : Dumped cfg s True := by
    refine dumped_preparing unbuffered preparing empty trivial ?_
    simp [session.begins]
  have sized : Sized s 0 := by simp [Sized, empty, session.begins, RecordPc.hand]
  have fits : Along (step cfg) Fits s as := fits_of_few sized (by omega)
  obtain ⟨first, records, file, part, all⟩ :=
    (dumped_run continuous session.base session.runs fits session.single start).dumped
      (.inr (.inl session.ends))
  have stored := session.stored.pushed continuous (.inr (by rw [session.ends]; rfl))
  have inWindow : InWindow cfg s'.log := by
    intro v final r inside
    rw [stored] at inside
    rcases heard_time inside with none | ⟨e, among, time⟩
    · cases none
    · rw [time]
      exact window v (List.mem_filterMap.mpr ⟨_, final, rfl⟩) e among
  have whole := (all inWindow).trans (iff_of_eq (true_and _))
  rw [file, eventLines_recording, printed_eq, ← stored, ← whole]
  constructor
  · intro lines
    have sizes := congrArg List.length lines
    simp only [List.length_map] at sizes
    exact part.eq_of_length sizes
  · intro same
    rw [same]

/-- A fixed-length and a continuous session that read the same events have the same event lines
if and only if nothing disturbed the continuous one. -/
theorem writers_agree_iff (cfg cfg' : Config X) (s s' t t' : State X) (as bs : List Action)
    (fixed : cfg.mContinuous = false) (continuous : cfg'.mContinuous = true)
    (printed : Session cfg s as s') (dumped : Session cfg' t bs t')
    (library : cfg'.xkb = cfg.xkb) (state : t.mXkbState = s.mXkbState)
    (same : readings cfg' t bs = readings cfg s as) (empty : t.mInputBuf = [])
    (few : (readings cfg' t bs).length < fileMaxLines)
    (window : ∀ v ∈ finalTrims t'.log, ∀ e ∈ readings cfg' t bs, v - cfg'.length ≤ e.tsAbs) :
    eventLines (s'.cmdFile cfg.mFilename) = eventLines (t'.cmdFile t'.mRecordingPath) ↔
      Along (step cfg') (Undisturbed cfg') t bs := by
  rw [fixed_lines fixed printed, ← dump_lines continuous dumped empty few window, library, state, same]
  exact eq_comm

/-- A key at 1000, printed at once, until the length has elapsed. -/
def printedKey : List Action :=
  List.flatten [(enterLoop.drop 2), [.tick 1000, .record .elapsedNow, .record .elapsedCheck],
    deliver ⟨evKey, 30, 1⟩, [.tick 30000, .record .elapsedNow, .record .elapsedCheck]]

/-- The same key in a continuous session that is stopped at 2000. -/
def dumpedKey : List Action :=
  List.flatten [(startSession.drop 2), [.tick 1000], deliver ⟨evKey, 30, 1⟩,
    [.tick 2000, .caller .stopFlag, .caller .stopTime], dumpWaiting, finishSession]

/-- The same key, pushed after the dump. -/
def lateKey : List Action := latePush.drop 2

theorem writers_agree_key : ∃ s s' t t' : State Unit,
    Session (keyboardRecorder false 30000) s printedKey s' ∧
    Session (keyboardRecorder true 30000) t dumpedKey t' ∧
    eventLines (s'.cmdFile "rec") = eventLines (t'.cmdFile t'.mRecordingPath) :=
  have printed : Session (keyboardRecorder false 30000) _ printedKey _ :=
    ⟨⟨some (), 0, enterLoop.take 2, Option.eq_some_of_isSome (by decide)⟩, by decide,
      Option.eq_some_of_isSome (by decide), by decide, by decide⟩
  have dumped : Session (keyboardRecorder true 30000) _ dumpedKey _ :=
    ⟨⟨some (), 0, enterLoop.take 2, Option.eq_some_of_isSome (by decide)⟩, by decide,
      Option.eq_some_of_isSome (by decide), by decide, by decide⟩
  ⟨_, _, _, _, printed, dumped,
    (writers_agree_iff _ _ _ _ _ _ _ _ rfl rfl printed dumped rfl (by decide) (by decide)
      (by decide) (by decide) (by decide)).mpr (by decide)⟩

/-- The key is in the one file and not in the other. -/
theorem late_key_missing : ∃ s s' t t' : State Unit,
    Session (keyboardRecorder false 30000) s printedKey s' ∧
    Session (keyboardRecorder true 30000) t lateKey t' ∧
    t.mXkbState = s.mXkbState ∧ t.mInputBuf = [] ∧
    readings (keyboardRecorder false 30000) s printedKey =
      [⟨1000, ⟨3, [], .keyboard, ⟨0, 0⟩, ⟨0, 0⟩⟩, ⟨evKey, 30, 1⟩⟩] ∧
    readings (keyboardRecorder true 30000) t lateKey =
      [⟨1000, ⟨3, [], .keyboard, ⟨0, 0⟩, ⟨0, 0⟩⟩, ⟨evKey, 30, 1⟩⟩] ∧
    finalTrims t'.log = [2000] ∧
    s'.cmdFile "rec" = some (recording 0 [⟨1000, .keyboard, 1, 30, 1, 38⟩]) ∧
    t'.cmdFile t'.mRecordingPath = some (recording 0 []) ∧
    eventLines (s'.cmdFile "rec") ≠ eventLines (t'.cmdFile t'.mRecordingPath) :=
  ⟨_, _, _, _,
    ⟨⟨some (), 0, enterLoop.take 2, Option.eq_some_of_isSome (by decide)⟩, by decide,
      Option.eq_some_of_isSome (by decide), by decide, by decide⟩,
    ⟨⟨some (), 0, enterLoop.take 2, Option.eq_some_of_isSome (by decide)⟩, by decide,
      Option.eq_some_of_isSome (by decide), by decide, by decide⟩,
    by decide, by decide, by decide, by decide, by decide, by decide, by decide, by decide⟩

end TestRunner.Recorder
