import TestRunner.Recorder.Keysyms
import TestRunner.Recorder.Touch

/-! The lines of a recorder's files at every moment of every run: a file that was only just opened has
none, any other has a recording that can be read back. -/
namespace TestRunner

open Decimal

def fileText (lines : List Line) : List Char := lines.flatMap Line.text

structure DecodedFile where
  version : Int
  timeOfDay : Int
  lines : List Decoded
  deriving DecidableEq, Repr

/-- The two lines of the header, then event lines. -/
def decodeFile (text : List Char) : Option DecodedFile := do
  let text ← expect versionText text
  let (version, text) ← readInt text
  let text ← expect ['\n', '['] text
  let (timeOfDay, text) ← readTime text
  let text ← expect [']', '\n'] text
  let lines ← decodeBody text
  some ⟨version, timeOfDay, lines⟩

namespace Recorder

variable {X : Type} {cfg : Config X} {s s' : State X}

theorem fileText_recording (start : Int) (records : List InputRecord) :
    fileText (recording start records) =
      (Line.version recordingFormatVersion).text ++ ((Line.start start).text ++ bodyText records) := by
  simp only [fileText, recording, List.flatMap_cons, List.flatMap_map, bodyText]

theorem decodeFile_recording (start : Int) (records : List InputRecord) :
    decodeFile (fileText (recording start records)) =
      some ⟨recordingFormatVersion, start.tmod dayMs, records.map InputRecord.decoded⟩ := by
  have newline : ∀ text : List Char, Stops ('\n' :: text) := stops_newline
  have bracket : ∀ text : List Char, Stops (']' :: text) := fun text => stops_cons (by decide) text
  have first : ∀ text : List Char, expect ['\n', '['] ('\n' :: '[' :: text) = some text :=
    fun text => expect_append ['\n', '['] text
  have last : ∀ text : List Char, expect [']', '\n'] (']' :: '\n' :: text) = some text :=
    fun text => expect_append [']', '\n'] text
  rw [fileText_recording]
  simp only [Line.text, List.append_assoc, List.cons_append, List.nil_append]
  simp only [decodeFile, expect_append, readInt_printInt _ (newline _), first,
    readTime_currentTimeStr _ (bracket _), last, decodeBody_bodyText, Option.bind_eq_bind,
    Option.bind_some]

/-- The `int` that a coordinate is converted to holds its value. -/
def Converts (s : State X) (a : Action) : Prop :=
  ∀ e ∈ reading s a, FitsInt e.transformed.ev.value

instance (s : State X) (a : Action) : Decidable (Converts s a) :=
  inferInstanceAs (Decidable (∀ e ∈ reading s a, FitsInt e.transformed.ev.value))

/-- An event as the loop has it in hand: of an available device, transformed, and no ESC. -/
structure Sound (cfg : Config X) (e : Reading) : Prop where
  available : e.device ∈ cfg.availableDevices
  kept : e.ev.isEsc = false
  fits : FitsInt e.ev.value

/-- A record of such an event, where only a key of a keyboard has a keysym. -/
def Tells (cfg : Config X) (r : InputRecord) : Prop :=
  ∃ e sym, Sound cfg e ∧ (sym ≠ 0 → e.resolves = true) ∧ r = e.record sym

def RecordPc.sound (cfg : Config X) : RecordPc → Prop
  | .keysym e _ => Sound cfg e
  | .updateKey e _ _ => Sound cfg e ∧ e.resolves = true
  | .store r _ => Tells cfg r
  | _ => True

/-- What a file holds: nothing before the dump that has opened it, a whole recording otherwise. -/
def Filed (cfg : Config X) (lines : List Line) : Prop :=
  lines = [] ∧ cfg.mContinuous = true ∨
    ∃ start records, lines = recording start records ∧ ∀ r ∈ records, Tells cfg r

structure Files (cfg : Config X) (s : State X) : Prop where
  hand : s.record.sound cfg
  buffer : ∀ r ∈ s.mInputBuf, Tells cfg r
  cmdFile : ∀ path lines, s.cmdFile path = some lines → Filed cfg lines

/-- Where what a file holds after a statement comes from. -/
inductive FileMove (cfg : Config X) (s : State X) (path : String) (lines : List Line) : Prop where
  | kept (before : s.cmdFile path = some lines)
  | opened (v : Int) (pc : s.buffer = .openFile v) (none : lines = [])
  | begun (pc : s.record = .setup) (header : lines = recording s.mStartTime [])
  | appended (r : InputRecord) (rest : List InDevice) (old : List Line)
      (fixed : cfg.mContinuous = false) (pc : s.record = .store r rest)
      (before : s.cmdFile path = some old) (more : lines = old ++ [.passThrough r])
  | dumped (v v' : Int) (pc : s.buffer = .write v v')
      (whole : lines = recording (headerStart cfg s.mStartTime v v') s.mInputBuf)

theorem update_cases {files : String → Option (List Line)} {path p : String}
    {value : Option (List Line)} {lines : List Line}
    (file : Function.update files p value path = some lines) :
    path = p ∧ value = some lines ∨ files path = some lines := by
  by_cases own : path = p
  · subst own
    rw [Function.update_self] at file
    exact .inl ⟨rfl, file⟩
  · rw [Function.update_of_ne own] at file
    exact .inr file

theorem file_move {a : Action} {path : String} {lines : List Line} (move : Move cfg s a s')
    (file : s'.cmdFile path = some lines) : FileMove cfg s path lines := by
  cases move with
  | caller m => cases m <;> exact .kept file
  | record m =>
    cases m with
    | setupFixed pc fixed =>
      rcases update_cases file with ⟨-, new⟩ | before
      · exact .begun pc (Option.some.inj new).symm
      · exact .kept before
    | append r rest pc fixed =>
      rcases update_cases file with ⟨rfl, new⟩ | before
      · obtain ⟨old, before, rfl⟩ := Option.map_eq_some_iff.mp new
        exact .appended r rest old fixed pc before rfl
      · exact .kept before
    | _ => exact .kept file
  | buffer m =>
    cases m with
    | openFile v pc =>
      rcases update_cases file with ⟨-, new⟩ | before
      · exact .opened v pc (Option.some.inj new).symm
      · exact .kept before
    | write v v' pc =>
      rcases update_cases file with ⟨-, new⟩ | before
      · exact .dumped v v' pc (Option.some.inj new).symm
      · exact .kept before
    | _ => exact .kept file
  | tick t => exact .kept file

theorem filed_append {r : InputRecord} {lines : List Line} (fixed : cfg.mContinuous = false)
    (tells : Tells cfg r) (filed : Filed cfg lines) : Filed cfg (lines ++ [.passThrough r]) := by
  rcases filed with ⟨-, continuous⟩ | ⟨start, records, rfl, all⟩
  · exact absurd (fixed.symm.trans continuous) Bool.false_ne_true
  · refine .inr ⟨start, records ++ [r], by simp [recording], ?_⟩
    rintro q inside
    rcases List.mem_append.mp inside with old | new
    · exact all q old
    · exact List.mem_singleton.mp new ▸ tells

theorem filed_move {path : String} {lines : List Line} (base : Base cfg s) (h : Files cfg s)
    (m : FileMove cfg s path lines) : Filed cfg lines := by
  cases m with
  | kept before => exact h.cmdFile path lines before
  | opened v pc empty => exact .inl ⟨empty, (base.buffered (by simp [pc])).1⟩
  | begun pc header => exact .inr ⟨_, [], header, by simp⟩
  | appended r rest old fixed pc before more =>
    have tells : Tells cfg r := by simpa [pc, RecordPc.sound] using h.hand
    exact more ▸ filed_append fixed tells (h.cmdFile path old before)
  | dumped v v' pc whole => exact .inr ⟨_, _, whole, h.buffer⟩

theorem sound_of_left {pc : RecordPc} (hand : pc.taken = none) : pc.sound cfg := by
  cases pc <;> trivial

theorem sound_received {d : InDevice} {rest : List InDevice} {ev : InputEvent} (reads : Reads cfg s)
    (pc : s.record = .read (d :: rest)) (converts : Converts s (.record (.read (.event ev)))) :
    (received s.clock d ev rest).sound cfg := by
  unfold received
  cases esc : ev.isEsc with
  | true => trivial
  | false =>
    refine ⟨reads.left d (by simp [pc]), ?_, ?_⟩
    · rw [← esc]
      exact transformEvent_isEsc d ev
    · exact converts ⟨s.clock, d, ev⟩ (by simp [reading, pc])

theorem files_step {a : Action} (base : Base cfg s) (reads : Reads cfg s) (converts : Converts s a)
    (move : Move cfg s a s') (h : Files cfg s) : Files cfg s' := by
  refine ⟨?_, ?_, fun path lines file => filed_move base h (file_move move file)⟩
  · cases move with
    | caller m => cases m <;> first | exact h.hand | trivial
    | record m =>
      have hand := h.hand
      cases m with
      | readEvent d rest ev pc => exact sound_received reads pc converts
      | keysymSkip e rest pc skip =>
        rw [pc] at hand
        exact ⟨e, 0, hand, by simp, rfl⟩
      | keysym e rest x pc resolves live =>
        rw [pc] at hand
        exact ⟨hand, resolves⟩
      | updateSkip e sym rest pc skip =>
        rw [pc] at hand
        exact ⟨e, sym, hand.1, fun _ => hand.2, rfl⟩
      | updateKey e sym rest d x pc dir live =>
        rw [pc] at hand
        exact ⟨e, sym, hand.1, fun _ => hand.2, rfl⟩
      | keysymReleased | updateReleased => exact hand
      | _ => exact sound_of_left (by simp [State.note])
    | buffer m => cases m <;> exact h.hand
    | tick t => exact h.hand
  · cases move with
    | caller m => cases m <;> exact h.buffer
    | record m =>
      cases m with
      | push r rest pc continuous free =>
        have tells : Tells cfg r := by simpa [pc, RecordPc.sound] using h.hand
        rintro q inside
        rcases List.mem_append.mp inside with old | new
        · exact h.buffer q old
        · exact List.mem_singleton.mp new ▸ tells
      | _ => exact h.buffer
    | buffer m =>
      cases m with
      | trim now pc =>
        exact fun r inside => h.buffer r ((periodicTrim_suffix _ _).subset inside)
      | finalTrim v pc =>
        simp only [State.note, finalTrim_eq_cut]
        exact fun r inside => h.buffer r ((Window.cut_suffix _ _ _).subset inside)
      | _ => exact h.buffer
    | tick t => exact h.buffer

theorem files_initial (xkb : Option X) (now : Nat) : Files cfg (initial cfg xkb now) := by
  constructor <;> simp [initial, RecordPc.sound]

theorem reads_initial (xkb : Option X) (now : Nat) : Reads cfg (initial cfg xkb now) := by
  constructor <;> simp [initial]

/-- What is known of every record of a file: the device is an available one, the event is no ESC and
has values of an `input_event`, and only the key of a keyboard has a keysym. -/
structure Playable (cfg : Config X) (r : InputRecord) : Prop where
  device : ∃ d ∈ cfg.availableDevices, d.type = r.devType
  type : 0 ≤ r.inputType ∧ r.inputType < 65536
  code : 0 ≤ r.inputCode ∧ r.inputCode < 65536
  value : FitsInt r.inputVal
  kept : ¬ (r.inputType = evKey.toNat ∧ r.inputCode = keyEsc.toNat)
  keysym : r.keysym ≠ 0 → r.inputType = evKey.toNat ∧ r.devType = .keyboard

theorem Tells.playable {r : InputRecord} (tells : Tells cfg r) : Playable cfg r := by
  obtain ⟨e, sym, ⟨available, kept, fits⟩, resolves, rfl⟩ := tells
  have type := e.ev.type.toNat_lt
  have code := e.ev.code.toNat_lt
  refine ⟨⟨e.device, available, rfl⟩, ?_, ?_, fits, ?_, fun some => ?_⟩
  · simp only [Reading.record]
    omega
  · simp only [Reading.record]
    omega
  · rintro ⟨key, esc⟩
    simp only [Reading.record, Int.natCast_inj, UInt16.toNat_inj] at key esc
    simp [InputEvent.isEsc, key, esc] at kept
  · have resolved := resolves some
    simp only [Reading.resolves, Bool.decide_and, Bool.and_eq_true, decide_eq_true_eq] at resolved
    simp [Reading.record, resolved]

section Order

/-- Between the start and the time. -/
def Within (start : Int) (records : List InputRecord) (t : Int) : Prop :=
  start ≤ t ∧ ∀ r ∈ records, start ≤ r.tsAbs ∧ r.tsAbs ≤ t

/-- Files in the order of time; those of fixed-length sessions within what has passed since their
start, and before the event in hand. -/
structure Timed (cfg : Config X) (s : State X) : Prop where
  ordered : ∀ path start records, s.cmdFile path = some (recording start records) →
    Window.Ordered InputRecord.tsAbs records
  past : cfg.mContinuous = false → ∀ path start records,
    s.cmdFile path = some (recording start records) → Within start records s.clock
  taken : cfg.mContinuous = false → ∀ t ∈ s.record.taken, ∀ path start records,
    s.cmdFile path = some (recording start records) → Within start records t

variable {start : Int} {records : List InputRecord}

theorem Within.later {t u : Int} (h : Within start records t) (le : t ≤ u) :
    Within start records u :=
  ⟨h.1.trans le, fun r inside => ⟨(h.2 r inside).1, (h.2 r inside).2.trans le⟩⟩

theorem recording_inj {start' : Int} {records' : List InputRecord}
    (same : recording start records = recording start' records') :
    start = start' ∧ records = records' := by
  simp only [recording, List.cons.injEq, Line.start.injEq, true_and] at same
  exact ⟨same.1, List.map_injective_iff.mpr (fun _ _ => Line.passThrough.inj) same.2⟩

/-- A recording that ends with an added line was one before. -/
theorem recording_append {old : List Line} {r : InputRecord}
    (same : recording start records = old ++ [.passThrough r]) :
    ∃ before, records = before ++ [r] ∧ old = recording start before := by
  induction records using List.reverseRecOn with
  | nil =>
    have last := congrArg List.getLast? same
    simp [recording] at last
  | append_singleton before q _ =>
    have split : recording start (before ++ [q]) = recording start before ++ [.passThrough q] := by
      simp [recording]
    rw [split] at same
    obtain ⟨front, last⟩ := List.append_inj' same rfl
    cases List.singleton_inj.mp last
    exact ⟨before, rfl, front.symm⟩

theorem within_move {path : String} (base : Base cfg s) (timely : Timely s) (h : Timed cfg s)
    (fixed : cfg.mContinuous = false) (m : FileMove cfg s path (recording start records)) :
    Within start records s.clock := by
  cases m with
  | kept before => exact h.past fixed path start records before
  | opened v pc empty => cases empty
  | begun pc header =>
    obtain ⟨rfl, rfl⟩ := recording_inj header
    exact ⟨timely.start, by simp⟩
  | appended r rest old _ pc before more =>
    obtain ⟨earlier, rfl, rfl⟩ := recording_append more
    have hand : r.tsAbs ∈ s.record.taken := by simp [pc]
    have here := h.taken fixed r.tsAbs hand path start earlier before
    have now := (timely.taken r.tsAbs hand).1
    refine ⟨here.1.trans now, fun q inside => ?_⟩
    rcases List.mem_append.mp inside with old | new
    · exact (here.later now).2 q old
    · cases List.mem_singleton.mp new
      exact ⟨here.1, now⟩
  | dumped v v' pc whole =>
    exact absurd (fixed.symm.trans (base.buffered (by simp [pc])).1) Bool.false_ne_true

theorem ordered_move {path : String} (clocked : Clocked cfg s) (h : Timed cfg s)
    (m : FileMove cfg s path (recording start records)) :
    Window.Ordered InputRecord.tsAbs records := by
  cases m with
  | kept before => exact h.ordered path start records before
  | opened v pc empty => cases empty
  | begun pc header =>
    obtain ⟨-, rfl⟩ := recording_inj header
    exact List.Pairwise.nil
  | appended r rest old fixed pc before more =>
    obtain ⟨earlier, rfl, rfl⟩ := recording_append more
    have here := h.taken fixed r.tsAbs (by simp [pc]) path start earlier before
    refine List.pairwise_append.mpr ⟨h.ordered path start earlier before, by simp, ?_⟩
    intro q inside q' last
    cases List.mem_singleton.mp last
    exact (here.2 q inside).2
  | dumped v v' pc whole =>
    obtain ⟨-, rfl⟩ := recording_inj whole
    exact clocked.ordered

theorem timed_initial (xkb : Option X) (now : Nat) : Timed cfg (initial cfg xkb now) := by
  constructor <;> simp [initial]

theorem clock_le {a : Action} (forward : Forward s a) (move : Move cfg s a s') :
    s.clock ≤ s'.clock := by
  cases move with
  | caller m => cases m <;> exact le_refl _
  | record m => cases m <;> exact le_refl _
  | buffer m => cases m <;> exact le_refl _
  | tick t => exact forward

/-- A statement leaves the event in hand and the files alone, or takes or gives up an event. -/
theorem taken_move {a : Action} (move : Move cfg s a s') (base : Base cfg s)
    (fixed : cfg.mContinuous = false) {t : Int} (taken : t ∈ s'.record.taken) :
    s'.cmdFile = s.cmdFile ∧ (t ∈ s.record.taken ∨ t = s.clock) := by
  cases move with
  | caller m => cases m <;> simp_all [State.note]
  | record m =>
    cases m with
    | readEvent d rest ev pc => exact ⟨rfl, .inr (taken_received taken)⟩
    | _ => simp_all [State.note]
  | buffer m =>
    have some : s.buffer ≠ .absent := by cases m <;> simp [*]
    exact absurd (fixed.symm.trans (base.buffered some).1) Bool.false_ne_true
  | tick u => exact ⟨rfl, .inl taken⟩

theorem timed_step {a : Action} (base : Base cfg s) (clocked : Clocked cfg s) (forward : Forward s a)
    (move : Move cfg s a s') (h : Timed cfg s) : Timed cfg s' := by
  constructor
  · exact fun path start records file => ordered_move clocked h (file_move move file)
  · intro fixed path start records file
    exact (within_move base clocked.timely h fixed (file_move move file)).later
      (clock_le forward move)
  · intro fixed t taken path start records file
    obtain ⟨files, here⟩ := taken_move move base fixed taken
    rw [files] at file
    rcases here with hand | rfl
    · exact h.taken fixed t hand path start records file
    · exact h.past fixed path start records file

theorem timed_run {xkb : Option X} {now : Nat} {as : List Action}
    (reached : run (step cfg) (initial cfg xkb now) as = some s)
    (forward : Along (step cfg) Forward (initial cfg xkb now) as) : Timed cfg s := by
  have all : Base cfg s ∧ Clocked cfg s ∧ Timed cfg s := by
    refine Reaches.invariant (I := fun t => Base cfg t ∧ Clocked cfg t ∧ Timed cfg t)
      ⟨as, reached, forward⟩ ⟨base_initial xkb now, clocked_initial xkb now, timed_initial xkb now⟩ ?_
    rintro t a t' forward stepped ⟨base, clocked, timed⟩
    have move := (step_move stepped).2
    exact ⟨base_step base move, clocked_step forward move clocked,
      timed_step base clocked forward move timed⟩
  exact all.2.2

/-- With a clock that never goes back the events of every file are in the order of their times, and
in a fixed-length recording none is earlier than the header says. -/
theorem files_ordered (cfg : Config X) (xkb : Option X) (now : Nat) (as : List Action)
    (s : State X) (reached : run (step cfg) (initial cfg xkb now) as = some s)
    (forward : Along (step cfg) Forward (initial cfg xkb now) as) (path : String) (start : Int)
    (records : List InputRecord) (file : s.cmdFile path = some (recording start records)) :
    Window.Ordered InputRecord.tsAbs records ∧
      (cfg.mContinuous = false → Within start records s.clock) := by
  have timed := timed_run reached forward
  exact ⟨timed.ordered path start records file, fun fixed =>
    timed.past fixed path start records file⟩

theorem files_ordered_two : ∃ s start records,
    run (step (keyboardRecorder false 30000)) (initial (keyboardRecorder false 30000) (some ()) 0)
      (List.flatten [[.tick 500], enterLoop, [.record .elapsedNow, .record .elapsedCheck, .tick 1000],
        deliver ⟨evKey, 30, 1⟩, [.record .elapsedNow, .record .elapsedCheck, .tick 2000],
        deliver ⟨evKey, 30, 0⟩]) = some s ∧
    records.length = 2 ∧ Window.Ordered InputRecord.tsAbs records ∧
      ((keyboardRecorder false 30000).mContinuous = false → Within start records s.clock) :=
  ⟨_, 500, [⟨1000, .keyboard, 1, 30, 1, 38⟩, ⟨2000, .keyboard, 1, 30, 0, 38⟩],
    Option.eq_some_of_isSome (by decide), rfl,
    files_ordered _ _ _ _ _ (Option.eq_some_of_isSome (by decide)) (by decide) "rec" _ _ (by decide)⟩

end Order

section Complete

def State.whole (s : State X) (path : String) : Prop :=
  ∃ start records, s.cmdFile path = some (recording start records)

/-- The file of a session is whole from its header on in a fixed-length session, and from the end of
the dump on in a continuous one. -/
structure Complete (cfg : Config X) (s : State X) : Prop where
  printed : cfg.mContinuous = false → s.record.inSession = true ∨ s.record = .returned →
    s.whole cfg.mFilename
  path : cfg.mContinuous = false → s.mRecordingPath = cfg.mFilename
  dumped : s.buffer = .finished → s.whole s.mRecordingPath
  returned : cfg.mContinuous = true → s.record = .returned → s.whole s.mRecordingPath

theorem complete_initial (xkb : Option X) (now : Nat) : Complete cfg (initial cfg xkb now) := by
  constructor <;> simp +contextual [initial]

theorem Complete.keep (h : Complete cfg s) (files : s'.cmdFile = s.cmdFile)
    (path : s'.mRecordingPath = s.mRecordingPath)
    (session : s'.record.inSession = true ∨ s'.record = .returned →
      s.record.inSession = true ∨ s.record = .returned)
    (finished : s'.buffer = .finished → s.buffer = .finished)
    (returned : cfg.mContinuous = true → s'.record = .returned →
      s.record = .returned ∨ s.buffer = .finished) : Complete cfg s' := by
  have same : ∀ path, s.whole path → s'.whole path := by
    rintro path ⟨start, records, file⟩
    exact ⟨start, records, by rw [files, file]⟩
  refine ⟨fun fixed pc => same _ (h.printed fixed (session pc)), fun fixed => path.trans (h.path fixed),
    fun pc => path ▸ same _ (h.dumped (finished pc)), fun continuous pc => path ▸ same _ ?_⟩
  exact (returned continuous pc).elim (h.returned continuous) h.dumped

theorem complete_record {a : RecordAction} (m : RecordMove cfg s a s') (base : Base cfg s)
    (h : Complete cfg s) : Complete cfg s' := by
  cases m with
  | setupFixed pc fixed =>
    have unbuffered := base.buffer_absent (by simp [pc])
    refine ⟨fun _ _ => ⟨s.mStartTime, [], Function.update_self ..⟩, h.path, ?_, ?_⟩
    · simp [unbuffered]
    · simp
  | append r rest pc fixed =>
    obtain ⟨start, records, file⟩ := h.printed fixed (.inl (by simp [pc]))
    have unbuffered : s.buffer ≠ .finished := fun pc =>
      absurd (fixed.symm.trans (base.buffered (by simp [pc])).1) Bool.false_ne_true
    refine ⟨fun _ _ => ⟨start, records ++ [r], ?_⟩, h.path, fun pc => absurd pc unbuffered, ?_⟩
    · simp [appendLine, file, recording]
    · exact fun continuous => absurd (fixed.symm.trans continuous) Bool.false_ne_true
  | joinBuffer pc ended =>
    exact h.keep rfl rfl (fun _ => .inl (by simp [pc])) (by simp) fun _ _ => .inr ended
  | loadStop pc | elapsed now pc =>
    refine h.keep rfl rfl (fun _ => .inl (by simp [pc])) id fun continuous ended => ?_
    exact absurd ((exitLoop_returned ended).symm.trans continuous) Bool.false_ne_true
  | select o left pc =>
    refine h.keep rfl rfl (fun _ => .inl (by simp [pc])) id fun continuous ended => ?_
    exact absurd ((afterSelect_returned ended).symm.trans continuous) Bool.false_ne_true
  | readEvent d rest ev pc =>
    refine h.keep rfl rfl (fun _ => .inl (by simp [pc])) id fun _ ended => ?_
    exact absurd ended (ne_returned_of_inSession (received_inSession ..))
  | readNothing d rest pc | escTime rest pc | push r rest pc =>
    refine h.keep rfl rfl (fun _ => .inl (by simp [pc])) id fun _ ended => ?_
    exact absurd ended (ne_returned_of_inSession (resume_inSession _))
  | clear pc | stamp pc => exact h.keep rfl rfl (by simp [State.note]) id (by simp [State.note])
  | setupContinuous pc continuous =>
    refine ⟨fun fixed => absurd (fixed.symm.trans continuous) Bool.false_ne_true, h.path, ?_, ?_⟩ <;>
      simp
  | _ => exact h.keep rfl rfl (by simp [*]) id (by simp [*])

theorem complete_step {a : Action} (base : Base cfg s) (move : Move cfg s a s')
    (h : Complete cfg s) : Complete cfg s' := by
  cases move with
  | caller m =>
    cases m with
    | spawn | stopJoin | destroyJoin =>
      exact h.keep rfl rfl (by simp [State.note]) id (by simp [State.note])
    | _ => exact h.keep rfl rfl id id fun _ => .inl
  | record m => exact complete_record m base h
  | buffer m =>
    have some : s.buffer ≠ .absent := by cases m <;> simp [*]
    obtain ⟨continuous, inSession⟩ := base.buffered some
    have unended := ne_returned_of_inSession inSession
    have fixed {p : Prop} (fixed : cfg.mContinuous = false) : p :=
      absurd (fixed.symm.trans continuous) Bool.false_ne_true
    cases m with
    | write v v' pc =>
      exact ⟨fixed, fixed, fun _ => ⟨_, _, Function.update_self ..⟩, fun _ pc => absurd pc unended⟩
    | _ => exact ⟨fixed, fixed, by simp [State.note], fun _ pc => absurd pc unended⟩
  | tick t => exact h.keep rfl rfl id id fun _ => .inl

theorem Complete.whole (h : Complete cfg s) (ended : s.record = .returned) :
    s.whole s.mRecordingPath := by
  cases mode : cfg.mContinuous with
  | true => exact h.returned mode ended
  | false => exact h.path mode ▸ h.printed mode (.inr ended)

theorem complete_run {xkb : Option X} {now : Nat} {as : List Action}
    (reached : run (step cfg) (initial cfg xkb now) as = some s) : Base cfg s ∧ Complete cfg s := by
  refine run_invariant (I := fun t => Base cfg t ∧ Complete cfg t) reached
    ⟨base_initial xkb now, complete_initial xkb now⟩ ?_
  rintro a - t t' stepped ⟨base, complete⟩
  have move := (step_move stepped).2
  exact ⟨base_step base move, complete_step base move complete⟩

end Complete

end Recorder

end TestRunner
