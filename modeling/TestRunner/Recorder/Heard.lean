import TestRunner.Recorder.Join
import TestRunner.Recorder.Buffer
import TestRunner.Recording

/-! What `Record()` makes of the events it reads in a session, the same in either mode. -/
namespace TestRunner.Recorder

variable {X : Type} {cfg : Config X} {s s' : State X}

/-- The event that a statement reads, as it comes from the device. -/
def reading (s : State X) : Action → Option Reading
  | .record (.read (.event ev)) =>
    match s.record with
    | .read (d :: _) => some ⟨s.clock, d, ev⟩
    | _ => none
  | _ => none

def readings (cfg : Config X) (s : State X) : List Action → List Reading
  | [] => []
  | a :: as =>
    match step cfg s a with
    | none => []
    | some t => (reading s a).toList ++ readings cfg t as

def Reading.transformed (e : Reading) : Reading := { e with ev := transformEvent e.device e.ev }

def Reading.keysym (xkb : Xkb X) (x : XkbRef X) (e : Reading) : UInt32 :=
  match e.resolves, x with
  | true, .live y => xkb.stateKeyGetOneSym y e.xkbCode
  | _, _ => 0

def Reading.turn (xkb : Xkb X) (x : XkbRef X) (e : Reading) : XkbRef X :=
  match e.direction, x with
  | some d, .live y => .live (xkb.stateUpdateKey y e.xkbCode d)
  | _, _ => x

def Reading.update (xkb : Xkb X) (x : XkbRef X) (e : Reading) : XkbRef X :=
  if e.resolves then e.turn xkb x else x

/-- The keyboard state and the events so far, each with its keysym. -/
structure Heard (X : Type) where
  xkb : XkbRef X
  events : List (Reading × UInt32)

def Heard.add (xkb : Xkb X) (h : Heard X) (e : Reading) : Heard X :=
  ⟨e.update xkb h.xkb, h.events ++ [(e, e.keysym xkb h.xkb)]⟩

def Heard.hear (xkb : Xkb X) (h : Heard X) (e : Reading) : Heard X :=
  if e.ev.isEsc then h else h.add xkb e.transformed

def heard (xkb : Xkb X) (x : XkbRef X) (events : List Reading) : Heard X :=
  events.foldl (Heard.hear xkb) ⟨x, []⟩

def Heard.records (h : Heard X) : List InputRecord := h.events.map fun e => e.1.record e.2

/-- What a fixed-length session prints for an event at once. -/
def printEvent (tsAbs : Int) (device : InDevice) (ev : InputEvent) (keysym : UInt32) : List Char :=
  '[' :: currentTimeStr tsAbs ++ ']' :: ' ' :: passThroughText ++
    Decimal.printInt device.type.number ++ ' ' :: Decimal.printInt ev.type.toNat ++
    ' ' :: Decimal.printInt ev.code.toNat ++ ' ' :: Decimal.printInt ev.value ++
    keysymText keysym ++ ['\n']

def Heard.printed (h : Heard X) : List (List Char) :=
  h.events.map fun e => printEvent e.1.tsAbs e.1.device e.1.ev e.2

/-- The event is printed as its record is. -/
theorem printEvent_record (e : Reading) (keysym : UInt32) :
    printEvent e.tsAbs e.device e.ev keysym = (Line.passThrough (e.record keysym)).text := rfl

theorem printed_eq (h : Heard X) : h.printed = h.records.map fun r => (Line.passThrough r).text := by
  simp [Heard.printed, Heard.records, printEvent_record]

@[simp] theorem records_add (xkb : Xkb X) (h : Heard X) (e : Reading) :
    (h.add xkb e).records = h.records ++ [e.record (e.keysym xkb h.xkb)] := by
  simp [Heard.records, Heard.add]

@[simp] theorem xkb_add (xkb : Xkb X) (h : Heard X) (e : Reading) :
    (h.add xkb e).xkb = e.update xkb h.xkb := rfl

/-- The keyboard state and the records once the event in hand is done with. -/
def RecordPc.settle (xkb : Xkb X) (x : XkbRef X) : RecordPc → XkbRef X × List InputRecord
  | .keysym e _ => (e.update xkb x, [e.record (e.keysym xkb x)])
  | .updateKey e sym _ => (e.turn xkb x, [e.record sym])
  | .store r _ => (x, [r])
  | _ => (x, [])

/-- The records that have reached the buffer or the file in this session. -/
structure Stored (cfg : Config X) (s : State X) (records : List InputRecord) : Prop where
  preparing : s.record.preparing = true → records = []
  pushed : cfg.mContinuous = true → s.record = .setup ∨ s.record.preparing = false →
    pushed (sinceStart s.log) = records
  written : cfg.mContinuous = false → s.record.preparing = false →
    ∃ start, s.cmdFile cfg.mFilename = some (recording start records)

/-- The events read so far are stored but for the one in hand. -/
structure Hears (cfg : Config X) (s : State X) (h : Heard X) (x : XkbRef X)
    (records : List InputRecord) : Prop where
  follows : s.mXkbState = x ∨ s.mXkbState = .released
  stored : Stored cfg s records
  xkb : (s.record.settle cfg.xkb x).1 = h.xkb
  records : records ++ (s.record.settle cfg.xkb x).2 = h.records

section Settling

variable (xkb : Xkb X) (x : XkbRef X)

@[simp] theorem settle_resume (todo : List InDevice) : (resume todo).settle xkb x = (x, []) := by
  cases todo <;> rfl

@[simp] theorem settle_exitLoop : cfg.exitLoop.settle xkb x = (x, []) := by
  unfold Config.exitLoop
  split <;> rfl

@[simp] theorem settle_afterSelect (o : SelectOutcome) :
    (afterSelect cfg s o).settle xkb x = (x, []) := by
  cases o with
  | timeout => rfl
  | error => exact settle_exitLoop xkb x
  | ready fds => exact settle_resume xkb x _

theorem settle_received (now : Int) (d : InDevice) (ev : InputEvent) (todo : List InDevice)
    (h : Heard X) : (received now d ev todo).settle xkb h.xkb =
      ((h.hear xkb ⟨now, d, ev⟩).xkb,
        if ev.isEsc then [] else [(Reading.transformed ⟨now, d, ev⟩).record
          ((Reading.transformed ⟨now, d, ev⟩).keysym xkb h.xkb)]) := by
  by_cases esc : ev.isEsc = true
  · simp [received, Heard.hear, RecordPc.settle, esc]
  · simp [received, Heard.hear, RecordPc.settle, Reading.transformed, esc]

end Settling

theorem Reading.unresolved (xkb : Xkb X) {x : XkbRef X} (e : Reading)
    (skip : e.resolves = false ∨ x = .null) : e.update xkb x = x ∧ e.keysym xkb x = 0 := by
  rcases skip with other | rfl
  · simp [Reading.update, Reading.keysym, other]
  · cases resolves : e.resolves <;> cases dir : e.direction <;>
      simp [Reading.update, Reading.keysym, Reading.turn, resolves, dir]

theorem Reading.turn_skip (xkb : Xkb X) {x : XkbRef X} (e : Reading)
    (skip : e.direction = none ∨ x = .null) : e.turn xkb x = x := by
  rcases skip with none | rfl
  · simp [Reading.turn, none]
  · cases dir : e.direction <;> simp [Reading.turn, dir]

theorem Stored.keep {records : List InputRecord} (h : Stored cfg s records)
    (preparing : s'.record.preparing = s.record.preparing)
    (setup : s'.record = .setup → s.record = .setup)
    (log : Recorder.pushed (sinceStart s'.log) = Recorder.pushed (sinceStart s.log))
    (files : cfg.mContinuous = false → s'.cmdFile = s.cmdFile) : Stored cfg s' records := by
  constructor
  · rw [preparing]
    exact h.preparing
  · intro continuous phase
    rw [log]
    rw [preparing] at phase
    exact h.pushed continuous (phase.imp_left setup)
  · intro fixed phase
    rw [files fixed]
    rw [preparing] at phase
    exact h.written fixed phase

theorem Hears.keep {h : Heard X} {x : XkbRef X} {records : List InputRecord}
    (hears : Hears cfg s h x records)
    (settle : s'.record.settle cfg.xkb x = s.record.settle cfg.xkb x)
    (state : s'.mXkbState = s.mXkbState ∨ s'.mXkbState = .released)
    (stored : Stored cfg s' records) : Hears cfg s' h x records := by
  refine ⟨?_, stored, ?_, ?_⟩
  · rcases state with same | released
    · exact same ▸ hears.follows
    · exact .inr released
  · rw [settle]
    exact hears.xkb
  · rw [settle]
    exact hears.records

theorem Hears.follows_eq {h : Heard X} {x y : XkbRef X} {records : List InputRecord}
    (hears : Hears cfg s h x records) (state : s.mXkbState = y) (alive : y ≠ .released) : x = y := by
  rcases hears.follows with same | released
  · exact same.symm.trans state
  · exact absurd (state.symm.trans released) alive

theorem XkbRef.unref_cases (x : XkbRef X) : x.unref = x ∨ x.unref = .released := by
  cases x with
  | live y => exact .inr rfl
  | _ => exact .inl rfl

variable {h : Heard X} {x : XkbRef X} {records : List InputRecord}

/-- A statement between two events of the loop. -/
theorem hears_between (hears : Hears cfg s h x records)
    (before : s.record.settle cfg.xkb x = (x, [])) (after : s'.record.settle cfg.xkb x = (x, []))
    (running : s.record.preparing = false) (runs : s'.record.preparing = false)
    (state : s'.mXkbState = s.mXkbState) (log : pushed (sinceStart s'.log) = pushed (sinceStart s.log))
    (files : s'.cmdFile = s.cmdFile) : Hears cfg s' h x records := by
  have setup : s'.record = .setup → s.record = .setup := by
    intro setup
    simp [setup, RecordPc.preparing] at runs
  exact hears.keep (after.trans before.symm) (.inl state)
    (hears.stored.keep (runs.trans running.symm) setup log fun _ => files)

theorem hears_caller {a : CallerAction} (hears : Hears cfg s h x records) (other : a ≠ .spawn)
    (m : CallerMove cfg s a s') : Hears cfg s' h x records := by
  cases m with
  | spawn pc free => exact absurd rfl other
  | terminate pc joinable => exact absurd rfl other
  | stopJoin pc joinable ended =>
    exact hears_between hears (by rw [ended]; rfl) rfl (by rw [ended]; rfl) rfl rfl
      (by simp [State.note, Entry.pushed?]) rfl
  | destroyJoin pc ended =>
    exact hears_between hears (by rw [ended]; rfl) rfl (by rw [ended]; rfl) rfl rfl
      (by simp [State.note, Entry.pushed?]) rfl
  | unrefState pc =>
    exact hears.keep rfl (XkbRef.unref_cases _) (hears.stored.keep rfl id rfl fun _ => rfl)
  | stopTime pc =>
    exact hears.keep rfl (.inl rfl)
      (hears.stored.keep rfl id (by simp [State.note, Entry.pushed?]) fun _ => rfl)
  | destroyTime pc =>
    exact hears.keep rfl (.inl rfl)
      (hears.stored.keep rfl id (by simp [State.note, Entry.pushed?]) fun _ => rfl)
  | _ => exact hears.keep rfl (.inl rfl) (hears.stored.keep rfl id rfl fun _ => rfl)

/-- A statement on the event in hand. -/
theorem hears_hand (hears : Hears cfg s h x records)
    (settle : s'.record.settle cfg.xkb x = s.record.settle cfg.xkb x)
    (running : s.record.preparing = false) (runs : s'.record.preparing = false)
    (state : s'.mXkbState = s.mXkbState) (log : s'.log = s.log) (files : s'.cmdFile = s.cmdFile) :
    Hears cfg s' h x records := by
  have setup : s'.record = .setup → s.record = .setup := by
    intro setup
    simp [setup, RecordPc.preparing] at runs
  exact hears.keep settle (.inl state)
    (hears.stored.keep (runs.trans running.symm) setup (by rw [log]) fun _ => files)

/-- The event in hand has been stored. -/
theorem hears_stored {r : InputRecord} {rest : List InDevice} (hears : Hears cfg s h x records)
    (pc : s.record = .store r rest) (after : s'.record = resume rest)
    (state : s'.mXkbState = s.mXkbState) (stored : Stored cfg s' (records ++ [r])) :
    Hears cfg s' h x (records ++ [r]) := by
  obtain ⟨follows, -, xkb, all⟩ := hears
  rw [pc] at xkb all
  refine ⟨by rw [state]; exact follows, stored, ?_, ?_⟩
  · rw [after, settle_resume]
    exact xkb
  · rw [after, settle_resume, List.append_nil]
    exact all

theorem hears_setup {a : RecordAction} (hears : Hears cfg s h x records)
    (pc : s.record.preparing = true) (m : RecordMove cfg s a s') : Hears cfg s' h x records := by
  obtain ⟨follows, stored, xkb, all⟩ := hears
  have none : records = [] := stored.preparing pc
  cases m with
  | clear pc free =>
    rw [pc] at xkb all
    exact ⟨follows, stored.keep (by rw [pc]; rfl) (by simp) rfl fun _ => rfl, xkb, all⟩
  | stamp pc =>
    rw [pc] at xkb all
    refine ⟨follows, ⟨fun _ => none, fun _ _ => ?_, ?_⟩, xkb, all⟩
    · simp [State.note, none, pushed]
    · simp [State.note, RecordPc.preparing]
  | setupContinuous pc continuous =>
    rw [pc] at xkb all
    refine ⟨follows, ⟨fun _ => none, fun _ _ => ?_, fun fixed => ?_⟩, xkb, all⟩
    · exact stored.pushed continuous (.inl pc)
    · exact absurd (fixed.symm.trans continuous) Bool.false_ne_true
  | setupFixed pc fixed =>
    rw [pc] at xkb all
    refine ⟨follows, ⟨fun _ => none, fun continuous => ?_, fun _ _ => ⟨s.mStartTime, ?_⟩⟩, xkb, all⟩
    · exact absurd (fixed.symm.trans continuous) Bool.false_ne_true
    · rw [none]
      exact Function.update_self ..
  | _ => simp_all [RecordPc.preparing]

theorem hears_read {d : InDevice} {ev : InputEvent} {rest : List InDevice}
    (hears : Hears cfg s h x records) (pc : s.record = .read (d :: rest)) :
    Hears cfg { s with record := received s.clock d ev rest } (h.hear cfg.xkb ⟨s.clock, d, ev⟩) x
      records := by
  obtain ⟨follows, stored, xkb, all⟩ := hears
  rw [pc] at xkb all
  simp only [RecordPc.settle, List.append_nil] at xkb all
  have settled := settle_received cfg.xkb s.clock d ev rest h
  have runs := RecordPc.not_preparing_of_routine (received_routine s.clock d ev rest)
  rw [← xkb] at settled
  refine ⟨follows, stored.keep ?_ ?_ rfl fun _ => rfl, ?_, ?_⟩
  · rw [pc]
    exact runs
  · exact fun setup => absurd setup (ne_setup_of_routine (received_routine ..))
  · rw [settled]
  · rw [settled]
    by_cases esc : ev.isEsc = true
    · simp [Heard.hear, esc, all]
    · simp [Heard.hear, esc, all, ← xkb]

theorem stored_pushed {r : InputRecord} {rest : List InDevice} (stored : Stored cfg s records)
    (continuous : cfg.mContinuous = true) (pc : s.record = .store r rest)
    (after : s'.record = resume rest) (log : s'.log = s.log ++ [.pushed r]) :
    Stored cfg s' (records ++ [r]) := by
  have runs := RecordPc.not_preparing_of_routine (resume_routine rest)
  refine ⟨?_, fun _ _ => ?_, fun fixed => absurd (fixed.symm.trans continuous) Bool.false_ne_true⟩
  · simp [after, runs]
  · have before := stored.pushed continuous (.inr (by rw [pc]; rfl))
    rw [log, sinceStart_append, pushed_append, before]
    rfl

theorem stored_appended {r : InputRecord} {rest : List InDevice} (stored : Stored cfg s records)
    (fixed : cfg.mContinuous = false) (pc : s.record = .store r rest)
    (after : s'.record = resume rest)
    (files : s'.cmdFile = appendLine s.cmdFile cfg.mFilename (.passThrough r)) :
    Stored cfg s' (records ++ [r]) := by
  have runs := RecordPc.not_preparing_of_routine (resume_routine rest)
  refine ⟨?_, fun continuous => absurd (fixed.symm.trans continuous) Bool.false_ne_true, fun _ _ => ?_⟩
  · simp [after, runs]
  · obtain ⟨start, file⟩ := stored.written fixed (by rw [pc]; rfl)
    refine ⟨start, ?_⟩
    rw [files, appendLine, Function.update_self, file]
    simp [recording]

theorem hears_record {a : RecordAction} (hears : Hears cfg s h x records)
    (m : RecordMove cfg s a s') : ∃ y stored,
      Hears cfg s' ((reading s (.record a)).toList.foldl (Heard.hear cfg.xkb) h) y stored := by
  cases m with
  | readEvent d rest ev pc =>
    have read : reading s (.record (.read (.event ev))) = some ⟨s.clock, d, ev⟩ := by
      simp [reading, pc]
    rw [read]
    exact ⟨x, records, hears_read hears pc⟩
  | push r rest pc continuous free =>
    exact ⟨x, records ++ [r],
      hears_stored hears pc rfl rfl (stored_pushed hears.stored continuous pc rfl rfl)⟩
  | append r rest pc fixed =>
    exact ⟨x, records ++ [r],
      hears_stored hears pc rfl rfl (stored_appended hears.stored fixed pc rfl rfl)⟩
  | clear pc free => exact ⟨x, records, hears_setup hears (by rw [pc]; rfl) (.clear pc free)⟩
  | stamp pc => exact ⟨x, records, hears_setup hears (by rw [pc]; rfl) (.stamp pc)⟩
  | setupContinuous pc mode =>
    exact ⟨x, records, hears_setup hears (by rw [pc]; rfl) (.setupContinuous pc mode)⟩
  | setupFixed pc mode =>
    exact ⟨x, records, hears_setup hears (by rw [pc]; rfl) (.setupFixed pc mode)⟩
  | keysymSkip e rest pc skip =>
    have null := skip.imp_right fun null => hears.follows_eq null (by simp)
    obtain ⟨update, keysym⟩ := e.unresolved cfg.xkb null
    refine ⟨x, records, hears_hand hears ?_ (by rw [pc]; rfl) rfl rfl rfl rfl⟩
    simp [pc, RecordPc.settle, update, keysym]
  | keysym e rest y pc resolves live =>
    have known := hears.follows_eq live (by simp)
    refine ⟨x, records, hears_hand hears ?_ (by rw [pc]; rfl) rfl rfl rfl rfl⟩
    simp [pc, RecordPc.settle, Reading.update, Reading.keysym, resolves, known]
  | keysymReleased e rest pc resolves dead =>
    exact ⟨x, records, hears.keep rfl (.inl rfl) (hears.stored.keep rfl id rfl fun _ => rfl)⟩
  | updateSkip e sym rest pc skip =>
    have null := skip.imp_right fun null => hears.follows_eq null (by simp)
    refine ⟨x, records, hears_hand hears ?_ (by rw [pc]; rfl) rfl rfl rfl rfl⟩
    simp [pc, RecordPc.settle, e.turn_skip cfg.xkb null]
  | updateKey e sym rest d y pc dir live =>
    have known := hears.follows_eq live (by simp)
    obtain ⟨follows, stored, xkb, all⟩ := hears
    rw [pc, known] at xkb all
    have turned : e.turn cfg.xkb (.live y) = .live (cfg.xkb.stateUpdateKey y e.xkbCode d) := by
      simp [Reading.turn, dir]
    refine ⟨_, records, .inl rfl, ?_, turned.symm.trans xkb, all⟩
    exact stored.keep (by rw [pc]; rfl) (by simp) rfl fun _ => rfl
  | updateReleased e sym rest d pc dir dead =>
    exact ⟨x, records, hears.keep rfl (.inl rfl) (hears.stored.keep rfl id rfl fun _ => rfl)⟩
  | joinBuffer pc ended =>
    exact ⟨x, records, hears_between hears (by rw [pc]; rfl) rfl (by rw [pc]; rfl) rfl rfl rfl rfl⟩
  | loadStop | elapsed =>
    refine ⟨x, records, hears_between hears ?_ (settle_exitLoop ..) ?_ ?_ rfl rfl rfl⟩
    · simp [*, RecordPc.settle]
    · simp [*, RecordPc.preparing]
    · exact RecordPc.not_preparing_of_routine (exitLoop_routine cfg)
  | select o left pc =>
    refine ⟨x, records, hears_between hears ?_ (settle_afterSelect ..) ?_ ?_ rfl rfl rfl⟩
    · simp [pc, RecordPc.settle]
    · simp [pc, RecordPc.preparing]
    · exact RecordPc.not_preparing_of_routine (afterSelect_routine cfg o)
  | readNothing d rest pc =>
    refine ⟨x, records, hears_between hears ?_ (settle_resume ..) ?_ ?_ rfl rfl rfl⟩
    · simp [pc, RecordPc.settle]
    · simp [pc, RecordPc.preparing]
    · exact RecordPc.not_preparing_of_routine (resume_routine rest)
  | escTime rest pc =>
    refine ⟨x, records, hears_between hears ?_ (settle_resume ..) ?_ ?_ rfl ?_ rfl⟩
    · simp [pc, RecordPc.settle]
    · simp [pc, RecordPc.preparing]
    · exact RecordPc.not_preparing_of_routine (resume_routine rest)
    · simp [State.note, Entry.pushed?]
  | _ =>
    refine ⟨x, records, hears_between hears ?_ rfl ?_ rfl rfl rfl rfl⟩
    · simp [*, RecordPc.settle]
    · simp [*, RecordPc.preparing]

/-- What a step leaves of the events read so far. -/
theorem hears_step {a : Action} (base : Base cfg s) (hears : Hears cfg s h x records)
    (other : a ≠ .caller .spawn) (move : Move cfg s a s') : ∃ y stored,
      Hears cfg s' ((reading s a).toList.foldl (Heard.hear cfg.xkb) h) y stored := by
  cases move with
  | caller m => exact ⟨x, records, hears_caller hears (fun same => other (same ▸ rfl)) m⟩
  | record m => exact hears_record hears m
  | buffer m =>
    have files : cfg.mContinuous = false → s'.cmdFile = s.cmdFile := by
      intro fixed
      have absent : s.buffer = .absent := by
        by_contra some
        exact absurd (fixed.symm.trans (base.buffered some).1) Bool.false_ne_true
      cases m <;> simp_all
    have same : s'.record = s.record ∧ s'.mXkbState = s.mXkbState ∧
        pushed (sinceStart s'.log) = pushed (sinceStart s.log) := by
      cases m <;> simp [State.note, Entry.pushed?]
    obtain ⟨record, state, log⟩ := same
    have stored := hears.stored.keep (by rw [record]) (by rw [record]; exact id) log files
    exact ⟨x, records, hears.keep (by rw [record]) (.inl state) stored⟩
  | tick t =>
    exact ⟨x, records, hears.keep rfl (.inl rfl) (hears.stored.keep rfl id rfl fun _ => rfl)⟩

theorem hears_run {as : List Action} (base : Base cfg s) (run_as : run (step cfg) s as = some s')
    (other : .caller .spawn ∉ as) (hears : Hears cfg s h x records) : ∃ y stored,
      Base cfg s' ∧ Hears cfg s' ((readings cfg s as).foldl (Heard.hear cfg.xkb) h) y stored := by
  induction as generalizing s h x records with
  | nil =>
    cases Option.some.inj run_as
    exact ⟨x, records, base, hears⟩
  | cons a as ih =>
    obtain ⟨t, stepped, rest⟩ := Option.bind_eq_some_iff.mp run_as
    have move := (step_move stepped).2
    obtain ⟨y, stored, next⟩ := hears_step base hears (by rintro rfl; simp at other) move
    obtain ⟨z, last, all⟩ := ih (base_step base move) rest (by simp_all) next
    refine ⟨z, last, ?_⟩
    simpa only [readings, stepped, List.foldl_append] using all

end TestRunner.Recorder
