import TestRunner.Recorder.Files
import TestRunner.Recorder.Join
import TestRunner.Stream

/-! A recorder over a file system. Each session has one `cmd_file`, whose `open()` may fail; what the
statements put into it is written at any time up to its end, and a write may fail. -/
namespace TestRunner.Recorder

variable {X : Type} {cfg : Config X} {s s' : State X}

/-- What a statement puts into the `cmd_file` of its thread. -/
def puts (cfg : Config X) (s : State X) : Action → List Line
  | .record .setup => if cfg.mContinuous then [] else recording s.mStartTime []
  | .record .store =>
    match s.record with
    | .store r _ => if cfg.mContinuous then [] else [.passThrough r]
    | _ => []
  | .buffer .write =>
    match s.buffer with
    | .write v v' => recording (headerStart cfg s.mStartTime v v') s.mInputBuf
    | _ => []
  | _ => []

/-- A spawn that starts a session. -/
def starts (s : State X) (a : Action) : Bool := a = .caller .spawn ∧ s.mRecorderThread = false

/-- The statements that wait for the end of a thread. -/
def Action.joins : Action → Bool
  | .caller .stopJoin | .caller .destroyJoin | .record .joinBuffer => true
  | _ => false

section Statements

def BufferPc.printing : BufferPc → Bool
  | .header _ | .write _ _ => true
  | _ => false

/-- A thread that still puts lines into its `cmd_file`. -/
def State.printing (cfg : Config X) (s : State X) : Bool :=
  if cfg.mContinuous then s.buffer.printing else s.record.inSession

/-- A thread that has a `cmd_file`, up to its end. -/
def State.streaming (cfg : Config X) (s : State X) : Bool :=
  if cfg.mContinuous then s.buffer.opened else s.record.inSession || s.record = .returned

/-- How a statement changes what was put into the streams. -/
inductive Prints (cfg : Config X) (s : State X) (a : Action) (s' : State X) : Prop where
  | nothing (unopened : opens cfg s a = none) (none : puts cfg s a = [])
      (file : s'.cmdFile = s.cmdFile)
  | opened (path : String) (here : opens cfg s a = some path)
      (file : s'.cmdFile = Function.update s.cmdFile path (some (puts cfg s a)))
  | more (printing : s.printing cfg = true) (unopened : opens cfg s a = none)
      (file : s'.cmdFile = Function.update s.cmdFile s.mRecordingPath
        ((s.cmdFile s.mRecordingPath).map (· ++ puts cfg s a)))

/-- A dump puts its lines into a file that was empty before. -/
def Emptied (s : State X) : Prop := s.buffer.printing = true → s.cmdFile s.mRecordingPath = some []

theorem emptied_step {a : Action} (base : Base cfg s) (h : Emptied s) (move : Move cfg s a s') :
    Emptied s' := by
  have fixed (fixed : cfg.mContinuous = false) : s.buffer = .absent := by
    by_contra some
    exact absurd (fixed.symm.trans (base.buffered some).1) Bool.false_ne_true
  cases move with
  | caller m => cases m <;> exact h
  | record m =>
    cases m with
    | setupFixed pc mode | append r rest pc mode =>
      intro printing
      simp [fixed mode, BufferPc.printing] at printing
    | setupContinuous | joinBuffer => exact fun printing => by cases printing
    | _ => exact h
  | buffer m =>
    cases m with
    | openFile v pc => exact fun _ => Function.update_self ..
    | header v pc => exact fun _ => h (by simp [pc, BufferPc.printing])
    | _ => exact fun printing => by cases printing
  | tick t => exact h

theorem prints_move {paths : List String} {a : Action} (base : Base cfg s)
    (named : SessionFile cfg s paths) (emptied : Emptied s) (move : Move cfg s a s') :
    Prints cfg s a s' := by
  cases move with
  | caller m => cases m <;> exact .nothing rfl rfl rfl
  | record m =>
    cases m with
    | setupFixed pc fixed =>
      refine .opened cfg.mFilename (by simp [opens, fixed]) ?_
      simp [puts, fixed]
    | setupContinuous pc continuous =>
      exact .nothing (by simp [opens, continuous]) (by simp [puts, continuous]) rfl
    | append r rest pc fixed =>
      refine .more (by simp [State.printing, fixed, pc]) rfl ?_
      rw [(named.fixed fixed).1]
      simp [puts, pc, fixed, appendLine]
    | push r rest pc continuous free =>
      exact .nothing rfl (by simp [puts, pc, continuous]) rfl
    | _ => exact .nothing rfl rfl rfl
  | buffer m =>
    cases m with
    | openFile v pc => exact .opened _ rfl rfl
    | write v v' pc =>
      have continuous := (base.buffered (by simp [pc])).1
      refine .more (by simp [State.printing, continuous, pc, BufferPc.printing]) rfl ?_
      rw [emptied (by simp [pc, BufferPc.printing])]
      simp [puts, pc]
    | _ => exact .nothing rfl rfl rfl
  | tick t => exact .nothing rfl rfl rfl

theorem streaming_of_printing (printing : s.printing cfg = true) : s.streaming cfg = true := by
  cases mode : cfg.mContinuous with
  | true =>
    simp only [State.printing, State.streaming, mode, if_true] at printing ⊢
    cases pc : s.buffer <;> simp [pc, BufferPc.printing, BufferPc.opened] at printing ⊢
  | false => simp_all [State.printing, State.streaming]

theorem sole_of_streaming {paths : List String} (named : SessionFile cfg s paths)
    (streaming : s.streaming cfg = true) : paths = [s.mRecordingPath] := by
  cases mode : cfg.mContinuous with
  | true =>
    simp only [State.streaming, mode, if_true] at streaming
    exact named.opened streaming
  | false =>
    simp only [State.streaming, mode, Bool.false_eq_true, if_false, Bool.or_eq_true,
      decide_eq_true_eq] at streaming
    rcases streaming with inside | ended
    · rw [(named.fixed mode).1]
      exact (named.fixed mode).2 inside
    · exact named.returned ended

/-- Only an open begins to print. -/
theorem printing_step {a : Action} (move : Move cfg s a s') (unopened : opens cfg s a = none)
    (printing : s'.printing cfg = true) : s.printing cfg = true := by
  cases mode : cfg.mContinuous with
  | true =>
    simp only [State.printing, mode, if_true] at printing ⊢
    cases move with
    | caller m => cases m <;> exact printing
    | record m =>
      cases m with
      | setupContinuous | joinBuffer => cases printing
      | _ => exact printing
    | buffer m =>
      cases m with
      | openFile v pc => cases unopened
      | header v pc => rw [pc]; rfl
      | _ => cases printing
    | tick t => exact printing
  | false =>
    simp only [State.printing, mode, Bool.false_eq_true, if_false] at printing ⊢
    cases move with
    | caller m => cases m <;> first | exact printing | cases printing
    | record m =>
      cases m with
      | setupFixed pc fixed => simp [opens, fixed] at unopened
      | setupContinuous pc continuous => exact absurd (mode.symm.trans continuous) Bool.false_ne_true
      | clear | stamp => cases printing
      | _ => simp [*]
    | buffer m => cases m <;> exact printing
    | tick t => exact printing

/-- Only the wait for its end leaves a thread without its stream. -/
theorem streaming_step {a : Action} (base : Base cfg s) (move : Move cfg s a s')
    (busy : a.joins = false) (streaming : s.streaming cfg = true) : s'.streaming cfg = true := by
  cases mode : cfg.mContinuous with
  | true =>
    simp only [State.streaming, mode, if_true] at streaming ⊢
    have inside := (base.buffered (by rintro pc; simp [pc, BufferPc.opened] at streaming)).2
    cases move with
    | caller m => cases m <;> exact streaming
    | record m =>
      cases m with
      | setupContinuous pc => simp [pc] at inside
      | joinBuffer => cases busy
      | _ => exact streaming
    | buffer m =>
      cases m with
      | openFile | header | write => rfl
      | _ => simp [*, BufferPc.opened] at streaming
    | tick t => exact streaming
  | false =>
    simp only [State.streaming, mode, Bool.false_eq_true, if_false, Bool.or_eq_true,
      decide_eq_true_eq] at streaming ⊢
    cases move with
    | caller m =>
      cases m with
      | spawn pc free =>
        have absent : s.record = .absent := by
          by_contra some
          simpa [free] using base.joinable.mpr some
        simp [absent] at streaming
      | stopJoin | destroyJoin => cases busy
      | _ => exact streaming
    | record m =>
      cases m with
      | clear pc | stamp pc | setupFixed pc | setupContinuous pc => simp [pc] at streaming
      | joinBuffer => cases busy
      | loadStop | elapsed => exact .inr (by simp [Config.exitLoop, mode])
      | select o left pc =>
        cases o with
        | timeout => exact .inl rfl
        | error => exact .inr (by simp [afterSelect, Config.exitLoop, mode])
        | ready fds => exact .inl (resume_inSession _)
      | _ => simp_all [State.note]
    | buffer m => cases m <;> exact streaming
    | tick t => exact streaming

theorem opens_move {paths : List String} {path : String} {a : Action} (base : Base cfg s)
    (named : SessionFile cfg s paths) (move : Move cfg s a s') (here : opens cfg s a = some path) :
    paths = [] ∧ s.streaming cfg = false ∧ s'.streaming cfg = true ∧ s.record ≠ .absent := by
  cases move with
  | caller m => cases m <;> cases here
  | record m =>
    cases m with
    | setupFixed pc fixed =>
      refine ⟨named.preparing (by simp [pc, RecordPc.preparing]), ?_, ?_, by simp [pc]⟩
      · simp [State.streaming, fixed, pc]
      · simp [State.streaming, fixed]
    | setupContinuous pc continuous => simp [opens, continuous] at here
    | _ => cases here
  | buffer m =>
    cases m with
    | openFile v pc =>
      obtain ⟨continuous, inside⟩ := base.buffered (by simp [pc])
      refine ⟨named.unopened (by simp [pc, BufferPc.unopened]), ?_, ?_, ?_⟩
      · simp [State.streaming, continuous, pc, BufferPc.opened]
      · simp [State.streaming, continuous, BufferPc.opened]
      · rintro absent
        simp [absent] at inside
    | _ => cases here
  | tick t => cases here

end Statements

/-- The recorder and its disk, where a file knows by which session it was opened. `opened` is what the
last session has opened, with the results. -/
structure OnDisk (X : Type) where
  recorder : State X
  disk : Stream.Disk String Nat Char
  session : Nat
  opened : List (String × Bool)

namespace OnDisk

/-- A statement comes with the result of its `open()`, if it makes one. -/
inductive Action where
  | recorder (a : Recorder.Action) (success : Bool)
  | sync (n : Nat)
  | fail (rest : List Char)
  -- the thread that has ended destroys its `cmd_file`
  | close
  deriving DecidableEq

def initial (cfg : Config X) (xkb : Option X) (now : Nat) (old : String → Option (List Char)) :
    OnDisk X where
  recorder := Recorder.initial cfg xkb now
  disk := ⟨fun path => (old path).map fun text => ⟨0, text, true⟩, .closed⟩
  session := 0
  opened := []

def after (cfg : Config X) (t : OnDisk X) (a : Recorder.Action) (success : Bool) (s : State X) :
    OnDisk X where
  recorder := s
  disk := (match opens cfg t.recorder a with
    | some path => t.disk.openFile path t.session success
    | none => t.disk).put (fileText (puts cfg t.recorder a))
  session := if starts t.recorder a then t.session + 1 else t.session
  opened := if starts t.recorder a then []
    else t.opened ++ (opens cfg t.recorder a).toList.map fun path => (path, success)

def step (cfg : Config X) (t : OnDisk X) : Action → Option (OnDisk X)
  | .recorder a success =>
    if a.joins && t.disk.isOpen then none
    else (Recorder.step cfg t.recorder a).map (t.after cfg a success)
  | .sync n => if t.disk.isOpen then some { t with disk := t.disk.sync n } else none
  | .fail rest => if t.disk.isOpen then some { t with disk := t.disk.fail rest } else none
  | .close =>
    if t.disk.isOpen ∧ (t.recorder.record = .returned ∨ t.recorder.buffer = .finished) then
      some { t with disk := t.disk.close }
    else none

/-- What an action does. -/
inductive Move (cfg : Config X) (t : OnDisk X) : Action → OnDisk X → Prop where
  | recorder (a : Recorder.Action) (success : Bool) (s' : State X)
      (joined : a.joins = true → t.disk.out = .closed) (move : Recorder.Move cfg t.recorder a s') :
      Move cfg t (.recorder a success) (t.after cfg a success s')
  | sync (n : Nat) (path : String) (out : t.disk.OpenAt path) :
      Move cfg t (.sync n) { t with disk := t.disk.sync n }
  | fail (rest : List Char) (path : String) (out : t.disk.OpenAt path) :
      Move cfg t (.fail rest) { t with disk := t.disk.fail rest }
  | close (path : String) (out : t.disk.OpenAt path)
      (ended : t.recorder.record = .returned ∨ t.recorder.buffer = .finished) :
      Move cfg t .close { t with disk := t.disk.close }

variable {t t' : OnDisk X}

theorem step_move {a : Action} (h : step cfg t a = some t') : Move cfg t a t' := by
  cases a with
  | recorder a success =>
    simp only [step] at h
    split at h
    · cases h
    · rename_i waits
      obtain ⟨s', stepped, rfl⟩ := Option.map_eq_some_iff.mp h
      refine .recorder a success s' (fun joins => ?_) (Recorder.step_move stepped).2
      simpa [joins, Stream.Disk.isOpen_false] using waits
  | sync n =>
    obtain ⟨out, same⟩ := Option.ite_none_right_eq_some.mp h
    cases same
    obtain ⟨path, out⟩ := Stream.Disk.isOpen_true.mp out
    exact .sync n path out
  | fail rest =>
    obtain ⟨out, same⟩ := Option.ite_none_right_eq_some.mp h
    cases same
    obtain ⟨path, out⟩ := Stream.Disk.isOpen_true.mp out
    exact .fail rest path out
  | close =>
    obtain ⟨⟨out, ended⟩, same⟩ := Option.ite_none_right_eq_some.mp h
    cases same
    obtain ⟨path, out⟩ := Stream.Disk.isOpen_true.mp out
    exact .close path out ended

/-- The statements of the recorder among the actions. -/
def Action.statement : Action → Option Recorder.Action
  | .recorder a _ => some a
  | _ => none

/-- The recorder runs as it does without its disk. -/
theorem recorder_run {as : List Action} (h : run (step cfg) t as = some t') :
    run (Recorder.step cfg) t.recorder (as.filterMap Action.statement) = some t'.recorder := by
  have project : ∃ s, run (Recorder.step cfg) t.recorder (as.filterMap Action.statement) = some s ∧
      t'.recorder = s := by
    refine run_project (fun t s => t.recorder = s) h rfl ?_ ?_
    · rintro t a t' s stepped other rfl
      cases step_move stepped with
      | recorder => cases other
      | _ => rfl
    · rintro t a t' s b stepped own rfl
      cases a with
      | recorder a success =>
        cases own
        simp only [step] at stepped
        split at stepped
        · cases stepped
        · obtain ⟨s', moved, rfl⟩ := Option.map_eq_some_iff.mp stepped
          exact ⟨s', moved, rfl⟩
      | _ => cases own
  obtain ⟨s, runs, rfl⟩ := project
  exact runs

/-- What the streams, the files and the members of the recorder know of each other. -/
structure Saved (cfg : Config X) (t : OnDisk X) : Prop where
  base : Base cfg t.recorder
  named : SessionFile cfg t.recorder (t.opened.map Prod.fst)
  emptied : Emptied t.recorder
  streams : ∀ path, t.disk.OpenAt path →
    (path, true) ∈ t.opened ∧ t.recorder.streaming cfg = true
  own : ∀ path, (path, true) ∈ t.opened → t.disk.owner path = some t.session
  told : ∀ path text, (path, true) ∈ t.opened → t.disk.given path = some text →
    (∃ lines, t.recorder.cmdFile path = some lines ∧ text = fileText lines) ∧
    (t.recorder.printing cfg = true → t.disk.OpenAt path)
  owners : ∀ path n, t.disk.owner path = some n →
    n ≤ t.session ∧ (n = t.session → n ≠ 0 → (path, true) ∈ t.opened)
  counted : t.recorder.record ≠ .absent → t.session ≠ 0

theorem saved_initial (xkb : Option X) (now : Nat) (old : String → Option (List Char)) :
    Saved cfg (initial cfg xkb now old) := by
  refine ⟨base_initial xkb now, sessionFile_initial xkb now, ?_, ?_, ?_, ?_, ?_, ?_⟩
  · exact fun printing => by cases printing
  · rintro path ⟨held, out⟩
    cases out
  · rintro path ⟨⟩
  · rintro path text ⟨⟩
  · intro path n owner
    simp only [initial, Stream.Disk.owner, Option.map_map, Option.map_eq_some_iff] at owner
    obtain ⟨text, -, rfl⟩ := owner
    exact ⟨le_rfl, fun _ some => absurd rfl some⟩
  · exact fun some => absurd rfl some

theorem started_step {a : Recorder.Action} {s : State X} (move : Recorder.Move cfg t.recorder a s)
    (starts : starts t.recorder a = false) (some : s.record ≠ .absent) : t.recorder.record ≠ .absent := by
  cases move with
  | caller m =>
    cases m with
    | spawn pc free => simp [Recorder.starts, free] at starts
    | _ => first | exact some | exact absurd rfl some
  | record m => cases m <;> simp [*]
  | buffer m => cases m <;> exact some
  | tick t => exact some

theorem sessionOpens_eq (a : Recorder.Action) (success : Bool) (s : State X) :
    ((t.after cfg a success s).opened).map Prod.fst =
      sessionOpens cfg t.recorder a (t.opened.map Prod.fst) := by
  by_cases spawn : a = .caller .spawn ∧ t.recorder.mRecorderThread = false
  · simp [after, sessionOpens, starts, spawn]
  · simp only [after, sessionOpens, starts, decide_eq_true_eq, if_neg spawn, List.map_append]
    simp [Function.comp_def]

/-- A spawn begins a new session. -/
theorem saved_spawn {s : State X} {success : Bool} (h : Saved cfg t)
    (free : t.recorder.mRecorderThread = false)
    (move : Recorder.Move cfg t.recorder (.caller .spawn) s) :
    Saved cfg (t.after cfg (.caller .spawn) success s) := by
  have absent : t.recorder.record = .absent := by
    by_contra some
    simpa [free] using h.base.joinable.mpr some
  have unbuffered := h.base.buffer_absent (by simp [absent])
  have named := sessionFile_step h.base h.named move
  rw [← sessionOpens_eq] at named
  have disk : (t.after cfg (.caller .spawn) success s).disk = t.disk := Stream.Disk.put_nil
  have opened : (t.after cfg (.caller .spawn) success s).opened = [] := by
    simp [after, starts, free]
  have session : (t.after cfg (.caller .spawn) success s).session = t.session + 1 := by
    simp [after, starts, free]
  have idle : t.recorder.streaming cfg = false := by
    simp [State.streaming, absent, unbuffered, BufferPc.opened]
  refine ⟨base_step h.base move, named, emptied_step h.base h.emptied move, ?_, ?_, ?_, ?_, ?_⟩
  · intro path out
    rw [disk] at out
    exact absurd (idle.symm.trans (h.streams path out).2) Bool.false_ne_true
  · intro path inside
    simp [opened] at inside
  · intro path text inside
    simp [opened] at inside
  · intro path n owner
    rw [disk] at owner
    have le := (h.owners path n owner).1
    rw [session]
    exact ⟨by omega, fun same => by omega⟩
  · rw [session]
    exact fun _ => Nat.succ_ne_zero _

section Statement

variable {a : Recorder.Action} {s : State X} {success : Bool}

/-- What the statements but a spawn have in common. -/
structure Stays (cfg : Config X) (t : OnDisk X) (a : Recorder.Action) (s : State X) : Prop where
  starts : starts t.recorder a = false
  joined : a.joins = true → t.disk.out = .closed
  move : Recorder.Move cfg t.recorder a s

theorem Stays.kept (success : Bool) (stays : Stays cfg t a s) (h : Saved cfg t) :
    Base cfg s ∧ SessionFile cfg s ((t.after cfg a success s).opened.map Prod.fst) ∧ Emptied s ∧
      (t.after cfg a success s).session = t.session ∧ (s.record ≠ .absent → t.session ≠ 0) := by
  refine ⟨base_step h.base stays.move, ?_, emptied_step h.base h.emptied stays.move, ?_, ?_⟩
  · rw [sessionOpens_eq]
    exact sessionFile_step h.base h.named stays.move
  · simp [after, stays.starts]
  · exact fun some => h.counted (started_step stays.move stays.starts some)

theorem Stays.streaming (stays : Stays cfg t a s) (h : Saved cfg t) {path : String}
    (out : t.disk.OpenAt path) : s.streaming cfg = true := by
  refine streaming_step h.base stays.move ?_ (h.streams path out).2
  by_contra joins
  exact Stream.Disk.not_openAt (stays.joined (by simpa using joins)) out

theorem saved_nothing (stays : Stays cfg t a s) (h : Saved cfg t)
    (unopened : opens cfg t.recorder a = none) (none : puts cfg t.recorder a = [])
    (file : s.cmdFile = t.recorder.cmdFile) : Saved cfg (t.after cfg a success s) := by
  obtain ⟨base, named, emptied, session, counted⟩ := stays.kept success h
  have disk : (t.after cfg a success s).disk = t.disk := by
    simp [after, unopened, none, fileText]
  have opened : (t.after cfg a success s).opened = t.opened := by
    simp [after, stays.starts, unopened]
  refine ⟨base, named, emptied, ?_, ?_, ?_, ?_, session ▸ counted⟩
  · rw [disk, opened]
    exact fun path out => ⟨(h.streams path out).1, stays.streaming h out⟩
  · rw [disk, opened, session]
    exact h.own
  · rw [disk, opened]
    intro path text inside given
    obtain ⟨told, printing⟩ := h.told path text inside given
    exact ⟨file ▸ told, fun prints => printing (printing_step stays.move unopened prints)⟩
  · rw [disk, opened, session]
    exact h.owners

theorem saved_more (stays : Stays cfg t a s) (h : Saved cfg t)
    (printing : t.recorder.printing cfg = true) (unopened : opens cfg t.recorder a = none)
    (file : s.cmdFile = Function.update t.recorder.cmdFile t.recorder.mRecordingPath
      ((t.recorder.cmdFile t.recorder.mRecordingPath).map (· ++ puts cfg t.recorder a))) :
    Saved cfg (t.after cfg a success s) := by
  obtain ⟨base, named, emptied, session, counted⟩ := stays.kept success h
  have sole := sole_of_streaming h.named (streaming_of_printing printing)
  have own : ∀ path, (path, true) ∈ t.opened → path = t.recorder.mRecordingPath := by
    intro path inside
    have among : path ∈ t.opened.map Prod.fst := List.mem_map_of_mem inside
    simpa [sole] using among
  have disk : (t.after cfg a success s).disk = t.disk.put (fileText (puts cfg t.recorder a)) := by
    simp [after, unopened]
  have opened : (t.after cfg a success s).opened = t.opened := by
    simp [after, stays.starts, unopened]
  refine ⟨base, named, emptied, ?_, ?_, ?_, ?_, session ▸ counted⟩
  · rw [disk, opened]
    intro path out
    rw [Stream.Disk.openAt_put] at out
    exact ⟨(h.streams path out).1, stays.streaming h out⟩
  · rw [disk, opened, session, Stream.Disk.owner_put]
    exact h.own
  · rw [disk, opened]
    intro path text inside given
    obtain rfl := own path inside
    rw [Stream.Disk.openAt_put]
    cases before : t.disk.given t.recorder.mRecordingPath with
    | none =>
      rw [Stream.Disk.given_put_none before] at given
      cases given
    | some old =>
      obtain ⟨⟨lines, line, rfl⟩, out⟩ := h.told _ old inside before
      have out := out printing
      rw [Stream.Disk.given_put out, Function.update_self, before] at given
      refine ⟨⟨lines ++ puts cfg t.recorder a, ?_, ?_⟩, fun _ => out⟩
      · show s.cmdFile _ = _
        rw [file, Function.update_self, line]
        rfl
      · rw [← Option.some.inj given, fileText, fileText, fileText, List.flatMap_append]
  · rw [disk, opened, session, Stream.Disk.owner_put]
    exact h.owners

/-- Each session has one stream, so none is open before. -/
theorem closed_of_opens (h : Saved cfg t) (move : Recorder.Move cfg t.recorder a s) {path : String}
    (here : opens cfg t.recorder a = some path) : t.disk.out = .closed := by
  rw [← Stream.Disk.isOpen_false, Bool.eq_false_iff]
  intro out
  obtain ⟨path, out⟩ := Stream.Disk.isOpen_true.mp out
  have idle := (opens_move h.base h.named move here).2.1
  exact absurd (idle.symm.trans (h.streams path out).2) Bool.false_ne_true

theorem saved_opened (stays : Stays cfg t a s) (h : Saved cfg t) {path : String}
    (here : opens cfg t.recorder a = some path)
    (file : s.cmdFile =
      Function.update t.recorder.cmdFile path (some (puts cfg t.recorder a))) :
    Saved cfg (t.after cfg a success s) := by
  obtain ⟨base, named, emptied, session, counted⟩ := stays.kept success h
  obtain ⟨fresh, -, streaming, some⟩ := opens_move h.base h.named stays.move here
  have closed := closed_of_opens h stays.move here
  have unopened : t.opened = [] := List.map_eq_nil_iff.mp fresh
  have disk : (t.after cfg a success s).disk =
      (t.disk.openFile path t.session success).put (fileText (puts cfg t.recorder a)) := by
    simp [after, here]
  have opened : (t.after cfg a success s).opened = [(path, success)] := by
    simp [after, stays.starts, here, unopened]
  have started := h.counted some
  cases success with
  | false =>
    have same : (t.after cfg a false s).disk = t.disk := by
      rw [disk, Stream.Disk.openFile_false, Stream.Disk.put_closed closed]
    refine ⟨base, named, emptied, ?_, ?_, ?_, ?_, session ▸ counted⟩
    · rw [same]
      exact fun path out => absurd out (Stream.Disk.not_openAt closed)
    · simp [opened]
    · simp [opened]
    · rw [same, session]
      intro p n owner
      obtain ⟨le, last⟩ := h.owners p n owner
      refine ⟨le, fun same some => ?_⟩
      have none := last same some
      simp [unopened] at none
  | true =>
    have out := t.disk.openAt_openFile path t.session
    refine ⟨base, named, emptied, ?_, ?_, ?_, ?_, session ▸ counted⟩
    · rw [disk, opened]
      intro p there
      cases ((Stream.Disk.openAt_put _).mp there).unique out
      exact ⟨List.mem_singleton_self _, streaming⟩
    · rw [disk, opened, session, Stream.Disk.owner_put, Stream.Disk.owner_openFile]
      intro p inside
      cases List.mem_singleton.mp inside
      exact Function.update_self ..
    · rw [disk, opened]
      intro p text inside given
      cases List.mem_singleton.mp inside
      rw [Stream.Disk.given_put out, Function.update_self, Stream.Disk.given_openFile closed,
        Function.update_self] at given
      refine ⟨⟨puts cfg t.recorder a, ?_, (Option.some.inj given).symm⟩, fun _ => ?_⟩
      · show s.cmdFile _ = _
        rw [file, Function.update_self]
      · exact (Stream.Disk.openAt_put _).mpr out
    · rw [disk, opened, session, Stream.Disk.owner_put, Stream.Disk.owner_openFile]
      intro p n owner
      by_cases own : p = path
      · subst own
        rw [Function.update_self] at owner
        cases Option.some.inj owner
        exact ⟨le_rfl, fun _ _ => List.mem_singleton_self _⟩
      · rw [Function.update_of_ne own] at owner
        obtain ⟨le, last⟩ := h.owners p n owner
        refine ⟨le, fun same some => ?_⟩
        have none := last same some
        simp [unopened] at none

end Statement

theorem printing_ended (base : Base cfg t.recorder)
    (ended : t.recorder.record = .returned ∨ t.recorder.buffer = .finished) :
    t.recorder.printing cfg = false := by
  rcases ended with returned | finished
  · simp [State.printing, returned, base.buffer_absent, BufferPc.printing]
  · simp [State.printing, finished, (base.buffered (by simp [finished])).1, BufferPc.printing]

theorem saved_step {a : Action} (h : Saved cfg t) (move : Move cfg t a t') : Saved cfg t' := by
  cases move with
  | recorder a success s joined move =>
    cases begins : starts t.recorder a with
    | true =>
      obtain ⟨rfl, free⟩ := of_decide_eq_true begins
      exact saved_spawn h free move
    | false =>
      have stays : Stays cfg t a s := ⟨begins, joined, move⟩
      cases prints_move h.base h.named h.emptied move with
      | nothing unopened none file => exact saved_nothing stays h unopened none file
      | opened path here file => exact saved_opened stays h here file
      | more printing unopened file => exact saved_more stays h printing unopened file
  | sync n path out =>
    refine ⟨h.base, h.named, h.emptied, ?_, ?_, ?_, ?_, h.counted⟩
    · simpa using h.streams
    · simpa using h.own
    · simpa [Stream.Disk.given_sync] using h.told
    · simpa using h.owners
  | fail rest path out =>
    have closed := Stream.Disk.out_fail (d := t.disk) rest
    refine ⟨h.base, h.named, h.emptied, ?_, ?_, ?_, ?_, h.counted⟩
    · exact fun p there => absurd there (Stream.Disk.not_openAt closed)
    · simpa using h.own
    · intro p text inside given
      rw [Stream.Disk.given_fail out] at given
      by_cases own : p = path
      · subst own
        rw [Function.update_self] at given
        cases given
      · rw [Function.update_of_ne own] at given
        refine ⟨(h.told p text inside given).1, fun printing => ?_⟩
        exact absurd (((h.told p text inside given).2 printing).unique out) own
    · simpa using h.owners
  | close path out ended =>
    have closed := Stream.Disk.out_close (d := t.disk)
    refine ⟨h.base, h.named, h.emptied, ?_, ?_, ?_, ?_, h.counted⟩
    · exact fun p there => absurd there (Stream.Disk.not_openAt closed)
    · simpa using h.own
    · intro p text inside given
      rw [Stream.Disk.given_close] at given
      refine ⟨(h.told p text inside given).1, fun printing => ?_⟩
      exact absurd ((printing_ended h.base ended).symm.trans printing) Bool.false_ne_true
    · simpa using h.owners

theorem saved_run {xkb : Option X} {now : Nat} {old : String → Option (List Char)} {as : List Action}
    (reached : run (step cfg) (initial cfg xkb now old) as = some t) : Saved cfg t :=
  run_invariant reached (saved_initial xkb now old) fun _ _ _ _ stepped saved =>
    saved_step saved (step_move stepped)

end OnDisk

end TestRunner.Recorder
