import TestRunner.Recorder.Lifecycle

/-! The files that a session opens, by the place of its threads, and what is left when these have
ended. -/
namespace TestRunner.Recorder

variable {X : Type} {cfg : Config X} {s s' : State X} {paths : List String}

/-- The file that a statement opens, or tries to. -/
def opens (cfg : Config X) (s : State X) : Action → Option String
  | .record .setup => if cfg.mContinuous then none else some cfg.mFilename
  | .buffer .openFile => some (cfg.recordingPath s.clock)
  | _ => none

/-- The files opened since the last spawn, after a statement. A spawn with a joinable handle
terminates the program and starts nothing. -/
def sessionOpens (cfg : Config X) (s : State X) (a : Action) (paths : List String) : List String :=
  if a = .caller .spawn ∧ s.mRecorderThread = false then [] else paths ++ (opens cfg s a).toList

def RecordPc.preparing : RecordPc → Bool
  | .clearing | .stamping | .setup => true
  | _ => false

/-- The buffer thread has not come to its file. -/
def BufferPc.unopened : BufferPc → Bool
  | .absent | .header _ | .write _ _ | .finished => false
  | _ => true

def BufferPc.opened : BufferPc → Bool
  | .header _ | .write _ _ | .finished => true
  | _ => false

/-- What a session has opened, by the place of its threads. -/
structure SessionFile (cfg : Config X) (s : State X) (paths : List String) : Prop where
  preparing : s.record.preparing = true → paths = []
  unopened : s.buffer.unopened = true → paths = []
  opened : s.buffer.opened = true → paths = [s.mRecordingPath]
  fixed : cfg.mContinuous = false → s.mRecordingPath = cfg.mFilename ∧
    (s.record.inSession = true → paths = [cfg.mFilename])
  returned : s.record = .returned → paths = [s.mRecordingPath]

theorem sessionFile_initial (xkb : Option X) (now : Nat) :
    SessionFile cfg (initial cfg xkb now) [] := by
  constructor <;> simp +contextual [initial, RecordPc.preparing, BufferPc.unopened, BufferPc.opened]

theorem SessionFile.keep (h : SessionFile cfg s paths) (path : s'.mRecordingPath = s.mRecordingPath)
    (preparing : s'.record.preparing = true → s.record.preparing = true)
    (unopened : s'.buffer.unopened = true → s.buffer.unopened = true)
    (opened : s'.buffer.opened = true → s.buffer.opened = true)
    (inSession : s'.record.inSession = true → s.record.inSession = true)
    (returned : s'.record = .returned → paths = [s.mRecordingPath]) : SessionFile cfg s' paths := by
  constructor
  · exact fun pc => h.preparing (preparing pc)
  · exact fun pc => h.unopened (unopened pc)
  · exact fun pc => path ▸ h.opened (opened pc)
  · exact fun fixed => ⟨path ▸ (h.fixed fixed).1, fun pc => (h.fixed fixed).2 (inSession pc)⟩
  · exact fun pc => path ▸ returned pc

theorem RecordPc.not_preparing_of_inSession {pc : RecordPc} (h : pc.inSession = true) :
    pc.preparing = false := by
  cases pc <;> first | rfl | cases h

theorem RecordPc.not_preparing_of_routine {pc : RecordPc} (h : pc.routine = true) :
    pc.preparing = false := by
  cases pc <;> first | rfl | cases h

/-- Inside the loop: only a fixed-length session ends at once. -/
theorem SessionFile.loop (h : SessionFile cfg s paths) (path : s'.mRecordingPath = s.mRecordingPath)
    (buffer : s'.buffer = s.buffer) (inSession : s.record.inSession = true)
    (preparing : s'.record.preparing = false)
    (leaves : s'.record = .returned → cfg.mContinuous = false) : SessionFile cfg s' paths := by
  refine h.keep path (by simp [preparing]) (by simp [buffer]) (by simp [buffer]) (fun _ => inSession) ?_
  intro ended
  have fixed := h.fixed (leaves ended)
  rw [fixed.1]
  exact fixed.2 inSession

theorem sessionFile_caller {a : CallerAction} (base : Base cfg s) (h : SessionFile cfg s paths)
    (m : CallerMove cfg s a s') : SessionFile cfg s' (sessionOpens cfg s (.caller a) paths) := by
  have same : a ≠ .spawn → sessionOpens cfg s (.caller a) paths = paths := by
    intro other
    simp [sessionOpens, opens, other]
  cases m with
  | spawn pc free =>
    have absent : s.record = .absent := by
      by_contra some
      simpa [free] using base.joinable.mpr some
    have unbuffered := base.buffer_absent (by simp [absent])
    have emptied : sessionOpens cfg s (.caller .spawn) paths = [] := if_pos ⟨rfl, free⟩
    rw [emptied]
    constructor
    · exact fun _ => rfl
    · exact fun _ => rfl
    · intro pc
      simp [State.note, unbuffered, BufferPc.opened] at pc
    · exact fun fixed => ⟨(h.fixed fixed).1, by simp [State.note]⟩
    · intro pc
      simp [State.note] at pc
  | terminate pc joinable =>
    have kept : sessionOpens cfg s (.caller .spawn) paths = paths := by
      simp [sessionOpens, opens, joinable]
    rw [kept]
    exact h.keep rfl id id id id h.returned
  | stopJoin pc joinable ended =>
    rw [same (by simp)]
    exact h.keep rfl (by simp [State.note, RecordPc.preparing]) id id (by simp [State.note])
      (by simp [State.note])
  | destroyJoin pc ended =>
    rw [same (by simp)]
    exact h.keep rfl (by simp [State.note, RecordPc.preparing]) id id (by simp [State.note])
      (by simp [State.note])
  | _ =>
    rw [same (by simp)]
    exact h.keep rfl id id id id h.returned

theorem exitLoop_returned (ended : cfg.exitLoop = .returned) : cfg.mContinuous = false := by
  cases mode : cfg.mContinuous with
  | false => rfl
  | true => simp [Config.exitLoop, mode] at ended

theorem afterSelect_returned {o : SelectOutcome} (ended : afterSelect cfg s o = .returned) :
    cfg.mContinuous = false := by
  cases o with
  | timeout => cases ended
  | error => exact exitLoop_returned ended
  | ready fds => exact absurd ended (ne_returned_of_inSession (resume_inSession _))

theorem sessionFile_record {a : RecordAction} (base : Base cfg s) (h : SessionFile cfg s paths)
    (m : RecordMove cfg s a s') : SessionFile cfg s' (sessionOpens cfg s (.record a) paths) := by
  have same : a ≠ .setup → sessionOpens cfg s (.record a) paths = paths := by
    intro other
    cases a <;> first | exact List.append_nil paths | exact absurd rfl other
  cases m with
  | clear pc free =>
    rw [same (by simp)]
    exact h.keep rfl (by simp [pc, RecordPc.preparing]) id id (by simp) (by simp)
  | stamp pc =>
    rw [same (by simp)]
    exact h.keep rfl (by simp [pc, RecordPc.preparing]) id id (by simp [State.note])
      (by simp [State.note])
  | setupContinuous pc continuous =>
    have none : sessionOpens cfg s (.record .setup) paths = [] := by
      simp [sessionOpens, opens, continuous, h.preparing (by simp [pc, RecordPc.preparing])]
    rw [none]
    refine ⟨fun _ => rfl, fun _ => rfl, ?_, fun fixed => ?_, ?_⟩
    · simp [BufferPc.opened]
    · exact absurd (fixed.symm.trans continuous) Bool.false_ne_true
    · simp
  | setupFixed pc fixed =>
    have one : sessionOpens cfg s (.record .setup) paths = [cfg.mFilename] := by
      simp [sessionOpens, opens, fixed, h.preparing (by simp [pc, RecordPc.preparing])]
    have unbuffered := base.buffer_absent (by simp [pc])
    rw [one]
    refine ⟨by simp [RecordPc.preparing], ?_, ?_, fun _ => ⟨(h.fixed fixed).1, fun _ => rfl⟩, by simp⟩
    · intro pc
      simp [unbuffered, BufferPc.unopened] at pc
    · intro pc
      simp [unbuffered, BufferPc.opened] at pc
  | joinBuffer pc ended =>
    rw [same (by simp)]
    have named := h.opened (by simp [ended, BufferPc.opened])
    refine h.keep rfl ?_ ?_ ?_ ?_ fun _ => named
    all_goals simp [RecordPc.preparing, BufferPc.unopened, BufferPc.opened]
  | loadStop pc stop =>
    rw [same (by simp)]
    exact h.loop rfl rfl (by simp [pc]) (RecordPc.not_preparing_of_routine (exitLoop_routine cfg))
      exitLoop_returned
  | elapsed now pc free late =>
    rw [same (by simp)]
    exact h.loop rfl rfl (by simp [pc]) (RecordPc.not_preparing_of_routine (exitLoop_routine cfg))
      exitLoop_returned
  | select o left pc =>
    rw [same (by simp)]
    exact h.loop rfl rfl (by simp [pc]) (RecordPc.not_preparing_of_routine (afterSelect_routine cfg o))
      afterSelect_returned
  | readEvent d rest ev pc =>
    rw [same (by simp)]
    exact h.loop rfl rfl (by simp [pc])
      (RecordPc.not_preparing_of_routine (received_routine ..))
      (fun ended => absurd ended (ne_returned_of_inSession (received_inSession ..)))
  | _ =>
    rw [same (by simp)]
    refine h.loop rfl rfl (by simp [*]) (RecordPc.not_preparing_of_inSession ?_) fun ended =>
      absurd ended (ne_returned_of_inSession ?_)
    all_goals simp [*, State.note]

theorem sessionFile_buffer {a : BufferAction} (base : Base cfg s) (h : SessionFile cfg s paths)
    (m : BufferMove cfg s a s') : SessionFile cfg s' (sessionOpens cfg s (.buffer a) paths) := by
  have same : a ≠ .openFile → sessionOpens cfg s (.buffer a) paths = paths := by
    intro other
    cases a <;> first | exact List.append_nil paths | exact absurd rfl other
  cases m with
  | openFile v pc =>
    obtain ⟨continuous, inSession⟩ := base.buffered (by simp [pc])
    have one : sessionOpens cfg s (.buffer .openFile) paths = [cfg.recordingPath s.clock] := by
      simp [sessionOpens, opens, h.unopened (by simp [pc, BufferPc.unopened])]
    rw [one]
    refine ⟨?_, by simp [BufferPc.unopened], fun _ => rfl, fun fixed => ?_, ?_⟩
    · intro pc
      exact absurd (RecordPc.not_preparing_of_inSession inSession) (by simp_all)
    · exact absurd (fixed.symm.trans continuous) Bool.false_ne_true
    · intro ended
      exact absurd ended (ne_returned_of_inSession inSession)
  | _ =>
    rw [same (by simp)]
    refine h.keep rfl id ?_ ?_ id h.returned
    all_goals simp [*, State.note, BufferPc.unopened, BufferPc.opened]

theorem sessionFile_step {a : Action} (base : Base cfg s) (h : SessionFile cfg s paths)
    (move : Move cfg s a s') : SessionFile cfg s' (sessionOpens cfg s a paths) := by
  cases move with
  | caller m => exact sessionFile_caller base h m
  | record m => exact sessionFile_record base h m
  | buffer m => exact sessionFile_buffer base h m
  | tick t =>
    have same : sessionOpens cfg s (.tick t) paths = paths := by simp [sessionOpens, opens]
    rw [same]
    exact h.keep rfl id id id id h.returned

/-- Without a new session nothing is left that could push or write. -/
theorem quiet_step {a : Action} (record : s.record = .absent) (buffer : s.buffer = .absent)
    (other : a ≠ .caller .spawn) (move : Move cfg s a s') :
    s'.mInputBuf = s.mInputBuf ∧ s'.cmdFile = s.cmdFile ∧ s'.record = .absent ∧ s'.buffer = .absent := by
  cases move with
  | caller m =>
    cases m with
    | spawn pc free => exact absurd rfl other
    | stopJoin pc joinable ended => simp [record] at ended
    | destroyJoin pc ended => simp [record] at ended
    | _ => exact ⟨rfl, rfl, record, buffer⟩
  | record m => cases m <;> simp_all
  | buffer m => cases m <;> simp_all
  | tick t => exact ⟨rfl, rfl, record, buffer⟩

end TestRunner.Recorder
