import TestRunner.Recorder.Moves

/-! Which threads exist together, and what a live or ended thread says about `m_stop`. -/
namespace TestRunner.Recorder

variable {X : Type} {cfg : Config X} {s s' : State X}

def RecordPc.inSession : RecordPc → Bool
  | .absent | .clearing | .stamping | .setup | .returned => false
  | _ => true

/-- The buffer thread has left its loop, having seen `m_stop` set. -/
def BufferPc.sawStop : BufferPc → Bool
  | .absent | .loop | .wait | .now | .trim _ => false
  | _ => true

/-- The points at which reading a device, `select` or the loop condition can leave the
thread. -/
def RecordPc.routine : RecordPc → Bool
  | .loop | .read _ | .escFlag _ | .keysym _ _ | .joinBuffer | .returned => true
  | _ => false

section ProgramCounters

@[simp] theorem CallerPc.holdsStop_values :
    CallerPc.idle.holdsStop = false ∧ CallerPc.spawning.holdsStop = false ∧
    CallerPc.stopping.holdsStop = true ∧ CallerPc.joining.holdsStop = false ∧
    CallerPc.unrefKeymap.holdsStop = false ∧ CallerPc.unrefCtx.holdsStop = false ∧
    CallerPc.checkJoinable.holdsStop = false ∧ CallerPc.destroyFlag.holdsStop = false ∧
    CallerPc.destroyStopping.holdsStop = true ∧ CallerPc.destroyJoining.holdsStop = false ∧
    CallerPc.closing.holdsStop = false ∧ CallerPc.destroyed.holdsStop = false := by decide

@[simp] theorem RecordPc.holdsStop_values :
    RecordPc.absent.holdsStop = false ∧ RecordPc.clearing.holdsStop = false ∧
    RecordPc.stamping.holdsStop = true ∧ RecordPc.setup.holdsStop = false ∧
    RecordPc.loop.holdsStop = false ∧ RecordPc.elapsedNow.holdsStop = false ∧
    (∀ t, (RecordPc.elapsedCheck t).holdsStop = false) ∧ RecordPc.select.holdsStop = false ∧
    (∀ l, (RecordPc.read l).holdsStop = false) ∧ (∀ l, (RecordPc.escFlag l).holdsStop = false) ∧
    (∀ l, (RecordPc.escTime l).holdsStop = true) ∧ (∀ e l, (RecordPc.keysym e l).holdsStop = false) ∧
    (∀ e k l, (RecordPc.updateKey e k l).holdsStop = false) ∧ (∀ r l, (RecordPc.store r l).holdsStop = false) ∧
    RecordPc.joinBuffer.holdsStop = false ∧ RecordPc.returned.holdsStop = false := by
  simp only [RecordPc.holdsStop, implies_true, and_self]

@[simp] theorem RecordPc.inSession_values :
    RecordPc.absent.inSession = false ∧ RecordPc.clearing.inSession = false ∧
    RecordPc.stamping.inSession = false ∧ RecordPc.setup.inSession = false ∧
    RecordPc.loop.inSession = true ∧ RecordPc.elapsedNow.inSession = true ∧
    (∀ t, (RecordPc.elapsedCheck t).inSession = true) ∧ RecordPc.select.inSession = true ∧
    (∀ l, (RecordPc.read l).inSession = true) ∧ (∀ l, (RecordPc.escFlag l).inSession = true) ∧
    (∀ l, (RecordPc.escTime l).inSession = true) ∧ (∀ e l, (RecordPc.keysym e l).inSession = true) ∧
    (∀ e k l, (RecordPc.updateKey e k l).inSession = true) ∧ (∀ r l, (RecordPc.store r l).inSession = true) ∧
    RecordPc.joinBuffer.inSession = true ∧ RecordPc.returned.inSession = false := by
  simp only [RecordPc.inSession, implies_true, and_self]

variable (cfg) (o : SelectOutcome) (now : Int) (d : InDevice) (ev : InputEvent) (todo : List InDevice)

theorem resume_routine : (resume todo).routine = true := by cases todo <;> rfl

theorem received_routine : (received now d ev todo).routine = true := by
  unfold received; split <;> rfl

theorem exitLoop_routine : cfg.exitLoop.routine = true := by
  unfold Config.exitLoop; split <;> rfl

theorem afterSelect_routine : (afterSelect cfg s o).routine = true := by
  cases o
  · rfl
  · exact exitLoop_routine cfg
  · exact resume_routine _

theorem holdsStop_of_routine {pc : RecordPc} (h : pc.routine = true) : pc.holdsStop = false := by
  cases pc <;> simp_all [RecordPc.routine]

theorem ne_absent_of_routine {pc : RecordPc} (h : pc.routine = true) : pc ≠ .absent := by
  rintro rfl; cases h

theorem ne_setup_of_routine {pc : RecordPc} (h : pc.routine = true) : pc ≠ .setup := by
  rintro rfl; cases h

theorem ne_setup_of_inSession {pc : RecordPc} (h : pc.inSession = true) : pc ≠ .setup := by
  rintro rfl; cases h

theorem ne_returned_of_inSession {pc : RecordPc} (h : pc.inSession = true) : pc ≠ .returned := by
  rintro rfl; cases h

@[simp] theorem resume_holdsStop : (resume todo).holdsStop = false :=
  holdsStop_of_routine (resume_routine todo)
@[simp] theorem received_holdsStop : (received now d ev todo).holdsStop = false :=
  holdsStop_of_routine (received_routine now d ev todo)
@[simp] theorem exitLoop_holdsStop : cfg.exitLoop.holdsStop = false :=
  holdsStop_of_routine (exitLoop_routine cfg)
@[simp] theorem afterSelect_holdsStop : (afterSelect cfg s o).holdsStop = false :=
  holdsStop_of_routine (afterSelect_routine cfg o)

@[simp] theorem resume_ne_absent : resume todo ≠ .absent :=
  ne_absent_of_routine (resume_routine todo)
@[simp] theorem received_ne_absent : received now d ev todo ≠ .absent :=
  ne_absent_of_routine (received_routine now d ev todo)
@[simp] theorem exitLoop_ne_absent : cfg.exitLoop ≠ .absent :=
  ne_absent_of_routine (exitLoop_routine cfg)
@[simp] theorem afterSelect_ne_absent : afterSelect cfg s o ≠ .absent :=
  ne_absent_of_routine (afterSelect_routine cfg o)

@[simp] theorem resume_inSession : (resume todo).inSession = true := by cases todo <;> rfl

@[simp] theorem received_inSession : (received now d ev todo).inSession = true := by
  unfold received; split <;> rfl

@[simp] theorem exitLoop_inSession : cfg.exitLoop.inSession = cfg.mContinuous := by
  cases mode : cfg.mContinuous <;> simp [Config.exitLoop, RecordPc.inSession, mode]

theorem afterSelect_inSession (continuous : cfg.mContinuous = true) :
    (afterSelect cfg s o).inSession = true := by
  cases o
  · rfl
  · simp [afterSelect, continuous]
  · exact resume_inSession _

end ProgramCounters

/-- The handle is joinable as long as a thread runs or waits to be joined, the buffer
thread lives inside a continuous session, and one thread at most holds `stop_mtx`. -/
structure Shape (cfg : Config X) (s : State X) : Prop where
  joinable : s.mRecorderThread = true ↔ s.record ≠ .absent
  buffered : s.buffer ≠ .absent → cfg.mContinuous = true ∧ s.record.inSession = true
  exclusive : s.caller.holdsStop = true → s.record.holdsStop = false
  unjoined : s.caller = .destroyFlag ∨ s.caller = .destroyStopping ∨ s.caller = .destroyJoining →
    s.mRecorderThread = true

theorem Shape.buffer_absent (h : Shape cfg s) (pc : s.record.inSession = false) :
    s.buffer = .absent := by
  by_contra some
  simpa [pc] using (h.buffered some).2

theorem shape_initial (xkb : Option X) (now : Nat) : Shape cfg (initial cfg xkb now) := by
  constructor <;> simp [initial]

theorem shape_step {a : Action} (h : Shape cfg s) (move : Move cfg s a s') : Shape cfg s' := by
  obtain ⟨joinable, buffered, exclusive, unjoined⟩ := h
  cases move with
  | caller m => cases m <;> constructor <;> simp_all [State.note, State.stopMtxFree]
  | record m =>
    cases m with
    | select o left pc =>
      refine ⟨by simp_all, fun buffer => ?_, by simp, unjoined⟩
      exact ⟨(buffered buffer).1, afterSelect_inSession cfg o (buffered buffer).1⟩
    | _ => constructor <;> simp_all [State.note, State.stopMtxFree]
  | buffer m => cases m <;> constructor <;> simp_all [State.note]
  | tick t => exact ⟨joinable, buffered, exclusive, unjoined⟩

/-- `m_stop` stays set once the buffer thread has seen it: only a new session clears it. -/
theorem sawStop_step {a : Action} (shape : Shape cfg s) (move : Move cfg s a s')
    (h : s.buffer.sawStop = true → s.mStop = true) : s'.buffer.sawStop = true → s'.mStop = true := by
  cases move with
  | caller m => cases m <;> simp_all [State.note]
  | record m =>
    cases m with
    | clear pc free =>
      simp [shape.buffer_absent (by simp [pc]), BufferPc.sawStop]
    | _ => simp_all [State.note, BufferPc.sawStop]
  | buffer m => cases m <;> simp_all [State.note, BufferPc.sawStop]
  | tick t => exact h

structure Base (cfg : Config X) (s : State X) : Prop extends Shape cfg s where
  sawStop : s.buffer.sawStop = true → s.mStop = true

theorem base_initial (xkb : Option X) (now : Nat) : Base cfg (initial cfg xkb now) :=
  ⟨shape_initial xkb now, fun h => by simp [initial, BufferPc.sawStop] at h⟩

theorem base_step {a : Action} (h : Base cfg s) (move : Move cfg s a s') : Base cfg s' :=
  ⟨shape_step h.toShape move, sawStop_step h.toShape move h.sawStop⟩

end TestRunner.Recorder
