import TestRunner.Recorder.Buffer

/-! What a clock that never goes back says about the times a recorder has taken. -/
namespace TestRunner.Recorder

variable {X : Type} {cfg : Config X} {s s' : State X}

def Forward (s : State X) : Action → Prop
  | .tick t => s.clock ≤ t
  | _ => True

instance (s : State X) : (a : Action) → Decidable (Forward s a)
  | .tick t => inferInstanceAs (Decidable (s.clock ≤ t))
  | .caller _ | .record _ | .buffer _ => isTrue trivial

def RecordPc.taken : RecordPc → Option Int
  | .keysym e _ | .updateKey e _ _ => some e.tsAbs
  | .store r _ => some r.tsAbs
  | _ => none

@[simp] theorem RecordPc.taken_values :
    RecordPc.absent.taken = none ∧ RecordPc.clearing.taken = none ∧ RecordPc.stamping.taken = none ∧
    RecordPc.setup.taken = none ∧ RecordPc.loop.taken = none ∧ RecordPc.elapsedNow.taken = none ∧
    (∀ t, (RecordPc.elapsedCheck t).taken = none) ∧ RecordPc.select.taken = none ∧
    (∀ l, (RecordPc.read l).taken = none) ∧ (∀ l, (RecordPc.escFlag l).taken = none) ∧
    (∀ l, (RecordPc.escTime l).taken = none) ∧ (∀ e l, (RecordPc.keysym e l).taken = some e.tsAbs) ∧
    (∀ e k l, (RecordPc.updateKey e k l).taken = some e.tsAbs) ∧
    (∀ r l, (RecordPc.store r l).taken = some r.tsAbs) ∧
    RecordPc.joinBuffer.taken = none ∧ RecordPc.returned.taken = none := by
  simp only [RecordPc.taken, implies_true, and_self]

@[simp] theorem taken_resume (todo : List InDevice) : (resume todo).taken = none := by
  cases todo <;> rfl

@[simp] theorem taken_exitLoop (cfg : Config X) : cfg.exitLoop.taken = none := by
  unfold Config.exitLoop
  split <;> rfl

@[simp] theorem taken_afterSelect (cfg : Config X) (s : State X) (o : SelectOutcome) :
    (afterSelect cfg s o).taken = none := by
  cases o with
  | timeout => rfl
  | error => exact taken_exitLoop cfg
  | ready fds => exact taken_resume _

theorem taken_received {now t : Int} {d : InDevice} {ev : InputEvent} {todo : List InDevice}
    (h : (received now d ev todo).taken = some t) : t = now := by
  unfold received at h
  split at h
  · cases h
  · exact (Option.some.inj h).symm

@[simp] theorem Reading.record_tsAbs (e : Reading) (sym : UInt32) :
    (e.record sym).tsAbs = e.tsAbs := rfl

/-- Every time stamp that was taken is past, and the records come in their order. -/
structure Timely (s : State X) : Prop where
  start : s.mStartTime ≤ s.clock
  stop : s.mStopTime ≤ s.clock
  pushed : ∀ r ∈ pushed s.log, r.tsAbs ≤ s.clock
  taken : ∀ t ∈ s.record.taken, t ≤ s.clock ∧ ∀ r ∈ Recorder.pushed s.log, r.tsAbs ≤ t
  ordered : Window.Ordered InputRecord.tsAbs (Recorder.pushed s.log)

theorem timely_initial (xkb : Option X) (now : Nat) : Timely (initial cfg xkb now) := by
  constructor <;> simp [initial, Recorder.pushed, RecordPc.taken, Window.Ordered]

theorem timely_frame (h : Timely s) (clock : s'.clock = s.clock)
    (start : s'.mStartTime ≤ s.clock) (stop : s'.mStopTime ≤ s.clock)
    (log : pushed s'.log = pushed s.log) (taken : ∀ t ∈ s'.record.taken, t ∈ s.record.taken) :
    Timely s' := by
  refine ⟨clock ▸ start, clock ▸ stop, ?_, ?_, ?_⟩
  · rw [log, clock]
    exact h.pushed
  · rw [log, clock]
    exact fun t ht => h.taken t (taken t ht)
  · rw [log]
    exact h.ordered

theorem timely_step {a : Action} (forward : Forward s a) (move : Move cfg s a s')
    (h : Timely s) : Timely s' := by
  cases move with
  | caller m =>
    cases m <;> refine timely_frame h rfl ?_ ?_ ?_ ?_ <;>
      simp [State.note, Entry.pushed?, h.start, h.stop]
  | record m =>
    cases m with
    | push r rest pc =>
      obtain ⟨past, last⟩ := h.taken r.tsAbs (by simp [pc])
      refine ⟨h.start, h.stop, ?_, by simp [State.note], ?_⟩
      · simp only [State.note, pushed_append, pushed_one, List.mem_append]
        rintro q (old | new)
        · exact h.pushed q old
        · cases List.mem_singleton.mp new
          exact past
      · simpa [State.note, Entry.pushed?, Window.Ordered, List.pairwise_append] using
          ⟨h.ordered, last⟩
    | readEvent d rest ev pc =>
      refine ⟨h.start, h.stop, h.pushed, fun t ht => ?_, h.ordered⟩
      obtain rfl := taken_received ht
      exact ⟨le_refl _, h.pushed⟩
    | _ =>
      refine timely_frame h rfl ?_ ?_ ?_ ?_ <;>
        simp [State.note, Entry.pushed?, h.start, h.stop, *]
  | buffer m =>
    cases m <;> refine timely_frame h rfl h.start h.stop ?_ (fun _ ht => ht) <;>
      simp [State.note, Entry.pushed?]
  | tick t =>
    have forward : s.clock ≤ t := forward
    refine ⟨h.start.trans forward, h.stop.trans forward,
      fun r mem => (h.pushed r mem).trans forward, ?_, h.ordered⟩
    exact fun u hu => ⟨(h.taken u hu).1.trans forward, (h.taken u hu).2⟩

/-- Records of the running session are not older than its start. -/
structure SinceStart (s : State X) : Prop where
  pushed : ∀ r ∈ pushed (sinceStart s.log), s.mStartTime ≤ r.tsAbs
  taken : ∀ t ∈ s.record.taken, s.mStartTime ≤ t

theorem sinceStart_frame (h : SinceStart s) (start : s'.mStartTime = s.mStartTime)
    (log : pushed (sinceStart s'.log) = pushed (sinceStart s.log))
    (taken : ∀ t ∈ s'.record.taken, t ∈ s.record.taken) : SinceStart s' := by
  refine ⟨?_, ?_⟩
  · rw [log, start]
    exact h.pushed
  · rw [start]
    exact fun t ht => h.taken t (taken t ht)

theorem sinceStart_step {a : Action} (timely : Timely s) (move : Move cfg s a s')
    (h : SinceStart s) : SinceStart s' := by
  cases move with
  | caller m =>
    cases m <;> refine sinceStart_frame h rfl ?_ ?_ <;> simp [State.note, Entry.pushed?]
  | record m =>
    cases m with
    | push r rest pc =>
      have recent := h.taken r.tsAbs (by simp [pc])
      refine ⟨?_, by simp [State.note]⟩
      simp only [State.note, sinceStart_append, pushed_append, pushed_one, List.mem_append]
      rintro q (old | new)
      · exact h.pushed q old
      · cases List.mem_singleton.mp new
        exact recent
    | readEvent d rest ev pc =>
      refine ⟨h.pushed, fun t ht => ?_⟩
      obtain rfl := taken_received ht
      exact timely.start
    | stamp pc => exact ⟨by simp [State.note, pushed], by simp [State.note]⟩
    | _ => refine sinceStart_frame h rfl ?_ ?_ <;> simp [State.note, Entry.pushed?, *]
  | buffer m =>
    cases m <;> refine sinceStart_frame h rfl ?_ (fun _ ht => ht) <;>
      simp [State.note, Entry.pushed?]
  | tick t => exact ⟨h.pushed, h.taken⟩

structure CutsPast (s : State X) : Prop where
  past : ∀ v, .finalTrimmed v ∈ s.log → v ≤ s.mStopTime
  read : ∀ v ∈ s.buffer.firstRead, v ≤ s.mStopTime ∧ ∀ u, .finalTrimmed u ∈ s.log → u ≤ v

theorem cutsPast_later (h : CutsPast s) (later : s.mStopTime ≤ s'.mStopTime)
    (buffer : s'.buffer = s.buffer)
    (log : ∀ v, .finalTrimmed v ∈ s'.log → .finalTrimmed v ∈ s.log) : CutsPast s' := by
  refine ⟨fun v mem => (h.past v (log v mem)).trans later, fun v hv => ?_⟩
  obtain ⟨le, cuts⟩ := h.read v (buffer ▸ hv)
  exact ⟨le.trans later, fun u mem => cuts u (log u mem)⟩

theorem cutsPast_step {a : Action} (timely : Timely s) (move : Move cfg s a s')
    (h : CutsPast s) : CutsPast s' := by
  cases move with
  | caller m =>
    cases m with
    | stopTime | destroyTime =>
      exact cutsPast_later h timely.stop rfl (fun v mem => by simpa [State.note] using mem)
    | _ => exact cutsPast_later h (le_refl _) rfl (fun v mem => by simpa [State.note] using mem)
  | record m =>
    cases m with
    | escTime =>
      exact cutsPast_later h timely.stop rfl (fun v mem => by simpa [State.note] using mem)
    | setupContinuous | joinBuffer => exact ⟨h.past, fun v hv => by cases hv⟩
    | _ => exact cutsPast_later h (le_refl _) rfl (fun v mem => by simpa [State.note] using mem)
  | buffer m =>
    obtain ⟨past, read⟩ := h
    cases m with
    | readStop pc => exact ⟨past, fun v hv => by cases hv; exact ⟨le_refl _, past⟩⟩
    | finalTrim v pc =>
      obtain ⟨le, cuts⟩ := read v (by simp [pc, BufferPc.firstRead])
      refine ⟨?_, fun u hu => ?_⟩
      · simp only [State.note, List.mem_append, List.mem_singleton, Entry.finalTrimmed.injEq]
        rintro u (old | rfl)
        · exact past u old
        · exact le
      · cases hu
        simp only [State.note, List.mem_append, List.mem_singleton, Entry.finalTrimmed.injEq]
        refine ⟨le, ?_⟩
        rintro u (old | rfl)
        · exact cuts u old
        · exact le_refl _
    | openFile v pc => exact ⟨past, fun u hu => read u (by simpa [pc, BufferPc.firstRead] using hu)⟩
    | header v pc => exact ⟨past, fun u hu => read u (by simpa [pc, BufferPc.firstRead] using hu)⟩
    | trim => exact ⟨by simpa [State.note] using past, fun v hv => by cases hv⟩
    | _ => exact ⟨past, fun v hv => by cases hv⟩
  | tick t => exact ⟨h.past, h.read⟩

/-- The stop time of a dump that has done its final trim and holds `buf_mtx`. -/
def BufferPc.dumping : BufferPc → Option Int
  | .openFile v | .header v | .write v _ => some v
  | _ => none

theorem dumping_of_free (free : s.bufMtxFree = true) : s.buffer.dumping = none := by
  cases buffer : s.buffer <;> simp_all [BufferPc.dumping, State.bufMtxFree, BufferPc.holdsBuf]

def Cutoff (cfg : Config X) (s : State X) : Prop :=
  ∀ v ∈ s.buffer.dumping, ∀ r ∈ s.mInputBuf, v - cfg.length ≤ r.tsAbs

theorem cutoff_step {a : Action} (ordered : Window.Ordered InputRecord.tsAbs s.mInputBuf)
    (move : Move cfg s a s') (h : Cutoff cfg s) : Cutoff cfg s' := by
  cases move with
  | caller m => cases m <;> exact h
  | record m =>
    cases m with
    | push r rest pc continuous free =>
      intro v hv
      cases (dumping_of_free free).symm.trans hv
    | setupContinuous | joinBuffer => exact fun v hv => by cases hv
    | _ => exact h
  | buffer m =>
    cases m with
    | finalTrim v pc =>
      rintro u hu r mem
      cases hu
      simp only [State.note, finalTrim_eq_cut, Window.cut_eq_since _ ordered] at mem
      simpa [Window.since] using (List.mem_filter.mp mem).2
    | openFile v pc => exact fun u hu => h u (by simpa [pc, BufferPc.dumping] using hu)
    | header v pc => exact fun u hu => h u (by simpa [pc, BufferPc.dumping] using hu)
    | _ => exact fun v hv => by cases hv
  | tick t => exact h

/-- What a run keeps whose clock does not go back. -/
structure Clocked (cfg : Config X) (s : State X) : Prop where
  timely : Timely s
  sinceStart : SinceStart s
  cutsPast : CutsPast s
  suffix : s.mInputBuf <:+ pushed s.log
  cutoff : Cutoff cfg s

theorem Clocked.ordered (h : Clocked cfg s) : Window.Ordered InputRecord.tsAbs s.mInputBuf :=
  h.timely.ordered.suffix _ h.suffix

theorem clocked_initial (xkb : Option X) (now : Nat) : Clocked cfg (initial cfg xkb now) where
  timely := timely_initial xkb now
  sinceStart := by constructor <;> simp [initial, sinceStart, pushed]
  cutsPast := by constructor <;> simp [initial, BufferPc.firstRead]
  suffix := List.nil_suffix
  cutoff := by simp [Cutoff, initial, BufferPc.dumping]

theorem clocked_step {a : Action} (forward : Forward s a) (move : Move cfg s a s')
    (h : Clocked cfg s) : Clocked cfg s' where
  timely := timely_step forward move h.timely
  sinceStart := sinceStart_step h.timely move h.sinceStart
  cutsPast := cutsPast_step h.timely move h.cutsPast
  suffix := buffer_suffix_step move h.suffix
  cutoff := cutoff_step h.ordered move h.cutoff

theorem clocked_run {xkb : Option X} {now : Nat} {as : List Action}
    (h : run (step cfg) (initial cfg xkb now) as = some s)
    (forward : Along (step cfg) Forward (initial cfg xkb now) as) : Clocked cfg s :=
  Reaches.invariant ⟨as, h, forward⟩ (clocked_initial xkb now)
    fun _ _ _ forward move inv => clocked_step forward (step_move move).2 inv

end TestRunner.Recorder
